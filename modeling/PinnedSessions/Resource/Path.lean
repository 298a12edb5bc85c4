/-! # Paths

A path is text; its components are what stands between the slashes, and a path that starts with a
slash is absolute. Joining keeps both texts as they are and puts one slash between them where it is
needed.
-/

namespace PinnedSessions.Path

/-- Whether a path starts at the root of the file system. -/
def isAbsolute (p : String) : Bool := p.toList.head? == some '/'

/-- A resource below a directory: a slash is added only if the directory is not empty and does not
end in one, and an absolute resource stands for itself. -/
def join (directory resource : String) : String :=
  if isAbsolute resource then resource
  else
    let d := directory.toList
    if d.isEmpty || d.getLast? == some '/' then directory ++ resource
    else directory ++ "/" ++ resource

/-- What stands between the slashes, empty components included. -/
def components (p : String) : List String := (p.toList.splitOn '/').map String.ofList

end PinnedSessions.Path
