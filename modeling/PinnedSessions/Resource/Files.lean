import PinnedSessions.Resource.Path
import PinnedSessions.Table

/-! # The files a program sees

`Files` lists the directories and regular files below the working directory, each under its path
from there. A path is looked up as an operating system does it: component by component, where `.`
and an empty component stay, `..` goes up, a name must be an entry of a directory, and every
component but the last, as well as the last one before a slash, must be a directory. Above the
working directory only the chain of its parents is known.

A name is at most 255 bytes long, a path less than 4096, and neither holds the null character.
-/

namespace PinnedSessions

/-- An entry of the file system. -/
inductive Entry where
  | directory
  | file (bytes : ByteArray)
deriving Inhabited

/-- The entries below the working directory, by the names on the way to them. -/
abbrev Files := Table (List String) Entry

/-- Where a path has led so far. -/
inductive Place where
  /-- An entry below the working directory, or that directory itself, innermost name first. -/
  | below (names : List String)
  /-- A parent of the working directory. -/
  | above

/-- Why a path leads nowhere. -/
inductive FileFault where
  | missing
  | notDirectory
  | isDirectory
  | nameTooLong
  | nullInPath
  /-- The content is not text. -/
  | notText
deriving DecidableEq, Repr

/-- The wording of a file fault. -/
def FileFault.message : FileFault → String
  | .missing => "No such file or directory (os error 2)"
  | .notDirectory => "Not a directory (os error 20)"
  | .isDirectory => "Is a directory (os error 21)"
  | .nameTooLong => "File name too long (os error 36)"
  | .nullInPath => "file name contained an unexpected NUL byte"
  | .notText => "stream did not contain valid UTF-8"

namespace Files

/-- The entry at a place. -/
def entryAt (files : Files) : Place → Option Entry
  | .above => some .directory
  | .below [] => some .directory
  | .below names => files.find? names.reverse

/-- One component on from a directory. -/
def descend (files : Files) (place : Place) (name : String) : Except FileFault Place :=
  if name = "" ∨ name = "." then .ok place
  else if name = ".." then
    match place with
    | .below (_ :: names) => .ok (.below names)
    | _ => .ok .above
  else if 255 < name.utf8ByteSize then .error .nameTooLong
  else
    match place with
    | .above => .error .missing
    | .below names =>
      if (files.find? (name :: names).reverse).isSome then .ok (.below (name :: names))
      else .error .missing

/-- Follow components; each must start from a directory. -/
def walk (files : Files) : Place → List String → Except FileFault Place
  | place, [] => .ok place
  | place, name :: names =>
    match files.entryAt place with
    | some .directory =>
      match files.descend place name with
      | .ok place => walk files place names
      | .error fault => .error fault
    | some (.file _) => .error .notDirectory
    | none => .error .missing

/-- Where a path starts and its components, for a path that can be followed at all. -/
def startOf (path : String) : Except FileFault (Place × List String) :=
  if path.toList.contains '\x00' then .error .nullInPath
  else if path = "" then .error .missing
  else if 4096 ≤ path.utf8ByteSize then .error .nameTooLong
  else .ok (if Path.isAbsolute path then .above else .below [], Path.components path)

/-- The entry that a path leads to. -/
def lookup (files : Files) (path : String) : Except FileFault Entry := do
  let (start, names) ← startOf path
  let place ← files.walk start names
  match files.entryAt place with
  | some entry => .ok entry
  | none => .error .missing

/-- Whether a path leads to an entry. -/
def pathExists (files : Files) (path : String) : Bool :=
  match files.lookup path with
  | .ok _ => true
  | .error _ => false

/-- Whether a path leads to a regular file. -/
def isFile (files : Files) (path : String) : Bool :=
  match files.lookup path with
  | .ok (.file _) => true
  | _ => false

/-- The text of the file that a path leads to. -/
def readText (files : Files) (path : String) : Except FileFault String :=
  match files.lookup path with
  | .error fault => .error fault
  | .ok .directory => .error .isDirectory
  | .ok (.file bytes) =>
    match String.fromUTF8? bytes with
    | some text => .ok text
    | none => .error .notText

/-! ### Building

A path under construction is followed from left to right, and a name that is missing on the way
becomes a directory: `a/../b` makes `a` as well as `b`.
-/

/-- One component on from a directory, which is made if its name is missing. -/
def enter (files : Files) (place : Place) (name : String) : Except FileFault (Files × Place) :=
  match files.descend place name with
  | .ok next =>
    match files.entryAt next with
    | some (.file _) => .error .notDirectory
    | _ => .ok (files, next)
  | .error fault =>
    match fault, place with
    | .missing, .below names =>
      .ok (files.insert (name :: names).reverse .directory, .below (name :: names))
    | _, _ => .error fault

/-- Follow components and make every missing directory. -/
def enterAll (files : Files) : Place → List String → Except FileFault (Files × Place)
  | place, [] => .ok (files, place)
  | place, name :: names =>
    match files.enter place name with
    | .ok (files, place) => enterAll files place names
    | .error fault => .error fault

/-- Add a directory by its path, and those on the way to it; the empty path adds none. -/
def makeDirectory (files : Files) (path : String) : Except FileFault Files :=
  if path = "" then .ok files
  else do
    let (start, names) ← startOf path
    let (files, _) ← files.enterAll start names
    pure files

/-- Put a file into a directory, in the place of one that is there under its name. -/
def putFile (files : Files) (place : Place) (name : String) (bytes : ByteArray) :
    Except FileFault Files :=
  match files.descend place name, place with
  | .error .missing, .below names => .ok (files.insert (name :: names).reverse (.file bytes))
  | .error fault, _ => .error fault
  | .ok next, _ =>
    match files.entryAt next, next with
    | some (.file _), .below names => .ok (files.insert names.reverse (.file bytes))
    | _, _ => .error .isDirectory

/-- Add a file by its path, and the directories on the way to it. -/
def writeFile (files : Files) (path : String) (bytes : ByteArray) : Except FileFault Files := do
  let (start, names) ← startOf path
  let (files, place) ← files.enterAll start names.dropLast
  files.putFile place (names.getLast?.getD "") bytes

end Files

end PinnedSessions
