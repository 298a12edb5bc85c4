import PinnedSessions.Resource.Files

/-! # Resource resolvers

A resolver finds resources below its root directories: the roots are tried in order and the first
candidate that exists wins. An absolute resource is not found. A resolver is an object with an
identity of its own; two resolvers with the same name and roots are still different objects.
-/

namespace PinnedSessions

/-- A resolver that searches root directories. -/
structure Resolver where
  /-- Which object this is. -/
  identity : String
  name : String
  roots : List String
deriving DecidableEq, Repr, Inhabited

namespace Resolver

/-- Whether two resolvers are the same object. -/
def same (r s : Resolver) : Bool := r.identity == s.identity

/-- The first path to a resource that leads anywhere. -/
def search (r : Resolver) (present : String → Bool) (resource : String) : Option String :=
  if Path.isAbsolute resource then none
  else (r.roots.map fun root => Path.join root resource).find? present

/-- Where a resource is. -/
def resolve (r : Resolver) (files : Files) (resource : String) : Option String :=
  r.search files.pathExists resource

end Resolver

end PinnedSessions
