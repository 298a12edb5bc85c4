import PinnedSessions.Resource.Resolver

/-! # Session settings

What a session is created with. The default is a direct, isolated session that is initialized at
once. A `Choice` sets one option; the two list options grow at the end.
-/

namespace PinnedSessions

/-- What a session is created with. -/
structure Settings where
  /-- Hold incomplete statements back until they are finished. -/
  interactive : Bool := false
  /-- Directories added to the guest's module search path. -/
  searchPath : List String := []
  /-- Modules shared with the main interpreter. -/
  sharedModules : List String := []
  /-- Send the guest's output to the host's streams. -/
  redirectOutput : Bool := false
  /-- Give the session an interpreter state of its own. -/
  isolated : Bool := true
  /-- Create the session without a context. -/
  postponed : Bool := false
  /-- The resolver handed to the interpreter; none selects the interpreter's own. -/
  resolver : Option Resolver := none
deriving DecidableEq, Repr, Inhabited

namespace Settings

/-- Every option at its default. -/
def default : Settings := {}

/-- One option to set. -/
inductive Choice where
  | interactive (on : Bool)
  | searchDirectory (path : String)
  | sharedModule (name : String)
  | redirectOutput (on : Bool)
  | isolated (on : Bool)
  | postponed (on : Bool)
  | resolver (resolver : Resolver)

/-- Set one option. -/
def choose (c : Settings) : Choice → Settings
  | .interactive on => { c with interactive := on }
  | .searchDirectory path => { c with searchPath := c.searchPath ++ [path] }
  | .sharedModule name => { c with sharedModules := c.sharedModules ++ [name] }
  | .redirectOutput on => { c with redirectOutput := on }
  | .isolated on => { c with isolated := on }
  | .postponed on => { c with postponed := on }
  | .resolver resolver => { c with resolver := some resolver }

/-- The default with options set in turn. -/
def build (choices : List Choice) : Settings := choices.foldl choose default

/-- Whether any modules are shared with the main interpreter. -/
def sharesModules (c : Settings) : Bool := !c.sharedModules.isEmpty

theorem sharesModules_eq (c : Settings) : c.sharesModules = decide (c.sharedModules ≠ []) := by
  rw [sharesModules]
  cases c.sharedModules <;> rfl

end Settings

end PinnedSessions
