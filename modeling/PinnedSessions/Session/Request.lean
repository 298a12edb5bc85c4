import PinnedSessions.Session.Operations

/-! # Operations as data

`Request` lists what can be asked of an existing session, `Answer` what it answers, and
`Request.perform` carries one out. Runs of a host are lists of requests, and what holds of every run
is proved over this type.
-/

namespace PinnedSessions

/-- What can be asked of a session. -/
inductive Request where
  | start
  /-- Feed a line, or flush without one. -/
  | evaluate (line : Option String)
  | apply (name : String) (args : List Value) (kwargs : Option Kwargs)
  | runFile (path : String)
  | runFileWith (path : String) (resolver : Resolver)
  | useResolver (resolver : Resolver)
  | read (target : Target) (name : String)
  | readBytes (name : String)
  | bind (name : String) (source : Source) (x : source.Carrier)
  | switchMode (interactive : Bool)
  | close

/-- What a session answers. -/
inductive Answer where
  | done
  | outcome (o : Outcome)
  | value (v : Value)
  | bytes (bs : List UInt8)
deriving DecidableEq

namespace Request

variable {σ α : Type} [Interpreter σ]

/-- Tell the result of an operation. -/
def telling (op : Op σ α) (tell : α → Answer) : Op σ Answer := do
  let a ← op
  pure (tell a)

/-- An operation that has no result to tell. -/
def silent (op : Op σ Unit) : Op σ Answer := telling op fun _ => .done

/-- Carry a request out; a host value that was read is told as the guest value it injects. -/
def perform : Request → Op σ Answer
  | .start => silent Session.start
  | .evaluate line => telling (Session.evaluate line) .outcome
  | .apply name args kwargs => telling (Session.apply name args kwargs) .value
  | .runFile path => silent (Session.runFile path)
  | .runFileWith path resolver => silent (Session.runFileWith path resolver)
  | .useResolver resolver => silent (Session.useResolver resolver)
  | .read target name => telling (Session.read target name) fun x => .value (target.inject x)
  | .readBytes name => telling (Session.readBytes name) .bytes
  | .bind name source x => silent (Session.bind name source x)
  | .switchMode interactive => silent (Session.switchMode interactive)
  | .close => silent Session.close

end Request

end PinnedSessions
