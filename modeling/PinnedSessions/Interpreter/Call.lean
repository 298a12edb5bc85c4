import PinnedSessions.Failure
import PinnedSessions.Resource.Resolver
import PinnedSessions.Statement.Probe
import PinnedSessions.Table

/-! # Interpreters and the calls they answer

An interpreter is a machine that answers calls. A `Call` is one request across the boundary between
host and guest, `Call.Reply` is the type of its answer, and an interpreter with states `σ` gives for
every call and state an answer and a next state (`Interpreter.answer`). Calls that release
something, and the one that replaces the resolver, always succeed.

Every call but `acquire` names a context by the handle with which the interpreter answered an
`acquire`. A handle is never zero.

`Exchange` is one call together with who made it and the answer; the list of exchanges of a run is
what statements about calls talk about.
-/

namespace PinnedSessions

/-- A context inside an interpreter. -/
structure Handle where
  raw : UInt64
  ne_zero : raw ≠ 0
deriving DecidableEq

namespace Handle

/-- The handle with the smallest number: that of the first context of an interpreter. -/
def first : Handle := ⟨1, by decide⟩

/-- The handle with a given number, if that is not zero. -/
def ofRaw? (raw : UInt64) : Option Handle :=
  if h : raw ≠ 0 then some ⟨raw, h⟩ else none

/-- A handle in messages. -/
def display (ctx : Handle) : String := "ctx#" ++ Decimal.natText ctx.raw.toNat

@[simp] theorem ofRaw?_raw (ctx : Handle) : ofRaw? ctx.raw = some ctx := by
  simp [ofRaw?, ctx.ne_zero]

@[simp] theorem ofRaw?_zero : ofRaw? 0 = none := rfl

end Handle

/-- What a new context is to be. -/
structure ContextRequest where
  resolver : Option Resolver := none
  /-- Whether modules are shared with the main interpreter. -/
  sharesState : Bool := false
  isolated : Bool := false
deriving DecidableEq

/-- Keyword arguments: each key once, in the order in which the keys first came. -/
abbrev Kwargs := Table String Value

/-- A request to an interpreter. -/
inductive Call where
  /-- Create a context. -/
  | acquire (request : ContextRequest)
  /-- Run a text. -/
  | run (ctx : Handle) (source : String)
  /-- Tell whether a text is complete, without running it. -/
  | probe (ctx : Handle) (source : String)
  | runFile (ctx : Handle) (path : String)
  /-- Call a callable by its name. -/
  | apply (ctx : Handle) (name : String) (args : List Value) (kwargs : Option Kwargs)
  | read (ctx : Handle) (name : String) (kind : Kind)
  | readBytes (ctx : Handle) (name : String)
  | bind (ctx : Handle) (name : String) (value : Value)
  | useResolver (ctx : Handle) (resolver : Resolver)
  /-- Tear the modules of a context down, ahead of its release. -/
  | teardown (ctx : Handle)
  | releaseObject (ctx : Handle) (ref : ObjectRef)
  /-- End a context. -/
  | release (ctx : Handle)
  | extendSearchPath (ctx : Handle) (paths : List String)
  | shareModules (ctx : Handle) (modules : List String)
  | hookImports (ctx : Handle) (resolver : Option Resolver)
  | redirectOutput (ctx : Handle)

namespace Call

/-- The context that a call names. -/
def context? : Call → Option Handle
  | .acquire _ => none
  | .run ctx _ | .probe ctx _ | .runFile ctx _ | .apply ctx _ _ _ | .read ctx _ _ | .readBytes ctx _
  | .bind ctx _ _ | .useResolver ctx _ | .teardown ctx | .releaseObject ctx _ | .release ctx
  | .extendSearchPath ctx _ | .shareModules ctx _ | .hookImports ctx _ | .redirectOutput ctx =>
    some ctx

/-- What a call is answered with. -/
abbrev Reply : Call → Type
  | .acquire _ => Except GuestFault Handle
  | .run .. => Except GuestFault Unit
  | .probe .. => Except GuestFault Completeness
  | .runFile .. => Except GuestFault Unit
  | .apply .. => Except GuestFault Value
  | .read .. => Except GuestFault Value
  | .readBytes .. => Except GuestFault (List UInt8)
  | .bind .. => Except GuestFault Unit
  | .useResolver .. => Unit
  | .teardown _ => Except GuestFault Unit
  | .releaseObject .. => Unit
  | .release _ => Unit
  | .extendSearchPath .. => Except GuestFault Unit
  | .shareModules .. => Except GuestFault Unit
  | .hookImports .. => Except GuestFault Unit
  | .redirectOutput _ => Except GuestFault Unit

/-- The fault in an answer. -/
def fault? : (c : Call) → c.Reply → Option GuestFault
  | .acquire _, .error e | .run .., .error e | .probe .., .error e | .runFile .., .error e
  | .apply .., .error e | .read .., .error e | .readBytes .., .error e | .bind .., .error e
  | .teardown _, .error e | .extendSearchPath .., .error e | .shareModules .., .error e
  | .hookImports .., .error e | .redirectOutput _, .error e => some e
  | _, _ => none

/-- The answer that a call failed; calls that cannot fail succeed. -/
def refuse (e : GuestFault) : (c : Call) → c.Reply
  | .acquire _ | .run .. | .probe .. | .runFile .. | .apply .. | .read .. | .readBytes .. | .bind ..
  | .teardown _ | .extendSearchPath .. | .shareModules .. | .hookImports .. | .redirectOutput _ =>
    .error e
  | .useResolver .. | .releaseObject .. | .release _ => ()

end Call

/-- A machine that answers calls; what files there are is given with each call. -/
class Interpreter (σ : Type) where
  answer : Files → (c : Call) → σ → c.Reply × σ

/-- One call, who made it, and the answer. -/
structure Exchange where
  thread : Thread
  call : Call
  reply : call.Reply

/-- The fault with which a call was answered. -/
def Exchange.fault? (x : Exchange) : Option GuestFault := x.call.fault? x.reply

/-- An interpreter together with the exchanges that it has answered, first one first. -/
structure Line (σ : Type) where
  interpreter : σ
  exchanges : List Exchange := []

/-- Make a call. -/
def Line.call {σ : Type} [Interpreter σ] (files : Files) (thread : Thread) (c : Call)
    (line : Line σ) : c.Reply × Line σ :=
  let (reply, interpreter) := Interpreter.answer files c line.interpreter
  (reply, ⟨interpreter, line.exchanges ++ [⟨thread, c, reply⟩]⟩)

end PinnedSessions
