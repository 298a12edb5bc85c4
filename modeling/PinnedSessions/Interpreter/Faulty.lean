import PinnedSessions.Interpreter.Memory

/-! # An interpreter that fails on demand

A `FaultyInterpreter` hands calls to an in-memory interpreter. Any method whose answers can be
faults may be told to fail: its calls are then answered with the given fault and the in-memory
interpreter never sees them. An interpreter may also do without the four methods that configure a
context; it answers their calls with success and does nothing.
-/

namespace PinnedSessions

/-- The methods of an interpreter. -/
inductive Method where
  | acquire | run | probe | runFile | apply | read | readBytes | bind | useResolver | teardown
  | releaseObject | release | extendSearchPath | shareModules | hookImports | redirectOutput
deriving DecidableEq, Repr

namespace Method

/-- The method of a call. -/
def ofCall : Call → Method
  | .acquire _ => .acquire
  | .run .. => .run
  | .probe .. => .probe
  | .runFile .. => .runFile
  | .apply .. => .apply
  | .read .. => .read
  | .readBytes .. => .readBytes
  | .bind .. => .bind
  | .useResolver .. => .useResolver
  | .teardown _ => .teardown
  | .releaseObject .. => .releaseObject
  | .release _ => .release
  | .extendSearchPath .. => .extendSearchPath
  | .shareModules .. => .shareModules
  | .hookImports .. => .hookImports
  | .redirectOutput _ => .redirectOutput

/-- Whether the method configures a context, and an interpreter may do without it. -/
def isOptional : Method → Bool
  | .extendSearchPath | .shareModules | .hookImports | .redirectOutput => true
  | _ => false

end Method

/-- The answer of a method that an interpreter does without. -/
def Call.accept? : (c : Call) → Option c.Reply
  | .extendSearchPath .. | .shareModules .. | .hookImports .. | .redirectOutput _ => some (.ok ())
  | _ => none

/-- An in-memory interpreter and the faults it is told to give. -/
structure FaultyInterpreter where
  memory : MemoryInterpreter := .new
  faults : Table Method GuestFault := .empty
  /-- Whether the four configuring methods are there. -/
  configures : Bool := true

namespace FaultyInterpreter

/-- The answer to a call. -/
def answer (files : Files) (c : Call) (f : FaultyInterpreter) : c.Reply × FaultyInterpreter :=
  match if f.configures then none else c.accept? with
  | some reply => (reply, f)
  | none =>
    match f.faults.find? (Method.ofCall c) with
    | some e => (c.refuse e, f)
    | none =>
      let (reply, memory) := MemoryInterpreter.answer files c f.memory
      (reply, { f with memory := memory })

instance : Interpreter FaultyInterpreter := ⟨answer⟩

instance : Inhabited FaultyInterpreter := ⟨{}⟩

/-- Let a method fail from now on, or no longer. -/
def setFault (f : FaultyInterpreter) (m : Method) (e : Option GuestFault) : FaultyInterpreter :=
  match e with
  | some e => { f with faults := f.faults.insert m e }
  | none => { f with faults := f.faults.erase m }

end FaultyInterpreter

end PinnedSessions
