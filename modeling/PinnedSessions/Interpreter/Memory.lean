import PinnedSessions.Guest.Display
import PinnedSessions.Interpreter.Call
import PinnedSessions.Statement.Script

/-! # The in-memory interpreter

An interpreter that knows nothing but the little language of `Statement.Script` and keeps everything
that crosses the boundary, so that it can be looked at afterwards.

* `GuestContext` is what one live context has seen; a released context is gone.
* `Ledger` is what the interpreter keeps for all contexts: the live ones, what was released and in
  which order, the calls that begin and end something, and two switches that make calls fail.
* Handles are numbered from one; the counter is a 64-bit word, and the number zero that comes after
  the last one is refused.
* `MemoryInterpreter` adds callables. A callable takes the arguments and the ledger, so it may
  itself use the interpreter, and answers with a value or a fault.
-/

namespace PinnedSessions

/-- What one live context has seen. -/
structure GuestContext where
  /-- Texts that were run, in order. -/
  texts : List String := []
  vars : Variables := .empty
  /-- Name and kind of every binding from the host, in order. -/
  bindings : List (String × Kind) := []
  /-- The name of the resolver in use. -/
  resolver : Option String := none
  sharesState : Bool := false
  isolated : Bool := false
  searchPath : List String := []
  sharedModules : List String := []
  importsHooked : Bool := false
  outputRedirected : Bool := false
  tornDown : Bool := false

/-- A call that begins or ends something. -/
inductive Milestone where
  | acquired
  | objectReleased
  | tornDown
  | released
deriving DecidableEq, Repr

/-- The name under which a milestone is listed. -/
def Milestone.name : Milestone → String
  | .acquired => "acquire_context"
  | .objectReleased => "release_reference"
  | .tornDown => "teardown_modules"
  | .released => "release_context"

/-- What the interpreter keeps for all contexts. -/
structure Ledger where
  /-- The live contexts. -/
  contexts : Table Handle GuestContext := .empty
  /-- The number given last. -/
  lastRaw : UInt64 := 0
  /-- Every context that was released, as often as it was. -/
  released : List Handle := []
  releasedObjects : List ObjectRef := []
  /-- Objects released when their context was gone already. -/
  lateObjects : List ObjectRef := []
  milestones : List Milestone := []
  /-- How many times a resolver was replaced. -/
  resolverChanges : Nat := 0
  failAcquire : Bool := false
  failTeardown : Bool := false

namespace Ledger

/-- The fault of a call on a context that is not live. -/
def unknownContext (ctx : Handle) : GuestFault := .failed ("unknown context " ++ ctx.display)

/-- Work on a live context. -/
def within {α : Type} (ctx : Handle) (f : GuestContext → Except GuestFault α × GuestContext)
    (l : Ledger) : Except GuestFault α × Ledger :=
  match l.contexts.find? ctx with
  | none => (.error (unknownContext ctx), l)
  | some context =>
    let (r, context) := f context
    (r, { l with contexts := l.contexts.insert ctx context })

/-- Look into a live context. -/
def look {α : Type} (ctx : Handle) (f : GuestContext → Except GuestFault α) (l : Ledger) :
    Except GuestFault α × Ledger :=
  match l.contexts.find? ctx with
  | none => (.error (unknownContext ctx), l)
  | some context => (f context, l)

/-- Change a live context. -/
def change (ctx : Handle) (f : GuestContext → GuestContext) :
    Ledger → Except GuestFault Unit × Ledger :=
  within ctx fun context => (.ok (), f context)

/-- List a milestone. -/
def note (m : Milestone) (l : Ledger) : Ledger := { l with milestones := l.milestones ++ [m] }

/-- A context that has seen nothing yet. -/
def newContext (request : ContextRequest) : GuestContext :=
  { resolver := request.resolver.map (·.name)
    sharesState := request.sharesState
    isolated := request.isolated }

/-- A new context. -/
def acquire (request : ContextRequest) (l : Ledger) : Except GuestFault Handle × Ledger :=
  if l.failAcquire then (.error (.failed "interpreter context unavailable"), l)
  else
    let raw := l.lastRaw + 1
    let l := { l with lastRaw := raw }
    match Handle.ofRaw? raw with
    | none => (.error (.failed "handle space exhausted"), l)
    | some ctx =>
      (.ok ctx, { l.note .acquired with contexts := l.contexts.insert ctx (newContext request) })

/-- A context after a text was run in it, and how that ended. -/
def runIn (source : String) (context : GuestContext) : Except GuestFault Unit × GuestContext :=
  let (r, vars) := Script.run context.vars source
  (r, { context with texts := context.texts ++ [source], vars := vars })

/-- Run a text in a context. -/
def run (ctx : Handle) (source : String) : Ledger → Except GuestFault Unit × Ledger :=
  within ctx (runIn source)

/-- Run a file in a context; the file is read first. -/
def runFile (files : Files) (ctx : Handle) (path : String) (l : Ledger) :
    Except GuestFault Unit × Ledger :=
  match files.readText path with
  | .error fault => (.error (.failed (path ++ ": " ++ fault.message)), l)
  | .ok source => l.run ctx source

/-- The value of a variable. -/
def readVariable (name : String) (context : GuestContext) : Except GuestFault Value :=
  match context.vars.find? name with
  | some v => .ok v
  | none => .error (.unbound name)

/-- The bytes of a variable that holds a text or a byte buffer. -/
def readBytes (name : String) (context : GuestContext) : Except GuestFault (List UInt8) :=
  match context.vars.find? name with
  | some (.str s) => .ok s.toUTF8.data.toList
  | some (.byteArray bs) => .ok bs
  | some v => .error (.noConversion ("'" ++ name ++ "' is " ++ v.kind.name ++ ", not str or bytes"))
  | none => .error (.unbound name)

/-- Bind a variable from the host. -/
def bindIn (name : String) (value : Value) (context : GuestContext) : GuestContext :=
  { context with
    bindings := context.bindings ++ [(name, value.kind)]
    vars := context.vars.insert name value }

/-- Replace the resolver of a context. -/
def useResolver (ctx : Handle) (resolver : Resolver) (l : Ledger) : Ledger :=
  { l with
    resolverChanges := l.resolverChanges + 1
    contexts := l.contexts.modify ctx fun context =>
      { context with resolver := some resolver.name } }

/-- Tear the modules of a context down. -/
def teardown (ctx : Handle) (l : Ledger) : Except GuestFault Unit × Ledger :=
  let l := l.note .tornDown
  if l.failTeardown then (.error (.raised "shared module teardown failed"), l)
  else l.change ctx fun context => { context with tornDown := true }

/-- Release an object, of a live context or late. -/
def releaseObject (ctx : Handle) (ref : ObjectRef) (l : Ledger) : Ledger :=
  let l := l.note .objectReleased
  if l.contexts.contains ctx then { l with releasedObjects := l.releasedObjects ++ [ref] }
  else { l with lateObjects := l.lateObjects ++ [ref] }

/-- Release a context, live or not. -/
def release (ctx : Handle) (l : Ledger) : Ledger :=
  { l.note .released with
    contexts := l.contexts.erase ctx
    released := l.released ++ [ctx] }

end Ledger

/-- What a guest callable does with its arguments and the interpreter that it runs in. -/
abbrev Callable := List Value → Option Kwargs → Ledger → Except GuestFault Value × Ledger

/-- The ledger and the callables. -/
structure MemoryInterpreter where
  ledger : Ledger := {}
  callables : Table String Callable := .empty

namespace MemoryInterpreter

/-- An interpreter without contexts and callables. -/
def new : MemoryInterpreter := {}

instance : Inhabited MemoryInterpreter := ⟨new⟩

/-- Bind a name to a callable. -/
def register (m : MemoryInterpreter) (name : String) (callable : Callable) : MemoryInterpreter :=
  { m with callables := m.callables.insert name callable }

/-- What a live context has seen. -/
def context? (m : MemoryInterpreter) (ctx : Handle) : Option GuestContext :=
  m.ledger.contexts.find? ctx

/-- How many contexts are live. -/
def liveCount (m : MemoryInterpreter) : Nat := m.ledger.contexts.size

/-- The interpreter for display. -/
def display (m : MemoryInterpreter) : String :=
  "FakeEngine \x7b live_contexts: " ++ Decimal.natText m.liveCount ++ ", .. \x7d"

/-- Call a callable. -/
def apply (ctx : Handle) (name : String) (args : List Value) (kwargs : Option Kwargs)
    (m : MemoryInterpreter) : Except GuestFault Value × MemoryInterpreter :=
  if m.ledger.contexts.contains ctx then
    match m.callables.find? name with
    | some callable =>
      let (r, ledger) := callable args kwargs m.ledger
      (r, { m with ledger := ledger })
    | none => (.error (.unbound name), m)
  else (.error (Ledger.unknownContext ctx), m)

/-- Let the ledger answer. -/
def onLedger {α : Type} (f : Ledger → α × Ledger) (m : MemoryInterpreter) : α × MemoryInterpreter :=
  let (r, ledger) := f m.ledger
  (r, { m with ledger := ledger })

/-- The answer to a call. -/
def answer (files : Files) : (c : Call) → MemoryInterpreter → c.Reply × MemoryInterpreter
  | .acquire request, m => m.onLedger (Ledger.acquire request)
  | .run ctx source, m => m.onLedger (Ledger.run ctx source)
  | .probe ctx source, m => m.onLedger (Ledger.look ctx fun _ => Script.probe source)
  | .runFile ctx path, m => m.onLedger (Ledger.runFile files ctx path)
  | .apply ctx name args kwargs, m => m.apply ctx name args kwargs
  | .read ctx name _, m => m.onLedger (Ledger.look ctx (Ledger.readVariable name))
  | .readBytes ctx name, m => m.onLedger (Ledger.look ctx (Ledger.readBytes name))
  | .bind ctx name value, m => m.onLedger (Ledger.change ctx (Ledger.bindIn name value))
  | .useResolver ctx resolver, m => m.onLedger fun l => ((), l.useResolver ctx resolver)
  | .teardown ctx, m => m.onLedger (Ledger.teardown ctx)
  | .releaseObject ctx ref, m => m.onLedger fun l => ((), l.releaseObject ctx ref)
  | .release ctx, m => m.onLedger fun l => ((), l.release ctx)
  | .extendSearchPath ctx paths, m => m.onLedger
      (Ledger.change ctx fun context => { context with searchPath := context.searchPath ++ paths })
  | .shareModules ctx modules, m => m.onLedger
      (Ledger.change ctx fun context =>
        { context with sharedModules := context.sharedModules ++ modules })
  | .hookImports ctx _, m => m.onLedger
      (Ledger.change ctx fun context => { context with importsHooked := true })
  | .redirectOutput ctx, m => m.onLedger
      (Ledger.change ctx fun context => { context with outputRedirected := true })

instance : Interpreter MemoryInterpreter := ⟨answer⟩

end MemoryInterpreter

/-! ### Ready-made callables -/

namespace Callable

/-- Whatever the arguments, the same answer. -/
def fixed (r : Except GuestFault Value) : Callable := fun _ _ l => (r, l)

/-- The first positional argument, or null. -/
def first : Callable := fun args _ l => (.ok (args.head?.getD .none), l)

/-- The last positional argument, or null. -/
def last : Callable := fun args _ l => (.ok (args.getLast?.getD .none), l)

/-- A keyword argument, or null. -/
def keyword (key : String) : Callable := fun _ kwargs l =>
  (.ok ((kwargs.bind fun ks => ks.find? key).getD .none), l)

/-- A new object, whose number is the first argument if that is a long from zero on. -/
def object (typeName : String) : Callable := fun args _ l =>
  let id : UInt64 := match args.head? with
    | some (.long n) => if 0 ≤ n then n.toUInt64 else 0
    | _ => 0
  (.ok (.object ⟨id, typeName⟩), l)

/-- The arguments for display: the positional ones, then each keyword argument behind its key, or a
dash if there are no keyword arguments at all. -/
def describe : Callable := fun args kwargs l =>
  let keywords := match kwargs with
    | none => ["-"]
    | some ks => ks.entries.map fun (k, v) => k ++ "=" ++ v.display
  (.ok (.str (",".intercalate (args.map Value.display ++ keywords))), l)

/-- Run a text in a context of the same interpreter, then answer null, or with the fault. -/
def run (ctx : Handle) (source : String) : Callable := fun _ _ l =>
  match l.run ctx source with
  | (.ok _, l) => (.ok .none, l)
  | (.error e, l) => (.error e, l)

end Callable

end PinnedSessions
