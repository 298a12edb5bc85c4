import PinnedSessions.Session.Basic

/-! # What a session does

Every operation that reaches the interpreter passes the gate first (`Session.context`), so a session
is only ever driven by the thread that initialized it; argument checks come after the gate and
before the first call.

* `start` marks the caller, acquires a context and configures it. If anything fails the context is
  released, the mark removed, and the session can never be started.
* `close` releases the objects, tears the modules down, releases the context and removes the mark,
  in that order and whatever the teardown answers. Only the owner may close a live session; closing
  a closed one does nothing.
* `discard` is what happens to a session that is thrown away: it is closed, and where that is
  refused its context leaks, with its thread marked for good.
-/

namespace PinnedSessions.Session

variable {σ : Type} [Interpreter σ]

/-! ### Initialization -/

/-- Do the second thing if the first one had no fault. -/
def andThen (first second : Op σ (Except GuestFault Unit)) : Op σ (Except GuestFault Unit) := do
  match ← first with
  | .ok () => second
  | .error e => pure (.error e)

/-- Extend the search path, if there is anything to add. -/
def extendSearchPath (ctx : Handle) (s : Settings) : Op σ (Except GuestFault Unit) :=
  if s.searchPath.isEmpty then pure (.ok ())
  else do
    Op.log (.searchPathExtended ctx)
    Op.call (.extendSearchPath ctx s.searchPath)

/-- Share modules, if any are asked for. -/
def shareModules (ctx : Handle) (s : Settings) : Op σ (Except GuestFault Unit) :=
  if s.sharesModules then do
    Op.log (.modulesShared ctx)
    Op.call (.shareModules ctx s.sharedModules)
  else pure (.ok ())

/-- Redirect the guest's output, if that is asked for. -/
def redirectOutput (ctx : Handle) (s : Settings) : Op σ (Except GuestFault Unit) :=
  if s.redirectOutput then Op.call (.redirectOutput ctx) else pure (.ok ())

/-- Configure a new context, up to the first fault. -/
def configure (ctx : Handle) (s : Session) : Op σ (Except GuestFault Unit) :=
  andThen (extendSearchPath ctx s.settings) <|
    andThen (shareModules ctx s.settings) <|
      andThen (Op.call (.hookImports ctx s.resolver)) (redirectOutput ctx s.settings)

/-- What the interpreter is asked for. -/
def contextRequest (s : Session) : ContextRequest :=
  ⟨s.resolver, s.settings.sharesModules, s.settings.isolated⟩

/-- Give up for good: no context and no mark. -/
def spoil (owner : Thread) (e : GuestFault) : Op σ Unit := do
  Op.modify fun s => { s with phase := .spoiled }
  Op.unmark owner
  Op.fail (.noContext (.refused e))

/-- Get a context on the calling thread. -/
def acquire : Op σ Unit := do
  Op.mark
  let s ← Op.session
  let owner ← Op.caller
  match ← Op.call (.acquire s.contextRequest) with
  | .error e => spoil owner e
  | .ok ctx =>
    match ← configure ctx s with
    | .error e =>
      Op.log (.configurationFailed ctx e)
      Op.call (.release ctx)
      spoil owner e
    | .ok () =>
      Op.modify fun s => { s with phase := .live owner ctx }
      Op.log (.initialized ctx s.isInteractive)

/-- Start a session that was created without a context. -/
def start : Op σ Unit := do
  match (← Op.session).phase with
  | .closed _ => Op.fail .closed
  | .live .. => Op.fail (.alreadyDone .initialized)
  | .spoiled => Op.fail (.noContext .failedBefore)
  | .fresh => acquire

/-- Pass the gate: the live context. -/
def context : Op σ Handle := do
  let s ← Op.session
  Op.ofExcept (s.lifecycle.gate s.owner? (← Op.caller))
  match s.handle? with
  | some ctx => pure ctx
  | none => Op.fail .uninitialized

/-! ### Running guest code -/

/-- The interpreter as the sink of one context's statements. -/
def sink (env : Ambient) (ctx : Handle) : Sink (Line σ) Failure where
  probe source line :=
    match line.call env.files env.caller (.probe ctx source) with
    | (.ok status, line) => (.ok (status == .complete), line)
    | (.error e, line) => (.error (.ofGuest e), line)
  run source line :=
    match line.call env.files env.caller (.run ctx source) with
    | (.ok _, line) => (.ok (), line)
    | (.error e, line) => (.error (.ofGuest e), line)

/-- Feed a line to the buffer. -/
def feed (ctx : Handle) (line : Option String) : Op σ Outcome := fun env s =>
  let (r, buffer, l) := s.session.buffer.feed (sink env ctx) line s.world.line
  (r, ⟨{ s.session with buffer := buffer }, { s.world with line := l }⟩)

/-- Evaluate one line, or flush. -/
def evaluate (line : Option String) : Op σ Outcome := do
  let ctx ← context
  let outcome ← feed ctx line
  if outcome = .held then Op.log .statementHeld
  pure outcome

/-- Call a guest callable; an object in the answer is kept. -/
def apply (name : String) (args : List Value) (kwargs : Option Kwargs) : Op σ Value := do
  let ctx ← context
  if Text.isBlank name then Op.fail (.badArgument .functionName)
  else do
    let v ← Op.ofReply (← Op.call (.apply ctx name args kwargs))
    Op.modify fun s => { s with held := s.held.keep v }
    pure v

/-- Run a script file. -/
def runFile (path : String) : Op σ Unit := do
  let ctx ← context
  if path = "" then Op.fail (.badArgument .scriptPath)
  else if !(← Op.files).isFile path then Op.fail (.unreadable path)
  else do
    Op.log (.scriptStarted ctx path)
    Op.ofReply (← Op.call (.runFile ctx path))

/-- Replace the resolver; the interpreter is not told if it is the one in use. -/
def useResolver (resolver : Resolver) : Op σ Unit := do
  let ctx ← context
  if (← Op.session).resolver.any (·.same resolver) then pure ()
  else do
    Op.log (.resolverReplaced ctx resolver.name)
    Op.call (.useResolver ctx resolver)
    Op.modify fun s => { s with resolver := some resolver }

/-- Replace the resolver and then run a script file. -/
def runFileWith (path : String) (resolver : Resolver) : Op σ Unit := do
  useResolver resolver
  runFile path

/-! ### Values -/

/-- The live context, for an operation on a variable. -/
def variableContext (name : String) : Op σ Handle := do
  let ctx ← context
  if Text.isBlank name then Op.fail (.badArgument .variableName) else pure ctx

/-- A conversion, with its fault as the session's failure. -/
def ofConversion {α : Type} : Except ConversionFault α → Op σ α
  | .ok a => pure a
  | .error fault => Op.fail (.noConversion (.host fault))

/-- Read a variable; an object in it is kept even if the target refuses the value. -/
def read (t : Target) (name : String) : Op σ t.Carrier := do
  let ctx ← variableContext name
  let v ← Op.ofReply (← Op.call (.read ctx name t.kind))
  Op.modify fun s => { s with held := s.held.keep v }
  ofConversion (t.extract v)

/-- Read a variable as bytes. -/
def readBytes (name : String) : Op σ (List UInt8) := do
  let ctx ← variableContext name
  Op.ofReply (← Op.call (.readBytes ctx name))

/-- Bind a variable to a host value. -/
def bind (name : String) (source : Source) (x : source.Carrier) : Op σ Unit := do
  let ctx ← variableContext name
  let v := source.inject x
  Op.log (.variableBound ctx name v.kind)
  Op.ofReply (← Op.call (.bind ctx name v))

/-- Switch the mode; leaving interactive mode drops the pending statement. -/
def switchMode (interactive : Bool) : Op σ Unit := do
  let _ ← context
  let (dropped, buffer) := (← Op.session).buffer.switchMode interactive
  Op.modify fun s => { s with buffer := buffer }
  match dropped with
  | some text => Op.log (.statementDropped text)
  | none => pure ()

/-! ### The end -/

/-- Release the objects that the session holds. -/
def releaseObjects (ctx : Handle) : Op σ Unit := fun env s =>
  let (count, held, line) := s.session.held.giveBack env.files env.caller ctx s.world.line
  (Op.log (.objectsReleased ctx count)).run env
    ⟨{ s.session with held := held }, { s.world with line := line }⟩

/-- Tear the modules of the context down; a fault is only reported. -/
def teardown (ctx : Handle) : Op σ Unit := do
  match ← Op.call (.teardown ctx) with
  | .ok () => pure ()
  | .error e => Op.log (.teardownFailed ctx e)

/-- The session after its end: nothing is pending and nothing is held. -/
def ended (owner : Option Thread) (s : Session) : Session :=
  { s with
    phase := .closed owner
    buffer := .empty s.buffer.interactive
    held := .empty }

/-- End a live session. -/
def finish (owner : Thread) (ctx : Handle) : Op σ Unit := do
  releaseObjects ctx
  teardown ctx
  Op.call (.release ctx)
  Op.log (.closed ctx)
  Op.unmark owner
  Op.modify (ended (some owner))

/-- Close the session. -/
def close : Op σ Unit := do
  match (← Op.session).phase with
  | .closed _ => pure ()
  | .fresh => Op.modify (ended none)
  | .spoiled => Op.modify (ended none)
  | .live owner ctx =>
    let caller ← Op.caller
    if owner = caller then finish owner ctx else Op.fail (.foreignClose owner caller)

/-- Throw the session away. -/
def discard : Op σ Unit := fun env s =>
  match close.run env s with
  | (.ok _, s) => (.ok (), s)
  | (.error e, s) => (Op.log (.contextLeaked e)).run env s

/-! ### Creation -/

/-- Create a session, and start it unless that is postponed. -/
def create (settings : Settings) (env : Ambient) (world : World σ) :
    Except Failure Session × World σ :=
  if world.registry.hosts env.caller then
    (.error (.threadTaken env.caller), { world with log := world.log ++ [.threadTaken] })
  else if settings.postponed then (.ok (fresh settings), world)
  else
    match start.run env ⟨fresh settings, world⟩ with
    | (.ok _, s) => (.ok s.session, s.world)
    | (.error e, s) => (.error e, (discard.run env s).2.world)

end PinnedSessions.Session
