import PinnedSessions.Session.Event
import PinnedSessions.Session.HeldObjects
import PinnedSessions.Session.Lifecycle
import PinnedSessions.Session.Registry
import PinnedSessions.Settings.Basic
import PinnedSessions.Statement.LineBuffer

/-! # Sessions and what surrounds them

A session is a value. Its `Phase` says where it is in its life together with what belongs to that
point: only a live session has a context, and it always has an owner.

What a session works on is a `World`: the line to its interpreter, the registry of hosting threads,
and the log. An `Op` is an operation on one session: it reads who calls and which files there are
(`Ambient`), changes the session and the world, and ends in a result or a failure. A failed
operation keeps what it changed before it failed.
-/

namespace PinnedSessions

/-- Where a session is in its life, and what belongs to that point. -/
inductive Phase where
  /-- No attempt to get a context was made. -/
  | fresh
  /-- An attempt failed; there will be no other. -/
  | spoiled
  /-- Owned by a thread and holding a context. -/
  | live (owner : Thread) (ctx : Handle)
  /-- The context, if there was one, is released; its owner is remembered. -/
  | closed (owner : Option Thread)
deriving DecidableEq

namespace Phase

/-- The lifecycle of a phase. -/
def lifecycle : Phase → Lifecycle
  | .fresh => .uninitialized
  | .spoiled => .uninitialized
  | .live .. => .initialized
  | .closed _ => .closed

/-- The thread that owns the session. -/
def owner? : Phase → Option Thread
  | .live owner _ => some owner
  | .closed owner => owner
  | _ => none

/-- The context that the session holds. -/
def handle? : Phase → Option Handle
  | .live _ ctx => some ctx
  | _ => none

end Phase

/-- An interpreter session. -/
structure Session where
  settings : Settings
  /-- The resolver in use. -/
  resolver : Option Resolver
  phase : Phase := .fresh
  buffer : LineBuffer
  held : HeldObjects := .empty
deriving DecidableEq

namespace Session

/-- A session that was not initialized yet. -/
def fresh (settings : Settings) : Session :=
  { settings := settings
    resolver := settings.resolver
    buffer := .empty settings.interactive }

/-- Where the session is in its life. -/
def lifecycle (s : Session) : Lifecycle := s.phase.lifecycle

/-- The thread that owns the session. -/
def owner? (s : Session) : Option Thread := s.phase.owner?

/-- The context that the session holds. -/
def handle? (s : Session) : Option Handle := s.phase.handle?

/-- Whether the session holds a context. -/
def isInitialized (s : Session) : Bool := s.lifecycle == .initialized

/-- Whether the session is closed. -/
def isClosed (s : Session) : Bool := s.lifecycle == .closed

/-- Whether incomplete statements are held back. -/
def isInteractive (s : Session) : Bool := s.buffer.interactive

/-- Whether a statement is held back. -/
def hasPending (s : Session) : Bool := s.buffer.pending.isSome

/-- How many object references the session keeps. -/
def heldCount (s : Session) : Nat := s.held.size

end Session

/-- What a session works on. -/
structure World (σ : Type) where
  line : Line σ
  registry : Registry := .empty
  log : List Event := []

/-- A session and what it works on. -/
structure Scene (σ : Type) where
  session : Session
  world : World σ

/-- What an operation reads: who calls, and the files. -/
structure Ambient where
  caller : Thread
  files : Files

/-- An operation on a session. -/
def Op (σ α : Type) : Type := Ambient → Scene σ → Except Failure α × Scene σ

namespace Op

variable {σ α β : Type}

/-- Carry an operation out. -/
def run (op : Op σ α) (env : Ambient) (s : Scene σ) : Except Failure α × Scene σ := op env s

/-- Do nothing, with a result. -/
protected def pure (a : α) : Op σ α := fun _ s => (.ok a, s)

/-- Go on with the result of an operation; a failure ends both. -/
protected def bind (op : Op σ α) (f : α → Op σ β) : Op σ β := fun env s =>
  match op env s with
  | (.ok a, s) => f a env s
  | (.error e, s) => (.error e, s)

instance : Monad (Op σ) where
  pure := Op.pure
  bind := Op.bind

/-- End in a failure. -/
def fail (e : Failure) : Op σ α := fun _ s => (.error e, s)

/-- A result or a failure, as it is. -/
def ofExcept (r : Except Failure α) : Op σ α := fun _ s => (r, s)

/-- A reply's result, or its fault as the session's failure. -/
def ofReply : Except GuestFault α → Op σ α
  | .ok a => pure a
  | .error e => fail (.ofGuest e)

/-- Who calls. -/
def caller : Op σ Thread := fun env s => (.ok env.caller, s)

/-- The files. -/
def files : Op σ Files := fun env s => (.ok env.files, s)

/-- The session. -/
def session : Op σ Session := fun _ s => (.ok s.session, s)

/-- Change the session. -/
def modify (f : Session → Session) : Op σ Unit := fun _ s => (.ok (), ⟨f s.session, s.world⟩)

/-- Change the world. -/
def onWorld (f : World σ → World σ) : Op σ Unit := fun _ s => (.ok (), ⟨s.session, f s.world⟩)

/-- Report an event. -/
def log (e : Event) : Op σ Unit := onWorld fun w => { w with log := w.log ++ [e] }

/-- Remove the mark of a thread. -/
def unmark (t : Thread) : Op σ Unit := onWorld fun w => { w with registry := w.registry.unmark t }

/-- Mark the caller as hosting. -/
def mark : Op σ Unit := fun env s =>
  match s.world.registry.mark env.caller with
  | .ok registry => (.ok (), ⟨s.session, { s.world with registry := registry }⟩)
  | .error e => (.error e, ⟨s.session, { s.world with log := s.world.log ++ [.markRefused] }⟩)

/-- Make a call. -/
def call [Interpreter σ] (c : Call) : Op σ c.Reply := fun env s =>
  let (reply, line) := s.world.line.call env.files env.caller c
  (.ok reply, ⟨s.session, { s.world with line := line }⟩)

/-! ### Running each piece -/

@[simp] theorem run_pure (a : α) (env : Ambient) (s : Scene σ) :
    (pure a : Op σ α).run env s = (.ok a, s) := rfl

theorem run_bind (op : Op σ α) (f : α → Op σ β) (env : Ambient) (s : Scene σ) :
    (op >>= f).run env s = match op.run env s with
      | (.ok a, s) => (f a).run env s
      | (.error e, s) => (.error e, s) := rfl

theorem run_bind_ok {op : Op σ α} {f : α → Op σ β} {env : Ambient} {s s' : Scene σ} {a : α}
    (h : op.run env s = (.ok a, s')) : (op >>= f).run env s = (f a).run env s' := by
  rw [run_bind, h]

theorem run_bind_error {op : Op σ α} {f : α → Op σ β} {env : Ambient} {s s' : Scene σ} {e : Failure}
    (h : op.run env s = (.error e, s')) : (op >>= f).run env s = (.error e, s') := by
  rw [run_bind, h]

@[simp] theorem run_fail (e : Failure) (env : Ambient) (s : Scene σ) :
    (fail e : Op σ α).run env s = (.error e, s) := rfl

@[simp] theorem run_ofExcept (r : Except Failure α) (env : Ambient) (s : Scene σ) :
    (ofExcept r : Op σ α).run env s = (r, s) := rfl

@[simp] theorem run_caller (env : Ambient) (s : Scene σ) :
    (caller : Op σ Thread).run env s = (.ok env.caller, s) := rfl

@[simp] theorem run_files (env : Ambient) (s : Scene σ) :
    (files : Op σ Files).run env s = (.ok env.files, s) := rfl

@[simp] theorem run_session (env : Ambient) (s : Scene σ) :
    (session : Op σ Session).run env s = (.ok s.session, s) := rfl

@[simp] theorem run_modify (f : Session → Session) (env : Ambient) (s : Scene σ) :
    (modify f : Op σ Unit).run env s = (.ok (), ⟨f s.session, s.world⟩) := rfl

@[simp] theorem run_onWorld (f : World σ → World σ) (env : Ambient) (s : Scene σ) :
    (onWorld f).run env s = (.ok (), ⟨s.session, f s.world⟩) := rfl

@[simp] theorem run_log (e : Event) (env : Ambient) (s : Scene σ) :
    (log e : Op σ Unit).run env s =
      (.ok (), ⟨s.session, { s.world with log := s.world.log ++ [e] }⟩) := rfl

@[simp] theorem run_unmark (t : Thread) (env : Ambient) (s : Scene σ) :
    (unmark t : Op σ Unit).run env s =
      (.ok (), ⟨s.session, { s.world with registry := s.world.registry.unmark t }⟩) := rfl

theorem run_mark (env : Ambient) (s : Scene σ) :
    (mark : Op σ Unit).run env s = match s.world.registry.mark env.caller with
      | .ok registry => (.ok (), ⟨s.session, { s.world with registry := registry }⟩)
      | .error e =>
        (.error e, ⟨s.session, { s.world with log := s.world.log ++ [.markRefused] }⟩) := rfl

@[simp] theorem run_call [Interpreter σ] (c : Call) (env : Ambient) (s : Scene σ) :
    (call c : Op σ c.Reply).run env s =
      (.ok (s.world.line.call env.files env.caller c).1,
        ⟨s.session, { s.world with line := (s.world.line.call env.files env.caller c).2 }⟩) := rfl

end Op

end PinnedSessions
