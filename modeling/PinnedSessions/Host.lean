import PinnedSessions.Session.Request

/-! # Host programs

A `Host` is everything that a host program holds: interpreters, one registry, the sessions by the
names it gave them, and the choice of a main interpreter, which is made once. A session stays with
the interpreter on which it was created, and may be used from any thread.

An `Action` is one thing that the program does on some thread. `Host.act` carries it out and tells
what came of it: the result, the exchanges with the interpreter, and the log. `Host.run` does a list
of actions.
-/

namespace PinnedSessions

/-- A session and the interpreter that it belongs to. -/
structure Resident where
  interpreter : Nat
  session : Session
deriving DecidableEq

/-- Everything that a host program holds. -/
structure Host (σ : Type) where
  interpreters : List σ
  files : Files := .empty
  registry : Registry := .empty
  sessions : Table String Resident := .empty
  main : Option Nat := none

/-- One thing that a host program does. -/
inductive Action where
  /-- Create a session on an interpreter, under a free name. -/
  | create (name : String) (interpreter : Nat) (settings : Settings)
  /-- Create a session on the main interpreter, under a free name. -/
  | createOnMain (name : String) (settings : Settings)
  | request (name : String) (r : Request)
  /-- Throw a session away. -/
  | discard (name : String)
  /-- Make an interpreter the main one. -/
  | chooseMain (interpreter : Nat)
  /-- Mark a thread by hand. -/
  | mark (thread : Thread)
  /-- Remove the mark of a thread by hand. -/
  | unmark (thread : Thread)
  /-- Make a call by hand. -/
  | call (interpreter : Nat) (c : Call)
  /-- Release objects by hand. -/
  | giveBack (interpreter : Nat) (ctx : Handle) (held : HeldObjects)

/-- What came of an action. -/
inductive Result where
  | answer (a : Answer)
  | failed (e : Failure)
  /-- An interpreter's own answer to a call by hand. -/
  | reply (c : Call) (r : c.Reply)
  | flag (b : Bool)
  /-- How many objects were released by hand, and what is kept then. -/
  | gaveBack (count : Nat) (left : HeldObjects)
  | noSession
  | nameTaken
  | noInterpreter

/-- The result of an operation. -/
def Result.ofExcept : Except Failure Answer → Result
  | .ok a => .answer a
  | .error e => .failed e

/-- What came of an action, what the interpreter was asked on the way, and what was reported. -/
structure Effect where
  result : Result
  /-- The interpreter that was used. -/
  interpreter : Option Nat := none
  exchanges : List Exchange := []
  log : List Event := []

namespace Host

variable {σ : Type}

/-- The world of an interpreter before an action. -/
def world (h : Host σ) (interpreter : σ) : World σ := ⟨⟨interpreter, []⟩, h.registry, []⟩

/-- The host after an action on an interpreter. -/
def settle (h : Host σ) (i : Nat) (w : World σ) : Host σ :=
  { h with interpreters := h.interpreters.set i w.line.interpreter, registry := w.registry }

/-- The effect of an action on an interpreter. -/
def effect (i : Nat) (w : World σ) (r : Result) : Effect := ⟨r, some i, w.line.exchanges, w.log⟩

/-- The effect of an action that used no interpreter. -/
def plainly (r : Result) (log : List Event) : Effect := ⟨r, none, [], log⟩

/-- Put a session under a name. -/
def put (h : Host σ) (name : String) (r : Resident) : Host σ :=
  { h with sessions := h.sessions.insert name r }

/-- The session of a name. -/
def session? (h : Host σ) (name : String) : Option Session :=
  (h.sessions.find? name).map (·.session)

/-- Change an interpreter from outside. -/
def modifyInterpreter (h : Host σ) (i : Nat) (f : σ → σ) : Host σ :=
  { h with interpreters := h.interpreters.modify i f }

/-- One more interpreter, and its number. -/
def addInterpreter (h : Host σ) (interpreter : σ) : Nat × Host σ :=
  (h.interpreters.length, { h with interpreters := h.interpreters ++ [interpreter] })

variable [Interpreter σ]

/-- Create a session on an interpreter, under a free name. -/
def create (h : Host σ) (thread : Thread) (name : String) (i : Nat) (settings : Settings) :
    Effect × Host σ :=
  match h.interpreters[i]? with
  | none => (plainly .noInterpreter [], h)
  | some interpreter =>
    match Session.create settings ⟨thread, h.files⟩ (h.world interpreter) with
    | (.ok s, w) => (effect i w (.answer .done), (h.settle i w).put name ⟨i, s⟩)
    | (.error e, w) => (effect i w (.failed e), h.settle i w)

/-- Work on a session; the session is put back as it is afterwards. -/
def operate (h : Host σ) (thread : Thread) (name : String) (op : Op σ Answer) : Effect × Host σ :=
  match h.sessions.find? name with
  | none => (plainly .noSession [], h)
  | some r =>
    match h.interpreters[r.interpreter]? with
    | none => (plainly .noInterpreter [], h)
    | some interpreter =>
      let (result, s) := op.run ⟨thread, h.files⟩ ⟨r.session, h.world interpreter⟩
      (effect r.interpreter s.world (.ofExcept result),
        (h.settle r.interpreter s.world).put name ⟨r.interpreter, s.session⟩)

/-- Throw a session away: it is gone from its name, whatever came of it. -/
def discard (h : Host σ) (thread : Thread) (name : String) : Effect × Host σ :=
  let (e, h) := h.operate thread name (Request.silent Session.discard)
  (e, { h with sessions := h.sessions.erase name })

/-- Use the line of an interpreter by hand. -/
def useLine (h : Host σ) (i : Nat) (f : Line σ → Result × Line σ) : Effect × Host σ :=
  match h.interpreters[i]? with
  | none => (plainly .noInterpreter [], h)
  | some interpreter =>
    let (r, line) := f ⟨interpreter, []⟩
    let w : World σ := ⟨line, h.registry, []⟩
    (effect i w r, h.settle i w)

/-- Make an interpreter the main one, unless there is one. -/
def chooseMain (h : Host σ) (i : Nat) : Effect × Host σ :=
  match h.main with
  | some _ => (plainly (.failed (.alreadyDone .mainChosen)) [], h)
  | none => (plainly (.answer .done) [.mainChosen], { h with main := some i })

/-- Do one thing on a thread. -/
def act (h : Host σ) (thread : Thread) : Action → Effect × Host σ
  | .create name i settings =>
    if h.sessions.contains name then (plainly .nameTaken [], h)
    else h.create thread name i settings
  | .createOnMain name settings =>
    if h.sessions.contains name then (plainly .nameTaken [], h)
    else
      match h.main with
      | none => (plainly (.failed (.noContext .noMain)) [], h)
      | some i => h.create thread name i settings
  | .request name r => h.operate thread name r.perform
  | .discard name => h.discard thread name
  | .chooseMain i => h.chooseMain i
  | .mark t =>
    match h.registry.mark t with
    | .ok registry => (plainly (.answer .done) [], { h with registry := registry })
    | .error e => (plainly (.failed e) [.markRefused], h)
  | .unmark t =>
    (plainly (.flag (h.registry.hosts t)) [], { h with registry := h.registry.unmark t })
  | .call i c => h.useLine i fun line =>
    let (r, line) := line.call h.files thread c
    (.reply c r, line)
  | .giveBack i ctx held => h.useLine i fun line =>
    let (count, left, line) := held.giveBack h.files thread ctx line
    (.gaveBack count left, line)

/-- Do things in turn, each on its thread. -/
def run (h : Host σ) : List (Thread × Action) → List Effect × Host σ
  | [] => ([], h)
  | (thread, action) :: rest =>
    let (e, h) := h.act thread action
    let (es, h) := h.run rest
    (e :: es, h)

end Host

end PinnedSessions
