import PinnedSessions.Proofs.Interpreter.Ledgered
import PinnedSessions.Proofs.Session.Launch

/-! # What a start leaves behind

A start that goes through leaves a context that carries what the session asked for, and nothing else
(`Session.furnished`), in an interpreter that otherwise is as before. A start that fails leaves no
context, no mark, and a session that is never started again. Which of the two it is depends on the
methods that fail, and on nothing else (`settled_start`).

`FaultyInterpreter.keeping` is an interpreter with one context put into it. Calls that configure
this context only replace it (`answer_configures`), up to the first method that fails
(`pursue_configures`). -/

namespace PinnedSessions

/-! ### The context that is asked for -/

/-- The context that a session asks for. -/
def Session.furnished (s : Session) : GuestContext where
  resolver := s.resolver.map (·.name)
  sharesState := s.settings.sharedModules ≠ []
  isolated := s.settings.isolated
  searchPath := s.settings.searchPath
  sharedModules := s.settings.sharedModules
  importsHooked := true
  outputRedirected := s.settings.redirectOutput

namespace FaultyInterpreter

/-! ### One context in an interpreter -/

/-- The live contexts. -/
def contexts (f : FaultyInterpreter) : Table Handle GuestContext := f.memory.ledger.contexts

/-- An interpreter with a context put into it. -/
def keeping (f : FaultyInterpreter) (ctx : Handle) (k : GuestContext) : FaultyInterpreter :=
  { f with memory := { f.memory with ledger := { f.memory.ledger with
      contexts := f.contexts.insert ctx k } } }

/-- Whether the interpreter gives a context when it is asked for one. -/
structure Provides (f : FaultyInterpreter) : Prop where
  method : f.faults.find? .acquire = none
  ledger : f.memory.ledger.failAcquire = false
  number : f.memory.ledger.lastRaw + 1 ≠ 0

variable {f : FaultyInterpreter} {ctx : Handle}

/-- A call reaches the in-memory interpreter unless its method is told to fail. -/
theorem answer_of_configures (hf : f.configures = true) (files : Files) (c : Call) :
    answer files c f = match f.faults.find? (Method.ofCall c) with
      | some e => (c.refuse e, f)
      | none => ((MemoryInterpreter.answer files c f.memory).1,
        { f with memory := (MemoryInterpreter.answer files c f.memory).2 }) := by
  unfold answer
  rw [hf]
  rfl

/-- A context is given with the next number, or there is none. -/
theorem acquire_cases (hf : f.configures = true) (files : Files) (request : ContextRequest) :
    (∃ (e : GuestFault) (f' : FaultyInterpreter),
      answer files (.acquire request) f = (.error e, f') ∧ ¬f.Provides ∧ f'.contexts = f.contexts) ∨
    ∃ (ctx : Handle) (f' : FaultyInterpreter), answer files (.acquire request) f =
        (.ok ctx, f'.keeping ctx (Ledger.newContext request)) ∧ f.Provides ∧
      ctx.raw = f.memory.ledger.lastRaw + 1 ∧ f'.contexts = f.contexts ∧
      f'.faults = f.faults ∧ f'.configures = f.configures := by
  rw [answer_of_configures hf]
  cases hm : f.faults.find? (Method.ofCall (.acquire request)) with
  | some e =>
      refine .inl ⟨e, f, rfl, fun h => ?_, rfl⟩
      cases h.method.symm.trans hm
  | none =>
      simp only [MemoryInterpreter.answer, MemoryInterpreter.onLedger]
      rcases f.memory.ledger.acquire_cases request with ⟨hl, ha⟩ | ⟨hz, ha⟩ | ⟨ctx, hl, hr, ha⟩
      · rw [ha]
        refine .inl ⟨_, _, rfl, fun h => ?_, rfl⟩
        cases h.ledger.symm.trans hl
      · rw [ha]
        exact .inl ⟨_, _, rfl, fun h => h.number hz, rfl⟩
      · rw [ha]
        refine .inr ⟨ctx, { f with memory := { f.memory with ledger :=
          { f.memory.ledger.note .acquired with lastRaw := f.memory.ledger.lastRaw + 1 } } },
          rfl, ⟨hm, hl, ?_⟩, hr, rfl, rfl, rfl⟩
        rw [← hr]
        exact ctx.ne_zero

/-- Whether a call of a start fails is foretold by the methods that do. -/
def Foretells (f : FaultyInterpreter) (x : Exchange) : Prop :=
  match x.call.context? with
  | none => x.fault? = none ↔ f.Provides
  | some _ => x.fault? = f.faults.find? (Method.ofCall x.call)

end FaultyInterpreter

/-! ### All or nothing -/

/-- A start that went through: the caller owns a context that carries what was asked for, it is
marked, and all else is as before. -/
structure Equipped (env : Ambient) (settings : Settings) (w : World FaultyInterpreter)
    (ctx : Handle) (s : Scene FaultyInterpreter) : Prop where
  lifecycle : s.session.lifecycle = .initialized
  owner : s.session.owner? = some env.caller
  handle : s.session.handle? = some ctx
  registry : s.world.registry.marked = env.caller :: w.registry.marked
  unused : w.line.interpreter.contexts.find? ctx = none
  contexts : s.world.line.interpreter.contexts =
    w.line.interpreter.contexts.insert ctx (Session.fresh settings).furnished

/-- A start that failed: contexts and marks are as before, and the session is never started. -/
structure Undone (w : World FaultyInterpreter) (s : Scene FaultyInterpreter) : Prop where
  lifecycle : s.session.lifecycle = .uninitialized
  owner : s.session.owner? = none
  handle : s.session.handle? = none
  registry : s.world.registry = w.registry
  contexts : s.world.line.interpreter.contexts = w.line.interpreter.contexts
  spent : ∀ session, s.session.Later FaultyInterpreter session → ∀ env w',
    (Request.start.perform : Op FaultyInterpreter Answer).run env ⟨session, w'⟩ =
      (.error (.noContext .failedBefore), ⟨session, w'⟩)

/-- How a start ends, by its exchanges and the context or the fault that comes of them. -/
structure Settled (env : Ambient) (settings : Settings) (w : World FaultyInterpreter)
    (xs : List Exchange) (o : Except GuestFault Handle)
    (r : Except Failure Unit × Scene FaultyInterpreter) : Prop where
  overture : Overture env.caller (.fresh settings) xs o
  exchanges : r.2.world.line.exchanges = w.line.exchanges ++ xs
  foretold : ∀ x ∈ xs, w.line.interpreter.Foretells x
  through : ∀ ctx, o = .ok ctx → r.1 = .ok () ∧ Equipped env settings w ctx r.2
  failed : ∀ e, o = .error e → r.1 = .error (.noContext (.refused e)) ∧ Undone w r.2

end PinnedSessions
