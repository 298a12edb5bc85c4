import PinnedSessions.Interpreter.Faulty
import PinnedSessions.Proofs.Session.Steady

/-! # Interpreters that keep a ledger

The in-memory interpreter numbers contexts from one and keeps the live ones in its ledger. What a
call does to them is a `Ledger.Step`: a context that is acquired has the next number and is live
from then on, a released one is live no longer, and nothing else changes. Every call acquires a
context, releases one, applies a callable or is other work on a context
(`MemoryInterpreter.answer_cases`), and such work leaves alone which contexts are live
(`Ledger.Worked`).

This holds as long as the callables that guest code may use leave the contexts alone
(`MemoryInterpreter.Quiet`). `Ledgered` collects what statements about ledgers rest on; both the
in-memory interpreter and the one that fails on demand are instances. -/

namespace PinnedSessions

namespace Ledger

/-- Whether a context is live. -/
def isLive (l : Ledger) (ctx : Handle) : Bool := l.contexts.contains ctx

/-- The same contexts are live, and the same number was given last. -/
structure Same (l l' : Ledger) : Prop where
  live : ∀ ctx, l'.isLive ctx = l.isLive ctx
  lastRaw : l'.lastRaw = l.lastRaw

/-- What a call does to a ledger, by the contexts that it acquires and releases. -/
inductive Step (l l' : Ledger) : Option Handle → Option Handle → Prop
  | same (h : Same l l') : Step l l' none none
  /-- There is no number left; counting begins anew. -/
  | exhausted (h : l.lastRaw + 1 = 0) (hl : ∀ ctx, l'.isLive ctx = l.isLive ctx) :
      Step l l' none none
  | acquired {ctx : Handle} (hr : l.lastRaw + 1 = ctx.raw) (hr' : l'.lastRaw = ctx.raw)
      (hl : ∀ k, l'.isLive k = (decide (ctx = k) || l.isLive k)) : Step l l' (some ctx) none
  | released {ctx : Handle} (hr : l'.lastRaw = l.lastRaw)
      (hl : ∀ k, l'.isLive k = (!decide (ctx = k) && l.isLive k)) : Step l l' none (some ctx)

/-! ### What each operation of a ledger does -/

theorem Same.of_eq {l l' : Ledger} (hc : l'.contexts = l.contexts) (hr : l'.lastRaw = l.lastRaw) :
    Same l l' :=
  ⟨fun ctx => by rw [isLive, isLive, hc], hr⟩

theorem Same.refl (l : Ledger) : Same l l := .of_eq rfl rfl

theorem isLive_insert {l : Ledger} {contexts : Table Handle GuestContext} {ctx : Handle}
    {context : GuestContext} (h : l.contexts = contexts.insert ctx context) (k : Handle) :
    l.isLive k = (decide (ctx = k) || contexts.contains k) := by
  rw [isLive, h, Table.contains, Table.contains, Table.find?_insert]
  by_cases hk : ctx = k <;> simp [hk]

/-- What work on a context does to a ledger: the context stays live or not, nothing but the
contexts' own state and the records changes, and no object comes too late while the context is
live. -/
structure Worked (ctx : Handle) (l l' : Ledger) : Prop where
  failAcquire : l'.failAcquire = l.failAcquire
  failTeardown : l'.failTeardown = l.failTeardown
  lastRaw : l'.lastRaw = l.lastRaw
  live : l'.isLive ctx = l.isLive ctx
  others : ∀ k, ctx ≠ k → l'.contexts.find? k = l.contexts.find? k
  inTime : l.isLive ctx = true → l'.lateObjects = l.lateObjects

section Worked

variable {α : Type} (ctx : Handle)

theorem Worked.refl (l : Ledger) : Worked ctx l l :=
  ⟨rfl, rfl, rfl, rfl, fun _ _ => rfl, fun _ => rfl⟩

theorem Worked.same {l l' : Ledger} (h : Worked ctx l l') : Same l l' := by
  refine ⟨fun k => ?_, h.lastRaw⟩
  by_cases hk : ctx = k
  · rw [← hk]
    exact h.live
  · rw [isLive, isLive, Table.contains, Table.contains, h.others k hk]

theorem worked_within (f : GuestContext → Except GuestFault α × GuestContext) (l : Ledger) :
    Worked ctx l (l.within ctx f).2 := by
  unfold within
  split
  · exact .refl ctx l
  · next context hc =>
    refine ⟨rfl, rfl, rfl, ?_, fun k hk => Table.find?_insert_of_ne _ _ hk, fun _ => rfl⟩
    rw [isLive_insert rfl, isLive, Table.contains, hc]
    simp

theorem worked_look (f : GuestContext → Except GuestFault α) (l : Ledger) :
    Worked ctx l (l.look ctx f).2 := by
  unfold look
  split <;> exact .refl ctx l

theorem worked_change (f : GuestContext → GuestContext) (l : Ledger) :
    Worked ctx l (l.change ctx f).2 :=
  worked_within ctx _ l

theorem worked_run (source : String) (l : Ledger) : Worked ctx l (l.run ctx source).2 :=
  worked_within ctx (runIn source) l

theorem worked_runFile (files : Files) (path : String) (l : Ledger) :
    Worked ctx l (l.runFile files ctx path).2 := by
  unfold runFile
  split
  · exact .refl ctx l
  · exact worked_run ctx _ l

theorem worked_useResolver (resolver : Resolver) (l : Ledger) :
    Worked ctx l (l.useResolver ctx resolver) := by
  refine ⟨rfl, rfl, rfl, ?_, fun k hk => ?_, fun _ => rfl⟩
  · unfold isLive useResolver Table.contains
    rw [Table.find?_modify]
    simp
  · unfold useResolver
    rw [Table.find?_modify, if_neg hk]

theorem worked_teardown (l : Ledger) : Worked ctx l (l.teardown ctx).2 := by
  unfold teardown
  dsimp only
  split
  · exact ⟨rfl, rfl, rfl, rfl, fun _ _ => rfl, fun _ => rfl⟩
  · obtain ⟨ha, ht, hr, hl, ho, hi⟩ := worked_change ctx (fun k => { k with tornDown := true })
      (l.note .tornDown)
    exact ⟨ha, ht, hr, hl, ho, hi⟩

theorem worked_releaseObject (ref : ObjectRef) (l : Ledger) :
    Worked ctx l (l.releaseObject ctx ref) := by
  unfold releaseObject
  dsimp only
  split
  · exact ⟨rfl, rfl, rfl, rfl, fun _ _ => rfl, fun _ => rfl⟩
  · next hn => exact ⟨rfl, rfl, rfl, rfl, fun _ _ => rfl, fun hl => absurd hl hn⟩

end Worked

/-- A context is refused if that is switched off or there is no number left. Otherwise it has the
next number and has seen nothing. -/
theorem acquire_cases (request : ContextRequest) (l : Ledger) :
    (l.failAcquire = true ∧
      l.acquire request = (.error (.failed "interpreter context unavailable"), l)) ∨
    (l.lastRaw + 1 = 0 ∧ l.acquire request =
      (.error (.failed "handle space exhausted"), { l with lastRaw := l.lastRaw + 1 })) ∨
    ∃ ctx, l.failAcquire = false ∧ ctx.raw = l.lastRaw + 1 ∧ l.acquire request = (.ok ctx,
      { l.note .acquired with
        lastRaw := l.lastRaw + 1
        contexts := l.contexts.insert ctx (newContext request) }) := by
  unfold acquire
  by_cases hf : l.failAcquire = true
  · rw [if_pos hf]
    exact .inl ⟨hf, rfl⟩
  · rw [if_neg hf]
    by_cases hr : l.lastRaw + 1 = 0
    · refine .inr (.inl ⟨hr, ?_⟩)
      simp only [hr, Handle.ofRaw?_zero]
    · simp only [Handle.ofRaw?, dif_pos hr]
      exact .inr (.inr ⟨⟨_, hr⟩, by simpa using hf, rfl, rfl⟩)

theorem step_acquire (request : ContextRequest) (l : Ledger) :
    Step l (l.acquire request).2 (l.acquire request).1.toOption none := by
  rcases l.acquire_cases request with ⟨-, ha⟩ | ⟨hz, ha⟩ | ⟨ctx, -, hr, ha⟩
  · rw [ha]
    exact .same (.refl l)
  · rw [ha]
    exact .exhausted hz fun _ => rfl
  · rw [ha]
    exact .acquired hr.symm hr.symm fun k => isLive_insert rfl k

theorem step_release (ctx : Handle) (l : Ledger) : Step l (l.release ctx) none (some ctx) := by
  refine .released rfl fun k => ?_
  unfold isLive release Table.contains
  rw [Table.find?_erase]
  by_cases hk : ctx = k <;> simp [hk]

end Ledger

/-! ### The in-memory interpreter -/

/-- A callable that neither acquires nor releases a context. -/
def Callable.Quiet (f : Callable) : Prop := ∀ args kwargs l, Ledger.Same l (f args kwargs l).2

/-- Among the ready-made callables, the one that uses the interpreter only runs a text in it. -/
theorem Callable.quiet_run (ctx : Handle) (source : String) : (Callable.run ctx source).Quiet := by
  intro args kwargs l
  have h := (Ledger.worked_run ctx source l).same
  unfold Callable.run
  split <;> next heq => rw [heq] at h; exact h

namespace MemoryInterpreter

/-- An interpreter whose callables leave its contexts alone. -/
def Quiet (m : MemoryInterpreter) : Prop := ∀ name f, m.callables.find? name = some f → f.Quiet

/-- A new interpreter knows no callables, so whatever is asked of callables holds of its own. -/
theorem callables_new {P : Callable → Prop} :
    ∀ name f, MemoryInterpreter.new.callables.find? name = some f → P f :=
  fun _ _ h => by cases h

/-- What holds of all callables, and of one that is registered, holds of all callables after it. -/
theorem callables_register {P : Callable → Prop} {m : MemoryInterpreter}
    (h : ∀ name f, m.callables.find? name = some f → P f) (name : String) {f : Callable}
    (hf : P f) : ∀ name' f', (m.register name f).callables.find? name' = some f' → P f' := by
  intro name' f' hfind
  rw [MemoryInterpreter.register, Table.find?_insert] at hfind
  split at hfind
  · cases hfind
    exact hf
  · exact h name' f' hfind

theorem callables_answer (files : Files) (c : Call) (m : MemoryInterpreter) :
    (answer files c m).2.callables = m.callables := by
  cases c with
  | apply ctx name args kwargs =>
      simp only [answer, apply]
      split
      · split <;> rfl
      · rfl
  | _ => rfl

theorem quiet_answer {m : MemoryInterpreter} (h : m.Quiet) (files : Files) (c : Call) :
    (answer files c m).2.Quiet := by
  unfold Quiet
  rw [callables_answer]
  exact h

theorem same_apply {m : MemoryInterpreter} (h : m.Quiet) (ctx : Handle) (name : String)
    (args : List Value) (kwargs : Option Kwargs) :
    Ledger.Same m.ledger (m.apply ctx name args kwargs).2.ledger := by
  unfold apply
  split
  · split
    · next f hf => exact h name f hf args kwargs m.ledger
    · exact .refl _
  · exact .refl _

/-- A call acquires a context, releases one, applies a callable, or is other work on a context. -/
theorem answer_cases (files : Files) (c : Call) (m : MemoryInterpreter) :
    (∃ request, c = .acquire request) ∨ (∃ ctx, c = .release ctx) ∨
      (∃ ctx name args kwargs, c = .apply ctx name args kwargs) ∨
      ∃ ctx, c.Uses ctx ∧ Ledger.Worked ctx m.ledger (answer files c m).2.ledger := by
  cases c with
  | acquire request => exact .inl ⟨request, rfl⟩
  | release ctx => exact .inr (.inl ⟨ctx, rfl⟩)
  | apply ctx name args kwargs => exact .inr (.inr (.inl ⟨ctx, name, args, kwargs, rfl⟩))
  | run ctx source =>
      exact .inr (.inr (.inr ⟨ctx, ⟨rfl, rfl⟩, Ledger.worked_run ctx source m.ledger⟩))
  | runFile ctx path =>
      exact .inr (.inr (.inr ⟨ctx, ⟨rfl, rfl⟩, Ledger.worked_runFile ctx files path m.ledger⟩))
  | probe ctx | read ctx | readBytes ctx =>
      exact .inr (.inr (.inr ⟨ctx, ⟨rfl, rfl⟩, Ledger.worked_look ctx _ m.ledger⟩))
  | useResolver ctx resolver =>
      exact .inr (.inr (.inr ⟨ctx, ⟨rfl, rfl⟩, Ledger.worked_useResolver ctx resolver m.ledger⟩))
  | teardown ctx =>
      exact .inr (.inr (.inr ⟨ctx, ⟨rfl, rfl⟩, Ledger.worked_teardown ctx m.ledger⟩))
  | releaseObject ctx ref =>
      exact .inr (.inr (.inr ⟨ctx, ⟨rfl, rfl⟩, Ledger.worked_releaseObject ctx ref m.ledger⟩))
  | bind ctx | extendSearchPath ctx | shareModules ctx | hookImports ctx | redirectOutput ctx =>
      exact .inr (.inr (.inr ⟨ctx, ⟨rfl, rfl⟩, Ledger.worked_change ctx _ m.ledger⟩))

/-- What a call to a quiet interpreter does to its ledger. -/
theorem step_answer {m : MemoryInterpreter} (h : m.Quiet) (files : Files) (c : Call) :
    Ledger.Step m.ledger (answer files c m).2.ledger (c.acquired? (answer files c m).1)
      c.released? := by
  rcases answer_cases files c m with ⟨request, rfl⟩ | ⟨ctx, rfl⟩ | ⟨ctx, name, args, kwargs, rfl⟩ |
    ⟨ctx, hu, hw⟩
  · have hr : Call.acquired? (.acquire request) (answer files (.acquire request) m).1 =
        (m.ledger.acquire request).1.toOption := by
      change Call.acquired? (.acquire request) (m.ledger.acquire request).1 = _
      cases (m.ledger.acquire request).1 <;> rfl
    rw [hr]
    exact Ledger.step_acquire request m.ledger
  · exact Ledger.step_release ctx m.ledger
  · exact .same (same_apply h ctx name args kwargs)
  · rw [hu.acquired?, hu.keeps]
    exact .same hw.same

end MemoryInterpreter

/-! ### Every interpreter with a ledger -/

/-- An interpreter that keeps a ledger, of which a call does no more than a `Ledger.Step`, as long
as it is quiet. -/
class Ledgered (σ : Type) extends Interpreter σ where
  ledger : σ → Ledger
  Quiet : σ → Prop
  quiet_answer : ∀ {x : σ}, Quiet x → ∀ files c, Quiet (answer files c x).2
  step_answer : ∀ {x : σ}, Quiet x → ∀ files c, Ledger.Step (ledger x)
    (ledger (answer files c x).2) (c.acquired? (answer files c x).1) c.released?

instance : Ledgered MemoryInterpreter where
  ledger m := m.ledger
  Quiet := MemoryInterpreter.Quiet
  quiet_answer := MemoryInterpreter.quiet_answer
  step_answer := MemoryInterpreter.step_answer

namespace FaultyInterpreter

/-- An interpreter that is quiet and whose releases reach the in-memory one. -/
structure Quiet (f : FaultyInterpreter) : Prop where
  memory : f.memory.Quiet
  release : f.faults.find? .release = none

/-- Any method but the release of a context may fail from now on. -/
theorem Quiet.setFault {f : FaultyInterpreter} (h : f.Quiet) {m : Method} (hm : m ≠ .release)
    (e : Option GuestFault) : (f.setFault m e).Quiet := by
  cases e with
  | none => exact ⟨h.memory, by simp [FaultyInterpreter.setFault, Table.find?_erase, h.release]⟩
  | some e =>
      exact ⟨h.memory, by simp [FaultyInterpreter.setFault, Table.find?_insert, hm, h.release]⟩

/-- A call reaches the in-memory interpreter, or else it changes nothing and neither acquires nor
releases a context. -/
theorem answer_cases {f : FaultyInterpreter} (h : f.Quiet) (files : Files) (c : Call) :
    (answer files c f = ((MemoryInterpreter.answer files c f.memory).1,
        { f with memory := (MemoryInterpreter.answer files c f.memory).2 })) ∨
      ((answer files c f).2 = f ∧ c.acquired? (answer files c f).1 = none ∧
        c.released? = none) := by
  unfold answer
  split
  · next reply hr =>
    refine .inr ⟨rfl, ?_⟩
    split at hr
    · cases hr
    · cases c with
      | extendSearchPath | shareModules | hookImports | redirectOutput => exact ⟨rfl, rfl⟩
      | _ => cases hr
  · split
    · next e he =>
      refine .inr ⟨rfl, ?_⟩
      cases c with
      | release ctx =>
          rw [Method.ofCall, h.release] at he
          cases he
      | _ => exact ⟨rfl, rfl⟩
    · exact .inl rfl

theorem quiet_answer {f : FaultyInterpreter} (h : f.Quiet) (files : Files) (c : Call) :
    (answer files c f).2.Quiet := by
  rcases answer_cases h files c with heq | ⟨heq, -, -⟩
  · rw [heq]
    exact ⟨MemoryInterpreter.quiet_answer h.memory files c, h.release⟩
  · rw [heq]
    exact h

theorem step_answer {f : FaultyInterpreter} (h : f.Quiet) (files : Files) (c : Call) :
    Ledger.Step f.memory.ledger (answer files c f).2.memory.ledger
      (c.acquired? (answer files c f).1) c.released? := by
  rcases answer_cases h files c with heq | ⟨heq, ha, hr⟩
  · rw [heq]
    exact MemoryInterpreter.step_answer h.memory files c
  · rw [heq, ha, hr]
    exact .same (.refl _)

end FaultyInterpreter

instance : Ledgered FaultyInterpreter where
  ledger f := f.memory.ledger
  Quiet := FaultyInterpreter.Quiet
  quiet_answer := FaultyInterpreter.quiet_answer
  step_answer := FaultyInterpreter.step_answer

end PinnedSessions
