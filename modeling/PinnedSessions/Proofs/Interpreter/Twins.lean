import PinnedSessions.Proofs.Interpreter.Mirror
import PinnedSessions.Proofs.Session.Launch

/-! # Contexts that have seen the same

Two in-memory interpreters are `Kin` if they have the same callables and the same switches. They may
have given out different contexts; two contexts in them that have seen the same are `Twin`s.

* No call changes callables or switches (`like_answer`), and a call on one context leaves all other
  contexts alone (`context?_answer`).
* The same call on twins has the same answer, and leaves twins behind (`Agree`); so have the calls
  of a plan, up to the first fault (`Session.parallel_plan`).

All this holds as long as callables are functions of their arguments (`Callable.Pure`). -/

namespace PinnedSessions

/-- A callable that is a function of its arguments. -/
def Callable.Pure (f : Callable) : Prop :=
  ∃ g : List Value → Option Kwargs → Except GuestFault Value,
    ∀ args kwargs l, f args kwargs l = (g args kwargs, l)

/-- An interpreter whose callables are functions of their arguments. -/
def MemoryInterpreter.Pure (m : MemoryInterpreter) : Prop :=
  ∀ name f, m.callables.find? name = some f → f.Pure

theorem MemoryInterpreter.Pure.quiet {m : MemoryInterpreter} (h : m.Pure) : m.Quiet := by
  intro name f hf args kwargs l
  obtain ⟨g, hg⟩ := h name f hf
  rw [hg]
  exact .refl l

/-! ### What a call leaves alone -/

namespace MemoryInterpreter

/-- The same callables and the same switches. -/
structure Like (m m' : MemoryInterpreter) : Prop where
  callables : m'.callables = m.callables
  failAcquire : m'.ledger.failAcquire = m.ledger.failAcquire
  failTeardown : m'.ledger.failTeardown = m.ledger.failTeardown

theorem Like.refl (m : MemoryInterpreter) : Like m m := ⟨rfl, rfl, rfl⟩

theorem Like.trans {m m' m'' : MemoryInterpreter} (h : Like m m') (h' : Like m' m'') :
    Like m m'' :=
  ⟨h'.callables.trans h.callables, h'.failAcquire.trans h.failAcquire,
    h'.failTeardown.trans h.failTeardown⟩

theorem Like.pure {m m' : MemoryInterpreter} (h : Like m m') (hp : m.Pure) : m'.Pure := by
  unfold Pure
  rw [h.callables]
  exact hp

theorem ledger_apply {m : MemoryInterpreter} (h : m.Pure) (ctx : Handle) (name : String)
    (args : List Value) (kwargs : Option Kwargs) :
    (m.apply ctx name args kwargs).2.ledger = m.ledger := by
  unfold apply
  split
  · split
    · next f hf =>
      obtain ⟨g, hg⟩ := h name f hf
      rw [hg]
    · rfl
  · rfl

/-- No call changes callables or switches. -/
theorem like_answer {m : MemoryInterpreter} (h : m.Pure) (files : Files) (c : Call) :
    Like m (answer files c m).2 := by
  rcases answer_cases files c m with ⟨request, rfl⟩ | ⟨ctx, rfl⟩ | ⟨ctx, name, args, kwargs, rfl⟩ |
    ⟨ctx, -, hw⟩
  · change Like m { m with ledger := (m.ledger.acquire request).2 }
    rcases m.ledger.acquire_cases request with ⟨-, ha⟩ | ⟨-, ha⟩ | ⟨ctx, -, -, ha⟩
    all_goals
      rw [ha]
      exact ⟨rfl, rfl, rfl⟩
  · exact ⟨rfl, rfl, rfl⟩
  · refine ⟨callables_answer files _ m, ?_, ?_⟩
    all_goals rw [answer, ledger_apply h]
  · exact ⟨callables_answer files c m, hw.failAcquire, hw.failTeardown⟩

/-- Only acquiring a context counts. -/
theorem lastRaw_answer {m : MemoryInterpreter} (h : m.Pure) (files : Files) {c : Call}
    (hc : c.context? ≠ none) :
    (answer files c m).2.ledger.lastRaw = m.ledger.lastRaw := by
  rcases answer_cases files c m with ⟨request, rfl⟩ | ⟨ctx, rfl⟩ | ⟨ctx, name, args, kwargs, rfl⟩ |
    ⟨ctx, -, hw⟩
  · exact absurd rfl hc
  · rfl
  · rw [answer, ledger_apply h]
  · exact hw.lastRaw

/-- A call on another context, or one by which another is acquired, leaves a context alone. -/
theorem context?_answer {m : MemoryInterpreter} (h : m.Pure) (files : Files) {c : Call} {k : Handle}
    (hc : c.context? ≠ some k) (ha : c.acquired? (answer files c m).1 ≠ some k) :
    (answer files c m).2.context? k = m.context? k := by
  unfold context?
  rcases answer_cases files c m with ⟨request, rfl⟩ | ⟨ctx, rfl⟩ | ⟨ctx, name, args, kwargs, rfl⟩ |
    ⟨ctx, hu, hw⟩
  · change Call.acquired? (.acquire request) (m.ledger.acquire request).1 ≠ some k at ha
    change (m.ledger.acquire request).2.contexts.find? k = m.ledger.contexts.find? k
    rcases m.ledger.acquire_cases request with ⟨-, heq⟩ | ⟨-, heq⟩ | ⟨ctx, -, -, heq⟩
    · rw [heq]
    · rw [heq]
    · rw [heq] at ha ⊢
      exact Table.find?_insert_of_ne _ _ fun hk => ha (hk ▸ rfl)
  · have hne : ctx ≠ k := fun hk => hc (congrArg some hk)
    exact (Table.find?_erase ..).trans (if_neg hne)
  · rw [answer, ledger_apply h]
  · exact hw.others k fun hk => hc (hk ▸ hu.names)

end MemoryInterpreter

namespace Dialogue

variable {files : Files} {t : Thread} {a b : MemoryInterpreter} {xs : List Exchange}

theorem like (h : Dialogue files t a xs b) (ha : a.Pure) : a.Like b := by
  induction h with
  | done => exact .refl _
  | @call a b c xs h ih =>
      have hl := MemoryInterpreter.like_answer ha files c
      exact hl.trans (ih (hl.pure ha))

/-- What is never named and not acquired is left alone. -/
theorem context? (h : Dialogue files t a xs b) (ha : a.Pure) {k : Handle}
    (hx : ∀ x ∈ xs, x.call.context? ≠ some k ∧ x.call.acquired? x.reply ≠ some k) :
    b.context? k = a.context? k := by
  induction h with
  | done => rfl
  | @call a b c xs h ih =>
      obtain ⟨hc, hac⟩ := hx _ (.head _)
      have hrest := ih ((MemoryInterpreter.like_answer ha files c).pure ha)
        fun x hmem => hx x (.tail _ hmem)
      exact hrest.trans (MemoryInterpreter.context?_answer ha files hc hac)

end Dialogue

/-! ### Kin and twins -/

/-- Two interpreters with the same callables, all of them functions of their arguments, and the same
switches, of which the second has counted no further than the first. -/
structure Kin (m m' : MemoryInterpreter) : Prop extends m.Like m' where
  pure : m.Pure
  lastRaw : m'.ledger.lastRaw.toNat ≤ m.ledger.lastRaw.toNat

/-- Contexts in two interpreters that have seen the same. -/
structure Twin (ctx ctx' : Handle) (m m' : MemoryInterpreter) : Prop extends Kin m m' where
  seen : ∃ k, m.context? ctx = some k ∧ m'.context? ctx' = some k

/-- The same answer of two interpreters, whose contexts are twins after it. -/
structure Agree {α : Type} (ctx ctx' : Handle) (r r' : α × MemoryInterpreter) : Prop where
  reply : r'.1 = r.1
  twin : Twin ctx ctx' r.2 r'.2

/-- Kin stay kin, whatever they are asked, as long as the second counts no further than the
first. -/
theorem Kin.next {m m' n n' : MemoryInterpreter} (h : Kin m m') (hl : m.Like n) (hl' : m'.Like n')
    (hr : n'.ledger.lastRaw.toNat ≤ n.ledger.lastRaw.toNat) : Kin n n' := by
  refine ⟨⟨?_, ?_, ?_⟩, hl.pure h.pure, hr⟩
  · rw [hl'.callables, hl.callables, h.callables]
  · rw [hl'.failAcquire, hl.failAcquire, h.failAcquire]
  · rw [hl'.failTeardown, hl.failTeardown, h.failTeardown]

/-- Calls on contexts leave callables, switches and the count as they are. -/
theorem Line.like_callAll (files : Files) (t : Thread) {cs : List Call}
    (hcs : ∀ c ∈ cs, c.context? ≠ none) {l : Line MemoryInterpreter} (hl : l.interpreter.Pure) :
    l.interpreter.Like (l.callAll files t cs).interpreter ∧
      (l.callAll files t cs).interpreter.ledger.lastRaw = l.interpreter.ledger.lastRaw := by
  induction cs generalizing l with
  | nil => exact ⟨.refl _, rfl⟩
  | cons c cs ih =>
      have hlike : l.interpreter.Like (l.call files t c).2.interpreter :=
        MemoryInterpreter.like_answer hl files c
      have hraw : (l.call files t c).2.interpreter.ledger.lastRaw = l.interpreter.ledger.lastRaw :=
        MemoryInterpreter.lastRaw_answer hl files (hcs c (.head _))
      obtain ⟨hrest, hraw'⟩ := ih (fun c hc => hcs c (.tail _ hc)) (hlike.pure hl)
      exact ⟨hlike.trans hrest, hraw'.trans hraw⟩

/-- Kin stay kin when calls on contexts are made. -/
theorem Kin.callAll {l l' : Line MemoryInterpreter} (h : Kin l.interpreter l'.interpreter)
    (files : Files) (t : Thread) {cs cs' : List Call} (hcs : ∀ c ∈ cs, c.context? ≠ none)
    (hcs' : ∀ c ∈ cs', c.context? ≠ none) :
    Kin (l.callAll files t cs).interpreter (l'.callAll files t cs').interpreter := by
  obtain ⟨hl, hr⟩ := Line.like_callAll files t hcs h.pure
  obtain ⟨hl', hr'⟩ := Line.like_callAll files t hcs' (h.toLike.pure h.pure)
  refine h.next hl hl' ?_
  rw [hr, hr']
  exact h.lastRaw

/-- As long as numbers are left, kin that are asked for the same context both refuse it, or give
twins. -/
theorem Kin.acquire {m m' : MemoryInterpreter} (h : Kin m m') (hroom : m.ledger.lastRaw + 1 ≠ 0)
    (files : Files) (request : ContextRequest) :
    (∃ e, MemoryInterpreter.answer files (.acquire request) m = (.error e, m) ∧
      MemoryInterpreter.answer files (.acquire request) m' = (.error e, m')) ∨
    ∃ ctx ctx' n n', MemoryInterpreter.answer files (.acquire request) m = (.ok ctx, n) ∧
      MemoryInterpreter.answer files (.acquire request) m' = (.ok ctx', n') ∧
      Twin ctx ctx' n n' := by
  have hlast := h.lastRaw
  have hlt : m.ledger.lastRaw.toNat + 1 < 2 ^ 64 := by
    by_contra hge
    have hlast := m.ledger.lastRaw.toNat_lt
    exact hroom (UInt64.toNat_inj.1 (by rw [UInt64.toNat_add]; simp; omega))
  have hnext : ∀ r : UInt64, r.toNat + 1 < 2 ^ 64 → (r + 1).toNat = r.toNat + 1 := by
    intro r hr
    rw [UInt64.toNat_add]
    exact Nat.mod_eq_of_lt hr
  have heq : ∀ x : MemoryInterpreter, MemoryInterpreter.answer files (.acquire request) x =
      ((x.ledger.acquire request).1, { x with ledger := (x.ledger.acquire request).2 }) :=
    fun _ => rfl
  rw [heq, heq]
  rcases m.ledger.acquire_cases request with ⟨hf, ha⟩ | ⟨hz, -⟩ | ⟨ctx, hf, -, ha⟩
  · rcases m'.ledger.acquire_cases request with ⟨-, ha'⟩ | ⟨hz', -⟩ | ⟨ctx', hf', -⟩
    · rw [ha, ha']
      exact .inl ⟨_, rfl, rfl⟩
    · have := hnext m'.ledger.lastRaw (by omega)
      rw [hz'] at this
      simp at this
    · rw [h.failAcquire, hf] at hf'
      cases hf'
  · exact absurd hz hroom
  · rcases m'.ledger.acquire_cases request with ⟨hf', -⟩ | ⟨hz', -⟩ | ⟨ctx', -, -, ha'⟩
    · rw [h.failAcquire, hf] at hf'
      cases hf'
    · have := hnext m'.ledger.lastRaw (by omega)
      rw [hz'] at this
      simp at this
    · rw [ha, ha']
      refine .inr ⟨ctx, ctx', _, _, rfl, rfl,
        ⟨⟨h.callables, h.failAcquire, h.failTeardown⟩, h.pure, ?_⟩,
        Ledger.newContext request, Table.find?_insert_self .., Table.find?_insert_self ..⟩
      change (m'.ledger.lastRaw + 1).toNat ≤ (m.ledger.lastRaw + 1).toNat
      rw [hnext _ hlt, hnext _ (by omega)]
      omega

namespace Twin

variable {ctx ctx' : Handle} {m m' : MemoryInterpreter} {α : Type}

/-! ### The same call on twins -/

theorem within (h : Twin ctx ctx' m m')
    (f : GuestContext → Except GuestFault α × GuestContext) :
    Agree ctx ctx' (m.onLedger (Ledger.within ctx f)) (m'.onLedger (Ledger.within ctx' f)) := by
  obtain ⟨k, hk, hk'⟩ := h.seen
  unfold MemoryInterpreter.context? at hk hk'
  simp only [MemoryInterpreter.onLedger, Ledger.within, hk, hk']
  exact ⟨rfl, ⟨⟨h.callables, h.failAcquire, h.failTeardown⟩, h.pure, h.lastRaw⟩, (f k).2,
    Table.find?_insert_self .., Table.find?_insert_self ..⟩

/-- Changing a live context never fails. -/
theorem change (h : Twin ctx ctx' m m') (f : GuestContext → GuestContext) :
    (m.onLedger (Ledger.change ctx f)).1 = .ok () ∧
      (m'.onLedger (Ledger.change ctx' f)).1 = .ok () ∧
      Twin ctx ctx' (m.onLedger (Ledger.change ctx f)).2
        (m'.onLedger (Ledger.change ctx' f)).2 := by
  obtain ⟨hr, ht⟩ := h.within fun k => ((.ok () : Except GuestFault Unit), f k)
  obtain ⟨k, hk, -⟩ := h.seen
  have hok : (m.onLedger (Ledger.change ctx f)).1 = .ok () := by
    unfold MemoryInterpreter.context? at hk
    simp only [MemoryInterpreter.onLedger, Ledger.change, Ledger.within, hk]
  exact ⟨hok, hr.trans hok, ht⟩

theorem look (h : Twin ctx ctx' m m') (f : GuestContext → Except GuestFault α) :
    Agree ctx ctx' (m.onLedger (Ledger.look ctx f)) (m'.onLedger (Ledger.look ctx' f)) := by
  have hseen := h.seen
  obtain ⟨k, hk, hk'⟩ := h.seen
  unfold MemoryInterpreter.context? at hk hk'
  simp only [MemoryInterpreter.onLedger, Ledger.look, hk, hk']
  exact ⟨rfl, h.toKin, hseen⟩

theorem runFile (h : Twin ctx ctx' m m') (files : Files) (path : String) :
    Agree ctx ctx' (MemoryInterpreter.answer files (.runFile ctx path) m)
      (MemoryInterpreter.answer files (.runFile ctx' path) m') := by
  simp only [MemoryInterpreter.answer, MemoryInterpreter.onLedger, Ledger.runFile]
  split
  · exact ⟨rfl, h⟩
  · exact h.within (Ledger.runIn _)

theorem apply (h : Twin ctx ctx' m m') (name : String) (args : List Value)
    (kwargs : Option Kwargs) :
    Agree ctx ctx' (m.apply ctx name args kwargs) (m'.apply ctx' name args kwargs) := by
  obtain ⟨k, hk, hk'⟩ := h.seen
  have hlive : m.ledger.contexts.contains ctx = true := by
    rw [Table.contains, show m.ledger.contexts.find? ctx = some k from hk]
    rfl
  have hlive' : m'.ledger.contexts.contains ctx' = true := by
    rw [Table.contains, show m'.ledger.contexts.find? ctx' = some k from hk']
    rfl
  unfold MemoryInterpreter.apply
  rw [if_pos hlive, if_pos hlive']
  cases hf : m.callables.find? name with
  | none =>
      rw [h.callables, hf]
      exact ⟨rfl, h⟩
  | some f =>
      obtain ⟨g, hg⟩ := h.pure name f hf
      have hf' : m'.callables.find? name = some f := by rw [h.callables, hf]
      simp only [hf', hg]
      exact ⟨rfl, ⟨⟨h.callables, h.failAcquire, h.failTeardown⟩, h.pure, h.lastRaw⟩, k, hk, hk'⟩

theorem useResolver (h : Twin ctx ctx' m m') (resolver : Resolver) :
    Agree ctx ctx' (m.onLedger fun l => ((), l.useResolver ctx resolver))
      (m'.onLedger fun l => ((), l.useResolver ctx' resolver)) := by
  obtain ⟨k, hk, hk'⟩ := h.seen
  unfold MemoryInterpreter.context? at hk hk'
  refine ⟨rfl, ⟨⟨h.callables, h.failAcquire, h.failTeardown⟩, h.pure, h.lastRaw⟩,
    { k with resolver := some resolver.name }, ?_, ?_⟩
  · simp only [MemoryInterpreter.onLedger, MemoryInterpreter.context?, Ledger.useResolver,
      Table.find?_modify, hk, if_true, Option.map_some]
  · simp only [MemoryInterpreter.onLedger, MemoryInterpreter.context?, Ledger.useResolver,
      Table.find?_modify, hk', if_true, Option.map_some]

end Twin

/-! ### Plans -/

/-- Calls on twins that fail alike and leave twins behind. -/
def Parallel (cs : Handle → List Call) : Prop :=
  ∀ (ctx ctx' : Handle) (l l' : Line MemoryInterpreter) (files : Files) (t : Thread),
    Twin ctx ctx' l.interpreter l'.interpreter →
      (l'.pursue files t (cs ctx')).1 = (l.pursue files t (cs ctx)).1 ∧
        Twin ctx ctx' (l.pursue files t (cs ctx)).2.interpreter
          (l'.pursue files t (cs ctx')).2.interpreter

namespace Parallel

theorem nil : Parallel fun _ => [] := fun _ _ _ _ _ _ h => ⟨rfl, h⟩

theorem append {cs ds : Handle → List Call} (h : Parallel cs) (h' : Parallel ds) :
    Parallel fun ctx => cs ctx ++ ds ctx := by
  intro ctx ctx' l l' files t ht
  obtain ⟨hfault, hnext⟩ := h ctx ctx' l l' files t ht
  dsimp only
  rw [Line.pursue_append, Line.pursue_append]
  cases hl : l.pursue files t (cs ctx) with
  | mk o n =>
      cases hl' : l'.pursue files t (cs ctx') with
      | mk o' n' =>
          rw [hl, hl'] at hfault hnext
          cases hfault
          cases o with
          | some e => exact ⟨rfl, hnext⟩
          | none => exact h' ctx ctx' n n' files t hnext

theorem ite {c : Prop} [Decidable c] {cs ds : Handle → List Call} (h : Parallel cs)
    (h' : Parallel ds) : Parallel fun ctx => if c then cs ctx else ds ctx := by
  by_cases hc : c
  · simpa only [if_pos hc] using h
  · simpa only [if_neg hc] using h'

theorem one {c : Handle → Call} (hc : ∀ {ctx ctx' : Handle} {m m' : MemoryInterpreter}
    (files : Files), Twin ctx ctx' m m' →
      (c ctx).fault? (MemoryInterpreter.answer files (c ctx) m).1 = none ∧
        (c ctx').fault? (MemoryInterpreter.answer files (c ctx') m').1 = none ∧
        Twin ctx ctx' (MemoryInterpreter.answer files (c ctx) m).2
          (MemoryInterpreter.answer files (c ctx') m').2) : Parallel fun ctx => [c ctx] := by
  intro ctx ctx' l l' files t h
  obtain ⟨hf, hf', hnext⟩ := hc files h
  rw [Line.pursue_onward (l := l) files t hf, Line.pursue_onward (l := l') files t hf']
  exact ⟨rfl, hnext⟩

end Parallel

/-- Two sessions that ask for the same follow their plans alike. -/
theorem Session.parallel_plan (s : Session) : Parallel fun ctx => s.plan ctx := by
  refine .append (.ite (.one fun _ h => ?_) .nil) (.append (.ite (.one fun _ h => ?_) .nil)
    (.append (.one fun _ h => ?_) (.ite (.one fun _ h => ?_) .nil)))
  · obtain ⟨hr, hr', ht⟩ := h.change fun k =>
      { k with searchPath := k.searchPath ++ s.settings.searchPath }
    exact ⟨congrArg (Call.fault? (.extendSearchPath _ _)) hr,
      congrArg (Call.fault? (.extendSearchPath _ _)) hr', ht⟩
  · obtain ⟨hr, hr', ht⟩ := h.change fun k =>
      { k with sharedModules := k.sharedModules ++ s.settings.sharedModules }
    exact ⟨congrArg (Call.fault? (.shareModules _ _)) hr,
      congrArg (Call.fault? (.shareModules _ _)) hr', ht⟩
  · obtain ⟨hr, hr', ht⟩ := h.change fun k => { k with importsHooked := true }
    exact ⟨congrArg (Call.fault? (.hookImports _ _)) hr,
      congrArg (Call.fault? (.hookImports _ _)) hr', ht⟩
  · obtain ⟨hr, hr', ht⟩ := h.change fun k => { k with outputRedirected := true }
    exact ⟨congrArg (Call.fault? (.redirectOutput _)) hr,
      congrArg (Call.fault? (.redirectOutput _)) hr', ht⟩

end PinnedSessions
