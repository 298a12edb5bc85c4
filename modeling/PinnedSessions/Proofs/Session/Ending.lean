import PinnedSessions.Proofs.Session.Gate

/-! # How a session ends

Closing a session comes to one of four things (`close_exact`). A closed session stays as it is, for
every caller. A stranger is told who owns the session, and changes nothing. A session that never got
a context is closed without a call. And the owner of a live session ends it: all objects are given
back, the modules are torn down and the context is released, one after the other and whatever the
interpreter answers; `Closing` says what is left.

Nothing of this depends on the interpreter. A teardown that fails is reported, and all else is as if
it had not. -/

namespace PinnedSessions

variable {σ : Type}

/-! ### The calls of an operation -/

/-- The calls made between one scene and a later one. -/
def Scene.callsTo (s s' : Scene σ) : List Call :=
  (s'.world.line.exchanges.drop s.world.line.exchanges.length).map (·.call)

theorem Scene.callsTo_of_append {s s' : Scene σ} {xs : List Exchange}
    (h : s'.world.line.exchanges = s.world.line.exchanges ++ xs) :
    s.callsTo s' = xs.map (·.call) := by
  rw [callsTo, h, List.drop_left]

theorem Scene.callsTo_still (s : Scene σ) (session : Session) :
    s.callsTo ⟨session, s.world⟩ = [] := by
  have hx : s.world.line.exchanges = s.world.line.exchanges ++ [] := (List.append_nil _).symm
  exact callsTo_of_append hx

/-- Giving an object back cannot fail. -/
theorem Exchange.fault?_of_releaseObject {x : Exchange} {ctx : Handle} {ref : ObjectRef}
    (h : x.call = .releaseObject ctx ref) : x.fault? = none := by
  obtain ⟨t, c, reply⟩ := x
  cases h
  rfl

namespace Session

variable [Interpreter σ]

/-- Of the calls that end a context only the teardown can fail. -/
theorem exchanges_ending (ctx : Handle) (env : Ambient) (s : Scene σ) :
    ∃ xs, (s.world.line.callAll env.files env.caller (ending ctx s.session.held)).exchanges =
        s.world.line.exchanges ++ xs ∧
      xs.map (·.call) = ending ctx s.session.held ∧ (∀ x ∈ xs, x.thread = env.caller) ∧
      xs.filterMap Exchange.fault? = (teardownFault? ctx env s).toList := by
  have hback := s.world.line.exchanges_callAll env.files env.caller
    (s.session.held.refs.map (Call.releaseObject ctx))
  obtain ⟨ys, hys, hcalls, hthread⟩ := hback
  have hquiet : ys.filterMap Exchange.fault? = [] := by
    rw [List.filterMap_eq_nil_iff]
    intro y hy
    have hmem : y.call ∈ s.session.held.refs.map (Call.releaseObject ctx) := by
      rw [← hcalls]
      exact List.mem_map_of_mem hy
    obtain ⟨ref, -, hcall⟩ := List.mem_map.1 hmem
    exact Exchange.fault?_of_releaseObject hcall.symm
  let line := s.world.line.callAll env.files env.caller
    (s.session.held.refs.map (Call.releaseObject ctx))
  let torn := line.call env.files env.caller (.teardown ctx)
  let gone := torn.2.call env.files env.caller (.release ctx)
  refine ⟨ys ++ [⟨env.caller, .teardown ctx, torn.1⟩, ⟨env.caller, .release ctx, gone.1⟩],
    ?_, ?_, ?_, ?_⟩
  · rw [ending, Line.callAll_append, ← List.append_assoc, ← hys]
    show (line.exchanges ++ [_]) ++ [_] = _
    rw [List.append_assoc]
    rfl
  · rw [List.map_append, hcalls]
    rfl
  · intro x hx
    rcases List.mem_append.1 hx with hx | hx
    · exact hthread x hx
    · simp only [List.mem_cons, List.not_mem_nil, or_false] at hx
      rcases hx with rfl | rfl <;> rfl
  · rw [List.filterMap_append, hquiet, List.nil_append]
    have htorn : (Exchange.mk env.caller (.teardown ctx) torn.1).fault? = teardownFault? ctx env s :=
      rfl
    cases hf : teardownFault? ctx env s with
    | none =>
        rw [List.filterMap_cons_none (htorn.trans hf), List.filterMap_cons_none rfl]
        rfl
    | some e =>
        rw [List.filterMap_cons_some (htorn.trans hf), List.filterMap_cons_none rfl]
        rfl

/-! ### The end of a live session -/

/-- What the end of a live session by its owner leaves, with the exchanges that it made. -/
structure Closing (caller : Thread) (ctx : Handle) (xs : List Exchange) (s s' : Scene σ) :
    Prop where
  isClosed : s'.session.isClosed = true
  handle : s'.session.handle? = none
  heldCount : s'.session.heldCount = 0
  hasPending : s'.session.hasPending = false
  isInteractive : s'.session.isInteractive = s.session.isInteractive
  owner : s'.session.owner? = s.session.owner?
  exchanges : s'.world.line.exchanges = s.world.line.exchanges ++ xs
  calls : xs.map (·.call) =
    s.session.held.refs.map (Call.releaseObject ctx) ++ [.teardown ctx, .release ctx]
  thread : ∀ x ∈ xs, x.thread = caller
  registry : s'.world.registry = s.world.registry.unmark caller
  hosts : ∀ t, s'.world.registry.hosts t = true ↔ s.world.registry.hosts t = true ∧ t ≠ caller
  /-- At most one call failed, and just that is reported as an error. -/
  reported : ∃ es, s'.world.log = s.world.log ++ es ∧
    es.filter (·.level = .error) =
      (xs.filterMap Exchange.fault?).map (Event.teardownFailed ctx) ∧
    (xs.filterMap Exchange.fault?).length ≤ 1 ∧
    es.filter (·.level ≠ .error) = [.objectsReleased ctx s.session.heldCount, .closed ctx]

omit [Interpreter σ] in
theorem errors_farewell (ctx : Handle) (count : Nat) (fault : Option GuestFault) :
    (farewell ctx count fault).filter (·.level = .error) =
        fault.toList.map (Event.teardownFailed ctx) ∧
      (farewell ctx count fault).filter (·.level ≠ .error) =
        [.objectsReleased ctx count, .closed ctx] := by
  cases fault with
  | none => exact ⟨rfl, rfl⟩
  | some e => exact ⟨rfl, rfl⟩

theorem closing_close {env : Ambient} {s : Scene σ} {ctx : Handle}
    (hp : s.session.phase = .live env.caller ctx) : ∃ xs s',
      (close : Op σ Unit).run env s = (.ok (), s') ∧ Closing env.caller ctx xs s s' := by
  obtain ⟨xs, hxs, hcalls, hthread, hfault⟩ := exchanges_ending ctx env s
  refine ⟨xs, _, (close_own hp).trans (finish_eq ctx env s), rfl, rfl, rfl, rfl, rfl, ?_, hxs,
    hcalls, hthread, rfl, fun t => ?_, farewell ctx s.session.heldCount (teardownFault? ctx env s),
    rfl, ?_, ?_, ?_⟩
  · rw [owner?_live hp]
    rfl
  · rw [Registry.hosts, Registry.hosts, decide_eq_true_eq, decide_eq_true_eq]
    exact Registry.mem_unmark _ _ _
  · rw [hfault]
    exact (errors_farewell ctx _ _).1
  · rw [hfault]
    cases teardownFault? ctx env s with
    | none => exact Nat.zero_le _
    | some e => exact Nat.le_refl _
  · exact (errors_farewell ctx _ _).2

/-! ### Every close -/

theorem close_closed {s : Scene σ} (h : s.session.isClosed = true) (env : Ambient) :
    (close : Op σ Unit).run env s = (.ok (), s) := by
  obtain ⟨owner, hp⟩ := phase_of_closed h
  rw [close, Op.run_bind_ok (Op.run_session _ _), hp]
  rfl

/-- Throwing a closed session away does nothing. -/
theorem discard_closed {s : Scene σ} (h : s.session.isClosed = true) (env : Ambient) :
    (discard : Op σ Unit).run env s = (.ok (), s) := by
  show discard env s = _
  rw [discard, close_closed h env]

theorem close_uninitialized {s : Scene σ} (h : s.session.lifecycle = .uninitialized)
    (env : Ambient) :
    (close : Op σ Unit).run env s = (.ok (), ⟨s.session.ended none, s.world⟩) := by
  unfold lifecycle at h
  rw [close, Op.run_bind_ok (Op.run_session _ _)]
  cases hp : s.session.phase with
  | fresh | spoiled => rfl
  | live | closed =>
      rw [hp] at h
      cases h

/-- Two sessions that are closed come out alike, with the same calls: with whatever states of
whatever interpreters they work. -/
theorem close_alike {τ : Type} [Interpreter τ] (env : Ambient) {s : Scene σ} {s' : Scene τ}
    (hsession : s'.session = s.session) (hregistry : s'.world.registry = s.world.registry) :
    ((close : Op τ Unit).run env s').1 = ((close : Op σ Unit).run env s).1 ∧
      ((close : Op τ Unit).run env s').2.session = ((close : Op σ Unit).run env s).2.session ∧
      ((close : Op τ Unit).run env s').2.world.registry =
        ((close : Op σ Unit).run env s).2.world.registry ∧
      s'.callsTo ((close : Op τ Unit).run env s').2 =
        s.callsTo ((close : Op σ Unit).run env s).2 := by
  cases hp : s.session.phase with
  | fresh | spoiled =>
      have hl : s.session.lifecycle = .uninitialized := by rw [lifecycle, hp]; rfl
      rw [close_uninitialized hl env, close_uninitialized (by rw [hsession, hl]) env, hsession]
      exact ⟨rfl, rfl, hregistry, (s'.callsTo_still _).trans (s.callsTo_still _).symm⟩
  | closed owner =>
      have hc : s.session.isClosed = true := by rw [isClosed, lifecycle, hp]; rfl
      rw [close_closed hc env, close_closed (by rw [hsession, hc]) env]
      exact ⟨rfl, hsession, hregistry, (s'.callsTo_still _).trans (s.callsTo_still _).symm⟩
  | live owner ctx =>
      by_cases ho : owner = env.caller
      · rw [ho] at hp
        have hp' : s'.session.phase = .live env.caller ctx := by rw [hsession, hp]
        obtain ⟨xs, hxs, hcalls, -⟩ := exchanges_ending ctx env s
        obtain ⟨ys, hys, hcalls', -⟩ := exchanges_ending ctx env s'
        rw [close_own hp, close_own hp', finish_eq, finish_eq]
        refine ⟨rfl, by rw [hsession], by rw [hregistry], ?_⟩
        rw [Scene.callsTo_of_append hys, Scene.callsTo_of_append hxs, hcalls, hcalls', hsession]
      · rw [close_foreign ho hp, close_foreign ho (by rw [hsession, hp])]
        exact ⟨rfl, hsession, hregistry, (s'.callsTo_still _).trans (s.callsTo_still _).symm⟩

/-- What closing a session comes to, on every thread. Closing or throwing away a closed one does
nothing; a caller who does not own the session is told so and changes nothing; without a context
nothing is called, marked or reported; the owner of a live session always ends it. A teardown that
fails, or any other answer, makes a difference only in what is reported. -/
theorem close_exact (env : Ambient) (s : Scene σ) :
    (s.session.isClosed = true → (close : Op σ Unit).run env s = (.ok (), s) ∧
      (discard : Op σ Unit).run env s = (.ok (), s)) ∧
    (∀ owner, s.session.isClosed = false → s.session.owner? = some owner → owner ≠ env.caller →
      (close : Op σ Unit).run env s = (.error (.foreignClose owner env.caller), s)) ∧
    (s.session.lifecycle = .uninitialized →
      (close : Op σ Unit).run env s = (.ok (), ⟨s.session.ended none, s.world⟩)) ∧
    (∀ ctx, s.session.isInitialized = true → s.session.owner? = some env.caller →
      s.session.handle? = some ctx → ∃ xs s',
        (close : Op σ Unit).run env s = (.ok (), s') ∧ Closing env.caller ctx xs s s') ∧
    (∀ (τ : Type) [Interpreter τ] (s' : Scene τ), s'.session = s.session →
      s'.world.registry = s.world.registry →
      ((close : Op τ Unit).run env s').1 = ((close : Op σ Unit).run env s).1 ∧
        ((close : Op τ Unit).run env s').2.session = ((close : Op σ Unit).run env s).2.session ∧
        ((close : Op τ Unit).run env s').2.world.registry =
          ((close : Op σ Unit).run env s).2.world.registry ∧
        s'.callsTo ((close : Op τ Unit).run env s').2 =
          s.callsTo ((close : Op σ Unit).run env s).2) := by
  refine ⟨fun hc => ⟨close_closed hc env, discard_closed hc env⟩, fun owner hc ho hne => ?_,
    fun hl => close_uninitialized hl env, fun ctx hi ho hh => ?_,
    fun τ _ s' hsession hregistry => close_alike env hsession hregistry⟩
  · cases hp : s.session.phase with
    | live owner' ctx =>
        rw [owner?_live hp, Option.some.injEq] at ho
        rw [ho] at hp
        exact close_foreign hne hp
    | fresh | spoiled => simp [owner?, hp, Phase.owner?] at ho
    | closed owner' => simp [isClosed, lifecycle, hp, Phase.lifecycle] at hc
  · obtain ⟨owner, ctx', hp⟩ := phase_of_initialized hi
    rw [owner?_live hp, Option.some.injEq] at ho
    rw [handle?_live hp, Option.some.injEq] at hh
    rw [ho, hh] at hp
    exact closing_close hp

end Session

/-- A live session of thread 1 that keeps an object and holds a statement back; its modules can be
torn down or not. -/
def cluttered (failTeardown : Bool) : Scene MemoryInterpreter where
  session := { rented.session with held := ⟨[⟨7, "dict"⟩], by decide⟩ }
  world :=
    { rented.world with line := ⟨{ ledger := { lastRaw := 1, failTeardown := failTeardown } }, []⟩ }

/-- A stranger is turned away; the owner ends the session although the teardown fails, with the
same calls as if it had not; and an end has no second end. -/
theorem close_exact_cluttered :
    (cluttered true).session.isInitialized = true ∧
      (cluttered true).session.owner? = some ⟨"1"⟩ ∧
      Session.close.run ⟨⟨"2"⟩, .empty⟩ (cluttered true) =
        (.error (.foreignClose ⟨"1"⟩ ⟨"2"⟩), cluttered true) ∧
      (∃ xs s', Session.close.run ⟨⟨"1"⟩, .empty⟩ (cluttered true) = (.ok (), s') ∧
        Session.Closing ⟨"1"⟩ ⟨1, by decide⟩ xs (cluttered true) s' ∧
        s'.world.log = [.objectsReleased ⟨1, by decide⟩ 1,
          .teardownFailed ⟨1, by decide⟩ (.raised "shared module teardown failed"),
          .closed ⟨1, by decide⟩]) ∧
      (cluttered false).callsTo (Session.close.run ⟨⟨"1"⟩, .empty⟩ (cluttered false)).2 =
        (cluttered true).callsTo (Session.close.run ⟨⟨"1"⟩, .empty⟩ (cluttered true)).2 ∧
      Session.discard.run ⟨⟨"2"⟩, .empty⟩ vacated = (.ok (), vacated) ∧
      (Session.close.run ⟨⟨"2"⟩, .empty⟩ ⟨.fresh {}, rented.world⟩).2.world = rented.world := by
  obtain ⟨-, hforeign, -⟩ := Session.close_exact ⟨⟨"2"⟩, .empty⟩ (cluttered true)
  obtain ⟨-, -, -, hown, halike⟩ := Session.close_exact ⟨⟨"1"⟩, .empty⟩ (cluttered true)
  obtain ⟨hclosed, -⟩ := Session.close_exact ⟨⟨"2"⟩, .empty⟩ vacated
  obtain ⟨-, -, hfresh, -⟩ := Session.close_exact ⟨⟨"2"⟩, .empty⟩
    (⟨.fresh {}, rented.world⟩ : Scene MemoryInterpreter)
  obtain ⟨xs, s', hrun, hclosing⟩ := hown ⟨1, by decide⟩ rfl rfl rfl
  refine ⟨rfl, rfl, hforeign ⟨"1"⟩ rfl rfl (by decide), ⟨xs, s', hrun, hclosing, ?_⟩,
    (halike _ (cluttered false) rfl rfl).2.2.2, (hclosed rfl).2, ?_⟩
  · have hlog : (Session.close.run ⟨⟨"1"⟩, .empty⟩ (cluttered true)).2.world.log =
        [.objectsReleased ⟨1, by decide⟩ 1,
          .teardownFailed ⟨1, by decide⟩ (.raised "shared module teardown failed"),
          .closed ⟨1, by decide⟩] := rfl
    rw [hrun] at hlog
    exact hlog
  · rw [hfresh rfl]

end PinnedSessions
