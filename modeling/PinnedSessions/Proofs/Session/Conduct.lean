import PinnedSessions.Proofs.Interpreter.Discipline
import PinnedSessions.Proofs.Session.Launch

/-! # What one operation may do

A session hides nearly everything that it does from the sessions around it. What they can see is its
`Standing`: who owns which live context (`Tenure`), the registry, and the line to the interpreter.

`Conduct` lists all that one operation of a thread can do to a standing. It begins a tenure of its
own by an `acquire`, works on the context of a tenure of its own, or ends one by a `release`; every
mark comes with a beginning and goes with an end; and a beginning that fails leaves no tenure, no
mark, and no context that was not released.

Every operation conducts itself so: each request (`orderly_perform`), throwing a session away
(`Session.orderly_discard`) and making one (`Session.conduct_create`). What holds of all runs is
proved from these and never by looking into an operation again. -/

namespace PinnedSessions

/-- The tenure of a session in a phase. -/
def Phase.tenure? : Phase → Option Tenure
  | .live owner ctx => some ⟨owner, ctx⟩
  | _ => none

/-- The tenure of a session. -/
def Session.tenure? (s : Session) : Option Tenure := s.phase.tenure?

/-- What the surroundings of a session can see of it and of its work. -/
structure Standing (σ : Type) where
  tenure : Option Tenure
  registry : Registry
  line : Line σ

variable {σ α : Type}

/-- The standing in a scene. -/
def Scene.standing (s : Scene σ) : Standing σ := ⟨s.session.tenure?, s.world.registry, s.world.line⟩

variable [Interpreter σ]

/-- What one operation of a thread can do to a standing. -/
inductive Conduct (files : Files) (t : Thread) : Standing σ → Standing σ → Prop
  /-- Nothing. -/
  | idle (p : Standing σ) : Conduct files t p p
  /-- Work on a context of its own. -/
  | used {ctx : Handle} {cs : List Call} {g : Registry} {l : Line σ} (hcs : ∀ c ∈ cs, c.Uses ctx) :
      Conduct files t ⟨some ⟨t, ctx⟩, g, l⟩ ⟨some ⟨t, ctx⟩, g, l.callAll files t cs⟩
  /-- Get no context. -/
  | refused {request : ContextRequest} {e : GuestFault} {g : Registry} {l : Line σ}
      (hl : (l.call files t (.acquire request)).1 = .error e) :
      Conduct files t ⟨none, g, l⟩ ⟨none, g, (l.call files t (.acquire request)).2⟩
  /-- Get a context, mark the thread and configure the context. -/
  | begun {request : ContextRequest} {ctx : Handle} {cs : List Call} {g g' : Registry} {l : Line σ}
      (hg : g.mark t = .ok g') (hl : (l.call files t (.acquire request)).1 = .ok ctx)
      (hcs : ∀ c ∈ cs, c.Uses ctx) :
      Conduct files t ⟨none, g, l⟩
        ⟨some ⟨t, ctx⟩, g', (l.call files t (.acquire request)).2.callAll files t cs⟩
  /-- Get a context, fail to configure it and release it. -/
  | givenUp {request : ContextRequest} {ctx : Handle} {cs : List Call} {g : Registry} {l : Line σ}
      (hl : (l.call files t (.acquire request)).1 = .ok ctx) (hcs : ∀ c ∈ cs, c.Uses ctx) :
      Conduct files t ⟨none, g, l⟩
        ⟨none, g, (l.call files t (.acquire request)).2.callAll files t (cs ++ [.release ctx])⟩
  /-- Release a context of its own and remove the mark. -/
  | ended {ctx : Handle} {cs : List Call} {g : Registry} {l : Line σ} (hcs : ∀ c ∈ cs, c.Uses ctx) :
      Conduct files t ⟨some ⟨t, ctx⟩, g, l⟩
        ⟨none, g.unmark t, l.callAll files t (cs ++ [.release ctx])⟩

/-- Whatever one operation does, all its calls come from its thread. -/
theorem Conduct.callAll {files : Files} {t : Thread} {p q : Standing σ} (h : Conduct files t p q) :
    ∃ cs, q.line = p.line.callAll files t cs := by
  cases h with
  | idle => exact ⟨[], rfl⟩
  | used => exact ⟨_, rfl⟩
  | @refused request => exact ⟨[.acquire request], rfl⟩
  | @begun request ctx cs => exact ⟨.acquire request :: cs, rfl⟩
  | @givenUp request ctx cs => exact ⟨.acquire request :: (cs ++ [.release ctx]), rfl⟩
  | ended => exact ⟨_, rfl⟩

/-! ### Behind the gate -/

theorem Session.tenure?_live {s : Session} {owner : Thread} {ctx : Handle}
    (h : s.phase = .live owner ctx) : s.tenure? = some ⟨owner, ctx⟩ := by
  rw [Session.tenure?, h]
  rfl

/-- The sessions with a tenure are those that are initialized. -/
theorem Session.isInitialized_eq (s : Session) : s.isInitialized = s.tenure?.isSome := by
  unfold Session.isInitialized Session.lifecycle Session.tenure?
  cases s.phase <;> rfl

theorem Session.tenure?_eq_some_iff {s : Session} {p : Tenure} : s.tenure? = some p ↔
    s.isInitialized = true ∧ s.owner? = some p.owner ∧ s.handle? = some p.ctx := by
  obtain ⟨owner, ctx⟩ := p
  unfold Session.tenure? Session.isInitialized Session.lifecycle Session.owner? Session.handle?
  cases s.phase <;> simp [Phase.tenure?, Phase.lifecycle, Phase.owner?, Phase.handle?]

theorem Session.exists_tenure {s : Session} (h : s.isInitialized = true) :
    ∃ p, s.tenure? = some p := by
  rw [Session.isInitialized_eq] at h
  exact Option.isSome_iff_exists.1 h

theorem Session.owner?_live {s : Session} {owner : Thread} {ctx : Handle}
    (h : s.phase = .live owner ctx) : s.owner? = some owner := by
  rw [Session.owner?, h]
  rfl

theorem Session.handle?_live {s : Session} {owner : Thread} {ctx : Handle}
    (h : s.phase = .live owner ctx) : s.handle? = some ctx := by
  rw [Session.handle?, h]
  rfl

theorem Steady.conduct {env : Ambient} {ctx : Handle} {s s' : Scene σ} (h : Steady env ctx s s')
    (hp : s.session.phase = .live env.caller ctx) :
    Conduct env.files env.caller s.standing s'.standing := by
  obtain ⟨cs, hcs, hl⟩ := h.calls
  unfold Scene.standing
  rw [Session.tenure?_live hp, Session.tenure?_live (h.phase.trans hp), h.registry, hl]
  exact .used hcs

theorem Op.Guarded.conduct {op : Op σ α} (h : op.Guarded) (env : Ambient) (s : Scene σ) :
    Conduct env.files env.caller s.standing (op.run env s).2.standing := by
  rcases s.session.gate_cases env.caller with ⟨ctx, hp⟩ | ⟨e, he⟩
  · exact (h.steady env s ctx hp).conduct hp
  · rw [h.shut env s e he]
    exact .idle _

/-! ### The start -/

namespace Session

/-- An attempt to get a context, told by the scene before it, and by its result and the scene after
it. -/
structure Attempt (env : Ambient) (s : Scene σ) (r : Except Failure Unit × Scene σ) : Prop where
  conduct : Conduct env.files env.caller s.standing r.2.standing
  not_closed : r.2.session.lifecycle ≠ .closed
  /-- What fails leaves no context. -/
  failed : ∀ e, r.1 = .error e → r.2.session.tenure? = none

theorem attempt_acquire (env : Ambient) (s : Scene σ) (hs : s.session.phase = .fresh) :
    Attempt env s ((acquire : Op σ Unit).run env s) := by
  have hnone : s.session.tenure? = none := by rw [tenure?, hs]; rfl
  have huses : ∀ {ctx : Handle} {cs : List Call}, cs <+: s.session.plan ctx →
      ∀ c ∈ cs, c.Uses ctx := fun hcs c hc => (configures_plan (hcs.subset hc)).uses
  have h := launch_acquire env s
  generalize (acquire : Op σ Unit).run env s = r at h
  cases h with
  | taken hm log =>
      exact ⟨.idle _, by rw [lifecycle, hs]; decide, fun _ _ => hnone⟩
  | refused hm hl =>
      refine ⟨?_, fun hc => (by cases hc), fun _ _ => rfl⟩
      have hc := Conduct.refused (g := s.world.registry) (congrArg Prod.fst hl)
      rw [hl] at hc
      rw [Scene.standing, Scene.standing, hnone]
      exact hc
  | @givenUp g ctx e l l' hm hl hc log =>
      refine ⟨?_, fun hc => (by cases hc), fun _ _ => rfl⟩
      obtain ⟨cs, hcs, hline⟩ := l.pursue_eq_callAll env.files env.caller (s.session.plan ctx)
      have h := Conduct.givenUp (g := s.world.registry) (congrArg Prod.fst hl) (huses hcs)
      rw [hl, Line.callAll_append, ← hline, hc] at h
      rw [Scene.standing, Scene.standing, hnone]
      exact h
  | @live g ctx l l' hm hl hc log =>
      refine ⟨?_, fun hc => (by cases hc), fun e he => by cases he⟩
      obtain ⟨cs, hcs, hline⟩ := l.pursue_eq_callAll env.files env.caller (s.session.plan ctx)
      have h := Conduct.begun hm (congrArg Prod.fst hl) (huses hcs)
      rw [hl, ← hline, hc] at h
      rw [Scene.standing, Scene.standing, hnone]
      exact h

/-! ### The end -/

theorem giveBackEach_eq_callAll (files : Files) (t : Thread) (ctx : Handle) (refs : List ObjectRef)
    (l : Line σ) : HeldObjects.giveBackEach files t ctx refs l =
      l.callAll files t (refs.map (Call.releaseObject ctx)) := by
  induction refs generalizing l with
  | nil => rfl
  | cons ref refs ih => exact ih _

theorem run_releaseObjects (ctx : Handle) (env : Ambient) (s : Scene σ) :
    (releaseObjects ctx : Op σ Unit).run env s =
      (.ok (), ⟨{ s.session with held := .empty }, { s.world with
        line := s.world.line.callAll env.files env.caller
          (s.session.held.refs.map (Call.releaseObject ctx))
        log := s.world.log ++ [.objectsReleased ctx s.session.heldCount] }⟩) := by
  rw [← giveBackEach_eq_callAll]
  rfl

theorem run_teardown (ctx : Handle) (env : Ambient) (s : Scene σ) :
    (teardown ctx : Op σ Unit).run env s = (.ok (), ⟨s.session, { s.world with
      line := s.world.line.callAll env.files env.caller [.teardown ctx]
      log := s.world.log ++
        ((Call.teardown ctx).fault?
          (s.world.line.call env.files env.caller (.teardown ctx)).1).toList.map
            (.teardownFailed ctx) }⟩) := by
  rw [teardown, Op.run_bind_ok (Op.run_call _ _ _)]
  dsimp only
  cases (s.world.line.call env.files env.caller (.teardown ctx)).1 with
  | ok u =>
      simp only [Call.fault?, Option.toList_none, List.map_nil, List.append_nil]
      rfl
  | error e => rfl

/-- The calls that end a context in which objects are kept. -/
def ending (ctx : Handle) (held : HeldObjects) : List Call :=
  held.refs.map (Call.releaseObject ctx) ++ [.teardown ctx, .release ctx]

theorem ending_eq (ctx : Handle) (held : HeldObjects) : ∃ cs, (∀ c ∈ cs, c.Uses ctx) ∧
    ending ctx held = cs ++ [.release ctx] := by
  refine ⟨held.refs.map (Call.releaseObject ctx) ++ [.teardown ctx], fun c hc => ?_, ?_⟩
  · rcases List.mem_append.1 hc with hc | hc
    · obtain ⟨ref, -, rfl⟩ := List.mem_map.1 hc
      exact ⟨rfl, rfl⟩
    · cases List.mem_singleton.1 hc
      exact ⟨rfl, rfl⟩
  · rw [ending, List.append_assoc, List.singleton_append]

/-- The fault of the teardown with which a live session ends, if it has one. -/
def teardownFault? (ctx : Handle) (env : Ambient) (s : Scene σ) : Option GuestFault :=
  let line := s.world.line.callAll env.files env.caller
    (s.session.held.refs.map (Call.releaseObject ctx))
  (Call.teardown ctx).fault? (line.call env.files env.caller (.teardown ctx)).1

/-- What is reported when a context ends; only a fault of the teardown makes a difference. -/
def farewell (ctx : Handle) (count : Nat) (fault : Option GuestFault) : List Event :=
  .objectsReleased ctx count :: (fault.toList.map (Event.teardownFailed ctx) ++ [.closed ctx])

/-- The owner ends a live session, whatever its teardown answers. -/
theorem finish_eq (ctx : Handle) (env : Ambient) (s : Scene σ) :
    (finish env.caller ctx : Op σ Unit).run env s = (.ok (),
      ⟨s.session.ended (some env.caller),
        { line := s.world.line.callAll env.files env.caller (ending ctx s.session.held)
          registry := s.world.registry.unmark env.caller
          log := s.world.log ++ farewell ctx s.session.heldCount (teardownFault? ctx env s) }⟩) := by
  rw [finish, Op.run_bind_ok (run_releaseObjects ctx env s), Op.run_bind_ok (run_teardown ctx env _),
    Op.run_bind_ok (Op.run_call _ _ _), Op.run_bind_ok (Op.run_log _ _ _),
    Op.run_bind_ok (Op.run_unmark _ _ _), Op.run_modify, ending, Line.callAll_append, farewell,
    List.append_assoc, List.append_assoc]
  rfl

theorem run_finish (ctx : Handle) (env : Ambient) (s : Scene σ) :
    ∃ log, (finish env.caller ctx : Op σ Unit).run env s = (.ok (),
      ⟨s.session.ended (some env.caller),
        { line := s.world.line.callAll env.files env.caller (ending ctx s.session.held)
          registry := s.world.registry.unmark env.caller
          log := log }⟩) :=
  ⟨_, finish_eq ctx env s⟩

/-- Nothing is left over in a closed session. -/
def Tidy (s : Session) : Prop := s.lifecycle = .closed → s.hasPending = false ∧ s.heldCount = 0

theorem tidy_of_ne {s : Session} (h : s.lifecycle ≠ .closed) : s.Tidy := fun hc => absurd hc h

theorem tidy_ended (owner : Option Thread) (s : Session) : (s.ended owner).Tidy :=
  fun _ => ⟨rfl, rfl⟩

theorem tidy_fresh (settings : Settings) : (fresh settings).Tidy := tidy_of_ne nofun

/-- The end of a live session conducts itself. -/
theorem conduct_finish {env : Ambient} {s : Scene σ} {ctx : Handle}
    (hp : s.session.phase = .live env.caller ctx) : Conduct env.files env.caller s.standing
      ((finish env.caller ctx : Op σ Unit).run env s).2.standing := by
  obtain ⟨log, hrun⟩ := run_finish ctx env s
  obtain ⟨cs, hcs, heq⟩ := ending_eq ctx s.session.held
  have h : Conduct env.files env.caller
      ⟨some ⟨env.caller, ctx⟩, s.world.registry, s.world.line⟩ _ := .ended hcs
  rw [← heq] at h
  rw [hrun, Scene.standing, Scene.standing, tenure?_live hp]
  exact h

end Session

/-! ### Every operation -/

namespace Op

/-- An operation that conducts itself, and leaves nothing over in a session that it closes. -/
structure Orderly (op : Op σ α) : Prop where
  conduct : ∀ env s, Conduct env.files env.caller s.standing (op.run env s).2.standing
  tidy : ∀ env s, s.session.Tidy → (op.run env s).2.session.Tidy

theorem Guarded.orderly {op : Op σ α} (h : op.Guarded) : op.Orderly where
  conduct := h.conduct
  tidy env s hs := by
    rcases s.session.gate_cases env.caller with ⟨ctx, hp⟩ | ⟨e, he⟩
    · refine Session.tidy_of_ne ?_
      rw [Session.lifecycle, (h.steady env s ctx hp).phase, hp]
      exact fun hc => by cases hc
    · rw [h.shut env s e he]
      exact hs

omit [Interpreter σ] in
theorem run_telling (op : Op σ α) (tell : α → Answer) (env : Ambient) (s : Scene σ) :
    ((Request.telling op tell).run env s).2 = (op.run env s).2 := by
  rw [Request.telling, run_bind]
  cases op.run env s with
  | mk r s' => cases r <;> rfl

omit [Interpreter σ] in
theorem result_telling (op : Op σ α) (tell : α → Answer) (env : Ambient) (s : Scene σ) :
    ((Request.telling op tell).run env s).1 = (op.run env s).1.map tell := by
  rw [Request.telling, run_bind]
  cases op.run env s with
  | mk r s' => cases r <;> rfl

theorem Orderly.telling {op : Op σ α} (h : op.Orderly) (tell : α → Answer) :
    (Request.telling op tell).Orderly where
  conduct env s := by
    rw [run_telling]
    exact h.conduct env s
  tidy env s hs := by
    rw [run_telling]
    exact h.tidy env s hs

end Op

namespace Session

theorem orderly_start : (start : Op σ Unit).Orderly where
  conduct env s := by
    rcases run_start env s with ⟨hp, hrun⟩ | ⟨e, hrun⟩
    · rw [hrun]
      exact (attempt_acquire env s hp).conduct
    · rw [hrun]
      exact .idle _
  tidy env s hs := by
    rcases run_start env s with ⟨hp, hrun⟩ | ⟨e, hrun⟩
    · rw [hrun]
      exact tidy_of_ne (attempt_acquire env s hp).not_closed
    · rw [hrun]
      exact hs

/-- A session is live for a caller, live for somebody else, or not live. -/
theorem tenure_cases (s : Session) (caller : Thread) :
    (∃ ctx, s.phase = .live caller ctx) ∨
      (∃ owner ctx, owner ≠ caller ∧ s.phase = .live owner ctx) ∨ s.tenure? = none := by
  cases hp : s.phase with
  | live owner ctx =>
      by_cases h : owner = caller
      · exact .inl ⟨ctx, by rw [h]⟩
      · exact .inr (.inl ⟨owner, ctx, h, rfl⟩)
  | fresh | spoiled | closed => exact .inr (.inr (by rw [tenure?, hp]; rfl))

theorem close_own {env : Ambient} {s : Scene σ} {ctx : Handle}
    (hp : s.session.phase = .live env.caller ctx) :
    (close : Op σ Unit).run env s = (finish env.caller ctx : Op σ Unit).run env s := by
  rw [close, Op.run_bind_ok (Op.run_session _ _), hp]
  dsimp only
  rw [Op.run_bind_ok (Op.run_caller _ _), if_pos rfl]

theorem close_foreign {env : Ambient} {s : Scene σ} {owner : Thread} {ctx : Handle}
    (hne : owner ≠ env.caller) (hp : s.session.phase = .live owner ctx) :
    (close : Op σ Unit).run env s = (.error (.foreignClose owner env.caller), s) := by
  rw [close, Op.run_bind_ok (Op.run_session _ _), hp]
  dsimp only
  rw [Op.run_bind_ok (Op.run_caller _ _), if_neg hne, Op.run_fail]

theorem close_idle {env : Ambient} {s : Scene σ} (h : s.session.tenure? = none) :
    ∃ session, (close : Op σ Unit).run env s = (.ok (), ⟨session, s.world⟩) ∧
      session.tenure? = none ∧ (session = s.session ∨ session = s.session.ended none) := by
  rw [close, Op.run_bind_ok (Op.run_session _ _)]
  cases hp : s.session.phase with
  | fresh => exact ⟨_, rfl, rfl, .inr rfl⟩
  | spoiled => exact ⟨_, rfl, rfl, .inr rfl⟩
  | closed owner => exact ⟨s.session, rfl, h, .inl rfl⟩
  | live owner ctx => rw [tenure?_live hp] at h; cases h

theorem orderly_close : (close : Op σ Unit).Orderly where
  conduct env s := by
    rcases s.session.tenure_cases env.caller with ⟨ctx, hp⟩ | ⟨owner, ctx, hne, hp⟩ | hnone
    · rw [close_own hp]
      exact conduct_finish hp
    · rw [close_foreign hne hp]
      exact .idle _
    · obtain ⟨session, hclose, hnone', -⟩ := close_idle hnone
      rw [hclose, Scene.standing, Scene.standing, hnone, hnone']
      exact .idle _
  tidy env s hs := by
    rcases s.session.tenure_cases env.caller with ⟨ctx, hp⟩ | ⟨owner, ctx, hne, hp⟩ | hnone
    · obtain ⟨log, hfinish⟩ := run_finish ctx env s
      rw [close_own hp, hfinish]
      exact tidy_ended _ _
    · rw [close_foreign hne hp]
      exact hs
    · obtain ⟨session, hclose, -, rfl | rfl⟩ := close_idle hnone
      · rw [hclose]
        exact hs
      · rw [hclose]
        exact tidy_ended _ _

/-- Throwing a session away closes it; only what is reported may differ. -/
theorem run_discard (env : Ambient) (s : Scene σ) :
    ((discard : Op σ Unit).run env s).2.session = ((close : Op σ Unit).run env s).2.session ∧
      ((discard : Op σ Unit).run env s).2.standing =
        ((close : Op σ Unit).run env s).2.standing := by
  unfold discard Op.run
  dsimp only
  split
  · next s' heq => exact ⟨(congrArg (·.2.session) heq).symm, (congrArg (·.2.standing) heq).symm⟩
  · next e s' heq => exact ⟨(congrArg (·.2.session) heq).symm, (congrArg (·.2.standing) heq).symm⟩

theorem orderly_discard : (discard : Op σ Unit).Orderly where
  conduct env s := by
    rw [(run_discard env s).2]
    exact orderly_close.conduct env s
  tidy env s hs := by
    rw [(run_discard env s).1]
    exact orderly_close.tidy env s hs

/-- What is left of a session that is thrown away: it is lost if it is live and the caller does not
own it. -/
def leftBehind (s : Session) (caller : Thread) : Option Session :=
  if s.isInitialized && decide (s.owner? ≠ some caller) then some s else none

omit [Interpreter σ] in
theorem leftBehind_own {s : Session} {caller : Thread} {ctx : Handle}
    (hp : s.phase = .live caller ctx) : s.leftBehind caller = none := by
  rw [leftBehind, owner?_live hp, if_neg (by simp)]

theorem leftBehind_foreign {s : Session} {caller owner : Thread} {ctx : Handle}
    (hne : owner ≠ caller) (hp : s.phase = .live owner ctx) : s.leftBehind caller = some s := by
  rw [leftBehind, s.isInitialized_eq, tenure?_live hp, owner?_live hp, if_pos (by simpa using hne)]

theorem leftBehind_idle {s : Session} (hnone : s.tenure? = none) (caller : Thread) :
    s.leftBehind caller = none := by
  rw [leftBehind, s.isInitialized_eq, hnone, if_neg (by simp)]

theorem tenure?_leftBehind (s : Session) (caller : Thread) :
    (s.leftBehind caller).bind tenure? = s.tenure?.filter fun p => p.owner ≠ caller := by
  rcases s.tenure_cases caller with ⟨ctx, hp⟩ | ⟨owner, ctx, hne, hp⟩ | hnone
  · rw [leftBehind_own hp, tenure?_live hp, Option.filter_some, if_neg (by simp), Option.bind_none]
  · rw [leftBehind_foreign hne hp, Option.bind_some, tenure?_live hp, Option.filter_some,
      if_pos (by simpa using hne)]
  · rw [leftBehind_idle hnone, hnone, Option.filter_none, Option.bind_none]

/-- A session that is thrown away keeps its context if its owner is another thread. -/
theorem tenure?_discard (env : Ambient) (s : Scene σ) :
    ((discard : Op σ Unit).run env s).2.session.tenure? =
      s.session.tenure?.filter fun h => h.owner ≠ env.caller := by
  rw [(run_discard env s).1]
  rcases s.session.tenure_cases env.caller with ⟨ctx, hp⟩ | ⟨owner, ctx, hne, hp⟩ | hnone
  · obtain ⟨log, hfinish⟩ := run_finish ctx env s
    rw [close_own hp, hfinish, tenure?_live hp, Option.filter_some, if_neg (by simp)]
    rfl
  · rw [close_foreign hne hp, tenure?_live hp, Option.filter_some, if_pos (by simpa using hne)]
  · obtain ⟨session, hclose, hnone', -⟩ := close_idle hnone
    rw [hclose, hnone, hnone', Option.filter_none]

/-- Throwing away a session that is not live is seen by nobody. -/
theorem discard_idle {env : Ambient} {s : Scene σ} (h : s.session.tenure? = none) :
    ((discard : Op σ Unit).run env s).2.standing = s.standing := by
  obtain ⟨session, hclose, hnone, -⟩ := close_idle h
  rw [(run_discard env s).2, hclose, Scene.standing, Scene.standing, h, hnone]

/-- Creating a session: nobody has a context before, and who fails has none after. -/
theorem conduct_create (settings : Settings) (env : Ambient) (w : World σ) :
    Conduct env.files env.caller ⟨none, w.registry, w.line⟩
      ⟨(create settings env w).1.toOption.bind tenure?, (create settings env w).2.registry,
        (create settings env w).2.line⟩ := by
  unfold create
  split
  · exact .idle _
  · split
    · exact .idle _
    · have h : Attempt env ⟨fresh settings, w⟩ ((start : Op σ Unit).run env ⟨fresh settings, w⟩) :=
        attempt_acquire env ⟨fresh settings, w⟩ rfl
      split
      · next hrun =>
        rw [hrun] at h
        exact h.conduct
      · next e s hrun =>
        rw [hrun] at h
        have hnone : s.session.tenure? = none := h.failed e rfl
        have hc : Conduct env.files env.caller ⟨none, w.registry, w.line⟩ s.standing := h.conduct
        rw [← discard_idle hnone, Scene.standing, tenure?_discard, hnone] at hc
        exact hc

theorem tidy_create {settings : Settings} {env : Ambient} {w : World σ} {s : Session}
    (h : (create settings env w).1 = .ok s) : s.Tidy := by
  unfold create at h
  split at h
  · cases h
  · split at h
    · cases h
      exact tidy_fresh settings
    · have ha : Attempt env ⟨fresh settings, w⟩ ((start : Op σ Unit).run env ⟨fresh settings, w⟩) :=
        attempt_acquire env ⟨fresh settings, w⟩ rfl
      split at h
      · next hrun =>
        cases h
        rw [hrun] at ha
        exact tidy_of_ne ha.not_closed
      · cases h

end Session

/-- Every request conducts itself. -/
theorem orderly_perform (r : Request) : (r.perform : Op σ Answer).Orderly := by
  cases hr : r.isBoundary with
  | false => exact (guarded_perform hr).orderly
  | true =>
      cases r with
      | start => exact Session.orderly_start.telling _
      | close => exact Session.orderly_close.telling _
      | evaluate | apply | runFile | runFileWith | useResolver | read | readBytes | bind
      | switchMode => cases hr

end PinnedSessions
