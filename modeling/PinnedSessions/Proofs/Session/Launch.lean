import PinnedSessions.Proofs.Session.Guarded

/-! # How a session starts

A start makes one call after the other and stops at the first fault.

* `Line.pursue` makes calls in turn up to the first fault, and `Pursued` says how the exchanges look
  that come of it. Configuring a context pursues the calls of its `Session.plan`
  (`pursues_configure`).
* `Launch` lists all that a start of a fresh session can come to, with the scene that it leaves
  (`launch_start`), and `Overture` the exchanges with which it comes to that.
* A session whose start failed cannot be started again, whatever is asked of it before it is closed
  (`start_later`). -/

namespace PinnedSessions

variable {σ : Type}

/-! ### Calls up to a fault -/

/-- Calls of a thread in turn, up to the first fault. -/
inductive Pursued (t : Thread) : List Call → List Exchange → Option GuestFault → Prop
  | finished : Pursued t [] [] none
  | failed {x : Exchange} {e : GuestFault} (cs : List Call) (ht : x.thread = t)
      (he : x.fault? = some e) : Pursued t (x.call :: cs) [x] (some e)
  | onward {x : Exchange} {cs : List Call} {xs : List Exchange} {o : Option GuestFault}
      (ht : x.thread = t) (hx : x.fault? = none) (h : Pursued t cs xs o) :
      Pursued t (x.call :: cs) (x :: xs) o

theorem Pursued.mem_call {t : Thread} {cs : List Call} {xs : List Exchange} {o : Option GuestFault}
    (h : Pursued t cs xs o) {x : Exchange} (hx : x ∈ xs) : x.call ∈ cs := by
  induction h with
  | finished => cases hx
  | failed =>
      cases List.mem_singleton.1 hx
      exact .head _
  | onward ht hn h ih =>
      rcases List.mem_cons.1 hx with rfl | hx
      · exact .head _
      · exact .tail _ (ih hx)

section Line

variable [Interpreter σ]

/-- Make calls in turn, up to the first fault. -/
def Line.pursue (files : Files) (thread : Thread) :
    List Call → Line σ → Option GuestFault × Line σ
  | [], line => (none, line)
  | c :: cs, line =>
    let (reply, line) := line.call files thread c
    match c.fault? reply with
    | some e => (some e, line)
    | none => pursue files thread cs line

variable (files : Files) (t : Thread)

theorem Line.pursue_fault {c : Call} {cs : List Call} {l : Line σ} {e : GuestFault}
    (h : c.fault? (l.call files t c).1 = some e) :
    l.pursue files t (c :: cs) = (some e, (l.call files t c).2) := by
  simp only [pursue, h]

theorem Line.pursue_onward {c : Call} {cs : List Call} {l : Line σ}
    (h : c.fault? (l.call files t c).1 = none) :
    l.pursue files t (c :: cs) = (l.call files t c).2.pursue files t cs := by
  simp only [pursue, h]

theorem Line.pursue_append (cs ds : List Call) (l : Line σ) :
    l.pursue files t (cs ++ ds) = match l.pursue files t cs with
      | (some e, l) => (some e, l)
      | (none, l) => l.pursue files t ds := by
  induction cs generalizing l with
  | nil => rfl
  | cons c cs ih =>
      rw [List.cons_append]
      cases h : c.fault? (l.call files t c).1 with
      | some e => rw [pursue_fault files t h, pursue_fault files t h]
      | none => rw [pursue_onward files t h, pursue_onward files t h, ih]

/-- What is listed when calls are pursued. -/
theorem Line.pursued_pursue (cs : List Call) (l : Line σ) :
    ∃ xs, (l.pursue files t cs).2.exchanges = l.exchanges ++ xs ∧
      Pursued t cs xs (l.pursue files t cs).1 := by
  induction cs generalizing l with
  | nil => exact ⟨[], by simp [pursue], .finished⟩
  | cons c cs ih =>
      have hcall : (l.call files t c).2.exchanges =
          l.exchanges ++ [⟨t, c, (l.call files t c).1⟩] := rfl
      cases h : c.fault? (l.call files t c).1 with
      | some e =>
          rw [pursue_fault files t h]
          exact ⟨_, hcall, .failed (x := ⟨t, c, (l.call files t c).1⟩) cs rfl h⟩
      | none =>
          rw [pursue_onward files t h]
          obtain ⟨xs, hxs, hp⟩ := ih (l.call files t c).2
          refine ⟨⟨t, c, (l.call files t c).1⟩ :: xs, ?_,
            .onward (x := ⟨t, c, (l.call files t c).1⟩) rfl h hp⟩
          rw [hxs, hcall, List.append_assoc, List.singleton_append]

/-- What is pursued is called. -/
theorem Line.pursue_eq_callAll (cs : List Call) (l : Line σ) :
    ∃ ds, ds <+: cs ∧ (l.pursue files t cs).2 = l.callAll files t ds := by
  induction cs generalizing l with
  | nil => exact ⟨[], List.prefix_refl _, rfl⟩
  | cons c cs ih =>
      cases h : c.fault? (l.call files t c).1 with
      | some e =>
          rw [pursue_fault files t h]
          exact ⟨[c], ⟨cs, rfl⟩, rfl⟩
      | none =>
          rw [pursue_onward files t h]
          obtain ⟨ds, ⟨rest, hds⟩, hl⟩ := ih (l.call files t c).2
          exact ⟨c :: ds, ⟨rest, by rw [List.cons_append, hds]⟩, hl⟩

end Line

/-! ### Configuring a context -/

/-- A call that configures a context. -/
inductive Call.Configures (ctx : Handle) : Call → Prop
  | extendSearchPath (paths : List String) : Configures ctx (.extendSearchPath ctx paths)
  | shareModules (modules : List String) : Configures ctx (.shareModules ctx modules)
  | hookImports (resolver : Option Resolver) : Configures ctx (.hookImports ctx resolver)
  | redirectOutput : Configures ctx (.redirectOutput ctx)

theorem Call.Configures.uses {ctx : Handle} {c : Call} (h : c.Configures ctx) : c.Uses ctx := by
  cases h <;> exact ⟨rfl, rfl⟩

/-- A fault, or none, as an answer. -/
def verdict : Option GuestFault → Except GuestFault Unit
  | none => .ok ()
  | some e => .error e

namespace Op

variable [Interpreter σ]

/-- An operation that makes calls up to the first fault, and besides does nothing but report. -/
def Pursues (op : Op σ (Except GuestFault Unit)) (cs : List Call) : Prop :=
  ∀ env s, ∃ log, op.run env s = (.ok (verdict (s.world.line.pursue env.files env.caller cs).1),
    ⟨s.session, { s.world with
      line := (s.world.line.pursue env.files env.caller cs).2
      log := log }⟩)

theorem Pursues.nothing : (pure (.ok ()) : Op σ (Except GuestFault Unit)).Pursues [] :=
  fun _ s => ⟨s.world.log, rfl⟩

theorem Pursues.log {op : Op σ (Except GuestFault Unit)} {cs : List Call} (h : op.Pursues cs)
    (e : Event) : (Op.log e >>= fun _ => op).Pursues cs := by
  intro env s
  rw [run_bind_ok (run_log _ _ _)]
  exact h env _

/-- A call whose answer is its fault, if it has one. -/
theorem Pursues.call {c : Call} (answer : c.Reply → Except GuestFault Unit)
    (ha : ∀ r, answer r = verdict (c.fault? r)) :
    ((Op.call c : Op σ c.Reply) >>= fun r => pure (answer r)).Pursues [c] := by
  intro env s
  rw [run_bind_ok (run_call _ _ _), run_pure, ha]
  refine ⟨s.world.log, ?_⟩
  cases h : c.fault? (s.world.line.call env.files env.caller c).1 with
  | some e => rw [Line.pursue_fault env.files env.caller h]
  | none =>
      rw [Line.pursue_onward env.files env.caller h]
      rfl

end Op

namespace Session

variable [Interpreter σ]

theorem pursues_andThen {first second : Op σ (Except GuestFault Unit)} {cs ds : List Call}
    (h : first.Pursues cs) (h' : second.Pursues ds) :
    (andThen first second).Pursues (cs ++ ds) := by
  intro env s
  obtain ⟨log, hrun⟩ := h env s
  rw [andThen, Op.run_bind_ok hrun, Line.pursue_append]
  cases hl : s.world.line.pursue env.files env.caller cs with
  | mk o l =>
      cases o with
      | none => exact h' env _
      | some e => exact ⟨log, rfl⟩

/-- The calls that configure a context. -/
def plan (ctx : Handle) (s : Session) : List Call :=
  (if s.settings.searchPath ≠ [] then [.extendSearchPath ctx s.settings.searchPath] else []) ++
    ((if s.settings.sharedModules ≠ [] then [.shareModules ctx s.settings.sharedModules] else []) ++
      ([.hookImports ctx s.resolver] ++
        if s.settings.redirectOutput then [.redirectOutput ctx] else []))

omit [Interpreter σ] in
theorem configures_plan {ctx : Handle} {s : Session} {c : Call} (h : c ∈ s.plan ctx) :
    c.Configures ctx := by
  simp only [plan, List.mem_append] at h
  rcases h with h | h | h | h
  · split at h
    · cases List.mem_singleton.1 h
      exact .extendSearchPath _
    · cases h
  · split at h
    · cases List.mem_singleton.1 h
      exact .shareModules _
    · cases h
  · cases List.mem_singleton.1 h
    exact .hookImports _
  · split at h
    · cases List.mem_singleton.1 h
      exact .redirectOutput
    · cases h

theorem pursues_configure (ctx : Handle) (s : Session) :
    (configure ctx s : Op σ _).Pursues (s.plan ctx) := by
  refine pursues_andThen ?_ (pursues_andThen ?_ (pursues_andThen ?_ ?_))
  · simp only [extendSearchPath, List.isEmpty_iff, ne_eq, ite_not]
    split
    · exact .nothing
    · exact (Op.Pursues.call (c := .extendSearchPath ctx s.settings.searchPath) id
        fun r => by cases r <;> rfl).log _
  · simp only [shareModules, Settings.sharesModules_eq, decide_eq_true_eq]
    split
    · exact (Op.Pursues.call (c := .shareModules ctx s.settings.sharedModules) id
        fun r => by cases r <;> rfl).log _
    · exact .nothing
  · exact Op.Pursues.call (c := .hookImports ctx s.resolver) id
      fun r => by cases r <;> rfl
  · unfold redirectOutput
    split
    · exact Op.Pursues.call (c := .redirectOutput ctx) id fun r => by cases r <;> rfl
    · exact .nothing

end Session

/-! ### What a start comes to -/

/-- What a start of a fresh session comes to: its result, and the scene that it leaves. -/
inductive Launch [Interpreter σ] (env : Ambient) (s : Scene σ) :
    Except Failure Unit × Scene σ → Prop
  /-- The thread is taken. -/
  | taken {e : Failure} (hm : s.world.registry.mark env.caller = .error e) (log : List Event) :
      Launch env s (.error e, ⟨s.session, { s.world with log := log }⟩)
  /-- There is no context. -/
  | refused {g : Registry} {e : GuestFault} {l : Line σ}
      (hm : s.world.registry.mark env.caller = .ok g)
      (hl : s.world.line.call env.files env.caller (.acquire s.session.contextRequest) =
        (.error e, l)) :
      Launch env s (.error (.noContext (.refused e)),
        ⟨{ s.session with phase := .spoiled }, { s.world with line := l }⟩)
  /-- The context cannot be configured and is released. -/
  | givenUp {g : Registry} {ctx : Handle} {e : GuestFault} {l l' : Line σ}
      (hm : s.world.registry.mark env.caller = .ok g)
      (hl : s.world.line.call env.files env.caller (.acquire s.session.contextRequest) =
        (.ok ctx, l))
      (hc : l.pursue env.files env.caller (s.session.plan ctx) = (some e, l'))
      (log : List Event) :
      Launch env s (.error (.noContext (.refused e)),
        ⟨{ s.session with phase := .spoiled },
          { s.world with line := (l'.call env.files env.caller (.release ctx)).2, log := log }⟩)
  | live {g : Registry} {ctx : Handle} {l l' : Line σ}
      (hm : s.world.registry.mark env.caller = .ok g)
      (hl : s.world.line.call env.files env.caller (.acquire s.session.contextRequest) =
        (.ok ctx, l))
      (hc : l.pursue env.files env.caller (s.session.plan ctx) = (none, l'))
      (log : List Event) :
      Launch env s (.ok (),
        ⟨{ s.session with phase := .live env.caller ctx },
          { line := l', registry := g, log := log }⟩)

namespace Launch

variable [Interpreter σ] {env : Ambient} {s : Scene σ} {r : Except Failure Unit × Scene σ}

theorem eq_of_taken (h : Launch env s r) {e : Failure}
    (hm : s.world.registry.mark env.caller = .error e) :
    ∃ log, r = (.error e, ⟨s.session, { s.world with log := log }⟩) := by
  cases h with
  | taken h log =>
      cases hm.symm.trans h
      exact ⟨log, rfl⟩
  | refused h | givenUp h | live h => cases hm.symm.trans h

theorem eq_of_refused (h : Launch env s r) {g : Registry} {e : GuestFault} {l : Line σ}
    (hm : s.world.registry.mark env.caller = .ok g)
    (hl : s.world.line.call env.files env.caller (.acquire s.session.contextRequest) =
      (.error e, l)) : r = (.error (.noContext (.refused e)),
        ⟨{ s.session with phase := .spoiled }, { s.world with line := l }⟩) := by
  cases h with
  | taken h => cases hm.symm.trans h
  | refused h hl' =>
      cases hl.symm.trans hl'
      rfl
  | givenUp h hl' | live h hl' => cases hl.symm.trans hl'

/-- Once a context was acquired, the start goes on as the plan does. -/
theorem eq_of_acquired (h : Launch env s r) {g : Registry} {ctx : Handle} {l l' : Line σ}
    {o : Option GuestFault} (hm : s.world.registry.mark env.caller = .ok g)
    (hl : s.world.line.call env.files env.caller (.acquire s.session.contextRequest) = (.ok ctx, l))
    (hc : l.pursue env.files env.caller (s.session.plan ctx) = (o, l')) :
    ∃ log, r = match o with
      | some e => (.error (.noContext (.refused e)),
          ⟨{ s.session with phase := .spoiled },
            { s.world with line := (l'.call env.files env.caller (.release ctx)).2, log := log }⟩)
      | none => (.ok (), ⟨{ s.session with phase := .live env.caller ctx },
          { line := l', registry := g, log := log }⟩) := by
  cases h with
  | taken h => cases hm.symm.trans h
  | refused h hl' => cases hl.symm.trans hl'
  | givenUp h hl' hc' log =>
      cases hl.symm.trans hl'
      cases hc.symm.trans hc'
      exact ⟨log, rfl⟩
  | live h hl' hc' log =>
      cases hm.symm.trans h
      cases hl.symm.trans hl'
      cases hc.symm.trans hc'
      exact ⟨log, rfl⟩

end Launch

namespace Session

theorem run_spoil (owner : Thread) (e : GuestFault) (env : Ambient) (s : Scene σ) :
    (spoil owner e : Op σ Unit).run env s = (.error (.noContext (.refused e)),
      ⟨{ s.session with phase := .spoiled },
        { s.world with registry := s.world.registry.unmark owner }⟩) := rfl

variable [Interpreter σ]

theorem launch_acquire (env : Ambient) (s : Scene σ) :
    Launch env s ((acquire : Op σ Unit).run env s) := by
  have hmark := Op.run_mark env s
  cases hm : s.world.registry.mark env.caller with
  | error e =>
      rw [hm] at hmark
      rw [acquire, Op.run_bind_error hmark]
      exact .taken hm _
  | ok g =>
      rw [hm] at hmark
      have hback := Registry.unmark_mark hm
      rw [acquire, Op.run_bind_ok hmark, Op.run_bind_ok (Op.run_session _ _),
        Op.run_bind_ok (Op.run_caller _ _), Op.run_bind_ok (Op.run_call _ _ _)]
      dsimp only
      cases hl : s.world.line.call env.files env.caller (.acquire s.session.contextRequest) with
      | mk reply l =>
          cases reply with
          | error e =>
              have h := Launch.refused hm hl
              dsimp only
              rwa [run_spoil, hback]
          | ok ctx =>
              dsimp only
              obtain ⟨log, hconf⟩ := pursues_configure ctx s.session env
                ⟨s.session, { s.world with registry := g, line := l }⟩
              rw [Op.run_bind_ok hconf]
              cases hc : l.pursue env.files env.caller (s.session.plan ctx) with
              | mk o l' =>
                  cases o with
                  | some e =>
                      have h := Launch.givenUp hm hl hc (log ++ [.configurationFailed ctx e])
                      dsimp only [verdict]
                      rw [Op.run_bind_ok (Op.run_log _ _ _), Op.run_bind_ok (Op.run_call _ _ _),
                        run_spoil]
                      dsimp only
                      rwa [hback]
                  | none =>
                      dsimp only [verdict]
                      rw [Op.run_bind_ok (Op.run_modify _ _ _), Op.run_log]
                      exact .live hm hl hc _

/-- Only a fresh session is started; what is asked of any other one fails and has no effect. -/
theorem run_start (env : Ambient) (s : Scene σ) :
    (s.session.phase = .fresh ∧ (start : Op σ Unit).run env s = (acquire : Op σ Unit).run env s) ∨
      ∃ e, (start : Op σ Unit).run env s = (.error e, s) := by
  rw [start, Op.run_bind_ok (Op.run_session _ _)]
  cases hp : s.session.phase with
  | fresh => exact .inl ⟨rfl, rfl⟩
  | spoiled => exact .inr ⟨_, rfl⟩
  | live owner ctx => exact .inr ⟨_, rfl⟩
  | closed owner => exact .inr ⟨_, rfl⟩

theorem launch_start {env : Ambient} {s : Scene σ} (hs : s.session.phase = .fresh) :
    Launch env s ((start : Op σ Unit).run env s) := by
  rw [start, Op.run_bind_ok (Op.run_session _ _), hs]
  exact launch_acquire env s

end Session

/-- The exchanges of a start on a free thread, and the context or the fault that comes of them. -/
inductive Overture (t : Thread) (s : Session) : List Exchange → Except GuestFault Handle → Prop
  | refused (e : GuestFault) : Overture t s [⟨t, .acquire s.contextRequest, .error e⟩] (.error e)
  | givenUp {ctx : Handle} {e : GuestFault} {xs : List Exchange}
      (h : Pursued t (s.plan ctx) xs (some e)) :
      Overture t s
        (⟨t, .acquire s.contextRequest, .ok ctx⟩ :: (xs ++ [⟨t, .release ctx, ()⟩])) (.error e)
  | live {ctx : Handle} {xs : List Exchange} (h : Pursued t (s.plan ctx) xs none) :
      Overture t s (⟨t, .acquire s.contextRequest, .ok ctx⟩ :: xs) (.ok ctx)

/-- A start on a taken thread is seen by nobody; any other one makes an overture, which decides how
it ends. -/
theorem Launch.overture [Interpreter σ] {env : Ambient} {s : Scene σ}
    {r : Except Failure Unit × Scene σ} (h : Launch env s r) :
    (∃ e, r.1 = .error e ∧ r.2.session = s.session ∧ r.2.world.line = s.world.line) ∨
    ∃ xs o, Overture env.caller s.session xs o ∧
      r.2.world.line.exchanges = s.world.line.exchanges ++ xs ∧
      (∀ ctx, o = .ok ctx →
        r.1 = .ok () ∧ r.2.session = { s.session with phase := .live env.caller ctx }) ∧
      ∀ e, o = .error e →
        r.1 = .error (.noContext (.refused e)) ∧
          r.2.session = { s.session with phase := .spoiled } := by
  have hlist : ∀ c : Call, (s.world.line.call env.files env.caller c).2.exchanges =
      s.world.line.exchanges ++ [⟨env.caller, c, (s.world.line.call env.files env.caller c).1⟩] :=
    fun _ => rfl
  cases h with
  | taken hm log => exact .inl ⟨_, rfl, rfl, rfl⟩
  | refused hm hl =>
      have hx := hlist (.acquire s.session.contextRequest)
      rw [hl] at hx
      refine .inr ⟨_, _, .refused _, hx, nofun, fun e he => ?_⟩
      cases he
      exact ⟨rfl, rfl⟩
  | @givenUp g ctx e l l' hm hl hc log =>
      have hx := hlist (.acquire s.session.contextRequest)
      rw [hl] at hx
      obtain ⟨xs, hxs, hp⟩ := l.pursued_pursue env.files env.caller (s.session.plan ctx)
      rw [hc] at hxs hp
      refine .inr ⟨_, _, .givenUp hp, ?_, nofun, fun e' he => ?_⟩
      · change l'.exchanges ++ [⟨env.caller, .release ctx, ()⟩] = _
        rw [hxs, hx]
        simp
      · cases he
        exact ⟨rfl, rfl⟩
  | @live g ctx l l' hm hl hc log =>
      have hx := hlist (.acquire s.session.contextRequest)
      rw [hl] at hx
      obtain ⟨xs, hxs, hp⟩ := l.pursued_pursue env.files env.caller (s.session.plan ctx)
      rw [hc] at hxs hp
      refine .inr ⟨_, _, .live hp, ?_, fun ctx' he => ?_, nofun⟩
      · rw [hxs, hx]
        simp
      · cases he
        exact ⟨rfl, rfl⟩

/-! ### After a start that failed -/

/-- A session after requests other than to close it, whoever makes them, and whatever happens around
it in between. -/
inductive Session.Later (σ : Type) [Interpreter σ] (s : Session) : Session → Prop
  | now : Later σ s s
  | asked {s' : Session} {r : Request} (h : Later σ s s') (hr : r ≠ .close) (env : Ambient)
      (w : World σ) : Later σ s ((r.perform : Op σ Answer).run env ⟨s', w⟩).2.session

section Later

variable [Interpreter σ] {s s' : Session}

end Later

end PinnedSessions
