import PinnedSessions.Proofs.Session.Course
import PinnedSessions.Proofs.Session.Gate

/-! # Refused arguments

A request fails for its arguments exactly if its caller passes the gate and something is wrong with
them (`badArgument_iff`). Such a request makes no call and leaves all as it is, with one exception:
a request to replace the resolver and run a script replaces the resolver before it looks at the
path, so an empty path is refused with the new resolver in use (`untouched_of_badArgument`). -/

namespace PinnedSessions

variable {σ : Type} [Interpreter σ]

/-! ### What fails for its arguments -/

theorem Failure.ofGuest_ne_badArgument (e : GuestFault) (fault : ArgumentFault) :
    ofGuest e ≠ .badArgument fault := by
  cases e <;> nofun

namespace Session

theorem start_ne_badArgument (env : Ambient) (s : Scene σ) (fault : ArgumentFault) :
    ((start : Op σ Unit).run env s).1 ≠ .error (.badArgument fault) := by
  rw [start, Op.run_bind_ok (Op.run_session _ _)]
  cases s.session.phase with
  | spoiled | live | closed =>
      intro he
      cases he
  | fresh =>
      have h := launch_acquire env s
      dsimp only
      generalize (acquire : Op σ Unit).run env s = p at h ⊢
      cases h with
      | taken hm log =>
          unfold Registry.mark at hm
          split at hm <;> cases hm
          intro he
          cases he
      | refused | givenUp | live =>
          intro he
          cases he

theorem close_ne_badArgument (env : Ambient) (s : Scene σ) (fault : ArgumentFault) :
    ((close : Op σ Unit).run env s).1 ≠ .error (.badArgument fault) := by
  rcases s.session.tenure_cases env.caller with ⟨ctx, hp⟩ | ⟨owner, ctx, hne, hp⟩ | hnone
  · obtain ⟨log, hrun⟩ := run_finish ctx env s
    rw [close_own hp, hrun]
    nofun
  · rw [close_foreign hne hp]
    nofun
  · obtain ⟨session, hclose, -⟩ := close_idle hnone
    rw [hclose]
    nofun

end Session

namespace Course

variable {env : Ambient} {ctx : Handle} {r : Request} {s s' : Scene σ} {xs : List Exchange}
  {res : Except Failure Answer}

/-- A course fails for an argument exactly if there is something wrong with it. -/
theorem badArgument_iff (h : Course env ctx r s xs res s') (fault : ArgumentFault) :
    res = .error (.badArgument fault) ↔ r.flaw? = some fault := by
  induction h with
  | malformed hc hf => rw [hf]; simp
  | unreadable hf => simp [Request.flaw?, hf]
  | failed hc hf => simp [hf, Failure.ofGuest_ne_badArgument]
  | answered hc hf hx hres =>
      rw [hf]
      constructor
      · intro he
        obtain ⟨conversion, hne⟩ := hres _ he
        cases hne
      · nofun
  | unchanged | replaced | switched => simp [Request.flaw?]
  | both h h' ih ih' => exact ih'
  | @fed line s xs res buffer l h log =>
      constructor
      · intro he
        cases res with
        | ok outcome => cases he
        | error e =>
            obtain ⟨guest, rfl⟩ := h.error
            exact absurd (Except.error.inj he) (Failure.ofGuest_ne_badArgument guest fault)
      · nofun

end Course

omit [Interpreter σ] in
/-- Telling a result keeps the failures. -/
theorem Op.error_telling {α : Type} (op : Op σ α) (tell : α → Answer) (env : Ambient) (s : Scene σ)
    (e : Failure) : ((Request.telling op tell).run env s).1 = .error e ↔
      (op.run env s).1 = .error e := by
  rw [Op.result_telling]
  cases (op.run env s).1 <;> simp [Except.map]

/-- A request fails for its arguments exactly if its caller owns a live context and something is
wrong with them. -/
theorem badArgument_iff (r : Request) (env : Ambient) (s : Scene σ) (fault : ArgumentFault) :
    ((r.perform : Op σ Answer).run env s).1 = .error (.badArgument fault) ↔
      (∃ ctx, s.session.phase = .live env.caller ctx) ∧ r.flaw? = some fault := by
  rcases perform_cases r env s with ⟨e, he, hrun⟩ | ⟨ctx, xs, -, hp, h⟩ | ⟨rfl, -⟩ | ⟨rfl, -⟩
  · rw [hrun]
    constructor
    · intro heq
      cases heq
      simp [Session.gate_error_iff] at he
    · rintro ⟨⟨ctx, hp⟩, -⟩
      rw [Session.gate_live hp] at he
      cases he
  · rw [h.badArgument_iff fault]
    exact ⟨fun hf => ⟨⟨ctx, hp⟩, hf⟩, And.right⟩
  · rw [Request.perform, Request.silent, Op.error_telling]
    refine ⟨fun h => absurd h (Session.start_ne_badArgument env s fault), fun h => ?_⟩
    cases h.2
  · rw [Request.perform, Request.silent, Op.error_telling]
    refine ⟨fun h => absurd h (Session.close_ne_badArgument env s fault), fun h => ?_⟩
    cases h.2

/-! ### What is touched -/

/-- A course that fails for an argument leaves the scene as it is, unless it has replaced the
resolver before. -/
theorem Course.untouched {env : Ambient} {ctx : Handle} {r : Request} {s s' : Scene σ}
    {xs : List Exchange} {fault : ArgumentFault}
    (h : Course env ctx r s xs (.error (.badArgument fault)) s') :
    s' = s ∨ ∃ resolver log, r = .runFileWith "" resolver ∧
      s.session.resolver.any (·.same resolver) = false ∧
      s' = s.onward { s.session with resolver := some resolver }
        (s.world.line.next env (.useResolver ctx resolver)) log := by
  generalize hres : (.error (.badArgument fault) : Except Failure Answer) = res at h
  induction h with
  | malformed | unreadable | unchanged => exact .inl rfl
  | failed hc hf hx log =>
      exact absurd (Except.error.inj hres).symm (Failure.ofGuest_ne_badArgument _ fault)
  | answered hc hf hx hconv =>
      obtain ⟨conversion, hne⟩ := hconv _ hres.symm
      cases hne
  | replaced | switched => cases hres
  | @both path resolver s₁ s₂ s₃ xs ys res h h' ih ih' =>
      have hpath : path = "" := by
        have hf := (h'.badArgument_iff fault).1 hres.symm
        simp only [Request.flaw?] at hf
        split at hf
        · next he => exact he
        · cases hf
      subst hpath
      rcases ih' hres with rfl | ⟨_, _, hne, -⟩
      · cases h with
        | answered hc => cases hc
        | unchanged hs => exact .inl rfl
        | replaced hs log => exact .inr ⟨resolver, log, rfl, hs, rfl⟩
      · cases hne
  | @fed line s xs res buffer l h log =>
      cases res with
      | ok outcome => cases hres
      | error e =>
          obtain ⟨guest, rfl⟩ := h.error
          exact absurd (Except.error.inj hres).symm (Failure.ofGuest_ne_badArgument guest fault)

/-- A request that fails for its arguments makes no call and leaves the session and all around it as
they are. Only an empty path that comes with another resolver than the one in use is refused after
that has been replaced; then nothing but the resolver is changed, by one call. -/
theorem untouched_of_badArgument {r : Request} {env : Ambient} {s : Scene σ} {fault : ArgumentFault}
    (h : ((r.perform : Op σ Answer).run env s).1 = .error (.badArgument fault)) :
    ((r.perform : Op σ Answer).run env s).2 = s ∨
      ∃ ctx resolver log, s.session.phase = .live env.caller ctx ∧ r = .runFileWith "" resolver ∧
        s.session.resolver.any (·.same resolver) = false ∧
        ((r.perform : Op σ Answer).run env s).2 =
          s.onward { s.session with resolver := some resolver }
            (s.world.line.next env (.useResolver ctx resolver)) log := by
  obtain ⟨⟨ctx, hp⟩, hf⟩ := (badArgument_iff r env s fault).1 h
  have hr : r.isBoundary = false := by
    cases r with
    | start | close => cases hf
    | _ => rfl
  obtain ⟨xs, hcourse⟩ := course_perform hr hp
  rw [h] at hcourse
  rcases hcourse.untouched with heq | ⟨resolver, log, hreq, hnew, heq⟩
  · exact .inl heq
  · exact .inr ⟨ctx, resolver, log, hp, hreq, hnew, heq⟩

theorem untouched_of_badArgument_blank :
    ((Request.apply " " [] none).perform.run ⟨⟨"1"⟩, .empty⟩ rented).1 =
        .error (.badArgument .functionName) ∧
      ((Request.apply " " [] none).perform.run ⟨⟨"1"⟩, .empty⟩ rented).2 = rented := by
  have hrun : ((Request.apply " " [] none).perform.run ⟨⟨"1"⟩, .empty⟩ rented).1 =
      .error (.badArgument .functionName) := rfl
  refine ⟨hrun, ?_⟩
  rcases untouched_of_badArgument hrun with heq | ⟨ctx, resolver, log, -, hr, -⟩
  · exact heq
  · cases hr

/-- A session that has just been started on an empty interpreter. -/
def opened : Scene MemoryInterpreter :=
  ((Session.start : Op MemoryInterpreter Unit).run ⟨⟨"1"⟩, .empty⟩
    ⟨.fresh {}, { line := ⟨.new, []⟩ }⟩).2

/-- A script without a path is to be run with another resolver. -/
def misdirected : Except Failure Answer × Scene MemoryInterpreter :=
  (Request.runFileWith "" ⟨"r", "plugins", []⟩).perform.run ⟨⟨"1"⟩, .empty⟩ opened

/-- So not every request that fails for its arguments leaves a session as it is: it may have made a
call, and the session may use another resolver. -/
theorem touched_of_emptyPath :
    opened.session.isInitialized = true ∧ opened.session.resolver = none ∧
      misdirected.1 = .error (.badArgument .scriptPath) ∧
      misdirected.2.world.line.exchanges.length = opened.world.line.exchanges.length + 1 ∧
      misdirected.2.session.resolver = some ⟨"r", "plugins", []⟩ :=
  ⟨rfl, rfl, rfl, rfl, rfl⟩

end PinnedSessions
