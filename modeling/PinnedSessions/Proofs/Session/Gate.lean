import PinnedSessions.Interpreter.Memory
import PinnedSessions.Proofs.Session.Conduct

/-! # The gate is exact

Whom the gate refuses is told so, and told nothing else: the owner's threads come first, then the
end of the session, then its beginning, and only then the arguments. A refusal changes nothing, and
nobody who passes the gate hears of one, whatever the interpreter answers (`gate_exact`).

* `Failure.isRefusal` are the failures of the gate.
* `Op.Frank` is an operation that never fails with one of them, and `Op.Lets` one that does not for
  a caller who owns a live context. The first are closed under going on with the result; the second
  are an operation that passes the gate, followed by frank ones. -/

namespace PinnedSessions

variable {σ τ α β ε : Type}

/-! ### Failures of the gate -/

/-- Who is refused, and how. -/
theorem Session.gate_error_iff (s : Session) (caller : Thread) (e : Failure) :
    s.gate caller = .error e ↔
      (∃ owner, s.owner? = some owner ∧ owner ≠ caller ∧ e = .foreignCaller owner caller) ∨
      ((∀ owner, s.owner? = some owner → owner = caller) ∧
        (s.lifecycle = .closed ∧ e = .closed ∨
          s.lifecycle = .uninitialized ∧ e = .uninitialized)) := by
  have hpass : ∀ l : Lifecycle, l.pass = .error e ↔
      l = .closed ∧ e = .closed ∨ l = .uninitialized ∧ e = .uninitialized := by
    intro l
    cases l <;> simp [Lifecycle.pass, eq_comm]
  unfold Session.gate Lifecycle.gate
  cases ho : s.owner? with
  | none => simpa using hpass s.lifecycle
  | some owner =>
      by_cases h : owner = caller
      · simpa [h] using hpass s.lifecycle
      · have h' : caller ≠ owner := Ne.symm h
        simp [h, h', eq_comm]

/-! ### Phases and what can be asked of them -/

theorem Session.phase_of_initialized {s : Session} (h : s.isInitialized = true) :
    ∃ owner ctx, s.phase = .live owner ctx := by
  unfold Session.isInitialized Session.lifecycle at h
  cases hp : s.phase with
  | live owner ctx => exact ⟨owner, ctx, rfl⟩
  | fresh | spoiled | closed => simp [hp, Phase.lifecycle] at h

theorem Session.phase_of_closed {s : Session} (h : s.isClosed = true) :
    ∃ owner, s.phase = .closed owner := by
  unfold Session.isClosed Session.lifecycle at h
  cases hp : s.phase with
  | closed owner => exact ⟨owner, rfl⟩
  | fresh | spoiled | live => simp [hp, Phase.lifecycle] at h

/-! ### Operations that do not refuse -/

namespace Op

/-- An operation that never fails the way the gate does. -/
def Frank (op : Op σ α) : Prop := ∀ env s e, (op.run env s).1 = .error e → e.isRefusal = false

/-- An operation that does not fail the way the gate does for the owner of a live context. -/
def Lets (op : Op σ α) : Prop := ∀ env s ctx, s.session.phase = .live env.caller ctx →
  ∀ e, (op.run env s).1 = .error e → e.isRefusal = false

/-- An operation that always has a result. -/
theorem Frank.of_ok {op : Op σ α} (h : ∀ env s, ∃ a, (op.run env s).1 = .ok a) : op.Frank := by
  intro env s e he
  obtain ⟨a, ha⟩ := h env s
  rw [ha] at he
  cases he

theorem Frank.pure (a : α) : (Pure.pure a : Op σ α).Frank := .of_ok fun _ _ => ⟨a, rfl⟩

theorem Frank.session : (Op.session : Op σ Session).Frank := .of_ok fun _ s => ⟨s.session, rfl⟩

theorem Frank.files : (Op.files : Op σ Files).Frank := .of_ok fun env _ => ⟨env.files, rfl⟩

theorem Frank.log (event : Event) : (Op.log event : Op σ Unit).Frank := .of_ok fun _ _ => ⟨(), rfl⟩

theorem Frank.modify (f : Session → Session) : (Op.modify f : Op σ Unit).Frank :=
  .of_ok fun _ _ => ⟨(), rfl⟩

theorem Frank.call [Interpreter σ] (c : Call) : (Op.call c : Op σ c.Reply).Frank :=
  .of_ok fun _ _ => ⟨_, rfl⟩

theorem Frank.fail {failure : Failure} (h : failure.isRefusal = false) :
    (Op.fail failure : Op σ α).Frank := by
  intro env s e he
  cases he
  exact h

theorem Frank.ofReply (r : Except GuestFault α) : (Op.ofReply r : Op σ α).Frank := by
  cases r with
  | ok a => exact .pure a
  | error fault => exact .fail (Failure.isRefusal_ofGuest fault)

theorem Frank.bind {op : Op σ α} {f : α → Op σ β} (h : op.Frank) (hf : ∀ a, (f a).Frank) :
    (op >>= f).Frank := by
  intro env s e he
  rw [run_bind] at he
  cases hrun : op.run env s with
  | mk r s' =>
      rw [hrun] at he
      cases r with
      | error e' =>
          cases he
          exact h env s e (by rw [hrun])
      | ok a => exact hf a env s' e he

theorem Lets.bind {op : Op σ α} {f : α → Op σ β} (h : op.Lets) (hf : ∀ a, (f a).Frank) :
    (op >>= f).Lets := by
  intro env s ctx hp e he
  rw [run_bind] at he
  cases hrun : op.run env s with
  | mk r s' =>
      rw [hrun] at he
      cases r with
      | error e' =>
          cases he
          exact h env s ctx hp e (by rw [hrun])
      | ok a => exact hf a env s' e he

/-- Two operations behind the gate, the first of which leaves the context live. -/
theorem Lets.seq [Interpreter σ] {op : Op σ α} {f : α → Op σ β} (h : op.Lets) (hg : op.Guarded)
    (hf : ∀ a, (f a).Lets) : (op >>= f).Lets := by
  intro env s ctx hp e he
  have hphase := (hg.steady env s ctx hp).phase
  rw [run_bind] at he
  cases hrun : op.run env s with
  | mk r s' =>
      rw [hrun] at he hphase
      cases r with
      | error e' =>
          cases he
          exact h env s ctx hp e (by rw [hrun])
      | ok a => exact hf a env s' ctx (hphase.trans hp) e he

theorem Lets.telling {op : Op σ α} (h : op.Lets) (tell : α → Answer) :
    (Request.telling op tell).Lets :=
  h.bind fun a => .pure (tell a)

end Op

/-! ### Feeding a line -/

/-- Feeding a line fails only as the sink does. -/
theorem LineBuffer.feed_error {P : ε → Prop} {sink : Sink τ ε}
    (hprobe : ∀ text s e, (sink.probe text s).1 = .error e → P e)
    (hrun : ∀ text s e, (sink.run text s).1 = .error e → P e) (line : Option String)
    (b : LineBuffer) (s : τ) (e : ε) (h : (b.feed sink line s).1 = .error e) : P e := by
  have hnow : ∀ text b s, (runNow sink text b s).1 = .error e → P e := by
    intro text b s hn
    unfold runNow at hn
    split at hn
    · cases hn
    · next heq =>
      cases hn
      exact hrun text s e (by rw [heq])
  unfold feed at h
  split at h
  · next text _ =>
    unfold take at h
    split at h
    · exact hnow text b s h
    · cases h
    · split at h
      · exact hnow text b _ h
      · cases h
      · next heq =>
        cases h
        exact hprobe text s e (by rw [heq])
  · unfold flush at h
    split at h
    · exact hnow _ _ s h
    · cases h

variable [Interpreter σ]

namespace Session

theorem frank_feed (ctx : Handle) (line : Option String) :
    (feed ctx line : Op σ Outcome).Frank := by
  intro env s e he
  refine LineBuffer.feed_error (P := fun e => e.isRefusal = false) ?_ ?_
    line s.session.buffer s.world.line e he
  · intro text l e' h
    unfold sink at h
    dsimp only at h
    split at h
    · cases h
    · cases h
      exact Failure.isRefusal_ofGuest _
  · intro text l e' h
    unfold sink at h
    dsimp only at h
    split at h
    · cases h
    · cases h
      exact Failure.isRefusal_ofGuest _

omit [Interpreter σ] in
theorem lets_context : (context : Op σ Handle).Lets := by
  intro env s ctx hp e he
  rw [context_live hp] at he
  cases he

end Session

/-- Continuations behind the gate are frank, and so operations behind the gate let their owner
pass. -/
theorem Op.closed_frank : Op.Closed (σ := σ) (fun f => ∀ ctx, (f ctx).Frank) Op.Lets where
  pure a _ := .pure a
  fail h _ := .fail h
  bind hop hf ctx := .bind (hop ctx) fun a => hf a ctx
  look hf ctx := .bind .session fun s => hf s.resolver s.buffer ctx
  files _ := .files
  log e ctx := .log (e ctx)
  putResolver _ _ := .modify _
  putBuffer _ _ := .modify _
  feed line ctx := Session.frank_feed ctx line
  runFile _ _ := .call _
  readBytes _ _ := .call _
  bindTo _ _ _ := .call _
  useResolver _ _ := .call _
  apply _ _ _ _ hf ctx := .bind (.call _) fun r => .bind (.ofReply r) fun v =>
    .bind (.modify _) fun _ => hf v ctx
  read _ _ _ hf ctx := .bind (.call _) fun r => .bind (.ofReply r) fun v =>
    .bind (.modify _) fun _ => hf v ctx
  gate hf := Session.lets_context.bind hf
  seq hg hop hf := hop.seq hg hf
  telling tell hop := hop.telling tell

/-- No request between the start and the end of a session refuses the owner of a live context. -/
theorem lets_perform {r : Request} (h : r.isBoundary = false) : (r.perform : Op σ Answer).Lets :=
  Op.closed_frank.perform h

/-- A request is refused exactly as the gate refuses, and then nothing is changed. -/
theorem refused_iff {r : Request} (h : r.isBoundary = false) (env : Ambient) (s : Scene σ)
    {e : Failure} (he : e.isRefusal = true) :
    ((r.perform : Op σ Answer).run env s).1 = .error e ↔ s.session.gate env.caller = .error e := by
  rcases s.session.gate_cases env.caller with ⟨ctx, hp⟩ | ⟨e', he'⟩
  · rw [Session.gate_live hp]
    constructor
    · intro hrun
      have hfalse := lets_perform h env s ctx hp e hrun
      rw [he] at hfalse
      cases hfalse
    · intro hgate
      cases hgate
  · rw [(guarded_perform h).shut env s e' he', he']
    simp only [Except.error.injEq]

/-! ### Exactness -/

/-- How an operation meets a caller at the gate: whom it refuses, that it then leaves everything as
it is, and that it refuses nobody else. -/
structure Op.GatedAt (op : Op σ α) (env : Ambient) (s : Scene σ) : Prop where
  /-- Refused are first those who do not own a session that has an owner. -/
  foreign : ∀ owner caller, (op.run env s).1 = .error (.foreignCaller owner caller) ↔
    s.session.owner? = some owner ∧ owner ≠ env.caller ∧ caller = env.caller
  closed : (op.run env s).1 = .error .closed ↔
    (∀ owner, s.session.owner? = some owner → owner = env.caller) ∧ s.session.isClosed = true
  uninitialized : (op.run env s).1 = .error .uninitialized ↔
    (∀ owner, s.session.owner? = some owner → owner = env.caller) ∧
      s.session.isClosed = false ∧ s.session.isInitialized = false
  /-- No call is made, and the session and all around it stay as they are. -/
  still : ∀ e, e.isRefusal = true → (op.run env s).1 = .error e → (op.run env s).2 = s
  admitted : s.session.isInitialized = true → s.session.owner? = some env.caller →
    ∀ e, (op.run env s).1 = .error e → e.isRefusal = false

theorem gatedAt_perform {r : Request} (hr : r.isBoundary = false) (env : Ambient) (s : Scene σ) :
    (r.perform : Op σ Answer).GatedAt env s := by
  have hiff : ∀ e : Failure, e.isRefusal = true →
      (((r.perform : Op σ Answer).run env s).1 = .error e ↔
        s.session.gate env.caller = .error e) := fun e he => refused_iff hr env s he
  refine ⟨fun owner caller => ?_, ?_, ?_, fun e he hrun => ?_, fun hi ho e hrun => ?_⟩
  · rw [hiff _ rfl, Session.gate_error_iff]
    constructor
    · rintro (⟨o, ho, hne, heq⟩ | ⟨-, ⟨-, heq⟩ | ⟨-, heq⟩⟩)
      · cases heq
        exact ⟨ho, hne, rfl⟩
      all_goals cases heq
    · rintro ⟨ho, hne, rfl⟩
      exact .inl ⟨owner, ho, hne, rfl⟩
  · rw [hiff _ rfl, Session.gate_error_iff]
    simp [Session.isClosed]
  · rw [hiff _ rfl, Session.gate_error_iff]
    unfold Session.isClosed Session.isInitialized
    cases s.session.lifecycle <;> simp
  · rw [(guarded_perform hr).shut env s e ((hiff e he).1 hrun)]
  · obtain ⟨owner, ctx, hp⟩ := Session.phase_of_initialized hi
    rw [Session.owner?_live hp, Option.some.injEq] at ho
    rw [ho] at hp
    exact lets_perform hr env s ctx hp e hrun

/-- The gate is exact and has no effects. A request between the start and the end of a session is
refused to whom does not own it, else if it is closed, else if it is not initialized, ahead of all
that is wrong with its arguments, and the owner of a live context is not refused. A session is
started only once: on a closed or a live one `start` fails for every caller, and changes nothing. -/
theorem gate_exact (env : Ambient) (s : Scene σ) :
    (∀ r : Request, r.isBoundary = false → (r.perform : Op σ Answer).GatedAt env s) ∧
    (s.session.isClosed = true →
      (Request.start.perform : Op σ Answer).run env s = (.error .closed, s)) ∧
    (s.session.isInitialized = true →
      (Request.start.perform : Op σ Answer).run env s =
        (.error (.alreadyDone .initialized), s)) := by
  refine ⟨fun r hr => gatedAt_perform hr env s, fun hc => ?_, fun hi => ?_⟩
  · obtain ⟨owner, hp⟩ := Session.phase_of_closed hc
    rw [Request.perform, Request.silent, Request.telling, Session.start]
    simp [Op.run_bind, hp]
  · obtain ⟨owner, ctx, hp⟩ := Session.phase_of_initialized hi
    rw [Request.perform, Request.silent, Request.telling, Session.start]
    simp [Op.run_bind, hp]

/-- A live session of thread 1, with a statement held back. -/
def rented : Scene MemoryInterpreter where
  session :=
    { Session.fresh { interactive := true } with
      phase := .live ⟨"1"⟩ .first
      buffer := ⟨true, some "if x:"⟩ }
  world := { line := ⟨.new, []⟩, registry := ⟨[⟨"1"⟩], by decide⟩ }

/-- The same session after its end. -/
def vacated : Scene MemoryInterpreter :=
  { rented with session := rented.session.ended (some ⟨"1"⟩) }

/-- A stranger with a blank name hears of the owner and not of the name. -/
theorem gate_exact_stranger :
    (Request.readBytes " ").isBoundary = false ∧
      ((Request.readBytes " ").perform.run ⟨⟨"2"⟩, .empty⟩ rented).1 =
        .error (.foreignCaller ⟨"1"⟩ ⟨"2"⟩) ∧
      ((Request.readBytes " ").perform.run ⟨⟨"2"⟩, .empty⟩ rented).2 = rented ∧
      rented.session.isInitialized = true ∧
      Request.start.perform.run ⟨⟨"2"⟩, .empty⟩ rented =
        (.error (.alreadyDone .initialized), rented) ∧
      vacated.session.isClosed = true ∧
      Request.start.perform.run ⟨⟨"2"⟩, .empty⟩ vacated = (.error .closed, vacated) := by
  obtain ⟨hgate, -, hlive⟩ := gate_exact ⟨⟨"2"⟩, .empty⟩ rented
  obtain ⟨-, hclosed, -⟩ := gate_exact ⟨⟨"2"⟩, .empty⟩ vacated
  have hat := hgate (.readBytes " ") rfl
  have hforeign := (hat.foreign ⟨"1"⟩ ⟨"2"⟩).2 ⟨rfl, by decide, rfl⟩
  exact ⟨rfl, hforeign, hat.still _ rfl hforeign, rfl, hlive rfl, rfl, hclosed rfl⟩

end PinnedSessions
