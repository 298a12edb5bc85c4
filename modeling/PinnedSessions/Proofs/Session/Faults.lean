import PinnedSessions.Proofs.Session.Course
import PinnedSessions.Proofs.Session.Gate

/-! # Faults of the interpreter pass through

Whatever an interpreter answers: a fault ends the request in which it comes, it is the result of
that request, told by `GuestFault.told`, and it harms nothing (`faults_relayed`). The session stays
live with all that it has; a pending statement is lost only if it was itself run by a flush and
failed.

That nothing else is lost rests on what holds of every session that can be reached: where nothing is
held back, nothing is pending (`settled_of_reached`). -/

namespace PinnedSessions

variable {σ α β : Type}

/-! ### How faults are told -/

/-- How a fault is told: bad source and a conversion by their kinds, everything else as raised. -/
def GuestFault.told : GuestFault → Failure
  | .badSource text => .badSource text
  | .noConversion text => .noConversion (.guest text)
  | e => .raised e.message

theorem Failure.ofGuest_eq_told (e : GuestFault) : ofGuest e = e.told := by
  cases e <;> rfl

/-- Whether only a fault of an interpreter is told so. -/
def Failure.isGuests : Failure → Bool
  | .badSource _ | .raised _ => true
  | _ => false

/-- How a result goes with the exchanges that have led to it. -/
inductive Relayed (xs : List Exchange) (r : Except Failure α) : Prop
  | answered (hx : ∀ x ∈ xs, x.fault? = none) (hr : ∀ e, r = .error e → e.isGuests = false)
  | failed {ys : List Exchange} {x : Exchange} {e : GuestFault} (hxs : xs = ys ++ [x])
      (hy : ∀ y ∈ ys, y.fault? = none) (hx : x.fault? = some e) (hr : r = .error (.ofGuest e))

namespace Relayed

variable {xs : List Exchange} {r : Except Failure α}

theorem silent (hr : ∀ e, r = .error e → e.isGuests = false) : Relayed [] r :=
  .answered (by simp) hr

theorem one_answered {x : Exchange} (hx : x.fault? = none)
    (hr : ∀ e, r = .error e → e.isGuests = false) : Relayed [x] r :=
  .answered (by simpa using hx) hr

theorem one_failed {x : Exchange} {e : GuestFault} (hx : x.fault? = some e) :
    Relayed [x] (.error (.ofGuest e) : Except Failure α) :=
  .failed (List.nil_append [x]).symm (by simp) hx rfl

/-- Exchanges without a fault may come before. -/
theorem prepend {ys : List Exchange} (hy : ∀ y ∈ ys, y.fault? = none) (h : Relayed xs r) :
    Relayed (ys ++ xs) r := by
  have happend : ∀ {zs : List Exchange}, (∀ z ∈ zs, z.fault? = none) →
      ∀ z ∈ ys ++ zs, z.fault? = none := fun hz z hmem =>
    (List.mem_append.1 hmem).elim (hy z) (hz z)
  cases h with
  | answered hx hr => exact .answered (happend hx) hr
  | failed hxs hy' hx hr => exact .failed (by rw [hxs, List.append_assoc]) (happend hy') hx hr

theorem cons {x : Exchange} (hx : x.fault? = none) (h : Relayed xs r) : Relayed (x :: xs) r := by
  rw [← List.singleton_append]
  exact h.prepend (by simpa using hx)

theorem map (f : α → β) (h : Relayed xs r) : Relayed xs (r.map f) := by
  cases h with
  | answered hx hr =>
      refine .answered hx fun e he => hr e ?_
      cases r with
      | ok a => cases he
      | error e' => exact congrArg Except.error (Except.error.inj he)
  | failed hxs hy hx hr =>
      rw [hr]
      exact .failed hxs hy hx rfl

/-- A fault is the last that is heard of the interpreter, and the result. -/
theorem last (h : Relayed xs r) {ys zs : List Exchange} {x : Exchange} {e : GuestFault}
    (hxs : xs = ys ++ x :: zs) (hx : x.fault? = some e) : zs = [] ∧ r = .error (.ofGuest e) := by
  subst hxs
  cases h with
  | answered hn hr =>
      rw [hn x (by simp)] at hx
      cases hx
  | @failed ys' x' e' hxs hy hx' hr =>
      rcases zs.eq_nil_or_concat with rfl | ⟨zs, z, rfl⟩
      · obtain ⟨-, hlast⟩ := List.append_inj' hxs rfl
        cases hlast
        rw [hx] at hx'
        cases hx'
        exact ⟨rfl, hr⟩
      · have hinit : ys ++ x :: zs = ys' := by
          have hsplit : (ys ++ x :: zs) ++ [z] = ys' ++ [x'] := by simpa using hxs
          exact (List.append_inj' hsplit rfl).1
        rw [hy x (by rw [← hinit]; simp)] at hx
        cases hx

/-- What only a fault is told as comes of one. -/
theorem fault (h : Relayed xs r) {e : Failure} (hr : r = .error e) (he : e.isGuests = true) :
    ∃ x ∈ xs, ∃ g, x.fault? = some g ∧ e = .ofGuest g := by
  cases h with
  | answered hx hn =>
      rw [hn e hr] at he
      cases he
  | @failed ys x g hxs hy hx hg =>
      rw [hr] at hg
      exact ⟨x, by simp [hxs], g, hx, Except.error.inj hg⟩

end Relayed

section Courses

variable [Interpreter σ] {env : Ambient} {ctx : Handle}

theorem LineBuffer.RunCourse.relayed {text : String} {b b' : LineBuffer} {l l' : Line σ}
    {xs : List Exchange} {r : Except Failure Outcome} (h : RunCourse env ctx text b l xs r b' l') :
    Relayed xs r := by
  cases h with
  | failed hx => exact .one_failed hx
  | done hx => exact .one_answered hx nofun

theorem LineBuffer.FeedCourse.relayed {line : Option String} {b b' : LineBuffer} {l l' : Line σ}
    {xs : List Exchange} {r : Except Failure Outcome} (h : FeedCourse env ctx line b l xs r b' l') :
    Relayed xs r := by
  cases h with
  | idle | joined => exact .silent nofun
  | flushed _ _ _ hr | direct _ _ hr => exact hr.relayed
  | unclear _ _ _ hx => exact .one_failed hx
  | incomplete _ _ _ hx => exact .one_answered hx nofun
  | complete _ _ _ hx hr => exact hr.relayed.cons hx

variable {r : Request} {s s' : Scene σ} {xs : List Exchange} {res : Except Failure Answer}

/-- The resolver is replaced without a fault. -/
theorem Course.fault?_of_useResolver {resolver : Resolver}
    (h : Course env ctx (.useResolver resolver) s xs res s') : ∀ x ∈ xs, x.fault? = none := by
  cases h with
  | malformed | unchanged => simp
  | failed hc => cases hc
  | answered hc => cases hc
  | replaced => simp [Exchange.fault?, Line.exchange, Call.fault?]

theorem Course.relayed (h : Course env ctx r s xs res s') : Relayed xs res := by
  induction h with
  | malformed | unreadable =>
      refine .silent fun e he => ?_
      cases he
      rfl
  | failed hc hf hx => exact .one_failed hx
  | answered hc hf hx hres =>
      refine .one_answered hx fun e he => ?_
      obtain ⟨fault, rfl⟩ := hres e he
      rfl
  | unchanged | switched => exact .silent nofun
  | replaced => exact .one_answered rfl nofun
  | both h h' ih ih' => exact ih'.prepend h.fault?_of_useResolver
  | fed h log => exact h.relayed.map _

end Courses

/-! ### Nothing pending where nothing is held back -/

theorem Session.hasPending_eq_false_iff (s : Session) :
    s.hasPending = false ↔ s.buffer.pending = none := by
  rw [hasPending, Option.isSome_eq_false_iff, Option.isNone_iff_eq_none]

/-- Nothing is pending in direct mode. -/
def LineBuffer.Settled (b : LineBuffer) : Prop := b.interactive = false → b.pending = none

namespace LineBuffer

theorem settled_clear (b : LineBuffer) : b.clear.Settled := fun _ => rfl

theorem settled_of_interactive {b : LineBuffer} (h : b.interactive = true) : b.Settled := by
  intro hb
  rw [h] at hb
  cases hb

theorem settled_switchMode {b : LineBuffer} (interactive : Bool) :
    (b.switchMode interactive).2.Settled := by
  cases interactive with
  | false => exact fun _ => rfl
  | true => exact settled_of_interactive rfl

variable [Interpreter σ] {env : Ambient} {ctx : Handle} {b b' : LineBuffer} {l l' : Line σ}
  {xs : List Exchange} {r : Except Failure Outcome}

theorem RunCourse.settled {text : String} (h : RunCourse env ctx text b l xs r b' l')
    (hb : b.Settled) : b'.Settled := by
  cases h with
  | failed => exact settled_clear b
  | done => exact hb

theorem FeedCourse.settled {line : Option String} (h : FeedCourse env ctx line b l xs r b' l')
    (hb : b.Settled) : b'.Settled := by
  cases h with
  | idle => exact hb
  | flushed _ _ _ hr => exact hr.settled (settled_clear b)
  | direct _ _ hr | complete _ _ _ _ hr => exact hr.settled hb
  | joined _ hi | incomplete _ hi => exact settled_of_interactive hi
  | unclear => exact settled_clear b

end LineBuffer

/-- A session in its life: asked anything by anyone, with whatever around it. -/
inductive Session.Reached (σ : Type) [Interpreter σ] : Session → Prop
  | fresh (settings : Settings) : Reached σ (.fresh settings)
  | asked {s : Session} (h : Reached σ s) (r : Request) (env : Ambient) (w : World σ) :
      Reached σ ((r.perform : Op σ Answer).run env ⟨s, w⟩).2.session

section Reached

variable [Interpreter σ]

theorem Course.settled {env : Ambient} {ctx : Handle} {r : Request} {s s' : Scene σ}
    {xs : List Exchange} {res : Except Failure Answer} (h : Course env ctx r s xs res s')
    (hs : s.session.buffer.Settled) : s'.session.buffer.Settled := by
  induction h with
  | malformed | unreadable | failed | answered | unchanged | replaced => exact hs
  | both h h' ih ih' => exact ih' (ih hs)
  | switched interactive => exact LineBuffer.settled_switchMode interactive
  | fed h log => exact h.settled hs

theorem Session.buffer_start (env : Ambient) (s : Scene σ) :
    ((start : Op σ Unit).run env s).2.session.buffer = s.session.buffer := by
  rcases run_start env s with ⟨-, hrun⟩ | ⟨e, hrun⟩
  · have h := launch_acquire env s
    rw [hrun]
    generalize (acquire : Op σ Unit).run env s = p at h ⊢
    cases h <;> rfl
  · rw [hrun]

theorem Session.settled_close (env : Ambient) {s : Scene σ} (hs : s.session.buffer.Settled) :
    ((close : Op σ Unit).run env s).2.session.buffer.Settled := by
  rcases s.session.tenure_cases env.caller with ⟨ctx, hp⟩ | ⟨owner, ctx, hne, hp⟩ | hnone
  · obtain ⟨log, hrun⟩ := run_finish ctx env s
    rw [close_own hp, hrun]
    exact fun _ => rfl
  · rw [close_foreign hne hp]
    exact hs
  · obtain ⟨session, hclose, -, rfl | rfl⟩ := close_idle hnone
    · rw [hclose]
      exact hs
    · rw [hclose]
      exact fun _ => rfl

theorem settled_perform (r : Request) (env : Ambient) {s : Scene σ}
    (hs : s.session.buffer.Settled) :
    ((r.perform : Op σ Answer).run env s).2.session.buffer.Settled := by
  rcases perform_cases r env s with ⟨e, -, hrun⟩ | ⟨ctx, xs, -, -, h⟩ | ⟨-, hrun⟩ | ⟨-, hrun⟩
  · rw [hrun]
    exact hs
  · exact h.settled hs
  · rw [hrun, Session.buffer_start]
    exact hs
  · rw [hrun]
    exact Session.settled_close env hs

theorem settled_of_reached {s : Session} (h : s.Reached σ) : s.buffer.Settled := by
  induction h with
  | fresh settings => exact fun _ => rfl
  | asked h r env w ih => exact settled_perform r env ih

end Reached

/-! ### What a fault leaves -/

/-- The pending statement that a request runs, if it is a flush. -/
def Request.flushes? (b : LineBuffer) : Request → Option String
  | .evaluate line => if LineBuffer.content? line = none then b.pending else none
  | _ => none

/-- A request that is made for one call flushes nothing. -/
theorem Request.flushes?_of_errand {ctx : Handle} {r : Request} {c : Call}
    (h : r.errand? ctx = some c) (b : LineBuffer) : r.flushes? b = none := by
  cases r with
  | evaluate => cases h
  | _ => rfl

/-- What a session on the context `ctx` and the marks are after a request in which the exchange `x`
failed: as before it, but for the resolver if the request was to replace it first, and for a pending
statement if it was that which failed. -/
structure Unharmed (ctx : Handle) (r : Request) (x : Exchange) (s s' : Scene σ) : Prop where
  lifecycle : s'.session.lifecycle = s.session.lifecycle
  owner : s'.session.owner? = s.session.owner?
  handle : s'.session.handle? = s.session.handle?
  interactive : s'.session.isInteractive = s.session.isInteractive
  held : s'.session.held = s.session.held
  registry : s'.world.registry = s.world.registry
  resolver : s'.session.resolver = match r with
    | .runFileWith _ resolver => Resolver.swap s.session.resolver resolver
    | _ => s.session.resolver
  pending : (∀ text, r.flushes? s.session.buffer = some text → x.call ≠ .run ctx text) →
    s'.session.buffer.pending = s.session.buffer.pending
  dropped : ∀ text, r.flushes? s.session.buffer = some text → x.call = .run ctx text →
    s'.session.buffer.pending = none

namespace Unharmed

variable {ctx : Handle} {r : Request} {x : Exchange} {s s' : Scene σ}

/-- The call for which a request is made fails. -/
theorem of_errand {c : Call} (hc : r.errand? ctx = some c) (line : Line σ) (log : List Event) :
    Unharmed ctx r x s (s.onward s.session line log) where
  lifecycle := rfl
  owner := rfl
  handle := rfl
  interactive := rfl
  held := rfl
  registry := rfl
  resolver := by
    cases r with
    | runFileWith => cases hc
    | _ => rfl
  pending _ := rfl
  dropped text ht := by
    rw [Request.flushes?_of_errand hc] at ht
    cases ht

/-- The script fails that is run with another resolver. -/
theorem of_script {path : String} {resolver : Resolver}
    (hsession : s'.session =
      { s.session with resolver := Resolver.swap s.session.resolver resolver })
    (hregistry : s'.world.registry = s.world.registry) :
    Unharmed ctx (.runFileWith path resolver) x s s' where
  lifecycle := by rw [hsession]; rfl
  owner := by rw [hsession]; rfl
  handle := by rw [hsession]; rfl
  interactive := by rw [hsession]; rfl
  held := by rw [hsession]
  registry := hregistry
  resolver := by rw [hsession]
  pending _ := by rw [hsession]
  dropped _ := nofun

/-- Feeding a line fails. -/
theorem of_buffer {line : Option String} {b : LineBuffer}
    (hi : b.interactive = s.session.buffer.interactive)
    (hb : (LineBuffer.content? line ≠ none ∧ b.pending = s.session.buffer.pending) ∨
      LineBuffer.content? line = none ∧ (∃ text, s.session.buffer.pending = some text ∧
        x.call = .run ctx text) ∧ b.pending = none) (l : Line σ) (log : List Event) :
    Unharmed ctx (.evaluate line) x s (s.onward { s.session with buffer := b } l log) where
  lifecycle := rfl
  owner := rfl
  handle := rfl
  interactive := hi
  held := rfl
  registry := rfl
  resolver := rfl
  pending hnot := by
    rcases hb with ⟨-, hp⟩ | ⟨hline, ⟨text, hp, hcall⟩, -⟩
    · exact hp
    · exact absurd hcall (hnot text (by rw [Request.flushes?, if_pos hline, hp]))
  dropped text ht _ := by
    rcases hb with ⟨hline, -⟩ | ⟨-, -, hp⟩
    · rw [Request.flushes?, if_neg hline] at ht
      cases ht
    · exact hp

end Unharmed

section Faults

variable [Interpreter σ] {env : Ambient} {ctx : Handle}

/-- A text that fails is dropped with all that is pending. -/
theorem LineBuffer.RunCourse.of_fault {text : String} {b b' : LineBuffer} {l l' : Line σ}
    {xs : List Exchange} {r : Except Failure Outcome} (h : RunCourse env ctx text b l xs r b' l')
    {x : Exchange} {e : GuestFault} (hx : x ∈ xs) (he : x.fault? = some e) :
    x.call = .run ctx text ∧ b' = b.clear := by
  cases h with
  | failed =>
      cases List.mem_singleton.1 hx
      exact ⟨rfl, rfl⟩
  | done hn =>
      cases List.mem_singleton.1 hx
      rw [hn] at he
      cases he

/-- Feeding a line that fails leaves what is pending, unless that is what has failed. -/
theorem LineBuffer.FeedCourse.of_fault {line : Option String} {b b' : LineBuffer} {l l' : Line σ}
    {xs : List Exchange} {r : Except Failure Outcome} (h : FeedCourse env ctx line b l xs r b' l')
    (hb : b.Settled) {x : Exchange} {e : GuestFault} (hx : x ∈ xs) (he : x.fault? = some e) :
    b'.interactive = b.interactive ∧
      ((content? line ≠ none ∧ b'.pending = b.pending) ∨
        content? line = none ∧ (∃ text, b.pending = some text ∧ x.call = .run ctx text) ∧
          b'.pending = none) := by
  cases h with
  | idle | joined => cases hx
  | flushed hline hi hp hr =>
      obtain ⟨hcall, rfl⟩ := hr.of_fault hx he
      exact ⟨rfl, .inr ⟨hline, ⟨_, hp, hcall⟩, rfl⟩⟩
  | direct hline hi hr =>
      obtain ⟨-, rfl⟩ := hr.of_fault hx he
      exact ⟨rfl, .inl ⟨by simp [hline], (hb hi).symm⟩⟩
  | unclear hline hi hp => exact ⟨rfl, .inl ⟨by simp [hline], hp.symm⟩⟩
  | incomplete hline hi hp hn =>
      cases List.mem_singleton.1 hx
      rw [hn] at he
      cases he
  | complete hline hi hp hn hr =>
      rcases List.mem_cons.1 hx with rfl | hx
      · rw [hn] at he
        cases he
      · obtain ⟨-, rfl⟩ := hr.of_fault hx he
        exact ⟨rfl, .inl ⟨by simp [hline], hp.symm⟩⟩

theorem Course.unharmed {r : Request} {s s' : Scene σ} {xs : List Exchange}
    {res : Except Failure Answer} (h : Course env ctx r s xs res s')
    (hs : s.session.buffer.Settled) {x : Exchange} {e : GuestFault} (hx : x ∈ xs)
    (he : x.fault? = some e) : Unharmed ctx r x s s' := by
  cases h with
  | malformed | unreadable | unchanged | switched => cases hx
  | failed hc hf hfault log =>
      exact .of_errand hc _ log
  | answered hc hf hn =>
      cases List.mem_singleton.1 hx
      rw [hn] at he
      cases he
  | replaced =>
      cases List.mem_singleton.1 hx
      cases he
  | @both path resolver _ s₁ _ xs ys _ h h' =>
      rcases List.mem_append.1 hx with hx | hx
      · rw [h.fault?_of_useResolver x hx] at he
        cases he
      · cases h' with
        | malformed | unreadable => cases hx
        | failed hc hf hfault log => exact .of_script h.session_useResolver h.registry
        | answered hc hf hn =>
            cases List.mem_singleton.1 hx
            rw [hn] at he
            cases he
  | fed h log =>
      obtain ⟨hi, hb⟩ := h.of_fault hs hx he
      exact .of_buffer hi hb _ log

end Faults

/-- How a request and what comes of it go with the exchanges on the way. -/
structure Transparent (ctx : Handle) (r : Request) (xs : List Exchange)
    (res : Except Failure Answer) (s s' : Scene σ) : Prop where
  /-- A fault is the last that is heard of the interpreter, and the result. -/
  last : ∀ ys x zs e, xs = ys ++ x :: zs → x.fault? = some e → zs = [] ∧ res = .error e.told
  /-- Bad source is told of only if the interpreter has told of it. -/
  badSource : ∀ text, res = .error (.badSource text) →
    ∃ x ∈ xs, x.fault? = some (.badSource text)
  /-- So is what was raised. -/
  raised : ∀ text, res = .error (.raised text) →
    ∃ x ∈ xs, ∃ e, x.fault? = some e ∧ e.told = .raised text
  unharmed : ∀ x ∈ xs, ∀ e, x.fault? = some e → Unharmed ctx r x s s'

theorem Course.transparent [Interpreter σ] {env : Ambient} {ctx : Handle} {r : Request}
    {s s' : Scene σ} {xs : List Exchange} {res : Except Failure Answer}
    (h : Course env ctx r s xs res s') (hs : s.session.buffer.Settled) :
    Transparent ctx r xs res s s' where
  last ys x zs e hxs hx := by
    rw [← Failure.ofGuest_eq_told]
    exact h.relayed.last hxs hx
  badSource text hres := by
    obtain ⟨x, hx, e, he, heq⟩ := h.relayed.fault hres rfl
    cases e with
    | badSource text' =>
        cases heq
        exact ⟨x, hx, he⟩
    | _ => cases heq
  raised text hres := by
    obtain ⟨x, hx, e, he, heq⟩ := h.relayed.fault hres rfl
    exact ⟨x, hx, e, he, by rw [← Failure.ofGuest_eq_told, heq]⟩
  unharmed x hx e he := h.unharmed hs hx he

/-- Whatever an interpreter answers to the owner of a live session: its faults end the request, are
told as they are, and harm nothing; and nothing else is told as if it were one. -/
theorem faults_relayed [Interpreter σ] {env : Ambient} {s : Scene σ} {r : Request}
    (hs : s.session.Reached σ) (hi : s.session.isInitialized = true)
    (ho : s.session.owner? = some env.caller) (hr : r.isBoundary = false) :
    ∃ ctx xs, s.session.handle? = some ctx ∧
      ((r.perform : Op σ Answer).run env s).2.world.line.exchanges =
        s.world.line.exchanges ++ xs ∧
      Transparent ctx r xs ((r.perform : Op σ Answer).run env s).1 s
        ((r.perform : Op σ Answer).run env s).2 := by
  obtain ⟨owner, ctx, hp⟩ := Session.phase_of_initialized hi
  rw [Session.owner?_live hp, Option.some.injEq] at ho
  rw [ho] at hp
  obtain ⟨xs, h⟩ := course_perform hr hp
  refine ⟨ctx, xs, ?_, h.exchanges, h.transparent (settled_of_reached hs)⟩
  rw [Session.handle?, hp, Phase.handle?]

/-- An interactive session that has been started on an empty interpreter. -/
def awaiting : Scene MemoryInterpreter :=
  (Request.start.perform.run ⟨⟨"1"⟩, .empty⟩
    ⟨.fresh { interactive := true }, { line := ⟨.new, []⟩ }⟩).2

/-- The same session with an unfinished line held back. -/
def halfway : Scene MemoryInterpreter :=
  ((Request.evaluate (some "f(")).perform.run ⟨⟨"1"⟩, .empty⟩ awaiting).2

/-- The line is run by a flush, which fails, and is gone. -/
theorem faults_relayed_flush :
    halfway.session.Reached MemoryInterpreter ∧ halfway.session.isInitialized = true ∧
      halfway.session.owner? = some ⟨"1"⟩ ∧ (Request.evaluate none).isBoundary = false ∧
      halfway.session.buffer.pending = some "f(" ∧
      ∃ ctx xs, halfway.session.handle? = some ctx ∧
        ((Request.evaluate none).perform.run ⟨⟨"1"⟩, .empty⟩ halfway).2.world.line.exchanges =
          halfway.world.line.exchanges ++ xs ∧
        Transparent ctx (.evaluate none) xs (.error (.badSource "unexpected end of input")) halfway
          ((Request.evaluate none).perform.run ⟨⟨"1"⟩, .empty⟩ halfway).2 := by
  have hstarted : awaiting.session.Reached MemoryInterpreter :=
    .asked (.fresh { interactive := true }) .start ⟨⟨"1"⟩, .empty⟩
      { line := ⟨MemoryInterpreter.new, []⟩ }
  have hreached : halfway.session.Reached MemoryInterpreter :=
    .asked hstarted (.evaluate (some "f(")) ⟨⟨"1"⟩, .empty⟩ awaiting.world
  have hres : ((Request.evaluate none).perform.run ⟨⟨"1"⟩, .empty⟩ halfway).1 =
      .error (.badSource "unexpected end of input") := rfl
  obtain ⟨ctx, xs, hctx, hxs, h⟩ :=
    @faults_relayed _ _ ⟨⟨"1"⟩, .empty⟩ halfway (.evaluate none) hreached rfl rfl rfl
  rw [hres] at h
  exact ⟨hreached, rfl, rfl, rfl, rfl, ctx, xs, hctx, hxs, h⟩

end PinnedSessions
