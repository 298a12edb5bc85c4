import PinnedSessions.Proofs.Session.Ending
import PinnedSessions.Proofs.Session.Faults

/-! # Dropped statements and warnings

A statement that is held back can be lost without having run in two ways: the mode is switched, or
the session is closed. Switching the mode warns of it, once and with its text. Closing the session
gives no warning whatsoever (`warnings_exact`), so that a statement which is pending then is lost in
silence (`silent_close`). -/

namespace PinnedSessions

variable {σ : Type}

/-! ### What is warned of -/

/-- The warnings reported between one scene and a later one. -/
def Scene.warningsTo (s s' : Scene σ) : List Event :=
  (s'.world.log.drop s.world.log.length).filter (·.level = .warn)

theorem Scene.warningsTo_of_append {s s' : Scene σ} {es : List Event}
    (h : s'.world.log = s.world.log ++ es) : s.warningsTo s' = es.filter (·.level = .warn) := by
  rw [warningsTo, h, List.drop_left]

theorem Scene.warningsTo_still (s : Scene σ) (session : Session) :
    s.warningsTo ⟨session, s.world⟩ = [] :=
  warningsTo_of_append (List.append_nil s.world.log).symm

/-- The statement that is held back in one scene and gone in a later one. -/
def Scene.dropped? (s s' : Scene σ) : Option String :=
  if s'.session.hasPending then none else s.session.buffer.pending

/-- A statement that is dropped is warned of just once, and where none is held back there is no
warning. -/
structure Scene.Reported (s s' : Scene σ) : Prop where
  once : ∀ text, s.dropped? s' = some text → ∃ e, s.warningsTo s' = [e]
  quiet : s.session.hasPending = false → s.warningsTo s' = []

/-- Whether a request may drop a statement that has not run. -/
def Request.mayDrop : Request → Bool
  | .switchMode _ | .close => true
  | _ => false

/-- The warnings that a request gives if it drops a statement. -/
def Request.warnings (dropped : Option String) : Request → List Event
  | .switchMode _ => dropped.toList.map .statementDropped
  | _ => []

/-! ### Switching the mode -/

/-- Nothing is handed back, or just what is pending no more. -/
theorem LineBuffer.fst_switchMode (b : LineBuffer) (interactive : Bool) :
    (b.switchMode interactive).1 =
      if (b.switchMode interactive).2.pending.isSome then none else b.pending := by
  cases interactive with
  | false => rfl
  | true =>
      rw [switchMode, if_pos rfl]
      cases b.pending <;> rfl

namespace Session

/-- To switch the mode makes no call. -/
theorem run_switchMode {env : Ambient} {ctx : Handle} {s : Scene σ}
    (hp : s.session.phase = .live env.caller ctx) (interactive : Bool) :
    (switchMode interactive : Op σ Unit).run env s = (.ok (),
      ⟨{ s.session with buffer := (s.session.buffer.switchMode interactive).2 },
        { s.world with log := s.world.log ++
          (s.session.buffer.switchMode interactive).1.toList.map .statementDropped }⟩) := by
  rw [switchMode, Op.run_bind_ok (context_live hp), Op.run_bind_ok (Op.run_session _ _)]
  dsimp only
  rw [Op.run_bind_ok (Op.run_modify _ _ _)]
  cases (s.session.buffer.switchMode interactive).1 with
  | some text => rfl
  | none =>
      rw [Option.toList_none, List.map_nil, List.append_nil]
      rfl

/-- Who is answered has passed the gate. -/
theorem live_of_switchMode {env : Ambient} {s s' : Scene σ} {interactive : Bool}
    (h : (switchMode interactive : Op σ Unit).run env s = (.ok (), s')) :
    ∃ ctx, s.session.phase = .live env.caller ctx := by
  rcases s.session.gate_cases env.caller with hlive | ⟨e, he⟩
  · exact hlive
  · rw [switchMode, Op.run_bind_error (context_shut he)] at h
    cases h

/-- A statement that is dropped by a switch of the mode is warned of, and nothing else is. -/
theorem warnings_switchMode {env : Ambient} {s s' : Scene σ} {interactive : Bool}
    (h : (switchMode interactive : Op σ Unit).run env s = (.ok (), s')) :
    s.callsTo s' = [] ∧ s.warningsTo s' = (s.dropped? s').toList.map .statementDropped := by
  obtain ⟨ctx, hp⟩ := live_of_switchMode h
  rw [run_switchMode hp] at h
  obtain rfl := (Prod.mk.inj h).2
  refine ⟨s.callsTo_still s.session, ?_⟩
  have hwarn : ∀ texts : List String,
      (texts.map Event.statementDropped).filter (·.level = .warn) =
        texts.map .statementDropped := by
    intro texts
    rw [List.filter_eq_self]
    intro e he
    obtain ⟨text, -, rfl⟩ := List.mem_map.1 he
    rfl
  rw [Scene.warningsTo_of_append rfl, hwarn, LineBuffer.fst_switchMode]
  rfl

/-! ### Closing -/

theorem warnings_farewell (ctx : Handle) (count : Nat) (fault : Option GuestFault) :
    (farewell ctx count fault).filter (·.level = .warn) = [] := by
  cases fault <;> rfl

/-- No text is run when a context ends. -/
theorem run_not_mem_ending (ctx : Handle) (held : HeldObjects) (c : Handle) (text : String) :
    Call.run c text ∉ ending ctx held := by
  rw [ending, List.mem_append]
  rintro (hmem | hmem)
  · obtain ⟨ref, -, heq⟩ := List.mem_map.1 hmem
    cases heq
  · simp at hmem

/-- A close that is answered leaves nothing pending; it has run no text, and has not warned. -/
theorem warnings_close [Interpreter σ] {env : Ambient} {s s' : Scene σ} (hs : s.session.Tidy)
    (h : (close : Op σ Unit).run env s = (.ok (), s')) :
    (∀ c text, Call.run c text ∉ s.callsTo s') ∧ s'.session.hasPending = false ∧
      s.warningsTo s' = [] := by
  -- without a live context the world is left alone, and so is its log
  have hstill : ∀ session : Session, session.hasPending = false → s' = ⟨session, s.world⟩ →
      (∀ c text, Call.run c text ∉ s.callsTo s') ∧ s'.session.hasPending = false ∧
        s.warningsTo s' = [] := by
    rintro session hnone rfl
    refine ⟨fun c text => ?_, hnone, s.warningsTo_still session⟩
    rw [s.callsTo_still session]
    exact List.not_mem_nil
  cases hp : s.session.phase with
  | fresh | spoiled =>
      have hl : s.session.lifecycle = .uninitialized := by rw [lifecycle, hp]; rfl
      rw [close_uninitialized hl] at h
      exact hstill _ rfl (Prod.mk.inj h).2.symm
  | closed owner =>
      have hl : s.session.lifecycle = .closed := by rw [lifecycle, hp]; rfl
      rw [close_closed (by rw [isClosed, hl]; rfl)] at h
      exact hstill _ (hs hl).1 (Prod.mk.inj h).2.symm
  | live owner ctx =>
      by_cases ho : owner = env.caller
      · rw [ho] at hp
        obtain ⟨xs, hxs, hcalls, -⟩ := exchanges_ending ctx env s
        rw [close_own hp, finish_eq] at h
        obtain rfl := (Prod.mk.inj h).2
        refine ⟨?_, rfl, ?_⟩
        · rw [Scene.callsTo_of_append hxs, hcalls]
          exact run_not_mem_ending ctx _
        · rw [Scene.warningsTo_of_append rfl, warnings_farewell]
      · rw [close_foreign ho hp] at h
        cases h

/-- A session that can be reached and is closed has nothing left over. -/
theorem tidy_of_reached [Interpreter σ] {s : Session} (h : s.Reached σ) : s.Tidy := by
  induction h with
  | fresh settings => exact tidy_fresh settings
  | asked h r env w ih => exact (orderly_perform r).tidy env _ ih

end Session

/-! ### What is dropped, and what is heard of it -/

/-- An operation that is answered for a request has been carried out. -/
theorem Op.run_of_silent {op : Op σ Unit} {env : Ambient} {s s' : Scene σ} {a : Answer}
    (h : (Request.silent op).run env s = (.ok a, s')) : op.run env s = (.ok (), s') := by
  have hscene := run_telling op (fun _ => .done) env s
  have hres := result_telling op (fun _ => .done) env s
  rw [Request.silent] at h
  rw [h] at hscene hres
  refine Prod.ext ?_ hscene.symm
  cases hop : (op.run env s).1 with
  | ok u => rfl
  | error e =>
      rw [hop] at hres
      cases hres

theorem Scene.reported_of_warnings {s s' : Scene σ}
    (h : s.warningsTo s' = (s.dropped? s').toList.map .statementDropped) : s.Reported s' where
  once text ht := ⟨.statementDropped text, by rw [h, ht]; rfl⟩
  quiet hnone := by
    rw [h, dropped?, (s.session.hasPending_eq_false_iff).1 hnone, ite_self]
    rfl

theorem Scene.reported_iff_of_silent {s s' : Scene σ} (hgone : s'.session.hasPending = false)
    (hsilent : s.warningsTo s' = []) : s.Reported s' ↔ s.session.hasPending = false := by
  constructor
  · intro h
    by_contra hp
    rw [Bool.not_eq_false, Session.hasPending, Option.isSome_iff_exists] at hp
    obtain ⟨text, htext⟩ := hp
    obtain ⟨e, he⟩ := h.once text (by rw [dropped?, hgone, if_neg Bool.false_ne_true, htext])
    rw [hsilent] at he
    cases he
  · intro hnone
    refine ⟨fun text ht => ?_, fun _ => hsilent⟩
    rw [dropped?, (s.session.hasPending_eq_false_iff).1 hnone, ite_self] at ht
    cases ht

/-- What a switch of the mode or a close that is answered says of the statement that it drops. No
text is run. Every drop by a switch is reported. Closing never warns, and so reports as it should
exactly if nothing was pending. -/
theorem warnings_exact [Interpreter σ] {env : Ambient} {s s' : Scene σ} {r : Request} {a : Answer}
    (hs : s.session.Reached σ) (hr : r.mayDrop = true)
    (h : (r.perform : Op σ Answer).run env s = (.ok a, s')) :
    (∀ c text, Call.run c text ∉ s.callsTo s') ∧
      s.warningsTo s' = r.warnings (s.dropped? s') ∧
      (s.Reported s' ↔ ¬ (r = .close ∧ s.session.hasPending = true)) := by
  cases r with
  | switchMode interactive =>
      obtain ⟨hcalls, hwarn⟩ := Session.warnings_switchMode (Op.run_of_silent h)
      refine ⟨fun c text => ?_, hwarn, iff_of_true (Scene.reported_of_warnings hwarn) nofun⟩
      rw [hcalls]
      exact List.not_mem_nil
  | close =>
      have htidy := Session.tidy_of_reached hs
      obtain ⟨hcalls, hgone, hwarn⟩ := Session.warnings_close htidy (Op.run_of_silent h)
      refine ⟨hcalls, hwarn, ?_⟩
      rw [Scene.reported_iff_of_silent hgone hwarn, ← Bool.not_eq_true]
      simp
  | _ => cases hr

/-- The interactive session with two lines held back, which make one statement. -/
def indented : Scene MemoryInterpreter :=
  let s := ((Request.evaluate (some "if True:")).perform.run ⟨⟨"1"⟩, .empty⟩ awaiting).2
  ((Request.evaluate (some "  x = 1")).perform.run ⟨⟨"1"⟩, .empty⟩ s).2

theorem reached_indented : indented.session.Reached MemoryInterpreter := by
  have hstarted : awaiting.session.Reached MemoryInterpreter :=
    .asked (.fresh { interactive := true }) .start ⟨⟨"1"⟩, .empty⟩
      { line := ⟨MemoryInterpreter.new, []⟩ }
  exact .asked (.asked hstarted (.evaluate (some "if True:")) ⟨⟨"1"⟩, .empty⟩ awaiting.world)
    (.evaluate (some "  x = 1")) ⟨⟨"1"⟩, .empty⟩ _

/-- Its statement is warned of if the mode is switched. -/
theorem warnings_exact_switched :
    indented.session.Reached MemoryInterpreter ∧ (Request.switchMode false).mayDrop = true ∧
      ∃ s', (Request.switchMode false).perform.run ⟨⟨"1"⟩, .empty⟩ indented = (.ok .done, s') ∧
        indented.dropped? s' = some "if True:\n  x = 1" ∧
        indented.warningsTo s' = [.statementDropped "if True:\n  x = 1"] ∧
        indented.Reported s' := by
  have h := @warnings_exact _ _ ⟨⟨"1"⟩, .empty⟩ indented _ (.switchMode false) .done
    reached_indented rfl rfl
  exact ⟨reached_indented, rfl, _, rfl, rfl, h.2.1, h.2.2.2 nofun⟩

/-- And lost in silence if the session is closed: no call in the session's life ran it, or any other
text. -/
theorem silent_close :
    indented.session.Reached MemoryInterpreter ∧
      indented.session.buffer.pending = some "if True:\n  x = 1" ∧
      ∃ s', Request.close.perform.run ⟨⟨"1"⟩, .empty⟩ indented = (.ok .done, s') ∧
        (∀ ctx text, Call.run ctx text ∉ s'.world.line.exchanges.map (·.call)) ∧
        indented.dropped? s' = some "if True:\n  x = 1" ∧
        indented.warningsTo s' = [] ∧ ¬ indented.Reported s' := by
  have hcalls : (Request.close.perform.run ⟨⟨"1"⟩, .empty⟩ indented).2.world.line.exchanges.map
      (·.call) = [.acquire ⟨none, false, true⟩, .hookImports ⟨1, by decide⟩ none,
        .probe ⟨1, by decide⟩ "if True:", .teardown ⟨1, by decide⟩, .release ⟨1, by decide⟩] := rfl
  refine ⟨reached_indented, rfl, (Request.close.perform.run ⟨⟨"1"⟩, .empty⟩ indented).2, rfl, ?_,
    rfl, rfl, fun h => ?_⟩
  · intro ctx text
    rw [hcalls]
    simp
  · obtain ⟨e, he⟩ := h.once "if True:\n  x = 1" rfl
    cases he

end PinnedSessions
