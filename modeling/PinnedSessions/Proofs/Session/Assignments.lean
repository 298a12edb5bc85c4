import PinnedSessions.Proofs.Session.Scripts
import PinnedSessions.Proofs.Session.Variables
import PinnedSessions.Proofs.Statement.Assignment

/-! # Assignments through a session

An assignment that the owner of a session on an in-memory interpreter evaluates while nothing is
pending runs at once, in either mode: in interactive mode the interpreter is asked first whether it
is complete, which it is. Then its name is bound to the value of its literal, which every reader
finds, and no other variable has changed (`Assigned`).

That is so exactly as long as the context of the session is live (`assigned_iff`). A context that
was released behind the back of its session runs nothing. -/

namespace PinnedSessions

open Text

/-! ### The interpreter -/

namespace MemoryInterpreter

variable {m : MemoryInterpreter} {ctx : Handle} {k : GuestContext}

/-- A text is probed wherever a context is live. -/
theorem answer_probe (h : m.context? ctx = some k) (files : Files) (source : String) :
    answer files (.probe ctx source) m = (Script.probe source, m) := by
  unfold context? at h
  rw [answer, onLedger, Ledger.look, h]

theorem answer_probe_of_none (h : m.context? ctx = none) (files : Files) (source : String) :
    answer files (.probe ctx source) m = (.error (Ledger.unknownContext ctx), m) := by
  unfold context? at h
  rw [answer, onLedger, Ledger.look, h]

/-- The variables after the contents of a context were replaced. -/
theorem value?_withContext (m : MemoryInterpreter) (ctx : Handle) (k : GuestContext) (c : Handle)
    (name : String) : (m.withContext ctx k).ledger.value? c name =
      if ctx = c then k.vars.find? name else m.ledger.value? c name := by
  unfold Ledger.value? withContext
  dsimp only
  rw [Table.find?_insert]
  split <;> rfl

end MemoryInterpreter

/-! ### Feeding a complete text -/

namespace LineBuffer

variable {τ ε : Type} {sink : Sink τ ε} {text : String} {b : LineBuffer} {s s' : τ}

theorem take_complete (hi : b.interactive = true) (hp : b.pending = none)
    (h : sink.probe text s = (.ok true, s')) : take sink text b s = runNow sink text b s' := by
  simp only [take, hi, hp, h]

theorem take_unclear (hi : b.interactive = true) (hp : b.pending = none) {e : ε}
    (h : sink.probe text s = (.error e, s')) : take sink text b s = (.error e, b.clear, s') := by
  simp only [take, hi, hp, h]

theorem runNow_ok (h : sink.run text s = (.ok (), s')) :
    runNow sink text b s = (.ok .ran, b, s') := by
  simp only [runNow, h]

end LineBuffer

section Evaluating

variable {env : Ambient} {ctx : Handle} {s : Scene MemoryInterpreter} {text : String}

theorem Session.sink_probe {l : Line MemoryInterpreter} {reply : Except GuestFault Completeness}
    {m : MemoryInterpreter} (h : l.interpreter.answer env.files (.probe ctx text) = (reply, m)) :
    ∃ xs, (sink env ctx).probe text l =
      ((reply.mapError Failure.ofGuest).map (· == .complete), ⟨m, xs⟩) := by
  have hcall : l.call env.files env.caller (.probe ctx text) = (reply, _) := Line.call_of_answer h
  unfold sink
  dsimp only
  rw [hcall]
  cases reply <;> exact ⟨_, rfl⟩

theorem Session.sink_run {l : Line MemoryInterpreter} {m : MemoryInterpreter}
    (h : l.interpreter.answer env.files (.run ctx text) = (.ok (), m)) :
    ∃ xs, (sink env ctx).run text l = (.ok (), ⟨m, xs⟩) := by
  have hcall : l.call env.files env.caller (.run ctx text) = (.ok (), _) := Line.call_of_answer h
  unfold sink
  dsimp only
  rw [hcall]
  exact ⟨_, rfl⟩

/-- In either mode a complete text runs at once if nothing is pending. -/
theorem feed_of_complete (hpending : s.session.buffer.pending = none) (hb : isBlank text = false)
    {k : GuestContext} (hk : s.world.line.interpreter.context? ctx = some k)
    (hprobe : Script.probe (LineBuffer.stripReturns text) = .ok .complete) {vars : Variables}
    (hrun : Script.run k.vars (LineBuffer.stripReturns text) = (.ok (), vars)) :
    ∃ xs, (Session.feed ctx (some text)).run env s = (.ok .ran, ⟨s.session, { s.world with
      line := ⟨s.world.line.interpreter.withContext ctx { k with
        texts := k.texts ++ [LineBuffer.stripReturns text]
        vars := vars }, xs⟩ }⟩) := by
  have hanswer := MemoryInterpreter.answer_run hk env.files (LineBuffer.stripReturns text)
  rw [hrun] at hanswer
  cases hi : s.session.isInteractive with
  | false => exact ⟨_, feed_of_not_blank hi hpending hb (Line.call_of_answer hanswer)⟩
  | true =>
      have hcomplete := MemoryInterpreter.answer_probe hk env.files (LineBuffer.stripReturns text)
      rw [hprobe] at hcomplete
      obtain ⟨xs, hasked⟩ := Session.sink_probe hcomplete
      -- the interpreter that was asked is the one that runs the text
      obtain ⟨ys, hran⟩ := @Session.sink_run env ctx _ ⟨s.world.line.interpreter, xs⟩ _ hanswer
      unfold Session.feed Op.run LineBuffer.feed
      rw [content?_of_not_blank hb]
      dsimp only
      rw [LineBuffer.take_complete hi hpending hasked, LineBuffer.runNow_ok hran]
      exact ⟨ys, rfl⟩

/-- In neither mode does any text that is not blank run in a context that is gone. -/
theorem feed_of_gone (hpending : s.session.buffer.pending = none) (hb : isBlank text = false)
    (hk : s.world.line.interpreter.context? ctx = none) :
    ((Session.feed ctx (some text)).run env s).1 =
      .error (.ofGuest (Ledger.unknownContext ctx)) := by
  cases hi : s.session.isInteractive with
  | false =>
      have hanswer :=
        MemoryInterpreter.answer_run_of_none hk env.files (LineBuffer.stripReturns text)
      rw [feed_of_not_blank hi hpending hb (Line.call_of_answer hanswer)]
      rfl
  | true =>
      obtain ⟨xs, hasked⟩ := Session.sink_probe
        (MemoryInterpreter.answer_probe_of_none hk env.files (LineBuffer.stripReturns text))
      unfold Session.feed Op.run LineBuffer.feed
      rw [content?_of_not_blank hb]
      dsimp only
      rw [LineBuffer.take_unclear hi hpending hasked]

/-- To evaluate is to feed, and to report a line that was held back. -/
theorem result_evaluate (hp : s.session.phase = .live env.caller ctx) (line : Option String) :
    ((Request.evaluate line).perform.run env s).1 =
      ((Session.feed ctx line).run env s).1.map .outcome := by
  rw [Request.perform, Op.result_telling, Session.evaluate,
    Op.run_bind_ok (Session.context_live hp), Op.run_bind]
  cases (Session.feed ctx line : Op MemoryInterpreter Outcome).run env s with
  | mk r s' =>
      cases r with
      | error e => rfl
      | ok outcome => cases outcome <;> rfl

theorem run_evaluate_ran (hp : s.session.phase = .live env.caller ctx) {line : Option String}
    {s' : Scene MemoryInterpreter} (h : (Session.feed ctx line).run env s = (.ok .ran, s')) :
    (Request.evaluate line).perform.run env s = (.ok (.outcome .ran), s') := by
  rw [Request.perform, Request.telling, Op.run_bind, Session.evaluate,
    Op.run_bind_ok (Session.context_live hp), Op.run_bind_ok h]
  rfl

end Evaluating

/-! ### Assignments -/

/-- What it comes to that an assignment is evaluated. -/
structure Assigned (env : Ambient) (ctx : Handle) (name : String) (v : Value)
    (s : Scene MemoryInterpreter) (p : Except Failure Answer × Scene MemoryInterpreter) : Prop where
  outcome : p.1 = .ok (.outcome .ran)
  /-- Whatever the files are by then. -/
  found : ∀ files, Reads ⟨env.caller, files⟩ p.2 name v
  /-- All other variables, of this context and of all others, hold what they held. -/
  others : ∀ c other, (c, other) ≠ (ctx, name) →
    p.2.world.line.interpreter.ledger.value? c other =
      s.world.line.interpreter.ledger.value? c other
  session : p.2.session = s.session

theorem assigned_of_live {env : Ambient} {ctx : Handle} {s : Scene MemoryInterpreter}
    {name literal : String} {v : Value} (hp : s.session.phase = .live env.caller ctx)
    (hpending : s.session.buffer.pending = none) (hname : Script.isName name.toList = true)
    (hraise : ¬ "raise".toList <+: name.toList) (hv : Script.Writes literal v)
    {k : GuestContext} (hk : s.world.line.interpreter.context? ctx = some k) :
    Assigned env ctx name v s
      ((Request.evaluate (some (Script.assignment name literal))).perform.run env s) := by
  have hliteral := Script.literal_of_writes hv
  have hwhole := Script.whole_assignment hname hliteral
  have hstrip := Script.stripReturns_of_whole hwhole
  have hprobe := Script.probe_of_whole hwhole
  have hrun := Script.run_assignment hname hraise hliteral k.vars
  have hnamed := Script.isBlank_of_whole (Script.whole_of_word (Script.word_of_isName hname))
  obtain ⟨xs, hfeed⟩ := @feed_of_complete env ctx s _ hpending (Script.isBlank_of_whole hwhole)
    _ hk (hstrip.symm ▸ hprobe) _ (hstrip.symm ▸ hrun)
  rw [run_evaluate_ran hp hfeed]
  refine ⟨rfl, fun files => ?_, fun c other hne => ?_, rfl⟩
  · refine @reads_of_value ⟨env.caller, files⟩ _ ctx name v hp hnamed ?_
    dsimp only
    rw [MemoryInterpreter.value?_withContext, if_pos rfl, Table.find?_insert_self]
  · dsimp only
    rw [MemoryInterpreter.value?_withContext]
    split
    · next hc =>
      subst hc
      have hother : name ≠ other := fun h => hne (by rw [h])
      unfold MemoryInterpreter.context? at hk
      rw [Table.find?_insert_of_ne _ _ hother, Ledger.value?, hk, Option.bind_some]
    · rfl

/-- In either mode, an assignment that is evaluated while nothing is pending gives its name the
value of its literal and changes no other variable, exactly if the context is still live. -/
theorem assigned_iff {env : Ambient} {ctx : Handle} {s : Scene MemoryInterpreter}
    {name literal : String} {v : Value} (hi : s.session.isInitialized = true)
    (ho : s.session.owner? = some env.caller) (hh : s.session.handle? = some ctx)
    (hpending : s.session.hasPending = false) (hname : Script.isName name.toList = true)
    (hraise : ¬ "raise".toList <+: name.toList) (hv : Script.Writes literal v) :
    Assigned env ctx name v s
        ((Request.evaluate (some (Script.assignment name literal))).perform.run env s) ↔
      (s.world.line.interpreter.context? ctx).isSome = true := by
  obtain ⟨owner, ctx', hp⟩ := Session.phase_of_initialized hi
  rw [Session.owner?_live hp, Option.some.injEq] at ho
  rw [Session.handle?_live hp, Option.some.injEq] at hh
  rw [ho, hh] at hp
  have hnone := (s.session.hasPending_eq_false_iff).1 hpending
  cases hk : s.world.line.interpreter.context? ctx with
  | some k => exact iff_of_true (assigned_of_live hp hnone hname hraise hv hk) rfl
  | none =>
      refine iff_of_false (fun h => ?_) (by simp)
      have hwhole := Script.whole_assignment hname (Script.literal_of_writes hv)
      have hoc := h.outcome
      rw [result_evaluate hp, feed_of_gone hnone (Script.isBlank_of_whole hwhole) hk] at hoc
      cases hoc

/-- A text with blanks at its ends, quotes of both kinds, an equals sign and brackets in it, and a
colon behind them. -/
def tricky : String := " \"a\" = 'b' [(x)]: "

theorem balanced_tricky : Probe.Balanced tricky.toList where
  sound := by
    rw [Script.sound_iff (by decide)]
    intro e he
    have hprobe : Script.probe tricky = .ok .incomplete := by decide
    rw [hprobe] at he
    cases he
  closed := by decide

/-- In interactive mode. -/
theorem assigned_iff_tricky :
    awaiting.session.isInitialized = true ∧ awaiting.session.owner? = some ⟨"1"⟩ ∧
      awaiting.session.handle? = some ⟨1, by decide⟩ ∧ awaiting.session.hasPending = false ∧
      Script.isName "größe_2".toList = true ∧ ¬ "raise".toList <+: "größe_2".toList ∧
      Script.Writes ("\"" ++ tricky ++ "\"") (.str tricky) ∧
      Assigned ⟨⟨"1"⟩, .empty⟩ ⟨1, by decide⟩ "größe_2" (.str tricky) awaiting
        ((Request.evaluate (some (Script.assignment "größe_2" ("\"" ++ tricky ++ "\"")))).perform.run
          ⟨⟨"1"⟩, .empty⟩ awaiting) := by
  have hwrites : Script.Writes ("\"" ++ tricky ++ "\"") (.str tricky) :=
    .quoted (.inl rfl) (by simp [tricky]) (by decide) balanced_tricky
  have hname : Script.isName "größe_2".toList = true := by decide
  have hraise : ¬ "raise".toList <+: "größe_2".toList := by decide
  have hiff := @assigned_iff ⟨⟨"1"⟩, .empty⟩ ⟨1, by decide⟩ awaiting _ _ _ rfl rfl rfl rfl hname
    hraise hwrites
  exact ⟨rfl, rfl, rfl, rfl, hname, hraise, hwrites, hiff.2 rfl⟩

/-- In a session whose context is gone nothing is assigned. -/
theorem unassigned_gone :
    (evicted ⟨1, by decide⟩).session.isInitialized = true ∧
      (evicted ⟨1, by decide⟩).session.owner? = some ⟨"1"⟩ ∧
      (evicted ⟨1, by decide⟩).session.handle? = some ⟨1, by decide⟩ ∧
      (evicted ⟨1, by decide⟩).session.hasPending = false ∧
      Script.isName "x".toList = true ∧ ¬ "raise".toList <+: "x".toList ∧
      Script.Writes "1" (.long 1) ∧
      ((Request.evaluate (some (Script.assignment "x" "1"))).perform.run ⟨⟨"1"⟩, .empty⟩
        (evicted ⟨1, by decide⟩)).1 = .error (.raised "unknown context ctx#1") :=
  ⟨rfl, rfl, rfl, rfl, by decide, by decide, .long 1, rfl⟩

end PinnedSessions
