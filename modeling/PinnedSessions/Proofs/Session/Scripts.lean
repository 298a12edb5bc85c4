import PinnedSessions.Proofs.Interpreter.Blocks
import PinnedSessions.Proofs.Session.Faults

/-! # Evaluating a text and running it as a script

In direct mode a text can be evaluated, or written to a file that is run as a script. The first way
drops the carriage returns and does not bother the interpreter with a blank text; the second way
hands over the file as it is. As long as carriage returns only end lines both ways come to the same,
but for the list of texts that the context has seen (`scripts_agree_iff`). The one exception is a
blank text in a session whose context is gone: to evaluate it goes well, and to run the script
fails. -/

namespace PinnedSessions

open Text

variable {σ : Type}

/-- Two ways to work in a context that come to the same, but for the list of the texts that were run
in it, for the exchanges and for the log. -/
structure Coincide (ctx : Handle) (p q : Except Failure Answer × Scene MemoryInterpreter) :
    Prop where
  failure : ∀ e, p.1 = .error e ↔ q.1 = .error e
  session : p.2.session = q.2.session
  registry : p.2.world.registry = q.2.world.registry
  vars : ∀ c, (p.2.world.line.interpreter.context? c).map (·.vars) =
    (q.2.world.line.interpreter.context? c).map (·.vars)
  interpreter : p.2.world.line.interpreter.forgetTexts ctx =
    q.2.world.line.interpreter.forgetTexts ctx

/-! ### The interpreter -/

theorem Files.readText_of_lookup {files : Files} {path text : String}
    (h : files.lookup path = .ok (.file text.toUTF8)) : files.readText path = .ok text := by
  have htext : String.fromUTF8? text.toUTF8 = some text := dif_pos text.isValidUTF8
  rw [readText, h]
  dsimp only
  rw [htext]

theorem Files.isFile_of_lookup {files : Files} {path : String} {bytes : ByteArray}
    (h : files.lookup path = .ok (.file bytes)) : files.isFile path = true := by
  rw [isFile, h]

/-- The empty path leads nowhere. -/
theorem Files.ne_empty_of_lookup {files : Files} {path : String} {entry : Entry}
    (h : files.lookup path = .ok entry) : path ≠ "" := by
  rintro rfl
  cases h

namespace MemoryInterpreter

/-- To run a file is to run the text that it holds. -/
theorem answer_runFile {files : Files} {path text : String}
    (h : files.lookup path = .ok (.file text.toUTF8)) (m : MemoryInterpreter) (ctx : Handle) :
    answer files (.runFile ctx path) m = answer files (.run ctx text) m := by
  rw [answer, answer, onLedger, onLedger, Ledger.runFile, Files.readText_of_lookup h]

/-- The variables are seen where the list of texts is not. -/
theorem vars_of_forgetTexts {m m' : MemoryInterpreter} {ctx : Handle}
    (h : m.forgetTexts ctx = m'.forgetTexts ctx) (c : Handle) :
    (m.context? c).map (·.vars) = (m'.context? c).map (·.vars) := by
  have hkeep : ∀ m : MemoryInterpreter,
      ((m.forgetTexts ctx).context? c).map (·.vars) = (m.context? c).map (·.vars) := by
    intro m
    rw [forgetTexts]
    cases hk : m.context? ctx with
    | none => rfl
    | some k =>
        by_cases hc : ctx = c
        · rw [← hc, hk]
          dsimp only
          rw [context?_withContext]
          rfl
        · exact congrArg _ (Table.find?_insert_of_ne _ _ hc)
  rw [← hkeep m, ← hkeep m', h]

end MemoryInterpreter

/-! ### Both ways -/

/-- What a request comes to that runs a text in the context `ctx` and does nothing else. -/
structure Runs (env : Ambient) (ctx : Handle) (source : String) (s : Scene MemoryInterpreter)
    (p : Except Failure Answer × Scene MemoryInterpreter) : Prop where
  failure : ∀ e, p.1 = .error e ↔ ∃ fault,
    (s.world.line.interpreter.answer env.files (.run ctx source)).1 = .error fault ∧
      e = .ofGuest fault
  session : p.2.session = s.session
  registry : p.2.world.registry = s.world.registry
  interpreter : p.2.world.line.interpreter =
    (s.world.line.interpreter.answer env.files (.run ctx source)).2

theorem Line.call_of_answer [Interpreter σ] {files : Files} {thread : Thread} {c : Call}
    {l : Line σ} {reply : c.Reply} {interpreter : σ}
    (h : Interpreter.answer files c l.interpreter = (reply, interpreter)) :
    l.call files thread c = (reply, ⟨interpreter, l.exchanges ++ [⟨thread, c, reply⟩]⟩) := by
  rw [call, h]

/-- The answer to the run is told, and that is all. -/
theorem Runs.of_answer {env : Ambient} {ctx : Handle} {source : String}
    {s : Scene MemoryInterpreter} {p : Except Failure Answer × Scene MemoryInterpreter}
    {reply : Except GuestFault Unit} {m : MemoryInterpreter} {a : Answer}
    (h : s.world.line.interpreter.answer env.files (.run ctx source) = (reply, m))
    (hres : p.1 = (reply.mapError Failure.ofGuest).map fun _ => a)
    (hsession : p.2.session = s.session) (hregistry : p.2.world.registry = s.world.registry)
    (hinterpreter : p.2.world.line.interpreter = m) : Runs env ctx source s p where
  failure e := by
    rw [h, hres]
    cases reply with
    | ok u => exact ⟨nofun, nofun⟩
    | error fault => simp [Except.mapError, Except.map, eq_comm]
  session := hsession
  registry := hregistry
  interpreter := by rw [h, hinterpreter]

/-- Texts that are answered alike, but for the list of texts, are run alike. -/
theorem Runs.coincide {env : Ambient} {ctx : Handle} {source source' : String}
    {s : Scene MemoryInterpreter} {p q : Except Failure Answer × Scene MemoryInterpreter}
    (hp : Runs env ctx source s p) (hq : Runs env ctx source' s q)
    (hres : (s.world.line.interpreter.answer env.files (.run ctx source)).1 =
      (s.world.line.interpreter.answer env.files (.run ctx source')).1)
    (hleft : (s.world.line.interpreter.answer env.files (.run ctx source)).2.forgetTexts ctx =
      (s.world.line.interpreter.answer env.files (.run ctx source')).2.forgetTexts ctx) :
    Coincide ctx p q where
  failure e := by rw [hp.failure, hq.failure, hres]
  session := by rw [hp.session, hq.session]
  registry := by rw [hp.registry, hq.registry]
  vars := by
    rw [hp.interpreter, hq.interpreter]
    exact MemoryInterpreter.vars_of_forgetTexts hleft
  interpreter := by rw [hp.interpreter, hq.interpreter, hleft]

section Ways

variable {env : Ambient} {ctx : Handle} {s : Scene MemoryInterpreter} {text : String}

theorem content?_of_blank (h : isBlank text = true) : LineBuffer.content? (some text) = none := by
  rw [LineBuffer.content?, Script.isBlank_stripReturns, if_pos h]

theorem content?_of_not_blank (h : isBlank text = false) :
    LineBuffer.content? (some text) = some (LineBuffer.stripReturns text) := by
  rw [LineBuffer.content?, Script.isBlank_stripReturns, h, if_neg nofun]

/-- In direct mode a flush does nothing. -/
theorem feed_of_blank (hi : s.session.isInteractive = false) (hb : isBlank text = true) :
    (Session.feed ctx (some text)).run env s = (.ok .idle, s) := by
  obtain ⟨⟨settings, resolver, phase, ⟨interactive, pending⟩, held⟩, world⟩ := s
  cases hi
  unfold Session.feed Op.run LineBuffer.feed
  rw [content?_of_blank hb]
  rfl

/-- In direct mode a text that is not blank is run at once, and nothing else happens. -/
theorem feed_of_not_blank (hi : s.session.isInteractive = false)
    (hpending : s.session.buffer.pending = none) (hb : isBlank text = false)
    {reply : Except GuestFault Unit} {l : Line MemoryInterpreter}
    (hcall : s.world.line.call env.files env.caller (.run ctx (LineBuffer.stripReturns text)) =
      (reply, l)) :
    (Session.feed ctx (some text)).run env s =
      ((reply.mapError Failure.ofGuest).map fun _ => .ran,
        ⟨s.session, { s.world with line := l }⟩) := by
  obtain ⟨⟨settings, resolver, phase, ⟨interactive, pending⟩, held⟩, world⟩ := s
  cases hi
  cases hpending
  unfold Session.feed Op.run LineBuffer.feed
  rw [content?_of_not_blank hb]
  dsimp only [LineBuffer.take, LineBuffer.runNow, Session.sink]
  rw [hcall]
  cases reply <;> rfl

/-- To evaluate a blank text does nothing. -/
theorem run_evaluate_blank (hp : s.session.phase = .live env.caller ctx)
    (hi : s.session.isInteractive = false) (hb : isBlank text = true) :
    (Request.evaluate (some text)).perform.run env s = (.ok (.outcome .idle), s) := by
  rw [Request.perform, Request.telling, Op.run_bind, Session.evaluate,
    Op.run_bind_ok (Session.context_live hp), Op.run_bind_ok (feed_of_blank hi hb)]
  rfl

/-- To evaluate any other text is to run it without its carriage returns. -/
theorem runs_evaluate (hp : s.session.phase = .live env.caller ctx)
    (hi : s.session.isInteractive = false) (hpending : s.session.buffer.pending = none)
    (hb : isBlank text = false) : Runs env ctx (LineBuffer.stripReturns text) s
      ((Request.evaluate (some text)).perform.run env s) := by
  cases hanswer : s.world.line.interpreter.answer env.files
      (.run ctx (LineBuffer.stripReturns text)) with
  | mk reply m =>
      have hfeed := feed_of_not_blank hi hpending hb (Line.call_of_answer hanswer)
      rw [Request.perform, Request.telling, Op.run_bind, Session.evaluate,
        Op.run_bind_ok (Session.context_live hp), Op.run_bind, hfeed]
      cases reply with
      | ok u => exact .of_answer (a := .outcome .ran) hanswer rfl rfl rfl rfl
      | error fault => exact .of_answer (a := .outcome .ran) hanswer rfl rfl rfl rfl

/-- A script is run as it is. -/
theorem runs_runFile (hp : s.session.phase = .live env.caller ctx) {path : String}
    (hpath : env.files.lookup path = .ok (.file text.toUTF8)) :
    Runs env ctx text s ((Request.runFile path).perform.run env s) := by
  cases hanswer : s.world.line.interpreter.answer env.files (.run ctx text) with
  | mk reply m =>
      have hfile :=
        (MemoryInterpreter.answer_runFile hpath s.world.line.interpreter ctx).trans hanswer
      have hcall : s.world.line.call env.files env.caller (.runFile ctx path) = (reply, _) :=
        Line.call_of_answer hfile
      rw [Request.perform, Request.silent, Request.telling, Op.run_bind, Session.runFile,
        Op.run_bind_ok (Session.context_live hp), if_neg (Files.ne_empty_of_lookup hpath),
        Op.run_bind_ok (Op.run_files _ _), Files.isFile_of_lookup hpath, if_neg (by decide),
        Op.run_bind_ok (Op.run_log _ _ _), Op.run_bind_ok (Op.run_call _ _ _), hcall]
      cases reply with
      | ok u => exact .of_answer (a := .done) hanswer rfl rfl rfl rfl
      | error fault => exact .of_answer (a := .done) hanswer rfl rfl rfl rfl

/-- A blank script in a live context does nothing, and in no context it fails. -/
theorem coincide_blank_iff (hp : s.session.phase = .live env.caller ctx)
    (hi : s.session.isInteractive = false) (hb : isBlank text = true) {path : String}
    (hpath : env.files.lookup path = .ok (.file text.toUTF8)) :
    Coincide ctx ((Request.evaluate (some text)).perform.run env s)
        ((Request.runFile path).perform.run env s) ↔
      (s.world.line.interpreter.context? ctx).isSome = true := by
  have hscript := runs_runFile hp hpath
  rw [run_evaluate_blank hp hi hb]
  cases hk : s.world.line.interpreter.context? ctx with
  | none =>
      have hanswer := MemoryInterpreter.answer_run_of_none hk env.files text
      refine iff_of_false (fun h => ?_) (by simp)
      have hfail := (hscript.failure _).2 ⟨_, congrArg Prod.fst hanswer, rfl⟩
      cases (h.failure _).2 hfail
  | some k =>
      have hanswer := MemoryInterpreter.answer_run hk env.files text
      rw [Script.run_blank hb] at hanswer
      have hleft : s.world.line.interpreter.forgetTexts ctx =
          ((Request.runFile path).perform.run env s).2.world.line.interpreter.forgetTexts ctx := by
        rw [hscript.interpreter, hanswer, MemoryInterpreter.forgetTexts_withContext,
          MemoryInterpreter.forgetTexts, hk]
      have hgood : ∀ e, ((Request.runFile path).perform.run env s).1 ≠ .error e := by
        intro e he
        obtain ⟨fault, hfault, -⟩ := (hscript.failure e).1 he
        rw [hanswer] at hfault
        cases hfault
      refine iff_of_true ⟨fun e => iff_of_false ?_ (hgood e), hscript.session.symm,
        hscript.registry.symm, MemoryInterpreter.vars_of_forgetTexts hleft, hleft⟩ rfl
      intro he
      cases he

/-- Any other text comes to the same both ways, carriage returns at the ends of lines or not. -/
theorem coincide_of_not_blank (hp : s.session.phase = .live env.caller ctx)
    (hi : s.session.isInteractive = false) (hpending : s.session.buffer.pending = none)
    (hb : isBlank text = false) (htext : ReturnsEndLines text.toList) {path : String}
    (hpath : env.files.lookup path = .ok (.file text.toUTF8)) :
    Coincide ctx ((Request.evaluate (some text)).perform.run env s)
      ((Request.runFile path).perform.run env s) := by
  refine (runs_evaluate hp hi hpending hb).coincide (runs_runFile hp hpath) ?_ ?_
  · cases hk : s.world.line.interpreter.context? ctx with
    | none =>
        rw [MemoryInterpreter.answer_run_of_none hk, MemoryInterpreter.answer_run_of_none hk]
    | some k =>
        rw [MemoryInterpreter.answer_run hk, MemoryInterpreter.answer_run hk,
          Script.run_stripReturns htext]
  · cases hk : s.world.line.interpreter.context? ctx with
    | none =>
        rw [MemoryInterpreter.answer_run_of_none hk, MemoryInterpreter.answer_run_of_none hk]
    | some k =>
        rw [MemoryInterpreter.answer_run hk, MemoryInterpreter.answer_run hk,
          Script.run_stripReturns htext, MemoryInterpreter.forgetTexts_withContext,
          MemoryInterpreter.forgetTexts_withContext]

end Ways

/-- In direct mode, to evaluate a text in which carriage returns only end lines and to run a script
that holds it come to the same: unless the text is blank and the context gone, when the first does
nothing and the second fails. -/
theorem scripts_agree_iff {env : Ambient} {ctx : Handle} {s : Scene MemoryInterpreter}
    {text path : String} (hs : s.session.Reached MemoryInterpreter)
    (hi : s.session.isInitialized = true) (hdirect : s.session.isInteractive = false)
    (ho : s.session.owner? = some env.caller) (hh : s.session.handle? = some ctx)
    (htext : ReturnsEndLines text.toList)
    (hpath : env.files.lookup path = .ok (.file text.toUTF8)) :
    Coincide ctx ((Request.evaluate (some text)).perform.run env s)
        ((Request.runFile path).perform.run env s) ↔
      isBlank text = false ∨ (s.world.line.interpreter.context? ctx).isSome = true := by
  obtain ⟨owner, ctx', hp⟩ := Session.phase_of_initialized hi
  rw [Session.owner?_live hp, Option.some.injEq] at ho
  rw [Session.handle?_live hp, Option.some.injEq] at hh
  rw [ho, hh] at hp
  cases hb : isBlank text with
  | true =>
      rw [coincide_blank_iff hp hdirect hb hpath]
      simp
  | false =>
      have hpending := settled_of_reached hs hdirect
      exact iff_of_true (coincide_of_not_blank hp hdirect hpending hb htext hpath) (.inl rfl)

/-- A session in direct mode that has been started on an empty interpreter. -/
def prompt : Scene MemoryInterpreter :=
  (Request.start.perform.run ⟨⟨"1"⟩, .empty⟩ ⟨.fresh {}, { line := ⟨.new, []⟩ }⟩).2

theorem reached_prompt : prompt.session.Reached MemoryInterpreter :=
  .asked (.fresh {}) .start ⟨⟨"1"⟩, .empty⟩ { line := ⟨MemoryInterpreter.new, []⟩ }

/-- The directory with just one file. -/
def soleFile (name text : String) : Files := ⟨[([name], .file text.toUTF8)]⟩

/-- The same session once a context was released behind its back. -/
def evicted (ctx : Handle) : Scene MemoryInterpreter :=
  { prompt with world := { prompt.world with
      line := (prompt.world.line.call .empty ⟨"2"⟩ (.release ctx)).2 } }

/-- Two lines with carriage returns, of which the second raises. -/
def raising : String := "x = 'a'\r\r\nraise y\r"

/-- The carriage returns make no difference, neither to `x` nor to what is raised. -/
theorem scripts_agree_iff_raising :
    prompt.session.Reached MemoryInterpreter ∧ prompt.session.isInitialized = true ∧
      prompt.session.isInteractive = false ∧ prompt.session.owner? = some ⟨"1"⟩ ∧
      prompt.session.handle? = some ⟨1, by decide⟩ ∧ ReturnsEndLines raising.toList ∧
      (soleFile "s.py" raising).lookup "s.py" = .ok (.file raising.toUTF8) ∧
      Coincide ⟨1, by decide⟩
        ((Request.evaluate (some raising)).perform.run ⟨⟨"1"⟩, soleFile "s.py" raising⟩ prompt)
        ((Request.runFile "s.py").perform.run ⟨⟨"1"⟩, soleFile "s.py" raising⟩ prompt) := by
  have hreturns : ReturnsEndLines raising.toList := by
    simp [raising, ReturnsEndLines, List.suffix_cons_iff]
  have hcoincide := @scripts_agree_iff ⟨⟨"1"⟩, soleFile "s.py" raising⟩ ⟨1, by decide⟩ prompt
    raising "s.py" reached_prompt rfl rfl rfl rfl hreturns rfl
  exact ⟨reached_prompt, rfl, rfl, rfl, rfl, hreturns, rfl, hcoincide.2 (.inr rfl)⟩

/-- A blank script in a session whose context is gone. -/
theorem disagree_blank :
    (evicted ⟨1, by decide⟩).session.Reached MemoryInterpreter ∧
      (evicted ⟨1, by decide⟩).session.isInitialized = true ∧
      (evicted ⟨1, by decide⟩).session.isInteractive = false ∧
      (evicted ⟨1, by decide⟩).session.owner? = some ⟨"1"⟩ ∧ ReturnsEndLines "\n".toList ∧
      (soleFile "blank.py" "\n").lookup "blank.py" = .ok (.file "\n".toUTF8) ∧
      ((Request.evaluate (some "\n")).perform.run ⟨⟨"1"⟩, soleFile "blank.py" "\n"⟩
        (evicted ⟨1, by decide⟩)).1 = .ok (.outcome .idle) ∧
      ((Request.runFile "blank.py").perform.run ⟨⟨"1"⟩, soleFile "blank.py" "\n"⟩
        (evicted ⟨1, by decide⟩)).1 = .error (.raised "unknown context ctx#1") := by
  refine ⟨reached_prompt, rfl, rfl, rfl, ?_, rfl, rfl, rfl⟩
  simp [ReturnsEndLines, List.suffix_cons_iff]

end PinnedSessions
