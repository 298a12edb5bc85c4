import PinnedSessions.Statement.LineBuffer

/-! # The machine that a line buffer implements

A `LineBuffer` keeps one text and decides by looking at it whether a separator is needed. The
machine it stands for keeps the lines themselves.

* **States.** A mode, and what was gathered: nothing (`empty`), or one line and those that followed
  it (`buffering`). There is no state with an empty list of lines.
* **Reading.** Carriage returns are taken out of a line first. No line, or one that is blank then,
  is a flush.
* **Flush.** Nothing happens to an empty machine. A buffering one runs its lines, joined, without
  a probe, and is empty afterwards whether they ran or failed.
* **Lines.** In direct mode a line runs, without a probe. In interactive mode an empty machine
  probes it: a complete one runs, an incomplete one is kept. A buffering machine keeps it and asks
  nobody.
* **Failures.** Whatever call fails, the machine is empty afterwards.
* **Modes.** Leaving interactive mode gives up the lines and hands back their text.

`Gatherer.feed` answers with the calls to the sink, each with its argument and answer, and
`Sink.recorded` makes a sink list the same. `processAll` gives inputs in turn, to a buffer or to a
machine; `feed_refines` says that from the same start on the two never differ in result, calls or
state. -/

namespace PinnedSessions

/-- One call to a sink, with its argument and its answer. -/
inductive SinkEvent (ε : Type) where
  | probed (source : String) (answer : Except ε Bool)
  | ran (source : String) (answer : Except ε Unit)

/-- The same sink, which also lists its calls. -/
def Sink.recorded {σ ε : Type} (sink : Sink σ ε) : Sink (σ × List (SinkEvent ε)) ε where
  probe source s :=
    let (answer, t) := sink.probe source s.1
    (answer, t, s.2 ++ [.probed source answer])
  run source s :=
    let (answer, t) := sink.run source s.1
    (answer, t, s.2 ++ [.ran source answer])

/-- What was gathered: nothing, or one line and those that followed it. -/
inductive Gathered where
  | empty
  | buffering (first : String) (rest : List String)
deriving DecidableEq, Repr

namespace Gathered

/-- The lines, first one first. -/
def lines : Gathered → List String
  | .empty => []
  | .buffering first rest => first :: rest

/-- The lines joined, if there are any. -/
def text? : Gathered → Option String
  | .empty => none
  | .buffering first rest => some ("\n".intercalate (first :: rest))

end Gathered

/-- The mode and what was gathered. -/
structure Gatherer where
  interactive : Bool
  gathered : Gathered
deriving DecidableEq, Repr

/-- The buffer that stands for a machine. -/
def Gatherer.buffer (g : Gatherer) : LineBuffer := ⟨g.interactive, g.gathered.text?⟩

/-- What one step did: its result, the calls it made, and the states after it. -/
structure Fed (σ ε : Type) where
  result : Except ε Outcome
  calls : List (SinkEvent ε)
  after : Gatherer
  sinkState : σ

/-- A step as a buffer with a recorded sink shows it. -/
def Fed.seen {σ ε : Type} (f : Fed σ ε) :
    Except ε Outcome × LineBuffer × σ × List (SinkEvent ε) :=
  (f.result, f.after.buffer, f.sinkState, f.calls)

namespace Gatherer

/-- A machine that has gathered nothing. -/
def empty (interactive : Bool) : Gatherer := ⟨interactive, .empty⟩

/-- The text of a line without its carriage returns, or nothing if no text is left but blanks. -/
def reading (line : Option String) : Option String :=
  (line.map fun l => String.ofList (l.toList.filter (· ≠ '\r'))).filter fun text =>
    text.toList.any fun c => !Text.isBlankChar c

variable {σ ε : Type}

/-- Run a text after the calls made so far; the machine is empty afterwards. -/
def execute (sink : Sink σ ε) (calls : List (SinkEvent ε)) (text : String) (g : Gatherer) (s : σ) :
    Fed σ ε :=
  let (answer, s) := sink.run text s
  ⟨answer.map fun _ => .ran, calls ++ [.ran text answer], empty g.interactive, s⟩

/-- Probe the first line of a statement. -/
def consider (sink : Sink σ ε) (text : String) (g : Gatherer) (s : σ) : Fed σ ε :=
  match sink.probe text s with
  | (.ok true, s) => g.execute sink [.probed text (.ok true)] text s
  | (.ok false, s) =>
    ⟨.ok .held, [.probed text (.ok false)], ⟨g.interactive, .buffering text []⟩, s⟩
  | (.error e, s) => ⟨.error e, [.probed text (.error e)], empty g.interactive, s⟩

/-- Feed one line, or flush. -/
def feed (sink : Sink σ ε) (line : Option String) (g : Gatherer) (s : σ) : Fed σ ε :=
  match reading line, g.gathered with
  | none, .empty => ⟨.ok .idle, [], g, s⟩
  | none, .buffering first rest => g.execute sink [] ("\n".intercalate (first :: rest)) s
  | some text, .empty =>
    if g.interactive then g.consider sink text s else g.execute sink [] text s
  | some text, .buffering first rest =>
    if g.interactive then ⟨.ok .held, [], ⟨true, .buffering first (rest ++ [text])⟩, s⟩
    else g.execute sink [] text s

/-- Switch the mode; the text given up by leaving interactive mode is handed back. -/
def switchMode (interactive : Bool) (g : Gatherer) : Option String × Gatherer :=
  if interactive then (none, ⟨true, g.gathered⟩) else (g.gathered.text?, empty false)

@[simp] theorem buffer_empty (interactive : Bool) :
    (empty interactive).buffer = .empty interactive := rfl

/-- What every machine that can be reached satisfies: nothing is gathered in direct mode, and no
line gathered is without characters. -/
structure Sound (g : Gatherer) : Prop where
  direct : g.interactive = false → g.gathered = .empty
  filled : ∀ l ∈ g.gathered.lines, l ≠ ""

theorem sound_empty (interactive : Bool) : (empty interactive).Sound :=
  ⟨fun _ => rfl, by simp [empty, Gathered.lines]⟩

end Gatherer

/-! ### Histories -/

/-- One input: a line or a flush with the sink that takes it, or a switch of the mode. -/
inductive Input (σ ε : Type) where
  | feed (line : Option String) (sink : Sink σ ε)
  | switch (interactive : Bool)

/-- What came of one input. -/
inductive BufferEvent (ε : Type) where
  | fed (calls : List (SinkEvent ε)) (result : Except ε Outcome)
  | switched (interactive : Bool) (dropped : Option String)

variable {σ ε : Type}

/-- Give a buffer one input. -/
def LineBuffer.process (b : LineBuffer) (s : σ) : Input σ ε → BufferEvent ε × LineBuffer × σ
  | .feed line sink =>
    let (result, b, s, calls) := b.feed sink.recorded line (s, [])
    (.fed calls result, b, s)
  | .switch interactive =>
    let (dropped, b) := b.switchMode interactive
    (.switched interactive dropped, b, s)

/-- Give a buffer inputs in turn. -/
def LineBuffer.processAll (b : LineBuffer) (s : σ) :
    List (Input σ ε) → List (BufferEvent ε) × LineBuffer × σ
  | [] => ([], b, s)
  | input :: inputs =>
    let (event, b, s) := b.process s input
    let (events, b, s) := b.processAll s inputs
    (event :: events, b, s)

/-- Give a machine one input. -/
def Gatherer.process (g : Gatherer) (s : σ) : Input σ ε → BufferEvent ε × Gatherer × σ
  | .feed line sink =>
    let fed := g.feed sink line s
    (.fed fed.calls fed.result, fed.after, fed.sinkState)
  | .switch interactive =>
    let (dropped, g) := g.switchMode interactive
    (.switched interactive dropped, g, s)

/-- Give a machine inputs in turn. -/
def Gatherer.processAll (g : Gatherer) (s : σ) :
    List (Input σ ε) → List (BufferEvent ε) × Gatherer × σ
  | [] => ([], g, s)
  | input :: inputs =>
    let (event, g, s) := g.process s input
    let (events, g, s) := g.processAll s inputs
    (event :: events, g, s)

/-! ### One step of the two -/

namespace Gatherer

theorem any_not_blank (text : String) :
    (text.toList.any fun c => !Text.isBlankChar c) = !Text.isBlank text := by
  simp [Text.isBlank, List.all_eq_not_any_not]

theorem reading_eq_content? (line : Option String) : reading line = LineBuffer.content? line := by
  cases line with
  | none => rfl
  | some l =>
      have hl : String.ofList (l.toList.filter (· ≠ '\r')) = LineBuffer.stripReturns l := rfl
      simp only [reading, LineBuffer.content?, Option.map_some, hl, Option.filter_some,
        any_not_blank]
      cases Text.isBlank (LineBuffer.stripReturns l) <;> rfl

/-- A line that is read has a character. -/
theorem reading_ne_empty {line : Option String} {text : String} (h : reading line = some text) :
    text ≠ "" := by
  rintro rfl
  obtain ⟨-, hany⟩ := Option.filter_eq_some_iff.1 h
  simp at hany

theorem intercalate_ne_empty {first : String} (rest : List String) (h : first ≠ "") :
    "\n".intercalate (first :: rest) ≠ "" := by
  cases rest with
  | nil => simpa using h
  | cons l ls => simp [h]

/-- Where the buffer appends to its text, the machine appends a line. -/
theorem join_intercalate {first : String} (rest : List String) (line : String) (h : first ≠ "") :
    LineBuffer.join (some ("\n".intercalate (first :: rest))) line =
      "\n".intercalate (first :: (rest ++ [line])) := by
  have hne := intercalate_ne_empty rest h
  have hcat := String.intercalate_append_of_ne_nil (s := "\n") (l := first :: rest) (m := [line])
    (by simp) (by simp)
  rw [List.cons_append] at hcat
  simp only [LineBuffer.join, String.isEmpty_iff, hne, if_false, hcat, String.intercalate_singleton]

/-- A text runs on an empty buffer as the machine executes it. -/
theorem runNow_empty (sink : Sink σ ε) (calls : List (SinkEvent ε)) (text : String) (g : Gatherer)
    (s : σ) :
    LineBuffer.runNow sink.recorded text (.empty g.interactive) (s, calls) =
      (g.execute sink calls text s).seen := by
  obtain ⟨⟨answer, t⟩, hrun⟩ : ∃ r, sink.run text s = r := ⟨_, rfl⟩
  simp only [LineBuffer.runNow, execute, Sink.recorded, hrun]
  cases answer <;> rfl

/-- The first line of a statement is taken by an empty buffer as the machine considers it. -/
theorem take_empty (sink : Sink σ ε) (text : String) (s : σ) :
    LineBuffer.take sink.recorded text (.empty true) (s, []) =
      ((empty true).consider sink text s).seen := by
  obtain ⟨⟨answer, t⟩, hprobe⟩ : ∃ r, sink.probe text s = r := ⟨_, rfl⟩
  have hrec : sink.recorded.probe text (s, []) = (answer, t, [.probed text answer]) := by
    simp [Sink.recorded, hprobe]
  simp only [LineBuffer.take, LineBuffer.empty, consider, hprobe, hrec]
  cases answer with
  | error e => rfl
  | ok complete =>
      cases complete with
      | true => exact runNow_empty sink [.probed text (.ok true)] text (empty true) t
      | false => simp [LineBuffer.hold, LineBuffer.join, Fed.seen, buffer, Gathered.text?, empty]

/-- The buffer that stands for a machine does what the machine does, and asks the same of the
sink. -/
theorem feed_buffer {g : Gatherer} (hg : g.Sound) (sink : Sink σ ε) (line : Option String) (s : σ) :
    g.buffer.feed sink.recorded line (s, []) = (g.feed sink line s).seen := by
  obtain ⟨interactive, gathered⟩ := g
  simp only [LineBuffer.feed, feed, ← reading_eq_content?]
  cases gathered with
  | empty =>
      cases reading line with
      | none => cases interactive <;> rfl
      | some text =>
          cases interactive with
          | true => exact take_empty sink text s
          | false => exact runNow_empty sink [] text (empty false) s
  | buffering first rest =>
      -- only interactive mode gathers, so the buffer does look at its text
      have hi : interactive = true := by
        cases interactive with
        | true => rfl
        | false => exact nomatch hg.direct rfl
      subst hi
      cases reading line with
      | none => exact runNow_empty sink [] _ ⟨true, .buffering first rest⟩ s
      | some text =>
          have hf : first ≠ "" := hg.filled first (by simp [Gathered.lines])
          simp only [LineBuffer.take, buffer, Gathered.text?, LineBuffer.hold, Fed.seen,
            join_intercalate rest text hf, if_true]

/-- What a buffer with a recorded sink did, without the record. -/
def unrecorded (r : Except ε Outcome × LineBuffer × σ × List (SinkEvent ε)) :
    Except ε Outcome × LineBuffer × σ := (r.1, r.2.1, r.2.2.1)

theorem runNow_recorded (sink : Sink σ ε) (text : String) (b : LineBuffer) (s : σ)
    (calls : List (SinkEvent ε)) :
    LineBuffer.runNow sink text b s =
      unrecorded (LineBuffer.runNow sink.recorded text b (s, calls)) := by
  obtain ⟨⟨answer, t⟩, hrun⟩ : ∃ r, sink.run text s = r := ⟨_, rfl⟩
  simp only [LineBuffer.runNow, Sink.recorded, hrun]
  cases answer <;> rfl

/-- Recording changes neither the result nor the states. -/
theorem feed_recorded (sink : Sink σ ε) (line : Option String) (b : LineBuffer) (s : σ) :
    b.feed sink line s = unrecorded (b.feed sink.recorded line (s, [])) := by
  obtain ⟨interactive, pending⟩ := b
  cases hc : LineBuffer.content? line with
  | none =>
      simp only [LineBuffer.feed, hc, LineBuffer.flush]
      split
      · exact runNow_recorded sink _ _ s []
      · rfl
  | some text =>
      obtain ⟨⟨answer, t⟩, hprobe⟩ : ∃ r, sink.probe text s = r := ⟨_, rfl⟩
      have hrec : sink.recorded.probe text (s, []) = (answer, t, [.probed text answer]) := by
        simp [Sink.recorded, hprobe]
      simp only [LineBuffer.feed, hc, LineBuffer.take]
      split
      · exact runNow_recorded sink text _ s []
      · rfl
      · simp only [hprobe, hrec]
        cases answer with
        | error e => rfl
        | ok complete =>
            cases complete with
            | true => exact runNow_recorded sink text _ t _
            | false => rfl

theorem switchMode_buffer (interactive : Bool) (g : Gatherer) :
    g.buffer.switchMode interactive =
      ((g.switchMode interactive).1, (g.switchMode interactive).2.buffer) := by
  cases interactive <;> rfl

/-! ### Soundness of every step -/

theorem sound_buffering {first : String} {rest : List String} (h : ∀ l ∈ first :: rest, l ≠ "") :
    (⟨true, .buffering first rest⟩ : Gatherer).Sound :=
  ⟨by simp, h⟩

theorem sound_consider (sink : Sink σ ε) {text : String} (ht : text ≠ "") (s : σ) :
    ((empty true).consider sink text s).after.Sound := by
  unfold consider
  split
  · exact sound_empty true
  · exact sound_buffering (by simpa using ht)
  · exact sound_empty true

theorem Sound.feed {g : Gatherer} (hg : g.Sound) (sink : Sink σ ε) (line : Option String) (s : σ) :
    (g.feed sink line s).after.Sound := by
  obtain ⟨interactive, gathered⟩ := g
  cases hr : reading line with
  | none =>
      simp only [Gatherer.feed, hr]
      cases gathered with
      | empty => exact hg
      | buffering first rest => exact sound_empty interactive
  | some text =>
      have ht : text ≠ "" := reading_ne_empty hr
      simp only [Gatherer.feed, hr]
      cases interactive with
      | false => cases gathered <;> exact sound_empty false
      | true =>
          cases gathered with
          | empty => exact sound_consider sink ht s
          | buffering first rest =>
              refine sound_buffering fun l hl => ?_
              rw [← List.cons_append, List.mem_append, List.mem_singleton] at hl
              rcases hl with hl | rfl
              · exact hg.filled l hl
              · exact ht

theorem Sound.switchMode {g : Gatherer} (hg : g.Sound) (interactive : Bool) :
    (g.switchMode interactive).2.Sound := by
  cases interactive with
  | true => exact ⟨by simp [Gatherer.switchMode], hg.filled⟩
  | false => exact sound_empty false

/-! ### Whole histories -/

/-- One input keeps buffer and machine together. -/
theorem process_buffer {g : Gatherer} (hg : g.Sound) (s : σ) (input : Input σ ε) :
    g.buffer.process s input =
      ((g.process s input).1, (g.process s input).2.1.buffer, (g.process s input).2.2) := by
  cases input with
  | feed line sink => simp only [LineBuffer.process, process, feed_buffer hg sink line s, Fed.seen]
  | switch interactive => simp only [LineBuffer.process, process, switchMode_buffer]

theorem Sound.process {g : Gatherer} (hg : g.Sound) (s : σ) (input : Input σ ε) :
    (g.process s input).2.1.Sound := by
  cases input with
  | feed line sink => exact hg.feed sink line s
  | switch interactive => exact hg.switchMode interactive

/-- A history keeps buffer and machine together, and the machine sound. -/
theorem processAll_buffer (inputs : List (Input σ ε)) {g : Gatherer} (hg : g.Sound) (s : σ) :
    (g.processAll s inputs).2.1.Sound ∧
      g.buffer.processAll s inputs =
        ((g.processAll s inputs).1, (g.processAll s inputs).2.1.buffer,
          (g.processAll s inputs).2.2) := by
  induction inputs generalizing g s with
  | nil => exact ⟨hg, rfl⟩
  | cons input inputs ih =>
      obtain ⟨hsound, heq⟩ := ih (hg.process s input) (g.process s input).2.2
      refine ⟨hsound, ?_⟩
      simp only [LineBuffer.processAll, Gatherer.processAll, process_buffer hg s input, heq]

/-- A buffer does what the machine does: after every history that both went through, they have done
the same and stand for each other; and then whatever line is fed to whatever sink, the result, the
calls with their arguments, and the states are the same, as they are for every switch of mode. -/
theorem feed_refines (interactive : Bool) (inputs : List (Input σ ε)) (s : σ) :
    let concrete := (LineBuffer.empty interactive).processAll s inputs
    let abstract := (empty interactive).processAll s inputs
    concrete = (abstract.1, abstract.2.1.buffer, abstract.2.2) ∧
      (∀ {τ δ : Type} (sink : Sink τ δ) (line : Option String) (t : τ),
        concrete.2.1.feed sink.recorded line (t, []) = (abstract.2.1.feed sink line t).seen ∧
          concrete.2.1.feed sink line t = unrecorded (abstract.2.1.feed sink line t).seen) ∧
      ∀ on : Bool,
        concrete.2.1.switchMode on =
          ((abstract.2.1.switchMode on).1, (abstract.2.1.switchMode on).2.buffer) := by
  intro concrete abstract
  obtain ⟨hsound, heq⟩ := processAll_buffer inputs (sound_empty interactive) s
  have hb : concrete.2.1 = abstract.2.1.buffer := congrArg (·.2.1) heq
  refine ⟨heq, fun sink line t => ?_, fun on => ?_⟩
  · rw [hb, feed_recorded sink, feed_buffer hsound]
    exact ⟨rfl, rfl⟩
  · rw [hb, switchMode_buffer]

end Gatherer

end PinnedSessions
