import Mathlib.Data.List.Forall2
import PinnedSessions.Proofs.Statement.Gatherer

/-! # Every line leaves the buffer once, and in order

A text leaves a buffer in one of three ways: it runs, its probe fails, or it is dropped when
interactive mode is left. What has not left is pending.

`fedLines` are the lines of a history without their carriage returns, the blank ones left out.
`groups_of_processAll` cuts them into consecutive groups, none of them empty, that answer one to one
and in order to the departures of the history and the text pending at its end: each text is its
group, joined. So no line is lost, doubled or moved, and nothing runs that is not such a group.

The proof is about the machine, which keeps the lines of the group to come (`process_groups`). -/

namespace PinnedSessions

/-- How a text leaves a buffer; the last is the one that has not left. -/
inductive Departure where
  | ran (text : String)
  /-- The probe of the text failed. -/
  | refused (text : String)
  | dropped (text : String)
  | pending (text : String)
deriving DecidableEq, Repr

/-- A departure is that of a group of lines: of a single line if its probe failed. -/
def Departure.Covers : Departure → List String → Prop
  | .refused text, group => group = [text]
  | .ran text, group | .dropped text, group | .pending text, group =>
    group ≠ [] ∧ text = "\n".intercalate group

theorem Departure.Covers.ne_nil {d : Departure} {group : List String} (h : d.Covers group) :
    group ≠ [] := by
  cases d with
  | refused text => exact fun hn => nomatch h.symm.trans hn
  | ran text => exact h.1
  | dropped text => exact h.1
  | pending text => exact h.1

/-- No departure is that of an empty group. -/
theorem nil_notMem_of_covers {ds : List Departure} {groups : List (List String)}
    (h : List.Forall₂ Departure.Covers ds groups) : [] ∉ groups := by
  induction h with
  | nil => simp
  | cons hd _ ih =>
      rw [List.mem_cons, not_or]
      exact ⟨hd.ne_nil.symm, ih⟩

variable {σ ε : Type}

/-- The departure that a call to the sink is, if it is one. -/
def SinkEvent.departure? : SinkEvent ε → Option Departure
  | .ran source _ => some (.ran source)
  | .probed source (.error _) => some (.refused source)
  | .probed _ (.ok _) => none

/-- The departures in one event; a text is dropped by leaving interactive mode only. -/
def BufferEvent.departures : BufferEvent ε → List Departure
  | .fed calls _ => calls.filterMap SinkEvent.departure?
  | .switched false (some text) => [.dropped text]
  | .switched _ _ => []

/-- The line that is fed, if there is one. -/
def Input.fed? : Input σ ε → Option String
  | .feed line _ => line
  | .switch _ => none

/-- The lines fed, without carriage returns, blank ones left out. -/
def fedLines (inputs : List (Input σ ε)) : List String :=
  ((inputs.filterMap Input.fed?).map fun l => String.ofList (l.toList.filter (· ≠ '\r'))).filter
    fun l => l.toList.any fun c => !Text.isBlankChar c

theorem fedLines_cons (input : Input σ ε) (inputs : List (Input σ ε)) :
    fedLines (input :: inputs) = fedLines [input] ++ fedLines inputs := by
  simp only [fedLines, ← List.filter_append, ← List.map_append, ← List.filterMap_append,
    List.singleton_append]

theorem fedLines_switch (interactive : Bool) :
    fedLines [(.switch interactive : Input σ ε)] = [] := rfl

theorem fedLines_feed (line : Option String) (sink : Sink σ ε) :
    fedLines [.feed line sink] = (Gatherer.reading line).toList := by
  cases line with
  | none => rfl
  | some l =>
      simp only [fedLines, Gatherer.reading, Input.fed?, List.filterMap_cons, List.filterMap_nil,
        List.map_cons, List.map_nil, List.filter_cons, List.filter_nil, Option.map_some,
        Option.filter_some]
      split <;> rfl

namespace Gatherer

/-- What departs when a text is executed behind calls that let nothing depart. -/
theorem departures_execute (sink : Sink σ ε) {calls : List (SinkEvent ε)} (text : String)
    (g : Gatherer) (s : σ) (hc : calls.filterMap SinkEvent.departure? = []) :
    (g.execute sink calls text s).calls.filterMap SinkEvent.departure? = [.ran text] := by
  simp only [execute, List.filterMap_append, hc, List.nil_append]
  rfl

/-- What departs and what stays when a first line is considered, as groups of lines. -/
theorem consider_groups (sink : Sink σ ε) (text : String) (s : σ) :
    ∃ groups : List (List String),
      groups.flatten ++ ((empty true).consider sink text s).after.gathered.lines = [text] ∧
        List.Forall₂ Departure.Covers
          (((empty true).consider sink text s).calls.filterMap SinkEvent.departure?) groups := by
  unfold consider
  split
  · refine ⟨[[text]], rfl, ?_⟩
    rw [departures_execute sink text (empty true) _ rfl]
    exact .cons ⟨by simp, by simp⟩ .nil
  · exact ⟨[], rfl, .nil⟩
  · exact ⟨[[text]], rfl, .cons rfl .nil⟩

/-- What departs and what stays at one input, as groups of lines. -/
theorem process_groups {g : Gatherer} (hg : g.Sound) (s : σ) (input : Input σ ε) :
    ∃ groups : List (List String),
      groups.flatten ++ (g.process s input).2.1.gathered.lines =
          g.gathered.lines ++ fedLines [input] ∧
        List.Forall₂ Departure.Covers (g.process s input).1.departures groups := by
  obtain ⟨interactive, gathered⟩ := g
  cases input with
  | switch on =>
      rw [fedLines_switch]
      cases on with
      | true => exact ⟨[], by simp [process, switchMode], .nil⟩
      | false =>
          cases gathered with
          | empty => exact ⟨[], rfl, .nil⟩
          | buffering first rest =>
              exact ⟨[first :: rest], by simp [process, switchMode, empty, Gathered.lines],
                .cons ⟨by simp, rfl⟩ .nil⟩
  | feed line sink =>
      rw [fedLines_feed]
      simp only [process, BufferEvent.departures, feed]
      cases hr : reading line with
      | none =>
          cases gathered with
          | empty => exact ⟨[], rfl, .nil⟩
          | buffering first rest =>
              refine ⟨[first :: rest], by simp [execute, empty, Gathered.lines], ?_⟩
              rw [departures_execute sink _ _ s rfl]
              exact .cons ⟨by simp, rfl⟩ .nil
      | some text =>
          have hdirect : ∀ h : Gatherer, ∃ groups : List (List String),
              groups.flatten ++ (h.execute sink [] text s).after.gathered.lines = [text] ∧
                List.Forall₂ Departure.Covers
                  ((h.execute sink [] text s).calls.filterMap SinkEvent.departure?) groups := by
            intro h
            refine ⟨[[text]], rfl, ?_⟩
            rw [departures_execute sink text h s rfl]
            exact .cons ⟨by simp, by simp⟩ .nil
          cases interactive with
          | false =>
              obtain rfl : gathered = .empty := hg.direct rfl
              exact hdirect _
          | true =>
              cases gathered with
              | empty => exact consider_groups sink text s
              | buffering first rest =>
                  exact ⟨[], by simp [Gathered.lines], .nil⟩

/-- What departs in a history and what stays at its end, as groups of lines. -/
theorem processAll_groups (inputs : List (Input σ ε)) {g : Gatherer} (hg : g.Sound) (s : σ) :
    ∃ groups : List (List String),
      groups.flatten ++ (g.processAll s inputs).2.1.gathered.lines =
          g.gathered.lines ++ fedLines inputs ∧
        List.Forall₂ Departure.Covers
          ((g.processAll s inputs).1.flatMap BufferEvent.departures) groups := by
  induction inputs generalizing g s with
  | nil => exact ⟨[], by simp [processAll, fedLines], .nil⟩
  | cons input inputs ih =>
      obtain ⟨now, hnow, hcovers⟩ := process_groups hg s input
      obtain ⟨later, hlater, hcovers'⟩ := ih (hg.process s input) (g.process s input).2.2
      refine ⟨now ++ later, ?_, ?_⟩
      · simp only [processAll, List.flatten_append, List.append_assoc]
        rw [hlater, ← List.append_assoc, hnow, List.append_assoc, ← fedLines_cons]
      · simp only [processAll, List.flatMap_cons]
        exact List.rel_append hcovers hcovers'

end Gatherer

/-- What stays gathered is the group of the text pending. -/
theorem pending_groups (g : Gatherer) :
    ∃ groups : List (List String), groups.flatten = g.gathered.lines ∧
      List.Forall₂ Departure.Covers (g.buffer.pending.toList.map .pending) groups := by
  obtain ⟨interactive, gathered⟩ := g
  cases gathered with
  | empty => exact ⟨[], rfl, .nil⟩
  | buffering first rest =>
      exact ⟨[first :: rest], by simp [Gathered.lines], .cons ⟨by simp, rfl⟩ .nil⟩

/-- No line is lost, doubled or moved: the lines of a history fall into consecutive groups, none
empty, that are one to one and in order what ran, was refused or was dropped, and what is
pending. -/
theorem groups_of_processAll (interactive : Bool) (inputs : List (Input σ ε)) (s : σ) :
    let r := (LineBuffer.empty interactive).processAll s inputs
    ∃ groups : List (List String), groups.flatten = fedLines inputs ∧ [] ∉ groups ∧
      List.Forall₂ Departure.Covers
        (r.1.flatMap BufferEvent.departures ++ r.2.1.pending.toList.map .pending) groups := by
  intro r
  have hstart := Gatherer.sound_empty interactive
  have hr : r = _ := (Gatherer.processAll_buffer inputs hstart s).2
  obtain ⟨gone, hgone, hcovers⟩ := Gatherer.processAll_groups inputs hstart s
  obtain ⟨left, hleft, hcovers'⟩ :=
    pending_groups ((Gatherer.empty interactive).processAll s inputs).2.1
  have hall : List.Forall₂ Departure.Covers
      (r.1.flatMap BufferEvent.departures ++ r.2.1.pending.toList.map .pending) (gone ++ left) := by
    rw [hr]
    exact List.rel_append hcovers hcovers'
  refine ⟨gone ++ left, ?_, nil_notMem_of_covers hall, hall⟩
  rw [List.flatten_append, hleft, hgone]
  rfl

end PinnedSessions
