import PinnedSessions.Proofs.Statement.Completeness
import PinnedSessions.Statement.LineBuffer

/-! # Running a text is running its lines

A text that the probe does not refuse is run line by line, and lines are trimmed before they are
read. So blanks around lines make no difference, nor do blank lines.

* Texts that run one after the other, up to the last, run in the same way as one block, in which a
  line feed stands between two of them (`run_block`). The probe does not see the seams: no
  text closes a bracket that another one has opened.
* Carriage returns at the ends of lines can be taken away first (`run_stripReturns`), and a blank
  text does nothing (`run_blank`). -/

namespace PinnedSessions

open Text

/-! ### Blanks and the probe -/

namespace Probe

theorem deepen_of_isBlankChar {c : Char} (h : isBlankChar c = true) (d : Int32) :
    deepen d c = d := by
  have hopening : isOpening c = false := by
    refine Bool.eq_false_iff.2 fun ho => ?_
    simp only [isOpening, Bool.or_eq_true, beq_iff_eq] at ho
    rcases ho with (rfl | rfl) | rfl <;> exact absurd h (by decide)
  have hclosing : isClosing c = false := by
    refine Bool.eq_false_iff.2 fun hc => ?_
    simp only [isClosing, Bool.or_eq_true, beq_iff_eq] at hc
    rcases hc with (rfl | rfl) | rfl <;> exact absurd h (by decide)
  rw [deepen, hopening, hclosing]
  rfl

/-- Blanks do not change the depth. -/
theorem depthAfter_ink {d : Int32} (hd : ¬ d < 0) (cs : List Char) :
    depthAfter d (ink cs) = depthAfter d cs := by
  induction cs generalizing d with
  | nil => rfl
  | cons c cs ih =>
      cases hc : isBlankChar c with
      | true => rw [ink_cons_blank hc, depthAfter, deepen_of_isBlankChar hc, if_neg hd, ih hd]
      | false =>
          rw [ink_cons hc, depthAfter, depthAfter]
          split
          · rfl
          · next hpos => exact ih hpos

/-- The probe only looks at the ink of a text. -/
theorem probe_congr {s t : String} (h : ink s.toList = ink t.toList) : probe s = probe t := by
  have hzero : ¬ (0 : Int32) < 0 := by decide
  rw [probe, probe, ← depthAfter_ink hzero s.toList, ← depthAfter_ink hzero t.toList, h,
    opensBlock_eq_ink, opensBlock_eq_ink, h]

end Probe

namespace Script

theorem probe_congr {s t : String} (h : ink s.toList = ink t.toList) : probe s = probe t := by
  rw [probe, probe, Probe.probe_congr h]

/-! ### Lines -/

theorem runLines_append (vars : Variables) (ls ms : List (List Char)) :
    runLines vars (ls ++ ms) = match runLines vars ls with
      | (.ok _, vars) => runLines vars ms
      | (.error e, vars) => (.error e, vars) := by
  induction ls generalizing vars with
  | nil => rfl
  | cons l ls ih =>
      rw [List.cons_append, runLines, runLines]
      cases Line.ofText (trim l) with
      | raise message => rfl
      | assign name value => exact ih _
      | other => exact ih _

/-- Lines that are alike when they are trimmed run alike. -/
theorem runLines_congr {ls ms : List (List Char)} (h : ls.map trim = ms.map trim)
    (vars : Variables) : runLines vars ls = runLines vars ms := by
  induction ls generalizing ms vars with
  | nil =>
      rw [List.map_nil] at h
      rw [List.map_eq_nil_iff.1 h.symm]
  | cons l ls ih =>
      obtain ⟨m, ms, rfl, hm, htail⟩ := List.map_eq_cons_iff.1 h.symm
      rw [runLines, runLines, hm]
      cases Line.ofText (trim l) with
      | raise message => rfl
      | assign name value => exact ih htail.symm _
      | other => exact ih htail.symm _

/-- Blank lines do nothing. -/
theorem runLines_blank {ls : List (List Char)} (h : ∀ l ∈ ls, trim l = []) (vars : Variables) :
    runLines vars ls = (.ok (), vars) := by
  have hblank : runLines vars ls = runLines vars (ls.map fun _ => []) := by
    refine runLines_congr ?_ vars
    rw [List.map_map]
    exact List.map_congr_left fun l hl => h l hl
  rw [hblank]
  clear h hblank
  induction ls with
  | nil => rfl
  | cons l ls ih => exact ih

/-- The lines of a text run like what stands between its line feeds. -/
theorem runLines_lines (vars : Variables) (cs : List Char) :
    runLines vars (lines cs) = runLines vars (cs.splitOn '\n') := by
  obtain ⟨rest, hrest, heq⟩ := trimEnd_lines cs
  have hsplit : runLines vars (cs.splitOn '\n') = runLines vars (lines cs ++ rest) := by
    refine runLines_congr (map_trim_congr ?_) vars
    rw [heq, List.map_append]
    obtain rfl | rfl := hrest <;> rfl
  rw [hsplit, runLines_append]
  cases runLines vars (lines cs) with
  | mk r vars =>
      cases r with
      | error e => rfl
      | ok u => obtain rfl | rfl := hrest <;> rfl

/-- Lines never fail for their source. -/
theorem runLines_ne_badSource (vars : Variables) (ls : List (List Char)) (text : String) :
    (runLines vars ls).1 ≠ .error (.badSource text) := by
  induction ls generalizing vars with
  | nil => nofun
  | cons l ls ih =>
      rw [runLines]
      cases Line.ofText (trim l) with
      | raise message => nofun
      | assign name value => exact ih _
      | other => exact ih _

/-! ### Texts -/

/-- A text is refused as a whole and nothing is done, or it is not refused and its lines are run. -/
theorem run_cases (vars : Variables) (s : String) :
    (∃ text, run vars s = (.error (.badSource text), vars)) ∨
      (∃ status, probe s = .ok status) ∧ run vars s = runLines vars (s.toList.splitOn '\n') := by
  rw [run]
  cases hp : probe s with
  | error e =>
      rw [probe] at hp
      split at hp <;> cases hp
      exact .inl ⟨_, rfl⟩
  | ok status =>
      dsimp only
      split
      · exact .inl ⟨_, rfl⟩
      · exact .inr ⟨⟨status, rfl⟩, runLines_lines vars s.toList⟩

/-- A text that is not refused, and in which there is a line feed, is run by its lines. -/
theorem run_of_feed {s : String} {status : Completeness} (h : probe s = .ok status)
    (hs : '\n' ∈ s.toList) (vars : Variables) :
    run vars s = runLines vars (s.toList.splitOn '\n') := by
  rw [run, h]
  dsimp only
  rw [if_neg fun hn => hn.2 hs, runLines_lines]

/-- A text that fails for its source binds nothing. -/
theorem vars_of_badSource {vars : Variables} {s text : String}
    (h : (run vars s).1 = .error (.badSource text)) : (run vars s).2 = vars := by
  rcases run_cases vars s with ⟨text', hrun⟩ | ⟨-, hrun⟩
  · rw [hrun]
  · rw [hrun] at h
    exact absurd h (runLines_ne_badSource vars _ text)

/-- Run texts in turn, up to the first that fails. -/
def runEach (vars : Variables) : List String → Except GuestFault Unit × Variables
  | [] => (.ok (), vars)
  | s :: rest =>
    match run vars s with
    | (.ok _, vars) => runEach vars rest
    | (.error e, vars) => (.error e, vars)

/-! ### Blocks -/

/-- The text of a block: its texts with a line feed between two of them. -/
def block (sources : List String) : String := "\n".intercalate sources

theorem toList_block_cons (s t : String) (rest : List String) :
    (block (s :: t :: rest)).toList = s.toList ++ '\n' :: (block (t :: rest)).toList := by
  rw [block, String.intercalate_cons_cons, String.toList_append, String.toList_append,
    List.append_assoc]
  rfl

/-- How many brackets some texts open. -/
def openingsOf : List String → Nat
  | [] => 0
  | s :: rest => Probe.openings s.toList + openingsOf rest

theorem openings_le_openingsOf {s : String} {sources : List String} (h : s ∈ sources) :
    Probe.openings s.toList ≤ openingsOf sources := by
  induction sources with
  | nil => cases h
  | cons t rest ih =>
      rw [openingsOf]
      rcases List.mem_cons.1 h with rfl | hrest
      · exact Nat.le_add_right _ _
      · exact Nat.le_add_left_of_le (ih hrest)

theorem openings_block : ∀ sources : List String,
    Probe.openings (block sources).toList = openingsOf sources
  | [] => rfl
  | [s] => by rw [block, String.intercalate_singleton]; rfl
  | s :: t :: rest => by
      have ih := openings_block (t :: rest)
      have hfeed : Probe.openings ['\n'] = 0 := rfl
      rw [toList_block_cons, Probe.openings_append, Probe.openings_cons, ih, hfeed, Nat.zero_add]
      rfl

/-- No text closes what another one has opened, so sound texts make a sound block. -/
theorem sound_block : ∀ {sources : List String}, (∀ s ∈ sources, Probe.Sound s.toList) →
    Probe.Sound (block sources).toList
  | [], _ => Probe.sound_nil
  | [s], h => by
      rw [block, String.intercalate_singleton]
      exact h s (.head _)
  | s :: t :: rest, h => by
      have ih := sound_block fun u hu => h u (.tail s hu)
      have hs := h s (.head _)
      rw [toList_block_cons]
      refine hs.append fun q hq => Nat.add_le_add hs.closings_le ?_
      rcases List.prefix_cons_iff.1 hq with rfl | ⟨q', rfl, hq'⟩
      · exact Nat.le_refl _
      · rw [Probe.openings_cons, Probe.closings_cons]
        exact Nat.add_le_add (Nat.le_refl 0) (Nat.not_lt.1 (ih q' hq'))

/-- Texts that run in turn, up to the last one, are not refused, and the lines of their block run as
they do. -/
theorem runLines_block {before : List String} {last : String} {vars mid : Variables}
    (hbefore : runEach vars before = (.ok (), mid))
    (hlast : ∀ text, (run mid last).1 ≠ .error (.badSource text)) :
    (∀ s ∈ before ++ [last], ∃ status, probe s = .ok status) ∧
      runLines vars ((block (before ++ [last])).toList.splitOn '\n') = run mid last := by
  induction before generalizing vars with
  | nil =>
      cases hbefore
      rcases run_cases mid last with ⟨text, hrun⟩ | ⟨hok, hrun⟩
      · rw [hrun] at hlast
        exact absurd rfl (hlast text)
      · refine ⟨fun s hs => ?_, ?_⟩
        · rw [List.mem_singleton.1 hs]
          exact hok
        · rw [List.nil_append, block, String.intercalate_singleton, hrun]
  | cons s before ih =>
      rw [runEach] at hbefore
      rcases run_cases vars s with ⟨text, hrun⟩ | ⟨hok, hrun⟩
      · rw [hrun] at hbefore
        cases hbefore
      · cases hs : run vars s with
        | mk r vars' =>
            rw [hs] at hbefore hrun
            cases r with
            | error e => cases hbefore
            | ok u =>
                obtain ⟨hrest, hlines⟩ := ih hbefore
                refine ⟨fun t ht => ?_, ?_⟩
                · rcases List.mem_cons.1 ht with rfl | ht
                  · exact hok
                  · exact hrest t ht
                · obtain ⟨t, rest, hcons⟩ : ∃ t rest, before ++ [last] = t :: rest :=
                    List.exists_cons_of_ne_nil (by simp)
                  rw [hcons] at hlines
                  rw [List.cons_append, hcons, toList_block_cons, List.splitOn_append_cons_self,
                    runLines_append, ← hrun]
                  exact hlines

/-- Texts that run in turn, the last of which may raise, run in the same way as one block. -/
theorem run_block {before : List String} {last : String} {vars mid : Variables}
    (hbefore : runEach vars before = (.ok (), mid))
    (hlast : ∀ text, (run mid last).1 ≠ .error (.badSource text))
    (hrange : openingsOf (before ++ [last]) < 2 ^ 31) :
    run vars (block (before ++ [last])) = run mid last := by
  obtain ⟨hok, hlines⟩ := runLines_block hbefore hlast
  have hsound : Probe.Sound (block (before ++ [last])).toList := by
    refine sound_block fun s hs => ?_
    have hle := openings_le_openingsOf hs
    obtain ⟨status, hstatus⟩ := hok s hs
    rw [sound_iff (by omega), hstatus]
    nofun
  rw [← openings_block] at hrange
  rcases before with _ | ⟨s, before⟩
  · cases hbefore
    rw [List.nil_append, block, String.intercalate_singleton]
  · obtain ⟨t, rest, hcons⟩ : ∃ t rest, before ++ [last] = t :: rest :=
      List.exists_cons_of_ne_nil (by simp)
    have hfeed : '\n' ∈ (block (s :: before ++ [last])).toList := by
      rw [List.cons_append, hcons, toList_block_cons]
      simp
    rw [← hlines]
    rcases probe_of_sound hrange hsound with ⟨hp, -⟩ | ⟨hp, -⟩
    · exact run_of_feed hp hfeed vars
    · exact run_of_feed hp hfeed vars

/-! ### Carriage returns -/

/-- A blank text does nothing. -/
theorem run_blank {s : String} (h : isBlank s = true) (vars : Variables) :
    run vars s = (.ok (), vars) := by
  have hink : ink s.toList = [] := (ink_eq_nil_iff _).2 h
  have hlines : ∀ l ∈ lines s.toList, trim l = [] := by
    rw [← ink_lines, List.flatMap_eq_nil_iff] at hink
    exact fun l hl => (trim_eq_nil_iff_ink l).2 (hink l hl)
  have hprobe : probe s = .ok .complete := by
    rw [probe_congr (s := s) (t := "") hink]
    rfl
  rw [run, hprobe]
  exact runLines_blank hlines vars

theorem toList_stripReturns (s : String) :
    (LineBuffer.stripReturns s).toList = s.toList.filter (· ≠ '\r') := String.toList_ofList

theorem ink_stripReturns (s : String) : ink (LineBuffer.stripReturns s).toList = ink s.toList := by
  rw [toList_stripReturns]
  refine ink_filter (fun c hc => ?_) s.toList
  have hr : c = '\r' := by simpa using hc
  rw [hr]
  rfl

theorem isBlank_stripReturns (s : String) : isBlank (LineBuffer.stripReturns s) = isBlank s := by
  rw [Bool.eq_iff_iff, isBlank, isBlank, ← ink_eq_nil_iff, ← ink_eq_nil_iff, ink_stripReturns]

/-- Carriage returns at the ends of lines make no difference. -/
theorem run_stripReturns {s : String} (h : ReturnsEndLines s.toList) (vars : Variables) :
    run vars (LineBuffer.stripReturns s) = run vars s := by
  have hfeed : '\n' ∈ (LineBuffer.stripReturns s).toList ↔ '\n' ∈ s.toList := by
    rw [toList_stripReturns]
    simp
  have hlines : runLines vars (lines (LineBuffer.stripReturns s).toList) =
      runLines vars (lines s.toList) := by
    rw [runLines_lines, runLines_lines, toList_stripReturns]
    exact runLines_congr (map_trim_congr (trimEnd_splitOn_strip h)) vars
  rw [run, run, probe_congr (ink_stripReturns s), hlines]
  simp only [hfeed]

end Script

end PinnedSessions
