import Mathlib.Algebra.Group.Nat.Defs
import PinnedSessions.Proofs.Text.Lines
import PinnedSessions.Statement.Script

/-! # What the probe tells

The probe goes through a text with a depth of brackets and ends early. What it tells is a matter of
counting.

* A text is spoiled if some prefix of it closes more brackets than it opens (`Overdrawn`); the probe
  names the last character of the shortest one (`Stray`), and nothing that follows can mend that.
* Any other text is unfinished if it opens more brackets than it closes, or if its last line that is
  not blank ends in a colon (`HeadsBlock`). Every such text can be finished (`exists_complete`).

Both hold as long as the depth is in range, which the number of opening brackets bounds: it is never
negative but where the probe ends (`depthAfter_spec`). -/

namespace PinnedSessions

open Text

namespace Probe

/-! ### Counting brackets -/

/-- How many brackets a text opens. -/
def openings (cs : List Char) : Nat := cs.count '(' + cs.count '[' + cs.count '\x7b'

/-- How many brackets a text closes. -/
def closings (cs : List Char) : Nat := cs.count ')' + cs.count ']' + cs.count '\x7d'

@[simp] theorem openings_nil : openings [] = 0 := rfl

@[simp] theorem closings_nil : closings [] = 0 := rfl

theorem openings_append (cs ds : List Char) : openings (cs ++ ds) = openings cs + openings ds := by
  simp only [openings, List.count_append]
  omega

theorem closings_append (cs ds : List Char) : closings (cs ++ ds) = closings cs + closings ds := by
  simp only [closings, List.count_append]
  omega

theorem openings_cons (c : Char) (cs : List Char) :
    openings (c :: cs) = openings [c] + openings cs :=
  openings_append [c] cs

theorem closings_cons (c : Char) (cs : List Char) :
    closings (c :: cs) = closings [c] + closings cs :=
  closings_append [c] cs

/-- A text that closes more brackets than it opens. -/
def Overdrawn (cs : List Char) : Prop := openings cs < closings cs

instance : DecidablePred Overdrawn := fun cs =>
  inferInstanceAs (Decidable (openings cs < closings cs))

/-- A text that never closes more brackets than it has opened. -/
def Sound (cs : List Char) : Prop := ∀ p, p <+: cs → ¬ Overdrawn p

/-- The first closing bracket for which none is open. -/
def Stray (cs : List Char) (c : Char) : Prop :=
  ∃ p, p ++ [c] <+: cs ∧ Overdrawn (p ++ [c]) ∧ Sound p

theorem sound_nil : Sound [] := by
  intro p hp
  rw [List.prefix_nil.1 hp]
  decide

theorem Sound.closings_le {cs : List Char} (h : Sound cs) : closings cs ≤ openings cs :=
  Nat.not_lt.1 (h cs List.prefix_rfl)

/-- What follows a text may close as many brackets as the text has left open. -/
theorem Sound.append {cs ds : List Char} (h : Sound cs)
    (hds : ∀ q, q <+: ds → closings cs + closings q ≤ openings cs + openings q) :
    Sound (cs ++ ds) := by
  intro p hp
  rcases List.prefix_or_prefix_of_prefix hp (List.prefix_append cs ds) with hcs | ⟨q, rfl⟩
  · exact h p hcs
  · have hle := hds q ((List.prefix_append_right_inj cs).1 hp)
    rw [Overdrawn, openings_append, closings_append]
    omega

/-- There is a stray bracket in a text, or the text is sound, and not both. -/
theorem Sound.not_stray {cs : List Char} (h : Sound cs) (c : Char) : ¬ Stray cs c := by
  rintro ⟨p, hp, hover, -⟩
  exact h _ hp hover

theorem Stray.unique {cs : List Char} {c d : Char} (hc : Stray cs c) (hd : Stray cs d) : c = d := by
  have hle : ∀ {p q : List Char} {c d : Char}, Overdrawn (p ++ [c]) → Sound q →
      p ++ [c] <+: q ++ [d] → p ++ [c] = q ++ [d] := by
    intro p q c d hover hq hpre
    rcases List.prefix_concat_iff.1 hpre with heq | hshort
    · exact heq
    · exact absurd hover (hq _ hshort)
  obtain ⟨p, hp, hpover, hpsound⟩ := hc
  obtain ⟨q, hq, hqover, hqsound⟩ := hd
  have heq : p ++ [c] = q ++ [d] := by
    rcases List.prefix_or_prefix_of_prefix hp hq with hpre | hpre
    · exact hle hpover hqsound hpre
    · exact (hle hqover hpsound hpre).symm
  exact (List.cons.inj (List.append_inj' heq rfl).2).1

/-! ### The depth -/

theorem openings_singleton (c : Char) : openings [c] = if isOpening c then 1 else 0 := by
  simp only [openings, List.count_singleton, isOpening, Bool.or_eq_true, beq_iff_eq]
  split <;> split <;> split <;> simp_all

theorem closings_singleton (c : Char) : closings [c] = if isClosing c then 1 else 0 := by
  simp only [closings, List.count_singleton, isClosing, Bool.or_eq_true, beq_iff_eq]
  split <;> split <;> split <;> simp_all

theorem isClosing_of_isOpening {c : Char} (h : isOpening c = true) : isClosing c = false := by
  simp only [isOpening, Bool.or_eq_true, beq_iff_eq] at h
  rcases h with (rfl | rfl) | rfl <;> rfl

/-- As long as it is in range, the depth counts. -/
theorem toInt_deepen {d : Int32} {n : Nat} (hd : d.toInt = n) {c : Char}
    (hn : n + openings [c] < 2 ^ 31) :
    (deepen d c).toInt = n + openings [c] - closings [c] := by
  rw [openings_singleton] at hn ⊢
  rw [closings_singleton, deepen]
  have hbmod : ∀ k : Int, -1 ≤ k → k < 2 ^ 31 → k.bmod (2 ^ 32) = k := fun k h0 h1 =>
    Int.bmod_eq_of_le (by omega) (by omega)
  cases ho : isOpening c with
  | true =>
      rw [ho, if_pos rfl] at hn
      rw [isClosing_of_isOpening ho, if_pos rfl, Int32.toInt_add, hd, Int32.toInt_one,
        hbmod _ (by omega) (by omega)]
      simp
  | false =>
      cases hc : isClosing c with
      | true =>
          rw [ho, if_neg (by decide)] at hn
          rw [if_neg (by decide), if_pos rfl, Int32.toInt_sub, hd, Int32.toInt_one,
            hbmod _ (by omega) (by omega)]
          simp
      | false =>
          rw [if_neg (by decide), if_neg (by decide), hd]
          simp

/-- What going through a text with a depth of `n` comes to: if the text never closes more than is
open, the depth behind it, and otherwise the bracket that is the first one to do so. -/
theorem depthAfter_spec (cs : List Char) {d : Int32} {n : Nat} (hd : d.toInt = n)
    (hn : n + openings cs < 2 ^ 31) :
    (∃ e, depthAfter d cs = .ok e ∧ e.toInt = n + openings cs - closings cs ∧
      ∀ p, p <+: cs → closings p ≤ n + openings p) ∨
    (∃ c p, depthAfter d cs = .error c ∧ p ++ [c] <+: cs ∧
      n + openings (p ++ [c]) < closings (p ++ [c]) ∧
      ∀ q, q <+: p → closings q ≤ n + openings q) := by
  induction cs generalizing d n with
  | nil =>
      refine .inl ⟨d, rfl, by simpa using hd, fun p hp => ?_⟩
      rw [List.prefix_nil.1 hp]
      exact Nat.zero_le _
  | cons c cs ih =>
      rw [openings_cons] at hn
      have hdeep := toInt_deepen hd (c := c) (by omega)
      rw [depthAfter]
      split
      · next hneg =>
        rw [Int32.lt_iff_toInt_lt, Int32.toInt_zero, hdeep] at hneg
        refine .inr ⟨c, [], rfl, ⟨cs, rfl⟩, ?_, fun q hq => ?_⟩
        · rw [List.nil_append]
          omega
        · rw [List.prefix_nil.1 hq]
          exact Nat.zero_le _
      · next hpos =>
        rw [Int32.lt_iff_toInt_lt, Int32.toInt_zero, hdeep] at hpos
        -- the depth is not negative, so the next one starts from a number again
        obtain ⟨m, hm⟩ : ∃ m : Nat, n + openings [c] = m + closings [c] :=
          ⟨n + openings [c] - closings [c], by omega⟩
        have hnext : (deepen d c).toInt = m := by omega
        rcases ih hnext (by omega) with ⟨e, he, hcount, hpre⟩ | ⟨d', p, he, hp, hover, hpre⟩
        · refine .inl ⟨e, he, ?_, fun p hp => ?_⟩
          · rw [openings_cons, closings_cons]
            omega
          · rcases List.prefix_cons_iff.1 hp with rfl | ⟨q, rfl, hq⟩
            · exact Nat.zero_le _
            · have := hpre q hq
              rw [openings_cons, closings_cons]
              omega
        · refine .inr ⟨d', c :: p, he, List.prefix_cons_inj c |>.2 hp, ?_, fun q hq => ?_⟩
          · rw [List.cons_append, openings_cons, closings_cons]
            omega
          · rcases List.prefix_cons_iff.1 hq with rfl | ⟨q', rfl, hq'⟩
            · exact Nat.zero_le _
            · have := hpre q' hq'
              rw [openings_cons, closings_cons]
              omega

theorem depthAfter_append (d : Int32) (cs ds : List Char) : depthAfter d (cs ++ ds) =
    match depthAfter d cs with
    | .ok e => depthAfter e ds
    | .error c => .error c := by
  induction cs generalizing d with
  | nil => rfl
  | cons c cs ih =>
      rw [List.cons_append, depthAfter, depthAfter]
      split
      · rfl
      · exact ih _

/-- A text in range is sound, and the depth behind it is the number of brackets left open, or it has
a stray bracket, which is found. -/
theorem depthAfter_cases {cs : List Char} (h : openings cs < 2 ^ 31) :
    (Sound cs ∧ ∃ e, depthAfter 0 cs = .ok e ∧ (0 < e ↔ closings cs < openings cs)) ∨
      ∃ c, Stray cs c ∧ depthAfter 0 cs = .error c := by
  rcases depthAfter_spec cs (d := 0) (n := 0) Int32.toInt_zero (by omega) with
    ⟨e, he, hcount, hpre⟩ | ⟨c, p, he, hp, hover, hpre⟩
  · refine .inl ⟨fun p hp => ?_, e, he, ?_⟩
    · have := hpre p hp
      rw [Overdrawn]
      omega
    · rw [Int32.lt_iff_toInt_lt, Int32.toInt_zero, hcount]
      omega
  · refine .inr ⟨c, ⟨p, hp, ?_, fun q hq => ?_⟩, he⟩
    · rw [Overdrawn]
      omega
    · have := hpre q hq
      rw [Overdrawn]
      omega

/-! ### The last line -/

/-- The last line of a text that is not blank ends in a colon, blanks behind it aside. -/
def HeadsBlock (cs : List Char) : Prop :=
  ∃ before line after, lines cs = before ++ line :: after ∧
    (∃ stem blanks, line = stem ++ ':' :: blanks ∧ blanks.all isBlankChar = true) ∧
    ∀ l ∈ after, l.all isBlankChar = true

/-- The probe looks at the last character that is not blank. -/
theorem opensBlock_eq_ink (cs : List Char) : opensBlock cs = ((ink cs).getLast? == some ':') := by
  rw [opensBlock, ← ink_lines, getLast?_flatMap_ink, ← lastLine?]
  cases lastLine? cs <;> rfl

/-- And that is a colon exactly if the last line that is not blank ends in one. -/
theorem opensBlock_iff (cs : List Char) : opensBlock cs = true ↔ HeadsBlock cs := by
  constructor
  · intro h
    unfold opensBlock at h
    cases hlast : lastLine? cs with
    | none => rw [hlast] at h; cases h
    | some line =>
        rw [hlast] at h
        obtain ⟨-, as, bs, hsplit, has⟩ := List.find?_eq_some_iff_append.1 hlast
        obtain ⟨stem, hstem⟩ := List.getLast?_eq_some_iff.1 (eq_of_beq h)
        obtain ⟨blanks, hline, hblanks⟩ := exists_blanks line
        refine ⟨bs.reverse, line, as.reverse, ?_, ⟨stem, blanks, ?_, hblanks⟩, fun l hl => ?_⟩
        · rw [← List.reverse_reverse (lines cs), hsplit]
          simp
        · rw [hstem, List.append_assoc] at hline
          exact hline
        · have hempty := has l (List.mem_reverse.1 hl)
          rw [Bool.not_not, List.isEmpty_iff, trim_eq_nil_iff] at hempty
          exact hempty
  · rintro ⟨before, line, after, hlines, ⟨stem, blanks, rfl, hblanks⟩, hafter⟩
    have hrest : after.flatMap ink = [] := by
      rw [List.flatMap_eq_nil_iff]
      exact fun l hl => (ink_eq_nil_iff l).2 (hafter l hl)
    rw [opensBlock_eq_ink, ← ink_lines, hlines, List.flatMap_append, List.flatMap_cons, hrest,
      List.append_nil, ink_append, ink_cons rfl, (ink_eq_nil_iff blanks).2 hblanks,
      ← List.append_assoc, List.getLast?_concat]
    rfl

end Probe

/-! ### What is told -/

namespace Script

open Probe

theorem probe_of_error {s : String} {c : Char} (h : depthAfter 0 s.toList = .error c) :
    probe s = .error (unmatched c) := by
  rw [probe, Probe.probe, h]

theorem probe_of_ok {s : String} {d : Int32} (h : depthAfter 0 s.toList = .ok d) :
    probe s = .ok (if 0 < d || opensBlock s.toList then .incomplete else .complete) := by
  rw [probe, Probe.probe, h]
  dsimp only
  cases decide (0 < d) || opensBlock s.toList <;> rfl

theorem probe_of_stray {s : String} (h : openings s.toList < 2 ^ 31) {c : Char}
    (hs : Stray s.toList c) : probe s = .error (unmatched c) := by
  rcases depthAfter_cases h with ⟨hsound, -⟩ | ⟨d, hd, he⟩
  · exact absurd hs (hsound.not_stray c)
  · rw [hs.unique hd]
    exact probe_of_error he

theorem probe_of_sound {s : String} (h : openings s.toList < 2 ^ 31) (hs : Sound s.toList) :
    (probe s = .ok .incomplete ∧
        (closings s.toList < openings s.toList ∨ HeadsBlock s.toList)) ∨
      (probe s = .ok .complete ∧
        ¬ (closings s.toList < openings s.toList ∨ HeadsBlock s.toList)) := by
  rcases depthAfter_cases h with ⟨-, d, hd, hpos⟩ | ⟨c, hc, -⟩
  · rw [probe_of_ok hd, ← hpos, ← opensBlock_iff]
    by_cases hopen : (0 < d || opensBlock s.toList) = true
    · rw [if_pos hopen]
      exact .inl ⟨rfl, by simpa using hopen⟩
    · rw [if_neg hopen]
      exact .inr ⟨rfl, by simpa using hopen⟩
  · exact absurd hc (hs.not_stray c)

/-- In range the probe fails exactly if there is a stray bracket, which it names. -/
theorem probe_eq_error_iff {s : String} (h : openings s.toList < 2 ^ 31) (e : GuestFault) :
    probe s = .error e ↔ ∃ c, Stray s.toList c ∧ e = unmatched c := by
  constructor
  · intro he
    rcases depthAfter_cases h with ⟨hsound, -⟩ | ⟨c, hc, -⟩
    · rcases probe_of_sound h hsound with ⟨hp, -⟩ | ⟨hp, -⟩ <;> rw [hp] at he <;> cases he
    · rw [probe_of_stray h hc] at he
      exact ⟨c, hc, (Except.error.inj he).symm⟩
  · rintro ⟨c, hc, rfl⟩
    exact probe_of_stray h hc

/-- In range a text is sound exactly if the probe does not fail. -/
theorem sound_iff {s : String} (h : openings s.toList < 2 ^ 31) :
    Sound s.toList ↔ ∀ e, probe s ≠ .error e := by
  constructor
  · intro hs e he
    obtain ⟨c, hc, -⟩ := (probe_eq_error_iff h e).1 he
    exact hs.not_stray c hc
  · intro hne
    rcases depthAfter_cases h with ⟨hsound, -⟩ | ⟨c, hc, -⟩
    · exact hsound
    · exact absurd (probe_of_stray h hc) (hne _)

/-- A fault of the probe stays, whatever follows. -/
theorem probe_append {s : String} {e : GuestFault} (h : probe s = .error e) (t : String) :
    probe (s ++ t) = .error e := by
  cases hd : depthAfter 0 s.toList with
  | ok d =>
      rw [probe_of_ok hd] at h
      cases h
  | error c =>
      rw [probe_of_error hd] at h
      rw [← h]
      refine probe_of_error ?_
      rw [String.toList_append, depthAfter_append, hd]

/-- What finishes a text: its open brackets are closed, and the last line ends in no colon. -/
def ending (cs : List Char) : List Char := List.replicate (openings cs - closings cs) ')' ++ ['x']

theorem openings_ending (cs : List Char) : openings (ending cs) = 0 := by
  simp [openings, ending, List.count_replicate]

theorem closings_ending (cs : List Char) :
    closings (ending cs) = openings cs - closings cs := by
  simp [closings, ending, List.count_replicate]

/-- A sound text can be finished. -/
theorem exists_complete {s : String} (h : openings s.toList < 2 ^ 31) (hs : Sound s.toList) :
    ∃ t, openings (s ++ t).toList < 2 ^ 31 ∧ probe (s ++ t) = .ok .complete := by
  have hle := hs.closings_le
  have htext : (s ++ String.ofList (ending s.toList)).toList = s.toList ++ ending s.toList := by
    rw [String.toList_append, String.toList_ofList]
  have hrange : openings (s.toList ++ ending s.toList) < 2 ^ 31 := by
    rw [openings_append, openings_ending]
    omega
  have hsound : Sound (s.toList ++ ending s.toList) := by
    refine hs.append fun q ⟨r, hq⟩ => ?_
    have hcount := closings_ending s.toList
    rw [← hq, closings_append] at hcount
    omega
  refine ⟨String.ofList (ending s.toList), by rw [htext]; exact hrange, ?_⟩
  rw [← htext] at hrange hsound
  rcases probe_of_sound hrange hsound with ⟨-, hopen | hblock⟩ | ⟨hcomplete, -⟩
  · rw [htext, openings_append, closings_append, openings_ending, closings_ending] at hopen
    omega
  · rw [htext, ← opensBlock_iff, opensBlock_eq_ink, ending, ← List.append_assoc, ink_append,
      ink_cons rfl, ink_nil, List.getLast?_concat] at hblock
    cases hblock
  · exact hcomplete

theorem probe_eq_incomplete_iff {s : String} (h : openings s.toList < 2 ^ 31) :
    probe s = .ok .incomplete ↔
      Sound s.toList ∧ (closings s.toList < openings s.toList ∨ HeadsBlock s.toList) := by
  constructor
  · intro hp
    have hs : Sound s.toList := (sound_iff h).2 (by rw [hp]; nofun)
    rcases probe_of_sound h hs with ⟨-, hopen⟩ | ⟨hcomplete, -⟩
    · exact ⟨hs, hopen⟩
    · rw [hp] at hcomplete
      cases hcomplete
  · rintro ⟨hs, hopen⟩
    rcases probe_of_sound h hs with ⟨hp, -⟩ | ⟨-, hnot⟩
    · exact hp
    · exact absurd hopen hnot

theorem probe_eq_complete_iff {s : String} (h : openings s.toList < 2 ^ 31) :
    probe s = .ok .complete ↔
      Sound s.toList ∧ ¬ (closings s.toList < openings s.toList ∨ HeadsBlock s.toList) := by
  constructor
  · intro hp
    have hs : Sound s.toList := (sound_iff h).2 (by rw [hp]; nofun)
    rcases probe_of_sound h hs with ⟨hincomplete, -⟩ | ⟨-, hnot⟩
    · rw [hp] at hincomplete
      cases hincomplete
    · exact ⟨hs, hnot⟩
  · rintro ⟨hs, hnot⟩
    rcases probe_of_sound h hs with ⟨-, hopen⟩ | ⟨hp, -⟩
    · exact absurd hopen hnot
    · exact hp

/-- What the probe of a text tells. -/
structure Probed (s : String) : Prop where
  /-- It fails exactly if some start of the text closes more brackets than it opens. -/
  spoiled : (∃ e, probe s = .error e) ↔ ∃ p, p <+: s.toList ∧ Overdrawn p
  /-- The last character of the shortest such start is named. -/
  named : ∀ p, p <+: s.toList → Overdrawn p →
    (∀ q, q <+: s.toList → Overdrawn q → p.length ≤ q.length) → ∃ c, p.getLast? = some c ∧
      probe s = .error (.badSource ("unmatched '" ++ String.ofList [c] ++ "'"))
  incomplete : probe s = .ok .incomplete ↔ (¬ ∃ p, p <+: s.toList ∧ Overdrawn p) ∧
    (closings s.toList < openings s.toList ∨ HeadsBlock s.toList)
  complete : probe s = .ok .complete ↔ (¬ ∃ p, p <+: s.toList ∧ Overdrawn p) ∧
    ¬ (closings s.toList < openings s.toList ∨ HeadsBlock s.toList)
  /-- A fault is final. -/
  final : ∀ e, probe s = .error e → ∀ t, probe (s ++ t) = .error e
  /-- The probe fails exactly if the text can never become complete. -/
  hopeless : (∃ e, probe s = .error e) ↔
    ∀ t, openings (s ++ t).toList < 2 ^ 31 → probe (s ++ t) ≠ .ok .complete
  /-- Incomplete is what is not complete but can become so. -/
  unfinished : probe s = .ok .incomplete ↔ probe s ≠ .ok .complete ∧
    ∃ t, openings (s ++ t).toList < 2 ^ 31 ∧ probe (s ++ t) = .ok .complete

/-- What the probe tells of a text whose depth of brackets is in range. -/
theorem probe_exact {s : String} (h : openings s.toList < 2 ^ 31) : Probed s := by
  have hspoiled : (∃ e, probe s = .error e) ↔ ¬ Sound s.toList := by
    rw [sound_iff h]
    simp
  have hsound : Sound s.toList ↔ ¬ ∃ p, p <+: s.toList ∧ Overdrawn p := by
    simp [Sound]
  have hhopeless : (∃ e, probe s = .error e) ↔
      ∀ t, openings (s ++ t).toList < 2 ^ 31 → probe (s ++ t) ≠ .ok .complete := by
    constructor
    · rintro ⟨e, he⟩ t - hcomplete
      rw [probe_append he t] at hcomplete
      cases hcomplete
    · intro hnever
      rw [hspoiled]
      intro hs
      obtain ⟨t, ht, hcomplete⟩ := exists_complete h hs
      exact hnever t ht hcomplete
  refine ⟨?_, ?_, ?_, ?_, fun e he t => probe_append he t, hhopeless, ?_⟩
  · rw [hspoiled, hsound, Classical.not_not]
  · intro p hp hover hshort
    rcases p.eq_nil_or_concat with rfl | ⟨p, c, rfl⟩
    · exact absurd hover (by decide)
    · rw [List.concat_eq_append] at hp hover hshort ⊢
      refine ⟨c, List.getLast?_concat .., probe_of_stray h ⟨p, hp, hover, fun q hq hqover => ?_⟩⟩
      have hlen := hshort q (hq.trans ((List.prefix_append p [c]).trans hp)) hqover
      have hle := hq.length_le
      rw [List.length_append, List.length_singleton] at hlen
      omega
  · rw [probe_eq_incomplete_iff h, hsound]
  · rw [probe_eq_complete_iff h, hsound]
  · constructor
    · intro hp
      have hs := ((probe_eq_incomplete_iff h).1 hp).1
      exact ⟨by rw [hp]; nofun, exists_complete h hs⟩
    · rintro ⟨hnot, t, -, hcomplete⟩
      have hs : Sound s.toList := by
        rw [sound_iff h]
        intro e he
        rw [probe_append he t] at hcomplete
        cases hcomplete
      rcases probe_of_sound h hs with ⟨hp, -⟩ | ⟨hp, -⟩
      · exact hp
      · exact absurd hp hnot

/-- One closing bracket too many, which nothing that follows can mend, and a block that has only its
first line. -/
theorem probe_exact_spoiled :
    openings "(]]".toList < 2 ^ 31 ∧ Probed "(]]" ∧
      probe "(]]" = .error (.badSource "unmatched ']'") ∧
      (∀ t, openings ("(]]" ++ t).toList < 2 ^ 31 → probe ("(]]" ++ t) ≠ .ok .complete) ∧
      openings "if f(x): \n".toList < 2 ^ 31 ∧ probe "if f(x): \n" = .ok .incomplete ∧
      ∃ t, openings ("if f(x): \n" ++ t).toList < 2 ^ 31 ∧
        probe ("if f(x): \n" ++ t) = .ok .complete := by
  have hspoiled : Probed "(]]" := probe_exact (by decide)
  have hopen : Probed "if f(x): \n" := probe_exact (by decide)
  have hfault : probe "(]]" = .error (.badSource "unmatched ']'") := rfl
  have hincomplete : probe "if f(x): \n" = .ok .incomplete := rfl
  exact ⟨by decide, hspoiled, hfault, hspoiled.hopeless.1 ⟨_, hfault⟩, by decide, hincomplete,
    (hopen.unfinished.1 hincomplete).2⟩

end Script

end PinnedSessions
