import PinnedSessions.Proofs.Text.Lines
import PinnedSessions.Text.Alphanumeric

/-! # Words and the blanks around them

A text is tight if it neither starts nor ends in a blank character. Trimming gives a tight text back,
whatever blanks stand around it (`Tight.trim_between`); what stands inside of it does not matter.
Letters and digits are not blank, in no script, so words are tight (`Word.tight`). -/

namespace PinnedSessions.Text

/-! ### Letters and digits -/

/-- The code points of the blank characters. -/
def blankCodes : List Nat :=
  List.range' 0x9 5 ++ [0x20, 0x85, 0xA0, 0x1680] ++ List.range' 0x2000 11 ++
    [0x2028, 0x2029, 0x202F, 0x205F, 0x3000]

theorem mem_blankCodes {c : Char} (h : isBlankChar c = true) : c.toNat ∈ blankCodes := by
  simp only [isBlankChar, Bool.or_eq_true, Bool.and_eq_true, decide_eq_true_eq, beq_iff_eq] at h
  simp only [blankCodes, List.mem_append, List.mem_range'_1, List.mem_cons, List.not_mem_nil,
    or_false]
  omega

/-- No blank character is a letter or a digit. -/
theorem isAlphanumeric_of_isBlankChar {c : Char} (h : isBlankChar c = true) :
    isAlphanumeric c = false := by
  have hcodes : ∀ n ∈ blankCodes, isAlphanumeric (Char.ofNat n) = false := by decide +kernel
  have hc := hcodes c.toNat (mem_blankCodes h)
  rwa [Char.ofNat_toNat] at hc

/-! ### Tight texts -/

/-- A text that neither starts nor ends in a blank character. -/
structure Tight (cs : List Char) : Prop where
  head : ∃ c rest, cs = c :: rest ∧ isBlankChar c = false
  last : ∃ rest c, cs = rest ++ [c] ∧ isBlankChar c = false

theorem trimEnd_of_last (cs : List Char) {c : Char} (hc : isBlankChar c = false) :
    trimEnd (cs ++ [c]) = cs ++ [c] := by
  obtain ⟨blanks, heq, hblanks⟩ := exists_blanks (cs ++ [c])
  rcases blanks.eq_nil_or_concat with rfl | ⟨bs, b, rfl⟩
  · rw [List.append_nil] at heq
    exact heq.symm
  · -- the last character of the text would be one of those that were taken away
    rw [List.concat_eq_append, ← List.append_assoc] at heq
    have hlast : c = b := (List.cons.inj (List.append_inj' heq rfl).2).1
    rw [List.concat_eq_append, ← hlast, List.all_append, List.all_cons, hc] at hblanks
    simp at hblanks

theorem trimEnd_append_blanks (cs : List Char) {after : List Char}
    (ha : after.all isBlankChar = true) : trimEnd (cs ++ after) = trimEnd cs := by
  induction cs with
  | nil => exact (trimEnd_eq_nil_iff after).2 ha
  | cons c cs ih => exact trimEnd_cons_congr ih c

theorem trimStart_blanks_append {before : List Char} (hb : before.all isBlankChar = true)
    (cs : List Char) : trimStart (before ++ cs) = trimStart cs := by
  rw [trimStart, List.dropWhile_append_of_pos (by simpa using hb)]
  rfl

namespace Tight

variable {cs ds : List Char}

theorem trimEnd (h : Tight cs) : Text.trimEnd cs = cs := by
  obtain ⟨rest, c, rfl, hc⟩ := h.last
  exact trimEnd_of_last rest hc

/-- Trimming gives back what stands between blanks. -/
theorem trim_between (h : Tight cs) {before after : List Char}
    (hb : before.all isBlankChar = true) (ha : after.all isBlankChar = true) :
    trim (before ++ cs ++ after) = cs := by
  have hstart : trimStart (cs ++ after) = cs ++ after := by
    obtain ⟨c, rest, rfl, hc⟩ := h.head
    exact List.dropWhile_cons_of_neg (by simp [hc])
  rw [List.append_assoc, trim, trimStart_blanks_append hb, hstart, trimEnd_append_blanks cs ha,
    h.trimEnd]

theorem trim (h : Tight cs) : Text.trim cs = cs := by
  have hbetween := @trim_between cs h [] [] rfl rfl
  rwa [List.nil_append, List.append_nil] at hbetween

/-- The last character of the ink of a tight text is its last character. -/
theorem getLast?_ink (h : Tight cs) : (ink cs).getLast? = cs.getLast? := by
  rw [← getLast?_trimEnd, h.trimEnd]

/-- Only the ends count. -/
theorem append (h : Tight cs) (mid : List Char) (h' : Tight ds) : Tight (cs ++ mid ++ ds) := by
  obtain ⟨c, rest, rfl, hc⟩ := h.head
  obtain ⟨rest', d, rfl, hd⟩ := h'.last
  exact ⟨⟨c, rest ++ mid ++ (rest' ++ [d]), by simp, hc⟩,
    ⟨c :: rest ++ mid ++ rest', d, by simp, hd⟩⟩

theorem singleton {c : Char} (hc : isBlankChar c = false) : Tight [c] :=
  ⟨⟨c, [], rfl, hc⟩, ⟨[], c, rfl, hc⟩⟩

end Tight

/-! ### Words -/

/-- The characters of words and whole numbers: letters, digits, the underscore and the minus. -/
def isWordChar (c : Char) : Bool := isAlphanumeric c || c == '_' || c == '-'

/-- A word or a whole number. -/
structure Word (cs : List Char) : Prop where
  ne_nil : cs ≠ []
  chars : ∀ c ∈ cs, isWordChar c = true

theorem word_of_all {cs : List Char} (hne : cs ≠ []) (h : cs.all isWordChar = true) : Word cs :=
  ⟨hne, List.all_eq_true.1 h⟩

theorem isBlankChar_of_isWordChar {c : Char} (h : isWordChar c = true) : isBlankChar c = false := by
  refine Bool.eq_false_iff.2 fun hblank => ?_
  rw [isWordChar, isAlphanumeric_of_isBlankChar hblank, Bool.false_or, Bool.or_eq_true, beq_iff_eq,
    beq_iff_eq] at h
  rcases h with rfl | rfl <;> cases hblank

theorem isWordChar_of_isDigit {c : Char} (h : c.isDigit = true) : isWordChar c = true := by
  have hrange : c.toNat < 0x80 := by
    have hdigit := (Char.isDigit_iff_toNat.1 h).2
    have hnine : '9'.toNat = 0x39 := rfl
    omega
  rw [isWordChar, isAlphanumeric_of_isAlphanum hrange (by simp [Char.isAlphanum, h])]
  rfl

namespace Word

variable {cs : List Char}

theorem notMem (h : Word cs) {c : Char} (hc : isWordChar c = false) : c ∉ cs := by
  intro hmem
  rw [h.chars c hmem] at hc
  cases hc

theorem tight (h : Word cs) : Tight cs := by
  constructor
  · obtain ⟨c, rest, rfl⟩ := List.exists_cons_of_ne_nil h.ne_nil
    exact ⟨c, rest, rfl, isBlankChar_of_isWordChar (h.chars c (by simp))⟩
  · rcases cs.eq_nil_or_concat with hnil | ⟨rest, c, rfl⟩
    · exact absurd hnil h.ne_nil
    · exact ⟨rest, c, List.concat_eq_append,
        isBlankChar_of_isWordChar (h.chars c (by simp))⟩

end Word

end PinnedSessions.Text
