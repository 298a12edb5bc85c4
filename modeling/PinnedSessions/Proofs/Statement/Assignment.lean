import PinnedSessions.Proofs.Statement.Running
import PinnedSessions.Proofs.Text.Words

/-! # Assignments in source text

An assignment that is written as `name = literal` goes through all of the reader: it is probed, cut
into lines, tested for `raise`, split at the first equals sign, trimmed and read as a literal.

* `Script.Writes` lists the literals. A text between quotes may hold anything but line breaks, as
  long as its brackets are balanced. What each is read as is its value (`literal_of_writes`).
* Names, literals and assignments are whole lines (`Whole`): one line, which is complete by itself
  and has no blanks around it.
* Neither the name nor the first equals sign can be mistaken for anything else, so to run an
  assignment binds its name to the value of its literal and does nothing else
  (`run_assignment`). -/

namespace PinnedSessions

open Text

/-! ### Written integers -/

namespace Decimal

theorem isDigits_digits (n : Nat) : isDigits (digits n) = true := by
  rw [isDigits, Bool.and_eq_true, List.all_eq_true]
  exact ⟨by simpa using digits_ne_nil n, fun c hc => isDigit_of_mem_digits hc⟩

/-- Digits have no sign in front. -/
theorem readNat?_of_isDigits {cs : List Char} (h : isDigits cs = true) :
    readNat? cs = some (natural cs) := by
  unfold readNat?
  split
  · cases h
  · exact if_pos h

theorem readInt?_of_isDigits {cs : List Char} (h : isDigits cs = true) :
    readInt? cs = some (natural cs : Int) := by
  unfold readInt?
  split
  · cases h
  · rw [readNat?_of_isDigits h]
    rfl

theorem text_ofInt (n : Int) :
    (Numeral.ofInt n).text = (if n < 0 then ['-'] else []) ++ digits n.natAbs := by
  simp [Numeral.text, Numeral.ofInt]

/-- An integer is read back from its text. -/
theorem readInt?_ofInt (n : Int) : readInt? (Numeral.ofInt n).text = some n := by
  have hdigits := isDigits_digits n.natAbs
  rw [text_ofInt]
  by_cases hn : n < 0
  · rw [if_pos hn, List.singleton_append, readInt?, hdigits, if_pos rfl, natural_digits]
    exact congrArg some (by omega)
  · rw [if_neg hn, List.nil_append, readInt?_of_isDigits hdigits, natural_digits]
    exact congrArg some (by omega)

theorem readInt64?_ofInt (n : Int64) : readInt64? (Numeral.ofInt n.toInt).text = some n := by
  rw [readInt64?, readInt?_ofInt]
  dsimp only
  rw [if_pos ⟨n.minValue_le_toInt, n.toInt_le⟩, Int64.ofInt_toInt]

/-- A text that starts with a quote is no number. -/
theorem readInt64?_quote {q : Char} (hq : q = '"' ∨ q = '\'') (cs : List Char) :
    readInt64? (q :: cs) = none := by
  rcases hq with rfl | rfl <;> rfl

theorem readDouble?_quote {q : Char} (hq : q = '"' ∨ q = '\'') (cs : List Char) :
    readDouble? (q :: cs) = none := by
  rcases hq with rfl | rfl <;> simp [readDouble?, splitSign, splitPoint]

end Decimal

/-! ### Balanced brackets -/

namespace Probe

/-- A text that closes all the brackets that it opens, and no others. -/
structure Balanced (cs : List Char) : Prop where
  sound : Sound cs
  closed : closings cs = openings cs

theorem Balanced.append {cs ds : List Char} (h : Balanced cs) (h' : Balanced ds) :
    Balanced (cs ++ ds) where
  sound := h.sound.append fun q hq => by
    have hcs := h.closed
    have hq := Nat.not_lt.1 (h'.sound q hq)
    omega
  closed := by rw [openings_append, closings_append, h.closed, h'.closed]

/-- A text without brackets. -/
def Flat (cs : List Char) : Prop := ∀ c ∈ cs, isOpening c = false ∧ isClosing c = false

theorem Flat.count {cs : List Char} (h : Flat cs) : openings cs = 0 ∧ closings cs = 0 := by
  induction cs with
  | nil => exact ⟨rfl, rfl⟩
  | cons c cs ih =>
      obtain ⟨hopening, hclosing⟩ := h c List.mem_cons_self
      obtain ⟨ho, hc⟩ := ih fun d hd => h d (List.mem_cons_of_mem c hd)
      rw [openings_cons, closings_cons, openings_singleton, closings_singleton, hopening, hclosing,
        ho, hc]
      exact ⟨rfl, rfl⟩

theorem Flat.balanced {cs : List Char} (h : Flat cs) : Balanced cs where
  sound p hp := by
    obtain ⟨-, hc⟩ := Flat.count fun c hmem => h c (hp.subset hmem)
    rw [Overdrawn, hc]
    exact Nat.not_lt_zero _
  closed := by rw [h.count.1, h.count.2]

/-- There are no brackets in a word. -/
theorem flat_of_word {cs : List Char} (h : Word cs) : Flat cs := by
  intro c hc
  have hbracket : (isOpening c || isClosing c) = true → isWordChar c = false := by
    simp only [isOpening, isClosing, Bool.or_eq_true, beq_iff_eq]
    rintro (((rfl | rfl) | rfl) | ((rfl | rfl) | rfl)) <;> rfl
  have hnot : ¬ (isOpening c || isClosing c) = true := fun hb => h.notMem (hbracket hb) hc
  simpa using hnot

end Probe

/-! ### Whole lines -/

namespace Script

open Probe

/-- A text that is a whole line: nothing needs to be trimmed, and it is complete. -/
structure Whole (cs : List Char) : Prop where
  tight : Tight cs
  unbroken : ∀ c ∈ cs, c ≠ '\n' ∧ c ≠ '\r'
  range : openings cs < 2 ^ 31
  balanced : Balanced cs
  /-- It is not the head of a block. -/
  colon : cs.getLast? ≠ some ':'

theorem whole_of_word {cs : List Char} (h : Word cs) : Whole cs where
  tight := h.tight
  unbroken c hc := ⟨fun heq => h.notMem (c := '\n') rfl (heq ▸ hc),
    fun heq => h.notMem (c := '\r') rfl (heq ▸ hc)⟩
  range := by
    rw [(flat_of_word h).count.1]
    decide
  balanced := (flat_of_word h).balanced
  colon hlast := h.notMem rfl (List.mem_of_getLast? hlast)

/-- Blanks and colons count at the ends only. -/
theorem Whole.append {cs mid ds : List Char} (h : Whole cs)
    (hbreaks : ∀ c ∈ mid, c ≠ '\n' ∧ c ≠ '\r') (hbalanced : Balanced mid) (h' : Whole ds)
    (hrange : openings (cs ++ mid ++ ds) < 2 ^ 31) : Whole (cs ++ mid ++ ds) where
  tight := h.tight.append mid h'.tight
  unbroken c hc := by
    rcases List.mem_append.1 hc with hc | hc
    · rcases List.mem_append.1 hc with hc | hc
      · exact h.unbroken c hc
      · exact hbreaks c hc
    · exact h'.unbroken c hc
  range := hrange
  balanced := (h.balanced.append hbalanced).append h'.balanced
  colon := by
    have hcolon := h'.colon
    obtain ⟨rest, c, rfl, -⟩ := h'.tight.last
    rw [List.getLast?_concat] at hcolon
    rwa [← List.append_assoc, List.getLast?_concat]

theorem probe_of_whole {s : String} (h : Whole s.toList) : probe s = .ok .complete := by
  rcases probe_of_sound h.range h.balanced.sound with ⟨-, hopen | hheads⟩ | ⟨hp, -⟩
  · rw [h.balanced.closed] at hopen
    exact absurd hopen (Nat.lt_irrefl _)
  · rw [← opensBlock_iff, opensBlock_eq_ink, h.tight.getLast?_ink] at hheads
    exact absurd (eq_of_beq hheads) h.colon
  · exact hp

theorem run_of_whole {s : String} (h : Whole s.toList) (vars : Variables) :
    run vars s = runLines vars [s.toList] := by
  have hne : s.toList ≠ [] := by
    obtain ⟨c, rest, heq, -⟩ := h.tight.head
    rw [heq]
    exact List.cons_ne_nil c rest
  have hcomplete : Completeness.complete ≠ .incomplete := by decide
  rw [run, probe_of_whole h]
  dsimp only
  rw [if_neg fun hn => hcomplete hn.1, lines_of_plain hne h.unbroken]

/-- There are no carriage returns to take away. -/
theorem stripReturns_of_whole {s : String} (h : Whole s.toList) :
    LineBuffer.stripReturns s = s := by
  rw [LineBuffer.stripReturns, List.filter_eq_self.2, String.ofList_toList]
  intro c hc
  rw [decide_eq_true_eq]
  exact (h.unbroken c hc).2

theorem isBlank_of_whole {s : String} (h : Whole s.toList) : isBlank s = false := by
  obtain ⟨c, rest, heq, hc⟩ := h.tight.head
  rw [isBlank, heq, List.all_cons, hc, Bool.false_and]

end Script

/-! ### Literals -/

theorem Decimal.word_ofInt (n : Int) : Word (Decimal.Numeral.ofInt n).text := by
  have hdigits : ∀ c ∈ Decimal.digits n.natAbs, isWordChar c = true :=
    fun c hc => isWordChar_of_isDigit (Decimal.isDigit_of_mem_digits hc)
  rw [Decimal.text_ofInt]
  constructor
  · simp [Decimal.digits_ne_nil]
  · intro c hc
    rcases List.mem_append.1 hc with hsign | hc
    · split at hsign
      · rw [List.mem_singleton.1 hsign]
        rfl
      · cases hsign
    · exact hdigits c hc

namespace Script

open Probe

/-- What a literal is written as. -/
inductive Writes : String → Value → Prop
  | long (n : Int64) : Writes (Decimal.intText n.toInt) (.long n)
  | bool (b : Bool) : Writes (if b then "True" else "False") (.bool b)
  | none : Writes "None" .none
  /-- A text between quotes of one kind, which may themselves occur in it. -/
  | quoted {q : Char} (hq : q = '"' ∨ q = '\'') {s : String}
      (hbreaks : ∀ c ∈ s.toList, c ≠ '\n' ∧ c ≠ '\r') (hrange : openings s.toList < 2 ^ 31)
      (hbalanced : Balanced s.toList) : Writes (String.singleton q ++ s ++ String.singleton q) (.str s)

/-- What is known of a literal. -/
structure Literal (text : List Char) (v : Value) : Prop where
  value : literal? text = some v
  whole : Whole text

theorem literal?_long (n : Int64) :
    literal? (Decimal.Numeral.ofInt n.toInt).text = some (.long n) := by
  have hread := Decimal.readInt64?_ofInt n
  have hword : ∀ w, Decimal.readInt64? w = none → (Decimal.Numeral.ofInt n.toInt).text ≠ w := by
    intro w hw heq
    rw [← heq, hread] at hw
    cases hw
  rw [literal?, if_neg (hword _ (by decide)), if_neg (hword _ (by decide)),
    if_neg (hword _ (by decide)), hread]

theorem literal?_quoted {q : Char} (hq : q = '"' ∨ q = '\'') (cs : List Char) :
    literal? (q :: (cs ++ [q])) = some (.str (String.ofList cs)) := by
  have hword : ∀ w : String, w.toList.head? ≠ some q → q :: (cs ++ [q]) ≠ w.toList := by
    intro w hw heq
    rw [← heq] at hw
    exact hw rfl
  have hinner : unquote? (q :: (cs ++ [q])) = some cs := by
    rw [unquote?, if_pos ⟨hq, List.getLast?_concat⟩, List.dropLast_concat]
  rw [literal?, if_neg (hword "True" ?_), if_neg (hword "False" ?_), if_neg (hword "None" ?_),
    Decimal.readInt64?_quote hq, Decimal.readDouble?_quote hq, hinner]
  · rfl
  all_goals rcases hq with rfl | rfl <;> decide

theorem whole_quoted {q : Char} (hq : q = '"' ∨ q = '\'') {cs : List Char}
    (hbreaks : ∀ c ∈ cs, c ≠ '\n' ∧ c ≠ '\r') (hrange : openings cs < 2 ^ 31)
    (hbalanced : Balanced cs) : Whole (q :: (cs ++ [q])) := by
  have hflat : Flat [q] := by
    intro c hc
    rw [List.mem_singleton.1 hc]
    rcases hq with rfl | rfl <;> decide
  have hquote : Whole [q] := by
    refine ⟨.singleton ?_, fun c hc => ?_, ?_, hflat.balanced, ?_⟩
    · rcases hq with rfl | rfl <;> rfl
    · rw [List.mem_singleton.1 hc]
      rcases hq with rfl | rfl <;> decide
    · rw [hflat.count.1]
      decide
    · rcases hq with rfl | rfl <;> decide
  refine hquote.append hbreaks hbalanced hquote ?_
  rw [openings_append, openings_append, hflat.count.1]
  omega

theorem literal_of_writes {literal : String} {v : Value} (h : Writes literal v) :
    Literal literal.toList v := by
  cases h with
  | long n =>
      rw [Decimal.intText, String.toList_ofList]
      exact ⟨literal?_long n, whole_of_word (Decimal.word_ofInt _)⟩
  | bool b => cases b <;> exact ⟨by decide, whole_of_word (word_of_all (by decide) (by decide))⟩
  | none => exact ⟨by decide, whole_of_word (word_of_all (by decide) (by decide))⟩
  | @quoted q hq s hbreaks hrange hbalanced =>
      have hvalue := literal?_quoted hq s.toList
      rw [String.ofList_toList] at hvalue
      rw [String.toList_append, String.toList_append, String.toList_singleton]
      exact ⟨hvalue, whole_quoted hq hbreaks hrange hbalanced⟩

/-! ### Cutting a line -/

theorem dropStart?_eq_none {ps cs : List Char} (h : ¬ ps <+: cs) : dropStart? ps cs = none := by
  induction ps generalizing cs with
  | nil => exact absurd List.nil_prefix h
  | cons p ps ih =>
      cases cs with
      | nil => rfl
      | cons c cs =>
          rw [dropStart?]
          split
          · next hpc =>
            subst hpc
            exact ih fun hps => h ((List.prefix_cons_inj p).2 hps)
          · rfl

/-- What a text starts with does not reach over a character that is not in it. -/
theorem start_of_notMem {c : Char} {ps cs ds : List Char} (hc : c ∉ ps)
    (h : ps <+: cs ++ c :: ds) : ps <+: cs := by
  rcases List.prefix_or_prefix_of_prefix h (List.prefix_append cs (c :: ds)) with hps | ⟨t, rfl⟩
  · exact hps
  · rcases List.prefix_cons_iff.1 ((List.prefix_append_right_inj cs).1 h) with rfl | ⟨u, rfl, -⟩
    · simp
    · exact absurd (by simp) hc

/-- A line is split at its first equals sign, whatever comes behind that. -/
theorem splitEquals?_append {left : List Char} (h : '=' ∉ left) (right : List Char) :
    splitEquals? (left ++ '=' :: right) = some (left, right) := by
  have hleft : ∀ c ∈ left, (decide (c ≠ '=')) = true := by
    intro c hc
    rw [decide_eq_true_eq]
    exact fun heq => h (heq ▸ hc)
  rw [splitEquals?, List.dropWhile_append_of_pos hleft, List.takeWhile_append_of_pos hleft,
    List.dropWhile_cons_of_neg (by simp), List.takeWhile_cons_of_neg (by simp), List.append_nil]

/-! ### Assignments -/

/-- The text of an assignment. -/
def assignment (name literal : String) : String := name ++ " = " ++ literal

section Assignment

variable {name literal : String} {v : Value}

theorem word_of_isName {cs : List Char} (h : isName cs = true) : Word cs := by
  rw [isName, Bool.and_eq_true, List.all_eq_true] at h
  refine ⟨by simpa using h.1, fun c hc => ?_⟩
  rw [isWordChar, h.2 c hc]
  rfl

theorem toList_assignment (name literal : String) : (assignment name literal).toList =
    name.toList ++ [' ', '=', ' '] ++ literal.toList := by
  rw [assignment, String.toList_append, String.toList_append]
  rfl

/-- An assignment is read as one, unless it starts with the name for raising. -/
theorem ofText_assignment (hname : isName name.toList = true)
    (hraise : ¬ "raise".toList <+: name.toList) (h : Literal literal.toList v) :
    Line.ofText (assignment name literal).toList = .assign name.toList v := by
  have hword := word_of_isName hname
  have hsplit : (assignment name literal).toList =
      (name.toList ++ [' ']) ++ '=' :: ([' '] ++ literal.toList) := by
    rw [toList_assignment]
    simp
  have hstart : dropStart? "raise".toList (assignment name literal).toList = none := by
    refine dropStart?_eq_none fun hpre => hraise ?_
    rw [toList_assignment, List.append_assoc] at hpre
    exact start_of_notMem (c := ' ') (by decide) hpre
  have hequals : '=' ∉ name.toList ++ [' '] := by
    have hnot : '=' ∉ name.toList := hword.notMem rfl
    simpa using hnot
  have htrim : trim (name.toList ++ [' ']) = name.toList :=
    @Tight.trim_between _ hword.tight [] [' '] rfl rfl
  have htrim' : trim ([' '] ++ literal.toList) = literal.toList := by
    have hbetween := @Tight.trim_between _ h.whole.tight [' '] [] rfl rfl
    rwa [List.append_nil] at hbetween
  rw [Line.ofText, hstart, hsplit, splitEquals?_append hequals]
  dsimp only
  rw [htrim', h.value, htrim, hname]
  rfl

theorem whole_assignment (hname : isName name.toList = true) (h : Literal literal.toList v) :
    Whole (assignment name literal).toList := by
  have hword := word_of_isName hname
  have hequals : Flat [' ', '=', ' '] := by
    simp only [Flat, List.mem_cons, List.not_mem_nil, or_false]
    rintro c (rfl | rfl | rfl) <;> decide
  rw [toList_assignment]
  refine (whole_of_word hword).append (by simp) hequals.balanced h.whole ?_
  have hrange := h.whole.range
  rw [openings_append, openings_append, (flat_of_word hword).count.1, hequals.count.1]
  omega

/-- To run an assignment binds its name, and that is all. -/
theorem run_assignment (hname : isName name.toList = true)
    (hraise : ¬ "raise".toList <+: name.toList) (h : Literal literal.toList v) (vars : Variables) :
    run vars (assignment name literal) = (.ok (), vars.insert name v) := by
  have hwhole := whole_assignment hname h
  rw [run_of_whole hwhole, runLines, hwhole.tight.trim, ofText_assignment hname hraise h]
  dsimp only
  rw [String.ofList_toList]
  rfl

end Assignment

end Script

end PinnedSessions
