import PinnedSessions.Proofs.Json.Grammar

/-! # Every JSON text is read

A reader of one piece of a text finds that piece, whatever its spelling, and stops behind it. For a
number this takes that nothing follows which could belong to it (`Fenced`); every other piece shows
its own end. From the pieces it follows for a phrase by induction on its text, with a bound on the
depth that is the length of the text (`found_of_spells`), and so for a whole text
(`parse_of_spelled`). -/

namespace PinnedSessions.Json

open Decimal (Exponent ExponentSign Numeral)

/-! ### Blanks -/

theorem skipBlanks_blank {c : Char} (hc : IsBlank c) (cs : List Char) :
    skipBlanks (c :: cs) = skipBlanks cs := if_pos hc

theorem skipBlanks_cons {c : Char} (hc : ¬ IsBlank c) (cs : List Char) :
    skipBlanks (c :: cs) = c :: cs := if_neg hc

theorem skipBlanks_append {as : List Char} (ha : Blanks as) (cs : List Char) :
    skipBlanks (as ++ cs) = skipBlanks cs := by
  induction as with
  | nil => rfl
  | cons c as ih =>
      rw [List.cons_append, skipBlanks_blank (ha c (.head _))]
      exact ih fun d hd => ha d (.tail _ hd)

theorem skipBlanks_blanks {as : List Char} (ha : Blanks as) : skipBlanks as = [] := by
  rw [← List.append_nil as, skipBlanks_append ha, skipBlanks]

theorem skipBlanks_skipBlanks (cs : List Char) : skipBlanks (skipBlanks cs) = skipBlanks cs := by
  induction cs with
  | nil => rfl
  | cons c cs ih =>
      by_cases hc : IsBlank c
      · rw [skipBlanks_blank hc, ih]
      · rw [skipBlanks_cons hc, skipBlanks_cons hc]

/-! ### Numbers -/

/-- A text that cannot go on with a number: it is at its end, or at a blank or the end of an item. -/
def Fenced (rest : List Char) : Prop :=
  ∀ c cs, rest = c :: cs → IsBlank c ∨ c = ',' ∨ c = ']' ∨ c = '\x7d'

/-- A text that does not start with a digit. -/
def Undigited (rest : List Char) : Prop := ∀ c cs, rest = c :: cs → c.isDigit = false

theorem fenced_nil : Fenced [] := nofun

theorem fenced_blanks {as : List Char} (ha : Blanks as) {rest : List Char} (h : Fenced rest) :
    Fenced (as ++ rest) := by
  cases as with
  | nil => exact h
  | cons a as =>
      intro c cs heq
      cases heq
      exact .inl (ha a (.head _))

theorem fenced_cons {c : Char} (hc : c = ',' ∨ c = ']' ∨ c = '\x7d') (rest : List Char) :
    Fenced (c :: rest) := by
  intro d cs heq
  cases heq
  exact .inr hc

/-- No character of a number is a fence. -/
theorem Fenced.ne {c : Char} {cs : List Char} (h : Fenced (c :: cs)) :
    c.isDigit = false ∧ c ≠ '.' ∧ c ≠ 'e' ∧ c ≠ 'E' := by
  rcases h c cs rfl with (rfl | rfl | rfl | rfl) | rfl | rfl | rfl <;> decide

theorem Fenced.undigited {rest : List Char} (h : Fenced rest) : Undigited rest := by
  intro c cs heq
  rw [heq] at h
  exact h.ne.1

theorem readDigits_append {ds rest : List Char} (hd : Digits ds) (hr : Undigited rest) :
    readDigits (ds ++ rest) = some (ds, rest) := by
  have htake : (ds ++ rest).takeWhile Char.isDigit = ds := by
    rw [List.takeWhile_append_of_pos hd.isDigit]
    cases rest with
    | nil => rw [List.takeWhile_nil, List.append_nil]
    | cons c cs => rw [List.takeWhile_cons_of_neg (by simp [hr c cs rfl]), List.append_nil]
  have hdrop : (ds ++ rest).dropWhile Char.isDigit = rest := by
    rw [List.dropWhile_append_of_pos hd.isDigit]
    cases rest with
    | nil => rfl
    | cons c cs => rw [List.dropWhile_cons_of_neg (by simp [hr c cs rfl])]
  rw [readDigits, htake, hdrop]
  exact if_neg (by simpa using hd.ne_nil)

theorem readWhole_append {ds rest : List Char} (hd : Whole ds) (hr : Undigited rest) :
    readWhole (ds ++ rest) = some (ds, rest) := by
  rw [readWhole, readDigits_append hd.toDigits hr]
  split
  · next heq =>
    cases heq
    cases hd.leading _ rfl
  · rfl

theorem readExponentSign_append {ds : List Char} (hd : Digits ds) (sign : ExponentSign)
    (rest : List Char) :
    readExponentSign (sign.text ++ (ds ++ rest)) = (sign, ds ++ rest) := by
  cases sign with
  | minus => rfl
  | plus => rfl
  | unsigned =>
      obtain ⟨c, cs, rfl⟩ := List.exists_cons_of_ne_nil hd.ne_nil
      have hc := hd.isDigit c (.head _)
      have hm : c ≠ '-' := by rintro rfl; cases hc
      have hp : c ≠ '+' := by rintro rfl; cases hc
      simp [ExponentSign.text, readExponentSign, hm, hp]

theorem readExponent_append {x : Option Exponent} {es rest : List Char}
    (h : SpellsExponent x es) (hx : ∀ e, x = some e → Digits e.digits) (hr : Fenced rest) :
    readExponent (es ++ rest) = some (x, rest) := by
  cases h with
  | absent =>
      cases rest with
      | nil => rfl
      | cons c cs =>
          obtain ⟨-, -, he, hE⟩ := hr.ne
          rw [List.nil_append, readExponent, if_neg (by simp [he, hE])]
  | @marked mark e hm =>
      have hd := hx e rfl
      rw [List.cons_append, List.append_assoc, readExponent, if_pos hm,
        readExponentSign_append hd]
      dsimp only
      rw [readDigits_append hd hr.undigited]
      rfl

/-- What is behind the digits of a number is not a digit. -/
theorem undigited_exponent {x : Option Exponent} {es rest : List Char} (h : SpellsExponent x es)
    (hr : Fenced rest) : Undigited (es ++ rest) := by
  cases h with
  | absent => exact hr.undigited
  | marked e hm =>
      intro c cs heq
      cases heq
      rcases hm with rfl | rfl <;> rfl

theorem readFraction_append {x : Option (List Char)} (hx : ∀ ds, x = some ds → Digits ds)
    {e : Option Exponent} {es rest : List Char} (h : SpellsExponent e es) (hr : Fenced rest) :
    readFraction (fractionText x ++ (es ++ rest)) = some (x, es ++ rest) := by
  cases x with
  | some ds =>
      rw [fractionText, List.cons_append, readFraction,
        readDigits_append (hx ds rfl) (undigited_exponent h hr)]
      rfl
  | none =>
      have hpoint : ∀ cs, es ++ rest ≠ '.' :: cs := by
        intro cs heq
        cases h with
        | absent =>
            rw [List.nil_append] at heq
            rw [heq] at hr
            exact hr.ne.2.1 rfl
        | marked e hm =>
            cases heq
            rcases hm with hm | hm <;> cases hm
      rw [fractionText, List.nil_append]
      unfold readFraction
      split
      · next cs heq => exact absurd heq (hpoint cs)
      · rfl

theorem undigited_fraction (x : Option (List Char)) {e : Option Exponent} {es rest : List Char}
    (h : SpellsExponent e es) (hr : Fenced rest) : Undigited (fractionText x ++ (es ++ rest)) := by
  cases x with
  | none =>
      rw [fractionText, List.nil_append]
      exact undigited_exponent h hr
  | some ds =>
      intro c cs heq
      cases heq
      rfl

theorem readMagnitude_append {x : Numeral} (hx : x.Proper) {es rest : List Char}
    (he : SpellsExponent x.exponent es) (hr : Fenced rest) :
    readMagnitude x.negative (x.whole ++ (fractionText x.fraction ++ (es ++ rest))) =
      some (x, rest) := by
  simp only [readMagnitude, readWhole_append hx.whole (undigited_fraction _ he hr),
    readFraction_append hx.fraction he hr, readExponent_append he hx.exponent hr, Option.bind_eq_bind,
    Option.bind_some, Option.pure_def]

/-- A number starts with a minus or a digit. -/
theorem SpellsNumber.head {x : Numeral} {cs : List Char} (h : SpellsNumber x cs) :
    ∃ c rest, cs = c :: rest ∧ (c = '-' ∨ c.isDigit = true) := by
  cases h with
  | mk hx he =>
      cases x.negative with
      | true => exact ⟨'-', _, rfl, .inl rfl⟩
      | false =>
          obtain ⟨c, ds, hds⟩ := List.exists_cons_of_ne_nil hx.whole.ne_nil
          rw [hds]
          exact ⟨c, _, rfl, .inr (hx.whole.isDigit c (by rw [hds]; exact .head _))⟩

theorem readNumber_append {x : Numeral} {cs rest : List Char} (h : SpellsNumber x cs)
    (hr : Fenced rest) : readNumber (cs ++ rest) = some (x, rest) := by
  cases h with
  | @mk es hx he =>
      have hread := readMagnitude_append hx he hr
      cases hn : x.negative with
      | true =>
          rw [hn] at hread
          simpa [readNumber] using hread
      | false =>
          rw [hn] at hread
          obtain ⟨c, ds, hds⟩ := List.exists_cons_of_ne_nil hx.whole.ne_nil
          have hc : c ≠ '-' := by
            rintro rfl
            have hd := hx.whole.isDigit '-' (by rw [hds]; exact .head _)
            cases hd
          rw [hds] at hread ⊢
          simp only [Bool.false_eq_true, if_false, List.nil_append, List.append_assoc,
            List.cons_append] at hread ⊢
          rw [readNumber]
          · exact hread
          · intro cs heq
            cases heq
            exact hc rfl

/-! ### Strings -/

theorem readPieces_append {ps : List Piece} {cs : List Char} (h : SpellsPieces ps cs)
    (rest : List Char) : readPieces (cs ++ '"' :: rest) = some (ps, rest) := by
  induction h with
  | done => rfl
  | plain hc hq hb h ih =>
      rw [List.cons_append, readPieces, if_neg (by simp [hc, hb]), ih]
      · rfl
      · exact fun heq => hq heq
      · exact fun _ _ _ _ _ heq => absurd heq hb
      · exact fun _ _ heq => absurd heq hb
  | @escaped c d ps cs hc h ih =>
      have hu : c ≠ 'u' := by rintro rfl; cases hc
      rw [List.cons_append, List.cons_append, readPieces, hc, ih]
      · rfl
      · exact fun _ _ _ _ _ heq => absurd heq hu
  | @coded a b c d n ps cs hn h ih =>
      simp only [List.cons_append, readPieces, hn, ih, Option.bind_eq_bind, Option.bind_some,
        Option.pure_def]

theorem readString_append {s : Option String} {cs : List Char} (h : SpellsString s ('"' :: cs))
    (rest : List Char) : readString (cs ++ rest) = some (s, rest) := by
  cases h with
  | mk h =>
      rw [List.append_assoc, List.singleton_append, readString, readPieces_append h]
      rfl

theorem SpellsString.head {s : Option String} {cs : List Char} (h : SpellsString s cs) :
    ∃ rest, cs = '"' :: rest := by
  cases h with
  | mk h => exact ⟨_, rfl⟩

/-- A key, after blanks and behind its opening quote. -/
theorem readKey_append {k : Option String} {ks : List Char} (h : SpellsKey k ks)
    (rest : List Char) : ∃ cs, skipBlanks (ks ++ rest) = '"' :: cs ∧ readKey cs = some (k, rest) := by
  cases h with
  | @mk as cs bs ha h hb =>
      obtain ⟨cs, rfl⟩ := h.head
      have hquote : ¬ IsBlank '"' := by unfold IsBlank; decide
      have hcolon : ¬ IsBlank ':' := by unfold IsBlank; decide
      refine ⟨cs ++ (bs ++ ':' :: rest), ?_, ?_⟩
      · simp only [List.append_assoc, List.cons_append, List.nil_append, skipBlanks_append ha,
          skipBlanks_cons hquote]
      · rw [readKey, readString_append h]
        simp only [Option.bind_eq_bind, Option.bind_some, skipBlanks_append hb,
          skipBlanks_cons hcolon, Option.pure_def]

/-! ### Values -/

theorem readValue_skipBlanks (fuel : Nat) (cs : List Char) :
    readValue fuel (skipBlanks cs) = readValue fuel cs := by
  cases fuel with
  | zero => rfl
  | succ fuel => rw [readValue, readValue, skipBlanks_skipBlanks]

theorem readItems_skipBlanks (fuel : Nat) (cs : List Char) :
    readItems fuel (skipBlanks cs) = readItems fuel cs := by
  cases fuel with
  | zero => rfl
  | succ fuel => rw [readItems, readItems, readValue_skipBlanks]

/-- A value starts with neither a blank nor the end of an array. -/
theorem Spells.head {j : Json} {cs : List Char} (h : Spells (.value j) cs) :
    ∃ c rest, cs = c :: rest ∧ ¬ IsBlank c ∧ c ≠ ']' := by
  unfold IsBlank
  cases h with
  | null | yes | no | noItems | array | noMembers | object => exact ⟨_, _, rfl, by decide, by decide⟩
  | string h =>
      obtain ⟨rest, rfl⟩ := h.head
      exact ⟨_, _, rfl, by decide, by decide⟩
  | number h =>
      obtain ⟨c, rest, rfl, hc⟩ := h.head
      refine ⟨c, rest, rfl, ?_, ?_⟩
      · rintro (rfl | rfl | rfl | rfl) <;> revert hc <;> decide
      · rintro rfl
        revert hc
        decide

/-- A number as a value: nothing else starts as it does. -/
theorem readValue_number {x : Numeral} {cs rest : List Char} (h : SpellsNumber x cs)
    (hr : Fenced rest) (fuel : Nat) :
    readValue (fuel + 1) (cs ++ rest) = some (.number x, rest) := by
  have hread := readNumber_append h hr
  obtain ⟨c, ds, rfl, hc⟩ := h.head
  have hblank : ¬ IsBlank c := by
    rintro (rfl | rfl | rfl | rfl) <;> revert hc <;> decide
  have hstart : c ∉ ['n', 't', 'f', '"', '[', '\x7b'] := by
    intro hd
    simp only [List.mem_cons, List.not_mem_nil, or_false] at hd
    rcases hd with rfl | rfl | rfl | rfl | rfl | rfl <;> revert hc <;> decide
  rw [List.cons_append] at hread ⊢
  rw [readValue, skipBlanks_cons hblank]
  split
  case h_7 => rw [hread]; rfl
  all_goals
    next heq =>
      cases heq
      exact absurd (by decide) hstart

theorem readValue_blanks (fuel : Nat) {as : List Char} (ha : Blanks as) (cs : List Char) :
    readValue fuel (as ++ cs) = readValue fuel cs := by
  rw [← readValue_skipBlanks, skipBlanks_append ha, readValue_skipBlanks]

section Pieces

variable {n : Nat} {x : Json} {xs : List Json} {k : Option String}
  {ms : List (Option String × Json)} {cs ds es rest : List Char}

theorem readValue_string {s : Option String} (h : readString cs = some (s, rest)) :
    readValue (n + 1) ('"' :: cs) = some (.string s, rest) := by
  show (readString cs).map _ = _
  rw [h]
  rfl

theorem readValue_bracket (n : Nat) (cs : List Char) : readValue (n + 1) ('[' :: cs) =
    match skipBlanks cs with
    | ']' :: rest => some (.array [], rest)
    | cs => (readItems n cs).map fun (xs, rest) => (.array xs, rest) := rfl

theorem readValue_array (hs : ∀ rest, skipBlanks cs ≠ ']' :: rest)
    (h : readItems n cs = some (xs, rest)) :
    readValue (n + 1) ('[' :: cs) = some (.array xs, rest) := by
  rw [readValue_bracket]
  split
  · next heq => exact absurd heq (hs _)
  · rw [readItems_skipBlanks, h, Option.map_some]

theorem readValue_brace (n : Nat) (cs : List Char) : readValue (n + 1) ('\x7b' :: cs) =
    match skipBlanks cs with
    | '\x7d' :: rest => some (.object [], rest)
    | '"' :: cs => (readMembers n cs).map fun (ms, rest) => (.object ms, rest)
    | _ => none := rfl

theorem readValue_object (hs : skipBlanks cs = '"' :: ds)
    (h : readMembers n ds = some (ms, rest)) :
    readValue (n + 1) ('\x7b' :: cs) = some (.object ms, rest) := by
  simp only [readValue_brace, hs, h, Option.map_some]

theorem readItems_last (hx : readValue n cs = some (x, ds)) (hs : skipBlanks ds = ']' :: rest) :
    readItems (n + 1) cs = some ([x], rest) := by
  simp only [readItems, hx, hs]

theorem readItems_more (hx : readValue n cs = some (x, ds)) (hs : skipBlanks ds = ',' :: es)
    (h : readItems n es = some (xs, rest)) : readItems (n + 1) cs = some (x :: xs, rest) := by
  simp only [readItems, hx, hs, h, Option.map_some]

theorem readMembers_last (hk : readKey cs = some (k, ds)) (hx : readValue n ds = some (x, es))
    (hs : skipBlanks es = '\x7d' :: rest) : readMembers (n + 1) cs = some ([(k, x)], rest) := by
  simp only [readMembers, hk, hx, hs]

theorem readMembers_more {fs gs : List Char} (hk : readKey cs = some (k, ds))
    (hx : readValue n ds = some (x, es)) (hs : skipBlanks es = ',' :: fs)
    (hq : skipBlanks fs = '"' :: gs) (h : readMembers n gs = some (ms, rest)) :
    readMembers (n + 1) cs = some ((k, x) :: ms, rest) := by
  simp only [readMembers, hk, hx, hs, hq, h, Option.map_some]

end Pieces

/-- The items of an array do not start with its end. -/
theorem Spells.items_head {xs : List Json} {cs : List Char} (h : Spells (.items xs) cs)
    (rest ds : List Char) : skipBlanks (cs ++ rest) ≠ ']' :: ds := by
  have hvalue : ∀ {x as cs} (es : List Char), Blanks as → Spells (.value x) cs →
      skipBlanks (as ++ (cs ++ es)) ≠ ']' :: ds := by
    intro x as cs es ha h heq
    obtain ⟨c, cs, rfl, hblank, hc⟩ := h.head
    rw [skipBlanks_append ha, List.cons_append, skipBlanks_cons hblank] at heq
    cases heq
    exact hc rfl
  cases h with
  | lastItem ha h hb | item ha h hb hs =>
      rw [List.append_assoc, List.append_assoc]
      exact hvalue _ ha h

/-- How the reader of a phrase finds it at the start of a text. -/
def Found (fuel : Nat) (cs rest : List Char) : Phrase → Prop
  | .value j => Fenced rest → readValue fuel (cs ++ rest) = some (j, rest)
  | .items xs => readItems fuel (cs ++ rest) = some (xs, rest)
  | .members ms => ∃ ds, skipBlanks (cs ++ rest) = '"' :: ds ∧
      readMembers fuel ds = some (ms, rest)

/-- No phrase is an empty text. -/
theorem Spells.length_pos {p : Phrase} {cs : List Char} (h : Spells p cs) : 1 ≤ cs.length := by
  cases h with
  | number h =>
      obtain ⟨c, cs, rfl, -⟩ := h.head
      exact Nat.le_add_left 1 cs.length
  | string h =>
      obtain ⟨cs, rfl⟩ := h.head
      exact Nat.le_add_left 1 cs.length
  | _ =>
      simp only [List.length_append, List.length_cons]
      omega

/-- What is behind a value inside an array or an object is found behind blanks. -/
theorem skipBlanks_mark {c : Char} {bs : List Char} (hb : Blanks bs)
    (hc : c = ',' ∨ c = ']' ∨ c = '\x7d') (rest : List Char) :
    Fenced (bs ++ c :: rest) ∧ skipBlanks (bs ++ c :: rest) = c :: rest := by
  have hmark : ¬ IsBlank c := by
    unfold IsBlank
    rcases hc with rfl | rfl | rfl <;> decide
  refine ⟨fenced_blanks hb (fenced_cons hc rest), ?_⟩
  rw [skipBlanks_append hb, skipBlanks_cons hmark]

/-- Every phrase is found, by a reader whose depth is bounded by the length of the text. -/
theorem found_of_spells {p : Phrase} {cs : List Char} (h : Spells p cs) :
    ∀ fuel rest, cs.length ≤ fuel → Found fuel cs rest p := by
  intro fuel rest hf
  obtain ⟨n, rfl⟩ := Nat.exists_eq_add_of_le' (Nat.le_trans h.length_pos hf)
  induction h generalizing n rest with
  | null | yes | no => exact fun _ => rfl
  | number h => exact fun hr => readValue_number h hr n
  | string h =>
      obtain ⟨cs, rfl⟩ := h.head
      exact fun _ => readValue_string (readString_append h rest)
  | noItems ha =>
      intro _
      rw [List.cons_append, List.append_assoc, List.singleton_append, readValue_bracket,
        (skipBlanks_mark ha (by decide) rest).2]
      rfl
  | noMembers ha =>
      intro _
      rw [List.cons_append, List.append_assoc, List.singleton_append, readValue_brace,
        (skipBlanks_mark ha (by decide) rest).2]
      rfl
  | @array xs cs h ih =>
      have hcs : cs.length ≤ n := Nat.le_of_succ_le_succ hf
      obtain ⟨n, rfl⟩ := Nat.exists_eq_add_of_le' (Nat.le_trans h.length_pos hcs)
      exact fun _ => readValue_array (h.items_head rest) (ih rest n hcs)
  | @object ms cs h ih =>
      have hcs : cs.length ≤ n := Nat.le_of_succ_le_succ hf
      obtain ⟨n, rfl⟩ := Nat.exists_eq_add_of_le' (Nat.le_trans h.length_pos hcs)
      obtain ⟨ds, hds, hread⟩ := ih rest n hcs
      exact fun _ => readValue_object hds hread
  | @lastItem x as cs bs ha h hb ih =>
      simp only [List.length_append, List.length_cons, List.length_nil] at hf
      have hcs : cs.length ≤ n := by omega
      obtain ⟨n, rfl⟩ := Nat.exists_eq_add_of_le' (Nat.le_trans h.length_pos hcs)
      obtain ⟨hfence, hskip⟩ := skipBlanks_mark (c := ']') hb (by decide) rest
      refine readItems_last ?_ hskip
      simp only [List.append_assoc, List.singleton_append, readValue_blanks _ ha]
      exact ih _ n hcs hfence
  | @item x xs as cs bs ds ha h hb hs ih ihs =>
      simp only [List.length_append, List.length_cons] at hf
      have hcs : cs.length ≤ n := by omega
      have hds : ds.length ≤ n := by omega
      obtain ⟨n, rfl⟩ := Nat.exists_eq_add_of_le' (Nat.le_trans h.length_pos hcs)
      obtain ⟨hfence, hskip⟩ := skipBlanks_mark (c := ',') hb (by decide) (ds ++ rest)
      refine readItems_more ?_ hskip (ihs rest n hds)
      simp only [List.append_assoc, List.cons_append, readValue_blanks _ ha]
      exact ih _ n hcs hfence
  | @lastMember k x ks as cs bs hk ha h hb ih =>
      simp only [List.length_append, List.length_cons, List.length_nil] at hf
      have hcs : cs.length ≤ n := by omega
      obtain ⟨n, rfl⟩ := Nat.exists_eq_add_of_le' (Nat.le_trans h.length_pos hcs)
      obtain ⟨hfence, hskip⟩ := skipBlanks_mark (c := '\x7d') hb (by decide) rest
      obtain ⟨gs, hgs, hkey⟩ := readKey_append hk (as ++ (cs ++ (bs ++ '\x7d' :: rest)))
      have hvalue : readValue (n + 1) (as ++ (cs ++ (bs ++ '\x7d' :: rest))) =
          some (x, bs ++ '\x7d' :: rest) := by
        rw [readValue_blanks _ ha]
        exact ih _ n hcs hfence
      refine ⟨gs, ?_, readMembers_last hkey hvalue hskip⟩
      simpa only [List.append_assoc, List.singleton_append] using hgs
  | @member k x ms ks as cs bs ds hk ha h hb hs ih ihs =>
      simp only [List.length_append, List.length_cons] at hf
      have hcs : cs.length ≤ n := by omega
      have hds : ds.length ≤ n := by omega
      obtain ⟨n, rfl⟩ := Nat.exists_eq_add_of_le' (Nat.le_trans h.length_pos hcs)
      obtain ⟨hfence, hskip⟩ := skipBlanks_mark (c := ',') hb (by decide) (ds ++ rest)
      obtain ⟨gs, hgs, hkey⟩ := readKey_append hk (as ++ (cs ++ (bs ++ ',' :: (ds ++ rest))))
      have hvalue : readValue (n + 1) (as ++ (cs ++ (bs ++ ',' :: (ds ++ rest)))) =
          some (x, bs ++ ',' :: (ds ++ rest)) := by
        rw [readValue_blanks _ ha]
        exact ih _ n hcs hfence
      obtain ⟨es, hes, hread⟩ := ihs rest n hds
      refine ⟨gs, ?_, readMembers_more hkey hvalue hskip hes hread⟩
      simpa only [List.append_assoc, List.cons_append] using hgs

/-- Every text of a tree is read as that tree. -/
theorem parse_of_spelled {j : Json} {cs : List Char} (h : Spelled j cs) : parse cs = some j := by
  cases h with
  | @mk as cs bs ha h hb =>
      have hfence : Fenced (bs ++ []) := fenced_blanks hb fenced_nil
      rw [List.append_nil] at hfence
      have hread : readValue ((as ++ (cs ++ bs)).length + 1) (as ++ (cs ++ bs)) = some (j, bs) := by
        rw [readValue_blanks _ ha]
        refine found_of_spells h _ bs ?_ hfence
        simp only [List.length_append]
        omega
      rw [parse, hread]
      dsimp only
      rw [skipBlanks_blanks hb]
      rfl

end PinnedSessions.Json
