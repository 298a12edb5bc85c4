import PinnedSessions.Json.Printer
import PinnedSessions.Proofs.Json.Reading

/-! # The compact text is a text of its tree

A tree is written in one of the ways in which the grammar lets it be written, as long as its numbers
are proper numerals (`Proper`): `spells_print` goes through a tree by the same cases as `print`.
With the reader it follows that a written tree is read back (`parse_compact`). -/

namespace PinnedSessions

open Decimal (Exponent Numeral digits digits_ne_nil isDigit_of_mem_digits natural natural_digits)

/-! ### Integers -/

namespace Json

theorem digits_digits (n : Nat) : Digits (digits n) :=
  ⟨digits_ne_nil n, fun _ => isDigit_of_mem_digits⟩

/-- No zero stands in front of other digits of a number. -/
theorem digits_leading (n : Nat) (rest : List Char) (h : digits n = '0' :: rest) : rest = [] := by
  induction n using Nat.strongRecOn generalizing rest with
  | ind n ih =>
      by_cases hn : n < 10
      · rw [digits, Nat.toDigits_of_lt_base hn] at h
        exact (List.cons.inj h).2.symm
      · have hsplit : digits n = digits (n / 10) ++ [(n % 10).digitChar] :=
          Nat.toDigits_of_base_le (by decide) (by omega)
        obtain ⟨c, ds, hds⟩ := List.exists_cons_of_ne_nil (digits_ne_nil (n / 10))
        rw [hsplit, hds, List.cons_append, List.cons.injEq] at h
        rw [h.1] at hds
        have hnil := ih (n / 10) (by omega) ds hds
        have hzero := natural_digits (n / 10)
        rw [hds, hnil] at hzero
        have : natural ['0'] = 0 := by decide
        omega

theorem whole_digits (n : Nat) : Whole (digits n) where
  toDigits := digits_digits n
  leading := digits_leading n

theorem proper_ofInt (n : Int) : (Numeral.ofInt n).Proper where
  whole := whole_digits _
  fraction := nofun
  exponent := nofun

/-! ### Strings -/

theorem hexValue?_digitChar {n : Nat} (h : n < 16) : hexValue? (Nat.digitChar n) = some n := by
  have hall : ∀ n : Fin 16, hexValue? (Nat.digitChar n) = some n.val := by decide
  exact hall ⟨n, h⟩

theorem readHex4_hex4 {n : Nat} (h : n < 65536) : readHex4 (hex4 n) = some (n, []) := by
  have hd : ∀ k, hexValue? (Nat.digitChar (k % 16)) = some (k % 16) := fun k =>
    hexValue?_digitChar (Nat.mod_lt k (by decide))
  simp only [hex4, readHex4, hd, Option.bind_eq_bind, Option.bind_some, Option.pure_def,
    Option.some.injEq, Prod.mk.injEq, and_true]
  omega

/-- A character is written as one piece, whatever comes behind it. -/
theorem spellsPieces_escapeChar (c : Char) {ps : List Piece} {cs : List Char}
    (h : SpellsPieces ps cs) : SpellsPieces (.char c :: ps) (escapeChar c ++ cs) := by
  unfold escapeChar
  split
  · next hc => exact .escaped (by rw [hc]; rfl) h
  split
  · next hc => exact .escaped (by rw [hc]; rfl) h
  split
  · next hc => exact .escaped (by rw [hc]; rfl) h
  split
  · next hc => exact .escaped (by rw [hc]; rfl) h
  split
  · next hc => exact .escaped (by rw [hc]; rfl) h
  split
  · next hc => exact .escaped (by rw [hc]; rfl) h
  split
  · next hc => exact .escaped (by rw [hc]; rfl) h
  split
  · next hc =>
    have hunit : Piece.ofUnit c.toNat = .char c := by
      rw [Piece.ofUnit, if_neg (by omega), Char.ofNat_toNat]
    rw [← hunit]
    exact .coded (readHex4_hex4 (by omega)) h
  · next hq hb _ _ _ _ _ hc => exact .plain hc hq hb h

theorem joinPieces_chars (cs : List Char) : joinPieces (cs.map .char) = some cs := by
  induction cs with
  | nil => rfl
  | cons c cs ih => rw [List.map_cons, joinPieces, ih, Option.map_some]

theorem spellsPieces_escape (cs : List Char) :
    SpellsPieces (cs.map .char) (cs.flatMap escapeChar) := by
  induction cs with
  | nil => exact .done
  | cons c cs ih =>
      rw [List.map_cons, List.flatMap_cons]
      exact spellsPieces_escapeChar c ih

theorem spellsString_stringText (s : Option String) : SpellsString s (stringText s) := by
  cases s with
  | some s =>
      have h := SpellsString.mk (spellsPieces_escape s.toList)
      rw [joinPieces_chars, Option.map_some, String.ofList_toList] at h
      exact h
  | none =>
      have h : SpellsPieces [.surrogate 0xD800] ('\\' :: 'u' :: hex4 0xD800) :=
        .coded (readHex4_hex4 (n := 0xD800) (by decide)) .done
      exact .mk h

theorem blanks_nil : Blanks [] := nofun

theorem spellsKey_stringText (k : Option String) : SpellsKey k (stringText k ++ [':']) :=
  .mk blanks_nil (spellsString_stringText k) blanks_nil

/-! ### Trees -/

/-- A tree whose numbers can be written. -/
inductive Proper : Json → Prop
  | null : Proper .null
  | bool (b : Bool) : Proper (.bool b)
  | number {x : Numeral} (h : x.Proper) : Proper (.number x)
  | string (s : Option String) : Proper (.string s)
  | array {xs : List Json} (h : ∀ x ∈ xs, Proper x) : Proper (.array xs)
  | object {ms : List (Option String × Json)} (h : ∀ m ∈ ms, Proper m.2) : Proper (.object ms)

/-- The text that is written for an exponent, or for none. -/
def exponentText : Option Exponent → List Char
  | none => []
  | some e => e.text

theorem spellsExponent_text (x : Option Exponent) : SpellsExponent x (exponentText x) := by
  cases x with
  | none => exact .absent
  | some e => exact .marked e (.inl rfl)

theorem numeral_text_eq (x : Numeral) : x.text = (if x.negative then ['-'] else []) ++
    (x.whole ++ (fractionText x.fraction ++ exponentText x.exponent)) := by
  rw [Numeral.text, List.append_assoc, List.append_assoc]
  cases x.fraction <;> cases x.exponent <;> rfl

theorem spellsNumber_text {x : Numeral} (h : x.Proper) : SpellsNumber x x.text := by
  rw [numeral_text_eq]
  exact .mk h (spellsExponent_text x.exponent)

theorem spells_items {x : Json} {xs : List Json}
    (h : ∀ y ∈ x :: xs, Spells (.value y) y.print) :
    Spells (.items (x :: xs)) (printItems (x :: xs)) := by
  induction xs generalizing x with
  | nil => exact .lastItem blanks_nil (h x (.head _)) blanks_nil
  | cons y ys ih =>
      exact .item blanks_nil (h x (.head _)) blanks_nil (ih fun z hz => h z (.tail _ hz))

theorem spells_members {m : Option String × Json} {ms : List (Option String × Json)}
    (h : ∀ n ∈ m :: ms, Spells (.value n.2) n.2.print) :
    Spells (.members (m :: ms)) (printMembers (m :: ms)) := by
  induction ms generalizing m with
  | nil =>
      have hs := Spells.lastMember (spellsKey_stringText m.1) blanks_nil (h m (.head _)) blanks_nil
      simpa [printMembers, printMoreMembers] using hs
  | cons n ns ih =>
      have hs := Spells.member (spellsKey_stringText m.1) blanks_nil (h m (.head _)) blanks_nil
        (ih fun o ho => h o (.tail _ ho))
      simpa [printMembers, printMoreMembers] using hs

/-- The text that is written spells the tree. -/
theorem spells_print {j : Json} (h : Proper j) : Spells (.value j) j.print := by
  induction h with
  | null => exact .null
  | bool b =>
      cases b with
      | true => exact .yes
      | false => exact .no
  | number h => exact .number (spellsNumber_text h)
  | string s => exact .string (spellsString_stringText s)
  | @array xs h ih =>
      cases xs with
      | nil => exact .noItems blanks_nil
      | cons x xs => exact .array (spells_items ih)
  | @object ms h ih =>
      cases ms with
      | nil => exact .noMembers blanks_nil
      | cons m ms => exact .object (spells_members ih)

theorem spelled_compact {j : Json} (h : Proper j) : Spelled j j.compact.toList := by
  have hs := Spelled.mk blanks_nil (spells_print h) blanks_nil
  rw [List.append_nil, List.nil_append] at hs
  rw [compact, String.toList_ofList]
  exact hs

/-- A tree is read back from its compact text. -/
theorem parse_compact {j : Json} (h : Proper j) : parse j.compact.toList = some j :=
  parse_of_spelled (spelled_compact h)

end Json

end PinnedSessions
