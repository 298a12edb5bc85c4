import PinnedSessions.Text.Blank
import PinnedSessions.Text.Lines

/-! # Lines and the blanks around them

What is left of a text when it is cut into lines and the lines are trimmed.

* `ink` is a text without its blank characters. Line breaks are blank, so the ink of a text is the
  ink of its lines (`ink_lines`), and the last character of it is that of the last line that is not
  blank (`getLast?_flatMap_ink`).
* Up to the blanks that they end in, the lines of a text are what stands between its line feeds
  (`trimEnd_lines`). Carriage returns before a line feed are such blanks, so it makes no difference
  to take them away first (`trimEnd_splitOn_strip`). -/

namespace PinnedSessions.Text

/-! ### Ink -/

/-- A text without its blank characters. -/
def ink (cs : List Char) : List Char := cs.filter fun c => !isBlankChar c

@[simp] theorem ink_nil : ink [] = [] := rfl

theorem ink_append (cs ds : List Char) : ink (cs ++ ds) = ink cs ++ ink ds := List.filter_append ..

theorem ink_cons_blank {c : Char} (h : isBlankChar c = true) (cs : List Char) :
    ink (c :: cs) = ink cs := List.filter_cons_of_neg (by simp [h])

theorem ink_cons {c : Char} (h : isBlankChar c = false) (cs : List Char) :
    ink (c :: cs) = c :: ink cs := List.filter_cons_of_pos (by simp [h])

theorem ink_cons_append (c : Char) (cs : List Char) : ink (c :: cs) = ink [c] ++ ink cs :=
  ink_append [c] cs

theorem ink_eq_nil_iff (cs : List Char) : ink cs = [] ↔ cs.all isBlankChar = true := by
  simp [ink, List.filter_eq_nil_iff]

theorem trim_eq_nil_iff_ink (cs : List Char) : trim cs = [] ↔ ink cs = [] := by
  rw [trim_eq_nil_iff, ink_eq_nil_iff]

/-- Taking blank characters away leaves the ink. -/
theorem ink_filter {p : Char → Bool} (h : ∀ c, p c = false → isBlankChar c = true)
    (cs : List Char) : ink (cs.filter p) = ink cs := by
  unfold ink
  rw [List.filter_filter]
  refine List.filter_congr fun c _ => ?_
  cases hp : p c with
  | true => rw [Bool.and_true]
  | false => rw [h c hp, Bool.and_false, Bool.not_true]

theorem getLast?_trimEnd (cs : List Char) : (trimEnd cs).getLast? = (ink cs).getLast? := by
  induction cs with
  | nil => rfl
  | cons c cs ih =>
      rw [trimEnd]
      cases hcs : trimEnd cs with
      | nil =>
          have hink : ink cs = [] := (ink_eq_nil_iff cs).2 ((trimEnd_eq_nil_iff cs).1 hcs)
          cases hc : isBlankChar c with
          | true => rw [ink_cons_blank hc, hink]; rfl
          | false => rw [ink_cons hc, hink]; rfl
      | cons d ds =>
          rw [hcs] at ih
          dsimp only
          rw [List.getLast?_cons_cons, ih]
          cases hc : isBlankChar c with
          | true => rw [ink_cons_blank hc]
          | false =>
              cases hink : ink cs with
              | nil => rw [hink] at ih; simp at ih
              | cons e es => rw [ink_cons hc, hink, List.getLast?_cons_cons]

/-- What `trimEnd` takes away is blank. -/
theorem exists_blanks (cs : List Char) :
    ∃ blanks, cs = trimEnd cs ++ blanks ∧ blanks.all isBlankChar = true := by
  induction cs with
  | nil => exact ⟨[], rfl, rfl⟩
  | cons c cs ih =>
      obtain ⟨blanks, hcs, hblank⟩ := ih
      rw [trimEnd]
      cases h : trimEnd cs with
      | cons d ds =>
          rw [h] at hcs
          exact ⟨blanks, congrArg (c :: ·) hcs, hblank⟩
      | nil =>
          rw [h, List.nil_append] at hcs
          cases hc : isBlankChar c with
          | true => exact ⟨c :: cs, rfl, by rw [hcs, List.all_cons, hc, hblank]; rfl⟩
          | false => exact ⟨cs, rfl, by rw [hcs]; exact hblank⟩

/-- A text cut into lines keeps its ink: all that is dropped is line breaks. -/
theorem ink_lines (cs : List Char) : (lines cs).flatMap ink = ink cs := by
  fun_induction lines cs with
  | case1 => rfl
  | case2 cs ih => rw [List.flatMap_cons, ink_nil, List.nil_append, ih, ink_cons_blank rfl]
  | case3 cs ih =>
      rw [List.flatMap_cons, ink_nil, List.nil_append, ih, ink_cons_blank rfl, ink_cons_blank rfl]
  | case4 c cs _ _ hlines ih =>
      rw [ink_cons_append c cs, ← ih, hlines]
      rfl
  | case5 c cs _ _ l ls hlines ih =>
      rw [ink_cons_append c cs, ← ih, hlines, List.flatMap_cons, List.flatMap_cons,
        ink_cons_append c l, List.append_assoc]

/-- The last character of the ink of some lines is that of the last line that is not blank. -/
theorem getLast?_flatMap_ink (ls : List (List Char)) : (ls.flatMap ink).getLast? =
    (ls.reverse.find? fun l => !(trim l).isEmpty).bind fun l => (trimEnd l).getLast? := by
  induction ls with
  | nil => rfl
  | cons l ls ih =>
      rw [List.flatMap_cons, List.getLast?_append, ih, List.reverse_cons, List.find?_append]
      cases hfind : ls.reverse.find? fun l => !(trim l).isEmpty with
      | none =>
          rw [Option.bind_none, Option.none_or, Option.none_or]
          cases hl : (trim l).isEmpty with
          | true =>
              rw [List.find?_cons_of_neg (by simp [hl]), List.find?_nil,
                (trim_eq_nil_iff_ink l).1 (List.isEmpty_iff.1 hl)]
              rfl
          | false =>
              rw [List.find?_cons_of_pos (by simp [hl]), Option.bind_some, getLast?_trimEnd]
      | some l' =>
          have hink : ink l' ≠ [] := by
            have hl' := List.find?_some hfind
            rw [Bool.not_eq_true', List.isEmpty_eq_false_iff] at hl'
            exact fun h => hl' ((trim_eq_nil_iff_ink l').2 h)
          rw [Option.some_or, Option.bind_some, getLast?_trimEnd,
            List.getLast?_eq_some_getLast hink, Option.some_or]

/-! ### Trimming -/

/-- It makes no difference which end is trimmed first. -/
theorem trim_eq_trimStart (cs : List Char) : trim cs = trimStart (trimEnd cs) := by
  rw [trim]
  induction cs with
  | nil => rfl
  | cons c cs ih =>
      cases hc : isBlankChar c with
      | true =>
          have hstart : ∀ ds, trimStart (c :: ds) = trimStart ds := fun ds =>
            List.dropWhile_cons_of_pos hc
          rw [hstart, ih, trimEnd]
          cases trimEnd cs with
          | nil => simp only [hc, if_true]
          | cons d ds => exact (hstart _).symm
      | false =>
          have hstart : ∀ ds, trimStart (c :: ds) = c :: ds := fun ds =>
            List.dropWhile_cons_of_neg (by simp [hc])
          rw [hstart, trimEnd]
          cases trimEnd cs with
          | nil => simp only [hc, Bool.false_eq_true, if_false]; exact (hstart []).symm
          | cons d ds => exact (hstart _).symm

/-- Lines that are alike up to the blanks that they end in are alike when they are trimmed. -/
theorem map_trim_congr {ls ms : List (List Char)} (h : ls.map trimEnd = ms.map trimEnd) :
    ls.map trim = ms.map trim := by
  have hmap : ∀ ks : List (List Char), ks.map trim = (ks.map trimEnd).map trimStart := by
    intro ks
    rw [List.map_map]
    exact List.map_congr_left fun k _ => trim_eq_trimStart k
  rw [hmap, hmap, h]

theorem trimEnd_cons_congr {cs ds : List Char} (h : trimEnd cs = trimEnd ds) (c : Char) :
    trimEnd (c :: cs) = trimEnd (c :: ds) := by
  rw [trimEnd, trimEnd, h]

theorem trimEnd_cons_blank {c : Char} (hc : isBlankChar c = true) {cs : List Char}
    (h : trimEnd cs = []) : trimEnd (c :: cs) = [] := by
  rw [trimEnd, h]
  exact if_pos hc

/-! ### What stands between line feeds -/

theorem splitOn_feed (cs : List Char) : ('\n' :: cs).splitOn '\n' = [] :: cs.splitOn '\n' :=
  List.splitOn_append_cons_self [] cs

/-- A character that is no line feed belongs to the first piece. -/
theorem splitOn_cons {c : Char} (hc : c ≠ '\n') {cs p : List Char} {ps : List (List Char)}
    (h : cs.splitOn '\n' = p :: ps) : (c :: cs).splitOn '\n' = (c :: p) :: ps := by
  rw [List.splitOn_cons_eq_if_modifyHead, if_neg (by simpa using hc), h, List.modifyHead_cons]

theorem exists_splitOn (cs : List Char) : ∃ p ps, cs.splitOn '\n' = p :: ps :=
  List.exists_cons_of_ne_nil (List.splitOn_ne_nil '\n' cs)

/-- Up to the blanks that they end in, the lines of a text are what stands between its line feeds,
without an empty piece behind the last one. -/
theorem trimEnd_lines (cs : List Char) : ∃ rest, (rest = [] ∨ rest = [[]]) ∧
    (cs.splitOn '\n').map trimEnd = (lines cs).map trimEnd ++ rest := by
  fun_induction lines cs with
  | case1 => exact ⟨[[]], .inr rfl, rfl⟩
  | case2 cs ih =>
      obtain ⟨rest, hrest, heq⟩ := ih
      refine ⟨rest, hrest, ?_⟩
      rw [splitOn_feed, List.map_cons, heq, List.map_cons, List.cons_append]
  | case3 cs ih =>
      obtain ⟨rest, hrest, heq⟩ := ih
      refine ⟨rest, hrest, ?_⟩
      rw [splitOn_cons (by decide) (splitOn_feed cs), List.map_cons, heq,
        trimEnd_cons_blank rfl rfl]
      rfl
  | case4 c cs hn _ hlines ih =>
      obtain ⟨rest, hrest, heq⟩ := ih
      obtain ⟨p, ps, hps⟩ := exists_splitOn cs
      rw [hlines, hps, List.map_cons, List.map_nil, List.nil_append] at heq
      obtain rfl | rfl := hrest
      · cases heq
      · obtain ⟨hp, hnil⟩ := List.cons.inj heq
        have hcons : trimEnd (c :: p) = trimEnd [c] := trimEnd_cons_congr hp c
        refine ⟨[], .inl rfl, ?_⟩
        rw [splitOn_cons hn hps, List.map_cons, hnil, hcons]
        rfl
  | case5 c cs hn _ l ls hlines ih =>
      obtain ⟨rest, hrest, heq⟩ := ih
      obtain ⟨p, ps, hps⟩ := exists_splitOn cs
      rw [hlines, hps, List.map_cons, List.map_cons, List.cons_append] at heq
      obtain ⟨hp, htail⟩ := List.cons.inj heq
      refine ⟨rest, hrest, ?_⟩
      rw [splitOn_cons hn hps, List.map_cons, htail, trimEnd_cons_congr hp c, List.map_cons,
        List.cons_append]

/-! ### Carriage returns -/

/-- Carriage returns occur only in runs that end at a line feed or at the end of the text. -/
def ReturnsEndLines (cs : List Char) : Prop :=
  ∀ rest, '\r' :: rest <:+ cs → ∀ c, (rest.dropWhile (· = '\r')).head? = some c → c = '\n'

theorem ReturnsEndLines.tail {c : Char} {cs : List Char} (h : ReturnsEndLines (c :: cs)) :
    ReturnsEndLines cs := fun rest hrest => h rest (hrest.trans (List.suffix_cons c cs))

/-- A run of carriage returns that ends at a line feed, or with the text, is a blank piece. -/
theorem trimEnd_returns {cs p : List Char} {ps : List (List Char)} (hps : cs.splitOn '\n' = p :: ps)
    (h : ∀ c, (cs.dropWhile (· = '\r')).head? = some c → c = '\n') : trimEnd p = [] := by
  induction cs generalizing p ps with
  | nil => cases hps; rfl
  | cons c cs ih =>
      obtain ⟨q, qs, hqs⟩ := exists_splitOn cs
      by_cases hc : c = '\r'
      · subst hc
        rw [splitOn_cons (by decide) hqs] at hps
        cases hps
        exact trimEnd_cons_blank rfl (ih hqs h)
      · rw [List.dropWhile_cons_of_neg (by simpa using hc)] at h
        cases h c rfl
        rw [splitOn_feed] at hps
        cases hps
        rfl

/-- Up to the blanks that lines end in, carriage returns at the ends of lines can be taken away. -/
theorem trimEnd_splitOn_strip {cs : List Char} (h : ReturnsEndLines cs) :
    ((cs.filter (· ≠ '\r')).splitOn '\n').map trimEnd = (cs.splitOn '\n').map trimEnd := by
  induction cs with
  | nil => rfl
  | cons c cs ih =>
      have htail := ih h.tail
      obtain ⟨p, ps, hps⟩ := exists_splitOn cs
      by_cases hr : c = '\r'
      · subst hr
        have hp : trimEnd p = [] := trimEnd_returns hps (h cs List.suffix_rfl)
        rw [List.filter_cons_of_neg (by simp), splitOn_cons (by decide) hps, htail, hps,
          List.map_cons, List.map_cons, hp, trimEnd_cons_blank rfl hp]
      · rw [List.filter_cons_of_pos (by simpa using hr)]
        by_cases hn : c = '\n'
        · subst hn
          rw [splitOn_feed, splitOn_feed, List.map_cons, List.map_cons, htail]
        · obtain ⟨q, qs, hqs⟩ := exists_splitOn (cs.filter (· ≠ '\r'))
          rw [hps, hqs, List.map_cons, List.map_cons] at htail
          obtain ⟨hpq, htail⟩ := List.cons.inj htail
          rw [splitOn_cons hn hps, splitOn_cons hn hqs, List.map_cons, List.map_cons, htail,
            trimEnd_cons_congr hpq c]

end PinnedSessions.Text
