/-! # Blank characters

The 25 characters with the Unicode property White_Space, and the operations that look at them:
trimming on either side and the test whether a text holds anything else.
-/

namespace PinnedSessions.Text

/-- Unicode White_Space. -/
def isBlankChar (c : Char) : Bool :=
  let n := c.toNat
  (0x09 ≤ n && n ≤ 0x0D) || n == 0x20 || n == 0x85 || n == 0xA0 || n == 0x1680 ||
    (0x2000 ≤ n && n ≤ 0x200A) || n == 0x2028 || n == 0x2029 || n == 0x202F || n == 0x205F ||
    n == 0x3000

/-- Without the blank characters it starts with. -/
def trimStart (cs : List Char) : List Char := cs.dropWhile isBlankChar

/-- Without the blank characters it ends with. -/
def trimEnd : List Char → List Char
  | [] => []
  | c :: cs =>
    match trimEnd cs with
    | [] => if isBlankChar c then [] else [c]
    | cs' => c :: cs'

/-- Without the blank characters on either side. -/
def trim (cs : List Char) : List Char := trimEnd (trimStart cs)

/-- Whether only blank characters occur. -/
def isBlank (s : String) : Bool := s.toList.all isBlankChar

theorem trimEnd_eq_nil_iff (cs : List Char) : trimEnd cs = [] ↔ cs.all isBlankChar = true := by
  induction cs with
  | nil => simp [trimEnd]
  | cons c cs ih =>
    simp only [trimEnd, List.all_cons, Bool.and_eq_true]
    cases h : trimEnd cs with
    | nil => rw [h] at ih; simp [ih.1 rfl]
    | cons d ds =>
      have : ¬ cs.all isBlankChar = true := fun hc => by simp [ih.2 hc] at h
      simp [this]

theorem trim_eq_nil_iff (cs : List Char) : trim cs = [] ↔ cs.all isBlankChar = true := by
  rw [trim, trimEnd_eq_nil_iff, trimStart]
  induction cs with
  | nil => rfl
  | cons c cs ih => by_cases h : isBlankChar c = true <;> simp_all

end PinnedSessions.Text
