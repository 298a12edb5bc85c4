/-! # Written decimal numbers

A `Numeral` is a decimal number as it is written: a sign, the digits before the point, the digits
after it if there is a point, and an exponent with its own sign if there is one. Two numerals of one
number, such as `1.0` and `1`, are different.

Integers are read from an optional sign and at least one ASCII digit; leading zeros are allowed.
-/

namespace PinnedSessions.Decimal

/-- The sign in front of a written exponent. -/
inductive ExponentSign where
  /-- No sign is written, the exponent is not negative. -/
  | unsigned
  /-- A plus is written. -/
  | plus
  | minus
deriving DecidableEq, Repr

/-- An exponent as it is written. -/
structure Exponent where
  sign : ExponentSign
  digits : List Char
deriving DecidableEq, Repr

/-- A decimal number as it is written. -/
structure Numeral where
  negative : Bool
  /-- The digits before the point. -/
  whole : List Char
  /-- The digits after the point, if there is a point. -/
  fraction : Option (List Char)
  /-- The exponent, if there is one. -/
  exponent : Option Exponent
deriving DecidableEq, Repr

/-- The number that a list of decimal digits writes. -/
def natural (digits : List Char) : Nat := Nat.ofDigitChars 10 digits 0

/-- The digits of a natural number. -/
def digits (n : Nat) : List Char := Nat.toDigits 10 n

@[simp] theorem natural_digits (n : Nat) : natural (digits n) = n :=
  Nat.ofDigitChars_toDigits (by decide) (by decide)

theorem isDigit_of_mem_digits {n : Nat} {c : Char} (h : c ∈ digits n) : c.isDigit = true :=
  Nat.isDigit_of_mem_toDigits (by decide) (by decide) h

theorem digits_ne_nil (n : Nat) : digits n ≠ [] := Nat.toDigits_ne_nil

/-- The text of the sign of an exponent. -/
def ExponentSign.text : ExponentSign → List Char
  | .unsigned => []
  | .plus => ['+']
  | .minus => ['-']

namespace Exponent

/-- The text of an exponent behind its mark. -/
def text (x : Exponent) : List Char := 'e' :: x.sign.text ++ x.digits

/-- The integer that an exponent writes. -/
def value (x : Exponent) : Int :=
  if x.sign = .minus then -(natural x.digits : Int) else natural x.digits

end Exponent

namespace Numeral

/-- An integer without point and exponent. -/
def ofInt (n : Int) : Numeral := ⟨decide (n < 0), digits n.natAbs, none, none⟩

/-- The text of a numeral. -/
def text (x : Numeral) : List Char :=
  (if x.negative then ['-'] else []) ++ x.whole ++
    (match x.fraction with
      | none => []
      | some ds => '.' :: ds) ++
    (match x.exponent with
      | none => []
      | some e => e.text)

/-- The integer that a numeral writes: one without point and exponent, and not a negative zero. -/
def toInt? (x : Numeral) : Option Int :=
  match x.fraction, x.exponent with
  | none, none =>
    let n := natural x.whole
    if x.negative then if n = 0 then none else some (-(n : Int)) else some n
  | _, _ => none

@[simp] theorem toInt?_ofInt (n : Int) : (ofInt n).toInt? = some n := by
  simp only [ofInt, toInt?, natural_digits, decide_eq_true_eq]
  by_cases h : n < 0
  · rw [if_pos h, if_neg (by omega)]
    exact congrArg some (by omega)
  · rw [if_neg h]
    exact congrArg some (by omega)

end Numeral

/-! ### Reading integers -/

/-- Whether a text is one or more ASCII digits. -/
def isDigits (cs : List Char) : Bool := !cs.isEmpty && cs.all Char.isDigit

/-- A natural number: an optional plus sign and digits. -/
def readNat? (cs : List Char) : Option Nat :=
  let body := match cs with
    | '+' :: rest => rest
    | _ => cs
  if isDigits body then some (natural body) else none

/-- An integer: an optional sign and digits. -/
def readInt? (cs : List Char) : Option Int :=
  match cs with
  | '-' :: rest => if isDigits rest then some (-(natural rest : Int)) else none
  | _ => (readNat? cs).map Int.ofNat

/-- An integer that a signed 64-bit word holds. -/
def readInt64? (cs : List Char) : Option Int64 :=
  match readInt? cs with
  | some n =>
    if Int64.minValue.toInt ≤ n ∧ n ≤ Int64.maxValue.toInt then some (Int64.ofInt n) else none
  | none => none

/-- A natural number that an unsigned 64-bit word holds. -/
def readUInt64? (cs : List Char) : Option UInt64 :=
  match readNat? cs with
  | some n => if n < UInt64.size then some n.toUInt64 else none
  | none => none

/-- The text of an integer. -/
def intText (n : Int) : String := String.ofList (Numeral.ofInt n).text

/-- The text of a natural number. -/
def natText (n : Nat) : String := String.ofList (digits n)

end PinnedSessions.Decimal
