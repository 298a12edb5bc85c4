import PinnedSessions.Binary
import PinnedSessions.Decimal.Numeral

/-! # Reading binary numbers from decimal text

The grammar is an optional sign, then one of `inf`, `infinity` and `nan` in any case, or digits with
an optional point (at least one digit beside it) and an optional exponent. The number read is the
one nearest to the decimal, ties to even; what is too large is infinite.
-/

namespace PinnedSessions.Decimal

open PinnedSessions.Binary (Double)

/-- The double nearest to `± n · 10 ^ e`. -/
def nearestDouble (negative : Bool) (n : Nat) (e : Int) : Double :=
  let size : Int := (digits n).length
  if n = 0 ∨ size + e < -400 then .ofRatio negative 0 1
  else if 400 < size + e then .ofDatum (.infinite negative)
  else if 0 ≤ e then .ofRatio negative (n * Nat.pow 10 e.toNat) 1
  else .ofRatio negative n (Nat.pow 10 (-e).toNat)

/-- A sign if there is one: whether it is a minus, and the rest. -/
def splitSign : List Char → Bool × List Char
  | '-' :: cs => (true, cs)
  | '+' :: cs => (false, cs)
  | cs => (false, cs)

/-- An exponent, or nothing at all: its value. -/
def readExponent? : List Char → Option Int
  | [] => some 0
  | c :: cs =>
    if c = 'e' ∨ c = 'E' then
      let (negative, ds) := splitSign cs
      if isDigits ds then some (if negative then -(natural ds : Int) else natural ds) else none
    else none

/-- Digits with an optional point, and what follows them: the digits on both sides. -/
def splitPoint (cs : List Char) : List Char × List Char × List Char :=
  let whole := cs.takeWhile Char.isDigit
  match cs.dropWhile Char.isDigit with
  | '.' :: rest => (whole, rest.takeWhile Char.isDigit, rest.dropWhile Char.isDigit)
  | rest => (whole, [], rest)

/-- Read a number. -/
def readDouble? (cs : List Char) : Option Double :=
  let (negative, body) := splitSign cs
  let word := body.map Char.toLower
  if word = "inf".toList ∨ word = "infinity".toList then some (.ofDatum (.infinite negative))
  else if word = "nan".toList then some (.ofDatum .nan)
  else
    let (whole, fraction, rest) := splitPoint body
    if whole.isEmpty && fraction.isEmpty then none
    else (readExponent? rest).map fun e =>
      nearestDouble negative (natural (whole ++ fraction)) (e - fraction.length)

end PinnedSessions.Decimal
