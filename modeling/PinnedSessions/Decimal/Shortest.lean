import PinnedSessions.Binary
import PinnedSessions.Decimal.Numeral

/-! # The shortest decimal that reads back

A finite binary number is written with the fewest digits that still round to it. Every real number
between the middles of the gaps to its neighbours rounds to it, and the middles themselves do iff
its significand is even. `shortest` looks at ever finer decimal grids: on each grid only the two
grid points next to the number can lie in that interval, the nearer one is taken, and the first grid
with such a point wins.

How the digits are laid out is a `Notation`: the range of magnitudes that are written without an
exponent, and whether an exponent that is not negative has a plus. A written number always has a
digit on both sides of the point, or an exponent, which reads back as the one that was meant
(`Notation.value_exponent`).
-/

namespace PinnedSessions.Decimal

open PinnedSessions.Binary (Format Datum)

/-- Which of two equally near decimals is taken. -/
inductive Tie where
  /-- The larger one. -/
  | up
  /-- The one whose last digit is even. -/
  | even
deriving DecidableEq

/-- How finite numbers are laid out; `0.d₁d₂… · 10 ^ p` is written without an exponent for `p` from
`least` to `greatest`. -/
structure Notation where
  least : Int
  greatest : Int
  /-- Whether a plus is written in front of an exponent that is not negative. -/
  writesPlus : Bool
  tie : Tie

/-- The digits `d₁d₂…` and the `p` of `0.d₁d₂… · 10 ^ p`. -/
structure Digits where
  digits : List Char
  point : Int
deriving DecidableEq, Repr

/-- The position of the point of `num / den`: the `p` with `10 ^ (p - 1) ≤ num / den < 10 ^ p`. -/
def pointOf (num den : Nat) : Int :=
  let guess : Int := ((digits num).length : Int) - (digits den).length
  let reaches :=
    if 0 ≤ guess then den * Nat.pow 10 guess.toNat ≤ num
    else den ≤ num * Nat.pow 10 (-guess).toNat
  if reaches then guess + 1 else guess

/-- Without the zeros at the end of a list of digits. -/
def dropFinalZeros (ds : List Char) : List Char := (ds.reverse.dropWhile (· == '0')).reverse

/-- The integer between the bounds, closed or open, that is nearest to `num / den`, if one of its
two neighbours lies between them. The bounds are over the same denominator. -/
def nearestBetween (tie : Tie) (closed : Bool) (lower num upper den : Nat) : Option Nat :=
  let between (x : Nat) :=
    if closed then decide (lower ≤ x * den) && decide (x * den ≤ upper)
    else decide (lower < x * den) && decide (x * den < upper)
  let below := num / den
  let above := below + 1
  let rest := num - below * den
  match between below, between above with
  | true, true =>
    if 2 * rest < den then some below
    else if den < 2 * rest then some above
    else match tie with
      | .up => some above
      | .even => if below % 2 = 0 then some below else some above
  | true, false => some below
  | false, true => some above
  | false, false => none

/-- Search the grids of `count`, `count + 1`, … digits, at most `fuel` of them. -/
def searchGrids (tie : Tie) (closed : Bool) (lower num upper den : Nat) (point : Int) :
    Nat → Nat → Nat × Int
  | 0, _ => (num / den, point)
  | fuel + 1, count =>
    let shift := point - count
    let up := if 0 ≤ shift then 1 else Nat.pow 10 (-shift).toNat
    let down := if 0 ≤ shift then Nat.pow 10 shift.toNat else 1
    match nearestBetween tie closed (lower * up) (num * up) (upper * up) (den * down) with
    | some x => (x, shift)
    | none => searchGrids tie closed lower num upper den point fuel (count + 1)

/-- The shortest digits of `m · 2 ^ e`, for `m` not zero. -/
def shortest (f : Format) (tie : Tie) (m : Nat) (e : Int) : Digits :=
  let atBoundary := m == Nat.pow 2 f.fractionBits && decide (f.minExponent < e)
  let scale (x : Nat) := if 2 ≤ e then x * Nat.pow 2 (e - 2).toNat else x
  let den := if 2 ≤ e then 1 else Nat.pow 2 (2 - e).toNat
  let num := scale (4 * m)
  let lower := scale (if atBoundary then 4 * m - 1 else 4 * m - 2)
  let upper := scale (4 * m + 2)
  let (x, shift) := searchGrids tie (m % 2 == 0) lower num upper den (pointOf num den) 20 1
  let ds := digits x
  ⟨dropFinalZeros ds, ds.length + shift⟩

/-- The written form of an exponent. -/
def Notation.exponent (n : Notation) (e : Int) : Exponent :=
  ⟨if e < 0 then .minus else if n.writesPlus then .plus else .unsigned, digits e.natAbs⟩

@[simp] theorem Notation.value_exponent (n : Notation) (e : Int) : (n.exponent e).value = e := by
  simp only [Notation.exponent, Exponent.value, natural_digits]
  by_cases h : e < 0
  · simp only [h, if_true]; omega
  · cases n.writesPlus <;> simp [h] <;> omega

/-- Lay digits out. -/
def Notation.layOut (n : Notation) (negative : Bool) (d : Digits) : Numeral :=
  let size : Int := d.digits.length
  if n.least ≤ d.point ∧ d.point ≤ n.greatest then
    if d.point ≤ 0 then
      ⟨negative, ['0'], some (List.replicate (-d.point).toNat '0' ++ d.digits), none⟩
    else if size ≤ d.point then
      ⟨negative, d.digits ++ List.replicate (d.point - size).toNat '0', some ['0'], none⟩
    else
      ⟨negative, d.digits.take d.point.toNat, some (d.digits.drop d.point.toNat), none⟩
  else
    let tail := d.digits.drop 1
    ⟨negative, d.digits.take 1, if tail.isEmpty then none else some tail,
      some (n.exponent (d.point - 1))⟩

/-- The numeral of a finite number; `none` if it is not finite. -/
def Notation.numeral? (n : Notation) (f : Format) : Datum → Option Numeral
  | .finite negative m e =>
    if m = 0 then some ⟨negative, ['0'], some ['0'], none⟩
    else some (n.layOut negative (shortest f n.tie m e))
  | _ => none

end PinnedSessions.Decimal
