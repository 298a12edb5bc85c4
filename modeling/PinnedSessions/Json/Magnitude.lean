import PinnedSessions.Json.Basic
import PinnedSessions.Binary

/-! # Binary numbers from JSON numbers

The digits of a number are gathered from the left as long as they fit into 64 bits; of the digits
left over, those before the point only raise the exponent. The significand is rounded to a double
and then scaled by one power of ten in double arithmetic (by several if the exponent is below -308).
So the result can differ from the nearest double in its last bits. A number that is too large is
refused.

An integer that fits into 64 bits with its sign is rounded to the target directly.
-/

namespace PinnedSessions.Json

open PinnedSessions.Binary (Single Double)
open PinnedSessions.Decimal (Numeral natural)

/-- The significand gathered so far and how many digits it took. -/
structure Gathered where
  significand : Nat
  taken : Nat

/-- Take digits as long as the significand fits into 64 bits. -/
def gather (g : Gathered) : List Char → Gathered
  | [] => g
  | d :: ds =>
    let next := g.significand * 10 + natural [d]
    if next < UInt64.size then gather ⟨next, g.taken + 1⟩ ds else g

/-- The double power of ten. -/
def powerOfTen (n : Nat) : Double := .ofRatio false (Nat.pow 10 n) 1

/-- Scale by a power of ten; `none` if the result is too large. -/
def scale (x : Double) (e : Int) : Nat → Option Double
  | 0 => some x
  | fuel + 1 =>
    if e.natAbs ≤ 308 then
      if 0 ≤ e then
        let y := x.mul (powerOfTen e.toNat)
        if y.isFinite then some y else none
      else some (x.div (powerOfTen e.natAbs))
    else if x.eq (.ofRatio false 0 1) then some x
    else if 0 ≤ e then none
    else scale (x.div (powerOfTen 308)) (e + 308) fuel

/-- The magnitude of a number with a point, an exponent, or more digits than 64 bits hold. -/
def magnitude? (x : Numeral) : Option Double :=
  let whole := gather ⟨0, 0⟩ x.whole
  let all := gather ⟨whole.significand, 0⟩ (x.fraction.getD [])
  let given : Int := match x.exponent with
    | none => 0
    | some e => e.value
  let e : Int := given + (x.whole.length - whole.taken : Nat) - all.taken
  scale (.ofRatio false all.significand 1) e 4

/-- The integer of a number that is written as one and fits into 64 bits with its sign. -/
def word? (x : Numeral) : Option Int :=
  match x.toInt? with
  | some n => if Int64.minValue.toInt ≤ n ∧ n ≤ 0xFFFFFFFFFFFFFFFF then some n else none
  | none => none

/-- The double that a number denotes. -/
def double? : Json → Option Double
  | .number x =>
    match word? x with
    | some n => some (.ofRatio (decide (n < 0)) n.natAbs 1)
    | none => (magnitude? x).map fun m => if x.negative then m.neg else m
  | _ => none

/-- The 32-bit number that a number denotes: an integer rounded once, any other by way of the
double. -/
def single? : Json → Option Single
  | .number x =>
    match word? x with
    | some n => some (.ofRatio (decide (n < 0)) n.natAbs 1)
    | none => (double? (.number x)).map Double.toSingle
  | _ => none

end PinnedSessions.Json
