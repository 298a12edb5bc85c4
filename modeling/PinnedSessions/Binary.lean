/-! # Binary floating point

Numbers of the two interchange formats of binary floating point, kept as the words that encode them.

* A word is a sign bit, an exponent field and a fraction field; `Format.decode` reads it as a datum:
  not a number, an infinity, or `± m · 2 ^ e`.
* `Format.round` gives the word nearest to a quotient of naturals, ties to the even word, and
  infinity from half a unit above the largest finite number on.
* Two data are equal as numbers are: nothing equals what is not a number, and both zeros are equal.

All arithmetic is on naturals; the hardware's is not used.
-/

namespace PinnedSessions.Binary

/-- A format: the widths of its fraction and exponent fields. -/
structure Format where
  fractionBits : Nat
  exponentBits : Nat

/-- The 32-bit format. -/
def Format.single : Format := ⟨23, 8⟩

/-- The 64-bit format. -/
def Format.double : Format := ⟨52, 11⟩

/-- What a word stands for. -/
inductive Datum where
  /-- Not a number. -/
  | nan
  | infinite (negative : Bool)
  /-- The number `± m · 2 ^ e`; a zero keeps its sign. -/
  | finite (negative : Bool) (m : Nat) (e : Int)
deriving DecidableEq, Repr

namespace Format

variable (f : Format)

/-- The exponent of the last place of the smallest numbers. -/
def minExponent : Int := 2 - Nat.pow 2 (f.exponentBits - 1) - f.fractionBits

/-- The word of positive infinity. -/
def infinity : Nat := (Nat.pow 2 f.exponentBits - 1) * Nat.pow 2 f.fractionBits

/-- The sign bit alone. -/
def signBit : Nat := Nat.pow 2 (f.exponentBits + f.fractionBits)

/-- The word that stands for every not-a-number. -/
def quietNan : Nat := f.infinity + Nat.pow 2 (f.fractionBits - 1)

/-- A word of the given sign and magnitude. -/
def signed (negative : Bool) (magnitude : Nat) : Nat :=
  if negative then f.signBit + magnitude else magnitude

/-- Read a word. -/
def decode (word : Nat) : Datum :=
  let negative := word / f.signBit % 2 == 1
  let field := word / Nat.pow 2 f.fractionBits % Nat.pow 2 f.exponentBits
  let fraction := word % Nat.pow 2 f.fractionBits
  if field = Nat.pow 2 f.exponentBits - 1 then
    if fraction = 0 then .infinite negative else .nan
  else if field = 0 then .finite negative fraction f.minExponent
  else .finite negative (Nat.pow 2 f.fractionBits + fraction) (f.minExponent + (field - 1 : Nat))

/-- The integer nearest to `num / den`, ties to even. -/
def nearest (num den : Nat) : Nat :=
  let q := num / den
  let twice := 2 * (num % den)
  if twice < den then q else if den < twice then q + 1 else q + q % 2

/-- `num / den` in units of `2 ^ e`, as a quotient of naturals. -/
def scaled (num den : Nat) (e : Int) : Nat × Nat :=
  if 0 ≤ e then (num, den * Nat.pow 2 e.toNat) else (num * Nat.pow 2 (-e).toNat, den)

/-- The exponent of the last place that `num / den` has in this format. -/
def lastPlace (num den : Nat) : Int :=
  let guess : Int := (Nat.log2 num : Int) - Nat.log2 den - f.fractionBits - 1
  let (n, d) := scaled num den guess
  let e := if n / d < Nat.pow 2 (f.fractionBits + 1) then guess else guess + 1
  if e < f.minExponent then f.minExponent else e

/-- The word nearest to `± num / den`. -/
def round (negative : Bool) (num den : Nat) : Nat :=
  if num = 0 || den = 0 then f.signed negative 0
  else
    let e := f.lastPlace num den
    let (n, d) := scaled num den e
    let magnitude := (e - f.minExponent).toNat * Nat.pow 2 f.fractionBits + nearest n d
    f.signed negative (min magnitude f.infinity)

/-- The word nearest to a datum. -/
def encode : Datum → Nat
  | .nan => f.quietNan
  | .infinite negative => f.signed negative f.infinity
  | .finite negative m e =>
    if 0 ≤ e then f.round negative (m * Nat.pow 2 e.toNat) 1
    else f.round negative m (Nat.pow 2 (-e).toNat)

end Format

/-- Equality of numbers: not-a-number equals nothing, the zeros are equal. -/
def Datum.eq : Datum → Datum → Bool
  | .infinite s, .infinite t => s == t
  | .finite s m e, .finite t n g => (m == 0 && n == 0) || (s == t && m == n && e == g)
  | _, _ => false

/-- A 32-bit number, by its word. -/
structure Single where
  bits : UInt32
deriving DecidableEq, Repr, Inhabited

/-- A 64-bit number, by its word. -/
structure Double where
  bits : UInt64
deriving DecidableEq, Repr, Inhabited

namespace Single

/-- What the word stands for. -/
def datum (x : Single) : Datum := Format.single.decode x.bits.toNat

/-- The nearest 32-bit number. -/
def ofDatum (d : Datum) : Single := ⟨(Format.single.encode d).toUInt32⟩

/-- The 32-bit number nearest to `± num / den`. -/
def ofRatio (negative : Bool) (num den : Nat) : Single :=
  ⟨(Format.single.round negative num den).toUInt32⟩

/-- Whether the word stands for no number. -/
def isNan (x : Single) : Bool := x.datum == .nan

/-- Equality as numbers. -/
def eq (x y : Single) : Bool := x.datum.eq y.datum

/-- The same number in 64 bits. -/
def toDouble (x : Single) : Double := ⟨(Format.double.encode x.datum).toUInt64⟩

end Single

namespace Double

/-- What the word stands for. -/
def datum (x : Double) : Datum := Format.double.decode x.bits.toNat

/-- The nearest 64-bit number. -/
def ofDatum (d : Datum) : Double := ⟨(Format.double.encode d).toUInt64⟩

/-- The 64-bit number nearest to `± num / den`. -/
def ofRatio (negative : Bool) (num den : Nat) : Double :=
  ⟨(Format.double.round negative num den).toUInt64⟩

/-- Whether the word stands for no number. -/
def isNan (x : Double) : Bool := x.datum == .nan

/-- Whether the word stands for a number. -/
def isFinite (x : Double) : Bool :=
  match x.datum with
  | .finite .. => true
  | _ => false

/-- Equality as numbers. -/
def eq (x y : Double) : Bool := x.datum.eq y.datum

/-- The nearest 32-bit number. -/
def toSingle (x : Double) : Single := Single.ofDatum x.datum

/-- The number `± num / den` scaled by a power of two, rounded once. -/
def ofScaled (negative : Bool) (num den : Nat) (e : Int) : Double :=
  if 0 ≤ e then ofRatio negative (num * Nat.pow 2 e.toNat) den
  else ofRatio negative num (den * Nat.pow 2 (-e).toNat)

/-- The product of two magnitudes, rounded. -/
def mul (x y : Double) : Double :=
  match x.datum, y.datum with
  | .finite s m e, .finite t n g => ofScaled (s != t) (m * n) 1 (e + g)
  | .infinite s, .finite t n _ => if n = 0 then ofDatum .nan else ofDatum (.infinite (s != t))
  | .finite s m _, .infinite t => if m = 0 then ofDatum .nan else ofDatum (.infinite (s != t))
  | .infinite s, .infinite t => ofDatum (.infinite (s != t))
  | _, _ => ofDatum .nan

/-- The quotient of two numbers, rounded; the divisor's zero gives an infinity. -/
def div (x y : Double) : Double :=
  match x.datum, y.datum with
  | .finite s m e, .finite t n g =>
    if n = 0 then if m = 0 then ofDatum .nan else ofDatum (.infinite (s != t))
    else ofScaled (s != t) m n (e - g)
  | .infinite s, .finite t _ _ => ofDatum (.infinite (s != t))
  | .finite s _ _, .infinite t => ofRatio (s != t) 0 1
  | _, _ => ofDatum .nan

/-- The number of the other sign. -/
def neg (x : Double) : Double := ⟨x.bits ^^^ 0x8000000000000000⟩

end Double

end PinnedSessions.Binary
