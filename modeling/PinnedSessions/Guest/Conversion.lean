import PinnedSessions.Guest.Value

/-! # Host types at the boundary

Injection turns every host value into exactly one guest value; scalars keep their width and a
character becomes a text of length one. Extraction asks for a kind and then checks the reply:

* an integer target accepts every integral scalar in its range;
* a double accepts a float as well, widened;
* a character accepts a text of exactly one character;
* an optional target reads null as absence and hands anything else to what it wraps;
* every other target accepts its own kind only.

The host types are a universe of codes, `Target` for those that can be extracted and `Source` for
those that can be injected; `Carrier` gives the type that a code stands for.
-/

namespace PinnedSessions

open Binary (Single Double)

/-- A host type that can be extracted. -/
inductive Target where
  | value | bool | int8 | int16 | int32 | int64 | single | double | char | string
  | bools | bytes | int16s | int32s | int64s | singles | doubles
  | object | cls
  | option (t : Target)
deriving DecidableEq, Repr

namespace Target

/-- The values of a target. -/
abbrev Carrier : Target → Type
  | .value => Value
  | .bool => Bool
  | .int8 => Int8
  | .int16 => Int16
  | .int32 => Int32
  | .int64 => Int64
  | .single => Single
  | .double => Double
  | .char => Char
  | .string => String
  | .bools => List Bool
  | .bytes => List UInt8
  | .int16s => List Int16
  | .int32s => List Int32
  | .int64s => List Int64
  | .singles => List Single
  | .doubles => List Double
  | .object => ObjectRef
  | .cls => ClassRef
  | .option t => Option t.Carrier

/-- The kind that an extraction asks for. -/
def kind : Target → Kind
  | .value => .object
  | .bool => .bool
  | .int8 => .byte
  | .int16 => .short
  | .int32 => .int
  | .int64 => .long
  | .single => .float
  | .double => .double
  | .char => .str
  | .string => .str
  | .bools => .boolArray
  | .bytes => .byteArray
  | .int16s => .shortArray
  | .int32s => .intArray
  | .int64s => .longArray
  | .singles => .floatArray
  | .doubles => .doubleArray
  | .object => .object
  | .cls => .cls
  | .option t => t.kind

/-- The guest value of a host value. -/
def inject : (t : Target) → t.Carrier → Value
  | .value, v => v
  | .bool, b => .bool b
  | .int8, n => .byte n
  | .int16, n => .short n
  | .int32, n => .int n
  | .int64, n => .long n
  | .single, x => .float x
  | .double, x => .double x
  | .char, c => .str (String.ofList [c])
  | .string, s => .str s
  | .bools, bs => .boolArray bs
  | .bytes, bs => .byteArray bs
  | .int16s, ns => .shortArray ns
  | .int32s, ns => .intArray ns
  | .int64s, ns => .longArray ns
  | .singles, xs => .floatArray xs
  | .doubles, xs => .doubleArray xs
  | .object, ref => .object ref
  | .cls, ref => .cls ref
  | .option t, x => match x with
    | some x => t.inject x
    | none => .none

end Target

/-- Why a guest value could not become a host value. -/
inductive ConversionFault where
  /-- The value has another kind. -/
  | mismatch (found wanted : Kind)
  | outOfRange (n : Int) (wanted : Kind)
  /-- A text of another length than one was to become a character. -/
  | notOneCharacter (count : Nat)
deriving DecidableEq, Repr

namespace Target

/-- An integral scalar within the bounds, as an element of `α`. -/
def extractInteger {α : Type} (wanted : Kind) (low high : Int) (ofInt : Int → α) (v : Value) :
    Except ConversionFault α :=
  match v.integer? with
  | none => .error (.mismatch v.kind wanted)
  | some n => if low ≤ n ∧ n ≤ high then .ok (ofInt n) else .error (.outOfRange n wanted)

/-- A text of one character. -/
def extractChar : Value → Except ConversionFault Char
  | .str s =>
    match s.toList with
    | [c] => .ok c
    | cs => .error (.notOneCharacter cs.length)
  | v => .error (.mismatch v.kind .str)

/-- The host value of a guest value. -/
def extract : (t : Target) → Value → Except ConversionFault t.Carrier
  | .value, v => .ok v
  | .bool, .bool b => .ok b
  | .int8, v => extractInteger .byte Int8.minValue.toInt Int8.maxValue.toInt Int8.ofInt v
  | .int16, v => extractInteger .short Int16.minValue.toInt Int16.maxValue.toInt Int16.ofInt v
  | .int32, v => extractInteger .int Int32.minValue.toInt Int32.maxValue.toInt Int32.ofInt v
  | .int64, v => extractInteger .long Int64.minValue.toInt Int64.maxValue.toInt Int64.ofInt v
  | .single, .float x => .ok x
  | .double, .double x => .ok x
  | .double, .float x => .ok x.toDouble
  | .char, v => extractChar v
  | .string, .str s => .ok s
  | .bools, .boolArray bs => .ok bs
  | .bytes, .byteArray bs => .ok bs
  | .int16s, .shortArray ns => .ok ns
  | .int32s, .intArray ns => .ok ns
  | .int64s, .longArray ns => .ok ns
  | .singles, .floatArray xs => .ok xs
  | .doubles, .doubleArray xs => .ok xs
  | .object, .object ref => .ok ref
  | .cls, .cls ref => .ok ref
  | .option _, .none => .ok none
  | .option t, v => (t.extract v).map some
  | t, v => .error (.mismatch v.kind t.kind)

@[simp] theorem extract_value (v : Value) : extract .value v = .ok v := rfl

@[simp] theorem extract_option_none (t : Target) : extract (.option t) .none = .ok none := rfl

end Target

/-- A host type that can be injected: every target, buffers of characters, and options of these. -/
inductive Source where
  | target (t : Target)
  /-- A buffer of characters, injected as one text. -/
  | chars
  | option (s : Source)
deriving DecidableEq, Repr

namespace Source

/-- The values of a source. -/
abbrev Carrier : Source → Type
  | .target t => t.Carrier
  | .chars => List Char
  | .option s => Option s.Carrier

/-- The guest value of a host value. -/
def inject : (s : Source) → s.Carrier → Value
  | .target t, x => t.inject x
  | .chars, cs => .str (String.ofList cs)
  | .option s, x => match x with
    | some x => s.inject x
    | none => .none

end Source

end PinnedSessions
