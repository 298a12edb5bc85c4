import PinnedSessions.Binary

/-! # Guest values

A `Value` is what crosses the boundary between a host program and an interpreter context: null,
scalars of their native width, text, arrays of one element type, and references to objects and
classes on the other side. `Kind` names the shapes, both to say what a value is and what a caller
asks for.

`Value.eq` is equality as the host sees it: numbers are compared as numbers, so a value that holds a
not-a-number differs from itself, and the two zeros are equal.
-/

namespace PinnedSessions

open Binary (Single Double)

/-- An object on the guest's side. -/
structure ObjectRef where
  id : UInt64
  typeName : String
deriving DecidableEq, Repr, Inhabited

/-- A host type that guest code may use, by its qualified name. -/
structure ClassRef where
  qualifiedName : String
deriving DecidableEq, Repr, Inhabited

/-- A value crossing the boundary. -/
inductive Value where
  /-- The guest's null. -/
  | none
  | bool (b : Bool)
  | byte (n : Int8)
  | short (n : Int16)
  | int (n : Int32)
  | long (n : Int64)
  | float (x : Single)
  | double (x : Double)
  | str (s : String)
  | boolArray (bs : List Bool)
  /-- A byte buffer, whose elements are unsigned. -/
  | byteArray (bs : List UInt8)
  | shortArray (ns : List Int16)
  | intArray (ns : List Int32)
  | longArray (ns : List Int64)
  | floatArray (xs : List Single)
  | doubleArray (xs : List Double)
  | object (ref : ObjectRef)
  | cls (ref : ClassRef)
deriving DecidableEq, Inhabited

/-- The shape of a value. -/
inductive Kind where
  | none | bool | byte | short | int | long | float | double | str
  | boolArray | byteArray | shortArray | intArray | longArray | floatArray | doubleArray
  | object | cls
deriving DecidableEq, Repr, Inhabited

/-- The name of a kind in messages. -/
def Kind.name : Kind → String
  | .none => "None"
  | .bool => "bool"
  | .byte => "byte"
  | .short => "short"
  | .int => "int"
  | .long => "long"
  | .float => "float"
  | .double => "double"
  | .str => "str"
  | .boolArray => "bool[]"
  | .byteArray => "bytes"
  | .shortArray => "short[]"
  | .intArray => "int[]"
  | .longArray => "long[]"
  | .floatArray => "float[]"
  | .doubleArray => "double[]"
  | .object => "object"
  | .cls => "class"

namespace Value

/-- What a value is. -/
def kind : Value → Kind
  | .none => .none
  | .bool _ => .bool
  | .byte _ => .byte
  | .short _ => .short
  | .int _ => .int
  | .long _ => .long
  | .float _ => .float
  | .double _ => .double
  | .str _ => .str
  | .boolArray _ => .boolArray
  | .byteArray _ => .byteArray
  | .shortArray _ => .shortArray
  | .intArray _ => .intArray
  | .longArray _ => .longArray
  | .floatArray _ => .floatArray
  | .doubleArray _ => .doubleArray
  | .object _ => .object
  | .cls _ => .cls

/-- The integer of an integral scalar. -/
def integer? : Value → Option Int
  | .byte n => some n.toInt
  | .short n => some n.toInt
  | .int n => some n.toInt
  | .long n => some n.toInt
  | _ => Option.none

/-- The object that a value refers to. -/
def reference? : Value → Option ObjectRef
  | .object ref => some ref
  | _ => Option.none

/-- Equality as the host sees it. -/
def eq : Value → Value → Bool
  | .float x, .float y => x.eq y
  | .double x, .double y => x.eq y
  | .floatArray xs, .floatArray ys =>
    xs.length == ys.length && (xs.zip ys).all fun p => p.1.eq p.2
  | .doubleArray xs, .doubleArray ys =>
    xs.length == ys.length && (xs.zip ys).all fun p => p.1.eq p.2
  | v, w => decide (v = w)

end Value

end PinnedSessions
