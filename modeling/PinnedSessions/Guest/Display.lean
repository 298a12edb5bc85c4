import PinnedSessions.Decimal.Shortest
import PinnedSessions.Text.Quoted
import PinnedSessions.Guest.Value

/-! # Values for display

The text of a value names its shape and shows what it holds: `Int(3)`, `Str("a")`, `IntArray([1,
2])`, `Object(ObjectRef { id: 7, type_name: "list" })`; null is `None`. Numbers are shown with the
shortest digits that read back, of two equally near ones the larger, and with an exponent from
`1e16` on and below `1e-4`.
-/

namespace PinnedSessions

open Binary (Format Datum Single Double)

/-- How floating-point numbers are laid out for display. -/
def displayNotation : Decimal.Notation := ⟨-3, 16, false, .up⟩

/-- A floating-point number for display. -/
def displayNumber (f : Format) (d : Datum) : String :=
  match d with
  | .nan => "NaN"
  | .infinite negative => if negative then "-inf" else "inf"
  | .finite .. => match displayNotation.numeral? f d with
    | some x => String.ofList x.text
    | none => ""

/-- A flag for display. -/
def displayBool (b : Bool) : String := if b then "true" else "false"

/-- Texts between brackets, separated by commas. -/
def displayList (items : List String) : String := "[" ++ ", ".intercalate items ++ "]"

/-- The name of a shape around what a value holds. -/
def displayAs (shape content : String) : String := shape ++ "(" ++ content ++ ")"

/-- An object reference for display. -/
def ObjectRef.display (ref : ObjectRef) : String :=
  "ObjectRef \x7b id: " ++ Decimal.natText ref.id.toNat ++ ", type_name: " ++
    Text.quoted ref.typeName ++ " \x7d"

/-- A class reference for display. -/
def ClassRef.display (ref : ClassRef) : String :=
  displayAs "ClassRef" (Text.quoted ref.qualifiedName)

/-- A value for display. -/
def Value.display : Value → String
  | .none => "None"
  | .bool b => displayAs "Bool" (displayBool b)
  | .byte n => displayAs "Byte" (Decimal.intText n.toInt)
  | .short n => displayAs "Short" (Decimal.intText n.toInt)
  | .int n => displayAs "Int" (Decimal.intText n.toInt)
  | .long n => displayAs "Long" (Decimal.intText n.toInt)
  | .float x => displayAs "Float" (displayNumber .single x.datum)
  | .double x => displayAs "Double" (displayNumber .double x.datum)
  | .str s => displayAs "Str" (Text.quoted s)
  | .boolArray bs => displayAs "BoolArray" (displayList (bs.map displayBool))
  | .byteArray bs => displayAs "ByteArray" (displayList (bs.map fun b => Decimal.natText b.toNat))
  | .shortArray ns => displayAs "ShortArray" (displayList (ns.map fun n => Decimal.intText n.toInt))
  | .intArray ns => displayAs "IntArray" (displayList (ns.map fun n => Decimal.intText n.toInt))
  | .longArray ns => displayAs "LongArray" (displayList (ns.map fun n => Decimal.intText n.toInt))
  | .floatArray xs =>
    displayAs "FloatArray" (displayList (xs.map fun x => displayNumber .single x.datum))
  | .doubleArray xs =>
    displayAs "DoubleArray" (displayList (xs.map fun x => displayNumber .double x.datum))
  | .object ref => displayAs "Object" ref.display
  | .cls ref => displayAs "Class" ref.display

end PinnedSessions
