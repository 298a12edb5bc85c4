import PinnedSessions.Decimal.Shortest
import PinnedSessions.Json.Magnitude
import PinnedSessions.Json.Parser
import PinnedSessions.Json.Printer
import PinnedSessions.Guest.Value

/-! # Values as JSON

A value other than null is an object with one member, whose key is the name of its shape; null is
the string `"None"`. Floating-point numbers have the shortest digits that read back, of two equally
near ones the even one, and an exponent always has a sign, as in `1e+16`. Those that are not finite
are written as JSON's null.

Reading accepts a little more than writing makes: null may also be an object with a null member, and
an object reference may be an object with its members in any order among unknown ones, or an array
of its two fields. A known member must not come twice, and integers must be written as integers.
-/

namespace PinnedSessions

open Binary (Format Datum Single Double)

/-- How 64-bit numbers are laid out in JSON. -/
def jsonDoubleNotation : Decimal.Notation := ⟨-4, 16, true, .even⟩

/-- How 32-bit numbers are laid out in JSON. -/
def jsonSingleNotation : Decimal.Notation := ⟨-5, 13, true, .even⟩

/-- A floating-point number in JSON. -/
def jsonNumber (n : Decimal.Notation) (f : Format) (d : Datum) : Json :=
  match n.numeral? f d with
  | some x => .number x
  | none => .null

/-- A 32-bit number in JSON. -/
def Single.toJson (x : Single) : Json := jsonNumber jsonSingleNotation .single x.datum

/-- A 64-bit number in JSON. -/
def Double.toJson (x : Double) : Json := jsonNumber jsonDoubleNotation .double x.datum

/-! ### Members of an object -/

/-- The value of the one member with a known key; `none` if there are several, and `some none` if
there is none. -/
def Json.member? (key : String) (ms : List (Option String × Json)) : Option (Option Json) :=
  match ms.filter fun m => m.1 = some key with
  | [] => some none
  | [m] => some (some m.2)
  | _ => none

/-- Whether every key can be read. -/
def Json.keysReadable (ms : List (Option String × Json)) : Bool := ms.all fun m => m.1.isSome

/-! ### References -/

namespace ObjectRef

/-- A reference as JSON. -/
def toJson (ref : ObjectRef) : Json :=
  .ofMembers [("id", .int ref.id.toNat), ("type_name", .text ref.typeName)]

/-- A reference from its two fields. -/
def ofFields? (id typeName : Json) : Option ObjectRef := do
  let n ← id.int? 0 0xFFFFFFFFFFFFFFFF
  let s ← typeName.text?
  pure ⟨n.toNat.toUInt64, s⟩

/-- Read a reference. -/
def ofJson? : Json → Option ObjectRef
  | .array [id, typeName] => ofFields? id typeName
  | .object ms =>
    if Json.keysReadable ms then
      match Json.member? "id" ms, Json.member? "type_name" ms with
      | some (some id), some (some typeName) => ofFields? id typeName
      | _, _ => none
    else none
  | _ => none

end ObjectRef

namespace ClassRef

/-- A class as JSON: its name. -/
def toJson (ref : ClassRef) : Json := .text ref.qualifiedName

/-- Read a class. -/
def ofJson? (j : Json) : Option ClassRef := j.text?.map ClassRef.mk

end ClassRef

/-! ### Values -/

namespace Value

/-- The name of a value's shape around its content. -/
def tagged (shape : String) (content : Json) : Json := .ofMembers [(shape, content)]

/-- A value as JSON. -/
def toJson : Value → Json
  | .none => .text "None"
  | .bool b => tagged "Bool" (.bool b)
  | .byte n => tagged "Byte" (.int n.toInt)
  | .short n => tagged "Short" (.int n.toInt)
  | .int n => tagged "Int" (.int n.toInt)
  | .long n => tagged "Long" (.int n.toInt)
  | .float x => tagged "Float" (Single.toJson x)
  | .double x => tagged "Double" (Double.toJson x)
  | .str s => tagged "Str" (.text s)
  | .boolArray bs => tagged "BoolArray" (.array (bs.map .bool))
  | .byteArray bs => tagged "ByteArray" (.array (bs.map fun b => .int b.toNat))
  | .shortArray ns => tagged "ShortArray" (.array (ns.map fun n => .int n.toInt))
  | .intArray ns => tagged "IntArray" (.array (ns.map fun n => .int n.toInt))
  | .longArray ns => tagged "LongArray" (.array (ns.map fun n => .int n.toInt))
  | .floatArray xs => tagged "FloatArray" (.array (xs.map Single.toJson))
  | .doubleArray xs => tagged "DoubleArray" (.array (xs.map Double.toJson))
  | .object ref => tagged "Object" ref.toJson
  | .cls ref => tagged "Class" ref.toJson

/-- An integer in the range of a byte. -/
def readInt8? (j : Json) : Option Int8 :=
  (j.int? Int8.minValue.toInt Int8.maxValue.toInt).map Int8.ofInt

/-- An integer in the range of a short. -/
def readInt16? (j : Json) : Option Int16 :=
  (j.int? Int16.minValue.toInt Int16.maxValue.toInt).map Int16.ofInt

/-- An integer in the range of an int. -/
def readInt32? (j : Json) : Option Int32 :=
  (j.int? Int32.minValue.toInt Int32.maxValue.toInt).map Int32.ofInt

/-- An integer in the range of a long. -/
def readInt64? (j : Json) : Option Int64 :=
  (j.int? Int64.minValue.toInt Int64.maxValue.toInt).map Int64.ofInt

/-- An integer in the range of an unsigned byte. -/
def readUInt8? (j : Json) : Option UInt8 := (j.int? 0 255).map fun n => n.toNat.toUInt8

/-- The value with a given shape and content. -/
def ofTagged? (shape : String) (content : Json) : Option Value :=
  match shape with
  | "None" => match content with
    | .null => some .none
    | _ => Option.none
  | "Bool" => content.bool?.map .bool
  | "Byte" => (readInt8? content).map .byte
  | "Short" => (readInt16? content).map .short
  | "Int" => (readInt32? content).map .int
  | "Long" => (readInt64? content).map .long
  | "Float" => content.single?.map .float
  | "Double" => content.double?.map .double
  | "Str" => content.text?.map .str
  | "BoolArray" => (content.items? Json.bool?).map .boolArray
  | "ByteArray" => (content.items? readUInt8?).map .byteArray
  | "ShortArray" => (content.items? readInt16?).map .shortArray
  | "IntArray" => (content.items? readInt32?).map .intArray
  | "LongArray" => (content.items? readInt64?).map .longArray
  | "FloatArray" => (content.items? Json.single?).map .floatArray
  | "DoubleArray" => (content.items? Json.double?).map .doubleArray
  | "Object" => (ObjectRef.ofJson? content).map .object
  | "Class" => (ClassRef.ofJson? content).map .cls
  | _ => Option.none

/-- Read a value. -/
def ofJson? : Json → Option Value
  | .string (some s) => if s = "None" then some .none else Option.none
  | .object [(some shape, content)] => ofTagged? shape content
  | _ => Option.none

end Value

/-- The JSON text of a value. -/
def Value.jsonText (v : Value) : String := v.toJson.compact

/-- Read a value from JSON text. -/
def Value.ofJsonText? (s : String) : Option Value := (Json.parse s.toList).bind Value.ofJson?

/-- Read an object reference from JSON text. -/
def ObjectRef.ofJsonText? (s : String) : Option ObjectRef :=
  (Json.parse s.toList).bind ObjectRef.ofJson?

/-- Read a class reference from JSON text. -/
def ClassRef.ofJsonText? (s : String) : Option ClassRef :=
  (Json.parse s.toList).bind ClassRef.ofJson?

end PinnedSessions
