import PinnedSessions.Guest.Serial
import PinnedSessions.Proofs.Json.Writing

/-! # Values read back from their JSON

A value without floating-point numbers is read back from its JSON text as it was, and so are
references to objects and classes; two such values never share a text (`jsonText_exact`).

The proof has two halves that know nothing of each other. A tree is read back from its text because
its numbers are integers (`Value.proper_toJson`), and a value from its tree because each reader
undoes its writer (`Value.ofJson?_toJson`). -/

namespace PinnedSessions

namespace Json

/-! ### Trees that are written -/

theorem proper_int (n : Int) : (int n).Proper := .number (proper_ofInt n)

theorem proper_text (s : String) : (text s).Proper := .string _

theorem proper_map {α : Type} {write : α → Json} (h : ∀ x, (write x).Proper) (xs : List α) :
    (array (xs.map write)).Proper := by
  refine .array fun j hj => ?_
  obtain ⟨x, -, rfl⟩ := List.mem_map.1 hj
  exact h x

theorem proper_ofMembers {ms : List (String × Json)} (h : ∀ m ∈ ms, m.2.Proper) :
    (ofMembers ms).Proper := by
  refine .object fun m hm => ?_
  obtain ⟨n, hn, rfl⟩ := List.mem_map.1 hm
  exact h n hn

/-! ### Readers and writers of parts -/

theorem int?_int {low high n : Int} (hl : low ≤ n) (hh : n ≤ high) :
    (int n).int? low high = some n := by
  rw [int, int?, Decimal.Numeral.toInt?_ofInt]
  exact if_pos ⟨hl, hh⟩

theorem text?_text (s : String) : (text s).text? = some s := rfl

theorem bool?_bool (b : Bool) : (Json.bool b).bool? = some b := rfl

/-- A list is read back if each of its items is. -/
theorem items?_map {α : Type} {read : Json → Option α} {write : α → Json}
    (h : ∀ x, read (write x) = some x) (xs : List α) :
    (array (xs.map write)).items? read = some xs := by
  rw [items?]
  induction xs with
  | nil => rfl
  | cons x xs ih =>
      rw [List.map_cons, List.mapM_cons, h x, ih]
      rfl

end Json

/-! ### References -/

theorem ObjectRef.proper_toJson (ref : ObjectRef) : ref.toJson.Proper := by
  refine Json.proper_ofMembers fun m hm => ?_
  simp only [List.mem_cons, List.not_mem_nil, or_false] at hm
  rcases hm with rfl | rfl
  · exact Json.proper_int _
  · exact Json.proper_text _

theorem ObjectRef.ofJson?_toJson (ref : ObjectRef) : ofJson? ref.toJson = some ref := by
  have hid : (Json.int ref.id.toNat).int? 0 0xFFFFFFFFFFFFFFFF = some (ref.id.toNat : Int) := by
    have := ref.id.toNat_lt
    exact Json.int?_int (by omega) (by omega)
  have hfields : ofFields? (.int ref.id.toNat) (.text ref.typeName) = some ref := by
    rw [ofFields?, hid]
    simp [Json.text, Json.text?]
  exact hfields

theorem ClassRef.proper_toJson (ref : ClassRef) : ref.toJson.Proper := Json.proper_text _

theorem ClassRef.ofJson?_toJson (ref : ClassRef) : ofJson? ref.toJson = some ref := rfl

/-! ### Values -/

namespace Value

/-- Whether a value holds no floating-point number. -/
def floatless : Value → Bool
  | .float _ => false
  | .double _ => false
  | .floatArray xs => xs.isEmpty
  | .doubleArray xs => xs.isEmpty
  | _ => true

theorem proper_tagged (shape : String) {content : Json} (h : content.Proper) :
    (tagged shape content).Proper := by
  refine Json.proper_ofMembers fun m hm => ?_
  cases List.mem_singleton.1 hm
  exact h

theorem proper_toJson {v : Value} (h : v.floatless = true) : v.toJson.Proper := by
  cases v with
  | none => exact .string _
  | bool b => exact proper_tagged _ (.bool b)
  | byte | short | int | long => exact proper_tagged _ (Json.proper_int _)
  | float | double => cases h
  | str s => exact proper_tagged _ (Json.proper_text s)
  | boolArray bs => exact proper_tagged _ (Json.proper_map .bool bs)
  | byteArray | shortArray | intArray | longArray =>
      exact proper_tagged _ (Json.proper_map (fun _ => Json.proper_int _) _)
  | floatArray xs | doubleArray xs =>
      cases List.isEmpty_iff.1 h
      exact proper_tagged _ (.array nofun)
  | object ref => exact proper_tagged _ ref.proper_toJson
  | cls ref => exact proper_tagged _ ref.proper_toJson

theorem readInt8?_int (n : Int8) : readInt8? (.int n.toInt) = some n := by
  rw [readInt8?, Json.int?_int n.minValue_le_toInt n.toInt_le, Option.map_some, Int8.ofInt_toInt]

theorem readInt16?_int (n : Int16) : readInt16? (.int n.toInt) = some n := by
  rw [readInt16?, Json.int?_int n.minValue_le_toInt n.toInt_le, Option.map_some, Int16.ofInt_toInt]

theorem readInt32?_int (n : Int32) : readInt32? (.int n.toInt) = some n := by
  rw [readInt32?, Json.int?_int n.minValue_le_toInt n.toInt_le, Option.map_some, Int32.ofInt_toInt]

theorem readInt64?_int (n : Int64) : readInt64? (.int n.toInt) = some n := by
  rw [readInt64?, Json.int?_int n.minValue_le_toInt n.toInt_le, Option.map_some, Int64.ofInt_toInt]

theorem readUInt8?_int (n : UInt8) : readUInt8? (.int n.toNat) = some n := by
  have hn := n.toNat_lt
  rw [readUInt8?, Json.int?_int (by omega) (by omega), Option.map_some, Int.toNat_natCast]
  exact congrArg some UInt8.ofNat_toNat

/-- A content that is read back is read back under a shape. -/
theorem ofTagged?_map {α : Type} {read : Json → Option α} {content : Json} {x : α}
    (h : read content = some x) (shape : α → Value) :
    (read content).map shape = some (shape x) := by
  rw [h, Option.map_some]

/-- A value is read back from its tree. -/
theorem ofJson?_toJson {v : Value} (h : v.floatless = true) : ofJson? v.toJson = some v := by
  cases v with
  | none | bool | str => rfl
  | byte n => exact ofTagged?_map (readInt8?_int n) .byte
  | short n => exact ofTagged?_map (readInt16?_int n) .short
  | int n => exact ofTagged?_map (readInt32?_int n) .int
  | long n => exact ofTagged?_map (readInt64?_int n) .long
  | float | double => cases h
  | boolArray bs => exact ofTagged?_map (Json.items?_map Json.bool?_bool bs) .boolArray
  | byteArray bs => exact ofTagged?_map (Json.items?_map readUInt8?_int bs) .byteArray
  | shortArray ns => exact ofTagged?_map (Json.items?_map readInt16?_int ns) .shortArray
  | intArray ns => exact ofTagged?_map (Json.items?_map readInt32?_int ns) .intArray
  | longArray ns => exact ofTagged?_map (Json.items?_map readInt64?_int ns) .longArray
  | floatArray xs | doubleArray xs =>
      cases List.isEmpty_iff.1 h
      rfl
  | object ref => exact ofTagged?_map ref.ofJson?_toJson .object
  | cls ref => exact ofTagged?_map ref.ofJson?_toJson .cls

/-- A value is read back from every text of its tree. -/
theorem ofJsonText?_of_spelled {v : Value} (h : v.floatless = true) {text : String}
    (ht : Json.Spelled v.toJson text.toList) : ofJsonText? text = some v := by
  rw [ofJsonText?, Json.parse_of_spelled ht, Option.bind_some, ofJson?_toJson h]

end Value

/-- What is written is read back. A value without floating-point numbers is what its text says, and
so is a reference; so no two of them have the same text. -/
theorem jsonText_exact :
    (∀ v : Value, v.floatless = true → Value.ofJsonText? v.jsonText = some v) ∧
    (∀ ref : ObjectRef, ObjectRef.ofJsonText? ref.toJson.compact = some ref) ∧
    (∀ ref : ClassRef, ClassRef.ofJsonText? ref.toJson.compact = some ref) ∧
    (∀ v w : Value, v.floatless = true → w.floatless = true → v.jsonText = w.jsonText → v = w) ∧
    (∀ ref ref' : ObjectRef, ref.toJson.compact = ref'.toJson.compact → ref = ref') ∧
    (∀ ref ref' : ClassRef, ref.toJson.compact = ref'.toJson.compact → ref = ref') := by
  have hvalue : ∀ v : Value, v.floatless = true → Value.ofJsonText? v.jsonText = some v :=
    fun v hv => Value.ofJsonText?_of_spelled hv (Json.spelled_compact (Value.proper_toJson hv))
  have hobject : ∀ ref : ObjectRef, ObjectRef.ofJsonText? ref.toJson.compact = some ref := by
    intro ref
    rw [ObjectRef.ofJsonText?, Json.parse_compact ref.proper_toJson, Option.bind_some,
      ref.ofJson?_toJson]
  have hclass : ∀ ref : ClassRef, ClassRef.ofJsonText? ref.toJson.compact = some ref := by
    intro ref
    rw [ClassRef.ofJsonText?, Json.parse_compact ref.proper_toJson, Option.bind_some,
      ref.ofJson?_toJson]
  refine ⟨hvalue, hobject, hclass, fun v w hv hw htext => ?_, fun ref ref' htext => ?_,
    fun ref ref' htext => ?_⟩
  · have hread := hvalue v hv
    rw [htext, hvalue w hw] at hread
    exact (Option.some.inj hread).symm
  · have hread := hobject ref
    rw [htext, hobject ref'] at hread
    exact (Option.some.inj hread).symm
  · have hread := hclass ref
    rw [htext, hclass ref'] at hread
    exact (Option.some.inj hread).symm

/-- The least word, the greatest number of an object and characters that are escaped come back, and
a byte never has the text of a short. -/
theorem jsonText_exact_extremes :
    (Value.longArray [Int64.minValue, Int64.maxValue]).floatless = true ∧
      Value.ofJsonText? (Value.longArray [Int64.minValue, Int64.maxValue]).jsonText =
        some (.longArray [Int64.minValue, Int64.maxValue]) ∧
      Value.ofJsonText? (Value.object ⟨0xFFFFFFFFFFFFFFFF, "\"\\\n\u0001é"⟩).jsonText =
        some (.object ⟨0xFFFFFFFFFFFFFFFF, "\"\\\n\u0001é"⟩) ∧
      (Value.byte 1).jsonText ≠ (Value.short 1).jsonText := by
  obtain ⟨hread, -, -, hinj, -⟩ := jsonText_exact
  refine ⟨rfl, hread _ rfl, hread _ rfl, fun htext => ?_⟩
  have heq := hinj (.byte 1) (.short 1) rfl rfl htext
  cases heq

end PinnedSessions
