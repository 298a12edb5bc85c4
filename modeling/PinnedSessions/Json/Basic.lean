import PinnedSessions.Decimal.Numeral

/-! # JSON texts as trees

A tree keeps what a reader of one value can see and nothing else:

* members in the order written, repeated keys included;
* a number as its numeral, so that `1`, `1.0` and `1e0` stay apart;
* a string as the text it stands for, or `none` when its escapes name a lone surrogate, which no
  text holds. Such a string is well written and can be skipped, but never read.
-/

namespace PinnedSessions

/-- A JSON text as a tree. -/
inductive Json where
  | null
  | bool (b : Bool)
  | number (x : Decimal.Numeral)
  | string (s : Option String)
  | array (items : List Json)
  | object (members : List (Option String × Json))
deriving Inhabited

namespace Json

/-- A readable string. -/
def text (s : String) : Json := .string (some s)

/-- An integer. -/
def int (n : Int) : Json := .number (.ofInt n)

/-- An object with readable keys. -/
def ofMembers (ms : List (String × Json)) : Json := .object (ms.map fun m => (some m.1, m.2))

/-! ### Reading one value out of a tree -/

/-- The flag. -/
def bool? : Json → Option Bool
  | .bool b => some b
  | _ => none

/-- The text of a readable string. -/
def text? : Json → Option String
  | .string s => s
  | _ => none

/-- The integer, if it is written as one and lies between the bounds. -/
def int? (low high : Int) : Json → Option Int
  | .number x =>
    match x.toInt? with
    | some n => if low ≤ n ∧ n ≤ high then some n else none
    | none => none
  | _ => none

/-- The items, each read by `read`. -/
def items? {α : Type} (read : Json → Option α) : Json → Option (List α)
  | .array xs => xs.mapM read
  | _ => none

end Json

end PinnedSessions
