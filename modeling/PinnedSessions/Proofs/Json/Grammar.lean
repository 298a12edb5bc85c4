import PinnedSessions.Json.Parser

/-! # The grammar of JSON texts

What a text stands for, stated without a reader: `Spelled j cs` says that the characters `cs` are a
JSON text of the tree `j`. One tree has many texts. Blanks may stand around every token, a character
of a string may be written as itself or escaped in several ways, and the mark of an exponent has two
cases; everything else about a text is fixed by its tree.

* `SpellsPieces` and `SpellsString` are the inside of a string and the string with its quotes.
* `SpellsNumber` is a number; `Decimal.Numeral.Proper` says which numerals have a text at all.
* `Spells` is a value, the items of an array up to its bracket, or the members of an object up to
  its brace, by one induction over all three. -/

namespace PinnedSessions

open Decimal (Exponent Numeral)

/-! ### Numerals -/

namespace Json

/-- One digit or more. -/
structure Digits (ds : List Char) : Prop where
  ne_nil : ds ≠ []
  isDigit : ∀ c ∈ ds, c.isDigit = true

/-- Digits with no zero in front, or a zero alone. -/
structure Whole (ds : List Char) : Prop extends Digits ds where
  leading : ∀ rest, ds = '0' :: rest → rest = []

end Json

/-- A numeral that can be written. -/
structure Decimal.Numeral.Proper (x : Numeral) : Prop where
  whole : Json.Whole x.whole
  fraction : ∀ ds, x.fraction = some ds → Json.Digits ds
  exponent : ∀ e, x.exponent = some e → Json.Digits e.digits

namespace Json

/-- The text of an exponent, with either mark, or of none. -/
inductive SpellsExponent : Option Exponent → List Char → Prop
  | absent : SpellsExponent none []
  | marked {mark : Char} (e : Exponent) (hm : mark = 'e' ∨ mark = 'E') :
      SpellsExponent (some e) (mark :: (e.sign.text ++ e.digits))

/-- The text of the digits behind a point, with the point, or of none. -/
def fractionText : Option (List Char) → List Char
  | none => []
  | some ds => '.' :: ds

/-- The text of a number. -/
inductive SpellsNumber : Numeral → List Char → Prop
  | mk {x : Numeral} {es : List Char} (h : x.Proper) (he : SpellsExponent x.exponent es) :
      SpellsNumber x
        ((if x.negative then ['-'] else []) ++ (x.whole ++ (fractionText x.fraction ++ es)))

/-! ### Strings -/

/-- The inside of a string. A character that is neither a control, a quote nor a backslash may stand
for itself. -/
inductive SpellsPieces : List Piece → List Char → Prop
  | done : SpellsPieces [] []
  | plain {c : Char} {ps : List Piece} {cs : List Char} (hc : ¬ c.toNat < 0x20) (hq : c ≠ '"')
      (hb : c ≠ '\\') (h : SpellsPieces ps cs) : SpellsPieces (.char c :: ps) (c :: cs)
  | escaped {c d : Char} {ps : List Piece} {cs : List Char} (hc : simpleEscape? c = some d)
      (h : SpellsPieces ps cs) : SpellsPieces (.char d :: ps) ('\\' :: c :: cs)
  | coded {a b c d : Char} {n : Nat} {ps : List Piece} {cs : List Char}
      (hn : readHex4 [a, b, c, d] = some (n, [])) (h : SpellsPieces ps cs) :
      SpellsPieces (Piece.ofUnit n :: ps) ('\\' :: 'u' :: a :: b :: c :: d :: cs)

/-- A string with its quotes. -/
inductive SpellsString : Option String → List Char → Prop
  | mk {ps : List Piece} {cs : List Char} (h : SpellsPieces ps cs) :
      SpellsString ((joinPieces ps).map String.ofList) ('"' :: (cs ++ ['"']))

/-! ### Values -/

/-- A blank between tokens. -/
def IsBlank (c : Char) : Prop := c = ' ' ∨ c = '\n' ∨ c = '\t' ∨ c = '\r'

/-- Nothing but blanks. -/
def Blanks (cs : List Char) : Prop := ∀ c ∈ cs, IsBlank c

/-- A key with its colon. -/
inductive SpellsKey : Option String → List Char → Prop
  | mk {k : Option String} {as cs bs : List Char} (ha : Blanks as) (h : SpellsString k cs)
      (hb : Blanks bs) : SpellsKey k (as ++ (cs ++ (bs ++ [':'])))

/-- What a stretch of a text stands for. -/
inductive Phrase where
  | value (j : Json)
  /-- The items of an array that has some, with its closing bracket. -/
  | items (xs : List Json)
  /-- The members of an object that has some, with its closing brace. -/
  | members (ms : List (Option String × Json))

/-- The text of a phrase. A value has no blanks around it. -/
inductive Spells : Phrase → List Char → Prop
  | null : Spells (.value .null) ['n', 'u', 'l', 'l']
  | yes : Spells (.value (.bool true)) ['t', 'r', 'u', 'e']
  | no : Spells (.value (.bool false)) ['f', 'a', 'l', 's', 'e']
  | number {x : Numeral} {cs : List Char} (h : SpellsNumber x cs) : Spells (.value (.number x)) cs
  | string {s : Option String} {cs : List Char} (h : SpellsString s cs) :
      Spells (.value (.string s)) cs
  | noItems {as : List Char} (ha : Blanks as) : Spells (.value (.array [])) ('[' :: (as ++ [']']))
  | array {xs : List Json} {cs : List Char} (h : Spells (.items xs) cs) :
      Spells (.value (.array xs)) ('[' :: cs)
  | noMembers {as : List Char} (ha : Blanks as) :
      Spells (.value (.object [])) ('\x7b' :: (as ++ ['\x7d']))
  | object {ms : List (Option String × Json)} {cs : List Char} (h : Spells (.members ms) cs) :
      Spells (.value (.object ms)) ('\x7b' :: cs)
  | lastItem {x : Json} {as cs bs : List Char} (ha : Blanks as) (h : Spells (.value x) cs)
      (hb : Blanks bs) : Spells (.items [x]) (as ++ (cs ++ (bs ++ [']'])))
  | item {x : Json} {xs : List Json} {as cs bs ds : List Char} (ha : Blanks as)
      (h : Spells (.value x) cs) (hb : Blanks bs) (hs : Spells (.items xs) ds) :
      Spells (.items (x :: xs)) (as ++ (cs ++ (bs ++ ',' :: ds)))
  | lastMember {k : Option String} {x : Json} {ks as cs bs : List Char} (hk : SpellsKey k ks)
      (ha : Blanks as) (h : Spells (.value x) cs) (hb : Blanks bs) :
      Spells (.members [(k, x)]) (ks ++ (as ++ (cs ++ (bs ++ ['\x7d']))))
  | member {k : Option String} {x : Json} {ms : List (Option String × Json)}
      {ks as cs bs ds : List Char} (hk : SpellsKey k ks) (ha : Blanks as)
      (h : Spells (.value x) cs) (hb : Blanks bs) (hs : Spells (.members ms) ds) :
      Spells (.members ((k, x) :: ms)) (ks ++ (as ++ (cs ++ (bs ++ ',' :: ds))))

/-- A whole text: a value with blanks around it. -/
inductive Spelled : Json → List Char → Prop
  | mk {j : Json} {as cs bs : List Char} (ha : Blanks as) (h : Spells (.value j) cs)
      (hb : Blanks bs) : Spelled j (as ++ (cs ++ bs))

end Json

end PinnedSessions
