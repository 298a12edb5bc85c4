import PinnedSessions.Json.Basic

/-! # Reading JSON texts

The grammar is strict: blanks are the space, tab, line feed and carriage return; a number has no
leading zero, no leading plus and a digit on both sides of its point; a string holds no control
below the space; there is no trailing comma and nothing after the value. Nesting has no limit.

Each reader takes the rest of the text and gives what it read together with what follows. The
readers of values carry a bound on their depth, which `parse` sets to the length of the text.
-/

namespace PinnedSessions.Json

open PinnedSessions.Decimal (Exponent ExponentSign Numeral)

/-- What follows the blanks at the start. -/
def skipBlanks : List Char → List Char
  | [] => []
  | c :: cs => if c = ' ' ∨ c = '\n' ∨ c = '\t' ∨ c = '\r' then skipBlanks cs else c :: cs

/-- What follows a given text. -/
def expect : List Char → List Char → Option (List Char)
  | [], rest => some rest
  | _ :: _, [] => none
  | c :: cs, d :: ds => if c = d then expect cs ds else none

/-! ### Numbers -/

/-- The digits at the start, at least one, and the rest. -/
def readDigits (cs : List Char) : Option (List Char × List Char) :=
  let ds := cs.takeWhile Char.isDigit
  if ds.isEmpty then none else some (ds, cs.dropWhile Char.isDigit)

/-- The digits before the point: a zero alone, or digits that do not start with a zero. -/
def readWhole (cs : List Char) : Option (List Char × List Char) :=
  match readDigits cs with
  | some ('0' :: _ :: _, _) => none
  | r => r

/-- A point with the digits behind it, if there is a point. -/
def readFraction : List Char → Option (Option (List Char) × List Char)
  | '.' :: cs => (readDigits cs).map fun (ds, rest) => (some ds, rest)
  | cs => some (none, cs)

/-- The sign of an exponent, if it has one. -/
def readExponentSign : List Char → ExponentSign × List Char
  | '-' :: cs => (.minus, cs)
  | '+' :: cs => (.plus, cs)
  | cs => (.unsigned, cs)

/-- An exponent, if there is one. -/
def readExponent : List Char → Option (Option Exponent × List Char)
  | [] => some (none, [])
  | c :: cs =>
    if c = 'e' ∨ c = 'E' then
      let (sign, ds) := readExponentSign cs
      (readDigits ds).map fun (ds, rest) => (some ⟨sign, ds⟩, rest)
    else some (none, c :: cs)

/-- A number without its sign. -/
def readMagnitude (negative : Bool) (cs : List Char) : Option (Numeral × List Char) := do
  let (whole, cs) ← readWhole cs
  let (fraction, cs) ← readFraction cs
  let (exponent, cs) ← readExponent cs
  pure (⟨negative, whole, fraction, exponent⟩, cs)

/-- A number. -/
def readNumber : List Char → Option (Numeral × List Char)
  | '-' :: cs => readMagnitude true cs
  | cs => readMagnitude false cs

/-! ### Strings -/

/-- The value of a hexadecimal digit of either case. -/
def hexValue? (c : Char) : Option Nat :=
  if '0' ≤ c ∧ c ≤ '9' then some (c.toNat - '0'.toNat)
  else if 'a' ≤ c ∧ c ≤ 'f' then some (c.toNat - 'a'.toNat + 10)
  else if 'A' ≤ c ∧ c ≤ 'F' then some (c.toNat - 'A'.toNat + 10)
  else none

/-- Four hexadecimal digits. -/
def readHex4 : List Char → Option (Nat × List Char)
  | a :: b :: c :: d :: rest => do
    let a ← hexValue? a
    let b ← hexValue? b
    let c ← hexValue? c
    let d ← hexValue? d
    pure (((a * 16 + b) * 16 + c) * 16 + d, rest)
  | _ => none

/-- The character behind a backslash, where it stands for one character. -/
def simpleEscape? (c : Char) : Option Char :=
  match c with
  | '"' => some '"'
  | '\\' => some '\\'
  | '/' => some '/'
  | 'b' => some '\x08'
  | 'f' => some '\x0c'
  | 'n' => some '\n'
  | 'r' => some '\r'
  | 't' => some '\t'
  | _ => none

/-- A piece of a string: a character, or one half of a surrogate pair. -/
inductive Piece where
  | char (c : Char)
  | surrogate (n : Nat)
deriving DecidableEq

/-- The piece that a code unit makes. -/
def Piece.ofUnit (n : Nat) : Piece :=
  if 0xD800 ≤ n ∧ n ≤ 0xDFFF then .surrogate n else .char (Char.ofNat n)

/-- The pieces up to the closing quote, and the rest. -/
def readPieces : List Char → Option (List Piece × List Char)
  | [] => none
  | '"' :: rest => some ([], rest)
  | '\\' :: 'u' :: a :: b :: c :: d :: rest => do
    let (n, _) ← readHex4 [a, b, c, d]
    let (ps, rest) ← readPieces rest
    pure (Piece.ofUnit n :: ps, rest)
  | '\\' :: c :: rest => do
    let c ← simpleEscape? c
    let (ps, rest) ← readPieces rest
    pure (.char c :: ps, rest)
  | c :: rest =>
    if c.toNat < 0x20 ∨ c = '\\' then none
    else (readPieces rest).map fun (ps, rest) => (.char c :: ps, rest)

/-- The text of the pieces: a high surrogate right before a low one makes one character, and any
other surrogate makes the whole unreadable. -/
def joinPieces : List Piece → Option (List Char)
  | [] => some []
  | .char c :: ps => (joinPieces ps).map (c :: ·)
  | .surrogate high :: .surrogate low :: ps =>
    if high < 0xDC00 ∧ 0xDC00 ≤ low then
      (joinPieces ps).map (Char.ofNat (0x10000 + (high - 0xD800) * 0x400 + (low - 0xDC00)) :: ·)
    else none
  | .surrogate _ :: _ => none

/-- A string behind its opening quote. -/
def readString (cs : List Char) : Option (Option String × List Char) :=
  (readPieces cs).map fun (ps, rest) => ((joinPieces ps).map String.ofList, rest)

/-! ### Values -/

/-- A key behind its opening quote, with the colon behind it. -/
def readKey (cs : List Char) : Option (Option String × List Char) := do
  let (k, cs) ← readString cs
  match skipBlanks cs with
  | ':' :: cs => pure (k, cs)
  | _ => none

mutual

/-- A value, after blanks. -/
def readValue : Nat → List Char → Option (Json × List Char)
  | 0, _ => none
  | fuel + 1, cs =>
    match skipBlanks cs with
    | 'n' :: cs => (expect ['u', 'l', 'l'] cs).map fun rest => (.null, rest)
    | 't' :: cs => (expect ['r', 'u', 'e'] cs).map fun rest => (.bool true, rest)
    | 'f' :: cs => (expect ['a', 'l', 's', 'e'] cs).map fun rest => (.bool false, rest)
    | '"' :: cs => (readString cs).map fun (s, rest) => (.string s, rest)
    | '[' :: cs =>
      match skipBlanks cs with
      | ']' :: rest => some (.array [], rest)
      | cs => (readItems fuel cs).map fun (xs, rest) => (.array xs, rest)
    | '\x7b' :: cs =>
      match skipBlanks cs with
      | '\x7d' :: rest => some (.object [], rest)
      | '"' :: cs => (readMembers fuel cs).map fun (ms, rest) => (.object ms, rest)
      | _ => none
    | cs => (readNumber cs).map fun (x, rest) => (.number x, rest)

/-- One item or more, up to the closing bracket. -/
def readItems : Nat → List Char → Option (List Json × List Char)
  | 0, _ => none
  | fuel + 1, cs =>
    match readValue fuel cs with
    | none => none
    | some (x, cs) =>
      match skipBlanks cs with
      | ']' :: rest => some ([x], rest)
      | ',' :: cs => (readItems fuel cs).map fun (xs, rest) => (x :: xs, rest)
      | _ => none

/-- One member or more behind the opening quote of its key, up to the closing brace. -/
def readMembers : Nat → List Char → Option (List (Option String × Json) × List Char)
  | 0, _ => none
  | fuel + 1, cs =>
    match readKey cs with
    | none => none
    | some (k, cs) =>
      match readValue fuel cs with
      | none => none
      | some (x, cs) =>
        match skipBlanks cs with
        | '\x7d' :: rest => some ([(k, x)], rest)
        | ',' :: cs =>
          match skipBlanks cs with
          | '"' :: cs => (readMembers fuel cs).map fun (ms, rest) => ((k, x) :: ms, rest)
          | _ => none
        | _ => none

end

/-- Read a whole text. -/
def parse (cs : List Char) : Option Json :=
  match readValue (cs.length + 1) cs with
  | some (j, rest) => if (skipBlanks rest).isEmpty then some j else none
  | none => none

end PinnedSessions.Json
