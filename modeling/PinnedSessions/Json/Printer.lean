import PinnedSessions.Json.Basic

/-! # Compact JSON text

A tree is written without blanks. In a string only the double quote, the backslash and the controls
below the space are escaped: five of them by a letter, the others by four hexadecimal digits.
-/

namespace PinnedSessions.Json

/-- A number below 65536 in four lower-case hexadecimal digits. -/
def hex4 (n : Nat) : List Char :=
  [Nat.digitChar (n / 4096 % 16), Nat.digitChar (n / 256 % 16), Nat.digitChar (n / 16 % 16),
    Nat.digitChar (n % 16)]

/-- A character inside a string. -/
def escapeChar (c : Char) : List Char :=
  if c = '"' then ['\\', '"']
  else if c = '\\' then ['\\', '\\']
  else if c = '\x08' then ['\\', 'b']
  else if c = '\x0c' then ['\\', 'f']
  else if c = '\n' then ['\\', 'n']
  else if c = '\r' then ['\\', 'r']
  else if c = '\t' then ['\\', 't']
  else if c.toNat < 0x20 then '\\' :: 'u' :: hex4 c.toNat
  else [c]

/-- A string between its quotes; one that cannot be read is written as a lone surrogate. -/
def stringText : Option String → List Char
  | some s => '"' :: s.toList.flatMap escapeChar ++ ['"']
  | none => '"' :: '\\' :: 'u' :: hex4 0xD800 ++ ['"']

mutual

/-- The compact text of a tree. -/
def print : Json → List Char
  | .null => ['n', 'u', 'l', 'l']
  | .bool true => ['t', 'r', 'u', 'e']
  | .bool false => ['f', 'a', 'l', 's', 'e']
  | .number x => x.text
  | .string s => stringText s
  | .array xs => '[' :: printItems xs
  | .object ms => '\x7b' :: printMembers ms

/-- The items of an array and its closing bracket. -/
def printItems : List Json → List Char
  | [] => [']']
  | x :: xs => print x ++ printMoreItems xs

/-- The items after the first, each behind a comma, and the closing bracket. -/
def printMoreItems : List Json → List Char
  | [] => [']']
  | x :: xs => ',' :: print x ++ printMoreItems xs

/-- The members of an object and its closing brace. -/
def printMembers : List (Option String × Json) → List Char
  | [] => ['\x7d']
  | (k, x) :: ms => stringText k ++ ':' :: print x ++ printMoreMembers ms

/-- The members after the first, each behind a comma, and the closing brace. -/
def printMoreMembers : List (Option String × Json) → List Char
  | [] => ['\x7d']
  | (k, x) :: ms => ',' :: stringText k ++ ':' :: print x ++ printMoreMembers ms

end

/-- The compact text of a tree. -/
def compact (j : Json) : String := String.ofList j.print

end PinnedSessions.Json
