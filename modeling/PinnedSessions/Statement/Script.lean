import PinnedSessions.Decimal.Reading
import PinnedSessions.Failure
import PinnedSessions.Statement.Probe
import PinnedSessions.Table
import PinnedSessions.Text.Alphanumeric

/-! # Running source text

The little language of the in-memory interpreter. A text runs line by line, each line without the
blanks around it:

* a line that starts with `raise` fails, with the rest of the line in the message;
* `name = literal`, split at the first equals sign, binds a variable if the name consists of
  letters, digits and underscores and the literal is an integer, a float, a text between quotes,
  `True`, `False` or `None`;
* every other line does nothing.

Before that the whole text is probed: a stray closing bracket is a fault, and so is an unfinished
text without a line feed.
-/

namespace PinnedSessions

/-- Variables with their values. -/
abbrev Variables := Table String Value

namespace Script

/-- The rest of a text behind a given start. -/
def dropStart? : List Char → List Char → Option (List Char)
  | [], cs => some cs
  | _ :: _, [] => none
  | p :: ps, c :: cs => if p = c then dropStart? ps cs else none

/-- The two sides of the first equals sign. -/
def splitEquals? (line : List Char) : Option (List Char × List Char) :=
  match line.dropWhile (· ≠ '=') with
  | [] => none
  | _ :: rest => some (line.takeWhile (· ≠ '='), rest)

/-- The text between a quote at the start and the same one at the end. -/
def unquote? : List Char → Option (List Char)
  | [] => none
  | q :: rest =>
    if (q = '"' ∨ q = '\'') ∧ rest.getLast? = some q then some rest.dropLast else none

/-- The value of a literal. -/
def literal? (text : List Char) : Option Value :=
  if text = "True".toList then some (.bool true)
  else if text = "False".toList then some (.bool false)
  else if text = "None".toList then some .none
  else
    match Decimal.readInt64? text with
    | some n => some (.long n)
    | none =>
      match Decimal.readDouble? text with
      | some x => some (.double x)
      | none => (unquote? text).map fun cs => .str (String.ofList cs)

/-- Whether a name can be bound. -/
def isName (cs : List Char) : Bool :=
  !cs.isEmpty && cs.all fun c => Text.isAlphanumeric c || c == '_'

/-- What a line without blanks around it does. -/
inductive Line where
  | raise (message : List Char)
  | assign (name : List Char) (value : Value)
  | other

/-- Read a line. -/
def Line.ofText (line : List Char) : Line :=
  match dropStart? "raise".toList line with
  | some message => .raise message
  | none =>
    match splitEquals? line with
    | none => .other
    | some (name, text) =>
      match literal? (Text.trim text) with
      | none => .other
      | some value => if isName (Text.trim name) then .assign (Text.trim name) value else .other

/-- Run lines up to the first that raises. -/
def runLines (vars : Variables) : List (List Char) → Except GuestFault Unit × Variables
  | [] => (.ok (), vars)
  | line :: rest =>
    match Line.ofText (Text.trim line) with
    | .raise message => (.error (.raised ("Exception:" ++ String.ofList message)), vars)
    | .assign name value => runLines (vars.insert (String.ofList name) value) rest
    | .other => runLines vars rest

/-- The fault of a stray closing bracket. -/
def unmatched (c : Char) : GuestFault := .badSource ("unmatched '" ++ String.ofList [c] ++ "'")

/-- Whether a text is complete, with a stray closing bracket as a fault. -/
def probe (source : String) : Except GuestFault Completeness :=
  match Probe.probe source with
  | .ok status => .ok status
  | .error c => .error (unmatched c)

/-- Run a text. -/
def run (vars : Variables) (source : String) : Except GuestFault Unit × Variables :=
  match probe source with
  | .error e => (.error e, vars)
  | .ok status =>
    if status = .incomplete ∧ '\n' ∉ source.toList then
      (.error (.badSource "unexpected end of input"), vars)
    else runLines vars (Text.lines source.toList)

end Script

end PinnedSessions
