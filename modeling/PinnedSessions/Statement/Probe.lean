import PinnedSessions.Text.Blank
import PinnedSessions.Text.Lines

/-! # Is a text complete?

A heuristic over brackets and block headers. All three kinds of bracket count alike, on a 32-bit
depth. A closing bracket with no bracket open can never become valid; a text that leaves a bracket
open, or whose last line that is not blank ends in a colon, is unfinished; any other text is
complete.
-/

namespace PinnedSessions

/-- Whether a text can stand alone. -/
inductive Completeness where
  | complete
  /-- The text is the start of a unit. -/
  | incomplete
deriving DecidableEq, Repr, Inhabited

namespace Probe

/-- Whether a character opens a bracket. -/
def isOpening (c : Char) : Bool := c == '(' || c == '[' || c == '\x7b'

/-- Whether a character closes a bracket. -/
def isClosing (c : Char) : Bool := c == ')' || c == ']' || c == '\x7d'

/-- The depth after one more character. -/
def deepen (depth : Int32) (c : Char) : Int32 :=
  if isOpening c then depth + 1 else if isClosing c then depth - 1 else depth

/-- The depth after a text, or the first character that leaves it negative. -/
def depthAfter (depth : Int32) : List Char → Except Char Int32
  | [] => .ok depth
  | c :: cs =>
    let depth := deepen depth c
    if depth < 0 then .error c else depthAfter depth cs

/-- The last line that is not blank. -/
def lastLine? (cs : List Char) : Option (List Char) :=
  (Text.lines cs).reverse.find? fun line => !(Text.trim line).isEmpty

/-- Whether the last line that is not blank ends in a colon. -/
def opensBlock (cs : List Char) : Bool :=
  match lastLine? cs with
  | some line => (Text.trimEnd line).getLast? == some ':'
  | none => false

/-- Whether a text is complete, or the closing bracket that spoils it. -/
def probe (source : String) : Except Char Completeness :=
  match depthAfter 0 source.toList with
  | .error c => .error c
  | .ok depth =>
    if 0 < depth || opensBlock source.toList then .ok .incomplete else .ok .complete

end Probe

end PinnedSessions
