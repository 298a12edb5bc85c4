import PinnedSessions.Text.Blank

/-! # Gathering statements line by line

Lines of guest source come one at a time. In direct mode every line that is not blank runs at once.
In interactive mode a line that is not a complete unit is held back, later lines join it, and the
whole runs at the next flush: a blank line or no line at all.

* Carriage returns are removed from a line before anything else is done with it.
* A first line is probed, and runs at once if it is complete; lines that join a pending statement
  are not probed, and a flush runs the statement whether or not it is complete.
* When the sink fails the pending statement is dropped, so that it never leaks into the next one.
* Leaving interactive mode drops the pending statement and hands it back.
-/

namespace PinnedSessions

/-- What takes the statements: `probe` tells whether a text is a complete unit, and `run` runs it.
Both may fail, and both may change the sink's own state. -/
structure Sink (σ ε : Type) where
  probe : String → σ → Except ε Bool × σ
  run : String → σ → Except ε Unit × σ

/-- What feeding one line did. -/
inductive Outcome where
  /-- A text ran. -/
  | ran
  /-- The line joined the pending statement. -/
  | held
  /-- A flush found nothing to run. -/
  | idle
deriving DecidableEq, Repr, Inhabited

/-- Whether guest code ran. -/
def Outcome.hasRun : Outcome → Bool
  | .ran => true
  | _ => false

/-- The mode and the statement held back. -/
structure LineBuffer where
  interactive : Bool := false
  pending : Option String := none
deriving DecidableEq, Repr, Inhabited

namespace LineBuffer

/-- A buffer that holds nothing. -/
def empty (interactive : Bool) : LineBuffer := ⟨interactive, none⟩

/-- Switch the mode; the text dropped by leaving interactive mode is handed back. -/
def switchMode (b : LineBuffer) (interactive : Bool) : Option String × LineBuffer :=
  if interactive then (none, ⟨true, b.pending⟩) else (b.pending, empty false)

/-- A line without its carriage returns. -/
def stripReturns (line : String) : String :=
  String.ofList (line.toList.filter (· ≠ '\r'))

/-- The text of a line that is fed, or nothing if it is a flush. -/
def content? : Option String → Option String
  | none => none
  | some line => if Text.isBlank (stripReturns line) then none else some (stripReturns line)

/-- The pending statement with one more line. -/
def join (pending : Option String) (line : String) : String :=
  match pending with
  | none => line
  | some statement => if statement.isEmpty then line else statement ++ "\n" ++ line

/-- Hold a line back. -/
def hold (b : LineBuffer) (line : String) : LineBuffer :=
  { b with pending := some (join b.pending line) }

/-- Drop the pending statement. -/
def clear (b : LineBuffer) : LineBuffer := { b with pending := none }

variable {σ ε : Type}

/-- Run a text; what is pending goes if that fails. -/
def runNow (sink : Sink σ ε) (text : String) (b : LineBuffer) (s : σ) :
    Except ε Outcome × LineBuffer × σ :=
  match sink.run text s with
  | (.ok _, s) => (.ok .ran, b, s)
  | (.error e, s) => (.error e, b.clear, s)

/-- Run the pending statement, if there is one. -/
def flush (sink : Sink σ ε) (b : LineBuffer) (s : σ) : Except ε Outcome × LineBuffer × σ :=
  match b.interactive, b.pending with
  | true, some statement => runNow sink statement b.clear s
  | _, _ => (.ok .idle, b, s)

/-- Take a line that is not blank. -/
def take (sink : Sink σ ε) (line : String) (b : LineBuffer) (s : σ) :
    Except ε Outcome × LineBuffer × σ :=
  match b.interactive, b.pending with
  | false, _ => runNow sink line b s
  | true, some _ => (.ok .held, b.hold line, s)
  | true, none =>
    match sink.probe line s with
    | (.ok true, s) => runNow sink line b s
    | (.ok false, s) => (.ok .held, b.hold line, s)
    | (.error e, s) => (.error e, b.clear, s)

/-- Feed one line, or flush. -/
def feed (sink : Sink σ ε) (line : Option String) (b : LineBuffer) (s : σ) :
    Except ε Outcome × LineBuffer × σ :=
  match content? line with
  | some text => take sink text b s
  | none => flush sink b s

end LineBuffer

/-! ### A sink that answers as it was told -/

/-- A request to a sink. -/
inductive SinkCall where
  | probe (source : String)
  | run (source : String)
deriving DecidableEq, Repr

/-- A sink with fixed answers that lists the requests, first one first. -/
def Sink.scripted {ε : Type} (complete : Except ε Bool) (run : Except ε Unit) :
    Sink (List SinkCall) ε where
  probe source calls := (complete, calls ++ [.probe source])
  run source calls := (run, calls ++ [.run source])

end PinnedSessions
