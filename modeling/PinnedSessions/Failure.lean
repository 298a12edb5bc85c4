import PinnedSessions.Decimal.Numeral
import PinnedSessions.Guest.Conversion

/-! # What can go wrong

Two levels of failure, both given by their causes:

* `GuestFault` is what an interpreter answers when a call fails;
* `Failure` is what an operation on a session answers.

`message` words each of them. A guest fault is folded into a failure by `Failure.ofGuest`: source
that can never become valid and values without a counterpart keep their text under a heading of
their own, and everything else counts as raised, with the fault's message.
-/

namespace PinnedSessions

/-- A thread of the host program. -/
structure Thread where
  name : String
deriving DecidableEq, Repr, Inhabited

/-- A thread in messages. -/
def Thread.display (t : Thread) : String := "ThreadId(" ++ t.name ++ ")"

/-- Why an interpreter's call failed. -/
inductive GuestFault where
  /-- Source text can never become valid. -/
  | badSource (text : String)
  /-- Guest code raised. -/
  | raised (text : String)
  /-- A guest value has no counterpart of the kind asked for. -/
  | noConversion (text : String)
  /-- A name is not bound in the context. -/
  | unbound (name : String)
  | failed (text : String)
deriving DecidableEq, Repr, Inhabited

/-- The wording of a guest fault. -/
def GuestFault.message : GuestFault → String
  | .badSource text => text
  | .raised text => text
  | .noConversion text => text
  | .unbound name => "name '" ++ name ++ "' is not defined"
  | .failed text => text

/-- The wording of a conversion fault. -/
def ConversionFault.message : ConversionFault → String
  | .mismatch found wanted => "cannot convert " ++ found.name ++ " to " ++ wanted.name
  | .outOfRange n wanted => Decimal.intText n ++ " is out of range for " ++ wanted.name
  | .notOneCharacter count =>
    "expected a single character, got " ++ Decimal.natText count ++ " characters"

/-- Why a session got no context. -/
inductive ContextFault where
  /-- The interpreter did not provide or configure a context. -/
  | refused (fault : GuestFault)
  /-- An earlier attempt of the same session failed. -/
  | failedBefore
  /-- The main interpreter was asked for and there is none. -/
  | noMain
deriving DecidableEq, Repr

/-- The wording of a context fault. -/
def ContextFault.message : ContextFault → String
  | .refused fault => fault.message
  | .failedBefore => "a previous initialization attempt failed; create a new session"
  | .noMain => "no main engine configured; call configure_main_engine first"

/-- What had been done already when it was asked for again. -/
inductive RepeatFault where
  | initialized
  | mainChosen
deriving DecidableEq, Repr

/-- The wording of a repeat fault. -/
def RepeatFault.message : RepeatFault → String
  | .initialized => "session is already initialized"
  | .mainChosen => "main engine is already configured"

/-- Which argument was malformed. -/
inductive ArgumentFault where
  | functionName
  | variableName
  | scriptPath
deriving DecidableEq, Repr

/-- The wording of an argument fault. -/
def ArgumentFault.message : ArgumentFault → String
  | .functionName => "invalid function name"
  | .variableName => "variable name cannot be blank"
  | .scriptPath => "script path cannot be empty"

/-- Why a value could not cross the boundary. -/
inductive TypeFault where
  /-- The host refused the value that the guest gave. -/
  | host (fault : ConversionFault)
  /-- The guest refused. -/
  | guest (text : String)
deriving DecidableEq, Repr

/-- The wording of a type fault. -/
def TypeFault.message : TypeFault → String
  | .host fault => fault.message
  | .guest text => text

/-- Why an operation on a session failed. -/
inductive Failure where
  /-- The caller is not the thread that owns the session. -/
  | foreignCaller (owner caller : Thread)
  /-- The thread hosts a session that was not closed. -/
  | threadTaken (thread : Thread)
  /-- A thread other than the owner asked for the session to be closed. -/
  | foreignClose (owner caller : Thread)
  | closed
  | uninitialized
  | noContext (fault : ContextFault)
  | alreadyDone (fault : RepeatFault)
  | badArgument (fault : ArgumentFault)
  | badSource (text : String)
  | raised (text : String)
  | noConversion (fault : TypeFault)
  /-- A script is missing, is not a regular file, or cannot be opened. -/
  | unreadable (path : String)
deriving DecidableEq, Repr

namespace Failure

/-- The wording of a failure. -/
def message : Failure → String
  | .foreignCaller owner caller =>
    "invalid thread access: session is owned by " ++ owner.display ++ ", called from " ++
      caller.display
  | .threadTaken thread =>
    "unsafe reuse of thread " ++ thread.display ++
      " for another interpreter context; close() the previous session first"
  | .foreignClose owner caller =>
    "unsafe close() of interpreter context by thread " ++ caller.display ++
      "; close() from the owning thread " ++ owner.display
  | .closed => "session has been closed"
  | .uninitialized => "session is not initialized"
  | .noContext fault => "initialization failed: " ++ fault.message
  | .alreadyDone fault => "invalid state: " ++ fault.message
  | .badArgument fault => "invalid argument: " ++ fault.message
  | .badSource text => "compile error: " ++ text
  | .raised text => text
  | .noConversion fault => "type conversion failed: " ++ fault.message
  | .unreadable path => "invalid file: " ++ path

/-- What an operation answers when an interpreter's call failed. -/
def ofGuest : GuestFault → Failure
  | .badSource text => .badSource text
  | .noConversion text => .noConversion (.guest text)
  | .raised text => .raised text
  | .unbound name => .raised (GuestFault.unbound name).message
  | .failed text => .raised text

end Failure

end PinnedSessions
