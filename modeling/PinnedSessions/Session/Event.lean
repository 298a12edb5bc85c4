import PinnedSessions.Interpreter.Call

/-! # The log

What the sessions report while they work. Every event has a level, a fixed message and named fields.
-/

namespace PinnedSessions

/-- How much an event matters. -/
inductive Level where
  | trace | debug | info | warn | error
deriving DecidableEq, Repr

/-- The name of a level. -/
def Level.name : Level → String
  | .trace => "TRACE"
  | .debug => "DEBUG"
  | .info => "INFO"
  | .warn => "WARN"
  | .error => "ERROR"

/-- What is reported. -/
inductive Event where
  /-- A session was to be created on a thread that hosts a context. -/
  | threadTaken
  /-- A thread that hosts a context was to be marked once more. -/
  | markRefused
  | searchPathExtended (ctx : Handle)
  | modulesShared (ctx : Handle)
  | configurationFailed (ctx : Handle) (fault : GuestFault)
  | initialized (ctx : Handle) (interactive : Bool)
  | scriptStarted (ctx : Handle) (path : String)
  | statementHeld
  | variableBound (ctx : Handle) (name : String) (kind : Kind)
  | resolverReplaced (ctx : Handle) (resolver : String)
  /-- Leaving interactive mode dropped a statement that never ran. -/
  | statementDropped (text : String)
  | objectsReleased (ctx : Handle) (count : Nat)
  | teardownFailed (ctx : Handle) (fault : GuestFault)
  | closed (ctx : Handle)
  /-- A session was thrown away where it could not be closed. -/
  | contextLeaked (failure : Failure)
  | mainChosen
deriving DecidableEq

namespace Event

/-- How much an event matters. -/
def level : Event → Level
  | .threadTaken => .warn
  | .markRefused => .warn
  | .searchPathExtended _ => .debug
  | .modulesShared _ => .debug
  | .configurationFailed .. => .warn
  | .initialized .. => .info
  | .scriptStarted .. => .debug
  | .statementHeld => .trace
  | .variableBound .. => .trace
  | .resolverReplaced .. => .debug
  | .statementDropped _ => .warn
  | .objectsReleased .. => .debug
  | .teardownFailed .. => .error
  | .closed _ => .info
  | .contextLeaked _ => .error
  | .mainChosen => .info

/-- The message of an event. -/
def message : Event → String
  | .threadTaken => "thread already hosts an unclosed session"
  | .markRefused => "refusing to host a second interpreter context on thread"
  | .searchPathExtended _ => "extending search path"
  | .modulesShared _ => "installing shared modules"
  | .configurationFailed .. => "context configuration failed; releasing context"
  | .initialized .. => "session initialized"
  | .scriptStarted .. => "running script"
  | .statementHeld => "statement buffered"
  | .variableBound .. => "set value"
  | .resolverReplaced .. => "switching resource resolver"
  | .statementDropped _ => "interactive mode disabled; pending statement discarded"
  | .objectsReleased .. => "released object references"
  | .teardownFailed .. => "module teardown failed; releasing context anyway"
  | .closed _ => "session closed"
  | .contextLeaked _ => "session dropped on a foreign thread; interpreter context leaked"
  | .mainChosen => "main interpreter engine configured"

/-- The fields of an event. -/
def fields : Event → List (String × String)
  | .searchPathExtended ctx => [("ctx", ctx.display)]
  | .modulesShared ctx => [("ctx", ctx.display)]
  | .configurationFailed ctx fault => [("ctx", ctx.display), ("err", fault.message)]
  | .initialized ctx interactive =>
    [("ctx", ctx.display), ("interactive", if interactive then "true" else "false")]
  | .scriptStarted ctx path => [("ctx", ctx.display), ("path", path)]
  | .variableBound ctx name kind => [("ctx", ctx.display), ("name", name), ("kind", kind.name)]
  | .resolverReplaced ctx resolver => [("ctx", ctx.display), ("resolver", resolver)]
  | .statementDropped text => [("pending", text)]
  | .objectsReleased ctx count => [("ctx", ctx.display), ("released", Decimal.natText count)]
  | .teardownFailed ctx fault => [("ctx", ctx.display), ("err", fault.message)]
  | .closed ctx => [("ctx", ctx.display)]
  | .contextLeaked failure => [("err", failure.message)]
  | .threadTaken | .markRefused | .statementHeld | .mainChosen => []

end Event

end PinnedSessions
