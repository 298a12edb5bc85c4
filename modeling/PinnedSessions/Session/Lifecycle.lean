import PinnedSessions.Failure

/-! # The gate before every operation

An interpreter context may only be touched by the thread that acquired it. `Lifecycle.gate` is what
every operation on a session passes before it does anything: first the caller must be the owner, if
there is one, then the session must not be closed, then it must be initialized.
-/

namespace PinnedSessions

/-- Where a session is in its life. -/
inductive Lifecycle where
  /-- Created, without a context. -/
  | uninitialized
  /-- Holds a live context. -/
  | initialized
  /-- The context is released, for good. -/
  | closed
deriving DecidableEq, Repr, Inhabited

namespace Lifecycle

/-- The name of a lifecycle. -/
def name : Lifecycle → String
  | .uninitialized => "uninitialized"
  | .initialized => "initialized"
  | .closed => "closed"

/-- Whether a session with this lifecycle lets its owner pass. -/
def pass : Lifecycle → Except Failure Unit
  | .initialized => .ok ()
  | .closed => .error .closed
  | .uninitialized => .error .uninitialized

/-- Whether `caller` may operate on a session. -/
def gate (lifecycle : Lifecycle) (owner : Option Thread) (caller : Thread) : Except Failure Unit :=
  match owner with
  | some owner => if owner = caller then lifecycle.pass else .error (.foreignCaller owner caller)
  | none => lifecycle.pass

theorem gate_eq_ok_iff (lifecycle : Lifecycle) (owner : Option Thread) (caller : Thread) :
    lifecycle.gate owner caller = .ok () ↔
      lifecycle = .initialized ∧ ∀ o, owner = some o → o = caller := by
  cases owner with
  | none => cases lifecycle <;> simp [gate, pass]
  | some o => by_cases h : o = caller <;> cases lifecycle <;> simp [gate, pass, h]

end Lifecycle

end PinnedSessions
