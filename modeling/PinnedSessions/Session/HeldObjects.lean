import PinnedSessions.Interpreter.Call

/-! # Objects to be released

A session keeps the object references that its interpreter handed out, each number once with the
reference first seen under it, in the order in which they came. All are released, oldest first,
before the context goes.
-/

namespace PinnedSessions

/-- References with distinct numbers, oldest first. -/
structure HeldObjects where
  refs : List ObjectRef
  nodup : (refs.map (·.id)).Nodup
deriving DecidableEq, Repr

namespace HeldObjects

/-- No references. -/
def empty : HeldObjects := ⟨[], List.nodup_nil⟩

instance : Inhabited HeldObjects := ⟨empty⟩

/-- How many references are kept. -/
def size (h : HeldObjects) : Nat := h.refs.length

/-- A reference may be added under a number that is not known. -/
theorem nodup_snoc (h : HeldObjects) {ref : ObjectRef} (hn : ref.id ∉ h.refs.map (·.id)) :
    ((h.refs ++ [ref]).map (·.id)).Nodup := by
  rw [List.map_append, List.map_singleton, List.nodup_append]
  refine ⟨h.nodup, by simp, fun a ha b hb hab => hn ?_⟩
  rwa [← List.mem_singleton.1 hb, ← hab]

/-- Keep the reference that a value carries, unless its number is known. -/
def keep (h : HeldObjects) (v : Value) : HeldObjects :=
  match v.reference? with
  | some ref =>
    if hn : ref.id ∈ h.refs.map (·.id) then h else ⟨h.refs ++ [ref], h.nodup_snoc hn⟩
  | none => h

variable {σ : Type} [Interpreter σ]

/-- Release references in turn. -/
def giveBackEach (files : Files) (thread : Thread) (ctx : Handle) : List ObjectRef → Line σ → Line σ
  | [], line => line
  | ref :: refs, line =>
    giveBackEach files thread ctx refs (line.call files thread (.releaseObject ctx ref)).2

/-- Release everything that is kept: how many references it was, and what is kept then. -/
def giveBack (files : Files) (thread : Thread) (ctx : Handle) (h : HeldObjects) (line : Line σ) :
    Nat × HeldObjects × Line σ :=
  (h.size, empty, giveBackEach files thread ctx h.refs line)

end HeldObjects

end PinnedSessions
