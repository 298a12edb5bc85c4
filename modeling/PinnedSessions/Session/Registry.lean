import PinnedSessions.Failure

/-! # Which threads host a context

A thread may host at most one live context. The registry holds the threads that do: a thread is
marked when a session is initialized on it, and the mark goes when that session closes.
-/

namespace PinnedSessions

/-- The threads that host a context, each once. -/
@[ext] structure Registry where
  marked : List Thread
  nodup : marked.Nodup
deriving DecidableEq, Repr

namespace Registry

/-- The registry without marks. -/
def empty : Registry := ⟨[], List.nodup_nil⟩

instance : Inhabited Registry := ⟨empty⟩

/-- Whether a thread hosts a context. -/
def hosts (r : Registry) (t : Thread) : Bool := decide (t ∈ r.marked)

/-- How many threads host a context. -/
def size (r : Registry) : Nat := r.marked.length

/-- Mark a thread that is not marked yet. -/
def mark (r : Registry) (t : Thread) : Except Failure Registry :=
  if h : t ∈ r.marked then .error (.threadTaken t)
  else .ok ⟨t :: r.marked, List.nodup_cons.2 ⟨h, r.nodup⟩⟩

/-- Without the mark of a thread. -/
def unmark (r : Registry) (t : Thread) : Registry :=
  ⟨r.marked.filter (· ≠ t), r.nodup.filter _⟩

theorem mem_unmark (r : Registry) (t u : Thread) :
    u ∈ (r.unmark t).marked ↔ u ∈ r.marked ∧ u ≠ t := by
  simp [unmark]

/-- A thread is refused if it hosts a context. -/
theorem mark_of_hosts {r : Registry} {t : Thread} (h : r.hosts t = true) :
    r.mark t = .error (.threadTaken t) :=
  dif_pos (of_decide_eq_true h)

theorem mark_of_free {r : Registry} {t : Thread} (h : r.hosts t = false) :
    ∃ r', r.mark t = .ok r' ∧ r'.marked = t :: r.marked :=
  ⟨_, dif_neg (of_decide_eq_false h), rfl⟩

theorem marked_of_mark {r r' : Registry} {t : Thread} (h : r.mark t = .ok r') :
    t ∉ r.marked ∧ r'.marked = t :: r.marked := by
  unfold mark at h
  split at h
  · cases h
  · next hn =>
    cases h
    exact ⟨hn, rfl⟩

theorem mem_mark {r r' : Registry} {t : Thread} (h : r.mark t = .ok r') (u : Thread) :
    u ∈ r'.marked ↔ u = t ∨ u ∈ r.marked := by
  rw [(marked_of_mark h).2, List.mem_cons]

/-- Marking a thread and removing the mark changes nothing. -/
theorem unmark_mark {r r' : Registry} {t : Thread} (h : r.mark t = .ok r') : r'.unmark t = r := by
  obtain ⟨hn, hmarked⟩ := marked_of_mark h
  refine Registry.ext ?_
  calc r'.marked.filter (· ≠ t)
    _ = (t :: r.marked).filter (· ≠ t) := by rw [hmarked]
    _ = r.marked.filter (· ≠ t) := List.filter_cons_of_neg (by simp)
    _ = r.marked := List.filter_eq_self.2 fun u hu => decide_eq_true fun he => hn (he ▸ hu)

end Registry

end PinnedSessions
