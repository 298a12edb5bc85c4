import Mathlib.Data.List.Nodup
import Mathlib.Data.Option.Basic
import PinnedSessions.Proofs.Host.Run

/-! # Marks belong to owners

The registry marks those threads that own a live context, lost ones included, and each owns only one
(`marks_of_run`). A mark comes with a context and goes with it, also where a start fails after the
thread was marked, and no operation removes the mark of another thread. -/

namespace PinnedSessions

variable {σ : Type}

/-- The marked threads are the owners of the contexts held, each once. -/
structure Marks (past : List (Moment σ)) (h : Host σ) : Prop where
  owners : h.registry.marked.Perm ((holdings past h).map (·.tenure.owner))

namespace Marks

variable {past : List (Moment σ)} {h : Host σ}

theorem hosts_iff (hM : Marks past h) (t : Thread) : h.registry.hosts t = true ↔
    ∃ r ∈ holders past h, r.session.isInitialized = true ∧ r.session.owner? = some t := by
  rw [Registry.hosts, decide_eq_true_eq, hM.owners.mem_iff, List.mem_map]
  constructor
  · rintro ⟨⟨i, p⟩, hq, rfl⟩
    obtain ⟨r, hr, -, hp⟩ := mem_held_iff.1 hq
    obtain ⟨hi, ho, -⟩ := Session.tenure?_eq_some_iff.1 hp
    exact ⟨r, hr, hi, ho⟩
  · rintro ⟨r, hr, hi, ho⟩
    obtain ⟨p, hp⟩ := Session.exists_tenure hi
    have ho' := (Session.tenure?_eq_some_iff.1 hp).2.1
    cases ho.symm.trans ho'
    exact ⟨⟨r.interpreter, p⟩, mem_held_iff.2 ⟨r, hr, rfl, hp⟩, rfl⟩

theorem owners_nodup (hM : Marks past h) :
    (((holders past h).filter (·.session.isInitialized)).map (·.session.owner?)).Nodup := by
  have hn : ((holdings past h).map (·.tenure.owner)).Nodup := hM.owners.nodup_iff.1 h.registry.nodup
  have hsome := hn.map (Option.some_injective Thread)
  rw [List.map_map] at hsome
  rw [map_initialized (g := some ∘ fun q : Holding => q.tenure.owner)]
  · exact hsome
  · exact fun r p hp => (Session.tenure?_eq_some_iff.1 hp).2.1

end Marks

variable [Interpreter σ]

/-- An operation leaves the registry and the tenure of its session as they are, or changes both. -/
theorem Conduct.registry {files : Files} {t : Thread} {p q : Standing σ} (h : Conduct files t p q) :
    (q.tenure = p.tenure ∧ q.registry = p.registry) ∨
      (∃ ctx, p.tenure = none ∧ q.tenure = some ⟨t, ctx⟩ ∧ p.registry.mark t = .ok q.registry) ∨
      (∃ ctx, p.tenure = some ⟨t, ctx⟩ ∧ q.tenure = none ∧ q.registry = p.registry.unmark t) := by
  cases h with
  | idle | used | refused | givenUp => exact .inl ⟨rfl, rfl⟩
  | begun hg => exact .inr (.inl ⟨_, rfl, rfl, hg⟩)
  | ended => exact .inr (.inr ⟨_, rfl, rfl, rfl⟩)

namespace Marks

variable {past : List (Moment σ)} {m : Moment σ}

theorem turn (hI : Marks past m.host) {h' : Host σ}
    (ht : Turn m.host m.thread m.effect h' (holdings past m.host) (holdings (past ++ [m]) h')) :
    Marks (past ++ [m]) h' := by
  cases ht with
  | still hx hi hr hn =>
      refine ⟨?_⟩
      rw [hr]
      exact hI.owners.trans (hn.map _).symm
  | @moved i x o o' l rest hx hi he hl hc ho hn =>
      have hold := hI.owners.trans (ho.map _)
      have hnew := hn.map (·.tenure.owner)
      rw [List.map_append] at hold hnew
      rcases hc.registry with ⟨ho', hg⟩ | ⟨ctx, rfl, rfl, hg⟩ | ⟨ctx, rfl, rfl, hg⟩
      · dsimp only at ho' hg
        subst ho'
        rw [← hg] at hold
        exact ⟨hold.trans hnew.symm⟩
      · refine ⟨?_⟩
        rw [(Registry.marked_of_mark hg).2]
        exact (hold.cons m.thread).trans hnew.symm
      · dsimp only at hg
        have hcons : m.host.registry.marked.Perm (m.thread :: rest.map (·.tenure.owner)) := hold
        have hnd := List.nodup_cons.1 (hcons.nodup_iff.1 m.host.registry.nodup)
        have hkeep : (rest.map (·.tenure.owner)).filter (fun u => decide (u ≠ m.thread)) =
            rest.map (·.tenure.owner) :=
          List.filter_eq_self.2 fun u hu => decide_eq_true fun heq => hnd.1 (heq ▸ hu)
        have hfilter := hcons.filter fun u => decide (u ≠ m.thread)
        rw [List.filter_cons_of_neg (by simp), hkeep] at hfilter
        refine ⟨?_⟩
        rw [hg]
        exact hfilter.trans hnew.symm

end Marks

/-- If only sessions touch the registry, from an empty one on, it marks the owners of contexts. -/
theorem marks_of_run {May : Host σ → Host σ → Prop} {h₀ h : Host σ} {past : List (Moment σ)}
    (hs : h₀.sessions = .empty) (hg : h₀.registry = .empty) (hm : ∀ h h', May h h' → Aside h h')
    (hmg : ∀ h h', May h h' → h'.registry = h.registry) (hr : Run May h₀ past h) :
    Marks past h := by
  induction hr with
  | start =>
      refine ⟨?_⟩
      rw [holdings_of_empty hs, hg]
      exact .nil
  | act hr ha ih => exact ih.turn (Host.turn_act (hr.housed (Host.housed_of_empty hs) hm) ha _)
  | between hr hh' ih =>
      refine ⟨?_⟩
      rw [hmg _ _ hh', holdings_congr (hm _ _ hh').sessions]
      exact ih.owners

end PinnedSessions
