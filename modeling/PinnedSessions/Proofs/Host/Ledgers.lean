import PinnedSessions.Proofs.Host.Ownership
import PinnedSessions.Proofs.Interpreter.Mirror

/-! # What ledgers keep during a run

If interpreters that keep a ledger are driven only by sessions (`Undriven`), each of them answers in
every turn what it is asked in it (`Turn.dialogue`), and so after every run its ledger can be told
from what it was asked.

* As long as there are fewer acquisitions than numbers, no context is given out twice
  (`numbered_of_run`, `fresh_of_run`), and the next one is not in use (`nextFree_of_run`).
* Under discipline, the ledgers mirror what was asked (`mirrors_of_run`), and every call finds the
  context that it names live (`served_of_run`). -/

namespace PinnedSessions

variable {σ : Type} [Ledgered σ]

/-- A change in which nobody but sessions drives an interpreter: marks and files may change, and
interpreters may as long as they keep their contexts and their count and stay quiet. -/
structure Undriven (h h' : Host σ) : Prop where
  sessions : h'.sessions = h.sessions
  length : h'.interpreters.length = h.interpreters.length
  same : ∀ (i : Nat) (x x' : σ), h.interpreters[i]? = some x → h'.interpreters[i]? = some x' →
    Ledger.Same (Ledgered.ledger x) (Ledgered.ledger x')
  quiet : ∀ (i : Nat) (x x' : σ), h.interpreters[i]? = some x → h'.interpreters[i]? = some x' →
    Ledgered.Quiet x → Ledgered.Quiet x'

/-- No interpreter was used yet, and there is no session. -/
structure Unused (h : Host σ) : Prop where
  sessions : h.sessions = .empty
  quiet : ∀ x ∈ h.interpreters, Ledgered.Quiet x
  live : ∀ x ∈ h.interpreters, ∀ ctx, (Ledgered.ledger x).isLive ctx = false

theorem Undriven.aside {h h' : Host σ} (hu : Undriven h h') : Aside h h' :=
  ⟨hu.sessions, Nat.le_of_eq hu.length.symm⟩

/-! ### One turn -/

theorem Turn.length {m : Moment σ} {old new : List Holding}
    (ht : Turn m.host m.thread m.effect m.next old new) :
    m.next.interpreters.length = m.host.interpreters.length := by
  cases ht with
  | still hx hi hr hn => rw [hi]
  | moved hx hi he hl hc ho hn => rw [hi, List.length_set]

/-- In a turn each interpreter answers what it is asked, most of them nothing. -/
theorem Turn.dialogue {m : Moment σ} {old new : List Holding}
    (ht : Turn m.host m.thread m.effect m.next old new) {i : Nat} {x' : σ}
    (hx' : m.next.interpreters[i]? = some x') :
    ∃ x, m.host.interpreters[i]? = some x ∧ Dialogue m.host.files m.thread x (m.said i) x' := by
  cases ht with
  | still hx hi hr hn =>
      rw [hi] at hx'
      rw [Moment.said_of_nil hx]
      exact ⟨x', hx', .done x'⟩
  | @moved j x o o' l rest hx hi he hl hc ho hn =>
      rw [hi] at hx'
      rw [Moment.said_of_some he]
      by_cases hj : j = i
      · subst hj
        obtain ⟨cs, hcs⟩ := hc.callAll
        obtain ⟨xs, hxs, hd⟩ := Line.dialogue_callAll m.host.files m.thread cs ⟨x, []⟩
        dsimp only at hcs
        rw [← hcs, List.nil_append] at hxs
        rw [← hcs] at hd
        rw [List.getElem?_set_self (List.getElem?_eq_some_iff.1 hx).1] at hx'
        cases hx'
        rw [if_pos rfl, hl, hxs]
        exact ⟨x, hx, hd⟩
      · rw [List.getElem?_set_ne hj] at hx'
        rw [if_neg hj]
        exact ⟨x', hx', .done x'⟩

/-! ### Whole runs -/

section Runs

variable {h₀ h : Host σ} {past : List (Moment σ)}

theorem Unused.housed (hu : Unused h₀) : h₀.Housed := Host.housed_of_empty hu.sessions

theorem Undriven.get {h h' : Host σ} (hu : Undriven h h') {i : Nat} {x' : σ}
    (hx' : h'.interpreters[i]? = some x') : ∃ x, h.interpreters[i]? = some x := by
  have hi : i < h.interpreters.length := hu.length ▸ (List.getElem?_eq_some_iff.1 hx').1
  exact ⟨_, List.getElem?_eq_getElem hi⟩

theorem dialogue_of_run (hb : Unused h₀) {m : Moment σ} (hr : Run Undriven h₀ past m.host)
    (ha : m.action.usesSessions = true) {i : Nat} {x : σ} (hx : m.next.interpreters[i]? = some x) :
    ∃ x₀, m.host.interpreters[i]? = some x₀ ∧
      Dialogue m.host.files m.thread x₀ (m.said i) x :=
  (Host.turn_act (hr.housed hb.housed fun _ _ => Undriven.aside) ha past).dialogue hx

theorem quiet_of_run (hb : Unused h₀) (hr : Run Undriven h₀ past h) {i : Nat} {x : σ}
    (hx : h.interpreters[i]? = some x) : Ledgered.Quiet x := by
  induction hr generalizing x with
  | start => exact hb.quiet x (List.mem_of_getElem? hx)
  | act hr ha ih =>
      obtain ⟨x₀, hx₀, hd⟩ := dialogue_of_run hb hr ha hx
      exact hd.quiet (ih hx₀)
  | between hr hu ih =>
      obtain ⟨x₀, hx₀⟩ := hu.get hx
      exact hu.quiet i x₀ x hx₀ hx (ih hx₀)

/-- Numbers are not given twice, as long as there are enough of them. -/
theorem numbered_of_run (hb : Unused h₀)
    (hz : ∀ x ∈ h₀.interpreters, (Ledgered.ledger x).lastRaw = 0) (hr : Run Undriven h₀ past h)
    {i : Nat} {x : σ} (hx : h.interpreters[i]? = some x)
    (hn : (acquisitions (talk i past)).length < 2 ^ 64 - 1) :
    Numbered (talk i past) (Ledgered.ledger x) := by
  induction hr generalizing x with
  | start =>
      refine ⟨?_, fun p hp => absurd hp List.not_mem_nil, List.nodup_nil⟩
      rw [hz x (List.mem_of_getElem? hx)]
      rfl
  | @act past m hr ha ih =>
      obtain ⟨x₀, hx₀, hd⟩ := dialogue_of_run hb hr ha hx
      rw [talk_snoc] at hn ⊢
      refine hd.numbered (quiet_of_run hb hr hx₀) (ih hx₀ ?_) hn
      rw [acquisitions_append, List.length_append] at hn
      omega
  | between hr hu ih =>
      obtain ⟨x₀, hx₀⟩ := hu.get hx
      have hold := ih hx₀ hn
      have hraw := (hu.same i x₀ x hx₀ hx).lastRaw
      exact ⟨by rw [hraw]; exact hold.count, by rw [hraw]; exact hold.le, hold.fresh⟩

theorem fresh_of_run (hb : Unused h₀)
    (hz : ∀ x ∈ h₀.interpreters, (Ledgered.ledger x).lastRaw = 0) (hr : Run Undriven h₀ past h)
    (hn : ∀ i, (acquisitions (talk i past)).length < 2 ^ 64 - 1) (i : Nat) :
    Fresh (talk i past) := by
  cases hx : h.interpreters[i]? with
  | some x => exact (numbered_of_run hb hz hr hx (hn i)).fresh
  | none =>
      rw [hr.talk_eq_nil hb.housed (fun _ _ => Undriven.aside) (List.getElem?_eq_none_iff.1 hx)]
      exact List.nodup_nil

/-- Under discipline, ledgers mirror what was asked. -/
theorem mirrors_of_run (hb : Unused h₀) (hr : Run Undriven h₀ past h)
    (hd : ∀ i, Disciplined (talk i past)) (hf : ∀ i, Fresh (talk i past)) {i : Nat} {x : σ}
    (hx : h.interpreters[i]? = some x) : Mirrors (talk i past) (Ledgered.ledger x) := by
  induction hr generalizing x with
  | start =>
      intro ctx
      rw [hb.live x (List.mem_of_getElem? hx) ctx]
      refine ⟨fun h => (by cases h), ?_⟩
      rintro ⟨p, hp, -⟩
      exact absurd hp.begun List.not_mem_nil
  | @act past m hr ha ih =>
      obtain ⟨x₀, hx₀, hdia⟩ := dialogue_of_run hb hr ha hx
      have hdi := hd i
      have hfi := hf i
      rw [talk_snoc] at hdi hfi ⊢
      have hold := ih (Disciplined.of_snoc hd) (Fresh.of_snoc hf) hx₀
      exact (hdia.mirrors (quiet_of_run hb hr hx₀) hold hdi hfi).1
  | between hr hu ih =>
      obtain ⟨x₀, hx₀⟩ := hu.get hx
      intro ctx
      rw [(hu.same i x₀ x hx₀ hx).live ctx]
      exact ih hd hf hx₀ ctx

/-- Under discipline, every call finds the context that it names live. -/
theorem served_of_run (hb : Unused h₀) (hr : Run Undriven h₀ past h)
    (hd : ∀ i, Disciplined (talk i past)) (hf : ∀ i, Fresh (talk i past)) :
    ∀ m ∈ past, ∀ (i : Nat) (x : σ), m.effect.interpreter = some i →
      m.host.interpreters[i]? = some x → Served m.host.files m.effect.exchanges x := by
  induction hr with
  | start => exact fun m hm => absurd hm List.not_mem_nil
  | @act past m hr ha ih =>
      intro m' hm' i x he hx
      rcases List.mem_append.1 hm' with hm' | hm'
      · exact ih (Disciplined.of_snoc hd) (Fresh.of_snoc hf) m' hm' i x he hx
      · cases List.mem_singleton.1 hm'
        have ht := Host.turn_act (hr.housed hb.housed fun _ _ => Undriven.aside) ha past
        have hi : i < m.next.interpreters.length := by
          rw [ht.length]
          exact (List.getElem?_eq_some_iff.1 hx).1
        obtain ⟨x₀, hx₀, hdia⟩ := ht.dialogue (List.getElem?_eq_getElem hi)
        cases hx.symm.trans hx₀
        have hold := mirrors_of_run hb hr (Disciplined.of_snoc hd) (Fresh.of_snoc hf) hx
        have hdi := hd i
        have hfi := hf i
        rw [talk_snoc] at hdi hfi
        have hserved := (hdia.mirrors (quiet_of_run hb hr hx) hold hdi hfi).2
        rwa [Moment.said_of_some he, if_pos rfl] at hserved
  | between hr hu ih => exact ih hd hf

end Runs

end PinnedSessions
