import PinnedSessions.Interpreter.Memory
import PinnedSessions.Proofs.Host.Run
import PinnedSessions.Proofs.Session.Episode

/-! # Contexts belong to threads

However sessions are created, used, ended and thrown away, from whichever threads, and whatever the
interpreters answer: every call that names a context comes from the thread that acquired it, after
that and before its release (`disciplined_of_run`). All that is asked of an interpreter is that it
never gives out a context twice.

The invariant is `Tallied`: what each interpreter was asked is disciplined, and the contexts that
are opened in it are those that some session holds, lost sessions included, each held once. -/

namespace PinnedSessions

variable {σ : Type} [Interpreter σ]

/-- The contexts held are the opened ones, each held once. -/
structure Tallied (past : List (Moment σ)) (h : Host σ) : Prop where
  disciplined : ∀ i, Disciplined (talk i past)
  nodup : (holdings past h).Nodup
  mem_iff : ∀ i p, ⟨i, p⟩ ∈ holdings past h ↔ Opened (talk i past) p

/-! ### One turn -/

/-- The tenure that a session has after an operation is the one before or newly acquired. -/
theorem Balance.old_or_new {t : Thread} {o o' : Option Tenure} {as : List Tenure} {rs : List Handle}
    (h : Balance t o o' as rs) {p : Tenure} (hp : o' = some p) : o = some p ∨ p ∈ as := by
  cases h with
  | level => exact .inl hp
  | begun ctx =>
      cases hp
      exact .inr (.head _)
  | givenUp | ended => cases hp

namespace Tallied

variable {past : List (Moment σ)} {m : Moment σ} {h' : Host σ}

theorem still (hI : Tallied past m.host) (hx : m.effect.exchanges = [])
    (hn : (holdings (past ++ [m]) h').Perm (holdings past m.host)) : Tallied (past ++ [m]) h' := by
  have htalk : ∀ i, talk i (past ++ [m]) = talk i past := fun i => by
    rw [talk_snoc, Moment.said_of_nil hx, List.append_nil]
  refine ⟨fun i => ?_, hn.nodup_iff.2 hI.nodup, fun i p => ?_⟩
  · rw [htalk]
    exact hI.disciplined i
  · rw [htalk, hn.mem_iff]
    exact hI.mem_iff i p

theorem turn (hI : Tallied past m.host)
    (ht : Turn m.host m.thread m.effect h' (holdings past m.host) (holdings (past ++ [m]) h'))
    (hf : ∀ i, Fresh (talk i (past ++ [m]))) : Tallied (past ++ [m]) h' := by
  cases ht with
  | still hx hi hr hn => exact hI.still hx hn
  | @moved i x o o' l rest hx hi he hl hc ho hn =>
      have hep : Episode m.thread o o' l.exchanges := hc.episode rfl
      have htalk : talk i (past ++ [m]) = talk i past ++ l.exchanges := by
        rw [talk_snoc, Moment.said_of_some he, if_pos rfl, hl]
      have helse : ∀ j, i ≠ j → talk j (past ++ [m]) = talk j past := fun j hj => by
        rw [talk_snoc, Moment.said_of_some he, if_neg hj, List.append_nil]
      have hfi := hf i
      rw [htalk] at hfi
      have hopen : ∀ p, o = some p → Opened (talk i past) p := fun p hp =>
        (hI.mem_iff i p).1 (ho.mem_iff.2 (List.mem_append_left _ (mem_at_iff.2 ⟨rfl, hp⟩)))
      have hnd := ho.nodup_iff.1 hI.nodup
      -- what the session had before is held by nobody else
      have hrest : ∀ p, ⟨i, p⟩ ∈ rest ↔ Opened (talk i past) p ∧ o ≠ some p := by
        intro p
        rw [← hI.mem_iff i p, ho.mem_iff, List.mem_append, mem_at_iff]
        constructor
        · intro hp
          refine ⟨.inr hp, fun hop => ?_⟩
          exact (List.nodup_append.1 hnd).2.2 _ (mem_at_iff.2 ⟨rfl, hop⟩) _ hp rfl
        · rintro ⟨⟨-, hop⟩ | hp, hne⟩
          · exact absurd hop hne
          · exact hp
      refine ⟨fun j => ?_, hn.nodup_iff.2 ?_, fun j p => ?_⟩
      · by_cases hj : i = j
        · subst hj
          rw [htalk]
          exact hep.disciplined (hI.disciplined i) hopen hfi
        · rw [helse j hj]
          exact hI.disciplined j
      · refine List.nodup_append.2 ⟨by cases o' <;> simp, (List.nodup_append.1 hnd).2.1, ?_⟩
        rintro ⟨j, p⟩ hp q hq rfl
        obtain ⟨rfl, hop⟩ := mem_at_iff.1 hp
        obtain ⟨hold, hne⟩ := (hrest p).1 hq
        have hnew := (hep.balance.old_or_new hop).resolve_left hne
        rw [Fresh, acquisitions_append, List.map_append] at hfi
        exact (List.nodup_append.1 hfi).2.2 _ (List.mem_map_of_mem hold.begun) _
          (List.mem_map_of_mem hnew) rfl
      · rw [hn.mem_iff, List.mem_append, mem_at_iff]
        by_cases hj : i = j
        · subst hj
          rw [htalk, hep.opened_iff (hI.disciplined i) hopen hfi p, hrest p]
          simp
        · rw [helse j hj, ← hI.mem_iff j p, ho.mem_iff, List.mem_append, mem_at_iff]
          simp [hj]

/-! ### What it says of the sessions -/

variable {h : Host σ}

theorem handles_nodup (hT : Tallied past h) (hf : ∀ i, Fresh (talk i past)) :
    (((holders past h).filter (·.session.isInitialized)).map fun r =>
      (r.interpreter, r.session.handle?)).Nodup := by
  rw [map_initialized (g := fun q : Holding => (q.interpreter, some q.tenure.ctx))]
  · refine hT.nodup.map_on fun q hq q' hq' heq => ?_
    obtain ⟨i, p⟩ := q
    obtain ⟨i', p'⟩ := q'
    simp only [Prod.mk.injEq, Option.some.injEq] at heq
    obtain ⟨rfl, hctx⟩ := heq
    have hp := (hT.mem_iff i p).1 hq
    have hp' := (hT.mem_iff i p').1 hq'
    rw [(hf i).eq hp.begun hp'.begun hctx]
  · intro r p hp
    rw [(Session.tenure?_eq_some_iff.1 hp).2.2]

theorem opened_iff (hT : Tallied past h) (i : Nat) (p : Tenure) : Opened (talk i past) p ↔
    ∃ r ∈ holders past h, r.interpreter = i ∧ r.session.tenure? = some p :=
  (hT.mem_iff i p).symm.trans mem_held_iff

end Tallied

/-! ### Whole runs -/

theorem Fresh.of_snoc {past : List (Moment σ)} {m : Moment σ}
    (hf : ∀ i, Fresh (talk i (past ++ [m]))) (i : Nat) : Fresh (talk i past) := by
  have h := hf i
  rw [talk_snoc] at h
  exact h.left

theorem Disciplined.of_snoc {past : List (Moment σ)} {m : Moment σ}
    (hd : ∀ i, Disciplined (talk i (past ++ [m]))) (i : Nat) : Disciplined (talk i past) := by
  have h := hd i
  rw [talk_snoc] at h
  exact h.left

theorem tallied_of_run {May : Host σ → Host σ → Prop} {h₀ h : Host σ} {past : List (Moment σ)}
    (hs : h₀.sessions = .empty) (hm : ∀ h h', May h h' → Aside h h') (hr : Run May h₀ past h)
    (hf : ∀ i, Fresh (talk i past)) : Tallied past h := by
  induction hr with
  | start =>
      have hnil := holdings_of_empty hs
      refine ⟨fun i => .nil, by rw [hnil]; exact List.nodup_nil, fun i p => ?_⟩
      rw [hnil]
      exact ⟨fun hp => absurd hp List.not_mem_nil, fun hp => absurd hp.begun List.not_mem_nil⟩
  | @act past m hr ha ih =>
      have hh := hr.housed (Host.housed_of_empty hs) hm
      have hI : Tallied past m.host := ih (Fresh.of_snoc hf)
      exact hI.turn (Host.turn_act hh ha past) hf
  | between hr hh' ih =>
      have hI := ih hf
      have heq := holdings_congr (hm _ _ hh').sessions
      refine ⟨hI.disciplined, ?_, fun i p => ?_⟩
      · rw [heq]
        exact hI.nodup
      · rw [heq]
        exact hI.mem_iff i p

/-- Whatever a host program does with its sessions, on whichever threads, and whatever interpreters
and everything else around the sessions do: calls that name a context come from the thread that
acquired it, after that and before its one release. -/
theorem disciplined_of_run {h₀ h : Host σ} {past : List (Moment σ)} (hs : h₀.sessions = .empty)
    (hr : Run Aside h₀ past h) (hf : ∀ i, Fresh (talk i past)) (i : Nat) :
    Disciplined (talk i past) :=
  (tallied_of_run hs (fun _ _ => id) hr hf).disciplined i

/-- Two sessions on two threads; one is handed over to the other thread, which cannot end it. -/
def handover : List (Thread × Action) :=
  [(⟨"1"⟩, .create "a" 0 {}),
    (⟨"2"⟩, .create "b" 0 { postponed := true }),
    (⟨"2"⟩, .request "a" (.evaluate (some "x = 1"))),
    (⟨"1"⟩, .request "a" (.evaluate (some "x = 1"))),
    (⟨"2"⟩, .request "b" .start),
    (⟨"2"⟩, .request "b" .close),
    (⟨"2"⟩, .discard "a")]

/-- A host with one interpreter. -/
def lone : Host MemoryInterpreter := { interpreters := [.new] }

theorem disciplined_handover : (∀ i, Fresh (talk i (moments lone handover))) ∧
    Disciplined (talk 0 (moments lone handover)) := by
  have hr : Run Aside lone (moments lone handover) (lone.run handover).2 :=
    run_moments Aside lone (by decide)
  have hf : ∀ i, Fresh (talk i (moments lone handover)) :=
    hr.forall_talk (Host.housed_of_empty rfl) (fun _ _ => id) (by decide +kernel)
      (by unfold Fresh; decide +kernel) List.nodup_nil
  exact ⟨hf, disciplined_of_run rfl hr hf 0⟩

end PinnedSessions
