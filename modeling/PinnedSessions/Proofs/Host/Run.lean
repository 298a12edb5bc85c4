import PinnedSessions.Proofs.Host.Turn

/-! # Runs of a host program

A `Run` carries out actions of a host program in turn, each on any thread; in between, what
surrounds the sessions may change. What was done is kept as a list of moments, and `talk` is what it
tells of one interpreter: all that it was asked and what it answered.

Whatever every turn preserves holds after every run, by induction on the run; that each action is a
turn is known once and for all, because a run keeps its host in order (`Run.housed`). -/

namespace PinnedSessions

variable {σ : Type}

/-- What an interpreter was asked, and what it answered, in all that was done. -/
def talk [Interpreter σ] (i : Nat) (past : List (Moment σ)) : List Exchange :=
  past.flatMap (Moment.said i)

theorem talk_snoc [Interpreter σ] (i : Nat) (past : List (Moment σ)) (m : Moment σ) :
    talk i (past ++ [m]) = talk i past ++ m.said i := by
  simp [talk]

theorem talk_append [Interpreter σ] (i : Nat) (past past' : List (Moment σ)) :
    talk i (past ++ past') = talk i past ++ talk i past' := by
  simp [talk]

theorem holdings_of_empty {h : Host σ} (hs : h.sessions = .empty) : holdings [] h = [] := by
  rw [holdings, holders, Host.residents, hs]
  rfl

/-- Actions on sessions in turn, between which surroundings change a host as they may. -/
inductive Run [Interpreter σ] (May : Host σ → Host σ → Prop) (h₀ : Host σ) :
    List (Moment σ) → Host σ → Prop
  | start : Run May h₀ [] h₀
  | act {past : List (Moment σ)} {m : Moment σ} (hr : Run May h₀ past m.host)
      (ha : m.action.usesSessions = true) : Run May h₀ (past ++ [m]) m.next
  | between {past : List (Moment σ)} {h h' : Host σ} (hr : Run May h₀ past h) (hm : May h h') :
      Run May h₀ past h'

/-- What is done when actions are carried out in turn. -/
def moments [Interpreter σ] (h : Host σ) : List (Thread × Action) → List (Moment σ)
  | [] => []
  | (t, a) :: rest => ⟨h, t, a⟩ :: moments (h.act t a).2 rest

theorem Run.append [Interpreter σ] {May : Host σ → Host σ → Prop} {h₀ h : Host σ}
    {past : List (Moment σ)} (hr : Run May h₀ past h) {acts : List (Thread × Action)}
    (ha : ∀ a ∈ acts, a.2.usesSessions = true) :
    Run May h₀ (past ++ moments h acts) (h.run acts).2 := by
  induction acts generalizing past h with
  | nil => rwa [moments, List.append_nil]
  | cons a acts ih =>
      obtain ⟨t, a⟩ := a
      rw [moments, List.append_cons]
      exact ih (hr.act (m := ⟨h, t, a⟩) (ha _ (.head _))) fun b hb => ha b (.tail _ hb)

/-- A session with its interpreter, from what can be computed of them. -/
theorem Host.exists_resident {α : Type} {h : Host σ} {key : String} {i : Nat} {g : Session → α}
    {a : α} (hr : (h.sessions.find? key).map (fun r => (r.interpreter, g r.session)) = some (i, a))
    (hx : h.interpreters[i]?.isSome = true) : ∃ r x, h.sessions.find? key = some r ∧
      r.interpreter = i ∧ g r.session = a ∧ h.interpreters[i]? = some x := by
  obtain ⟨r, hf, hr⟩ := Option.map_eq_some_iff.1 hr
  obtain ⟨hi, ha⟩ := Prod.mk.inj hr
  obtain ⟨x, hx⟩ := Option.isSome_iff_exists.1 hx
  exact ⟨r, x, hf, hi, ha, hx⟩

/-- A list of actions on sessions is carried out as a run. -/
theorem run_moments [Interpreter σ] (May : Host σ → Host σ → Prop) (h : Host σ)
    {acts : List (Thread × Action)} (ha : ∀ a ∈ acts, a.2.usesSessions = true) :
    Run May h (moments h acts) (h.run acts).2 :=
  Run.start.append ha

/-! ### Whole runs -/

/-- A change of everything around the sessions, in which no interpreter goes away. -/
structure Aside (h h' : Host σ) : Prop where
  sessions : h'.sessions = h.sessions
  interpreters : h.interpreters.length ≤ h'.interpreters.length

namespace Run

variable [Interpreter σ] {May : Host σ → Host σ → Prop} {h₀ h : Host σ} {past : List (Moment σ)}

/-- More may happen in between. -/
theorem mono {May' : Host σ → Host σ → Prop} (hm : ∀ h h', May h h' → May' h h')
    (hr : Run May h₀ past h) : Run May' h₀ past h := by
  induction hr with
  | start => exact .start
  | act hr ha ih => exact ih.act ha
  | between hr hh' ih => exact ih.between (hm _ _ hh')

/-- A run goes on where another has ended. -/
theorem trans {h' : Host σ} {past' : List (Moment σ)} (hr : Run May h₀ past h)
    (hr' : Run May h past' h') : Run May h₀ (past ++ past') h' := by
  induction hr' with
  | start => rwa [List.append_nil]
  | act hr' ha ih =>
      rw [← List.append_assoc]
      exact ih.act ha
  | between hr' hm ih => exact ih.between hm

/-- What comes before a moment of a run is a run to that moment. -/
theorem before {past₁ past₂ : List (Moment σ)} {m : Moment σ}
    (hr : Run May h₀ (past₁ ++ m :: past₂) h) :
    Run May h₀ past₁ m.host ∧ m.action.usesSessions = true := by
  generalize hp : past₁ ++ m :: past₂ = past at hr
  induction hr generalizing past₂ with
  | start => simp at hp
  | @act past m' hr ha ih =>
      rcases past₂.eq_nil_or_concat with rfl | ⟨past₂, m'', rfl⟩
      · obtain ⟨rfl, hm⟩ := List.append_inj' hp rfl
        cases hm
        exact ⟨hr, ha⟩
      · have hp' : (past₁ ++ m :: past₂) ++ [m''] = past ++ [m'] := by simpa using hp
        exact ih (List.append_inj' hp' rfl).1
  | between hr hh' ih => exact ih hp

theorem housed (hr : Run May h₀ past h) (h₀h : h₀.Housed) (hm : ∀ h h', May h h' → Aside h h') :
    h.Housed := by
  induction hr with
  | start => exact h₀h
  | act hr ha ih => exact Host.housed_act ih _ ha
  | between hr hh' ih =>
      have ha := hm _ _ hh'
      refine ⟨by rw [ha.sessions]; exact ih.nodup, fun r hr => ?_, fun r hr => ?_⟩
      · rw [Host.residents, ha.sessions] at hr
        exact Nat.lt_of_lt_of_le (ih.lt r hr) ha.interpreters
      · rw [Host.residents, ha.sessions] at hr
        exact ih.tidy r hr

/-- Nothing was asked of an interpreter that is not there. -/
theorem talk_eq_nil (hr : Run May h₀ past h) (h₀h : h₀.Housed) (hm : ∀ h h', May h h' → Aside h h')
    {i : Nat} (hi : h.interpreters.length ≤ i) : talk i past = [] := by
  induction hr with
  | start => rfl
  | @act past m hr ha ih =>
      rw [talk_snoc]
      cases Host.turn_act (hr.housed h₀h hm) ha past with
      | still hx hi' hg hn =>
          rw [ih (hi' ▸ hi), Moment.said_of_nil hx, List.append_nil]
      | @moved j x o o' l rest hx hi' he hl hc ho hn =>
          rw [hi', List.length_set] at hi
          have hj : j < m.host.interpreters.length := (List.getElem?_eq_some_iff.1 hx).1
          rw [ih hi, Moment.said_of_some he, if_neg (by omega), List.append_nil]
  | between hr hh' ih => exact ih (Nat.le_trans (hm _ _ hh').interpreters hi)

/-- Where there is only one interpreter, what holds of what it was asked, and of nothing, holds of
what any was asked. -/
theorem forall_talk {P : List Exchange → Prop} (hr : Run May h₀ past h) (h₀h : h₀.Housed)
    (hm : ∀ h h', May h h' → Aside h h') (hone : h.interpreters.length = 1)
    (hzero : P (talk 0 past)) (hnil : P []) (i : Nat) : P (talk i past) := by
  cases i with
  | zero => exact hzero
  | succ i =>
      rw [hr.talk_eq_nil h₀h hm (by omega)]
      exact hnil

/-- Where there is only one interpreter, contexts were acquired as often as that one gave one. -/
theorem acquisitions_lt {n : Nat} (hr : Run May h₀ past h) (h₀h : h₀.Housed)
    (hm : ∀ h h', May h h' → Aside h h') (hone : h.interpreters.length = 1)
    (hzero : (acquisitions (talk 0 past)).length < n) (i : Nat) :
    (acquisitions (talk i past)).length < n :=
  hr.forall_talk (P := fun xs => (acquisitions xs).length < n) h₀h hm hone hzero
    (Nat.zero_lt_of_lt hzero) i

end Run

end PinnedSessions
