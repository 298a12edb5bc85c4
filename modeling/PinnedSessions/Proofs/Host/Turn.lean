import PinnedSessions.Proofs.Host.Deed

/-! # What one action does to the contexts held

A `Holding` is a live context of a session together with the interpreter that it is in; `holdings`
are those of all sessions, lost ones included. All that an action on sessions does to them, to the
registry and to the interpreters is a `Turn` (`turn_act`): nothing, or what the `Conduct` of one
session allows, while all other sessions keep what they hold. -/

namespace PinnedSessions

variable {σ : Type}

/-! ### Holdings -/

/-- A live context of a session, and the interpreter that it is in. -/
structure Holding where
  interpreter : Nat
  tenure : Tenure

/-- The context that a session holds, if it holds one. -/
def Resident.holdings (r : Resident) : List Holding :=
  r.session.tenure?.toList.map (Holding.mk r.interpreter)

/-- The contexts that sessions hold. -/
def held (rs : List Resident) : List Holding := rs.flatMap Resident.holdings

theorem held_append (rs rs' : List Resident) : held (rs ++ rs') = held rs ++ held rs' :=
  List.flatMap_append

theorem mem_at_iff {i j : Nat} {o : Option Tenure} {p : Tenure} :
    ⟨j, p⟩ ∈ o.toList.map (Holding.mk i) ↔ i = j ∧ o = some p := by
  cases o with
  | none => simp
  | some q => simp [eq_comm]

theorem mem_held_iff {rs : List Resident} {i : Nat} {p : Tenure} :
    ⟨i, p⟩ ∈ held rs ↔ ∃ r ∈ rs, r.interpreter = i ∧ r.session.tenure? = some p := by
  simp only [held, List.mem_flatMap, Resident.holdings, mem_at_iff]

/-- What is read off the initialized sessions is read off the contexts held. -/
theorem map_initialized {β : Type} {f : Resident → β} {g : Holding → β}
    (hfg : ∀ r p, r.session.tenure? = some p → f r = g ⟨r.interpreter, p⟩) (rs : List Resident) :
    (rs.filter (·.session.isInitialized)).map f = (held rs).map g := by
  induction rs with
  | nil => rfl
  | cons r rs ih =>
      rw [held, List.flatMap_cons, ← held, List.map_append, ← ih, List.filter_cons,
        Session.isInitialized_eq, Resident.holdings]
      cases hp : r.session.tenure? with
      | none => simp
      | some p => simp [hfg r p hp]

/-- All contexts that are held. -/
def holdings (past : List (Moment σ)) (h : Host σ) : List Holding := held (holders past h)

theorem holdings_congr {h h' : Host σ} (hs : h'.sessions = h.sessions) (past : List (Moment σ)) :
    holdings past h' = holdings past h := by
  unfold holdings holders Host.residents
  rw [hs]

/-! ### Turns -/

/-- What an action on a thread, with its effect, does to a host and to the contexts held. -/
inductive Turn [Interpreter σ] (h : Host σ) (t : Thread) (e : Effect) (h' : Host σ)
    (old new : List Holding) : Prop
  /-- No interpreter is asked and no context changes hands. -/
  | still (hx : e.exchanges = []) (hi : h'.interpreters = h.interpreters)
      (hr : h'.registry = h.registry) (hn : new.Perm old)
  /-- One session conducts itself on its interpreter, and all others are as before. -/
  | moved {i : Nat} {x : σ} {o o' : Option Tenure} {l : Line σ} {rest : List Holding}
      (hx : h.interpreters[i]? = some x) (hi : h'.interpreters = h.interpreters.set i l.interpreter)
      (he : e.interpreter = some i) (hl : e.exchanges = l.exchanges)
      (hc : Conduct h.files t ⟨o, h.registry, ⟨x, []⟩⟩ ⟨o', h'.registry, l⟩)
      (ho : old.Perm (o.toList.map (Holding.mk i) ++ rest))
      (hn : new.Perm (o'.toList.map (Holding.mk i) ++ rest))

/-- Every operation conducts itself, as a rule. -/
def conductRule [Interpreter σ] : Rule σ := fun env (o, w) (o', w') =>
  Conduct env.files env.caller ⟨o.bind Session.tenure?, w.registry, w.line⟩
    ⟨o'.bind Session.tenure?, w'.registry, w'.line⟩

theorem lawful_conductRule [Interpreter σ] : (conductRule : Rule σ).Lawful where
  request r env s := (orderly_perform r).conduct env s
  discard env s := by
    have h := (Session.orderly_discard (σ := σ)).conduct env s
    rw [Scene.standing, Scene.standing, Session.tenure?_discard] at h
    unfold conductRule
    dsimp only
    rw [Session.tenure?_leftBehind]
    exact h
  create := Session.conduct_create

theorem held_at (i : Nat) (o : Option Session) :
    held (o.toList.map (Resident.mk i)) =
      (o.bind Session.tenure?).toList.map (Holding.mk i) := by
  cases o with
  | none => rfl
  | some s => exact List.flatMap_singleton Resident.holdings _

theorem Host.turn_act [Interpreter σ] {m : Moment σ} (hh : m.host.Housed)
    (ha : m.action.usesSessions = true) (past : List (Moment σ)) :
    Turn m.host m.thread m.effect m.next (holdings past m.host)
      (holdings (past ++ [m]) m.next) := by
  have hheld : ∀ {rs rest : List Resident} {i : Nat} {o : Option Session},
      rs.Perm (o.toList.map (Resident.mk i) ++ rest) →
      (held rs).Perm ((o.bind Session.tenure?).toList.map (Holding.mk i) ++ held rest) := by
    intro rs rest i o h
    rw [← held_at, ← held_append]
    exact h.flatMap_right Resident.holdings
  cases Host.deed_act lawful_conductRule hh ha past with
  | still hx hi hr hn => exact .still hx hi hr (hn.flatMap_right Resident.holdings)
  | moved hx hi hr he hl hk ho hn =>
      refine .moved hx hi he hl ?_ (hheld ho) (hheld hn)
      rw [hr]
      exact hk

end PinnedSessions
