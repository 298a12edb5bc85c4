import PinnedSessions.Host
import PinnedSessions.Proofs.Session.Conduct

/-! # What one action does to the sessions of a host

A `Moment` is an action of a host program on a thread, together with the host before it. It tells
what an interpreter was asked on the way (`Moment.said`), and which session was lost: one that was
live when it was thrown away on a thread that does not own it (`Moment.lost`).

A `Rule` is what may be said of an operation on one session, by the session and the world before and
after it. If it holds of every request, of throwing a session away and of making one, then all that
an action on sessions does is a `Deed` (`deed_act`): nothing, or one session is changed by the rule
while all others, lost ones included, stay as they are. -/

namespace PinnedSessions

variable {σ : Type}

/-- Whether an action only uses sessions: it marks no thread and makes no call by hand. -/
def Action.usesSessions : Action → Bool
  | .create .. | .createOnMain .. | .request .. | .discard _ | .chooseMain _ => true
  | .mark _ | .unmark _ | .call .. | .giveBack .. => false

/-- An action on a thread, and the host before it. -/
structure Moment (σ : Type) where
  host : Host σ
  thread : Thread
  action : Action

namespace Moment

/-- The sessions that are live when they are thrown away, on a thread that does not own them. -/
def lost (m : Moment σ) : List Resident :=
  match m.action with
  | .discard name => (m.host.sessions.find? name).toList.filter fun r =>
      r.session.isInitialized && decide (r.session.owner? ≠ some m.thread)
  | _ => []

variable [Interpreter σ]

/-- What came of the action. -/
def effect (m : Moment σ) : Effect := (m.host.act m.thread m.action).1

/-- The host after the action. -/
def next (m : Moment σ) : Host σ := (m.host.act m.thread m.action).2

/-- What an interpreter was asked on the way, and what it answered. -/
def said (i : Nat) (m : Moment σ) : List Exchange :=
  if m.effect.interpreter = some i then m.effect.exchanges else []

end Moment

theorem Moment.said_of_nil [Interpreter σ] {m : Moment σ} (h : m.effect.exchanges = []) (i : Nat) :
    m.said i = [] := by
  rw [said, h, ite_self]

theorem Moment.said_of_some [Interpreter σ] {m : Moment σ} {i : Nat}
    (h : m.effect.interpreter = some i) (j : Nat) :
    m.said j = if i = j then m.effect.exchanges else [] := by
  simp only [said, h, Option.some.injEq]

/-! ### The sessions of a host -/

namespace Host

/-- The sessions of a host. -/
def residents (h : Host σ) : List Resident := h.sessions.entries.map Prod.snd

/-- All sessions but that of one name. -/
def others (h : Host σ) (name : String) : List Resident :=
  (h.sessions.erase name).entries.map Prod.snd

theorem residents_of_find? {h : Host σ} (hk : h.sessions.keys.Nodup) {name : String} {r : Resident}
    (hf : h.sessions.find? name = some r) : h.residents.Perm (r :: h.others name) :=
  (Table.perm_of_find? hk hf).map Prod.snd

theorem residents_of_free {h : Host σ} {name : String} (hf : h.sessions.find? name = none) :
    h.residents = h.others name := by
  rw [residents, others, Table.erase_of_find? hf]

theorem residents_put {h : Host σ} (hk : h.sessions.keys.Nodup) (name : String) (r : Resident) :
    (h.put name r).residents.Perm (r :: h.others name) :=
  (Table.perm_insert h.sessions hk name r).map Prod.snd

/-- Names are given once, every session is on an interpreter that is there, and nothing is left over
in a closed one. -/
structure Housed (h : Host σ) : Prop where
  nodup : h.sessions.keys.Nodup
  lt : ∀ r ∈ h.residents, r.interpreter < h.interpreters.length
  tidy : ∀ r ∈ h.residents, r.session.Tidy

theorem Housed.mem {h : Host σ} (hh : h.Housed) {name : String} {r : Resident}
    (hf : h.sessions.find? name = some r) : r ∈ h.residents :=
  (residents_of_find? hh.nodup hf).mem_iff.2 (.head _)

theorem Housed.get {h : Host σ} (hh : h.Housed) {name : String} {r : Resident}
    (hf : h.sessions.find? name = some r) : ∃ x, h.interpreters[r.interpreter]? = some x :=
  ⟨_, List.getElem?_eq_getElem (hh.lt r (hh.mem hf))⟩

theorem housed_settle {h : Host σ} (hh : h.Housed) (i : Nat) (w : World σ) :
    (h.settle i w).Housed :=
  ⟨hh.nodup, fun r hr => by simpa [settle] using hh.lt r hr, hh.tidy⟩

theorem others_subset (h : Host σ) (name : String) : h.others name ⊆ h.residents :=
  (List.filter_sublist.map Prod.snd).subset

theorem housed_put {h : Host σ} (hh : h.Housed) (name : String) {r : Resident}
    (hr : r.interpreter < h.interpreters.length) (ht : r.session.Tidy) : (h.put name r).Housed := by
  have hmem : ∀ r' ∈ (h.put name r).residents, r' = r ∨ r' ∈ h.residents := fun r' hr' =>
    (List.mem_cons.1 ((residents_put hh.nodup name r).mem_iff.1 hr')).imp_right fun ho =>
      h.others_subset name ho
  refine ⟨Table.nodup_insert hh.nodup name r, fun r' hr' => ?_, fun r' hr' => ?_⟩
  · rcases hmem r' hr' with rfl | ho
    · exact hr
    · exact hh.lt r' ho
  · rcases hmem r' hr' with rfl | ho
    · exact ht
    · exact hh.tidy r' ho

/-- Without the session of a name. -/
def drop (h : Host σ) (name : String) : Host σ := { h with sessions := h.sessions.erase name }

theorem housed_drop {h : Host σ} (hh : h.Housed) (name : String) : (h.drop name).Housed :=
  ⟨Table.nodup_erase hh.nodup name, fun r hr => hh.lt r (h.others_subset name hr),
    fun r hr => hh.tidy r (h.others_subset name hr)⟩

theorem drop_put (h : Host σ) (name : String) (r : Resident) :
    (h.put name r).drop name = h.drop name := by
  simp only [drop, put, Table.erase_insert]

theorem drop_free {h : Host σ} {name : String} (hf : h.sessions.find? name = none) :
    h.drop name = h := by
  rw [drop, Table.erase_of_find? hf]

theorem housed_of_empty {h : Host σ} (hs : h.sessions = .empty) : h.Housed := by
  have hnil : h.residents = [] := by rw [Host.residents, hs]; rfl
  refine ⟨by rw [hs]; exact List.nodup_nil, fun r hr => ?_, fun r hr => ?_⟩
  all_goals
    rw [hnil] at hr
    exact absurd hr List.not_mem_nil

end Host

/-- The sessions of a host and the lost ones. -/
def holders (past : List (Moment σ)) (h : Host σ) : List Resident :=
  h.residents ++ past.flatMap Moment.lost

/-! ### Deeds -/

/-- What may be said of an operation, by who calls and by the session and the world before and after
it. There is no session before it is made and after it is thrown away. -/
abbrev Rule (σ : Type) : Type :=
  Ambient → Option Session × World σ → Option Session × World σ → Prop

/-- A rule that holds of every operation. -/
structure Rule.Lawful [Interpreter σ] (K : Rule σ) : Prop where
  request : ∀ (r : Request) (env : Ambient) (s : Scene σ), K env (some s.session, s.world)
    (some (r.perform.run env s).2.session, (r.perform.run env s).2.world)
  discard : ∀ (env : Ambient) (s : Scene σ), K env (some s.session, s.world)
    (s.session.leftBehind env.caller, (Session.discard.run env s).2.world)
  create : ∀ (settings : Settings) (env : Ambient) (w : World σ), K env (none, w)
    ((Session.create settings env w).1.toOption, (Session.create settings env w).2)

/-- What an action on a thread, with its effect, does to a host and to the sessions in it. -/
inductive Deed [Interpreter σ] (K : Rule σ) (h : Host σ) (t : Thread) (e : Effect) (h' : Host σ)
    (old new : List Resident) : Prop
  /-- No interpreter is asked and no session is changed. -/
  | still (hx : e.exchanges = []) (hi : h'.interpreters = h.interpreters)
      (hr : h'.registry = h.registry) (hn : new.Perm old)
  /-- One session is changed by the rule, and all others are as before. -/
  | moved {i : Nat} {x : σ} {o o' : Option Session} {w : World σ} {rest : List Resident}
      (hx : h.interpreters[i]? = some x)
      (hi : h'.interpreters = h.interpreters.set i w.line.interpreter)
      (hr : h'.registry = w.registry) (he : e.interpreter = some i)
      (hl : e.exchanges = w.line.exchanges) (hk : K ⟨t, h.files⟩ (o, h.world x) (o', w))
      (ho : old.Perm (o.toList.map (Resident.mk i) ++ rest))
      (hn : new.Perm (o'.toList.map (Resident.mk i) ++ rest))

namespace Host

/-- The scene of a session before an action on a thread. -/
def scene (h : Host σ) (r : Resident) (x : σ) : Scene σ := ⟨r.session, h.world x⟩

theorem operate_eq {h : Host σ} {t : Thread} {name : String} {op : Op σ Answer} {r : Resident}
    {x : σ} {result : Except Failure Answer} {s : Scene σ} (hf : h.sessions.find? name = some r)
    (hx : h.interpreters[r.interpreter]? = some x)
    (hs : op.run ⟨t, h.files⟩ (h.scene r x) = (result, s)) :
    h.operate t name op = (effect r.interpreter s.world (.ofExcept result),
      (h.settle r.interpreter s.world).put name ⟨r.interpreter, s.session⟩) := by
  unfold scene at hs
  simp only [operate, hf, hx, hs]

theorem operate_none {h : Host σ} {t : Thread} {name : String} {op : Op σ Answer}
    (hf : h.sessions.find? name = none) : h.operate t name op = (plainly .noSession [], h) := by
  simp only [operate, hf]

variable [Interpreter σ]

variable {K : Rule σ}

theorem deed_operate (hK : K.Lawful) {h : Host σ} (hh : h.Housed) (t : Thread) (name : String)
    (r : Request) (lost : List Resident) :
    Deed K h t (h.operate t name r.perform).1 (h.operate t name r.perform).2 (h.residents ++ lost)
      ((h.operate t name r.perform).2.residents ++ lost) := by
  cases hf : h.sessions.find? name with
  | none =>
      rw [operate_none hf]
      exact .still rfl rfl rfl (.refl _)
  | some resident =>
      obtain ⟨x, hx⟩ := hh.get hf
      have hk := hK.request r ⟨t, h.files⟩ (h.scene resident x)
      cases hs : r.perform.run ⟨t, h.files⟩ (h.scene resident x) with
      | mk result s =>
          rw [hs] at hk
          rw [operate_eq hf hx hs]
          exact .moved hx rfl rfl rfl rfl hk ((residents_of_find? hh.nodup hf).append_right lost)
            ((residents_put (h := h.settle resident.interpreter s.world) hh.nodup name
              _).append_right lost)

theorem housed_operate {h : Host σ} (hh : h.Housed) (t : Thread) (name : String) {op : Op σ Answer}
    (hop : op.Orderly) : (h.operate t name op).2.Housed := by
  cases hf : h.sessions.find? name with
  | none =>
      rw [operate_none hf]
      exact hh
  | some r =>
      obtain ⟨x, hx⟩ := hh.get hf
      rw [operate_eq hf hx rfl]
      refine housed_put (housed_settle hh _ _) name ?_ ?_
      · rw [settle, List.length_set]
        exact hh.lt r (hh.mem hf)
      · exact hop.tidy ⟨t, h.files⟩ (h.scene r x) (hh.tidy r (hh.mem hf))

/-! ### Throwing away -/

theorem discard_eq (h : Host σ) (t : Thread) (name : String) :
    h.discard t name = ((h.operate t name (Request.silent Session.discard)).1,
      (h.operate t name (Request.silent Session.discard)).2.drop name) := rfl

omit [Interpreter σ] in
theorem lost_discard {h : Host σ} {t : Thread} {name : String} {r : Resident}
    (hf : h.sessions.find? name = some r) : Moment.lost ⟨h, t, .discard name⟩ =
      (r.session.leftBehind t).toList.map (Resident.mk r.interpreter) := by
  simp only [Moment.lost, hf, Option.toList_some, List.filter_cons, List.filter_nil,
    Session.leftBehind]
  split <;> rfl

/-- A session that is thrown away is gone, or lost if it could not be ended. -/
theorem deed_discard (hK : K.Lawful) {h : Host σ} (hh : h.Housed) (t : Thread) (name : String)
    (lost : List Resident) :
    Deed K h t (h.discard t name).1 (h.discard t name).2 (h.residents ++ lost)
      ((h.discard t name).2.residents ++ (lost ++ Moment.lost ⟨h, t, .discard name⟩)) := by
  rw [discard_eq]
  cases hf : h.sessions.find? name with
  | none =>
      have hl : Moment.lost ⟨h, t, .discard name⟩ = [] := by simp only [Moment.lost, hf]; rfl
      rw [operate_none hf, drop_free hf, hl, List.append_nil]
      exact .still rfl rfl rfl (.refl _)
  | some r =>
      obtain ⟨x, hx⟩ := hh.get hf
      have hk := hK.discard ⟨t, h.files⟩ (h.scene r x)
      rw [← Op.run_telling Session.discard fun _ => .done] at hk
      cases hs : (Request.silent Session.discard).run ⟨t, h.files⟩ (h.scene r x) with
      | mk result s =>
          rw [operate_eq hf hx hs, drop_put, lost_discard hf, ← List.append_assoc]
          rw [Request.silent] at hs
          rw [hs] at hk
          exact .moved hx rfl rfl rfl rfl hk ((residents_of_find? hh.nodup hf).append_right lost)
            List.perm_append_comm

/-! ### Creating -/

theorem create_none {h : Host σ} {t : Thread} {name : String} {i : Nat} {settings : Settings}
    (hx : h.interpreters[i]? = none) :
    h.create t name i settings = (plainly .noInterpreter [], h) := by
  simp only [create, hx]

theorem deed_create (hK : K.Lawful) {h : Host σ} (hh : h.Housed) (t : Thread) {name : String}
    (i : Nat) (settings : Settings) (hf : h.sessions.find? name = none) (lost : List Resident) :
    Deed K h t (h.create t name i settings).1 (h.create t name i settings).2 (h.residents ++ lost)
      ((h.create t name i settings).2.residents ++ lost) := by
  cases hx : h.interpreters[i]? with
  | none =>
      rw [create_none hx]
      exact .still rfl rfl rfl (.refl _)
  | some x =>
      have hk := hK.create settings ⟨t, h.files⟩ (h.world x)
      cases hs : Session.create settings ⟨t, h.files⟩ (h.world x) with
      | mk result w =>
          rw [hs] at hk
          cases result with
          | error e =>
              simp only [create, hx, hs]
              exact .moved hx rfl rfl rfl rfl hk (.refl _) (.refl _)
          | ok s =>
              simp only [create, hx, hs]
              refine .moved hx rfl rfl rfl rfl hk ?_
                ((residents_put (h := h.settle i w) hh.nodup name _).append_right lost)
              rw [residents_of_free hf]
              exact .refl _

theorem housed_create {h : Host σ} (hh : h.Housed) (t : Thread) (name : String) (i : Nat)
    (settings : Settings) : (h.create t name i settings).2.Housed := by
  cases hx : h.interpreters[i]? with
  | none =>
      rw [create_none hx]
      exact hh
  | some x =>
      simp only [create, hx]
      split
      · next hs =>
        refine housed_put (housed_settle hh _ _) name ?_
          (Session.tidy_create (congrArg Prod.fst hs))
        rw [settle, List.length_set]
        exact (List.getElem?_eq_some_iff.1 hx).1
      · exact housed_settle hh _ _

/-! ### Every action -/

theorem housed_act {h : Host σ} (hh : h.Housed) (t : Thread) {a : Action}
    (ha : a.usesSessions = true) : (h.act t a).2.Housed := by
  cases a with
  | create name i settings =>
      rw [act]
      split
      · exact hh
      · exact housed_create hh t name i settings
  | createOnMain name settings =>
      rw [act]
      split
      · exact hh
      · split
        · exact hh
        · exact housed_create hh t name _ settings
  | request name r => exact housed_operate hh t name (orderly_perform r)
  | discard name =>
      have hd := (Session.orderly_discard (σ := σ)).telling fun _ => .done
      exact housed_drop (housed_operate hh t name hd) name
  | chooseMain i =>
      rw [act, chooseMain]
      split <;> exact ⟨hh.nodup, hh.lt, hh.tidy⟩
  | mark | unmark | call | giveBack => cases ha

theorem deed_act (hK : K.Lawful) {m : Moment σ} (hh : m.host.Housed)
    (ha : m.action.usesSessions = true) (past : List (Moment σ)) :
    Deed K m.host m.thread m.effect m.next (holders past m.host)
      (holders (past ++ [m]) m.next) := by
  have hl : (past ++ [m]).flatMap Moment.lost = past.flatMap Moment.lost ++ m.lost := by simp
  unfold holders Moment.effect Moment.next
  rw [hl]
  obtain ⟨h, t, a⟩ := m
  dsimp only at hh ha ⊢
  cases a with
  | create name i settings =>
      rw [act, Moment.lost, List.append_nil]
      split
      · exact .still rfl rfl rfl (.refl _)
      · next hn => exact deed_create hK hh t i settings (Table.find?_of_contains hn) _
  | createOnMain name settings =>
      rw [act, Moment.lost, List.append_nil]
      split
      · exact .still rfl rfl rfl (.refl _)
      · next hn =>
        split
        · exact .still rfl rfl rfl (.refl _)
        · exact deed_create hK hh t _ settings (Table.find?_of_contains hn) _
  | request name r =>
      rw [act, Moment.lost, List.append_nil]
      exact deed_operate hK hh t name r _
  | discard name => exact deed_discard hK hh t name _
  | chooseMain i =>
      rw [act, chooseMain, Moment.lost, List.append_nil]
      split <;> exact .still rfl rfl rfl (.refl _)
  | mark | unmark | call | giveBack => cases ha

end Host

end PinnedSessions
