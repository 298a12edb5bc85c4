import PinnedSessions.Session.Request

/-! # Working on a live context

Between its start and its end a session only works on the context that it holds.

* `Call.Uses` is a call that names a context and does not end it; `Line.callAll` makes many calls.
* `Steady` relates the scenes before and after some work on one context: the phase of the session
  and the registry are as before, and all that happened on the line are calls that use the context.
* `Op.Uses` is an operation that is steady whatever comes of it; `Op.Answers` is one that, besides,
  never fails. Both are closed under going on with the result (`Op.Uses.bind`). -/

namespace PinnedSessions

variable {σ α β : Type}

/-! ### Calls -/

namespace Call

/-- The context that a call ends. -/
def released? : Call → Option Handle
  | .release ctx => some ctx
  | _ => none

/-- The context that a call has begun, if that was its answer. -/
def acquired? : (c : Call) → c.Reply → Option Handle
  | .acquire _, .ok ctx => some ctx
  | _, _ => none

/-- A call on a context that does not end it. -/
structure Uses (c : Call) (ctx : Handle) : Prop where
  names : c.context? = some ctx
  keeps : c.released? = none

theorem Uses.acquired? {c : Call} {ctx : Handle} (h : c.Uses ctx) (r : c.Reply) :
    c.acquired? r = none := by
  cases c with
  | acquire request => cases h.names
  | _ => rfl

end Call

variable [Interpreter σ]

/-- Make calls in turn. -/
def Line.callAll (files : Files) (thread : Thread) : List Call → Line σ → Line σ
  | [], line => line
  | c :: cs, line => callAll files thread cs (line.call files thread c).2

theorem Line.callAll_append (files : Files) (thread : Thread) (cs ds : List Call) (line : Line σ) :
    line.callAll files thread (cs ++ ds) =
      (line.callAll files thread cs).callAll files thread ds := by
  induction cs generalizing line with
  | nil => rfl
  | cons c cs ih => exact ih _

/-- Calls in turn are listed in turn, under the thread that makes them. -/
theorem Line.exchanges_callAll (files : Files) (thread : Thread) (cs : List Call) (line : Line σ) :
    ∃ xs : List Exchange, (line.callAll files thread cs).exchanges = line.exchanges ++ xs ∧
      xs.map (·.call) = cs ∧ ∀ x ∈ xs, x.thread = thread := by
  induction cs generalizing line with
  | nil => exact ⟨[], by simp [callAll], rfl, by simp⟩
  | cons c cs ih =>
      obtain ⟨xs, hxs, hcs, ht⟩ := ih (line.call files thread c).2
      refine ⟨⟨thread, c, (line.call files thread c).1⟩ :: xs, ?_, by simp [hcs], ?_⟩
      · rw [callAll, hxs]
        simp [Line.call]
      · intro x hx
        rcases List.mem_cons.1 hx with rfl | hx
        · rfl
        · exact ht x hx

/-! ### Steady work -/

/-- Some work on one context, told by the scenes before and after it. -/
structure Steady (env : Ambient) (ctx : Handle) (s s' : Scene σ) : Prop where
  phase : s'.session.phase = s.session.phase
  registry : s'.world.registry = s.world.registry
  calls : ∃ cs : List Call, (∀ c ∈ cs, c.Uses ctx) ∧
    s'.world.line = s.world.line.callAll env.files env.caller cs

namespace Steady

variable {env : Ambient} {ctx : Handle} {s s' s'' : Scene σ}

/-- Work in which no call is made. -/
theorem quiet (hp : s'.session.phase = s.session.phase) (hr : s'.world.registry = s.world.registry)
    (hl : s'.world.line = s.world.line) : Steady env ctx s s' :=
  ⟨hp, hr, [], by simp, hl⟩

theorem refl (s : Scene σ) : Steady env ctx s s := quiet rfl rfl rfl

theorem trans (h : Steady env ctx s s') (h' : Steady env ctx s' s'') : Steady env ctx s s'' := by
  obtain ⟨cs, hcs, hl⟩ := h.calls
  obtain ⟨ds, hds, hl'⟩ := h'.calls
  refine ⟨h'.phase.trans h.phase, h'.registry.trans h.registry, cs ++ ds, ?_, ?_⟩
  · intro c hc
    rcases List.mem_append.1 hc with hc | hc
    · exact hcs c hc
    · exact hds c hc
  · rw [hl', hl, Line.callAll_append]

end Steady

namespace Op

/-- An operation that is steady on a context. -/
def Uses (op : Op σ α) (ctx : Handle) : Prop := ∀ env s, Steady env ctx s (op.run env s).2

/-- An operation that is steady on a context and never fails. -/
def Answers (op : Op σ α) (ctx : Handle) : Prop :=
  ∀ env s, ∃ a s', op.run env s = (.ok a, s') ∧ Steady env ctx s s'

variable {ctx : Handle}

theorem Answers.uses {op : Op σ α} (h : op.Answers ctx) : op.Uses ctx := by
  intro env s
  obtain ⟨a, s', hrun, hs⟩ := h env s
  rw [hrun]
  exact hs

theorem Answers.pure (a : α) : (Pure.pure a : Op σ α).Answers ctx :=
  fun _ s => ⟨a, s, rfl, .refl s⟩

theorem Answers.session : (Op.session : Op σ Session).Answers ctx :=
  fun _ s => ⟨s.session, s, rfl, .refl s⟩

theorem Answers.files : (Op.files : Op σ Files).Answers ctx :=
  fun env s => ⟨env.files, s, rfl, .refl s⟩

theorem Answers.log (e : Event) : (Op.log e : Op σ Unit).Answers ctx :=
  fun _ _ => ⟨(), _, rfl, .quiet rfl rfl rfl⟩

theorem Answers.call {c : Call} (hc : c.Uses ctx) : (Op.call c : Op σ c.Reply).Answers ctx :=
  fun _ _ => ⟨_, _, rfl, rfl, rfl, [c], by simpa using hc, rfl⟩

theorem Uses.fail (e : Failure) : (Op.fail e : Op σ α).Uses ctx := fun _ s => .refl s

theorem Uses.modify {f : Session → Session} (hf : ∀ s, (f s).phase = s.phase) :
    (Op.modify f : Op σ Unit).Uses ctx := fun _ s => .quiet (hf s.session) rfl rfl

theorem Uses.bind {op : Op σ α} {f : α → Op σ β} (h : op.Uses ctx) (hf : ∀ a, (f a).Uses ctx) :
    (op >>= f).Uses ctx := by
  intro env s
  have hs := h env s
  rw [run_bind]
  cases hrun : op.run env s with
  | mk r s' =>
      rw [hrun] at hs
      cases r with
      | error e => exact hs
      | ok a => exact hs.trans (hf a env s')

theorem Uses.ofReply (r : Except GuestFault α) : (Op.ofReply r : Op σ α).Uses ctx := by
  cases r with
  | ok a => exact (Answers.pure a).uses
  | error e => exact .fail _

end Op

end PinnedSessions
