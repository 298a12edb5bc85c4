import PinnedSessions.Proofs.Session.Conduct

/-! # The objects that a session keeps

An interpreter hands objects out with the values that it answers, and wants them back before the
context goes. What a session keeps of them is told by the exchanges alone: of every number the first
reference that was handed out (`firstOfEach`), in the order in which they came.

`Dealing` lists all that one operation does about objects: work on a live context keeps what is
handed out and gives nothing back, the end of a live context gives everything back that is kept,
and nothing else touches an object. Every operation deals so (`lawful_dealRule`). -/

namespace PinnedSessions

/-! ### Objects that change hands -/

/-- The value that was answered from a context. -/
def Call.given? (ctx : Handle) : (c : Call) → c.Reply → Option Value
  | .apply ctx' _ _ _, .ok v => if ctx' = ctx then some v else none
  | .read ctx' _ _, .ok v => if ctx' = ctx then some v else none
  | _, _ => none

/-- The reference that is given back to a context. -/
def Call.givenBack? (ctx : Handle) : Call → Option ObjectRef
  | .releaseObject ctx' ref => if ctx' = ctx then some ref else none
  | _ => none

/-- The values that were answered from a context, in turn. -/
def valuesGiven (ctx : Handle) (xs : List Exchange) : List Value :=
  xs.filterMap fun x => x.call.given? ctx x.reply

/-- The references that were handed out from a context, in turn. -/
def handedOut (ctx : Handle) (xs : List Exchange) : List ObjectRef :=
  (valuesGiven ctx xs).filterMap fun
    | .object ref => some ref
    | _ => none

/-- The references that were given back to a context, in turn. -/
def givenBack (ctx : Handle) (xs : List Exchange) : List ObjectRef :=
  xs.filterMap fun x => x.call.givenBack? ctx

/-- The first reference of every number. -/
def firstOfEach : List ObjectRef → List ObjectRef
  | [] => []
  | ref :: refs => ref :: (firstOfEach refs).filter fun r => decide (r.id ≠ ref.id)

section Lists

variable {ctx : Handle} {xs ys : List Exchange}

@[simp] theorem valuesGiven_append :
    valuesGiven ctx (xs ++ ys) = valuesGiven ctx xs ++ valuesGiven ctx ys :=
  List.filterMap_append

@[simp] theorem handedOut_append :
    handedOut ctx (xs ++ ys) = handedOut ctx xs ++ handedOut ctx ys := by
  simp [handedOut]

@[simp] theorem givenBack_append :
    givenBack ctx (xs ++ ys) = givenBack ctx xs ++ givenBack ctx ys :=
  List.filterMap_append

/-- Nothing is handed out from a context or given back to it by calls that do not name it. -/
theorem untouched_of_not_named (h : ∀ x ∈ xs, x.call.context? ≠ some ctx) :
    handedOut ctx xs = [] ∧ givenBack ctx xs = [] := by
  have hgiven : valuesGiven ctx xs = [] := by
    refine List.filterMap_eq_nil_iff.2 fun x hx => ?_
    obtain ⟨t, c, r⟩ := x
    have hne := h _ hx
    cases c with
    | apply | read =>
        have hctx : ¬_ = ctx := fun heq => hne (congrArg some heq)
        cases r <;> simp [Call.given?, hctx]
    | _ => rfl
  refine ⟨by rw [handedOut, hgiven]; rfl, List.filterMap_eq_nil_iff.2 fun x hx => ?_⟩
  obtain ⟨t, c, r⟩ := x
  have hne := h _ hx
  cases c with
  | releaseObject => exact if_neg fun heq => hne (congrArg some heq)
  | _ => rfl

/-- The references handed out are those that a session looks for in the values. -/
theorem handedOut_eq (ctx : Handle) (xs : List Exchange) :
    handedOut ctx xs = (valuesGiven ctx xs).filterMap Value.reference? := rfl

/-- One more reference is kept, unless its number is known. -/
theorem firstOfEach_snoc (refs : List ObjectRef) (ref : ObjectRef) :
    firstOfEach (refs ++ [ref]) = if ref.id ∈ (firstOfEach refs).map (·.id)
      then firstOfEach refs else firstOfEach refs ++ [ref] := by
  induction refs with
  | nil => rfl
  | cons a refs ih =>
      rw [List.cons_append, firstOfEach, firstOfEach, ih]
      by_cases ha : a.id = ref.id
      · rw [if_pos (List.mem_map.2 ⟨a, .head _, ha⟩)]
        split
        · rfl
        · simp [ha]
      · have hmem : ref.id ∈ (a :: (firstOfEach refs).filter fun r =>
            decide (r.id ≠ a.id)).map (·.id) ↔ ref.id ∈ (firstOfEach refs).map (·.id) := by
          simp only [List.mem_map, List.mem_cons, List.mem_filter, decide_eq_true_eq]
          constructor
          · rintro ⟨r, rfl | ⟨hr, -⟩, hid⟩
            · exact absurd hid ha
            · exact ⟨r, hr, hid⟩
          · rintro ⟨r, hr, hid⟩
            exact ⟨r, .inr ⟨hr, fun heq => ha (heq ▸ hid)⟩, hid⟩
        simp only [hmem]
        split
        · rfl
        · simp [Ne.symm ha]

namespace HeldObjects

variable {h : HeldObjects} {refs : List ObjectRef}

theorem refs_keep (hh : h.refs = firstOfEach refs) (v : Value) :
    (h.keep v).refs = firstOfEach (refs ++ v.reference?.toList) := by
  unfold keep
  cases v.reference? with
  | none => rw [Option.toList_none, List.append_nil, hh]
  | some ref =>
      rw [Option.toList_some, firstOfEach_snoc, ← hh]
      dsimp only
      split <;> rfl

/-- Keeping what is handed out keeps the first of every number. -/
theorem refs_foldl_keep (hh : h.refs = firstOfEach refs) (vs : List Value) :
    (vs.foldl keep h).refs = firstOfEach (refs ++ vs.filterMap Value.reference?) := by
  induction vs generalizing h refs with
  | nil => rw [List.filterMap_nil, List.append_nil, List.foldl_nil, hh]
  | cons v vs ih =>
      rw [List.foldl_cons, ih (refs_keep hh v), List.append_assoc]
      cases hv : v.reference? with
      | none => rw [List.filterMap_cons_none hv, Option.toList_none, List.nil_append]
      | some ref =>
          rw [List.filterMap_cons_some hv, Option.toList_some, List.singleton_append]

end HeldObjects

end Lists

/-! ### Work on a live context -/

variable {σ α β : Type}

/-- Work on one context: what is handed out is kept, and nothing is given back. -/
structure Collected (env : Ambient) (ctx : Handle) (s s' : Scene σ) (xs : List Exchange) :
    Prop where
  exchanges : s'.world.line.exchanges = s.world.line.exchanges ++ xs
  serves : ∀ x ∈ xs, x.Serves ⟨env.caller, ctx⟩
  givenBack : givenBack ctx xs = []
  held : s'.session.held = (valuesGiven ctx xs).foldl HeldObjects.keep s.session.held

namespace Collected

variable {env : Ambient} {ctx : Handle} {s s' s'' : Scene σ} {xs ys : List Exchange}

theorem quiet (hl : s'.world.line = s.world.line) (hh : s'.session.held = s.session.held) :
    Collected env ctx s s' [] :=
  ⟨by rw [hl, List.append_nil], by simp, rfl, hh⟩

theorem trans (h : Collected env ctx s s' xs) (h' : Collected env ctx s' s'' ys) :
    Collected env ctx s s'' (xs ++ ys) where
  exchanges := by rw [h'.exchanges, h.exchanges, List.append_assoc]
  serves x hx := (List.mem_append.1 hx).elim (h.serves x) (h'.serves x)
  givenBack := by rw [givenBack_append, h.givenBack, h'.givenBack, List.append_nil]
  held := by rw [h'.held, h.held, valuesGiven_append, List.foldl_append]

end Collected

variable [Interpreter σ]

namespace Op

/-- An operation that collects from a context. -/
def Collects (op : Op σ α) (ctx : Handle) : Prop :=
  ∀ env s, ∃ xs, Collected env ctx s (op.run env s).2 xs

/-- An operation that collects from the context of a caller who owns a live one. -/
def Gathers (op : Op σ α) : Prop := ∀ env s ctx, s.session.phase = .live env.caller ctx →
  ∃ xs, Collected env ctx s (op.run env s).2 xs

variable {ctx : Handle}

omit [Interpreter σ] in
/-- An operation that makes no call and keeps what is kept. -/
theorem Collects.quiet {op : Op σ α} (h : ∀ env s, (op.run env s).2.world.line = s.world.line ∧
    (op.run env s).2.session.held = s.session.held) : op.Collects ctx :=
  fun env s => ⟨[], .quiet (h env s).1 (h env s).2⟩

omit [Interpreter σ] in
theorem Collects.pure (a : α) : (Pure.pure a : Op σ α).Collects ctx := .quiet fun _ _ => ⟨rfl, rfl⟩

omit [Interpreter σ] in
theorem Collects.fail (e : Failure) : (Op.fail e : Op σ α).Collects ctx :=
  .quiet fun _ _ => ⟨rfl, rfl⟩

omit [Interpreter σ] in
theorem Collects.session : (Op.session : Op σ Session).Collects ctx := .quiet fun _ _ => ⟨rfl, rfl⟩

omit [Interpreter σ] in
theorem Collects.files : (Op.files : Op σ Files).Collects ctx := .quiet fun _ _ => ⟨rfl, rfl⟩

omit [Interpreter σ] in
theorem Collects.log (e : Event) : (Op.log e : Op σ Unit).Collects ctx :=
  .quiet fun _ _ => ⟨rfl, rfl⟩

omit [Interpreter σ] in
theorem Collects.modify {f : Session → Session} (hf : ∀ s, (f s).held = s.held) :
    (Op.modify f : Op σ Unit).Collects ctx := .quiet fun _ s => ⟨rfl, hf s.session⟩

/-- A call on the context by which no object changes hands. -/
theorem Collects.call {c : Call} (hc : c.Uses ctx) (hg : ∀ r, c.given? ctx r = none)
    (hb : c.givenBack? ctx = none) : (Op.call c : Op σ c.Reply).Collects ctx := by
  intro env s
  let x : Exchange := ⟨env.caller, c, (s.world.line.call env.files env.caller c).1⟩
  refine ⟨[x], rfl, fun y hy => ?_, ?_, ?_⟩
  · rw [List.mem_singleton.1 hy]
    exact ⟨rfl, hc⟩
  · simp [givenBack, x, hb]
  · simp [valuesGiven, x, hg]

omit [Interpreter σ] in
theorem Collects.bind {op : Op σ α} {f : α → Op σ β} (h : op.Collects ctx)
    (hf : ∀ a, (f a).Collects ctx) : (op >>= f).Collects ctx := by
  intro env s
  obtain ⟨xs, hxs⟩ := h env s
  rw [run_bind]
  cases hrun : op.run env s with
  | mk r s' =>
      rw [hrun] at hxs
      cases r with
      | error e => exact ⟨xs, hxs⟩
      | ok a =>
          obtain ⟨ys, hys⟩ := hf a env s'
          exact ⟨xs ++ ys, hxs.trans hys⟩

/-- A call that answers a value, which is kept before anything else is done with it. -/
theorem Collects.keep {c : Call} (hc : c.Uses ctx) {answer : c.Reply → Except GuestFault Value}
    (hg : ∀ r, c.given? ctx r = (answer r).toOption) (hb : c.givenBack? ctx = none)
    {f : Value → Op σ α} (hf : ∀ v, (f v).Collects ctx) :
    ((Op.call c : Op σ c.Reply) >>= fun r => Op.ofReply (answer r) >>= fun v =>
      (Op.modify fun s => { s with held := s.held.keep v }) >>= fun _ => f v).Collects ctx := by
  intro env s
  let x : Exchange := ⟨env.caller, c, (s.world.line.call env.files env.caller c).1⟩
  have hserves : ∀ y ∈ [x], y.Serves ⟨env.caller, ctx⟩ := fun y hy => by
    rw [List.mem_singleton.1 hy]
    exact ⟨rfl, hc⟩
  have hback : givenBack ctx [x] = [] := by simp [givenBack, x, hb]
  rw [run_bind_ok (run_call _ _ _)]
  cases ha : answer (s.world.line.call env.files env.caller c).1 with
  | error e =>
      refine ⟨[x], rfl, hserves, hback, ?_⟩
      simp [valuesGiven, x, hg, ha, Op.ofReply, run_bind, Except.toOption]
  | ok v =>
      obtain ⟨ys, hys⟩ := hf v env ⟨{ s.session with held := s.session.held.keep v },
        { s.world with line := (s.world.line.call env.files env.caller c).2 }⟩
      have hone : Collected env ctx s
          ⟨{ s.session with held := s.session.held.keep v },
            { s.world with line := (s.world.line.call env.files env.caller c).2 }⟩ [x] := by
        refine ⟨rfl, hserves, hback, ?_⟩
        simp [valuesGiven, x, hg, ha, Except.toOption]
      exact ⟨[x] ++ ys, hone.trans hys⟩

omit [Interpreter σ] in
theorem Gathers.of_context {f : Handle → Op σ α} (h : ∀ ctx, (f ctx).Collects ctx) :
    (Session.context >>= f).Gathers := by
  intro env s ctx hp
  rw [run_bind_ok (Session.context_live hp)]
  exact h ctx env s

theorem Gathers.seq {op : Op σ α} {f : α → Op σ β} (h : op.Gathers) (hg : op.Guarded)
    (hf : ∀ a, (f a).Gathers) : (op >>= f).Gathers := by
  intro env s ctx hp
  obtain ⟨xs, hxs⟩ := h env s ctx hp
  have hphase := (hg.steady env s ctx hp).phase
  rw [run_bind]
  cases hrun : op.run env s with
  | mk r s' =>
      rw [hrun] at hxs hphase
      cases r with
      | error e => exact ⟨xs, hxs⟩
      | ok a =>
          obtain ⟨ys, hys⟩ := hf a env s' ctx (hphase.trans hp)
          exact ⟨xs ++ ys, hxs.trans hys⟩

omit [Interpreter σ] in
theorem Gathers.telling {op : Op σ α} (h : op.Gathers) (tell : α → Answer) :
    (Request.telling op tell).Gathers := by
  intro env s ctx hp
  rw [run_telling]
  exact h env s ctx hp

end Op

/-! ### The operations -/

namespace Session

theorem collects_feed (ctx : Handle) (line : Option String) :
    (feed ctx line : Op σ Outcome).Collects ctx := by
  intro env s
  have hcalls : ∃ xs, (s.session.buffer.feed (sink env ctx) line s.world.line).2.2.exchanges =
      s.world.line.exchanges ++ xs ∧ (∀ x ∈ xs, x.Serves ⟨env.caller, ctx⟩) ∧
      givenBack ctx xs = [] ∧ valuesGiven ctx xs = [] := by
    refine feed_relates (P := fun l l' : Line σ => ∃ xs, l'.exchanges = l.exchanges ++ xs ∧
      (∀ x ∈ xs, x.Serves ⟨env.caller, ctx⟩) ∧ givenBack ctx xs = [] ∧ valuesGiven ctx xs = [])
      ?_ ?_ ?_ ?_ line _ _
    · exact fun l => ⟨[], by simp, by simp, rfl, rfl⟩
    · rintro l l' l'' ⟨xs, hxs, hs, hb, hg⟩ ⟨ys, hys, hs', hb', hg'⟩
      refine ⟨xs ++ ys, by rw [hys, hxs, List.append_assoc], fun x hx => ?_, ?_, ?_⟩
      · exact (List.mem_append.1 hx).elim (hs x) (hs' x)
      · rw [givenBack_append, hb, hb', List.append_nil]
      · rw [valuesGiven_append, hg, hg', List.append_nil]
    · intro text l
      refine ⟨[⟨env.caller, .probe ctx text, (l.call env.files env.caller (.probe ctx text)).1⟩],
        ?_, by simpa using ⟨rfl, rfl, rfl⟩, rfl, rfl⟩
      unfold sink
      dsimp only
      split <;> next heq => exact congrArg (fun r => r.2.exchanges) heq.symm
    · intro text l
      refine ⟨[⟨env.caller, .run ctx text, (l.call env.files env.caller (.run ctx text)).1⟩],
        ?_, by simpa using ⟨rfl, rfl, rfl⟩, rfl, rfl⟩
      unfold sink
      dsimp only
      split <;> next heq => exact congrArg (fun r => r.2.exchanges) heq.symm
  obtain ⟨xs, hxs, hs, hb, hg⟩ := hcalls
  exact ⟨xs, hxs, hs, hb, by rw [hg]; rfl⟩

end Session

/-- Continuations behind the gate collect from the context. -/
theorem Op.closed_collects : Op.Closed (σ := σ) (fun f => ∀ ctx, (f ctx).Collects ctx)
    Op.Gathers where
  pure a _ := .pure a
  fail _ _ := .fail _
  bind hop hf ctx := .bind (hop ctx) fun a => hf a ctx
  look hf ctx := .bind .session fun s => hf s.resolver s.buffer ctx
  files _ := .files
  log e ctx := .log (e ctx)
  putResolver _ _ := .modify fun _ => rfl
  putBuffer _ _ := .modify fun _ => rfl
  feed line ctx := Session.collects_feed ctx line
  runFile _ _ := .call ⟨rfl, rfl⟩ (fun _ => rfl) rfl
  readBytes _ _ := .call ⟨rfl, rfl⟩ (fun _ => rfl) rfl
  bindTo _ _ _ := .call ⟨rfl, rfl⟩ (fun _ => rfl) rfl
  useResolver _ _ := .call ⟨rfl, rfl⟩ (fun _ => rfl) rfl
  apply name args kwargs f hf ctx := by
    refine .keep (c := .apply ctx name args kwargs) ⟨rfl, rfl⟩ (fun r => ?_) rfl fun v => hf v ctx
    cases r with
    | ok v => exact if_pos rfl
    | error e => rfl
  read name kind f hf ctx := by
    refine .keep (c := .read ctx name kind) ⟨rfl, rfl⟩ (fun r => ?_) rfl fun v => hf v ctx
    cases r with
    | ok v => exact if_pos rfl
    | error e => rfl
  gate hf := .of_context hf
  seq hg hop hf := hop.seq hg hf
  telling tell hop := hop.telling tell

/-- Every request between the start and the end of a session keeps what is handed out. -/
theorem gathers_perform {r : Request} (h : r.isBoundary = false) :
    (r.perform : Op σ Answer).Gathers :=
  Op.closed_collects.perform h

/-! ### Dealings -/

/-- The context that a session holds, and the objects that are kept of it. -/
structure Account where
  tenure : Tenure
  held : HeldObjects

/-- The account of a session, while it holds a context. -/
def Session.account? (s : Session) : Option Account := s.tenure?.map fun p => ⟨p, s.held⟩

theorem Session.account?_eq_some_iff {s : Session} {p : Tenure} {held : HeldObjects} :
    s.account? = some ⟨p, held⟩ ↔ s.tenure? = some p ∧ s.held = held := by
  unfold account?
  cases s.tenure? with
  | none => simp
  | some q => simp

/-- What one operation of a thread does about objects, by the account of its session before and
after it. -/
inductive Dealing (t : Thread) : Option Account → Option Account → List Exchange → Prop
  | silent (o : Option Account) : Dealing t o o []
  | served {ctx : Handle} {held : HeldObjects} {xs : List Exchange}
      (hs : ∀ x ∈ xs, x.Serves ⟨t, ctx⟩) (hb : givenBack ctx xs = []) :
      Dealing t (some ⟨⟨t, ctx⟩, held⟩)
        (some ⟨⟨t, ctx⟩, (valuesGiven ctx xs).foldl HeldObjects.keep held⟩) xs
  | refused {x : Exchange} (hx : x.call.context? = none) : Dealing t none none [x]
  | begun {ctx : Handle} {x : Exchange} {xs : List Exchange} (hx : x.begun? = some ⟨t, ctx⟩)
      (hs : ∀ x ∈ xs, x.call.Configures ctx) :
      Dealing t none (some ⟨⟨t, ctx⟩, .empty⟩) (x :: xs)
  | givenUp {ctx : Handle} {x z : Exchange} {xs : List Exchange} (hx : x.begun? = some ⟨t, ctx⟩)
      (hs : ∀ x ∈ xs, x.call.Configures ctx) (hz : z.call = .release ctx) :
      Dealing t none none (x :: (xs ++ [z]))
  | ended {ctx : Handle} {held : HeldObjects} {xs : List Exchange}
      (hx : xs.map (·.call) = Session.ending ctx held) :
      Dealing t (some ⟨⟨t, ctx⟩, held⟩) none xs

/-- Nothing changes hands while a context is configured. -/
theorem untouched_of_configures {ctx : Handle} {xs : List Exchange}
    (h : ∀ x ∈ xs, x.call.Configures ctx) (k : Handle) :
    handedOut k xs = [] ∧ givenBack k xs = [] := by
  have hgiven : valuesGiven k xs = [] := by
    refine List.filterMap_eq_nil_iff.2 fun x hx => ?_
    obtain ⟨t, c, r⟩ := x
    have hc := h _ hx
    cases c with
    | apply | read => cases hc
    | _ => rfl
  refine ⟨by rw [handedOut, hgiven]; rfl, List.filterMap_eq_nil_iff.2 fun x hx => ?_⟩
  obtain ⟨t, c, r⟩ := x
  have hc := h _ hx
  cases c with
  | releaseObject => cases hc
  | _ => rfl

namespace Dealing

variable {t : Thread} {o o' : Option Account} {xs : List Exchange}

/-- The context that a session holds and the one that it gets are the only ones that are named. -/
theorem named (h : Dealing t o o' xs) {x : Exchange} (hx : x ∈ xs) {k : Handle}
    (hk : x.call.context? = some k) :
    (∃ held, o = some ⟨⟨t, k⟩, held⟩) ∨ ⟨t, k⟩ ∈ acquisitions xs := by
  have hbegun : ∀ {ctx : Handle} {y : Exchange} {ys : List Exchange}, y.begun? = some ⟨t, ctx⟩ →
      ⟨t, ctx⟩ ∈ acquisitions (y :: ys) := fun hy => List.mem_filterMap.2 ⟨_, .head _, hy⟩
  cases h with
  | silent => cases hx
  | served hs hb =>
      cases hk.symm.trans (hs x hx).uses.names
      exact .inl ⟨_, rfl⟩
  | refused hn =>
      cases List.mem_singleton.1 hx
      rw [hn] at hk
      cases hk
  | begun hy hs =>
      rcases List.mem_cons.1 hx with rfl | hx
      · rw [Exchange.context?_of_begun? hy] at hk
        cases hk
      · cases hk.symm.trans (hs x hx).uses.names
        exact .inr (hbegun hy)
  | givenUp hy hs hz =>
      rcases List.mem_cons.1 hx with rfl | hx
      · rw [Exchange.context?_of_begun? hy] at hk
        cases hk
      · rcases List.mem_append.1 hx with hx | hx
        · cases hk.symm.trans (hs x hx).uses.names
          exact .inr (hbegun hy)
        · cases List.mem_singleton.1 hx
          rw [hz] at hk
          cases hk
          exact .inr (hbegun hy)
  | ended hcalls =>
      have hmem : x.call ∈ Session.ending _ _ := hcalls ▸ List.mem_map_of_mem hx
      rcases List.mem_append.1 hmem with hc | hc
      · obtain ⟨ref, -, heq⟩ := List.mem_map.1 hc
        rw [← heq] at hk
        cases hk
        exact .inl ⟨_, rfl⟩
      · simp only [List.mem_cons, List.not_mem_nil, or_false] at hc
        rcases hc with hc | hc
        all_goals
          rw [hc] at hk
          cases hk
          exact .inl ⟨_, rfl⟩

/-- A session that holds a context has held it before and has kept what was handed out since, or has
just got it. -/
theorem after {p : Tenure} {held' : HeldObjects} (h : Dealing t o (some ⟨p, held'⟩) xs) :
    givenBack p.ctx xs = [] ∧
      ((∃ held, o = some ⟨p, held⟩ ∧ held' = (valuesGiven p.ctx xs).foldl HeldObjects.keep held) ∨
        (p ∈ acquisitions xs ∧ held' = .empty ∧ handedOut p.ctx xs = [])) := by
  cases h with
  | silent => exact ⟨rfl, .inl ⟨held', rfl, rfl⟩⟩
  | served hs hb => exact ⟨hb, .inl ⟨_, rfl, rfl⟩⟩
  | @begun ctx x xs hx hs =>
      obtain ⟨hout, hback⟩ := untouched_of_configures hs ctx
      have hone : ∀ y ∈ [x], y.call.context? ≠ some ctx := fun y hy => by
        rw [List.mem_singleton.1 hy, Exchange.context?_of_begun? hx]
        nofun
      obtain ⟨hout', hback'⟩ := untouched_of_not_named hone
      rw [← List.singleton_append, handedOut_append, givenBack_append]
      refine ⟨by rw [hback', hback]; rfl, .inr ⟨?_, rfl, by rw [hout', hout]; rfl⟩⟩
      exact List.mem_filterMap.2 ⟨x, .head _, hx⟩

end Dealing

/-- Nothing is kept in a session that holds no context. -/
def Session.Vacant (s : Session) : Prop := s.tenure? = none → s.held = .empty

/-- An operation of a thread, by the session and the line before and after it. -/
def Deals (t : Thread) (o : Option Session) (l : Line σ) (o' : Option Session) (l' : Line σ) :
    Prop :=
  (∀ s, o = some s → s.Vacant) → (∀ s, o' = some s → s.Vacant) ∧
    ∃ xs, l'.exchanges = l.exchanges ++ xs ∧
      Dealing t (o.bind Session.account?) (o'.bind Session.account?) xs

namespace Session

omit [Interpreter σ] in
theorem account?_live {s : Session} {owner : Thread} {ctx : Handle}
    (h : s.phase = .live owner ctx) : s.account? = some ⟨⟨owner, ctx⟩, s.held⟩ := by
  rw [account?, tenure?_live h]
  rfl

theorem account?_none {s : Session} (h : s.tenure? = none) : s.account? = none := by
  rw [account?, h]
  rfl

theorem vacant_live {s : Session} {owner : Thread} {ctx : Handle} (h : s.phase = .live owner ctx) :
    s.Vacant := by
  intro hnone
  rw [tenure?_live h] at hnone
  cases hnone

omit [Interpreter σ] in
/-- An operation that makes no call and leaves the account as it is. -/
theorem deals_silent {t : Thread} {o o' : Option Session} {l l' : Line σ}
    (hv : (∀ s, o = some s → s.Vacant) → ∀ s, o' = some s → s.Vacant)
    (hl : l'.exchanges = l.exchanges)
    (ha : o'.bind account? = o.bind account?) : Deals t o l o' l' := by
  refine fun h => ⟨hv h, [], by rw [hl, List.append_nil], ?_⟩
  rw [ha]
  exact .silent _

omit [Interpreter σ] in
theorem deals_refl (t : Thread) (o : Option Session) (l : Line σ) : Deals t o l o l :=
  deals_silent id rfl rfl

theorem deals_gathers {op : Op σ α} (hg : op.Guarded) (h : op.Gathers) (env : Ambient)
    (s : Scene σ) : Deals env.caller (some s.session) s.world.line
      (some (op.run env s).2.session) (op.run env s).2.world.line := by
  rcases s.session.gate_cases env.caller with ⟨ctx, hp⟩ | ⟨e, he⟩
  · have hp' := (hg.steady env s ctx hp).phase.trans hp
    obtain ⟨xs, hxs⟩ := h env s ctx hp
    refine fun _ => ⟨fun s' hs' => ?_, xs, hxs.exchanges, ?_⟩
    · cases hs'
      exact vacant_live hp'
    · rw [Option.bind_some, Option.bind_some, account?_live hp, account?_live hp', hxs.held]
      exact .served hxs.serves hxs.givenBack
  · rw [hg.shut env s e he]
    exact deals_refl _ _ _

/-- What an overture does about objects: nothing. -/
theorem dealing_overture {t : Thread} {s : Session} {xs : List Exchange}
    {o : Except GuestFault Handle} (h : Overture t s xs o) :
    Dealing t none (o.toOption.map fun ctx => ⟨⟨t, ctx⟩, .empty⟩) xs := by
  have hconf : ∀ {ctx : Handle} {ys : List Exchange} {o : Option GuestFault},
      Pursued t (s.plan ctx) ys o → ∀ y ∈ ys, y.call.Configures ctx :=
    fun hp y hy => configures_plan (hp.mem_call hy)
  cases h with
  | refused e => exact .refused rfl
  | givenUp hp => exact .givenUp rfl (hconf hp) rfl
  | live hp => exact .begun rfl (hconf hp)

theorem deals_acquire (env : Ambient) (s : Scene σ) (hs : s.session.phase = .fresh) :
    Deals env.caller (some s.session) s.world.line
      (some ((acquire : Op σ Unit).run env s).2.session)
      ((acquire : Op σ Unit).run env s).2.world.line := by
  have hnone : s.session.tenure? = none := by rw [tenure?, hs]; rfl
  rcases (launch_acquire env s).overture with ⟨e, -, hsession, hline⟩ | ⟨xs, o, ho, hx, hok, herr⟩
  · rw [hsession, hline]
    exact deals_refl _ _ _
  · intro hv
    have hheld : s.session.held = .empty := hv _ rfl hnone
    have hd := dealing_overture ho
    cases o with
    | ok ctx =>
        have hsession := (hok ctx rfl).2
        refine ⟨fun s' hs' => ?_, xs, hx, ?_⟩
        · cases hs'
          rw [hsession]
          exact vacant_live rfl
        · rw [hsession, Option.bind_some, Option.bind_some, account?_none hnone,
            account?_live rfl]
          dsimp only
          rw [hheld]
          exact hd
    | error e =>
        have hsession := (herr e rfl).2
        refine ⟨fun s' hs' => ?_, xs, hx, ?_⟩
        · cases hs'
          rw [hsession]
          exact fun _ => hheld
        · rw [hsession, Option.bind_some, Option.bind_some, account?_none hnone,
            account?_none rfl]
          exact hd

theorem deals_start (env : Ambient) (s : Scene σ) :
    Deals env.caller (some s.session) s.world.line
      (some ((start : Op σ Unit).run env s).2.session)
      ((start : Op σ Unit).run env s).2.world.line := by
  rcases run_start env s with ⟨hp, hrun⟩ | ⟨e, hrun⟩
  · rw [hrun]
    exact deals_acquire env s hp
  · rw [hrun]
    exact deals_refl _ _ _

/-- The owner of a live context gives everything back that is kept, and then ends it. -/
theorem exchanges_close (env : Ambient) {s : Scene σ} {ctx : Handle}
    (hp : s.session.phase = .live env.caller ctx) :
    ∃ xs, ((close : Op σ Unit).run env s).2.world.line.exchanges =
      s.world.line.exchanges ++ xs ∧ xs.map (·.call) = ending ctx s.session.held := by
  obtain ⟨log, hrun⟩ := run_finish ctx env s
  obtain ⟨xs, hxs, hcalls, -⟩ := s.world.line.exchanges_callAll env.files env.caller
    (ending ctx s.session.held)
  rw [close_own hp, hrun]
  exact ⟨xs, hxs, hcalls⟩

omit [Interpreter σ] in
theorem vacant_ended (owner : Option Thread) (s : Session) : (s.ended owner).Vacant := fun _ => rfl

theorem deals_close (env : Ambient) (s : Scene σ) :
    Deals env.caller (some s.session) s.world.line
      (some ((close : Op σ Unit).run env s).2.session)
      ((close : Op σ Unit).run env s).2.world.line := by
  rcases s.session.tenure_cases env.caller with ⟨ctx, hp⟩ | ⟨owner, ctx, hne, hp⟩ | hnone
  · obtain ⟨log, hrun⟩ := run_finish ctx env s
    obtain ⟨xs, hxs, hcalls⟩ := exchanges_close env hp
    refine fun _ => ⟨fun s' hs' => ?_, xs, hxs, ?_⟩
    · cases hs'
      rw [close_own hp, hrun]
      exact vacant_ended _ _
    · rw [Option.bind_some, Option.bind_some, account?_live hp, close_own hp, hrun,
        account?_none rfl]
      exact .ended hcalls
  · rw [close_foreign hne hp]
    exact deals_refl _ _ _
  · obtain ⟨session, hclose, hnone', rfl | rfl⟩ := close_idle hnone
    · rw [hclose]
      exact deals_refl _ _ _
    · rw [hclose]
      refine deals_silent (fun _ s' hs' => ?_) rfl ?_
      · cases hs'
        exact vacant_ended _ _
      · rw [Option.bind_some, Option.bind_some, account?_none hnone, account?_none hnone']

theorem line_discard (env : Ambient) (s : Scene σ) :
    ((discard : Op σ Unit).run env s).2.world.line =
      ((close : Op σ Unit).run env s).2.world.line :=
  congrArg Standing.line (run_discard env s).2

theorem deals_discard (env : Ambient) (s : Scene σ) :
    Deals env.caller (some s.session) s.world.line (s.session.leftBehind env.caller)
      ((discard : Op σ Unit).run env s).2.world.line := by
  rw [line_discard]
  rcases s.session.tenure_cases env.caller with ⟨ctx, hp⟩ | ⟨owner, ctx, hne, hp⟩ | hnone
  · obtain ⟨xs, hxs, hcalls⟩ := exchanges_close env hp
    rw [leftBehind_own hp]
    refine fun _ => ⟨(fun _ h => nomatch h), xs, hxs, ?_⟩
    rw [Option.bind_some, account?_live hp]
    exact .ended hcalls
  · rw [leftBehind_foreign hne hp, close_foreign hne hp]
    exact deals_refl _ _ _
  · obtain ⟨session, hclose, -⟩ := close_idle hnone
    rw [leftBehind_idle hnone, hclose]
    refine deals_silent (fun _ _ h => nomatch h) rfl ?_
    rw [Option.bind_some, account?_none hnone, Option.bind_none]

omit [Interpreter σ] in
/-- A session without an account is as good as none. -/
theorem deals_of_none {t : Thread} {s : Session} {o : Option Session} {l l' : Line σ}
    (hn : s.account? = none) (hv : s.Vacant) (h : Deals t (some s) l o l') :
    Deals t none l o l' := by
  intro _
  obtain ⟨hv', xs, hxs, hd⟩ := h fun s' hs' => by cases hs'; exact hv
  rw [Option.bind_some, hn] at hd
  exact ⟨hv', xs, hxs, hd⟩

theorem deals_create (settings : Settings) (env : Ambient) (w : World σ) :
    Deals env.caller none w.line (create settings env w).1.toOption
      (create settings env w).2.line := by
  have hvacant : (fresh settings).Vacant := fun _ => rfl
  unfold create
  split
  · exact deals_refl _ _ _
  · split
    · refine deals_silent (fun _ s hs => ?_) rfl rfl
      cases hs
      exact hvacant
    · have hd := deals_of_none rfl hvacant (deals_start env ⟨fresh settings, w⟩)
      split
      · next hrun =>
        rw [hrun] at hd
        exact hd
      · next e s hrun =>
        have ha : Attempt env ⟨fresh settings, w⟩
            ((start : Op σ Unit).run env ⟨fresh settings, w⟩) :=
          attempt_acquire env ⟨fresh settings, w⟩ rfl
        rw [hrun] at ha hd
        have hnone : s.session.tenure? = none := ha.failed e rfl
        have hline : ((discard : Op σ Unit).run env s).2.world.line = s.world.line :=
          congrArg Standing.line (discard_idle hnone)
        obtain ⟨-, xs, hxs, hdeal⟩ := hd fun _ h => nomatch h
        refine fun _ => ⟨(fun _ h => nomatch h), xs, ?_, ?_⟩
        · dsimp only
          rw [hline]
          exact hxs
        · rw [Option.bind_some, account?_none hnone] at hdeal
          exact hdeal

end Session

/-- Every request deals with objects so. -/
theorem deals_perform (r : Request) (env : Ambient) (s : Scene σ) :
    Deals env.caller (some s.session) s.world.line
      (some ((r.perform : Op σ Answer).run env s).2.session)
      ((r.perform : Op σ Answer).run env s).2.world.line := by
  cases hr : r.isBoundary with
  | false => exact Session.deals_gathers (guarded_perform hr) (gathers_perform hr) env s
  | true =>
      cases r with
      | start =>
          rw [Request.perform, Request.silent, Op.run_telling]
          exact Session.deals_start env s
      | close =>
          rw [Request.perform, Request.silent, Op.run_telling]
          exact Session.deals_close env s
      | evaluate | apply | runFile | runFileWith | useResolver | read | readBytes | bind
      | switchMode => cases hr

end PinnedSessions
