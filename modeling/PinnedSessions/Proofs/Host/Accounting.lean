import PinnedSessions.Proofs.Host.Ledgers
import PinnedSessions.Proofs.Session.Objects

/-! # Every object is given back once, and in time

While a session is open it keeps, of all references that its interpreter handed out from its
context, the first one of every number, and has given none back. When its owner ends it, exactly
these are given back, oldest first, then the modules are torn down and the context is released, and
the context is never named again (`objects_accounted`). So an in-memory interpreter that only
sessions drive never gets an object back too late.

The invariant is `Kept`: the objects that a session keeps are told by what its interpreter was
asked. One turn changes the account of one session only, because no other session holds its
context. -/

namespace PinnedSessions

variable {σ : Type} [Interpreter σ]

/-- Dealing with objects, as a rule. -/
def dealRule : Rule σ := fun env (o, w) (o', w') => Deals env.caller o w.line o' w'.line

theorem lawful_dealRule : (dealRule : Rule σ).Lawful where
  request r env s := deals_perform r env s
  discard env s := Session.deals_discard env s
  create settings env w := Session.deals_create settings env w

/-- What a session keeps was handed out from its context, and nothing of it was given back. -/
structure Kept (past : List (Moment σ)) (r : Resident) : Prop where
  vacant : r.session.Vacant
  held : ∀ p, r.session.tenure? = some p →
    r.session.held.refs = firstOfEach (handedOut p.ctx (talk r.interpreter past))
  givenBack : ∀ p, r.session.tenure? = some p → givenBack p.ctx (talk r.interpreter past) = []

/-! ### One turn -/

/-- A context that is acquired now was not named before. -/
theorem Disciplined.not_named {xs ys : List Exchange} (hd : Disciplined ys)
    (hf : Fresh (ys ++ xs)) {p : Tenure} (hp : p ∈ acquisitions xs) :
    ∀ y ∈ ys, y.call.context? ≠ some p.ctx := by
  intro y hy hctx
  obtain ⟨pre, post, rfl⟩ := List.append_of_mem hy
  have hopen := hd.owned pre y post p.ctx rfl hctx
  rw [Fresh, acquisitions_append, List.map_append] at hf
  refine (List.nodup_append.1 hf).2.2 p.ctx ?_ p.ctx (List.mem_map_of_mem hp) rfl
  rw [acquisitions_append, List.map_append]
  exact List.mem_append_left _ (List.mem_map.2 ⟨_, hopen.begun, rfl⟩)

namespace Kept

variable {past : List (Moment σ)} {m : Moment σ}

/-- What was said of other contexts does not matter. -/
theorem aside {r : Resident} (hK : Kept past r) {xs : List Exchange}
    (htalk : talk r.interpreter (past ++ [m]) = talk r.interpreter past ++ xs)
    (hx : ∀ p, r.session.tenure? = some p → ∀ x ∈ xs, x.call.context? ≠ some p.ctx) :
    Kept (past ++ [m]) r := by
  refine ⟨hK.vacant, fun p hp => ?_, fun p hp => ?_⟩
  · rw [htalk, handedOut_append, (untouched_of_not_named (hx p hp)).1, List.append_nil]
    exact hK.held p hp
  · rw [htalk, givenBack_append, (untouched_of_not_named (hx p hp)).2, List.append_nil]
    exact hK.givenBack p hp

/-- The session that is changed keeps what is handed out on the way. -/
theorem moved {i : Nat} {o o' : Option Session} {xs : List Exchange}
    (hK : ∀ s, o = some s → Kept past ⟨i, s⟩) (hv : ∀ s, o' = some s → s.Vacant)
    (hd : Dealing m.thread (o.bind Session.account?) (o'.bind Session.account?) xs)
    (hdis : Disciplined (talk i past)) (hf : Fresh (talk i past ++ xs))
    (htalk : talk i (past ++ [m]) = talk i past ++ xs) {s : Session} (hs : o' = some s) :
    Kept (past ++ [m]) ⟨i, s⟩ := by
  subst hs
  have hafter : ∀ p, s.tenure? = some p →
      s.held.refs = firstOfEach (handedOut p.ctx (talk i past ++ xs)) ∧
        PinnedSessions.givenBack p.ctx (talk i past ++ xs) = [] := by
    intro p hp
    have ha : s.account? = some ⟨p, s.held⟩ := Session.account?_eq_some_iff.2 ⟨hp, rfl⟩
    rw [Option.bind_some, ha] at hd
    obtain ⟨hback, ⟨held, ho, hheld⟩ | ⟨hnew, hheld, hout⟩⟩ := hd.after
    · obtain ⟨s₀, rfl, ha₀⟩ := Option.bind_eq_some_iff.1 ho
      obtain ⟨hp₀, hheld₀⟩ := Session.account?_eq_some_iff.1 ha₀
      have hK₀ := hK s₀ rfl
      refine ⟨?_, by rw [givenBack_append, hK₀.givenBack p hp₀, hback, List.append_nil]⟩
      rw [hheld, ← hheld₀, HeldObjects.refs_foldl_keep (hK₀.held p hp₀), handedOut_append,
        handedOut_eq p.ctx xs]
    · obtain ⟨hout₀, hback₀⟩ := untouched_of_not_named (hdis.not_named hf hnew)
      refine ⟨?_, by rw [givenBack_append, hback₀, hback, List.append_nil]⟩
      rw [hheld, handedOut_append, hout₀, hout]
      rfl
  refine ⟨hv s rfl, fun p hp => ?_, fun p hp => ?_⟩
  · rw [htalk]
    exact (hafter p hp).1
  · rw [htalk]
    exact (hafter p hp).2

end Kept

/-- What is set apart of all sessions is held by none of the others. -/
theorem Tallied.ctx_ne {past : List (Moment σ)} {h : Host σ} (hT : Tallied past h)
    (hf : ∀ i, Fresh (talk i past)) {i : Nat} {s : Session} {rest : List Resident} {r : Resident}
    (hperm : (holders past h).Perm (⟨i, s⟩ :: rest)) (hr : r ∈ rest) (hi : r.interpreter = i)
    {p q : Tenure} (hp : s.tenure? = some p) (hq : r.session.tenure? = some q) : q.ctx ≠ p.ctx := by
  intro hctx
  have hheld : (holdings past h).Perm (⟨i, p⟩ :: held rest) := by
    have h := hperm.flatMap_right Resident.holdings
    rw [List.flatMap_cons, Resident.holdings] at h
    dsimp only at h
    rwa [hp] at h
  have hmem : ⟨i, q⟩ ∈ held rest := mem_held_iff.2 ⟨r, hr, hi, hq⟩
  have hpopen := (hT.mem_iff i p).1 (hheld.mem_iff.2 (.head _))
  have hqopen := (hT.mem_iff i q).1 (hheld.mem_iff.2 (.tail _ hmem))
  cases (hf i).eq hqopen.begun hpopen.begun hctx
  exact (List.nodup_cons.1 (hheld.nodup_iff.1 hT.nodup)).1 hmem

theorem kept_turn {past : List (Moment σ)} {m : Moment σ} (hh : m.host.Housed)
    (ha : m.action.usesSessions = true) (hT : Tallied past m.host)
    (hf : ∀ i, Fresh (talk i (past ++ [m]))) (hK : ∀ r ∈ holders past m.host, Kept past r) :
    ∀ r ∈ holders (past ++ [m]) m.next, Kept (past ++ [m]) r := by
  intro r hr
  cases Host.deed_act lawful_dealRule hh ha past with
  | still hx hi hreg hn =>
      have htalk : talk r.interpreter (past ++ [m]) = talk r.interpreter past ++ [] := by
        rw [talk_snoc, Moment.said_of_nil hx]
      exact (hK r (hn.mem_iff.1 hr)).aside htalk (by simp)
  | @moved i x o o' w rest hx hi hreg he hl hk ho hn =>
      have hold : ∀ s, o = some s → (holders past m.host).Perm (⟨i, s⟩ :: rest) := by
        rintro s rfl
        exact ho
      have hkept : ∀ s, o = some s → Kept past ⟨i, s⟩ := fun s hs =>
        hK _ ((hold s hs).mem_iff.2 (.head _))
      obtain ⟨hv, xs, hxs, hd⟩ := hk fun s hs => (hkept s hs).vacant
      have htalk : ∀ j, talk j (past ++ [m]) = talk j past ++ if i = j then xs else [] := by
        intro j
        rw [talk_snoc, Moment.said_of_some he, hl, hxs]
        rfl
      have hfi := hf i
      rw [htalk, if_pos rfl] at hfi
      rcases List.mem_append.1 (hn.mem_iff.1 hr) with hnew | hrest
      · obtain ⟨s, hs, rfl⟩ := List.mem_map.1 hnew
        have htalki := htalk i
        rw [if_pos rfl] at htalki
        exact Kept.moved hkept hv hd (hT.disciplined i) hfi htalki (Option.mem_toList.1 hs)
      · refine (hK r (ho.mem_iff.2 (List.mem_append_right _ hrest))).aside (htalk _) ?_
        intro q hq y hy hctx
        by_cases hi : i = r.interpreter
        · rw [if_pos hi] at hy
          rcases hd.named hy hctx with ⟨held, hacc⟩ | hbegun
          · obtain ⟨s, rfl, hs⟩ := Option.bind_eq_some_iff.1 hacc
            have hp := (Session.account?_eq_some_iff.1 hs).1
            exact hT.ctx_ne (Fresh.of_snoc hf) (hold s rfl) hrest hi.symm hp hq rfl
          · have hmem : ⟨i, q⟩ ∈ holdings past m.host := mem_held_iff.2
              ⟨r, ho.mem_iff.2 (List.mem_append_right _ hrest), hi.symm, hq⟩
            have hopen := (hT.mem_iff i q).1 hmem
            rw [Fresh, acquisitions_append, List.map_append] at hfi
            exact (List.nodup_append.1 hfi).2.2 q.ctx (List.mem_map_of_mem hopen.begun) q.ctx
              (List.mem_map.2 ⟨_, hbegun, rfl⟩) rfl
        · rw [if_neg hi] at hy
          cases hy

/-! ### Whole runs -/

theorem kept_of_run {May : Host σ → Host σ → Prop} {h₀ h : Host σ} {past : List (Moment σ)}
    (hs : h₀.sessions = .empty) (hm : ∀ h h', May h h' → Aside h h') (hr : Run May h₀ past h)
    (hf : ∀ i, Fresh (talk i past)) : ∀ r ∈ holders past h, Kept past r := by
  induction hr with
  | start =>
      intro r hr
      unfold holders Host.residents at hr
      rw [hs] at hr
      cases hr
  | act hr ha ih =>
      have hh := hr.housed (Host.housed_of_empty hs) hm
      have hT := tallied_of_run hs hm hr (Fresh.of_snoc hf)
      exact kept_turn hh ha hT hf (ih (Fresh.of_snoc hf))
  | between hr hh' ih =>
      intro r hr
      unfold holders Host.residents at hr ih
      rw [(hm _ _ hh').sessions] at hr
      exact ih hf r hr

/-! ### The end of a context -/

/-- A moment in which the owner of a live session closes it or throws it away. -/
structure Moment.Ends (m : Moment σ) (r : Resident) (ctx : Handle) : Prop where
  action : ∃ name, m.host.sessions.find? name = some r ∧
    (m.action = .request name .close ∨ m.action = .discard name)
  live : r.session.phase = .live m.thread ctx

/-- What an interpreter is asked when a session on it is worked on. -/
theorem Moment.said_of_operate {m : Moment σ} {name : String} {op : Op σ Answer} {r : Resident}
    {x : σ} (hf : m.host.sessions.find? name = some r)
    (hx : m.host.interpreters[r.interpreter]? = some x)
    (he : m.effect = (m.host.operate m.thread name op).1) : m.said r.interpreter =
      (op.run ⟨m.thread, m.host.files⟩ (m.host.scene r x)).2.world.line.exchanges := by
  rw [Host.operate_eq hf hx rfl] at he
  have hi : m.effect.interpreter = some r.interpreter := congrArg Effect.interpreter he
  rw [Moment.said_of_some hi, if_pos rfl]
  exact congrArg Effect.exchanges he

/-- What a session keeps is given back at its end, before anything else is done. -/
theorem Moment.said_of_ends {m : Moment σ} {r : Resident} {ctx : Handle} (hh : m.host.Housed)
    (he : m.Ends r ctx) :
    (m.said r.interpreter).map (·.call) = Session.ending ctx r.session.held := by
  obtain ⟨⟨name, hf, ha⟩, hp⟩ := he
  obtain ⟨x, hx⟩ := hh.get hf
  obtain ⟨xs, hxs, hcalls⟩ := Session.exchanges_close ⟨m.thread, m.host.files⟩
    (s := m.host.scene r x) hp
  have hsaid : m.said r.interpreter = xs := by
    rcases ha with ha | ha
    · have heff : m.effect =
          (m.host.operate m.thread name (Request.silent Session.close)).1 := by
        rw [Moment.effect, ha]
        rfl
      rw [Moment.said_of_operate hf hx heff, Request.silent, Op.run_telling, hxs]
      rfl
    · have heff : m.effect =
          (m.host.operate m.thread name (Request.silent Session.discard)).1 := by
        rw [Moment.effect, ha]
        rfl
      rw [Moment.said_of_operate hf hx heff, Request.silent, Op.run_telling, Session.line_discard,
        hxs]
      rfl
  rw [hsaid, hcalls]
  rfl

/-- Of a context that is released nothing more is heard. -/
theorem Disciplined.silent_after {xs ys : List Exchange} {ctx : Handle}
    (hd : Disciplined (xs ++ ys)) (hr : ctx ∈ releases xs) :
    ∀ y ∈ ys, y.call.context? ≠ some ctx := by
  intro y hy hctx
  obtain ⟨pre, post, rfl⟩ := List.append_of_mem hy
  have hopen := hd.owned (xs ++ pre) y post ctx (by rw [List.append_assoc]) hctx
  refine hopen.kept ?_
  rw [releases_append]
  exact List.mem_append_left _ hr

/-- How the sessions of a host program account for the objects that interpreters hand out. -/
structure Accounted (past : List (Moment σ)) (h : Host σ) : Prop where
  /-- An open session keeps the first reference of every number, and has given nothing back. -/
  kept : ∀ r ∈ holders past h, ∀ ctx, r.session.handle? = some ctx →
    r.session.heldCount = (firstOfEach (handedOut ctx (talk r.interpreter past))).length ∧
      givenBack ctx (talk r.interpreter past) = []
  /-- When its owner ends it, these are given back in turn, then the modules are torn down and the
  context is released; and after that the context is never named. -/
  returned : ∀ past₁ m past₂, past = past₁ ++ m :: past₂ → ∀ r ctx, m.Ends r ctx →
    (m.said r.interpreter).map (·.call) =
        (firstOfEach (handedOut ctx (talk r.interpreter past₁))).map (Call.releaseObject ctx) ++
          [.teardown ctx, .release ctx] ∧
      ∀ x ∈ talk r.interpreter past₂, x.call.context? ≠ some ctx

theorem accounted_of_run {h₀ h : Host σ} {past : List (Moment σ)} (hs : h₀.sessions = .empty)
    (hr : Run Aside h₀ past h) (hf : ∀ i, Fresh (talk i past)) : Accounted past h := by
  refine ⟨fun r hmem ctx hctx => ?_, ?_⟩
  · have hK := kept_of_run hs (fun _ _ => id) hr hf r hmem
    have hp : ∃ p, r.session.tenure? = some p ∧ p.ctx = ctx := by
      unfold Session.handle? at hctx
      cases hphase : r.session.phase with
      | live owner ctx' =>
          rw [hphase] at hctx
          cases hctx
          exact ⟨_, Session.tenure?_live hphase, rfl⟩
      | fresh | spoiled | closed =>
          rw [hphase] at hctx
          cases hctx
    obtain ⟨p, hp, rfl⟩ := hp
    refine ⟨?_, hK.givenBack p hp⟩
    rw [Session.heldCount, HeldObjects.size, hK.held p hp]
  · rintro past₁ m past₂ rfl r ctx he
    obtain ⟨hr₁, -⟩ := hr.before
    have htalk : talk r.interpreter (past₁ ++ m :: past₂) =
        talk r.interpreter past₁ ++ m.said r.interpreter ++ talk r.interpreter past₂ := by
      rw [List.append_cons, talk_append, talk_snoc]
    have hf₁ : ∀ i, Fresh (talk i past₁) := fun i => by
      have hfi := hf i
      rw [talk_append] at hfi
      exact hfi.left
    have hh := hr₁.housed (Host.housed_of_empty hs) fun _ _ => id
    have hsaid := Moment.said_of_ends hh he
    obtain ⟨name, hfind, -⟩ := he.action
    have hmem : r ∈ holders past₁ m.host := List.mem_append_left _ (hh.mem hfind)
    have hK := kept_of_run hs (fun _ _ => id) hr₁ hf₁ r hmem
    refine ⟨?_, ?_⟩
    · rw [hsaid, Session.ending, hK.held _ (Session.tenure?_live he.live)]
    · have hd := disciplined_of_run hs hr hf r.interpreter
      rw [htalk] at hd
      refine hd.silent_after ?_
      have hrel : ∃ x ∈ m.said r.interpreter, x.call = .release ctx := by
        rw [← List.mem_map, hsaid, Session.ending]
        simp
      obtain ⟨x, hx, hcall⟩ := hrel
      rw [releases_append, List.mem_append]
      exact .inr (List.mem_filterMap.2 ⟨x, hx, by rw [hcall]; rfl⟩)

/-! ### In time -/

/-- A callable that gives no object back too late. -/
def Callable.Punctual (f : Callable) : Prop :=
  ∀ args kwargs l, (f args kwargs l).2.lateObjects = l.lateObjects

/-- An interpreter whose callables give no object back too late. -/
def MemoryInterpreter.Punctual (m : MemoryInterpreter) : Prop :=
  ∀ name f, m.callables.find? name = some f → f.Punctual

namespace MemoryInterpreter

theorem punctual_answer {m : MemoryInterpreter} (h : m.Punctual) (files : Files) (c : Call) :
    (answer files c m).2.Punctual := by
  unfold Punctual
  rw [callables_answer]
  exact h

/-- No object is given back too late by a call that finds its context live. -/
theorem lateObjects_answer {m : MemoryInterpreter} (h : m.Punctual) (files : Files) {c : Call}
    (hc : ∀ ctx, c.context? = some ctx → m.ledger.isLive ctx = true) :
    (answer files c m).2.ledger.lateObjects = m.ledger.lateObjects := by
  rcases answer_cases files c m with ⟨request, rfl⟩ | ⟨ctx, rfl⟩ | ⟨ctx, name, args, kwargs, rfl⟩ |
    ⟨ctx, hu, hw⟩
  · change (m.ledger.acquire request).2.lateObjects = m.ledger.lateObjects
    rcases m.ledger.acquire_cases request with ⟨-, ha⟩ | ⟨-, ha⟩ | ⟨ctx, -, -, ha⟩
    · rw [ha]
    · rw [ha]
    · rw [ha]
      rfl
  · rfl
  · simp only [answer, apply]
    split
    · split
      · next f hf => exact h name f hf args kwargs m.ledger
      · rfl
    · rfl
  · exact hw.inTime (hc ctx hu.names)

end MemoryInterpreter

theorem Dialogue.lateObjects {files : Files} {t : Thread} {a b : MemoryInterpreter}
    {xs : List Exchange} (h : Dialogue files t a xs b) (ha : a.Punctual)
    (hs : Served files xs a) :
    b.Punctual ∧ b.ledger.lateObjects = a.ledger.lateObjects := by
  induction h with
  | done => exact ⟨ha, rfl⟩
  | @call a b c xs h ih =>
      obtain ⟨hlive, hrest⟩ := hs
      obtain ⟨hb, hlate⟩ := ih (MemoryInterpreter.punctual_answer ha files c) hrest
      exact ⟨hb, hlate.trans (MemoryInterpreter.lateObjects_answer ha files hlive)⟩

/-- A change in which nobody but sessions drives an in-memory interpreter, or gives it objects back
too late. -/
structure LeftAlone (h h' : Host MemoryInterpreter) : Prop extends Undriven h h' where
  punctual : ∀ (i : Nat) (x x' : MemoryInterpreter), h.interpreters[i]? = some x →
    h'.interpreters[i]? = some x' → x.Punctual → x'.Punctual
  lateObjects : ∀ (i : Nat) (x x' : MemoryInterpreter), h.interpreters[i]? = some x →
    h'.interpreters[i]? = some x' → x'.ledger.lateObjects = x.ledger.lateObjects

theorem punctual_of_run {h₀ h : Host MemoryInterpreter} {past : List (Moment MemoryInterpreter)}
    (hb : Unused h₀) (hp : ∀ x ∈ h₀.interpreters, x.Punctual ∧ x.ledger.lateObjects = [])
    (hr : Run LeftAlone h₀ past h) (hf : ∀ i, Fresh (talk i past)) {i : Nat}
    {x : MemoryInterpreter} (hx : h.interpreters[i]? = some x) :
    x.Punctual ∧ x.ledger.lateObjects = [] := by
  induction hr generalizing x with
  | start => exact hp x (List.mem_of_getElem? hx)
  | @act past m hr ha ih =>
      have hu := hr.mono fun _ _ => LeftAlone.toUndriven
      have hd := disciplined_of_run hb.sessions ((hu.mono fun _ _ => Undriven.aside).act ha) hf
      obtain ⟨x₀, hx₀, hdia⟩ := dialogue_of_run hb hu ha hx
      have hold := mirrors_of_run hb hu (Disciplined.of_snoc hd) (Fresh.of_snoc hf) hx₀
      have hdi := hd i
      have hfi := hf i
      rw [talk_snoc] at hdi hfi
      have hserved := (hdia.mirrors (quiet_of_run hb hu hx₀) hold hdi hfi).2
      obtain ⟨hp₀, hlate₀⟩ := ih (Fresh.of_snoc hf) hx₀
      obtain ⟨hpx, hlate⟩ := hdia.lateObjects hp₀ hserved
      exact ⟨hpx, hlate.trans hlate₀⟩
  | between hr hu ih =>
      obtain ⟨x₀, hx₀⟩ := hu.get hx
      obtain ⟨hp₀, hlate₀⟩ := ih hf hx₀
      exact ⟨hu.punctual i x₀ x hx₀ hx hp₀, (hu.lateObjects i x₀ x hx₀ hx).trans hlate₀⟩

/-- However sessions are used and ended, on whichever threads, and whatever interpreters answer:
objects are kept while their session is open and given back once, in turn and in time, when it ends;
and no in-memory interpreter that only sessions drive gets one too late. -/
theorem objects_accounted :
    (∀ {σ : Type} [Interpreter σ] {h₀ h : Host σ} {past : List (Moment σ)},
      h₀.sessions = .empty → Run Aside h₀ past h → (∀ i, Fresh (talk i past)) →
        Accounted past h) ∧
    (∀ {h₀ h : Host MemoryInterpreter} {past : List (Moment MemoryInterpreter)}, Unused h₀ →
      (∀ x ∈ h₀.interpreters, x.Punctual ∧ x.ledger.lateObjects = []) →
        Run LeftAlone h₀ past h → (∀ i, Fresh (talk i past)) →
          ∀ x ∈ h.interpreters, x.ledger.lateObjects = []) := by
  refine ⟨fun hs hr hf => accounted_of_run hs hr hf, fun hb hp hr hf x hx => ?_⟩
  obtain ⟨i, hi⟩ := List.mem_iff_getElem?.1 hx
  exact (punctual_of_run hb hp hr hf hi).2

/-- A host with an interpreter that makes objects of two types. -/
def forge : Host MemoryInterpreter :=
  { interpreters := [(MemoryInterpreter.new.register "make" (.object "Part")).register "wrap"
      (.object "Box")] }

theorem unused_forge : Unused forge := by
  refine ⟨rfl, fun x hx => ?_, fun x hx ctx => ?_⟩
  all_goals cases List.mem_singleton.1 hx
  · have hquiet : ∀ typeName, (Callable.object typeName).Quiet := fun _ _ _ l => .refl l
    exact MemoryInterpreter.callables_register
      (MemoryInterpreter.callables_register MemoryInterpreter.callables_new _ (hquiet _)) _ (hquiet _)
  · rfl

theorem punctual_forge : ∀ x ∈ forge.interpreters, x.Punctual ∧ x.ledger.lateObjects = [] := by
  intro x hx
  cases List.mem_singleton.1 hx
  have hpunctual : ∀ typeName, (Callable.object typeName).Punctual := fun _ _ _ _ => rfl
  exact ⟨MemoryInterpreter.callables_register
    (MemoryInterpreter.callables_register MemoryInterpreter.callables_new _ (hpunctual _)) _
    (hpunctual _), rfl⟩

/-- Three objects are asked for, two of them with the same number. -/
def errand : List (Thread × Action) :=
  [(⟨"1"⟩, .create "a" 0 {}),
    (⟨"1"⟩, .request "a" (.apply "make" [.long 7] none)),
    (⟨"1"⟩, .request "a" (.apply "make" [.long 3] none)),
    (⟨"1"⟩, .request "a" (.apply "wrap" [.long 7] none))]

/-- The session is ended after the errand. -/
def homecoming : Moment MemoryInterpreter := ⟨(forge.run errand).2, ⟨"1"⟩, .request "a" .close⟩

/-- After the errand the session keeps two of the objects, and at its end it gives these back in the
order in which they came, one as it was seen first. -/
theorem objects_accounted_errand : ∃ r ctx,
    homecoming.host.sessions.find? "a" = some r ∧ r.session.handle? = some ctx ∧
      handedOut ctx (talk 0 (moments forge errand)) =
        [⟨7, "Part"⟩, ⟨3, "Part"⟩, ⟨7, "Box"⟩] ∧
      r.session.heldCount = 2 ∧ givenBack ctx (talk 0 (moments forge errand)) = [] ∧
      (homecoming.said 0).map (·.call) =
        [.releaseObject ctx ⟨7, "Part"⟩, .releaseObject ctx ⟨3, "Part"⟩, .teardown ctx,
          .release ctx] ∧
      ∀ x ∈ homecoming.next.interpreters, x.ledger.lateObjects = [] := by
  have hr : ∀ May, Run May forge (moments forge errand) homecoming.host :=
    fun May => run_moments May forge (by decide)
  have hend : ∀ May, Run May forge (moments forge errand ++ [homecoming]) homecoming.next :=
    fun May => (hr May).act rfl
  have hf : ∀ i, Fresh (talk i (moments forge errand ++ [homecoming])) :=
    (hend Aside).forall_talk unused_forge.housed (fun _ _ => id) (by decide +kernel)
      (by unfold Fresh; decide +kernel) List.nodup_nil
  obtain ⟨r, x, hfind, hi, hp, -⟩ : ∃ r x, homecoming.host.sessions.find? "a" = some r ∧
      r.interpreter = 0 ∧ r.session.phase = .live ⟨"1"⟩ .first ∧
      homecoming.host.interpreters[0]? = some x :=
    Host.exists_resident (g := Session.phase) (by decide +kernel) (by decide +kernel)
  have hctx := Session.handle?_live hp
  have hout : handedOut .first (talk r.interpreter (moments forge errand)) =
      [⟨7, "Part"⟩, ⟨3, "Part"⟩, ⟨7, "Box"⟩] := by
    rw [hi]
    decide +kernel
  have hmem : r ∈ holders (moments forge errand) homecoming.host :=
    List.mem_append_left _ (((hr Aside).housed unused_forge.housed fun _ _ => id).mem hfind)
  obtain ⟨hcount, hback⟩ :=
    (objects_accounted.1 rfl (hr Aside) (Fresh.of_snoc hf)).kept r hmem _ hctx
  obtain ⟨hcalls, -⟩ := (objects_accounted.1 rfl (hend Aside) hf).returned _ homecoming [] rfl r _
    ⟨⟨"a", hfind, .inl rfl⟩, hp⟩
  rw [hout] at hcount hcalls
  rw [hi] at hout hback hcalls
  exact ⟨r, .first, hfind, hctx, hout, hcount, hback, hcalls,
    objects_accounted.2 unused_forge punctual_forge (hend LeftAlone) hf⟩

end PinnedSessions
