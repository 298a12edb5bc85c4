import PinnedSessions.Proofs.Host.Census
import PinnedSessions.Proofs.Session.Twins

/-! # Sessions on different threads do not interfere

If one session is only ever used on one thread, and that thread uses no other session, then all that
can be seen of it — what comes of each action, the session, and what its context has seen — is as if
the other sessions were not there (`sessions_isolated`). Only the numbers of contexts may differ.

Two runs are compared, one with all actions and one with those on that session. They stay
`Host.Alike`: an action on the session comes to the same in both (`Host.Alike.act`), and an action
on another thread leaves the registry's mark and the context alone (`Host.Alike.aside`). The latter
is the discipline of contexts: who has not acquired a context never names it
(`Disciplined.foreign`). -/

namespace PinnedSessions

/-! ### What is seen of a session -/

/-- The phase with another context. -/
def Phase.renumber (ctx : Handle) : Phase → Phase
  | .live owner _ => .live owner ctx
  | p => p

/-- What is seen of a session: where it is, the session up to the number of its context, and what
its context has seen. -/
structure Sight where
  interpreter : Nat
  /-- The session, whichever context it has. -/
  session : Handle → Session
  context : Option GuestContext

/-- What is seen of the session of a name. -/
def Host.sight? (h : Host MemoryInterpreter) (name : String) : Option Sight :=
  (h.sessions.find? name).map fun r =>
    { interpreter := r.interpreter
      session := fun ctx => { r.session with phase := r.session.phase.renumber ctx }
      context := h.interpreters[r.interpreter]?.bind fun x => r.session.handle?.bind x.context? }

/-- The name of the session that an action is about. -/
def Action.subject? : Action → Option String
  | .create name _ _ | .createOnMain name _ | .request name _ | .discard name => some name
  | _ => none

/-- Whether an action is about the session of a name. -/
def Action.concerns (name : String) (a : Action) : Bool := a.subject? == some name

/-- What comes of an action, and what is seen of a session after it. -/
def Moment.shows (name : String) (m : Moment MemoryInterpreter) : Result × Option Sight :=
  (m.effect.result, m.next.sight? name)

theorem Action.usesSessions_of_subject? {a : Action} {name : String} (h : a.subject? = some name) :
    a.usesSessions = true := by
  cases a <;> first | rfl | cases h

/-! ### Two hosts -/

namespace Host

/-- Two hosts that differ, for a thread, in their sessions at most. -/
structure Near (t : Thread) (h h' : Host MemoryInterpreter) : Prop where
  files : h'.files = h.files
  main : h'.main = h.main
  length : h'.interpreters.length = h.interpreters.length
  marked : h'.registry.hosts t = h.registry.hosts t
  kin : ∀ (i : Nat) (x x' : MemoryInterpreter), h.interpreters[i]? = some x →
    h'.interpreters[i]? = some x' → Kin x x'

/-- Two hosts with the same session of a name, or none. -/
inductive Shares (t : Thread) (name : String) (h h' : Host MemoryInterpreter) : Prop
  | neither (hf : h.sessions.find? name = none) (hf' : h'.sessions.find? name = none)
  | both {i : Nat} {s s' : Session} {x x' : MemoryInterpreter}
      (hf : h.sessions.find? name = some ⟨i, s⟩) (hf' : h'.sessions.find? name = some ⟨i, s'⟩)
      (hx : h.interpreters[i]? = some x) (hx' : h'.interpreters[i]? = some x')
      (ha : Scene.Alike t ⟨s, h.world x⟩ ⟨s', h'.world x'⟩)

/-- Two hosts that a thread cannot tell apart as long as it uses the session of one name only. -/
structure Alike (t : Thread) (name : String) (h h' : Host MemoryInterpreter) : Prop
    extends Near t h h' where
  shares : Shares t name h h'

variable {t : Thread} {name : String} {h h' : Host MemoryInterpreter}

theorem Near.get (hN : Near t h h') {i : Nat} {x : MemoryInterpreter}
    (hx : h.interpreters[i]? = some x) : ∃ x', h'.interpreters[i]? = some x' := by
  have hi : i < h'.interpreters.length := hN.length ▸ (List.getElem?_eq_some_iff.1 hx).1
  exact ⟨_, List.getElem?_eq_getElem hi⟩

theorem Near.world (hN : Near t h h') {i : Nat} {x x' : MemoryInterpreter}
    (hx : h.interpreters[i]? = some x) (hx' : h'.interpreters[i]? = some x') :
    (h.world x).Alike t (h'.world x') :=
  ⟨hN.marked, hN.kin i x x' hx hx'⟩

theorem Near.settle (hN : Near t h h') (i : Nat) {w w' : World MemoryInterpreter}
    (hw : w.Alike t w') : Near t (h.settle i w) (h'.settle i w') := by
  refine ⟨hN.files, hN.main, ?_, hw.marked, fun j x x' hx hx' => ?_⟩
  · simp only [Host.settle, List.length_set]
    exact hN.length
  · simp only [Host.settle, List.getElem?_set] at hx hx'
    by_cases hj : i = j
    · rw [if_pos hj] at hx hx'
      split at hx
      · split at hx'
        · cases hx
          cases hx'
          exact hw.kin
        · cases hx'
      · cases hx
    · rw [if_neg hj] at hx hx'
      exact hN.kin j x x' hx hx'

/-- The session that was worked on in both hosts is put back. -/
theorem Near.put (hN : Near t h h') {i : Nat} (hi : i < h.interpreters.length)
    {s s' : Scene MemoryInterpreter} (ha : Scene.Alike t s s') :
    Alike t name ((h.settle i s.world).put name ⟨i, s.session⟩)
      ((h'.settle i s'.world).put name ⟨i, s'.session⟩) := by
  obtain ⟨hfiles, hmain, hlength, hmarked, hkin⟩ := hN.settle i ha.world
  have hi' : i < h'.interpreters.length := hN.length ▸ hi
  refine ⟨⟨hfiles, hmain, hlength, hmarked, hkin⟩, .both (Table.find?_insert_self ..)
    (Table.find?_insert_self ..) (List.getElem?_set_self hi) (List.getElem?_set_self hi') ?_⟩
  exact ha.congr rfl rfl rfl rfl rfl rfl

theorem Alike.drop (hA : Alike t name h h') : Alike t name (h.drop name) (h'.drop name) := by
  obtain ⟨⟨hfiles, hmain, hlength, hmarked, hkin⟩, -⟩ := hA
  exact ⟨⟨hfiles, hmain, hlength, hmarked, hkin⟩, .neither (Table.find?_erase_self ..)
    (Table.find?_erase_self ..)⟩

/-- What is seen of the session is the same. -/
theorem Alike.sight?_eq (hA : Alike t name h h') : h.sight? name = h'.sight? name := by
  unfold sight?
  cases hA.shares with
  | neither hf hf' =>
      rw [hf, hf']
      rfl
  | @both i s s' x x' hf hf' hx hx' ha =>
      rw [hf, hf', Option.map_some, Option.map_some, hx, hx', Option.bind_some, Option.bind_some]
      cases ha with
      | idle hnone hs hw =>
          have hs' : s' = s := hs
          have hhandle : s.handle? = none := by
            have hnone' : s.tenure? = none := hnone
            unfold Session.tenure? at hnone'
            unfold Session.handle?
            cases hp : s.phase with
            | live owner ctx => rw [hp] at hnone'; cases hnone'
            | fresh | spoiled | closed => rfl
          rw [hs', hhandle, Option.bind_none, Option.bind_none]
      | @live ctx ctx' ht =>
          have hp : s.phase = .live t ctx := ht.phase
          have hs' : s' = { s with phase := .live t ctx' } := ht.session
          obtain ⟨k, hk, hk'⟩ := ht.twin.seen
          have hseen : x.context? ctx = some k := hk
          have hseen' : x'.context? ctx' = some k := hk'
          simp only [hs', Session.handle?, hp, Phase.renumber, Phase.handle?,
            Option.bind_some, hseen, hseen']

/-! ### An action on the session -/

/-- Numbers are left in every interpreter. -/
def Roomy (h : Host MemoryInterpreter) : Prop :=
  ∀ (i : Nat) (x : MemoryInterpreter), h.interpreters[i]? = some x → x.ledger.lastRaw + 1 ≠ 0

theorem Alike.create (hA : Alike t name h h') (hroom : h.Roomy)
    (hf : h.sessions.find? name = none) (i : Nat) (settings : Settings) :
    (h.create t name i settings).1.result = (h'.create t name i settings).1.result ∧
      Alike t name (h.create t name i settings).2 (h'.create t name i settings).2 := by
  cases hx : h.interpreters[i]? with
  | none =>
      have hx' : h'.interpreters[i]? = none := by
        rw [List.getElem?_eq_none_iff] at hx ⊢
        exact hA.length ▸ hx
      rw [create_none hx, create_none hx']
      exact ⟨rfl, hA⟩
  | some x =>
      obtain ⟨x', hx'⟩ := hA.toNear.get hx
      have hi := (List.getElem?_eq_some_iff.1 hx).1
      have hpair := Session.alike_create settings ⟨t, h.files⟩
        (hA.toNear.world hx hx') (hroom i x hx)
      simp only [Host.create, hx, hx', hA.files]
      cases hs : Session.create settings ⟨t, h.files⟩ (h.world x) with
      | mk r w =>
          cases hs' : Session.create settings ⟨t, h.files⟩ (h'.world x') with
          | mk r' w' =>
              rw [hs, hs'] at hpair
              rcases hpair with ⟨e, rfl, rfl, hw⟩ | ⟨s, s', rfl, rfl, ha⟩
              · refine ⟨rfl, hA.toNear.settle i hw, .neither hf ?_⟩
                cases hA.shares with
                | neither _ hf' => exact hf'
                | both hf₀ => cases hf.symm.trans hf₀
              · exact ⟨rfl, hA.toNear.put hi ha⟩

theorem Alike.operate (hA : Alike t name h h') (hroom : h.Roomy)
    (op : Op MemoryInterpreter Answer)
    (hop : ∀ env s s', Scene.Alike env.caller s s' →
      s.world.line.interpreter.ledger.lastRaw + 1 ≠ 0 →
        (op.run env s').1 = (op.run env s).1 ∧
          Scene.Alike env.caller (op.run env s).2 (op.run env s').2) :
    (h.operate t name op).1.result = (h'.operate t name op).1.result ∧
      Alike t name (h.operate t name op).2 (h'.operate t name op).2 := by
  cases hA.shares with
  | neither hf hf' =>
      rw [operate_none hf, operate_none hf']
      exact ⟨rfl, hA⟩
  | @both i s s' x x' hf hf' hx hx' ha =>
      have hi := (List.getElem?_eq_some_iff.1 hx).1
      obtain ⟨hreply, hnext⟩ := hop ⟨t, h.files⟩ _ _ ha (hroom i x hx)
      cases hs : op.run ⟨t, h.files⟩ ⟨s, h.world x⟩ with
      | mk r u =>
          cases hs' : op.run ⟨t, h.files⟩ ⟨s', h'.world x'⟩ with
          | mk r' u' =>
              rw [hs, hs'] at hreply hnext
              rw [← hA.files] at hs'
              rw [operate_eq hf hx hs, operate_eq hf' hx' hs']
              exact ⟨congrArg Result.ofExcept hreply.symm, hA.toNear.put hi hnext⟩

/-- An action on the session comes to the same in both hosts. -/
theorem Alike.act (hA : Alike t name h h') (hroom : h.Roomy) {a : Action}
    (ha : a.subject? = some name) :
    (h.act t a).1.result = (h'.act t a).1.result ∧ Alike t name (h.act t a).2 (h'.act t a).2 := by
  have hcontains : h'.sessions.contains name = h.sessions.contains name := by
    unfold Table.contains
    cases hA.shares with
    | neither hf hf' => rw [hf, hf']
    | both hf hf' =>
        rw [hf, hf']
        rfl
  cases a with
  | create _ i settings =>
      cases ha
      rw [Host.act, Host.act, hcontains]
      split
      · exact ⟨rfl, hA⟩
      · next hn => exact hA.create hroom (Table.find?_of_contains hn) i settings
  | createOnMain _ settings =>
      cases ha
      rw [Host.act, Host.act, hcontains, hA.main]
      split
      · exact ⟨rfl, hA⟩
      · next hn =>
        split
        · exact ⟨rfl, hA⟩
        · next i _ => exact hA.create hroom (Table.find?_of_contains hn) i settings
  | request _ r =>
      cases ha
      exact hA.operate hroom r.perform fun env s s' h hr => alike_perform r h hr
  | discard _ =>
      cases ha
      obtain ⟨hreply, hnext⟩ := hA.operate hroom (Request.silent Session.discard)
        fun env s s' h _ => Session.consistent_discard.telling _ env s s' h
      exact ⟨hreply, hnext.drop⟩
  | chooseMain | mark | unmark | call | giveBack => cases ha

/-! ### An action on another session -/

/-- What an action on another session leaves alone. -/
structure Apart (name : String) (h h' : Host MemoryInterpreter) : Prop where
  files : h'.files = h.files
  main : h'.main = h.main
  find? : h'.sessions.find? name = h.sessions.find? name

theorem Apart.refl (name : String) (h : Host MemoryInterpreter) : Apart name h h := ⟨rfl, rfl, rfl⟩

theorem apart_create (h : Host MemoryInterpreter) (u : Thread) {n : String} (hne : n ≠ name)
    (i : Nat) (settings : Settings) : Apart name h (h.create u n i settings).2 := by
  unfold Host.create
  split
  · exact .refl name h
  · split
    · exact ⟨rfl, rfl, Table.find?_insert_of_ne _ _ hne⟩
    · exact ⟨rfl, rfl, rfl⟩

theorem apart_operate (h : Host MemoryInterpreter) (u : Thread) {n : String} (hne : n ≠ name)
    (op : Op MemoryInterpreter Answer) : Apart name h (h.operate u n op).2 := by
  unfold Host.operate
  split
  · exact .refl name h
  · split
    · exact .refl name h
    · exact ⟨rfl, rfl, Table.find?_insert_of_ne _ _ hne⟩

theorem apart_act (h : Host MemoryInterpreter) (u : Thread) {a : Action} {n : String}
    (ha : a.subject? = some n) (hne : n ≠ name) : Apart name h (h.act u a).2 := by
  cases a with
  | create _ i settings =>
      cases ha
      rw [act]
      split
      · exact .refl name h
      · exact apart_create h u hne i settings
  | createOnMain _ settings =>
      cases ha
      rw [act]
      split
      · exact .refl name h
      · split
        · exact .refl name h
        · exact apart_create h u hne _ settings
  | request _ r =>
      cases ha
      exact apart_operate h u hne r.perform
  | discard _ =>
      cases ha
      obtain ⟨hfiles, hmain, hfind⟩ := apart_operate h u hne (Request.silent Session.discard)
      refine ⟨hfiles, hmain, ?_⟩
      rw [← hfind]
      exact (Table.find?_erase ..).trans (if_neg hne)
  | chooseMain | mark | unmark | call | giveBack => cases ha

end Host

/-- Who has not acquired a context neither names it nor acquires it again. -/
theorem Disciplined.foreign {xs ys : List Exchange} (hd : Disciplined (xs ++ ys))
    (hf : Fresh (xs ++ ys)) {p : Tenure} (hp : p ∈ acquisitions xs) {y : Exchange} (hy : y ∈ ys)
    (ht : y.thread ≠ p.owner) :
    y.call.context? ≠ some p.ctx ∧ y.call.acquired? y.reply ≠ some p.ctx := by
  have hmem : p ∈ acquisitions (xs ++ ys) := by
    rw [acquisitions_append]
    exact List.mem_append_left _ hp
  have hforeign : ⟨y.thread, p.ctx⟩ ∉ acquisitions (xs ++ ys) := fun h =>
    ht (congrArg Tenure.owner (hf.eq h hmem rfl))
  refine ⟨fun hctx => hforeign ?_, fun hac => hforeign ?_⟩
  · obtain ⟨pre, post, rfl⟩ := List.append_of_mem hy
    have hopen := hd.owned (xs ++ pre) y post p.ctx (by rw [List.append_assoc]) hctx
    rw [← List.append_assoc, acquisitions_append]
    exact List.mem_append_left _ hopen.begun
  · rw [acquisitions_append]
    exact List.mem_append_right _ (List.mem_filterMap.2 ⟨y, hy, begun_of_acquired hac⟩)

theorem Dialogue.thread_eq {σ : Type} [Interpreter σ] {files : Files} {t : Thread} {a b : σ}
    {xs : List Exchange} (h : Dialogue files t a xs b) : ∀ x ∈ xs, x.thread = t := by
  induction h with
  | done => exact fun x hx => absurd hx List.not_mem_nil
  | call h ih =>
      intro x hx
      rcases List.mem_cons.1 hx with rfl | hx
      · rfl
      · exact ih x hx

/-- An action on another thread leaves the mark of a thread alone. -/
theorem Turn.hosts {m : Moment MemoryInterpreter} {old new : List Holding}
    (ht : Turn m.host m.thread m.effect m.next old new) {t : Thread} (hne : m.thread ≠ t) :
    m.next.registry.hosts t = m.host.registry.hosts t := by
  unfold Registry.hosts
  cases ht with
  | still hx hi hr hn => rw [hr]
  | moved hx hi he hl hc ho hn =>
      rcases hc.registry with ⟨-, hg⟩ | ⟨ctx, -, -, hg⟩ | ⟨ctx, -, -, hg⟩
      · rw [show m.next.registry = m.host.registry from hg]
      · have hmem := Registry.mem_mark hg t
        simp only [hmem, hne.symm, false_or]
      · rw [show m.next.registry = m.host.registry.unmark m.thread from hg]
        simp only [Registry.mem_unmark, ne_eq, hne.symm, not_false_eq_true, and_true]

/-! ### Whole runs -/

section Runs

variable {t : Thread} {name : String} {h₀ h' : Host MemoryInterpreter}
  {past : List (Moment MemoryInterpreter)}

theorem roomy_of_run (hb : Blank h₀) {h : Host MemoryInterpreter} (hr : Run Undriven h₀ past h)
    (hn : ∀ i, (acquisitions (talk i past)).length < 2 ^ 64 - 1) : h.Roomy := by
  intro i x hx hz
  have hnext := (numbered_of_run hb.unused hb.lastRaw hr hx (hn i)).toNat_next (hn i)
  rw [show (Ledgered.ledger x).lastRaw + 1 = 0 from hz] at hnext
  simp at hnext

/-- An action on another session and on another thread leaves nothing to be seen. -/
theorem Host.Alike.aside (hb : Blank h₀) {m : Moment MemoryInterpreter}
    (hr : Run Undriven h₀ past m.host) (hA : Host.Alike t name m.host h') {n : String}
    (ha : m.action.subject? = some n) (hne : n ≠ name) (ht : m.thread ≠ t)
    (hn : ∀ i, (acquisitions (talk i (past ++ [m]))).length < 2 ^ 64 - 1) :
    Host.Alike t name m.next h' := by
  have hu := Action.usesSessions_of_subject? ha
  have hr' := hr.act hu
  have hf := fresh_of_run hb.unused hb.lastRaw hr' hn
  have hd := disciplined_of_run hb.sessions (hr'.mono fun _ _ => Undriven.aside) hf
  have hT := tallied_of_run hb.sessions (fun _ _ => Undriven.aside) hr (Fresh.of_snoc hf)
  have hturn := Host.turn_act (hr.housed hb.housed fun _ _ => Undriven.aside) hu past
  obtain ⟨hfiles, hmain, hfind⟩ := Host.apart_act m.host m.thread ha hne
  have hmarked : h'.registry.hosts t = m.next.registry.hosts t := by
    rw [hA.marked, hturn.hosts ht]
  have hkin : ∀ (i : Nat) (y x' : MemoryInterpreter), m.next.interpreters[i]? = some y →
      h'.interpreters[i]? = some x' → Kin y x' := by
    intro i y x' hy hx'
    obtain ⟨x, hx, hdia⟩ := hturn.dialogue hy
    have hold := hA.kin i x x' hx hx'
    refine hold.next (hdia.like hold.pure) (.refl x') (Nat.le_trans hold.lastRaw ?_)
    have hcount := (numbered_of_run hb.unused hb.lastRaw hr' hy (hn i)).count
    have hlt := hn i
    rw [talk_snoc, acquisitions_append, List.length_append] at hcount hlt
    have hcount' := (numbered_of_run hb.unused hb.lastRaw hr hx (by omega)).count
    change x.ledger.lastRaw.toNat = _ at hcount'
    change y.ledger.lastRaw.toNat = _ at hcount
    omega
  refine ⟨⟨hA.files.trans hfiles.symm, hA.main.trans hmain.symm,
    hA.length.trans hturn.length.symm, hmarked, hkin⟩, ?_⟩
  cases hA.shares with
  | neither hf₁ hf₂ => exact .neither (hfind.trans hf₁) hf₂
  | @both i s s' x x' hf₁ hf₂ hx hx' hs =>
      have hi : i < m.next.interpreters.length := by
        rw [hturn.length]
        exact (List.getElem?_eq_some_iff.1 hx).1
      have hy := List.getElem?_eq_getElem hi
      obtain ⟨x₁, hx₁, hdia⟩ := hturn.dialogue hy
      cases hx.symm.trans hx₁
      refine .both (hfind.trans hf₁) hf₂ hy hx' ?_
      cases hs with
      | idle hnone hs hw => exact .idle hnone hs ⟨hmarked, hkin i _ x' hy hx'⟩
      | @live ctx ctx' hl =>
          have hp : s.tenure? = some ⟨t, ctx⟩ := Session.tenure?_live hl.phase
          have hmem : (⟨i, s⟩ : Resident) ∈ holders past m.host :=
            List.mem_append_left _ ((hr.housed hb.housed fun _ _ => Undriven.aside).mem hf₁)
          have hopen := (hT.opened_iff i ⟨t, ctx⟩).2 ⟨_, hmem, rfl, hp⟩
          have hkeep : m.next.interpreters[i].context? ctx = x.context? ctx := by
            refine hdia.context? (hA.kin i x x' hx hx').pure fun z hz => ?_
            have hdi := hd i
            have hfi := hf i
            rw [talk_snoc] at hdi hfi
            refine hdi.foreign hfi hopen.begun hz ?_
            rw [hdia.thread_eq z hz]
            exact ht
          refine .live ⟨hl.phase, hl.session, hmarked, hkin i _ x' hy hx', ?_⟩
          obtain ⟨k, hk, hk'⟩ := hl.twin.seen
          exact ⟨k, hkeep.trans hk, hk'⟩

/-- Two hosts stay alike when the one carries out all actions, the other those on the session. -/
theorem Host.Alike.run (hb : Blank h₀) {h : Host MemoryInterpreter} {acts : List (Thread × Action)}
    (hr : Run Undriven h₀ past h) (hA : Host.Alike t name h h')
    (ha : ∀ a ∈ acts, ∃ n, a.2.subject? = some n ∧ (n = name ↔ a.1 = t))
    (hn : ∀ i, (acquisitions (talk i (past ++ moments h acts))).length < 2 ^ 64 - 1) :
    ((moments h acts).filter (·.action.concerns name)).map (Moment.shows name) =
        (moments h' (acts.filter (·.2.concerns name))).map (Moment.shows name) ∧
      Host.Alike t name (h.run acts).2 (h'.run (acts.filter (·.2.concerns name))).2 := by
  induction acts generalizing past h h' with
  | nil => exact ⟨rfl, hA⟩
  | cons b acts ih =>
      obtain ⟨u, a⟩ := b
      obtain ⟨n, hsubject, hiff⟩ := ha (u, a) (.head _)
      dsimp only at hsubject hiff
      have hrest : ∀ a ∈ acts, ∃ n, a.2.subject? = some n ∧ (n = name ↔ a.1 = t) :=
        fun b hb => ha b (.tail _ hb)
      have hr' := hr.act (m := ⟨h, u, a⟩) (Action.usesSessions_of_subject? hsubject)
      rw [moments, List.append_cons] at hn
      have hpast : ∀ i, (acquisitions (talk i (past ++ [⟨h, u, a⟩]))).length < 2 ^ 64 - 1 := by
        intro i
        have hlt := hn i
        rw [talk_append, acquisitions_append, List.length_append] at hlt
        omega
      by_cases hc : a.concerns name = true
      · have hname : a.subject? = some name := by simpa [Action.concerns] using hc
        cases hsubject.symm.trans hname
        cases hiff.1 rfl
        have hroom : h.Roomy := roomy_of_run hb hr fun i => by
          have hlt := hpast i
          rw [talk_snoc, acquisitions_append, List.length_append] at hlt
          omega
        obtain ⟨hresult, hnext⟩ := hA.act hroom hname
        obtain ⟨hshows, hend⟩ := ih hr' hnext hrest hn
        rw [moments, List.filter_cons_of_pos (a := (⟨h, t, a⟩ : Moment _)) hc,
          List.filter_cons_of_pos (a := (t, a)) hc, moments, List.map_cons, List.map_cons]
        refine ⟨?_, hend⟩
        rw [← hshows]
        refine congrArg (· :: _) ?_
        exact Prod.ext hresult hnext.sight?_eq
      · have hne : n ≠ name := by
          rintro rfl
          exact hc (by simp [Action.concerns, hsubject])
        have hother : u ≠ t := fun hu => hne (hiff.2 hu)
        obtain ⟨hshows, hend⟩ :=
          ih hr' (hA.aside (m := ⟨h, u, a⟩) hb hr hsubject hne hother hpast) hrest hn
        rw [moments, List.filter_cons_of_neg (a := (⟨h, u, a⟩ : Moment _)) hc,
          List.filter_cons_of_neg (a := (u, a)) hc]
        exact ⟨hshows, hend⟩

end Runs

/-- A session that is used on one thread, which uses no other session, is as if it were alone:
whatever other sessions do on other threads, and whenever, what comes of each action on it, and what
is seen of it and of its context, is the same. -/
theorem sessions_isolated {h : Host MemoryInterpreter} {t : Thread} {name : String}
    {acts : List (Thread × Action)} (hb : Blank h) (hp : ∀ x ∈ h.interpreters, x.Pure)
    (ha : ∀ a ∈ acts, ∃ n, a.2.subject? = some n ∧ (n = name ↔ a.1 = t))
    (hn : ∀ i, (acquisitions (talk i (moments h acts))).length < 2 ^ 64 - 1) :
    ((moments h acts).filter (·.action.concerns name)).map (Moment.shows name) =
        (moments h (acts.filter (·.2.concerns name))).map (Moment.shows name) ∧
      (h.run acts).2.sight? name = (h.run (acts.filter (·.2.concerns name))).2.sight? name := by
  have hA : Host.Alike t name h h := by
    refine ⟨⟨rfl, rfl, rfl, rfl, fun i x x' hx hx' => ?_⟩, .neither ?_ ?_⟩
    · cases hx.symm.trans hx'
      exact ⟨.refl x, hp x (List.mem_of_getElem? hx), Nat.le_refl _⟩
    all_goals
      rw [hb.sessions]
      rfl
  obtain ⟨hshows, hend⟩ := hA.run hb .start ha hn
  exact ⟨hshows, hend.sight?_eq⟩

/-- A host with an interpreter that knows one callable. -/
def parlour : Host MemoryInterpreter :=
  { interpreters := [MemoryInterpreter.new.register "first" .first] }

/-- A session on one thread, while others come and go on two more. -/
def visits : List (Thread × Action) :=
  [(⟨"2"⟩, .create "b" 0 {}),
    (⟨"1"⟩, .create "a" 0 { postponed := true }),
    (⟨"2"⟩, .request "b" (.evaluate (some "x = 2"))),
    (⟨"1"⟩, .request "a" .start),
    (⟨"3"⟩, .create "c" 0 {}),
    (⟨"1"⟩, .request "a" (.evaluate (some "x = 1"))),
    (⟨"3"⟩, .discard "b"),
    (⟨"1"⟩, .request "a" (.apply "first" [.long 7] none)),
    (⟨"3"⟩, .request "c" .close),
    (⟨"1"⟩, .request "a" .close)]

theorem sessions_isolated_visits :
    ((moments parlour visits).filter (·.action.concerns "a")).map (Moment.shows "a") =
        (moments parlour (visits.filter (·.2.concerns "a"))).map (Moment.shows "a") ∧
      (parlour.run visits).2.sight? "a" =
        (parlour.run (visits.filter (·.2.concerns "a"))).2.sight? "a" := by
  have hp : ∀ x ∈ parlour.interpreters, x.Pure := by
    intro x hx
    cases List.mem_singleton.1 hx
    have hpure : Callable.first.Pure := ⟨fun args _ => .ok (args.head?.getD .none), fun _ _ _ => rfl⟩
    exact MemoryInterpreter.callables_register MemoryInterpreter.callables_new _ hpure
  have hb : Blank parlour := by
    refine ⟨rfl, rfl, fun x hx => (hp x hx).quiet, fun x hx ctx => ?_, fun x hx => ?_⟩
    all_goals
      cases List.mem_singleton.1 hx
      rfl
  have ha : ∀ a ∈ visits, ∃ n, a.2.subject? = some n ∧ (n = "a" ↔ a.1 = ⟨"1"⟩) := by
    intro a ha
    simp only [visits, List.mem_cons, List.not_mem_nil, or_false] at ha
    rcases ha with rfl | rfl | rfl | rfl | rfl | rfl | rfl | rfl | rfl | rfl
    all_goals exact ⟨_, rfl, by decide⟩
  have hr : Run Undriven parlour (moments parlour visits) (parlour.run visits).2 :=
    run_moments _ _ (by decide)
  exact sessions_isolated hb hp ha <|
    hr.acquisitions_lt hb.housed (fun _ _ => Undriven.aside) (by decide +kernel) (by decide +kernel)

end PinnedSessions
