import PinnedSessions.Proofs.Host.Ledgers
import PinnedSessions.Proofs.Session.Variables

/-! # Variables are a faithful map

What the owner of a session binds is what it finds, whatever is done in between with this session
and with others and on whichever threads, as long as the session keeps its context and nothing that
is asked of the interpreter may bind the variable there; and a variable that was never bound is not
defined (`variables_faithful`).

A value is kept by every action that may not bind its variable (`value?_of_run`). That the context
is neither released nor acquired anew in the meantime is no assumption about the actions: it follows
from the discipline of contexts, because at the end the session still holds it. -/

namespace PinnedSessions

/-- A change in which nobody but sessions drives an in-memory interpreter, or touches the variables
of its contexts. -/
structure Unwritten (h h' : Host MemoryInterpreter) : Prop extends Undriven h h' where
  discreet : ∀ (i : Nat) (x x' : MemoryInterpreter), h.interpreters[i]? = some x →
    h'.interpreters[i]? = some x' → x.Discreet → x'.Discreet
  values : ∀ (i : Nat) (x x' : MemoryInterpreter), h.interpreters[i]? = some x →
    h'.interpreters[i]? = some x' → Ledger.ValuesKept x.ledger x'.ledger

theorem Unwritten.aside {h h' : Host MemoryInterpreter} (hu : Unwritten h h') : Aside h h' :=
  hu.toUndriven.aside

/-! ### Whole runs -/

section Runs

variable {h₁ h : Host MemoryInterpreter} {past : List (Moment MemoryInterpreter)} {i : Nat}
  {x₁ x : MemoryInterpreter} {ctx : Handle} {name : String}

/-- In every moment of a run each interpreter answers what it is asked. -/
theorem Run.dialogue (hh : h₁.Housed) {m : Moment MemoryInterpreter}
    (hr : Run Unwritten h₁ past m.host) (ha : m.action.usesSessions = true)
    (hx : m.next.interpreters[i]? = some x) : ∃ x₀, m.host.interpreters[i]? = some x₀ ∧
      Dialogue m.host.files m.thread x₀ (m.said i) x :=
  (Host.turn_act (hr.housed hh fun _ _ => Unwritten.aside) ha past).dialogue hx

theorem discreet_of_run (hh : h₁.Housed) (hd : ∀ x ∈ h₁.interpreters, x.Discreet)
    (hr : Run Unwritten h₁ past h) : ∀ x ∈ h.interpreters, x.Discreet := by
  induction hr with
  | start => exact hd
  | act hr ha ih =>
      intro x hmem
      obtain ⟨i, hx⟩ := List.mem_iff_getElem?.1 hmem
      obtain ⟨x₀, hx₀, hdia⟩ := hr.dialogue hh ha hx
      exact hdia.discreet (ih x₀ (List.mem_of_getElem? hx₀))
  | between hr hu ih =>
      intro x hmem
      obtain ⟨i, hx⟩ := List.mem_iff_getElem?.1 hmem
      obtain ⟨x₀, hx₀⟩ := hu.get hx
      exact hu.discreet i x₀ x hx₀ hx (ih x₀ (List.mem_of_getElem? hx₀))

/-- A variable that nothing binds keeps its value, as long as its context is kept. -/
theorem value?_of_run (hh : h₁.Housed) (hd : ∀ x ∈ h₁.interpreters, x.Discreet)
    (hr : Run Unwritten h₁ past h) (hx₁ : h₁.interpreters[i]? = some x₁)
    (hx : h.interpreters[i]? = some x)
    (hbind : ∀ m ∈ past, ∀ y ∈ m.said i, ¬ y.call.MayBind m.host.files ctx name)
    (hkeep : ∀ y ∈ talk i past, y.call.acquired? y.reply ≠ some ctx ∧
      y.call.released? ≠ some ctx) :
    x.ledger.value? ctx name = x₁.ledger.value? ctx name := by
  induction hr generalizing x with
  | start =>
      cases hx₁.symm.trans hx
      rfl
  | @act past m hr ha ih =>
      obtain ⟨x₀, hx₀, hdia⟩ := hr.dialogue hh ha hx
      rw [talk_snoc] at hkeep
      have hold := ih hx₀ (fun m' hm' => hbind m' (List.mem_append_left _ hm'))
        fun y hy => hkeep y (List.mem_append_left _ hy)
      have hdiscreet : x₀.Discreet := discreet_of_run hh hd hr x₀ (List.mem_of_getElem? hx₀)
      have hnew := hdia.value? hdiscreet (hbind m (List.mem_append_right _ (.head _)))
        fun y hy => hkeep y (List.mem_append_right _ hy)
      exact hnew.trans hold
  | between hr hu ih =>
      obtain ⟨x₀, hx₀⟩ := hu.get hx
      exact (hu.values i x₀ x hx₀ hx ctx name).trans (ih hx₀ hbind hkeep)

/-- A variable that nothing binds is not bound. -/
theorem unbound_of_run (hb : Unused h₁) (hd : ∀ x ∈ h₁.interpreters, x.Discreet)
    (hr : Run Unwritten h₁ past h) (hx : h.interpreters[i]? = some x)
    (hbind : ∀ m ∈ past, ∀ y ∈ m.said i, ¬ y.call.MayBind m.host.files ctx name) :
    x.ledger.value? ctx name = none := by
  induction hr generalizing x with
  | start =>
      have hdead : x.ledger.isLive ctx = false := hb.live x (List.mem_of_getElem? hx) ctx
      have hnone : x.ledger.contexts.find? ctx = none :=
        Table.find?_of_contains (by simpa [Ledger.isLive] using hdead)
      rw [Ledger.value?, hnone, Option.bind_none]
  | @act past m hr ha ih =>
      obtain ⟨x₀, hx₀, hdia⟩ := hr.dialogue hb.housed ha hx
      have hdiscreet : x₀.Discreet := discreet_of_run hb.housed hd hr x₀ (List.mem_of_getElem? hx₀)
      have hnone := ih hx₀ fun m' hm' => hbind m' (List.mem_append_left _ hm')
      exact hdia.unbound hdiscreet (hbind m (List.mem_append_right _ (.head _))) hnone
  | between hr hu ih =>
      obtain ⟨x₀, hx₀⟩ := hu.get hx
      exact (hu.values i x₀ x hx₀ hx ctx name).trans (ih hx₀ hbind)

/-- A context that is held at the end, and was before, is neither acquired nor released in
between. -/
theorem Opened.kept_between {xs ys : List Exchange} {p q : Tenure} (hp : Opened xs p)
    (hq : Opened (xs ++ ys) q) (hctx : q.ctx = p.ctx) (hf : Fresh (xs ++ ys)) :
    ∀ y ∈ ys, y.call.acquired? y.reply ≠ some p.ctx ∧ y.call.released? ≠ some p.ctx := by
  intro y hy
  constructor
  · intro hacq
    have hmem : (⟨y.thread, p.ctx⟩ : Tenure) ∈ acquisitions ys :=
      List.mem_filterMap.2 ⟨y, hy, begun_of_acquired hacq⟩
    rw [Fresh, acquisitions_append, List.map_append] at hf
    exact (List.nodup_append.1 hf).2.2 p.ctx (List.mem_map_of_mem hp.begun) p.ctx
      (List.mem_map.2 ⟨_, hmem, rfl⟩) rfl
  · intro hrel
    refine hq.kept ?_
    rw [releases_append, hctx]
    exact List.mem_append_right _ (List.mem_filterMap.2 ⟨y, hy, hrel⟩)

end Runs

/-! ### Binding -/

/-- The moment in which a thread binds a variable to a host value, through the session of a name. -/
def Moment.binding (h : Host MemoryInterpreter) (t : Thread) (key name : String) (source : Source)
    (a : source.Carrier) : Moment MemoryInterpreter :=
  ⟨h, t, .request key (.bind name source a)⟩

/-- What comes of binding a variable, and what it does: no session is changed, and of all
interpreters only that of the session, and there only the variable, which is listed. -/
structure Bound (r : Resident) (ctx : Handle) (name : String) (v : Value)
    (m : Moment MemoryInterpreter) : Prop where
  result : m.effect.result = .answer .done
  sessions : ∀ key, m.next.sessions.find? key = m.host.sessions.find? key
  others : ∀ j, j ≠ r.interpreter → m.next.interpreters[j]? = m.host.interpreters[j]?
  binds : ∃ x x', m.host.interpreters[r.interpreter]? = some x ∧
    m.next.interpreters[r.interpreter]? = some x' ∧ Binds ctx name v x x'

theorem bound_binding {h : Host MemoryInterpreter} {key : String} {r : Resident} {t : Thread}
    {ctx : Handle} {name : String} {x : MemoryInterpreter} {k : GuestContext}
    (hf : h.sessions.find? key = some r) (hx : h.interpreters[r.interpreter]? = some x)
    (hp : r.session.phase = .live t ctx) (hk : x.context? ctx = some k)
    (hn : Text.isBlank name = false) (source : Source) (a : source.Carrier) :
    Bound r ctx name (source.inject a) (.binding h t key name source a) := by
  obtain ⟨hok, hbinds⟩ := binds_answer hk h.files name (source.inject a)
  let call : Call := .bind ctx name (source.inject a)
  have hreply : ((h.world x).line.call h.files t call).1 = .ok () := hok
  have hop : ∃ log, (Request.bind name source a).perform.run ⟨t, h.files⟩ (h.scene r x) =
      (.ok .done, ⟨r.session, { h.world x with
        line := ((h.world x).line.call h.files t call).2
        log := log }⟩) := by
    have hlive : (h.scene r x).session.phase = .live (Ambient.mk t h.files).caller ctx := hp
    obtain ⟨log, hrun⟩ := Session.run_bind hlive hn source a
    have hdone : (Except.mapError Failure.ofGuest ((h.world x).line.call h.files t call).1) =
        .ok () := by rw [hreply]; rfl
    exact ⟨log, Op.run_bind_ok (hrun.trans (Prod.ext hdone rfl))⟩
  obtain ⟨log, hop⟩ := hop
  have hact := Host.operate_eq hf hx hop
  have heffect : (Moment.binding h t key name source a).effect =
      (h.operate t key (Request.bind name source a).perform).1 := rfl
  have hnext : (Moment.binding h t key name source a).next =
      (h.operate t key (Request.bind name source a).perform).2 := rfl
  rw [hact] at heffect hnext
  refine ⟨by rw [heffect]; rfl, fun key' => ?_, fun j hj => ?_, x, _, hx, ?_, hbinds⟩
  · rw [hnext]
    refine (Table.find?_insert ..).trans ?_
    split
    · next hkey => exact hkey ▸ hf.symm
    · rfl
  · rw [hnext]
    exact List.getElem?_set_ne (Ne.symm hj)
  · rw [hnext]
    exact List.getElem?_set_self (List.getElem?_eq_some_iff.1 hx).1

/-! ### Reading -/

theorem Session.live_of_handle? {s : Session} {ctx : Handle} (h : s.handle? = some ctx) :
    ∃ owner, s.phase = .live owner ctx := by
  unfold Session.handle? at h
  cases hp : s.phase with
  | live owner k =>
      rw [hp] at h
      cases h
      exact ⟨owner, rfl⟩
  | fresh | spoiled | closed =>
      rw [hp] at h
      cases h

section Reading

variable {h₀ h : Host MemoryInterpreter} {past : List (Moment MemoryInterpreter)}

/-- The context of a live session is live in its interpreter, and opened by the session's owner. -/
theorem live_of_run (hb : Unused h₀) (hz : ∀ x ∈ h₀.interpreters, x.ledger.lastRaw = 0)
    (hr : Run Unwritten h₀ past h)
    (hlen : ∀ i, (acquisitions (talk i past)).length < 2 ^ 64 - 1) {key : String} {r : Resident}
    {p : Tenure} (hf : h.sessions.find? key = some r) (hp : r.session.tenure? = some p) :
    Opened (talk r.interpreter past) p ∧ ∃ x k, h.interpreters[r.interpreter]? = some x ∧
      x.context? p.ctx = some k := by
  have hu := hr.mono fun _ _ => Unwritten.toUndriven
  have hfresh := fresh_of_run hb hz hu hlen
  have hh := hr.housed hb.housed fun _ _ => Unwritten.aside
  have hT := tallied_of_run hb.sessions (fun _ _ => Unwritten.aside) hr hfresh
  have hmem : r ∈ holders past h := List.mem_append_left _ (hh.mem hf)
  have hopen := (hT.opened_iff r.interpreter p).2 ⟨r, hmem, rfl, hp⟩
  obtain ⟨x, hx⟩ := hh.get hf
  have hlive := (mirrors_of_run hb hu hT.disciplined hfresh hx p.ctx).2 ⟨p, hopen, rfl⟩
  obtain ⟨k, hk⟩ := Option.isSome_iff_exists.1 hlive
  exact ⟨hopen, x, k, hx, hk⟩

/-- A session that holds the context of before has held it throughout: it is live under the same
owner, and the context was neither acquired nor released in between. -/
theorem live_throughout (hb : Unused h₀) (hz : ∀ x ∈ h₀.interpreters, x.ledger.lastRaw = 0)
    {m : Moment MemoryInterpreter} (hr : Run Unwritten h₀ past m.host)
    (ha : m.action.usesSessions = true) {past' : List (Moment MemoryInterpreter)}
    (hr' : Run Unwritten m.next past' h)
    (hlen : ∀ i, (acquisitions (talk i (past ++ m :: past'))).length < 2 ^ 64 - 1) {key : String}
    {r : Resident} (hf : h.sessions.find? key = some r) {p : Tenure}
    (hopen : Opened (talk r.interpreter past) p) (hctx : r.session.handle? = some p.ctx) :
    r.session.phase = .live p.owner p.ctx ∧ ∀ y ∈ talk r.interpreter (m :: past'),
      y.call.acquired? y.reply ≠ some p.ctx ∧ y.call.released? ≠ some p.ctx := by
  have hwhole : Run Unwritten h₀ (past ++ m :: past') h := by
    rw [List.append_cons]
    exact (hr.act ha).trans hr'
  have hfresh : Fresh (talk r.interpreter (past ++ m :: past')) :=
    fresh_of_run hb hz (hwhole.mono fun _ _ => Unwritten.toUndriven) hlen _
  obtain ⟨owner, hp⟩ := Session.live_of_handle? hctx
  obtain ⟨hopen', -⟩ := live_of_run hb hz hwhole hlen hf (Session.tenure?_live hp)
  rw [talk_append] at hfresh hopen'
  have hbegun : p ∈ acquisitions (talk r.interpreter past ++ talk r.interpreter (m :: past')) := by
    rw [acquisitions_append]
    exact List.mem_append_left _ hopen.begun
  have howner : p.owner = owner := congrArg Tenure.owner (hfresh.eq hbegun hopen'.begun rfl)
  exact ⟨howner ▸ hp, hopen.kept_between hopen' rfl hfresh⟩

/-- The variables of a session are a faithful map.

* Binding one through a live session, on the thread of its owner, succeeds and changes nothing else;
  and the bound value is what all readers find after any run in which the session keeps its context
  and nothing that its interpreter is asked may bind the variable there.
* When nothing in the whole run may have bound it, all readers find that it is not defined.

The bound on acquisitions is the number of handles there are: beyond it they are given again. -/
theorem variables_faithful (hb : Unused h₀) (hz : ∀ x ∈ h₀.interpreters, x.ledger.lastRaw = 0)
    (hd : ∀ x ∈ h₀.interpreters, x.Discreet) (hr : Run Unwritten h₀ past h)
    (hlen : ∀ i, (acquisitions (talk i past)).length < 2 ^ 64 - 1) {key : String} {r : Resident}
    {t : Thread} {ctx : Handle} (hf : h.sessions.find? key = some r)
    (hp : r.session.phase = .live t ctx) {name : String} (hn : Text.isBlank name = false) :
    (∀ (source : Source) (a : source.Carrier),
      Bound r ctx name (source.inject a) (.binding h t key name source a) ∧
      ∀ {past' h' r' x'}, Run Unwritten (Moment.binding h t key name source a).next past' h' →
        (∀ i, (acquisitions (talk i (past ++ .binding h t key name source a :: past'))).length <
          2 ^ 64 - 1) →
        h'.sessions.find? key = some r' → r'.interpreter = r.interpreter →
        r'.session.handle? = some ctx → h'.interpreters[r.interpreter]? = some x' →
        (∀ m ∈ past', ∀ y ∈ m.said r.interpreter, ¬ y.call.MayBind m.host.files ctx name) →
        Reads ⟨t, h'.files⟩ (h'.scene r' x') name (source.inject a)) ∧
    ∀ {x}, h.interpreters[r.interpreter]? = some x →
      (∀ m ∈ past, ∀ y ∈ m.said r.interpreter, ¬ y.call.MayBind m.host.files ctx name) →
      ReadsNothing ⟨t, h.files⟩ (h.scene r x) name := by
  obtain ⟨hopen, x, k, hx, hk⟩ := live_of_run hb hz hr hlen hf (Session.tenure?_live hp)
  refine ⟨fun source a => ?_, fun {y} hy hbind => ?_⟩
  · have hbound := bound_binding hf hx hp hk hn source a
    refine ⟨hbound, fun {past' h' r' x'} hr' hlen' hf' hi' hctx hx' hbind => ?_⟩
    obtain ⟨x₀, x₁, hx₀, hx₁, hbinds⟩ := hbound.binds
    let m : Moment MemoryInterpreter := .binding h t key name source a
    have hact : Run Unwritten h₀ (past ++ [m]) m.next := hr.act rfl
    have hd₁ : ∀ y ∈ m.next.interpreters, y.Discreet := discreet_of_run hb.housed hd hact
    have hh₁ : m.next.Housed := hact.housed hb.housed fun _ _ => Unwritten.aside
    rw [← hi'] at hopen hx₁ hx' hbind
    obtain ⟨hp', hkeep⟩ := live_throughout hb hz (m := m) hr rfl hr' hlen' hf' hopen hctx
    have hvalue : x'.ledger.value? ctx name = some (source.inject a) := by
      refine (value?_of_run hh₁ hd₁ hr' hx₁ hx' hbind fun y hy => hkeep y ?_).trans hbinds.bound
      exact List.mem_append_right _ hy
    exact reads_of_value hp' hn hvalue
  · obtain rfl : x = y := Option.some.inj (hx.symm.trans hy)
    have hnone := unbound_of_run hb hd hr hx hbind
    unfold MemoryInterpreter.context? at hk
    rw [Ledger.value?, hk, Option.bind_some] at hnone
    exact readsNothing_of_unbound hp hn hk hnone

end Reading

/-- A host with an interpreter that knows one callable. -/
def study : Host MemoryInterpreter :=
  { interpreters := [MemoryInterpreter.new.register "first" .first] }

/-- Two threads have a session each, in one of which a script runs. -/
def morning : List (Thread × Action) :=
  [(⟨"1"⟩, .create "a" 0 {}),
    (⟨"2"⟩, .create "b" 0 {}),
    (⟨"1"⟩, .request "a" (.evaluate (some "m = 2")))]

/-- After the morning, a variable is bound to characters. -/
def noting : Moment MemoryInterpreter :=
  .binding (study.run morning).2 ⟨"1"⟩ "a" "n" .chars ['s', 'o']

/-- The variable of the other session is bound, and one of almost the same name; scripts and
callables run; and a third thread cannot close the session. -/
def afternoon : List (Thread × Action) :=
  [(⟨"2"⟩, .request "b" (.bind "n" (.target .int32) 3)),
    (⟨"1"⟩, .request "a" (.bind " n" .chars ['n', 'o'])),
    (⟨"1"⟩, .request "a" (.evaluate (some "m = 4"))),
    (⟨"1"⟩, .request "a" (.apply "first" [.long 7] none)),
    (⟨"1"⟩, .request "a" (.read .int64 "n")),
    (⟨"2"⟩, .discard "b"),
    (⟨"3"⟩, .request "a" .close)]

theorem unused_study : Unused study := by
  refine ⟨rfl, fun x hx => ?_, fun x hx ctx => ?_⟩
  all_goals cases List.mem_singleton.1 hx
  · have hquiet : Callable.first.Quiet := fun _ _ l => .refl l
    exact MemoryInterpreter.callables_register MemoryInterpreter.callables_new _ hquiet
  · rfl

theorem discreet_study : ∀ x ∈ study.interpreters, x.Discreet := by
  intro x hx
  cases List.mem_singleton.1 hx
  have hdiscreet : Callable.first.Discreet := fun _ _ _ _ _ => rfl
  exact MemoryInterpreter.callables_register MemoryInterpreter.callables_new _ hdiscreet

theorem lastRaw_study : ∀ x ∈ study.interpreters, x.ledger.lastRaw = 0 := by
  intro x hx
  cases List.mem_singleton.1 hx
  rfl

/-- What was done up to the evening. -/
def diary : List (Moment MemoryInterpreter) :=
  moments study morning ++ noting :: moments noting.next afternoon

theorem run_morning : Run Unwritten study (moments study morning) noting.host :=
  run_moments _ _ (by decide)

theorem run_afternoon : Run Unwritten noting.next (moments noting.next afternoon)
    (noting.next.run afternoon).2 :=
  run_moments _ _ (by decide)

theorem run_diary : Run Unwritten study diary (noting.next.run afternoon).2 := by
  rw [diary, List.append_cons]
  exact (run_morning.act rfl).trans run_afternoon

theorem acquisitions_morning (i : Nat) :
    (acquisitions (talk i (moments study morning))).length < 2 ^ 64 - 1 :=
  run_morning.acquisitions_lt unused_study.housed (fun _ _ => Unwritten.aside) (by decide +kernel)
    (by decide +kernel) i

theorem acquisitions_diary (i : Nat) : (acquisitions (talk i diary)).length < 2 ^ 64 - 1 :=
  run_diary.acquisitions_lt unused_study.housed (fun _ _ => Unwritten.aside) (by decide +kernel)
    (by decide +kernel) i

/-- At noon the session is live. -/
theorem noon : ∃ r x, noting.host.sessions.find? "a" = some r ∧ r.interpreter = 0 ∧
    r.session.phase = .live ⟨"1"⟩ .first ∧ noting.host.interpreters[0]? = some x :=
  Host.exists_resident (g := Session.phase) (by decide +kernel) (by decide +kernel)

/-- In the evening it still has its context. -/
theorem evening : ∃ r x, (noting.next.run afternoon).2.sessions.find? "a" = some r ∧
    r.interpreter = 0 ∧ r.session.handle? = some .first ∧
    (noting.next.run afternoon).2.interpreters[0]? = some x :=
  Host.exists_resident (g := Session.handle?) (by decide +kernel) (by decide +kernel)

theorem unbound_morning : ∀ m ∈ moments study morning, ∀ y ∈ m.said 0,
    ¬ y.call.MayBind m.host.files .first "n" := by decide +kernel

theorem unbound_afternoon : ∀ m ∈ moments noting.next afternoon, ∀ y ∈ m.said 0,
    ¬ y.call.MayBind m.host.files .first "n" := by decide +kernel

theorem variables_faithful_study : ∃ r ctx x r' x',
    noting.host.sessions.find? "a" = some r ∧ r.session.phase = .live ⟨"1"⟩ ctx ∧
      ReadsNothing ⟨⟨"1"⟩, noting.host.files⟩ (noting.host.scene r x) "n" ∧
      Bound r ctx "n" (.str "so") noting ∧
      (noting.next.run afternoon).2.sessions.find? "a" = some r' ∧
      Reads ⟨⟨"1"⟩, (noting.next.run afternoon).2.files⟩
        ((noting.next.run afternoon).2.scene r' x') "n" (.str "so") := by
  obtain ⟨r, x, hf, hi, hp, hx⟩ := noon
  obtain ⟨r', x', hf', hi', hctx, hx'⟩ := evening
  have hbefore := unbound_morning
  have hafter := unbound_afternoon
  rw [← hi] at hx hx' hbefore hafter
  have hn : Text.isBlank "n" = false := by decide
  obtain ⟨hbind, hunbound⟩ := variables_faithful unused_study lastRaw_study discreet_study
    run_morning acquisitions_morning hf hp hn
  obtain ⟨hbound, hreads⟩ := hbind .chars ['s', 'o']
  exact ⟨r, .first, x, r', x', hf, hp, hunbound hx hbefore, hbound, hf',
    hreads run_afternoon acquisitions_diary hf' (hi'.trans hi.symm) hctx hx' hafter⟩

end PinnedSessions
