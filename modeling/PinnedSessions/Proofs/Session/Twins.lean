import PinnedSessions.Proofs.Interpreter.Twins
import PinnedSessions.Proofs.Session.Conduct

/-! # One session in two worlds

The same session may be used in two worlds that its thread cannot tell apart (`World.Alike`). While
it is not live it is the same in both, and while it is live only the numbers of its contexts differ,
which have seen the same (`Scene.Twins`).

Whatever the thread then asks of it has the same result in both worlds, and leaves them and the
session alike (`alike_perform`, `Session.alike_discard`, `Session.alike_create`). For operations
behind the gate this is one more instance of `Op.Closed`, whose properties of continuations here
compare work on two contexts. -/

namespace PinnedSessions

variable {α β : Type}

/-- Two worlds that a thread cannot tell apart: it is marked in both or in none, and the
interpreters are kin. -/
structure World.Alike (t : Thread) (w w' : World MemoryInterpreter) : Prop where
  marked : w'.registry.hosts t = w.registry.hosts t
  kin : Kin w.line.interpreter w'.line.interpreter

/-- A session that is live in two worlds: only its contexts differ, and these are twins. -/
structure Scene.Twins (t : Thread) (ctx ctx' : Handle) (s s' : Scene MemoryInterpreter) : Prop where
  phase : s.session.phase = .live t ctx
  session : s'.session = { s.session with phase := .live t ctx' }
  marked : s'.world.registry.hosts t = s.world.registry.hosts t
  twin : Twin ctx ctx' s.world.line.interpreter s'.world.line.interpreter

/-- A session in two worlds that its thread cannot tell apart. -/
inductive Scene.Alike (t : Thread) (s s' : Scene MemoryInterpreter) : Prop
  | idle (hnone : s.session.tenure? = none) (hs : s'.session = s.session)
      (hw : s.world.Alike t s'.world)
  | live {ctx ctx' : Handle} (h : Scene.Twins t ctx ctx' s s')

theorem Scene.Twins.phase' {t : Thread} {ctx ctx' : Handle} {s s' : Scene MemoryInterpreter}
    (h : Scene.Twins t ctx ctx' s s') : s'.session.phase = .live t ctx' := by
  rw [h.session]

theorem Scene.Alike.world {t : Thread} {s s' : Scene MemoryInterpreter} (h : Scene.Alike t s s') :
    s.world.Alike t s'.world := by
  cases h with
  | idle hnone hs hw => exact hw
  | live h => exact ⟨h.marked, h.twin.toKin⟩

/-- Of the worlds no more matters than the registries and the interpreters. -/
theorem Scene.Alike.congr {t : Thread} {s s' u u' : Scene MemoryInterpreter}
    (h : Scene.Alike t s s') (hs : u.session = s.session) (hs' : u'.session = s'.session)
    (hr : u.world.registry = s.world.registry) (hr' : u'.world.registry = s'.world.registry)
    (hl : u.world.line.interpreter = s.world.line.interpreter)
    (hl' : u'.world.line.interpreter = s'.world.line.interpreter) : Scene.Alike t u u' := by
  cases h with
  | idle hnone heq hw =>
      refine .idle (by rw [hs, hnone]) (by rw [hs, hs', heq]) ⟨by rw [hr, hr', hw.marked], ?_⟩
      rw [hl, hl']
      exact hw.kin
  | live ht =>
      refine .live ⟨by rw [hs, ht.phase], by rw [hs, hs', ht.session],
        by rw [hr, hr', ht.marked], ?_⟩
      rw [hl, hl']
      exact ht.twin

/-- Behind the gate: work on the context of a live session that comes to the same on twins. -/
def Op.Follows (f : Handle → Op MemoryInterpreter α) : Prop :=
  ∀ ctx ctx' env s s', Scene.Twins env.caller ctx ctx' s s' →
    ((f ctx').run env s').1 = ((f ctx).run env s).1 ∧
      Scene.Twins env.caller ctx ctx' ((f ctx).run env s).2 ((f ctx').run env s').2

/-- An operation that comes to the same in two worlds that the caller cannot tell apart. -/
def Op.Consistent (op : Op MemoryInterpreter α) : Prop :=
  ∀ env s s', Scene.Alike env.caller s s' → (op.run env s').1 = (op.run env s).1 ∧
    Scene.Alike env.caller (op.run env s).2 (op.run env s').2

/-! ### Feeding a line -/

section Feed

variable {τ ε : Type} {R : τ → τ → Prop} {sink sink' : Sink τ ε}

/-- Two sinks that answer alike are fed alike. -/
theorem LineBuffer.feed_pair
    (hprobe : ∀ text s s', R s s' → (sink'.probe text s').1 = (sink.probe text s).1 ∧
      R (sink.probe text s).2 (sink'.probe text s').2)
    (hrun : ∀ text s s', R s s' → (sink'.run text s').1 = (sink.run text s).1 ∧
      R (sink.run text s).2 (sink'.run text s').2)
    (line : Option String) (b : LineBuffer) {s s' : τ} (h : R s s') :
    (b.feed sink' line s').1 = (b.feed sink line s).1 ∧
      (b.feed sink' line s').2.1 = (b.feed sink line s).2.1 ∧
      R (b.feed sink line s).2.2 (b.feed sink' line s').2.2 := by
  have hnow : ∀ (text : String) (b : LineBuffer) (s s' : τ), R s s' →
      (runNow sink' text b s').1 = (runNow sink text b s).1 ∧
        (runNow sink' text b s').2.1 = (runNow sink text b s).2.1 ∧
        R (runNow sink text b s).2.2 (runNow sink' text b s').2.2 := by
    intro text b s s' h
    obtain ⟨hreply, hnext⟩ := hrun text s s' h
    unfold runNow
    cases hs : sink.run text s with
    | mk r u =>
        cases hs' : sink'.run text s' with
        | mk r' u' =>
            rw [hs, hs'] at hreply hnext
            cases hreply
            cases r <;> exact ⟨rfl, rfl, hnext⟩
  unfold feed
  cases content? line with
  | none =>
      unfold flush
      dsimp only
      split
      · exact hnow _ _ s s' h
      · exact ⟨rfl, rfl, h⟩
  | some text =>
      unfold take
      dsimp only
      split
      · exact hnow text b s s' h
      · exact ⟨rfl, rfl, h⟩
      · obtain ⟨hreply, hnext⟩ := hprobe text s s' h
        cases hs : sink.probe text s with
        | mk r u =>
            cases hs' : sink'.probe text s' with
            | mk r' u' =>
                rw [hs, hs'] at hreply hnext
                cases hreply
                rcases r with e | (_ | _)
                · exact ⟨rfl, rfl, hnext⟩
                · exact ⟨rfl, rfl, hnext⟩
                · exact hnow text b u u' hnext

end Feed

namespace Op

theorem Follows.bind {op : Handle → Op MemoryInterpreter α}
    {f : Handle → α → Op MemoryInterpreter β} (h : Follows op)
    (hf : ∀ a, Follows fun ctx => f ctx a) :
    Follows fun ctx => op ctx >>= f ctx := by
  intro ctx ctx' env s s' ht
  obtain ⟨hreply, hnext⟩ := h ctx ctx' env s s' ht
  dsimp only
  rw [run_bind, run_bind]
  cases hs : (op ctx).run env s with
  | mk r u =>
      cases hs' : (op ctx').run env s' with
      | mk r' u' =>
          rw [hs, hs'] at hreply hnext
          cases hreply
          cases r with
          | error e => exact ⟨rfl, hnext⟩
          | ok a => exact hf a ctx ctx' env u u' hnext

/-- A call that twins answer alike. -/
theorem Follows.call {f : Handle → Op MemoryInterpreter α}
    {a : Handle → Files → MemoryInterpreter → α × MemoryInterpreter}
    (hf : ∀ ctx env s, ∃ xs, (f ctx).run env s =
      (.ok (a ctx env.files s.world.line.interpreter).1, ⟨s.session, { s.world with
        line := ⟨(a ctx env.files s.world.line.interpreter).2, xs⟩ }⟩))
    (ha : ∀ ctx ctx' files m m', Twin ctx ctx' m m' →
      Agree ctx ctx' (a ctx files m) (a ctx' files m')) :
    Follows f := by
  intro ctx ctx' env s s' ht
  obtain ⟨xs, hrun⟩ := hf ctx env s
  obtain ⟨xs', hrun'⟩ := hf ctx' env s'
  obtain ⟨hreply, hnext⟩ := ha ctx ctx' env.files _ _ ht.twin
  rw [hrun, hrun']
  exact ⟨congrArg Except.ok hreply, ht.phase, ht.session, ht.marked, hnext⟩

/-- A change of the session other than of its phase. -/
theorem Follows.modify {f : Session → Session}
    (hf : ∀ s p, f { s with phase := p } = { f s with phase := p })
    (hp : ∀ s, (f s).phase = s.phase) :
    Follows fun _ => (Op.modify f : Op MemoryInterpreter Unit) := by
  intro ctx ctx' env s s' ht
  refine ⟨rfl, (hp _).trans ht.phase, ?_, ht.marked, ht.twin⟩
  change f s'.session = _
  rw [ht.session, hf]
  rfl

theorem Follows.ofReply (r : Except GuestFault α) :
    Follows fun _ => (Op.ofReply r : Op MemoryInterpreter α) := by
  cases r <;> exact fun _ _ _ _ _ ht => ⟨rfl, ht⟩

theorem Follows.feed (line : Option String) :
    Follows fun ctx => (Session.feed ctx line : Op MemoryInterpreter Outcome) := by
  intro ctx ctx' env s s' ht
  have hprobe : ∀ (text : String) (l l' : Line MemoryInterpreter),
      Twin ctx ctx' l.interpreter l'.interpreter →
      ((Session.sink env ctx').probe text l').1 = ((Session.sink env ctx).probe text l).1 ∧
        Twin ctx ctx' ((Session.sink env ctx).probe text l).2.interpreter
          ((Session.sink env ctx').probe text l').2.interpreter := by
    intro text l l' h
    obtain ⟨hreply, hnext⟩ : Agree ctx ctx'
      (Interpreter.answer env.files (.probe ctx text) l.interpreter)
      (Interpreter.answer env.files (.probe ctx' text) l'.interpreter) := h.look _
    unfold Session.sink Line.call
    dsimp only
    cases hs : Interpreter.answer env.files (.probe ctx text) l.interpreter with
    | mk r m =>
        cases hs' : Interpreter.answer env.files (.probe ctx' text) l'.interpreter with
        | mk r' m' =>
            rw [hs, hs'] at hreply hnext
            cases hreply
            cases r <;> exact ⟨rfl, hnext⟩
  have hrun : ∀ (text : String) (l l' : Line MemoryInterpreter),
      Twin ctx ctx' l.interpreter l'.interpreter →
      ((Session.sink env ctx').run text l').1 = ((Session.sink env ctx).run text l).1 ∧
        Twin ctx ctx' ((Session.sink env ctx).run text l).2.interpreter
          ((Session.sink env ctx').run text l').2.interpreter := by
    intro text l l' h
    obtain ⟨hreply, hnext⟩ : Agree ctx ctx'
      (Interpreter.answer env.files (.run ctx text) l.interpreter)
      (Interpreter.answer env.files (.run ctx' text) l'.interpreter) := h.within (Ledger.runIn text)
    unfold Session.sink Line.call
    dsimp only
    cases hs : Interpreter.answer env.files (.run ctx text) l.interpreter with
    | mk r m =>
        cases hs' : Interpreter.answer env.files (.run ctx' text) l'.interpreter with
        | mk r' m' =>
            rw [hs, hs'] at hreply hnext
            cases hreply
            cases r <;> exact ⟨rfl, hnext⟩
  obtain ⟨hreply, hbuffer, hnext⟩ := LineBuffer.feed_pair
    (R := fun l l' : Line MemoryInterpreter => Twin ctx ctx' l.interpreter l'.interpreter)
    hprobe hrun line s.session.buffer ht.twin
  have hb : s'.session.buffer = s.session.buffer := by rw [ht.session]
  simp only [Op.run, Session.feed, hb]
  refine ⟨hreply, ht.phase, ?_, ht.marked, hnext⟩
  rw [hbuffer, ht.session]

/-- What is answered is kept, and then used. -/
theorem Follows.keep {op : Handle → Op MemoryInterpreter (Except GuestFault Value)}
    {f : Handle → Value → Op MemoryInterpreter α} (h : Follows op)
    (hf : ∀ v, Follows fun ctx => f ctx v) :
    Follows fun ctx => op ctx >>= fun r => Op.ofReply r >>= fun v =>
      Op.modify (fun s => { s with held := s.held.keep v }) >>= fun _ => f ctx v :=
  h.bind fun r => (Follows.ofReply r).bind fun v =>
    (Follows.modify (f := fun s => { s with held := s.held.keep v }) (fun _ _ => rfl)
      fun _ => rfl).bind fun _ => hf v

/-! ### Behind the gate -/

theorem Consistent.gate {f : Handle → Op MemoryInterpreter α} (h : Follows f) :
    Consistent (Session.context >>= f) := by
  intro env s s' ha
  cases ha with
  | live ht =>
      rw [run_bind_ok (Session.context_live ht.phase), run_bind_ok (Session.context_live ht.phase')]
      obtain ⟨hreply, hnext⟩ := h _ _ env s s' ht
      exact ⟨hreply, .live hnext⟩
  | idle hnone hs hw =>
      rcases s.session.gate_cases env.caller with ⟨ctx, hp⟩ | ⟨e, he⟩
      · rw [Session.tenure?_live hp] at hnone
        cases hnone
      · have he' : s'.session.gate env.caller = .error e := by rw [hs, he]
        rw [run_bind_error (Session.context_shut he), run_bind_error (Session.context_shut he')]
        exact ⟨rfl, .idle hnone hs hw⟩

theorem Consistent.bind {op : Op MemoryInterpreter α} {f : α → Op MemoryInterpreter β}
    (h : Consistent op) (hf : ∀ a, Consistent (f a)) : Consistent (op >>= f) := by
  intro env s s' ha
  obtain ⟨hreply, hnext⟩ := h env s s' ha
  rw [run_bind, run_bind]
  cases hs : op.run env s with
  | mk r u =>
      cases hs' : op.run env s' with
      | mk r' u' =>
          rw [hs, hs'] at hreply hnext
          cases hreply
          cases r with
          | error e => exact ⟨rfl, hnext⟩
          | ok a => exact hf a env u u' hnext

theorem Consistent.telling {op : Op MemoryInterpreter α} (h : Consistent op) (tell : α → Answer) :
    Consistent (Request.telling op tell) := by
  intro env s s' ha
  obtain ⟨hreply, hnext⟩ := h env s s' ha
  rw [result_telling, result_telling, run_telling, run_telling, hreply]
  exact ⟨rfl, hnext⟩

/-- Following twins is such a property, and so is being consistent. -/
theorem closed_follows : Op.Closed (σ := MemoryInterpreter) Op.Follows Op.Consistent where
  pure _ := fun _ _ _ _ _ ht => ⟨rfl, ht⟩
  fail _ := fun _ _ _ _ _ ht => ⟨rfl, ht⟩
  bind hop hf := hop.bind hf
  look {α f} hf := by
    intro ctx ctx' env s s' ht
    dsimp only
    rw [run_bind_ok (run_session _ _), run_bind_ok (run_session _ _), ht.session]
    exact hf s.session.resolver s.session.buffer ctx ctx' env s s' ht
  files := fun _ _ _ _ _ ht => ⟨rfl, ht⟩
  log _ := fun _ _ _ _ _ ht => ⟨rfl, ht.phase, ht.session, ht.marked, ht.twin⟩
  putResolver _ := .modify (fun _ _ => rfl) fun _ => rfl
  putBuffer _ := .modify (fun _ _ => rfl) fun _ => rfl
  feed := .feed
  runFile path := .call (fun _ _ _ => ⟨_, rfl⟩) fun _ _ files _ _ h => h.runFile files path
  readBytes _ := .call (fun _ _ _ => ⟨_, rfl⟩) fun _ _ _ _ _ h => h.look _
  bindTo name v := .call (fun _ _ _ => ⟨_, rfl⟩) fun _ _ _ _ _ h =>
    h.within fun k => (.ok (), Ledger.bindIn name v k)
  useResolver resolver := .call (fun _ _ _ => ⟨_, rfl⟩) fun _ _ _ _ _ h => h.useResolver resolver
  apply name args kwargs _ hf :=
    .keep (.call (fun _ _ _ => ⟨_, rfl⟩) fun _ _ _ _ _ h => h.apply name args kwargs) hf
  read _ _ _ hf := .keep (.call (fun _ _ _ => ⟨_, rfl⟩) fun _ _ _ _ _ h => h.look _) hf
  gate hf := .gate hf
  seq _ hop hf := hop.bind hf
  telling tell hop := hop.telling tell

end Op

/-! ### The start -/

theorem Line.call_eq {σ : Type} [Interpreter σ] {files : Files} {c : Call} {l : Line σ}
    {r : c.Reply} {x : σ} (h : Interpreter.answer files c l.interpreter = (r, x)) (t : Thread) :
    ∃ xs, l.call files t c = (r, ⟨x, xs⟩) := by
  simp only [call, h]
  exact ⟨_, rfl⟩

theorem Launch.alike {env : Ambient} {x : Session} {w w' : World MemoryInterpreter}
    {r r' : Except Failure Unit × Scene MemoryInterpreter} (hL : Launch env ⟨x, w⟩ r)
    (hL' : Launch env ⟨x, w'⟩ r') (hnone : x.tenure? = none) (hw : w.Alike env.caller w')
    (hroom : w.line.interpreter.ledger.lastRaw + 1 ≠ 0) :
    r'.1 = r.1 ∧ Scene.Alike env.caller r.2 r'.2 := by
  cases hh : w.registry.hosts env.caller with
  | true =>
      obtain ⟨log, rfl⟩ := hL.eq_of_taken (Registry.mark_of_hosts hh)
      obtain ⟨log', rfl⟩ := hL'.eq_of_taken (Registry.mark_of_hosts (hw.marked.trans hh))
      exact ⟨rfl, .idle hnone rfl ⟨hw.marked, hw.kin⟩⟩
  | false =>
      obtain ⟨g, hm, hg⟩ := Registry.mark_of_free hh
      obtain ⟨g', hm', hg'⟩ := Registry.mark_of_free (hw.marked.trans hh)
      rcases hw.kin.acquire hroom env.files x.contextRequest with
        ⟨e, ha, ha'⟩ | ⟨ctx, ctx', n, n', ha, ha', ht⟩
      · obtain ⟨xs, hc⟩ := Line.call_eq (l := w.line) ha env.caller
        obtain ⟨xs', hc'⟩ := Line.call_eq (l := w'.line) ha' env.caller
        rw [hL.eq_of_refused hm hc, hL'.eq_of_refused hm' hc']
        exact ⟨rfl, .idle rfl rfl ⟨hw.marked, hw.kin⟩⟩
      · obtain ⟨xs, hc⟩ := Line.call_eq (l := w.line) ha env.caller
        obtain ⟨xs', hc'⟩ := Line.call_eq (l := w'.line) ha' env.caller
        obtain ⟨log, hr⟩ := hL.eq_of_acquired hm hc rfl
        obtain ⟨log', hr'⟩ := hL'.eq_of_acquired hm' hc' rfl
        obtain ⟨hfault, hnext⟩ :=
          x.parallel_plan ctx ctx' ⟨n, xs⟩ ⟨n', xs'⟩ env.files env.caller ht
        rw [hr, hr', hfault]
        cases (Line.pursue env.files env.caller (x.plan ctx) ⟨n, xs⟩).1 with
        | some e =>
            have hone : ∀ k, ∀ c ∈ [Call.release k], c.context? ≠ none := by simp [Call.context?]
            refine ⟨rfl, .idle rfl rfl ⟨hw.marked, ?_⟩⟩
            exact hnext.toKin.callAll env.files env.caller (hone ctx) (hone ctx')
        | none => exact ⟨rfl, .live ⟨rfl, rfl, by simp [Registry.hosts, hg, hg'], hnext⟩⟩

namespace Session

/-- As long as numbers are left, a start comes to the same in two worlds that the caller cannot tell
apart. -/
theorem alike_start {env : Ambient} {s s' : Scene MemoryInterpreter}
    (h : Scene.Alike env.caller s s')
    (hroom : s.world.line.interpreter.ledger.lastRaw + 1 ≠ 0) :
    ((start : Op MemoryInterpreter Unit).run env s').1 = (start.run env s).1 ∧
      Scene.Alike env.caller (start.run env s).2 (start.run env s').2 := by
  cases h with
  | live ht =>
      rw [start, Op.run_bind_ok (Op.run_session _ _), Op.run_bind_ok (Op.run_session _ _), ht.phase,
        ht.phase']
      exact ⟨rfl, .live ht⟩
  | idle hnone hs hw =>
      cases hp : s.session.phase with
      | fresh =>
          obtain ⟨x, w⟩ := s
          obtain ⟨x', w'⟩ := s'
          cases hs
          exact (launch_start hp).alike (launch_start hp) hnone hw hroom
      | spoiled | closed =>
          rw [start, Op.run_bind_ok (Op.run_session _ _), Op.run_bind_ok (Op.run_session _ _), hs,
            hp]
          exact ⟨rfl, .idle hnone hs hw⟩
      | live owner ctx =>
          rw [tenure?_live hp] at hnone
          cases hnone

/-! ### The end -/

theorem context?_ending (ctx : Handle) (held : HeldObjects) :
    ∀ c ∈ ending ctx held, c.context? ≠ none := by
  intro c hc
  obtain ⟨cs, hcs, heq⟩ := ending_eq ctx held
  rw [heq, List.mem_append, List.mem_singleton] at hc
  rcases hc with hc | rfl
  · rw [(hcs c hc).names]
    exact Option.some_ne_none ctx
  · exact Option.some_ne_none ctx

theorem consistent_close : Op.Consistent (close : Op MemoryInterpreter Unit) := by
  intro env s s' h
  cases h with
  | live ht =>
      obtain ⟨log, hrun⟩ := run_finish _ env s
      obtain ⟨log', hrun'⟩ := run_finish _ env s'
      rw [close_own ht.phase, close_own ht.phase', hrun, hrun']
      refine ⟨rfl, .idle rfl ?_ ⟨?_, ?_⟩⟩
      · rw [ht.session]
        rfl
      · simp [Registry.hosts, Registry.unmark]
      · exact ht.twin.toKin.callAll env.files env.caller (context?_ending _ _)
          (context?_ending _ _)
  | idle hnone hs hw =>
      rw [close, Op.run_bind_ok (Op.run_session _ _), Op.run_bind_ok (Op.run_session _ _), hs]
      cases hp : s.session.phase with
      | fresh | spoiled => exact ⟨rfl, .idle rfl (congrArg (ended none) hs) hw⟩
      | closed => exact ⟨rfl, .idle hnone hs hw⟩
      | live owner ctx =>
          rw [tenure?_live hp] at hnone
          cases hnone

theorem consistent_discard : Op.Consistent (discard : Op MemoryInterpreter Unit) := by
  intro env s s' h
  have hok : ∀ s : Scene MemoryInterpreter, (discard.run env s).1 = .ok () := by
    intro s
    unfold discard Op.run
    dsimp only
    split <;> rfl
  refine ⟨(hok s').trans (hok s).symm, ?_⟩
  obtain ⟨hs, hstanding⟩ := run_discard env s
  obtain ⟨hs', hstanding'⟩ := run_discard env s'
  have hl := congrArg (fun p => p.line.interpreter) hstanding
  have hl' := congrArg (fun p => p.line.interpreter) hstanding'
  exact (consistent_close env s s' h).2.congr hs hs' (congrArg Standing.registry hstanding)
    (congrArg Standing.registry hstanding') hl hl'

/-! ### Creation -/

/-- As long as numbers are left, a session is created in both worlds alike, or in none. -/
theorem alike_create (settings : Settings) (env : Ambient) {w w' : World MemoryInterpreter}
    (hw : w.Alike env.caller w') (hroom : w.line.interpreter.ledger.lastRaw + 1 ≠ 0) :
    (∃ e, (create settings env w).1 = .error e ∧ (create settings env w').1 = .error e ∧
      (create settings env w).2.Alike env.caller (create settings env w').2) ∨
    ∃ s s', (create settings env w).1 = .ok s ∧ (create settings env w').1 = .ok s' ∧
      Scene.Alike env.caller ⟨s, (create settings env w).2⟩ ⟨s', (create settings env w').2⟩ := by
  have hidle : Scene.Alike env.caller ⟨fresh settings, w⟩ ⟨fresh settings, w'⟩ :=
    .idle rfl rfl hw
  unfold create
  rw [hw.marked]
  by_cases hh : w.registry.hosts env.caller = true
  · rw [if_pos hh, if_pos hh]
    exact .inl ⟨_, rfl, rfl, hw.marked, hw.kin⟩
  · rw [if_neg hh, if_neg hh]
    by_cases hp : settings.postponed = true
    · rw [if_pos hp, if_pos hp]
      exact .inr ⟨_, _, rfl, rfl, hidle⟩
    · rw [if_neg hp, if_neg hp]
      obtain ⟨hreply, hnext⟩ := alike_start hidle hroom
      cases hs : (start : Op MemoryInterpreter Unit).run env ⟨fresh settings, w⟩ with
      | mk r u =>
          cases hs' : (start : Op MemoryInterpreter Unit).run env ⟨fresh settings, w'⟩ with
          | mk r' u' =>
              rw [hs, hs'] at hreply hnext
              cases hreply
              cases r with
              | ok _ => exact .inr ⟨_, _, rfl, rfl, hnext⟩
              | error e => exact .inl ⟨e, rfl, rfl, (consistent_discard env u u' hnext).2.world⟩

end Session

/-! ### Every request -/

/-- As long as numbers are left, every request comes to the same in two worlds that the caller
cannot tell apart. -/
theorem alike_perform (r : Request) {env : Ambient} {s s' : Scene MemoryInterpreter}
    (h : Scene.Alike env.caller s s')
    (hroom : s.world.line.interpreter.ledger.lastRaw + 1 ≠ 0) :
    ((r.perform : Op MemoryInterpreter Answer).run env s').1 = (r.perform.run env s).1 ∧
      Scene.Alike env.caller (r.perform.run env s).2 (r.perform.run env s').2 := by
  cases hr : r.isBoundary with
  | false => exact Op.closed_follows.perform hr env s s' h
  | true =>
      cases r with
      | start =>
          obtain ⟨hreply, hnext⟩ := Session.alike_start h hroom
          rw [Request.perform, Request.silent, Op.result_telling, Op.result_telling, Op.run_telling,
            Op.run_telling, hreply]
          exact ⟨rfl, hnext⟩
      | close => exact Session.consistent_close.telling _ env s s' h
      | evaluate | apply | runFile | runFileWith | useResolver | read | readBytes | bind
      | switchMode => cases hr

end PinnedSessions
