import PinnedSessions.Proofs.Session.Gate
import PinnedSessions.Proofs.Session.Renewals

/-! # The resolver in use

What a session believes about its resolver is true of its context: however resolvers are given to
it, alternating, repeated or alike, and whatever else is asked of it, the context uses the one given
last, and the interpreter was told whenever that was another object than the one before
(`resolvers_current`).

* `Scene.InUse` is the agreement between a session and its context, and no request breaks it
  (`Scene.inUse_perform`).
* `Life` is all that can happen to a session on an in-memory interpreter and around it, `Story` what
  there is to tell of it, and `Story.Sound` what each step of a life preserves. -/

namespace PinnedSessions

/-! ### The context's resolver -/

/-- The context of the session, if it has one, uses the resolver that the session believes it to
use. -/
def Scene.Agrees (s : Scene MemoryInterpreter) : Prop :=
  ∀ ctx, s.session.handle? = some ctx →
    s.world.line.interpreter.ledger.resolver? ctx = some (s.session.resolver.map (·.name))

/-- A session that is right about its resolver, on an interpreter whose callables leave resolvers
alone. -/
structure Scene.InUse (s : Scene MemoryInterpreter) : Prop where
  loyal : s.world.line.interpreter.Loyal
  agrees : s.Agrees

section Agreement

variable {env : Ambient} {s s' : Scene MemoryInterpreter}

theorem Course.agrees {ctx : Handle} {r : Request} {xs : List Exchange}
    {res : Except Failure Answer} (h : Course env ctx r s xs res s') (hsteady : Steady env ctx s s')
    (hp : s.session.phase = .live env.caller ctx) (hs : s.InUse) : s'.Agrees := by
  intro k hk
  obtain rfl : ctx = k := Option.some.inj ((Session.handle?_live (h.phase.trans hp)).symm.trans hk)
  obtain ⟨cs, hcs, hl⟩ := hsteady.calls
  obtain ⟨ys, hys, hcalls, -⟩ := s.world.line.exchanges_callAll env.files env.caller cs
  -- the calls are those of the course
  obtain rfl : ys = xs := List.append_cancel_left (hys.symm.trans (hl ▸ h.exchanges))
  rw [hl, Line.resolver?_callAll env.files env.caller hcs hs.loyal
    (hs.agrees ctx (Session.handle?_live hp)), ← hcalls, replacements_map, h.replacements,
    List.foldl_map, Resolver.names_renewals, h.resolver]

/-- A context that is started gets the resolver that the session believes it to use. -/
theorem Launch.agrees {p : Except Failure Unit × Scene MemoryInterpreter} (h : Launch env s p)
    (hfresh : s.session.phase = .fresh) (hs : s.InUse) : p.2.Agrees := by
  intro ctx hctx
  cases h with
  | taken hm =>
      rw [Session.handle?, hfresh] at hctx
      cases hctx
  | refused | givenUp => cases hctx
  | @live g k l l' hm hl hc log =>
      cases hctx
      have hanswer : MemoryInterpreter.answer env.files (.acquire s.session.contextRequest)
          s.world.line.interpreter = (.ok ctx, l.interpreter) := by
        have hreply := congrArg Prod.fst hl
        have hline := congrArg (fun p => p.2.interpreter) hl
        exact Prod.ext hreply hline
      have hacquired := MemoryInterpreter.resolver?_acquire hanswer
      have hloyal := MemoryInterpreter.loyal_answer hs.loyal env.files
        (.acquire s.session.contextRequest)
      rw [hanswer] at hloyal
      obtain ⟨cs, hcs, hline⟩ := l.pursue_eq_callAll env.files env.caller (s.session.plan ctx)
      have hplan : ∀ c ∈ cs, c.Configures ctx := fun c hc =>
        Session.configures_plan (hcs.subset hc)
      have hnone : cs.filterMap Call.replacement? = [] :=
        List.filterMap_eq_nil_iff.2 fun c hc => (hplan c hc).replacement?
      have hused := Line.resolver?_callAll env.files env.caller
        (fun c hc => (hplan c hc).uses) hloyal hacquired
      rw [hnone, ← hline, hc] at hused
      exact hused

theorem Session.agrees_start (hs : s.InUse) :
    ((start : Op MemoryInterpreter Unit).run env s).2.Agrees := by
  rcases run_start env s with ⟨hp, hrun⟩ | ⟨e, hrun⟩
  · rw [hrun]
    exact (launch_acquire env s).agrees hp hs
  · rw [hrun]
    exact hs.agrees

theorem Session.agrees_close (hs : s.InUse) :
    ((close : Op MemoryInterpreter Unit).run env s).2.Agrees := by
  rcases s.session.tenure_cases env.caller with ⟨ctx, hp⟩ | ⟨owner, ctx, hne, hp⟩ | hnone
  · obtain ⟨log, hrun⟩ := run_finish ctx env s
    rw [close_own hp, hrun]
    intro k hk
    cases hk
  · rw [close_foreign hne hp]
    exact hs.agrees
  · obtain ⟨session, hclose, hnone', -⟩ := close_idle hnone
    rw [hclose]
    intro k hk
    rw [handle?_of_tenure? hnone'] at hk
    cases hk

theorem Session.loyal_perform (r : Request) (env : Ambient)
    (h : s.world.line.interpreter.Loyal) :
    ((r.perform : Op MemoryInterpreter Answer).run env s).2.world.line.interpreter.Loyal := by
  obtain ⟨cs, hcs⟩ := ((orderly_perform r).conduct env s).callAll
  have hline : ((r.perform : Op MemoryInterpreter Answer).run env s).2.world.line =
      s.world.line.callAll env.files env.caller cs := hcs
  rw [hline]
  exact Line.loyal_callAll env.files env.caller cs h

/-- No request makes a session wrong about its resolver. -/
theorem Scene.inUse_perform (r : Request) (env : Ambient) (hs : s.InUse) :
    ((r.perform : Op MemoryInterpreter Answer).run env s).2.InUse := by
  refine ⟨Session.loyal_perform r env hs.loyal, ?_⟩
  rcases perform_cases r env s with ⟨e, -, hrun⟩ | ⟨ctx, xs, hr, hp, h⟩ | ⟨-, hrun⟩ | ⟨-, hrun⟩
  · rw [hrun]
    exact hs.agrees
  · exact h.agrees ((guarded_perform hr).steady env s ctx hp) hp hs
  · rw [hrun]
    exact Session.agrees_start hs
  · rw [hrun]
    exact Session.agrees_close hs

end Agreement

/-! ### The life of a session -/

/-- What there is to tell of a session: the resolvers that it was given in turn, the exchanges that
it had, and the scene that it is in. -/
structure Story where
  given : List Resolver
  said : List Exchange
  scene : Scene MemoryInterpreter

/-- A thread makes a request. -/
def Story.ask (st : Story) (env : Ambient) (r : Request) : Story :=
  let next := (r.perform.run env st.scene).2
  { given := st.given ++ (st.scene.session.given? env.caller r).toList
    said := st.said ++
      next.world.line.exchanges.drop st.scene.world.line.exchanges.length
    scene := next }

/-- All that can happen to a session and around it. Whatever the surroundings do, they leave its
context to it. -/
inductive Life (settings : Settings) : Story → Prop
  | created {env : Ambient} {w w' : World MemoryInterpreter} {s : Session}
      (hw : w.line.interpreter.Loyal) (h : Session.create settings env w = (.ok s, w')) :
      Life settings ⟨[], w'.line.exchanges.drop w.line.exchanges.length, ⟨s, w'⟩⟩
  | asked {st : Story} (h : Life settings st) (env : Ambient) (r : Request) :
      Life settings (st.ask env r)
  /-- A call is made that neither names the context nor is answered with it. -/
  | elsewhere {st : Story} (h : Life settings st) (files : Files) (t : Thread) (c : Call)
      (hc : ∀ ctx, st.scene.session.handle? = some ctx → c.context? ≠ some ctx ∧
        c.acquired? (st.scene.world.line.call files t c).1 ≠ some ctx) :
      Life settings { st with scene :=
        ⟨st.scene.session, { st.scene.world with
          line := (st.scene.world.line.call files t c).2 }⟩ }
  /-- Anything but the interpreter's contexts changes. -/
  | around {st : Story} (h : Life settings st) (w : World MemoryInterpreter)
      (hw : w.line.interpreter.Loyal) (hl : w.line.interpreter.ledger.contexts =
        st.scene.world.line.interpreter.ledger.contexts) :
      Life settings { st with scene := ⟨st.scene.session, w⟩ }

/-- A session believes to use what it was given last, its context uses that, and what it asked for
are the renewals, in its own context. -/
structure Story.Sound (settings : Settings) (st : Story) : Prop where
  inUse : st.scene.InUse
  settings_eq : st.scene.session.settings = settings
  resolver : st.scene.session.resolver = st.given.foldl Resolver.swap settings.resolver
  replaced : (replacements st.said).map Prod.snd = Resolver.renewals settings.resolver st.given
  own : ∀ p ∈ replacements st.said,
    st.scene.session.handle? = some p.1 ∨ st.scene.session.isClosed = true

namespace Story

variable {settings : Settings} {st : Story}

theorem Sound.ask (h : st.Sound settings) (env : Ambient) (r : Request) :
    (st.ask env r).Sound settings := by
  obtain ⟨xs, hr⟩ := renews_perform r env st.scene
  have hsaid : (st.ask env r).said = st.said ++ xs := by
    rw [Story.ask, hr.exchanges, List.drop_left]
  refine ⟨Scene.inUse_perform r env h.inUse, hr.settings.trans h.settings_eq, ?_, ?_,
    fun p hp => ?_⟩
  · rw [Story.ask, List.foldl_append, ← h.resolver]
    exact hr.resolver
  · rw [hsaid, replacements_append, List.map_append, h.replaced, hr.replaced, h.resolver]
    exact (Resolver.renewals_append _ _ _).symm
  · rw [hsaid, replacements_append] at hp
    rcases List.mem_append.1 hp with hp | hp
    · exact hr.known p.1 (h.own p hp)
    · exact .inl (hr.own p hp)

/-- A session before its first request. -/
theorem sound_fresh (settings : Settings) {w : World MemoryInterpreter}
    (hw : w.line.interpreter.Loyal) : Sound settings ⟨[], [], ⟨.fresh settings, w⟩⟩ :=
  ⟨⟨hw, nofun⟩, rfl, rfl, rfl, nofun⟩

theorem sound_created {env : Ambient} {w w' : World MemoryInterpreter} {s : Session}
    (hw : w.line.interpreter.Loyal) (h : Session.create settings env w = (.ok s, w')) :
    Sound settings ⟨[], w'.line.exchanges.drop w.line.exchanges.length, ⟨s, w'⟩⟩ := by
  unfold Session.create at h
  split at h
  · cases h
  · split at h
    · cases h
      rw [List.drop_length]
      exact sound_fresh settings hw
    · have hstart := (sound_fresh settings hw).ask env .start
      rw [Story.ask, Request.perform, Request.silent, Op.run_telling,
        Session.given?_of_none rfl] at hstart
      split at h
      · next hrun =>
        cases h
        rw [hrun] at hstart
        exact hstart
      · cases h

theorem Sound.of_life (h : Life settings st) : st.Sound settings := by
  induction h with
  | created hw hs => exact sound_created hw hs
  | asked h env r ih => exact ih.ask env r
  | elsewhere h files t c hc ih =>
      refine ⟨⟨MemoryInterpreter.loyal_answer ih.inUse.loyal files c, fun ctx hctx => ?_⟩,
        ih.settings_eq, ih.resolver, ih.replaced, ih.own⟩
      exact MemoryInterpreter.resolver?_elsewhere ih.inUse.loyal files (hc ctx hctx).1
        (hc ctx hctx).2 (ih.inUse.agrees ctx hctx)
  | around h w hw hl ih =>
      refine ⟨⟨hw, fun ctx hctx => ?_⟩, ih.settings_eq, ih.resolver, ih.replaced, ih.own⟩
      have hused := ih.inUse.agrees ctx hctx
      rw [Ledger.resolver?, ← hl] at hused
      exact hused

/-- What a session is to do with the resolvers that it is given: its context uses the one given
last, and it asks for those that are another object than the one given before, and for no others.
What it was created with stays. -/
structure Current (settings : Settings) (st : Story) : Prop where
  settings_eq : st.scene.session.settings = settings
  replaced : (replacements st.said).map Prod.snd = Resolver.renewals settings.resolver st.given
  live : st.scene.session.isInitialized = true → ∃ ctx k,
    st.scene.session.handle? = some ctx ∧
    st.scene.world.line.interpreter.context? ctx = some k ∧
    k.resolver = (Resolver.latest settings.resolver st.given).map (·.name) ∧
    ∀ p ∈ replacements st.said, p.1 = ctx

end Story

/-- At every point of a session's life its context uses the resolver that the session was given
last, and the interpreter was told of a resolver exactly where the session was given another object
than before. -/
theorem resolvers_current {settings : Settings} {st : Story} (h : Life settings st)
    (hc : Resolver.Coherent (settings.resolver.toList ++ st.given)) : st.Current settings := by
  have hs := Story.Sound.of_life h
  refine ⟨hs.settings_eq, hs.replaced, fun hi => ?_⟩
  obtain ⟨owner, ctx, hp⟩ := Session.phase_of_initialized hi
  have hctx := Session.handle?_live hp
  have hused := hs.inUse.agrees ctx hctx
  obtain ⟨k, hk, hname⟩ := Option.map_eq_some_iff.1 hused
  refine ⟨ctx, k, hctx, hk, ?_, fun p hmem => ?_⟩
  · rw [hname, hs.resolver]
    exact Resolver.name_swaps hc
  · rcases hs.own p hmem with h | h
    · exact Option.some.inj (h.symm.trans hctx)
    · unfold Session.isClosed Session.lifecycle at h
      rw [hp] at h
      cases h

/-- Requests are made in turn, each on its thread. -/
def Story.asks (files : Files) (st : Story) (requests : List (Thread × Request)) : Story :=
  requests.foldl (fun st p => st.ask ⟨p.1, files⟩ p.2) st

theorem Life.asks {settings : Settings} {st : Story} (h : Life settings st) (files : Files)
    (requests : List (Thread × Request)) : Life settings (st.asks files requests) := by
  induction requests generalizing st with
  | nil => exact h
  | cons p requests ih => exact ih (h.asked ⟨p.1, files⟩ p.2)

def plugins : Resolver := ⟨"a", "plugins", ["/opt/plugins"]⟩

/-- Another object that is like `plugins` in everything. -/
def likePlugins : Resolver := ⟨"b", "plugins", ["/opt/plugins"]⟩

def builtins : Resolver := ⟨"c", "builtins", []⟩

/-- An interpreter with a callable that runs a text in the first context. -/
def touchable : MemoryInterpreter :=
  MemoryInterpreter.new.register "touch" (.run .first "n = 1")

/-- A session that is to be started later, with a resolver. -/
def waiting : Story :=
  ⟨[], [], ⟨.fresh { postponed := true, resolver := some plugins }, { line := ⟨touchable, []⟩ }⟩⟩

/-- The session is given resolvers in turn: some again, one by a stranger, and one together with a
script that does not exist. In between the callable works on its context. -/
def restless : Story :=
  waiting.asks .empty
    [(⟨"1"⟩, .start), (⟨"1"⟩, .useResolver plugins), (⟨"1"⟩, .useResolver likePlugins),
      (⟨"1"⟩, .apply "touch" [] none), (⟨"1"⟩, .useResolver likePlugins),
      (⟨"2"⟩, .useResolver plugins), (⟨"1"⟩, .runFileWith "missing.py" builtins),
      (⟨"1"⟩, .useResolver plugins)]

theorem resolvers_current_restless :
    Life { postponed := true, resolver := some plugins } restless ∧
      restless.given = [plugins, likePlugins, likePlugins, builtins, plugins] ∧
      Resolver.Coherent (plugins :: restless.given) ∧
      restless.scene.session.isInitialized = true ∧
      (replacements restless.said).map Prod.snd = [likePlugins, builtins, plugins] ∧
      restless.Current { postponed := true, resolver := some plugins } := by
  have hwaiting : Life { postponed := true, resolver := some plugins } waiting := by
    have hloyal : touchable.Loyal := MemoryInterpreter.callables_register
      MemoryInterpreter.callables_new _ (Callable.loyal_run _ _)
    have hcreate : Session.create { postponed := true, resolver := some plugins }
        ⟨⟨"1"⟩, .empty⟩ waiting.scene.world =
          (.ok waiting.scene.session, waiting.scene.world) := rfl
    exact .created hloyal hcreate
  have hlife : Life { postponed := true, resolver := some plugins } restless := hwaiting.asks _ _
  have hgiven : restless.given = [plugins, likePlugins, likePlugins, builtins, plugins] := by
    decide +kernel
  have hcoherent : Resolver.Coherent (plugins :: restless.given) := by
    rw [hgiven]
    unfold Resolver.Coherent
    decide
  exact ⟨hlife, hgiven, hcoherent, by decide +kernel, by decide +kernel,
    resolvers_current hlife hcoherent⟩

end PinnedSessions
