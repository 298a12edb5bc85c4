import PinnedSessions.Proofs.Host.Ledgers
import PinnedSessions.Proofs.Host.Marks

/-! # Sessions, registry and interpreters agree

Sessions, the registry and the ledgers of the interpreters are changed independently, and fail
independently. If a registry is touched only by sessions, and interpreters that keep a ledger are
driven only by sessions, the three agree after every run (`census_of_run`): marked are the owners of
the sessions that are initialized or lost, live are their contexts, and nothing is left over in a
session that is closed or was never initialized.

Nothing is assumed about the handles: as long as there are fewer acquisitions than numbers, the
ledgers see to it that no context is given out twice (`numbered_of_run`). With that, contexts belong
to threads (`tallied_of_run`), which in turn makes the ledgers mirror the sessions
(`mirrors_of_run`). -/

namespace PinnedSessions

variable {σ : Type} [Ledgered σ]

/-- A change in which nobody but sessions touches the registry or drives an interpreter: files may
change, and interpreters may as long as they keep their contexts and their count and stay quiet. -/
structure Undisturbed (h h' : Host σ) : Prop where
  sessions : h'.sessions = h.sessions
  registry : h'.registry = h.registry
  length : h'.interpreters.length = h.interpreters.length
  same : ∀ (i : Nat) (x x' : σ), h.interpreters[i]? = some x → h'.interpreters[i]? = some x' →
    Ledger.Same (Ledgered.ledger x) (Ledgered.ledger x')
  quiet : ∀ (i : Nat) (x x' : σ), h.interpreters[i]? = some x → h'.interpreters[i]? = some x' →
    Ledgered.Quiet x → Ledgered.Quiet x'

/-- Nothing was done yet: no session, no mark, and no interpreter has given out a number. -/
structure Blank (h : Host σ) : Prop where
  sessions : h.sessions = .empty
  registry : h.registry = .empty
  quiet : ∀ x ∈ h.interpreters, Ledgered.Quiet x
  live : ∀ x ∈ h.interpreters, ∀ ctx, (Ledgered.ledger x).isLive ctx = false
  lastRaw : ∀ x ∈ h.interpreters, (Ledgered.ledger x).lastRaw = 0

/-- What the sessions of a host, the lost ones, the registry and the ledgers say of one another. -/
structure Census (past : List (Moment σ)) (h : Host σ) : Prop where
  /-- Marked are the owners of the sessions that are initialized or lost. -/
  hosts : ∀ t, h.registry.hosts t = true ↔
    ∃ r ∈ holders past h, r.session.isInitialized = true ∧ r.session.owner? = some t
  /-- No two of these have one owner. -/
  owners : (((holders past h).filter (·.session.isInitialized)).map (·.session.owner?)).Nodup
  /-- Each of these has an owner and a context that is live in its interpreter. -/
  initialized : ∀ r ∈ holders past h, r.session.lifecycle = .initialized →
    ∃ owner ctx x, r.session.owner? = some owner ∧ r.session.handle? = some ctx ∧
      h.interpreters[r.interpreter]? = some x ∧ (Ledgered.ledger x).isLive ctx = true
  /-- No two of these on one interpreter have one context. -/
  handles : (((holders past h).filter (·.session.isInitialized)).map fun r =>
    (r.interpreter, r.session.handle?)).Nodup
  /-- No call was ever made on a context that is not live. -/
  served : ∀ m ∈ past, ∀ (i : Nat) (x : σ), m.effect.interpreter = some i →
    m.host.interpreters[i]? = some x → Served m.host.files m.effect.exchanges x
  uninitialized : ∀ r ∈ h.residents, r.session.lifecycle = .uninitialized →
    r.session.owner? = none ∧ r.session.handle? = none
  closed : ∀ r ∈ h.residents, r.session.lifecycle = .closed →
    r.session.handle? = none ∧ r.session.hasPending = false ∧ r.session.heldCount = 0
  /-- Live in an interpreter are the contexts of its sessions that are initialized or lost. -/
  live : ∀ (i : Nat) (x : σ) (ctx : Handle), h.interpreters[i]? = some x →
    ((Ledgered.ledger x).isLive ctx = true ↔ ∃ r ∈ holders past h,
      r.interpreter = i ∧ r.session.isInitialized = true ∧ r.session.handle? = some ctx)

/-! ### What may happen around the sessions -/

theorem undisturbed_files (h : Host σ) (files : Files) :
    Undisturbed h { h with files := files } where
  sessions := rfl
  registry := rfl
  length := rfl
  same i x x' hx hx' := by
    cases hx.symm.trans hx'
    exact .refl _
  quiet i x x' hx hx' := by
    cases hx.symm.trans hx'
    exact id

/-- An interpreter may be changed as long as its ledger stays the same and it stays quiet. -/
theorem undisturbed_modifyInterpreter {f : σ → σ}
    (hs : ∀ x, Ledger.Same (Ledgered.ledger x) (Ledgered.ledger (f x)))
    (hq : ∀ x, Ledgered.Quiet x → Ledgered.Quiet (f x)) (h : Host σ) (j : Nat) :
    Undisturbed h (h.modifyInterpreter j f) := by
  have hget : ∀ (i : Nat) (x x' : σ), h.interpreters[i]? = some x →
      (h.modifyInterpreter j f).interpreters[i]? = some x' → x' = x ∨ x' = f x := by
    intro i x x' hx hx'
    rw [Host.modifyInterpreter, List.getElem?_modify, hx] at hx'
    by_cases hj : j = i
    · exact .inr (by simpa [hj] using hx'.symm)
    · exact .inl (by simpa [hj] using hx'.symm)
  refine ⟨rfl, rfl, List.length_modify .., fun i x x' hx hx' => ?_, fun i x x' hx hx' => ?_⟩
  · rcases hget i x x' hx hx' with rfl | rfl
    · exact .refl _
    · exact hs x
  · rcases hget i x x' hx hx' with rfl | rfl
    · exact id
    · exact hq x

theorem Undisturbed.undriven {h h' : Host σ} (hu : Undisturbed h h') : Undriven h h' :=
  ⟨hu.sessions, hu.length, hu.same, hu.quiet⟩

theorem Undisturbed.aside {h h' : Host σ} (hu : Undisturbed h h') : Aside h h' := hu.undriven.aside

theorem Blank.unused {h : Host σ} (hb : Blank h) : Unused h := ⟨hb.sessions, hb.quiet, hb.live⟩

theorem Blank.housed {h : Host σ} (hb : Blank h) : h.Housed := hb.unused.housed

/-! ### Agreement -/

theorem Tallied.live_iff {past : List (Moment σ)} {h : Host σ} (hT : Tallied past h) {i : Nat}
    {l : Ledger} (hm : Mirrors (talk i past) l) (ctx : Handle) :
    l.isLive ctx = true ↔ ∃ r ∈ holders past h,
      r.interpreter = i ∧ r.session.isInitialized = true ∧ r.session.handle? = some ctx := by
  rw [hm ctx]
  constructor
  · rintro ⟨p, hp, rfl⟩
    obtain ⟨r, hr, hi, ht⟩ := (hT.opened_iff i p).1 hp
    obtain ⟨hinit, -, hctx⟩ := Session.tenure?_eq_some_iff.1 ht
    exact ⟨r, hr, hi, hinit, hctx⟩
  · rintro ⟨r, hr, hi, hinit, hctx⟩
    obtain ⟨p, hp⟩ := Session.exists_tenure hinit
    have hctx' := (Session.tenure?_eq_some_iff.1 hp).2.2
    cases hctx.symm.trans hctx'
    exact ⟨p, (hT.opened_iff i p).2 ⟨r, hr, hi, hp⟩, rfl⟩

/-- Whatever sessions are created, started, used, ended and thrown away, from whichever threads, and
whatever fails on the way: sessions, registry and ledgers agree, as long as sessions alone touch the
registry and drive the interpreters, and there are fewer acquisitions than numbers. -/
theorem census_of_run {h₀ h : Host σ} {past : List (Moment σ)} (hb : Blank h₀)
    (hr : Run Undisturbed h₀ past h)
    (hn : ∀ i, (acquisitions (talk i past)).length < 2 ^ 64 - 1) : Census past h := by
  have hm : ∀ h h' : Host σ, Undisturbed h h' → Aside h h' := fun _ _ => Undisturbed.aside
  have hu := hr.mono fun _ _ => Undisturbed.undriven
  have hf := fresh_of_run hb.unused hb.lastRaw hu hn
  have hT := tallied_of_run hb.sessions hm hr hf
  have hM := marks_of_run hb.sessions hb.registry hm (fun _ _ hu => hu.registry) hr
  have hlive : ∀ (i : Nat) (x : σ) (ctx : Handle), h.interpreters[i]? = some x →
      ((Ledgered.ledger x).isLive ctx = true ↔ ∃ r ∈ holders past h,
        r.interpreter = i ∧ r.session.isInitialized = true ∧ r.session.handle? = some ctx) :=
    fun i x ctx hx => hT.live_iff (mirrors_of_run hb.unused hu hT.disciplined hf hx) ctx
  refine ⟨hM.hosts_iff, hM.owners_nodup, fun r hr' hl => ?_, hT.handles_nodup hf,
    served_of_run hb.unused hu hT.disciplined hf, fun r hr' hl => ?_, fun r hr' hl => ?_, hlive⟩
  · have hinit : r.session.isInitialized = true := by rw [Session.isInitialized, hl]; rfl
    obtain ⟨p, hp⟩ := Session.exists_tenure hinit
    obtain ⟨-, ho, hctx⟩ := Session.tenure?_eq_some_iff.1 hp
    have hopen := (hT.opened_iff r.interpreter p).2 ⟨r, hr', rfl, hp⟩
    have hi : r.interpreter < h.interpreters.length := by
      by_contra hge
      rw [hr.talk_eq_nil hb.housed hm (Nat.le_of_not_lt hge)] at hopen
      exact absurd hopen.begun List.not_mem_nil
    have hx := List.getElem?_eq_getElem hi
    exact ⟨_, _, _, ho, hctx, hx, (hlive _ _ _ hx).2 ⟨r, hr', rfl, hinit, hctx⟩⟩
  · unfold Session.lifecycle at hl
    unfold Session.owner? Session.handle?
    cases hp : r.session.phase with
    | fresh | spoiled => exact ⟨rfl, rfl⟩
    | live | closed => rw [hp] at hl; cases hl
  · refine ⟨?_, (hr.housed hb.housed hm).tidy r hr' hl⟩
    unfold Session.lifecycle at hl
    unfold Session.handle?
    cases hp : r.session.phase with
    | closed => rfl
    | fresh | spoiled | live => rw [hp] at hl; cases hl

/-- A host with one interpreter, which can be told to fail, and a callable that runs a text in it. -/
def frail : Host FaultyInterpreter :=
  { interpreters :=
      [{ memory := MemoryInterpreter.new.register "touch" (.run .first "n = 1") }] }

/-- No context can be configured from now on. -/
def Host.unhook (h : Host FaultyInterpreter) : Host FaultyInterpreter :=
  h.modifyInterpreter 0 fun f => f.setFault .hookImports (some (.failed "no hooks"))

theorem undisturbed_unhook (h : Host FaultyInterpreter) : Undisturbed h h.unhook := by
  refine undisturbed_modifyInterpreter (fun x => ?_) (fun x hq => ?_) h 0
  · exact .refl x.memory.ledger
  · exact FaultyInterpreter.Quiet.setFault hq (by decide) _

/-- One session is started and used, and one is left for later. -/
def opening : List (Thread × Action) :=
  [(⟨"1"⟩, .create "a" 0 {}), (⟨"1"⟩, .request "a" (.apply "touch" [] none)),
    (⟨"2"⟩, .create "b" 0 { postponed := true })]

/-- The second session cannot be started any more, and the first one is lost. -/
def mishap : List (Thread × Action) :=
  [(⟨"2"⟩, .request "b" .start), (⟨"2"⟩, .discard "a"), (⟨"1"⟩, .create "a" 0 {})]

theorem blank_frail : Blank frail := by
  refine ⟨rfl, rfl, fun x hx => ?_, fun x hx ctx => ?_, fun x hx => ?_⟩
  all_goals cases List.mem_singleton.1 hx
  · have hquiet := Callable.quiet_run .first "n = 1"
    exact ⟨MemoryInterpreter.callables_register MemoryInterpreter.callables_new _ hquiet, rfl⟩
  · rfl
  · rfl

/-- After the opening no context can be configured. -/
theorem run_opening :
    Run Undisturbed frail (moments frail opening) (frail.run opening).2.unhook :=
  (run_moments _ _ (by decide)).between (undisturbed_unhook _)

theorem census_mishap :
    Census (moments frail opening ++ moments (frail.run opening).2.unhook mishap)
      ((frail.run opening).2.unhook.run mishap).2 := by
  have hr : Run Undisturbed frail
      (moments frail opening ++ moments (frail.run opening).2.unhook mishap)
      ((frail.run opening).2.unhook.run mishap).2 := run_opening.append (by decide)
  exact census_of_run blank_frail hr <| hr.acquisitions_lt blank_frail.housed
    (fun _ _ => Undisturbed.aside) (by decide +kernel) (by decide +kernel)

end PinnedSessions
