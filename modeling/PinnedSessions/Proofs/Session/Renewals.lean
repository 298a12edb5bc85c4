import PinnedSessions.Proofs.Interpreter.Resolvers
import PinnedSessions.Proofs.Session.Course
import PinnedSessions.Proofs.Session.Objects

/-! # What a session does with resolvers

A session remembers which resolver its context uses, and asks for another one only if that is
another object.

* `Resolver.latest` and `Resolver.renewals` say what should come of resolvers that are given in
  turn: the one given last is used, and those are asked for that are not the object given just
  before. A session that swaps its resolver for each one that it is given (`Resolver.swap`) comes to
  the same (`Resolver.name_swaps`, `Resolver.renewals_append`).
* `Renews` is what one request does on any interpreter, and every request does it
  (`renews_perform`). -/

namespace PinnedSessions

variable {σ : Type}

/-! ### Resolvers given in turn -/

namespace Resolver

/-- The resolver given last, after the one given at first, if any. -/
def latest (first : Option Resolver) (given : List Resolver) : Option Resolver :=
  (first.toList ++ given).getLast?

/-- The resolvers given that are not the same object as the one given just before. -/
def renewals : Option Resolver → List Resolver → List Resolver
  | _, [] => []
  | before, r :: given =>
    if before.any (·.same r) then renewals (some r) given else r :: renewals (some r) given

/-- The same objects have the same names. -/
def Coherent (given : List Resolver) : Prop :=
  ∀ r ∈ given, ∀ s ∈ given, r.same s = true → r.name = s.name

theorem latest_snoc (first : Option Resolver) (given : List Resolver) (r : Resolver) :
    latest first (given ++ [r]) = some r := by
  rw [latest, ← List.append_assoc, List.getLast?_concat]

theorem latest_cons (first : Option Resolver) (r : Resolver) (given : List Resolver) :
    latest first (r :: given) = latest (some r) given := by
  cases first with
  | none => rfl
  | some f => exact List.getLast?_cons_cons

theorem renewals_snoc (first : Option Resolver) (given : List Resolver) (r : Resolver) :
    renewals first (given ++ [r]) =
      renewals first given ++ renewals (latest first given) [r] := by
  induction given generalizing first with
  | nil => cases first <;> rfl
  | cons s given ih =>
      rw [List.cons_append, renewals, renewals, ih, latest_cons]
      split
      · rfl
      · rw [List.cons_append]

/-- Whether a resolver is the object in use depends on that object alone. -/
theorem any_same_congr {used used' : Option Resolver}
    (h : used.map identity = used'.map identity) (r : Resolver) :
    used.any (·.same r) = used'.any (·.same r) := by
  cases used with
  | none =>
      cases used' with
      | none => rfl
      | some s => cases h
  | some s =>
      cases used' with
      | none => cases h
      | some s' =>
          have hid : s.identity = s'.identity := Option.some.inj h
          simp only [Option.any_some, same, hid]

theorem identity_swap (used : Option Resolver) (r : Resolver) :
    (swap used r).map identity = some r.identity := by
  unfold swap
  cases used with
  | none => rfl
  | some s =>
      by_cases hs : s.same r = true
      · rw [Option.any_some, if_pos hs, Option.map_some, eq_of_beq hs]
      · rw [Option.any_some, if_neg hs, Option.map_some]

/-- A session that swaps its resolver for each one that it is given uses the object given last. -/
theorem identity_swaps (first : Option Resolver) (given : List Resolver) :
    (given.foldl swap first).map identity = (latest first given).map identity := by
  rcases given.eq_nil_or_concat with rfl | ⟨given, r, rfl⟩
  · cases first <;> rfl
  · rw [List.concat_eq_append, List.foldl_append, latest_snoc]
    exact identity_swap _ r

theorem mem_swaps {first : Option Resolver} {given : List Resolver} {r : Resolver}
    (h : given.foldl swap first = some r) : r ∈ first.toList ++ given := by
  induction given generalizing first with
  | nil =>
      cases h
      exact List.mem_append_left [] (.head _)
  | cons s given ih =>
      rcases List.mem_append.1 (ih h) with hr | hr
      · unfold swap at hr
        split at hr
        · exact List.mem_append_left _ hr
        · exact List.mem_append_right _ (List.mem_singleton.1 hr ▸ .head _)
      · exact List.mem_append_right _ (.tail _ hr)

/-- The resolver in use has the name of the one given last. -/
theorem name_swaps {first : Option Resolver} {given : List Resolver}
    (h : Coherent (first.toList ++ given)) :
    (given.foldl swap first).map name = (latest first given).map name := by
  have hid := identity_swaps first given
  cases hu : given.foldl swap first with
  | none =>
      cases hl : latest first given with
      | none => rfl
      | some s => rw [hu, hl] at hid; cases hid
  | some r =>
      cases hl : latest first given with
      | none => rw [hu, hl] at hid; cases hid
      | some s =>
          rw [hu, hl] at hid
          exact congrArg some (h r (mem_swaps hu) s (List.mem_of_getLast? hl)
            (beq_iff_eq.2 (Option.some.inj hid)))

/-- What is to be asked for follows from the resolver in use. -/
theorem renewals_append (first : Option Resolver) (given : List Resolver) (o : Option Resolver) :
    renewals first (given ++ o.toList) =
      renewals first given ++ renewals (given.foldl swap first) o.toList := by
  cases o with
  | none => simp only [Option.toList_none, List.append_nil, renewals]
  | some r =>
      rw [Option.toList_some, renewals_snoc]
      simp only [renewals, any_same_congr (identity_swaps first given) r]

/-- A context that is told of the renewals uses the resolver that the session uses. -/
theorem names_renewals (used o : Option Resolver) :
    (renewals used o.toList).foldl (fun _ r => some r.name) (used.map name) =
      (o.toList.foldl swap used).map name := by
  cases o with
  | none => rfl
  | some r =>
      rw [Option.toList_some, renewals, List.foldl_cons, List.foldl_nil, swap]
      split <;> rfl

end Resolver

/-! ### What a request gives, and what it asks for -/

/-- The resolver that a request gives a session. -/
def Request.resolver? : Request → Option Resolver
  | .useResolver resolver | .runFileWith _ resolver => some resolver
  | _ => none

/-- The resolver that a session is given when a thread makes a request and passes the gate. -/
def Session.given? (s : Session) (caller : Thread) (r : Request) : Option Resolver :=
  match s.gate caller with
  | .ok _ => r.resolver?
  | .error _ => none

theorem Session.given?_of_none {r : Request} (h : r.resolver? = none) (s : Session)
    (caller : Thread) : s.given? caller r = none := by
  unfold given?
  split
  · exact h
  · rfl

/-- The resolvers that exchanges put in use, each with the context in which they do. -/
def replacements (xs : List Exchange) : List (Handle × Resolver) :=
  xs.filterMap fun x => x.call.replacement?

theorem replacements_append (xs ys : List Exchange) :
    replacements (xs ++ ys) = replacements xs ++ replacements ys :=
  List.filterMap_append

theorem replacements_map (xs : List Exchange) :
    (xs.map (·.call)).filterMap Call.replacement? = replacements xs :=
  List.filterMap_map

theorem replacements_eq_nil {xs : List Exchange} (h : ∀ x ∈ xs, x.call.replacement? = none) :
    replacements xs = [] :=
  List.filterMap_eq_nil_iff.2 h

theorem Call.Configures.replacement? {ctx : Handle} {c : Call} (h : c.Configures ctx) :
    c.replacement? = none := by
  cases h <;> rfl

section Course

variable [Interpreter σ] {env : Ambient} {ctx : Handle}

theorem LineBuffer.RunCourse.replacements {text : String} {b b' : LineBuffer} {l l' : Line σ}
    {xs : List Exchange} {r : Except Failure Outcome} (h : RunCourse env ctx text b l xs r b' l') :
    PinnedSessions.replacements xs = [] := by
  cases h <;> rfl

theorem LineBuffer.FeedCourse.replacements {line : Option String} {b b' : LineBuffer}
    {l l' : Line σ} {xs : List Exchange} {r : Except Failure Outcome}
    (h : FeedCourse env ctx line b l xs r b' l') : PinnedSessions.replacements xs = [] := by
  cases h with
  | idle | joined | unclear | incomplete => rfl
  | flushed _ _ _ hr | direct _ _ hr => exact hr.replacements
  | complete _ _ _ _ hr => exact hr.replacements

theorem Request.replacement?_errand {r : Request} {c : Call} (h : r.errand? ctx = some c) :
    c.replacement? = none := by
  cases r <;> cases h <;> rfl

theorem Request.resolver?_errand {r : Request} {c : Call} (h : r.errand? ctx = some c) :
    r.resolver? = none := by
  cases r <;> cases h <;> rfl

variable {r : Request} {s s' : Scene σ} {xs : List Exchange} {res : Except Failure Answer}

theorem Course.settings (h : Course env ctx r s xs res s') :
    s'.session.settings = s.session.settings := by
  induction h with
  | both h h' ih ih' => rw [ih', ih]
  | _ => rfl

theorem Course.resolver (h : Course env ctx r s xs res s') :
    s'.session.resolver = r.resolver?.toList.foldl Resolver.swap s.session.resolver := by
  induction h with
  | malformed hc | failed hc | answered hc =>
      rw [Request.resolver?_errand hc]
      rfl
  | unreadable | switched | fed => rfl
  | unchanged hs =>
      change _ = Resolver.swap _ _
      rw [Resolver.swap, if_pos hs]
  | replaced hs =>
      change _ = Resolver.swap _ _
      rw [Resolver.swap, if_neg (by simp [hs])]
      rfl
  | both h h' ih ih' => exact ih'.trans ih

theorem Course.replacements (h : Course env ctx r s xs res s') :
    PinnedSessions.replacements xs =
      (Resolver.renewals s.session.resolver r.resolver?.toList).map (Prod.mk ctx) := by
  induction h with
  | malformed hc =>
      rw [Request.resolver?_errand hc]
      rfl
  | failed hc | answered hc =>
      rw [Request.resolver?_errand hc, replacements_eq_nil fun x hx => ?_]
      · rfl
      · rw [List.mem_singleton.1 hx]
        exact Request.replacement?_errand hc
  | unreadable | switched => rfl
  | fed h => exact h.replacements
  | unchanged hs =>
      simp only [Request.resolver?, Option.toList_some, Resolver.renewals, if_pos hs]
      rfl
  | replaced hs =>
      simp only [Request.resolver?, Option.toList_some, Resolver.renewals, hs]
      rfl
  | both h h' ih ih' =>
      rw [replacements_append, ih, ih']
      exact List.append_nil _

end Course

/-! ### What every request does -/

/-- What a request does as far as resolvers go: the session swaps its resolver for the one that it
is given, its settings stay, and it asks for the renewals, in its own context. -/
structure Renews (given : Option Resolver) (s s' : Scene σ) (xs : List Exchange) : Prop where
  exchanges : s'.world.line.exchanges = s.world.line.exchanges ++ xs
  settings : s'.session.settings = s.session.settings
  resolver : s'.session.resolver = given.toList.foldl Resolver.swap s.session.resolver
  replaced : (replacements xs).map Prod.snd = Resolver.renewals s.session.resolver given.toList
  own : ∀ p ∈ replacements xs, s'.session.handle? = some p.1
  /-- A context is known as the session's own until the session is closed. -/
  known : ∀ ctx, s.session.handle? = some ctx ∨ s.session.isClosed = true →
    s'.session.handle? = some ctx ∨ s'.session.isClosed = true

theorem Renews.refl (s : Scene σ) : Renews none s s [] :=
  ⟨(List.append_nil _).symm, rfl, rfl, rfl, nofun, fun _ => id⟩

/-- A request that gives no resolver and asks for none. -/
theorem Renews.without {s s' : Scene σ} {xs : List Exchange}
    (hx : s'.world.line.exchanges = s.world.line.exchanges ++ xs)
    (hs : s'.session.settings = s.session.settings)
    (hr : s'.session.resolver = s.session.resolver)
    (hn : ∀ x ∈ xs, x.call.replacement? = none)
    (hk : ∀ ctx, s.session.handle? = some ctx ∨ s.session.isClosed = true →
      s'.session.handle? = some ctx ∨ s'.session.isClosed = true) : Renews none s s' xs := by
  have hnil := replacements_eq_nil hn
  refine ⟨hx, hs, hr, by rw [hnil]; rfl, fun p hp => ?_, hk⟩
  rw [hnil] at hp
  cases hp

namespace Session

theorem handle?_of_tenure? {s : Session} (h : s.tenure? = none) : s.handle? = none := by
  unfold tenure? at h
  unfold handle?
  cases hp : s.phase with
  | live owner ctx => rw [hp] at h; cases h
  | fresh | spoiled | closed => rfl

end Session

theorem Course.renews [Interpreter σ] {env : Ambient} {ctx : Handle} {r : Request} {s s' : Scene σ}
    {xs : List Exchange} {res : Except Failure Answer} (h : Course env ctx r s xs res s')
    (hp : s.session.phase = .live env.caller ctx) :
    Renews (s.session.given? env.caller r) s s' xs := by
  have hgiven : s.session.given? env.caller r = r.resolver? := by
    rw [Session.given?, Session.gate_live hp]
  rw [hgiven]
  refine ⟨h.exchanges, h.settings, h.resolver, ?_, fun p hmem => ?_, fun k hk => ?_⟩
  · rw [h.replacements, List.map_map]
    exact List.map_id'' (fun _ => rfl) _
  · rw [h.replacements] at hmem
    obtain ⟨resolver, -, rfl⟩ := List.mem_map.1 hmem
    exact Session.handle?_live (h.phase.trans hp)
  · unfold Session.handle? Session.isClosed Session.lifecycle at hk ⊢
    rwa [h.phase]

namespace Session

/-- No resolver is replaced when a session is started. -/
theorem replacement?_overture {t : Thread} {s : Session} {xs : List Exchange}
    {o : Except GuestFault Handle} (h : Overture t s xs o) {x : Exchange} (hx : x ∈ xs) :
    x.call.replacement? = none := by
  have hplan : ∀ {ctx : Handle} {xs : List Exchange} {o : Option GuestFault},
      Pursued t (s.plan ctx) xs o → x ∈ xs → x.call.replacement? = none :=
    fun h hx => (configures_plan (h.mem_call hx)).replacement?
  cases h with
  | refused e =>
      rw [List.mem_singleton.1 hx]
      rfl
  | givenUp h =>
      rcases List.mem_cons.1 hx with rfl | hx
      · rfl
      · rcases List.mem_append.1 hx with hx | hx
        · exact hplan h hx
        · rw [List.mem_singleton.1 hx]
          rfl
  | live h =>
      rcases List.mem_cons.1 hx with rfl | hx
      · rfl
      · exact hplan h hx

variable [Interpreter σ]

theorem renews_acquire {env : Ambient} {s : Scene σ} (hp : s.session.phase = .fresh) :
    ∃ xs, Renews none s ((acquire : Op σ Unit).run env s).2 xs := by
  have hknown : ∀ ctx, ¬(s.session.handle? = some ctx ∨ s.session.isClosed = true) := by
    intro ctx
    unfold handle? isClosed lifecycle
    rw [hp]
    rintro (h | h) <;> cases h
  have h := (launch_acquire env s).overture
  generalize (acquire : Op σ Unit).run env s = p at h ⊢
  rcases h with ⟨e, -, hs, hl⟩ | ⟨xs, o, ho, hx, hok, herr⟩
  · exact ⟨[], .without (by rw [hl, List.append_nil]) (by rw [hs]) (by rw [hs])
      (List.forall_mem_nil _) fun ctx hk => absurd hk (hknown ctx)⟩
  · obtain ⟨phase, hsession⟩ : ∃ phase, p.2.session = { s.session with phase := phase } := by
      cases o with
      | ok ctx => exact ⟨_, (hok ctx rfl).2⟩
      | error e => exact ⟨_, (herr e rfl).2⟩
    exact ⟨xs, .without hx (by rw [hsession]) (by rw [hsession])
      (fun x hmem => replacement?_overture ho hmem) fun ctx hk => absurd hk (hknown ctx)⟩

theorem renews_start (env : Ambient) (s : Scene σ) :
    ∃ xs, Renews none s ((start : Op σ Unit).run env s).2 xs := by
  rcases run_start env s with ⟨hp, hrun⟩ | ⟨e, hrun⟩
  · rw [hrun]
    exact renews_acquire hp
  · rw [hrun]
    exact ⟨[], .refl s⟩

theorem renews_close (env : Ambient) (s : Scene σ) :
    ∃ xs, Renews none s ((close : Op σ Unit).run env s).2 xs := by
  rcases s.session.tenure_cases env.caller with ⟨ctx, hp⟩ | ⟨owner, ctx, hne, hp⟩ | hnone
  · obtain ⟨xs, hxs, hcalls⟩ := exchanges_close env hp
    obtain ⟨log, hrun⟩ := run_finish ctx env s
    rw [close_own hp, hrun] at hxs ⊢
    refine ⟨xs, .without hxs rfl rfl (fun x hx => ?_) fun _ _ => .inr rfl⟩
    have hmem : x.call ∈ ending ctx s.session.held := hcalls ▸ List.mem_map_of_mem hx
    rcases List.mem_append.1 hmem with h | h
    · obtain ⟨ref, -, h⟩ := List.mem_map.1 h
      rw [← h]
      rfl
    · rcases List.mem_cons.1 h with h | h
      · rw [h]
        rfl
      · rw [List.mem_singleton.1 h]
        rfl
  · rw [close_foreign hne hp]
    exact ⟨[], .refl s⟩
  · obtain ⟨session, hclose, -, rfl | rfl⟩ := close_idle hnone
    · rw [hclose]
      exact ⟨[], .refl s⟩
    · rw [hclose]
      exact ⟨[], .without (List.append_nil _).symm rfl rfl (List.forall_mem_nil _)
        fun _ _ => .inr rfl⟩

end Session

/-- Every request renews resolvers so. -/
theorem renews_perform [Interpreter σ] (r : Request) (env : Ambient) (s : Scene σ) :
    ∃ xs, Renews (s.session.given? env.caller r) s ((r.perform : Op σ Answer).run env s).2 xs := by
  rcases perform_cases r env s with ⟨e, he, hrun⟩ | ⟨ctx, xs, -, hp, h⟩ | ⟨rfl, hrun⟩ | ⟨rfl, hrun⟩
  · rw [hrun, Session.given?, he]
    exact ⟨[], .refl s⟩
  · exact ⟨xs, h.renews hp⟩
  · rw [Session.given?_of_none rfl, hrun]
    exact Session.renews_start env s
  · rw [Session.given?_of_none rfl, hrun]
    exact Session.renews_close env s

end PinnedSessions
