import Mathlib.Data.List.Nodup
import PinnedSessions.Proofs.Session.Steady

/-! # The discipline of contexts

What an interpreter must be able to rely on is a property of the exchanges with it: every call that
names a context comes from the thread that acquired it, after that and before its release
(`Disciplined`). In between the context is `Opened`, and a call keeps the discipline exactly if the
context that it names is opened by the caller (`Disciplined.snoc`). -/

namespace PinnedSessions

/-- Who owns a live context, and which. -/
structure Tenure where
  owner : Thread
  ctx : Handle
deriving DecidableEq

/-- The tenure that an exchange has begun, if it did. -/
def Exchange.begun? (x : Exchange) : Option Tenure :=
  (x.call.acquired? x.reply).map (Tenure.mk x.thread)

/-- All tenures that were begun. -/
def acquisitions (xs : List Exchange) : List Tenure := xs.filterMap Exchange.begun?

/-- All contexts that were released, as often as they were. -/
def releases (xs : List Exchange) : List Handle := xs.filterMap fun x => x.call.released?

/-- A tenure that was begun and whose context was not released. -/
structure Opened (xs : List Exchange) (p : Tenure) : Prop where
  begun : p ∈ acquisitions xs
  kept : p.ctx ∉ releases xs

/-- Every call that names a context is made by the thread that acquired it, after it was acquired
and before it is released, and no context is released twice. -/
structure Disciplined (xs : List Exchange) : Prop where
  owned : ∀ pre x post ctx, xs = pre ++ x :: post → x.call.context? = some ctx →
    Opened pre ⟨x.thread, ctx⟩
  once : (releases xs).Nodup

/-- No context is acquired twice. -/
def Fresh (xs : List Exchange) : Prop := ((acquisitions xs).map (·.ctx)).Nodup

/-! ### Exchanges one after the other -/

variable {xs ys : List Exchange} {x : Exchange} {p : Tenure}

@[simp] theorem acquisitions_append :
    acquisitions (xs ++ ys) = acquisitions xs ++ acquisitions ys :=
  List.filterMap_append

@[simp] theorem releases_append : releases (xs ++ ys) = releases xs ++ releases ys :=
  List.filterMap_append

theorem Fresh.left (h : Fresh (xs ++ ys)) : Fresh xs := by
  unfold Fresh at h ⊢
  rw [acquisitions_append, List.map_append] at h
  exact h.of_append_left

/-- A released context was named. -/
theorem Call.context?_of_released? {c : Call} {ctx : Handle} (h : c.released? = some ctx) :
    c.context? = some ctx := by
  cases c with
  | release ctx' => exact h
  | _ => cases h

theorem opened_append_iff : Opened (xs ++ ys) p ↔
    (p ∈ acquisitions xs ∨ p ∈ acquisitions ys) ∧ p.ctx ∉ releases xs ∧ p.ctx ∉ releases ys := by
  constructor
  · rintro ⟨hb, hk⟩
    rw [acquisitions_append, List.mem_append] at hb
    rw [releases_append, List.mem_append, not_or] at hk
    exact ⟨hb, hk⟩
  · rintro ⟨hb, hk⟩
    refine ⟨?_, ?_⟩
    · rwa [acquisitions_append, List.mem_append]
    · rwa [releases_append, List.mem_append, not_or]

theorem Opened.append (h : Opened xs p) (hk : p.ctx ∉ releases ys) : Opened (xs ++ ys) p :=
  opened_append_iff.2 ⟨.inl h.begun, h.kept, hk⟩

namespace Disciplined

theorem nil : Disciplined [] := ⟨by simp, by simp [releases]⟩

/-- One call more, if the context that it names is opened by the caller. -/
theorem snoc (h : Disciplined xs)
    (hx : ∀ ctx, x.call.context? = some ctx → Opened xs ⟨x.thread, ctx⟩) :
    Disciplined (xs ++ [x]) where
  owned pre y post ctx heq hy := by
    rcases post.eq_nil_or_concat with rfl | ⟨post, z, rfl⟩
    · obtain ⟨rfl, hxy⟩ := List.append_inj' heq rfl
      cases hxy
      exact hx ctx hy
    · have heq' : xs ++ [x] = (pre ++ y :: post) ++ [z] := by simpa using heq
      obtain ⟨rfl, -⟩ := List.append_inj' heq' rfl
      exact h.owned pre y post ctx rfl hy
  once := by
    rw [releases_append]
    cases hr : x.call.released? with
    | none => simpa [releases, hr] using h.once
    | some ctx =>
        have hk := (hx ctx (Call.context?_of_released? hr)).kept
        refine List.nodup_append.2 ⟨h.once, by simp [releases, hr], ?_⟩
        rintro a ha b hb rfl
        simp only [releases, hr, List.filterMap_cons, List.filterMap_nil, List.mem_singleton] at hb
        exact hk (hb ▸ ha)

theorem left (h : Disciplined (xs ++ ys)) : Disciplined xs where
  owned pre x post ctx heq hx := h.owned pre x (post ++ ys) ctx (by rw [heq]; simp) hx
  once := by
    have hn := h.once
    rw [releases_append] at hn
    exact hn.of_append_left

/-- Whatever is released was acquired. -/
theorem begun_of_released (h : Disciplined xs) {ctx : Handle} (hr : ctx ∈ releases xs) :
    ∃ p ∈ acquisitions xs, p.ctx = ctx := by
  obtain ⟨x, hx, hctx⟩ := List.mem_filterMap.1 hr
  obtain ⟨pre, post, rfl⟩ := List.append_of_mem hx
  refine ⟨⟨x.thread, ctx⟩, ?_, rfl⟩
  rw [acquisitions_append]
  exact List.mem_append_left _ (h.owned pre x post ctx rfl (Call.context?_of_released? hctx)).begun

end Disciplined

/-- Of two openings of one context there is only one. -/
theorem Fresh.eq (h : Fresh xs) {q : Tenure} (hp : p ∈ acquisitions xs) (hq : q ∈ acquisitions xs)
    (he : p.ctx = q.ctx) : p = q :=
  List.inj_on_of_nodup_map h hp hq he

/-! ### Single exchanges -/

/-- The release that ends a tenure. -/
structure Exchange.Ends (x : Exchange) (p : Tenure) : Prop where
  thread : x.thread = p.owner
  releases : x.call.released? = some p.ctx

theorem Exchange.context?_of_begun? (h : x.begun? = some p) :
    x.call.context? = none := by
  obtain ⟨thread, call, reply⟩ := x
  cases call with
  | acquire request => rfl
  | _ => cases h

theorem acquisitions_begun (h : x.begun? = some p) :
    acquisitions [x] = [p] := by
  simp [acquisitions, h]

theorem releases_nameless (h : x.call.context? = none) : releases [x] = [] := by
  cases hr : x.call.released? with
  | none => simp [releases, hr]
  | some ctx => cases h.symm.trans (Call.context?_of_released? hr)

theorem releases_begun (h : x.begun? = some p) : releases [x] = [] :=
  releases_nameless (Exchange.context?_of_begun? h)

theorem acquisitions_ends {z : Exchange} (h : z.Ends p) : acquisitions [z] = [] := by
  obtain ⟨thread, call, reply⟩ := z
  cases call with
  | release ctx => rfl
  | _ => cases h.releases

theorem releases_ends {z : Exchange} (h : z.Ends p) : releases [z] = [p.ctx] := by
  simp [releases, h.releases]

namespace Disciplined

/-- A call that names no context. -/
theorem nameless (h : Disciplined xs) (hx : x.call.context? = none) :
    Disciplined (xs ++ [x]) :=
  h.snoc fun ctx hctx => by rw [hx] at hctx; cases hctx

/-- The release of an opened context by its owner. -/
theorem ends (h : Disciplined xs) (hp : Opened xs p) {z : Exchange} (hz : z.Ends p) :
    Disciplined (xs ++ [z]) :=
  h.snoc fun ctx hctx => by
    cases hctx.symm.trans (Call.context?_of_released? hz.releases)
    rw [hz.thread]
    exact hp

/-- The acquisition of a context that was not acquired before opens it. -/
theorem opened_begun (h : Disciplined xs) (hx : x.begun? = some p)
    (hf : Fresh (xs ++ [x])) : Opened (xs ++ [x]) p := by
  refine ⟨by simp [acquisitions_begun hx], ?_⟩
  rw [releases_append, releases_begun hx, List.append_nil]
  intro hr
  obtain ⟨q, hq, hqp⟩ := h.begun_of_released hr
  rw [Fresh, acquisitions_append, acquisitions_begun hx, List.map_append] at hf
  exact (List.nodup_append.1 hf).2.2 p.ctx (List.mem_map.2 ⟨q, hq, hqp⟩) p.ctx (by simp) rfl

end Disciplined

/-! ### Calls that use a context -/

/-- A call of a thread that uses a context. -/
structure Exchange.Serves (x : Exchange) (p : Tenure) : Prop where
  thread : x.thread = p.owner
  uses : x.call.Uses p.ctx

theorem acquisitions_of_serves (h : ∀ x ∈ xs, x.Serves p) : acquisitions xs = [] :=
  List.filterMap_eq_nil_iff.2 fun x hx => by rw [Exchange.begun?, (h x hx).uses.acquired?]; rfl

theorem releases_of_serves (h : ∀ x ∈ xs, x.Serves p) : releases xs = [] :=
  List.filterMap_eq_nil_iff.2 fun x hx => (h x hx).uses.keeps

/-- Calls of an owner that use its context keep the discipline. -/
theorem Disciplined.serves (h : Disciplined xs) (hp : Opened xs p) (hs : ∀ y ∈ ys, y.Serves p) :
    Disciplined (xs ++ ys) := by
  induction ys generalizing xs with
  | nil => simpa using h
  | cons y ys ih =>
      have hy := hs y (.head _)
      have hone : ∀ z ∈ [y], z.Serves p := by simpa using hy
      rw [List.append_cons]
      refine ih (h.snoc fun ctx hctx => ?_) (hp.append ?_) fun z hz => hs z (.tail _ hz)
      · cases hctx.symm.trans hy.uses.names
        rw [hy.thread]
        exact hp
      · rw [releases_of_serves hone]
        exact List.not_mem_nil

end PinnedSessions
