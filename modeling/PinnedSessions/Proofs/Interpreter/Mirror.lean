import Mathlib.Algebra.Group.Nat.Defs
import PinnedSessions.Proofs.Interpreter.Discipline
import PinnedSessions.Proofs.Interpreter.Ledgered

/-! # A ledger mirrors what was asked

The ledger of an interpreter can be told from the exchanges with it alone.

* As long as fewer contexts were acquired than there are numbers, the number given last counts them,
  and none was given twice (`Numbered`).
* If, besides, the exchanges are disciplined, the live contexts are those that are opened
  (`Mirrors`), so every call finds the context that it names live (`Served`). -/

namespace PinnedSessions

/-- The number given last counts the acquisitions, and no context was acquired twice. -/
structure Numbered (xs : List Exchange) (l : Ledger) : Prop where
  count : l.lastRaw.toNat = (acquisitions xs).length
  le : ∀ p ∈ acquisitions xs, p.ctx.raw.toNat ≤ l.lastRaw.toNat
  fresh : Fresh xs

/-- The live contexts are the opened ones. -/
def Mirrors (xs : List Exchange) (l : Ledger) : Prop :=
  ∀ ctx, l.isLive ctx = true ↔ ∃ p, Opened xs p ∧ p.ctx = ctx

/-- What one exchange does to a ledger. -/
def Exchange.Steps (x : Exchange) (l l' : Ledger) : Prop :=
  l.Step l' (x.call.acquired? x.reply) x.call.released?

variable {xs : List Exchange} {x : Exchange} {l l' : Ledger}

/-! ### One exchange -/

theorem acquisitions_none (h : x.call.acquired? x.reply = none) : acquisitions [x] = [] := by
  simp [acquisitions, Exchange.begun?, h]

theorem releases_none (h : x.call.released? = none) : releases [x] = [] := by
  simp [releases, h]

theorem begun_of_acquired {ctx : Handle} (h : x.call.acquired? x.reply = some ctx) :
    x.begun? = some ⟨x.thread, ctx⟩ := by
  rw [Exchange.begun?, h]
  rfl

/-- As long as numbers are left, the next one is one more. -/
theorem Numbered.toNat_next (h : Numbered xs l) (hn : (acquisitions xs).length < 2 ^ 64 - 1) :
    (l.lastRaw + 1).toNat = l.lastRaw.toNat + 1 := by
  have hc := h.count
  rw [UInt64.toNat_add]
  exact Nat.mod_eq_of_lt (by simp; omega)

theorem Numbered.snoc (h : Numbered xs l) (hs : x.Steps l l')
    (hn : (acquisitions xs).length < 2 ^ 64 - 1) : Numbered (xs ++ [x]) l' := by
  have hc := h.count
  have hadd := h.toNat_next hn
  unfold Exchange.Steps at hs
  have hkeep : acquisitions [x] = [] → l'.lastRaw = l.lastRaw → Numbered (xs ++ [x]) l' := by
    intro hx hr
    have heq : acquisitions (xs ++ [x]) = acquisitions xs := by
      rw [acquisitions_append, hx, List.append_nil]
    refine ⟨by rw [heq, hr, hc], ?_, ?_⟩
    · rw [heq, hr]
      exact h.le
    · rw [Fresh, heq]
      exact h.fresh
  generalize ha : x.call.acquired? x.reply = a at hs
  generalize x.call.released? = r at hs
  cases hs with
  | same hsame => exact hkeep (acquisitions_none ha) hsame.lastRaw
  | exhausted hz hl =>
      rw [hz] at hadd
      simp at hadd
  | @acquired ctx hr hr' hl =>
      have hx := acquisitions_begun (begun_of_acquired ha)
      have hraw : ctx.raw.toNat = (acquisitions xs).length + 1 := by rw [← hr, hadd, hc]
      refine ⟨?_, fun p hp => ?_, ?_⟩
      · rw [acquisitions_append, hx, hr', hraw]
        simp
      · rw [acquisitions_append, hx, List.mem_append, List.mem_singleton] at hp
        rw [hr']
        rcases hp with hp | rfl
        · have hle := h.le p hp
          omega
        · exact Nat.le_refl _
      · rw [Fresh, acquisitions_append, hx, List.map_append]
        refine List.nodup_append.2 ⟨h.fresh, by simp, ?_⟩
        rintro k hk k' hk' rfl
        obtain ⟨p, hp, rfl⟩ := List.mem_map.1 hk
        have hle := h.le p hp
        have heq : p.ctx = ctx := by simpa using hk'
        rw [heq] at hle
        omega
  | released hr hl => exact hkeep (acquisitions_none ha) hr

theorem opened_snoc_keep {p : Tenure} (ha : x.call.acquired? x.reply = none)
    (hr : x.call.released? = none) : Opened (xs ++ [x]) p ↔ Opened xs p := by
  rw [opened_append_iff, acquisitions_none ha, releases_none hr]
  constructor
  · rintro ⟨hb, hk, -⟩
    exact ⟨by simpa using hb, hk⟩
  · intro h
    exact ⟨.inl h.begun, h.kept, List.not_mem_nil⟩

theorem opened_snoc_begun {p : Tenure} {ctx : Handle} (hd : Disciplined xs) (hf : Fresh (xs ++ [x]))
    (ha : x.call.acquired? x.reply = some ctx) :
    Opened (xs ++ [x]) p ↔ p = ⟨x.thread, ctx⟩ ∨ Opened xs p := by
  have hx := begun_of_acquired ha
  constructor
  · intro h
    rw [opened_append_iff, acquisitions_begun hx, List.mem_singleton] at h
    obtain ⟨hb | hp, hk, -⟩ := h
    · exact .inr ⟨hb, hk⟩
    · exact .inl hp
  · rintro (rfl | h)
    · exact hd.opened_begun hx hf
    · refine h.append ?_
      rw [releases_begun hx]
      exact List.not_mem_nil

theorem opened_snoc_release {p : Tenure} {ctx : Handle} (ha : x.call.acquired? x.reply = none)
    (hr : x.call.released? = some ctx) : Opened (xs ++ [x]) p ↔ Opened xs p ∧ ctx ≠ p.ctx := by
  have hrel : releases [x] = [ctx] := by simp [releases, hr]
  rw [opened_append_iff, acquisitions_none ha, hrel, List.mem_singleton]
  constructor
  · rintro ⟨hb, hk, hne⟩
    exact ⟨⟨by simpa using hb, hk⟩, Ne.symm hne⟩
  · rintro ⟨h, hne⟩
    exact ⟨.inl h.begun, h.kept, Ne.symm hne⟩

theorem Mirrors.snoc (h : Mirrors xs l) (hs : x.Steps l l') (hd : Disciplined xs)
    (hf : Fresh (xs ++ [x])) : Mirrors (xs ++ [x]) l' := by
  unfold Exchange.Steps at hs
  generalize ha : x.call.acquired? x.reply = a at hs
  generalize hr : x.call.released? = r at hs
  intro k
  cases hs with
  | same hsame =>
      rw [hsame.live, h k]
      simp only [opened_snoc_keep ha hr]
  | exhausted hz hl =>
      rw [hl, h k]
      simp only [opened_snoc_keep ha hr]
  | @acquired ctx hraw hraw' hl =>
      simp only [opened_snoc_begun hd hf ha]
      rw [hl, Bool.or_eq_true, decide_eq_true_eq, h k]
      constructor
      · rintro (rfl | ⟨p, hp, hk⟩)
        · exact ⟨_, .inl rfl, rfl⟩
        · exact ⟨p, .inr hp, hk⟩
      · rintro ⟨p, rfl | hp, hk⟩
        · exact .inl hk
        · exact .inr ⟨p, hp, hk⟩
  | @released ctx hraw hl =>
      simp only [opened_snoc_release ha hr]
      rw [hl, Bool.and_eq_true, Bool.not_eq_true', decide_eq_false_iff_not, h k]
      constructor
      · rintro ⟨hne, p, hp, rfl⟩
        exact ⟨p, ⟨hp, hne⟩, rfl⟩
      · rintro ⟨p, ⟨hp, hne⟩, rfl⟩
        exact ⟨hne, p, hp, rfl⟩

theorem Mirrors.live (h : Mirrors xs l) {rest : List Exchange} (hd : Disciplined (xs ++ x :: rest))
    {ctx : Handle} (hx : x.call.context? = some ctx) : l.isLive ctx = true :=
  (h ctx).2 ⟨⟨x.thread, ctx⟩, hd.owned xs x rest ctx rfl hx, rfl⟩

/-! ### Calls in turn -/

variable {σ : Type}

/-- From one state to another, an interpreter answers the calls of a thread. -/
inductive Dialogue [Interpreter σ] (files : Files) (t : Thread) : σ → List Exchange → σ → Prop
  | done (a : σ) : Dialogue files t a [] a
  | call {a b : σ} {c : Call} {xs : List Exchange}
      (h : Dialogue files t (Interpreter.answer files c a).2 xs b) :
      Dialogue files t a (⟨t, c, (Interpreter.answer files c a).1⟩ :: xs) b

theorem Line.dialogue_callAll [Interpreter σ] (files : Files) (t : Thread) (cs : List Call)
    (l : Line σ) : ∃ xs, (l.callAll files t cs).exchanges = l.exchanges ++ xs ∧
      Dialogue files t l.interpreter xs (l.callAll files t cs).interpreter := by
  induction cs generalizing l with
  | nil => exact ⟨[], by simp [callAll], .done _⟩
  | cons c cs ih =>
      obtain ⟨xs, hxs, hd⟩ := ih (l.call files t c).2
      refine ⟨_, ?_, .call hd⟩
      rw [callAll, hxs]
      simp [Line.call]

variable [Ledgered σ]

/-- Every call that names a context is made while that is live. -/
def Served (files : Files) : List Exchange → σ → Prop
  | [], _ => True
  | x :: xs, a => (∀ ctx, x.call.context? = some ctx → (Ledgered.ledger a).isLive ctx = true) ∧
      Served files xs (Interpreter.answer files x.call a).2

namespace Dialogue

variable {files : Files} {t : Thread} {a b : σ} {xs ys : List Exchange}

theorem quiet (h : Dialogue files t a xs b) (ha : Ledgered.Quiet a) : Ledgered.Quiet b := by
  induction h with
  | done => exact ha
  | @call a b c xs h ih => exact ih (Ledgered.quiet_answer ha files c)

theorem numbered (h : Dialogue files t a xs b) (ha : Ledgered.Quiet a)
    (hy : Numbered ys (Ledgered.ledger a)) (hn : (acquisitions (ys ++ xs)).length < 2 ^ 64 - 1) :
    Numbered (ys ++ xs) (Ledgered.ledger b) := by
  induction h generalizing ys with
  | done => rwa [List.append_nil]
  | @call a b c xs h ih =>
      have hs := Ledgered.step_answer ha files c
      rw [List.append_cons] at hn ⊢
      refine ih (Ledgered.quiet_answer ha files c) (hy.snoc hs ?_) hn
      simp only [acquisitions_append, List.length_append] at hn
      omega

/-- What is asked with discipline is mirrored, and finds every context live. -/
theorem mirrors (h : Dialogue files t a xs b) (ha : Ledgered.Quiet a)
    (hy : Mirrors ys (Ledgered.ledger a)) (hd : Disciplined (ys ++ xs)) (hf : Fresh (ys ++ xs)) :
    Mirrors (ys ++ xs) (Ledgered.ledger b) ∧ Served files xs a := by
  induction h generalizing ys with
  | done =>
      rw [List.append_nil]
      exact ⟨hy, trivial⟩
  | @call a b c xs h ih =>
      let x : Exchange := ⟨t, c, (Interpreter.answer files c a).1⟩
      have hs : x.Steps (Ledgered.ledger a) (Ledgered.ledger (Interpreter.answer files c a).2) :=
        Ledgered.step_answer ha files c
      have hlive : ∀ ctx, c.context? = some ctx → (Ledgered.ledger a).isLive ctx = true :=
        fun ctx hctx => hy.live hd hctx
      rw [List.append_cons] at hd hf ⊢
      have hsnoc : Mirrors (ys ++ [x]) (Ledgered.ledger (Interpreter.answer files c a).2) :=
        hy.snoc hs hd.left.left hf.left
      obtain ⟨hm, hserved⟩ := ih (Ledgered.quiet_answer ha files c) hsnoc hd hf
      exact ⟨hm, hlive, hserved⟩

end Dialogue

end PinnedSessions
