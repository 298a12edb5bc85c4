import PinnedSessions.Proofs.Session.Conduct

/-! # What one operation asks of its interpreter

An `Episode` is the list of exchanges that an operation of a thread has caused, with the tenure of
its session before and after. Every `Conduct` is one (`Conduct.episode`).

If the tenure before is opened, an episode keeps the discipline of contexts (`Episode.disciplined`).
Its `Balance` says which contexts it acquires and releases; from this it follows that after it the
tenure that the session has now is opened, and otherwise what was opened before
(`Balance.opened_iff`). -/

namespace PinnedSessions

/-- The exchanges of one operation of a thread, between the tenures before and after it. -/
inductive Episode (t : Thread) : Option Tenure → Option Tenure → List Exchange → Prop
  | silent (o : Option Tenure) : Episode t o o []
  | served {ctx : Handle} {xs : List Exchange} (hs : ∀ x ∈ xs, x.Serves ⟨t, ctx⟩) :
      Episode t (some ⟨t, ctx⟩) (some ⟨t, ctx⟩) xs
  | refused {x : Exchange} (hx : x.call.context? = none) (hb : x.begun? = none) :
      Episode t none none [x]
  | begun {ctx : Handle} {x : Exchange} {xs : List Exchange} (hx : x.begun? = some ⟨t, ctx⟩)
      (hs : ∀ x ∈ xs, x.Serves ⟨t, ctx⟩) : Episode t none (some ⟨t, ctx⟩) ([x] ++ xs)
  | givenUp {ctx : Handle} {x z : Exchange} {xs : List Exchange} (hx : x.begun? = some ⟨t, ctx⟩)
      (hs : ∀ x ∈ xs, x.Serves ⟨t, ctx⟩) (hz : z.Ends ⟨t, ctx⟩) :
      Episode t none none ([x] ++ (xs ++ [z]))
  | ended {ctx : Handle} {z : Exchange} {xs : List Exchange} (hs : ∀ x ∈ xs, x.Serves ⟨t, ctx⟩)
      (hz : z.Ends ⟨t, ctx⟩) : Episode t (some ⟨t, ctx⟩) none (xs ++ [z])

/-! ### From the calls to the exchanges -/

section Calls

variable {σ : Type} [Interpreter σ] {ctx : Handle} {cs : List Call}

theorem serves_of_uses (files : Files) (t : Thread) (hcs : ∀ c ∈ cs, c.Uses ctx) (l : Line σ) :
    ∃ xs, (l.callAll files t cs).exchanges = l.exchanges ++ xs ∧ ∀ x ∈ xs, x.Serves ⟨t, ctx⟩ := by
  obtain ⟨xs, hxs, hmap, ht⟩ := l.exchanges_callAll files t cs
  refine ⟨xs, hxs, fun x hx => ⟨ht x hx, hcs _ ?_⟩⟩
  rw [← hmap]
  exact List.mem_map_of_mem hx

theorem ends_of_uses (files : Files) (t : Thread) (hcs : ∀ c ∈ cs, c.Uses ctx) (l : Line σ) :
    ∃ xs z, (l.callAll files t (cs ++ [.release ctx])).exchanges = l.exchanges ++ (xs ++ [z]) ∧
      (∀ x ∈ xs, x.Serves ⟨t, ctx⟩) ∧ z.Ends ⟨t, ctx⟩ := by
  obtain ⟨xs, hxs, hs⟩ := serves_of_uses files t hcs l
  refine ⟨xs, ⟨t, .release ctx, ((l.callAll files t cs).call files t (.release ctx)).1⟩, ?_, hs,
    rfl, rfl⟩
  rw [Line.callAll_append, ← List.append_assoc, ← hxs]
  rfl

/-- An answered `acquire` is listed as the beginning of a tenure of the caller. -/
theorem begun_of_acquire {files : Files} {t : Thread} {request : ContextRequest} {l : Line σ}
    (hl : (l.call files t (.acquire request)).1 = .ok ctx) :
    ∃ x : Exchange, (l.call files t (.acquire request)).2.exchanges = l.exchanges ++ [x] ∧
      x.begun? = some ⟨t, ctx⟩ := by
  refine ⟨⟨t, .acquire request, (l.call files t (.acquire request)).1⟩, rfl, ?_⟩
  rw [Exchange.begun?, hl]
  rfl

/-- What an operation asks of its interpreter, if its line has no exchanges before. -/
theorem Conduct.episode {files : Files} {t : Thread} {p q : Standing σ} (h : Conduct files t p q)
    (hp : p.line.exchanges = []) : Episode t p.tenure q.tenure q.line.exchanges := by
  cases h with
  | idle =>
      rw [hp]
      exact .silent _
  | @used ctx cs g l hcs =>
      obtain ⟨xs, hxs, hs⟩ := serves_of_uses files t hcs l
      dsimp only at hp ⊢
      rw [hxs, hp]
      exact .served hs
  | @refused request e g l hl =>
      have hx : (l.call files t (.acquire request)).2.exchanges =
          l.exchanges ++ [⟨t, .acquire request, (l.call files t (.acquire request)).1⟩] := rfl
      dsimp only at hp ⊢
      rw [hx, hp, hl]
      exact .refused rfl rfl
  | @begun request ctx cs g g' l hg hl hcs =>
      obtain ⟨x, hx, hb⟩ := begun_of_acquire hl
      obtain ⟨xs, hxs, hs⟩ := serves_of_uses files t hcs (l.call files t (.acquire request)).2
      dsimp only at hp ⊢
      rw [hxs, hx, hp]
      exact .begun hb hs
  | @givenUp request ctx cs g l hl hcs =>
      obtain ⟨x, hx, hb⟩ := begun_of_acquire hl
      obtain ⟨xs, z, hxs, hs, hz⟩ := ends_of_uses files t hcs (l.call files t (.acquire request)).2
      dsimp only at hp ⊢
      rw [hxs, hx, hp]
      exact .givenUp hb hs hz
  | @ended ctx cs g l hcs =>
      obtain ⟨xs, z, hxs, hs, hz⟩ := ends_of_uses files t hcs l
      dsimp only at hp ⊢
      rw [hxs, hp]
      exact .ended hs hz

end Calls

/-! ### Discipline -/

theorem Episode.disciplined {t : Thread} {o o' : Option Tenure} {xs ys : List Exchange}
    (h : Episode t o o' xs) (hd : Disciplined ys) (ho : ∀ p, o = some p → Opened ys p)
    (hf : Fresh (ys ++ xs)) : Disciplined (ys ++ xs) := by
  cases h with
  | silent => simpa using hd
  | served hs => exact hd.serves (ho _ rfl) hs
  | refused hx hb => exact hd.nameless hx
  | begun hx hs =>
      rw [← List.append_assoc] at hf ⊢
      exact (hd.nameless (Exchange.context?_of_begun? hx)).serves (hd.opened_begun hx hf.left) hs
  | givenUp hx hs hz =>
      rw [← List.append_assoc] at hf ⊢
      rw [← List.append_assoc]
      have hopen := hd.opened_begun hx hf.left
      have hused := (hd.nameless (Exchange.context?_of_begun? hx)).serves hopen hs
      refine hused.ends (hopen.append ?_) hz
      rw [releases_of_serves hs]
      exact List.not_mem_nil
  | ended hs hz =>
      rw [← List.append_assoc]
      refine (hd.serves (ho _ rfl) hs).ends ((ho _ rfl).append ?_) hz
      rw [releases_of_serves hs]
      exact List.not_mem_nil

/-! ### Balance -/

/-- The contexts that one operation of a thread acquires and releases, between the tenures of its
session before and after. -/
inductive Balance (t : Thread) : Option Tenure → Option Tenure → List Tenure → List Handle → Prop
  | level (o : Option Tenure) : Balance t o o [] []
  | begun (ctx : Handle) : Balance t none (some ⟨t, ctx⟩) [⟨t, ctx⟩] []
  | givenUp (ctx : Handle) : Balance t none none [⟨t, ctx⟩] [ctx]
  | ended (ctx : Handle) : Balance t (some ⟨t, ctx⟩) none [] [ctx]

theorem Episode.balance {t : Thread} {o o' : Option Tenure} {xs : List Exchange}
    (h : Episode t o o' xs) : Balance t o o' (acquisitions xs) (releases xs) := by
  cases h with
  | silent o => exact .level o
  | served hs =>
      rw [acquisitions_of_serves hs, releases_of_serves hs]
      exact .level _
  | refused hx hb =>
      rw [releases_nameless hx, acquisitions, List.filterMap_cons_none hb]
      exact .level _
  | begun hx hs =>
      rw [acquisitions_append, releases_append, acquisitions_begun hx, releases_begun hx,
        acquisitions_of_serves hs, releases_of_serves hs]
      exact .begun _
  | givenUp hx hs hz =>
      rw [acquisitions_append, releases_append, acquisitions_append, releases_append,
        acquisitions_begun hx, releases_begun hx, acquisitions_of_serves hs, releases_of_serves hs,
        acquisitions_ends hz, releases_ends hz]
      exact .givenUp _
  | ended hs hz =>
      rw [acquisitions_append, releases_append, acquisitions_of_serves hs, releases_of_serves hs,
        acquisitions_ends hz, releases_ends hz]
      exact .ended _

/-- After an operation the tenure of its session is opened, and whatever else was before. -/
theorem Balance.opened_iff {t : Thread} {o o' : Option Tenure} {as : List Tenure} {rs : List Handle}
    {ys : List Exchange} (h : Balance t o o' as rs) (hd : Disciplined ys)
    (ho : ∀ p, o = some p → Opened ys p) (hf : ((acquisitions ys ++ as).map (·.ctx)).Nodup)
    (p : Tenure) : ((p ∈ acquisitions ys ∨ p ∈ as) ∧ p.ctx ∉ releases ys ∧ p.ctx ∉ rs) ↔
      o' = some p ∨ (Opened ys p ∧ o ≠ some p) := by
  rw [List.map_append] at hf
  have hys : Fresh ys := hf.of_append_left
  have hold : ∀ q ∈ acquisitions ys, ∀ r ∈ as, q.ctx ≠ r.ctx := fun q hq r hr =>
    (List.nodup_append.1 hf).2.2 _ (List.mem_map_of_mem hq) _ (List.mem_map_of_mem hr)
  cases h with
  | level =>
      constructor
      · rintro ⟨hp, hk, -⟩
        have hopen : Opened ys p := ⟨by simpa using hp, hk⟩
        by_cases heq : o = some p
        · exact .inl heq
        · exact .inr ⟨hopen, heq⟩
      · intro hp
        have hopen : Opened ys p := hp.elim (ho p) And.left
        exact ⟨.inl hopen.begun, hopen.kept, List.not_mem_nil⟩
  | begun ctx =>
      constructor
      · rintro ⟨hp | hp, hk, -⟩
        · exact .inr ⟨⟨hp, hk⟩, nofun⟩
        · exact .inl (congrArg some (List.mem_singleton.1 hp).symm)
      · rintro (hp | ⟨hp, -⟩)
        · cases hp
          refine ⟨.inr (.head _), fun hr => ?_, List.not_mem_nil⟩
          obtain ⟨q, hq, hctx⟩ := hd.begun_of_released hr
          exact hold q hq _ (.head _) hctx
        · exact ⟨.inl hp.begun, hp.kept, List.not_mem_nil⟩
  | givenUp ctx =>
      constructor
      · rintro ⟨hp | hp, hk, hctx⟩
        · exact .inr ⟨⟨hp, hk⟩, nofun⟩
        · rw [List.mem_singleton.1 hp] at hctx
          exact absurd (.head _) hctx
      · rintro (hp | ⟨hp, -⟩)
        · cases hp
        · refine ⟨.inl hp.begun, hp.kept, fun hctx => ?_⟩
          exact hold p hp.begun _ (.head _) (List.mem_singleton.1 hctx)
  | ended ctx =>
      constructor
      · rintro ⟨hp, hk, hctx⟩
        refine .inr ⟨⟨by simpa using hp, hk⟩, fun heq => ?_⟩
        cases heq
        exact hctx (.head _)
      · rintro (hp | ⟨hp, hne⟩)
        · cases hp
        · refine ⟨.inl hp.begun, hp.kept, fun hctx => hne ?_⟩
          have hopen := ho _ rfl
          exact congrArg some (hys.eq hopen.begun hp.begun (List.mem_singleton.1 hctx).symm)

theorem Episode.opened_iff {t : Thread} {o o' : Option Tenure} {xs ys : List Exchange}
    (h : Episode t o o' xs) (hd : Disciplined ys) (ho : ∀ p, o = some p → Opened ys p)
    (hf : Fresh (ys ++ xs)) (p : Tenure) :
    Opened (ys ++ xs) p ↔ o' = some p ∨ (Opened ys p ∧ o ≠ some p) := by
  unfold Fresh at hf
  rw [acquisitions_append] at hf
  rw [opened_append_iff, h.balance.opened_iff hd ho hf p]

end PinnedSessions
