import PinnedSessions.Interpreter.Memory
import PinnedSessions.Proofs.Statement.Running

/-! # Running texts in a context

To run a text in a live context of the in-memory interpreter is to run it on the context's variables
and to list it (`answer_run`); nothing else of the interpreter is touched.

Texts that run one after the other come to the same as their block (`blocks_agree`), but for the
list of texts, which the block enters as one. -/

namespace PinnedSessions

namespace MemoryInterpreter

variable {m : MemoryInterpreter} {ctx : Handle} {k : GuestContext}

/-! ### One context of many -/

/-- The interpreter with something else in the place of a context. -/
def withContext (m : MemoryInterpreter) (ctx : Handle) (k : GuestContext) : MemoryInterpreter :=
  { m with ledger := { m.ledger with contexts := m.ledger.contexts.insert ctx k } }

@[simp] theorem context?_withContext (m : MemoryInterpreter) (ctx : Handle) (k : GuestContext) :
    (m.withContext ctx k).context? ctx = some k := Table.find?_insert_self ..

@[simp] theorem withContext_withContext (m : MemoryInterpreter) (ctx : Handle)
    (k k' : GuestContext) : (m.withContext ctx k).withContext ctx k' = m.withContext ctx k' := by
  unfold withContext
  dsimp only
  rw [Table.insert_insert]

theorem withContext_of_context? (h : m.context? ctx = some k) : m.withContext ctx k = m := by
  unfold withContext
  rw [Table.insert_of_find? h]

/-- The interpreter without the list of the texts that were run in a context. -/
def forgetTexts (m : MemoryInterpreter) (ctx : Handle) : MemoryInterpreter :=
  match m.context? ctx with
  | some k => m.withContext ctx { k with texts := [] }
  | none => m

theorem forgetTexts_withContext (m : MemoryInterpreter) (ctx : Handle) (k : GuestContext) :
    (m.withContext ctx k).forgetTexts ctx = m.withContext ctx { k with texts := [] } := by
  rw [forgetTexts, context?_withContext]
  exact withContext_withContext m ctx k _

/-! ### Running texts -/

/-- To run a text in a live context is to run it on the variables of the context, and to list it. -/
theorem answer_run (h : m.context? ctx = some k) (files : Files) (source : String) :
    answer files (.run ctx source) m =
      ((Script.run k.vars source).1, m.withContext ctx { k with
        texts := k.texts ++ [source]
        vars := (Script.run k.vars source).2 }) := by
  unfold context? at h
  rw [answer, onLedger, Ledger.run, Ledger.within, h]
  rfl

/-- In a context that is not live no text is run. -/
theorem answer_run_of_none (h : m.context? ctx = none) (files : Files) (source : String) :
    answer files (.run ctx source) m = (.error (Ledger.unknownContext ctx), m) := by
  unfold context? at h
  rw [answer, onLedger, Ledger.run, Ledger.within, h]

/-- Run texts in turn in a context, up to the first that fails. -/
def runEach (files : Files) (ctx : Handle) :
    List String → MemoryInterpreter → Except GuestFault Unit × MemoryInterpreter
  | [], m => (.ok (), m)
  | source :: rest, m =>
    match answer files (.run ctx source) m with
    | (.ok _, m) => runEach files ctx rest m
    | (.error e, m) => (.error e, m)

/-- Texts that run in turn in a context run in turn on its variables. -/
theorem runEach_of_ok {files : Files} {sources : List String} {m' : MemoryInterpreter}
    (hk : m.context? ctx = some k) (h : m.runEach files ctx sources = (.ok (), m')) :
    ∃ vars, Script.runEach k.vars sources = (.ok (), vars) ∧
      m' = m.withContext ctx { k with texts := k.texts ++ sources, vars := vars } := by
  induction sources generalizing m k with
  | nil =>
      cases h
      refine ⟨k.vars, rfl, ?_⟩
      rw [List.append_nil]
      exact (withContext_of_context? hk).symm
  | cons source sources ih =>
      rw [runEach, answer_run hk] at h
      cases hrun : Script.run k.vars source with
      | mk r vars =>
          rw [hrun] at h
          cases r with
          | error e => cases h
          | ok u =>
              obtain ⟨vars', hvars, hm⟩ := ih (context?_withContext ..) h
              refine ⟨vars', ?_, ?_⟩
              · rw [Script.runEach, hrun]
                exact hvars
              · rw [hm, withContext_withContext, List.append_assoc, List.singleton_append]

/-- A text that is refused for its source changes no variable of any context. -/
theorem vars_of_badSource {files : Files} {source text : String}
    (h : (answer files (.run ctx source) m).1 = .error (.badSource text)) (c : Handle) :
    ((answer files (.run ctx source) m).2.context? c).map (·.vars) =
      (m.context? c).map (·.vars) := by
  cases hk : m.context? ctx with
  | none => rw [answer_run_of_none hk]
  | some k =>
      rw [answer_run hk] at h ⊢
      by_cases hc : ctx = c
      · rw [← hc, context?_withContext, hk]
        exact congrArg some (Script.vars_of_badSource h)
      · exact congrArg _ (Table.find?_insert_of_ne _ _ hc)

/-- Texts that run in turn, the last of which may raise, come to the same as their block: the same
result, the same variables, and the same of everything else but the list of texts. And a text that
is refused for its source changes no variable. -/
theorem blocks_agree (files : Files) (m : MemoryInterpreter) (ctx : Handle) :
    (∀ {k before last mid r after}, m.context? ctx = some k →
      m.runEach files ctx before = (.ok (), mid) →
      answer files (.run ctx last) mid = (r, after) →
      (r = .ok () ∨ ∃ text, r = .error (.raised text)) →
      Script.openingsOf (before ++ [last]) < 2 ^ 31 →
      ∃ after', answer files (.run ctx ("\n".intercalate (before ++ [last]))) m = (r, after') ∧
        (after'.context? ctx).map (·.vars) = (after.context? ctx).map (·.vars) ∧
        after'.forgetTexts ctx = after.forgetTexts ctx) ∧
    ∀ {source text}, (answer files (.run ctx source) m).1 = .error (.badSource text) →
      ∀ c, ((answer files (.run ctx source) m).2.context? c).map (·.vars) =
        (m.context? c).map (·.vars) := by
  refine ⟨?_, vars_of_badSource⟩
  intro k before last mid r after hk hbefore hlast hr hrange
  obtain ⟨vars, hvars, rfl⟩ := runEach_of_ok hk hbefore
  rw [answer_run (context?_withContext ..), withContext_withContext] at hlast
  obtain ⟨rfl, rfl⟩ := Prod.mk.inj hlast
  have hne : ∀ text, (Script.run vars last).1 ≠ .error (.badSource text) := by
    intro text heq
    rw [heq] at hr
    obtain hok | ⟨text', hraised⟩ := hr
    · cases hok
    · cases hraised
  have hblock := Script.run_block hvars hne hrange
  unfold Script.block at hblock
  rw [answer_run hk, hblock]
  refine ⟨_, rfl, ?_, ?_⟩
  · rw [context?_withContext, context?_withContext]
    rfl
  · rw [forgetTexts_withContext, forgetTexts_withContext]

/-- An interpreter with just one context. -/
def lone : MemoryInterpreter := (answer .empty (.acquire ⟨none, false, true⟩) .new).2

/-- Two texts bind variables, of which the first one ends in a carriage return and the second one
leaves a bracket open; the third binds another one and raises. -/
theorem blocks_agree_raising :
    lone.context? ⟨1, by decide⟩ = some { isolated := true } ∧
      Script.openingsOf ["n = 1\r", "x = (\n  m = None", "s = 'a'\nraise it\nn = 2"] < 2 ^ 31 ∧
      ∃ mid after after',
        lone.runEach .empty ⟨1, by decide⟩ ["n = 1\r", "x = (\n  m = None"] = (.ok (), mid) ∧
        answer .empty (.run ⟨1, by decide⟩ "s = 'a'\nraise it\nn = 2") mid =
          (.error (.raised "Exception: it"), after) ∧
        answer .empty (.run ⟨1, by decide⟩
            "n = 1\r\nx = (\n  m = None\ns = 'a'\nraise it\nn = 2") lone =
          (.error (.raised "Exception: it"), after') ∧
        (after'.context? ⟨1, by decide⟩).map (·.vars) =
          (after.context? ⟨1, by decide⟩).map (·.vars) ∧
        (answer .empty (.run ⟨1, by decide⟩ "n = 1)") lone).1 =
          .error (.badSource "unmatched ')'") ∧
        ((answer .empty (.run ⟨1, by decide⟩ "n = 1)") lone).2.context? ⟨1, by decide⟩).map
          (·.vars) = some .empty := by
  obtain ⟨hblocks, hrefused⟩ := blocks_agree .empty lone ⟨1, by decide⟩
  obtain ⟨after', hrun, hvars, -⟩ := @hblocks { isolated := true } ["n = 1\r", "x = (\n  m = None"]
    "s = 'a'\nraise it\nn = 2" _ _ _ rfl rfl rfl (.inr ⟨"Exception: it", rfl⟩) (by decide)
  have hvars' := @hrefused "n = 1)" "unmatched ')'" rfl ⟨1, by decide⟩
  exact ⟨rfl, by decide, _, _, after', rfl, rfl, hrun, hvars, rfl, hvars'⟩

end MemoryInterpreter

end PinnedSessions
