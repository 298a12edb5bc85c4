import PinnedSessions.Proofs.Interpreter.Mirror

/-! # What the variables of contexts hold

A context of the in-memory interpreter keeps a value for each of its variables (`Ledger.value?`).

* A script only touches the variables that it assigns (`Script.find?_run`), so a call
  can only change a variable if it binds it or runs such a script in its context (`Call.MayBind`).
* A call that may not bind a variable, and neither acquires nor releases its context, leaves its
  value alone (`value?_answer`); and no call whatever gives a value to a variable that it may not
  bind (`unbound_answer`).

All this holds as long as callables leave the variables alone (`Callable.Discreet`). -/

namespace PinnedSessions

/-! ### Scripts -/

namespace Script

/-- Whether a script assigns a variable: it gives it a value when nothing has one. -/
def Assigns (source name : String) : Prop := (run .empty source).2.contains name = true

instance (source name : String) : Decidable (Assigns source name) :=
  inferInstanceAs (Decidable (_ = true))

/-- A variable that has no value after some lines had none before, and no matter what it holds, they
leave it alone. -/
theorem find?_runLines {name : String} {lines : List (List Char)} {bare : Variables}
    (h : (runLines bare lines).2.find? name = none) : bare.find? name = none ∧
      ∀ vars, (runLines vars lines).2.find? name = vars.find? name := by
  induction lines generalizing bare with
  | nil => exact ⟨h, fun _ => rfl⟩
  | cons line lines ih =>
      simp only [runLines] at h ⊢
      cases hline : Line.ofText (Text.trim line) with
      | raise message =>
          rw [hline] at h
          exact ⟨h, fun _ => rfl⟩
      | other =>
          rw [hline] at h
          exact ih h
      | assign name' value =>
          rw [hline] at h
          obtain ⟨hbare, hrest⟩ := ih h
          have hne : String.ofList name' ≠ name := by
            rintro rfl
            rw [Table.find?_insert_self] at hbare
            cases hbare
          rw [Table.find?_insert_of_ne _ _ hne] at hbare
          exact ⟨hbare, fun vars => (hrest _).trans (Table.find?_insert_of_ne _ _ hne)⟩

/-- A script leaves the variables alone that it does not assign. -/
theorem find?_run {name source : String} (h : ¬ Assigns source name) (vars : Variables) :
    (run vars source).2.find? name = vars.find? name := by
  have hnone : (run .empty source).2.find? name = none := Table.find?_of_contains h
  unfold run at hnone ⊢
  split
  · rfl
  · next status hs =>
    rw [hs] at hnone
    dsimp only at hnone
    split
    · rfl
    · next hrun =>
      rw [if_neg hrun] at hnone
      exact (find?_runLines hnone).2 vars

end Script

/-! ### Ledgers -/

namespace Ledger

/-- The value of a variable of a context, if the context is live and the variable is bound. -/
def value? (l : Ledger) (ctx : Handle) (name : String) : Option Value :=
  (l.contexts.find? ctx).bind fun k => k.vars.find? name

/-- All variables of all contexts hold what they held. -/
def ValuesKept (l l' : Ledger) : Prop := ∀ ctx name, l'.value? ctx name = l.value? ctx name

section Work

variable {α : Type} {ctx k : Handle} {name : String}

/-- Work on a context leaves a variable alone that it leaves alone there. -/
theorem value?_within {f : GuestContext → Except GuestFault α × GuestContext}
    (hf : ctx = k → ∀ context, (f context).2.vars.find? name = context.vars.find? name)
    (l : Ledger) : (l.within ctx f).2.value? k name = l.value? k name := by
  unfold within
  split
  · rfl
  · next context hc =>
    unfold value?
    dsimp only
    rw [Table.find?_insert]
    split
    · next hk =>
      rw [← hk, hc, Option.bind_some, Option.bind_some]
      exact hf hk context
    · rfl

theorem value?_look (f : GuestContext → Except GuestFault α) (l : Ledger) :
    (l.look ctx f).2.value? k name = l.value? k name := by
  unfold look
  split <;> rfl

theorem value?_change {f : GuestContext → GuestContext}
    (hf : ∀ context, (f context).vars = context.vars) (l : Ledger) :
    (l.change ctx f).2.value? k name = l.value? k name :=
  value?_within (fun _ context => by rw [hf]) l

theorem value?_run {source : String} (h : ctx = k → ¬ Script.Assigns source name) (l : Ledger) :
    (l.run ctx source).2.value? k name = l.value? k name :=
  value?_within (fun hk context => Script.find?_run (h hk) context.vars) l

theorem value?_bind {name' : String} (h : ctx = k → name' ≠ name) (v : Value) (l : Ledger) :
    (l.change ctx (bindIn name' v)).2.value? k name = l.value? k name :=
  value?_within (fun hk _ => Table.find?_insert_of_ne _ _ (h hk)) l

theorem value?_useResolver (resolver : Resolver) (l : Ledger) :
    (l.useResolver ctx resolver).value? k name = l.value? k name := by
  unfold value? useResolver
  dsimp only
  rw [Table.find?_modify]
  split
  · cases l.contexts.find? k <;> rfl
  · rfl

theorem value?_teardown (l : Ledger) : (l.teardown ctx).2.value? k name = l.value? k name := by
  unfold teardown
  dsimp only
  split
  · rfl
  · refine value?_change (fun context => ?_) (l.note .tornDown)
    rfl

theorem value?_releaseObject (ref : ObjectRef) (l : Ledger) :
    (l.releaseObject ctx ref).value? k name = l.value? k name := by
  unfold releaseObject
  dsimp only
  split <;> rfl

theorem value?_release (l : Ledger) :
    (l.release ctx).value? k name = if ctx = k then none else l.value? k name := by
  unfold value? release
  dsimp only
  rw [Table.find?_erase]
  split <;> rfl

/-- Nothing is bound in a context that is acquired. -/
theorem value?_acquire (request : ContextRequest) (l : Ledger) :
    (l.acquire request).2.value? k name =
      if (l.acquire request).1.toOption = some k then none else l.value? k name := by
  rcases l.acquire_cases request with ⟨-, ha⟩ | ⟨-, ha⟩ | ⟨ctx, -, -, ha⟩
  · rw [ha]
    rfl
  · rw [ha]
    rfl
  · rw [ha]
    unfold value?
    dsimp only
    rw [Table.find?_insert]
    have hiff : (Except.ok ctx : Except GuestFault Handle).toOption = some k ↔ ctx = k :=
      Option.some_inj
    by_cases hk : ctx = k
    · rw [if_pos hk, if_pos (hiff.2 hk)]
      rfl
    · rw [if_neg hk, if_neg fun h => hk (hiff.1 h)]

end Work

end Ledger

/-! ### Calls -/

/-- Whether a call gives a value to a variable of a context, if that is live: it binds it, or runs a
script there that assigns it. -/
def Call.MayBind (files : Files) (ctx : Handle) (name : String) : Call → Prop
  | .run k source => k = ctx ∧ Script.Assigns source name
  | .runFile k path => k = ctx ∧ ∃ source ∈ (files.readText path).toOption,
      Script.Assigns source name
  | .bind k name' _ => k = ctx ∧ name' = name
  | _ => False

instance (files : Files) (ctx : Handle) (name : String) : DecidablePred (Call.MayBind files ctx name)
  | .run .. | .runFile .. | .bind .. => inferInstanceAs (Decidable (_ ∧ _))
  | .acquire .. | .release .. | .apply .. | .probe .. | .read .. | .readBytes .. | .useResolver ..
  | .teardown .. | .releaseObject .. | .extendSearchPath .. | .shareModules .. | .hookImports ..
  | .redirectOutput .. => inferInstanceAs (Decidable False)

/-- A callable that leaves the variables of all contexts alone. -/
def Callable.Discreet (f : Callable) : Prop :=
  ∀ args kwargs l, Ledger.ValuesKept l (f args kwargs l).2

/-- What is acquired is what the reply tells. -/
theorem Call.acquired?_toOption (request : ContextRequest) (r : Except GuestFault Handle) :
    Call.acquired? (.acquire request) r = r.toOption := by
  cases r <;> rfl

namespace MemoryInterpreter

/-- An interpreter whose callables leave the variables of all contexts alone. -/
def Discreet (m : MemoryInterpreter) : Prop := ∀ name f, m.callables.find? name = some f → f.Discreet

theorem discreet_answer {m : MemoryInterpreter} (h : m.Discreet) (files : Files) (c : Call) :
    (answer files c m).2.Discreet := by
  unfold Discreet
  rw [callables_answer]
  exact h

theorem valuesKept_apply {m : MemoryInterpreter} (h : m.Discreet) (ctx : Handle) (name : String)
    (args : List Value) (kwargs : Option Kwargs) :
    Ledger.ValuesKept m.ledger (m.apply ctx name args kwargs).2.ledger := by
  unfold apply
  split
  · split
    · next f hf => exact h name f hf args kwargs m.ledger
    · exact fun _ _ => rfl
  · exact fun _ _ => rfl

variable {m : MemoryInterpreter} {files : Files} {c : Call} {ctx : Handle} {name : String}

/-- What a call does to a variable that it may not bind, unless it acquires or releases the context:
nothing. -/
theorem value?_answer (h : m.Discreet) (hc : ¬ c.MayBind files ctx name)
    (hacq : c.acquired? (answer files c m).1 ≠ some ctx) (hrel : c.released? ≠ some ctx) :
    (answer files c m).2.ledger.value? ctx name = m.ledger.value? ctx name := by
  cases c with
  | acquire request =>
      have hne : (m.ledger.acquire request).1.toOption ≠ some ctx := by
        rwa [← Call.acquired?_toOption request]
      exact (Ledger.value?_acquire request m.ledger).trans (if_neg hne)
  | release k =>
      have hne : k ≠ ctx := fun hk => hrel (congrArg some hk)
      exact (Ledger.value?_release m.ledger).trans (if_neg hne)
  | run k source => exact Ledger.value?_run (fun hk has => hc ⟨hk, has⟩) m.ledger
  | runFile k path =>
      change (m.ledger.runFile files k path).2.value? ctx name = _
      unfold Ledger.runFile
      split
      · rfl
      · next source hs =>
        have hmem : source ∈ (files.readText path).toOption := by
          rw [hs]
          rfl
        exact Ledger.value?_run (fun hk has => hc ⟨hk, source, hmem, has⟩) m.ledger
  | bind k name' v => exact Ledger.value?_bind (fun hk hname => hc ⟨hk, hname⟩) v m.ledger
  | apply k f args kwargs => exact valuesKept_apply h k f args kwargs ctx name
  | probe k | read k | readBytes k => exact Ledger.value?_look _ m.ledger
  | useResolver k resolver => exact Ledger.value?_useResolver resolver m.ledger
  | teardown k => exact Ledger.value?_teardown m.ledger
  | releaseObject k ref => exact Ledger.value?_releaseObject ref m.ledger
  | extendSearchPath | shareModules | hookImports | redirectOutput =>
      refine Ledger.value?_change (fun context => ?_) m.ledger
      rfl

/-- What is not bound stays so, under calls that may not bind it: nothing is bound in a context that
is acquired, nor in one that is released. -/
theorem unbound_answer (h : m.Discreet) (hc : ¬ c.MayBind files ctx name)
    (hn : m.ledger.value? ctx name = none) :
    (answer files c m).2.ledger.value? ctx name = none := by
  cases c with
  | acquire request =>
      refine (Ledger.value?_acquire request m.ledger).trans ?_
      rw [hn, ite_self]
  | release k =>
      refine (Ledger.value?_release m.ledger).trans ?_
      rw [hn, ite_self]
  | _ => exact (value?_answer h hc nofun nofun).trans hn

end MemoryInterpreter

namespace Dialogue

variable {files : Files} {t : Thread} {a b : MemoryInterpreter} {xs : List Exchange} {ctx : Handle}
  {name : String}

theorem discreet (h : Dialogue files t a xs b) (ha : a.Discreet) : b.Discreet := by
  induction h with
  | done => exact ha
  | @call a b c xs h ih => exact ih (MemoryInterpreter.discreet_answer ha files c)

/-- A variable that nothing binds keeps its value, as long as its context is kept. -/
theorem value? (h : Dialogue files t a xs b) (ha : a.Discreet)
    (hx : ∀ x ∈ xs, ¬ x.call.MayBind files ctx name)
    (hk : ∀ x ∈ xs, x.call.acquired? x.reply ≠ some ctx ∧ x.call.released? ≠ some ctx) :
    b.ledger.value? ctx name = a.ledger.value? ctx name := by
  induction h with
  | done => rfl
  | @call a b c xs h ih =>
      obtain ⟨hacq, hrel⟩ := hk _ (.head _)
      have hone := MemoryInterpreter.value?_answer ha (hx _ (.head _)) hacq hrel
      have hrest := ih (MemoryInterpreter.discreet_answer ha files c)
        (fun x hmem => hx x (.tail _ hmem)) fun x hmem => hk x (.tail _ hmem)
      exact hrest.trans hone

/-- A variable that nothing binds stays unbound. -/
theorem unbound (h : Dialogue files t a xs b) (ha : a.Discreet)
    (hx : ∀ x ∈ xs, ¬ x.call.MayBind files ctx name) (hn : a.ledger.value? ctx name = none) :
    b.ledger.value? ctx name = none := by
  induction h with
  | done => exact hn
  | @call a b c xs h ih =>
      exact ih (MemoryInterpreter.discreet_answer ha files c) (fun x hmem => hx x (.tail _ hmem))
        (MemoryInterpreter.unbound_answer ha (hx _ (.head _)) hn)

end Dialogue

end PinnedSessions
