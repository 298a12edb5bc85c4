import PinnedSessions.Proofs.Interpreter.Ledgered
import PinnedSessions.Proofs.Session.Launch

/-! # Which resolvers contexts use

A context of the in-memory interpreter uses the resolver that it was acquired with until that is
replaced (`Ledger.resolver?`).

* No call but those that acquire or release a context, or replace a resolver, changes the resolver
  of any live context (`resolversKept_answer`).
* A call that does not name a context, and is not answered with it, leaves its resolver alone
  (`resolver?_elsewhere`).
* After calls on a context it uses the resolver of the last replacement among them
  (`Line.resolver?_callAll`).

All this holds as long as callables leave the resolvers alone (`Callable.Loyal`). -/

namespace PinnedSessions

namespace Ledger

/-- The name of the resolver that a context uses, if the context is live. -/
def resolver? (l : Ledger) (ctx : Handle) : Option (Option String) :=
  (l.contexts.find? ctx).map (·.resolver)

/-- Live contexts stay live and use the resolvers that they have. -/
def ResolversKept (l l' : Ledger) : Prop :=
  ∀ ctx name, l.resolver? ctx = some name → l'.resolver? ctx = some name

theorem ResolversKept.refl (l : Ledger) : ResolversKept l l := fun _ _ h => h

theorem resolversKept_of_contexts {l l' : Ledger} (h : l'.contexts = l.contexts) :
    ResolversKept l l' := by
  intro ctx name hl
  rwa [resolver?, h]

section Work

variable {α : Type} (ctx : Handle)

theorem resolversKept_within {f : GuestContext → Except GuestFault α × GuestContext}
    (hf : ∀ k, (f k).2.resolver = k.resolver) (l : Ledger) :
    ResolversKept l (l.within ctx f).2 := by
  intro k name hl
  unfold within
  split
  · exact hl
  · next context hc =>
    unfold resolver? at hl ⊢
    dsimp only
    rw [Table.find?_insert]
    split
    · next hk =>
      rw [← hk, hc] at hl
      rw [← hl, Option.map_some, Option.map_some, hf]
    · exact hl

theorem resolversKept_look (f : GuestContext → Except GuestFault α) (l : Ledger) :
    ResolversKept l (l.look ctx f).2 := by
  unfold look
  split <;> exact .refl l

theorem resolversKept_change (f : GuestContext → GuestContext)
    (hf : ∀ k, (f k).resolver = k.resolver) (l : Ledger) : ResolversKept l (l.change ctx f).2 :=
  resolversKept_within ctx hf l

theorem resolversKept_run (source : String) (l : Ledger) :
    ResolversKept l (l.run ctx source).2 :=
  resolversKept_within ctx (fun _ => rfl) l

theorem resolversKept_runFile (files : Files) (path : String) (l : Ledger) :
    ResolversKept l (l.runFile files ctx path).2 := by
  unfold runFile
  split
  · exact .refl l
  · exact resolversKept_run ctx _ l

theorem resolversKept_teardown (l : Ledger) : ResolversKept l (l.teardown ctx).2 := by
  unfold teardown
  dsimp only
  split
  · exact resolversKept_of_contexts rfl
  · exact resolversKept_change ctx (fun k => { k with tornDown := true }) (fun _ => rfl)
      (l.note .tornDown)

theorem resolversKept_releaseObject (ref : ObjectRef) (l : Ledger) :
    ResolversKept l (l.releaseObject ctx ref) := by
  unfold releaseObject
  dsimp only
  split <;> exact resolversKept_of_contexts rfl

end Work

theorem resolver?_useResolver (ctx k : Handle) (resolver : Resolver) (l : Ledger) :
    (l.useResolver ctx resolver).resolver? k =
      if ctx = k then (l.resolver? k).map fun _ => some resolver.name else l.resolver? k := by
  unfold resolver? useResolver
  rw [Table.find?_modify]
  split
  · cases l.contexts.find? k <;> rfl
  · rfl

end Ledger

/-- A callable that leaves the resolvers of live contexts alone. -/
def Callable.Loyal (f : Callable) : Prop :=
  ∀ args kwargs l, Ledger.ResolversKept l (f args kwargs l).2

/-- A callable that runs a text leaves resolvers alone. -/
theorem Callable.loyal_run (ctx : Handle) (source : String) : (Callable.run ctx source).Loyal := by
  intro args kwargs l
  have h := Ledger.resolversKept_run ctx source l
  unfold Callable.run
  split <;> next heq => rw [heq] at h; exact h

/-- Whether a call leaves the resolvers of all contexts alone, and all contexts live. -/
def Call.keepsResolvers : Call → Bool
  | .acquire _ | .release _ | .useResolver .. => false
  | _ => true

/-- The resolver that a call puts in use, and the context in which it does. -/
def Call.replacement? : Call → Option (Handle × Resolver)
  | .useResolver ctx resolver => some (ctx, resolver)
  | _ => none

namespace MemoryInterpreter

/-- An interpreter whose callables leave the resolvers of live contexts alone. -/
def Loyal (m : MemoryInterpreter) : Prop := ∀ name f, m.callables.find? name = some f → f.Loyal

theorem loyal_answer {m : MemoryInterpreter} (h : m.Loyal) (files : Files) (c : Call) :
    (answer files c m).2.Loyal := by
  unfold Loyal
  rw [callables_answer]
  exact h

theorem resolversKept_apply {m : MemoryInterpreter} (h : m.Loyal) (ctx : Handle) (name : String)
    (args : List Value) (kwargs : Option Kwargs) :
    Ledger.ResolversKept m.ledger (m.apply ctx name args kwargs).2.ledger := by
  unfold apply
  split
  · split
    · next f hf => exact h name f hf args kwargs m.ledger
    · exact .refl _
  · exact .refl _

theorem resolversKept_answer {m : MemoryInterpreter} (h : m.Loyal) (files : Files) {c : Call}
    (hc : c.keepsResolvers = true) :
    Ledger.ResolversKept m.ledger (answer files c m).2.ledger := by
  cases c with
  | acquire | release | useResolver => cases hc
  | run ctx source => exact Ledger.resolversKept_run ctx source m.ledger
  | runFile ctx path => exact Ledger.resolversKept_runFile ctx files path m.ledger
  | probe ctx | read ctx | readBytes ctx => exact Ledger.resolversKept_look ctx _ m.ledger
  | apply ctx name args kwargs => exact resolversKept_apply h ctx name args kwargs
  | teardown ctx => exact Ledger.resolversKept_teardown ctx m.ledger
  | releaseObject ctx ref => exact Ledger.resolversKept_releaseObject ctx ref m.ledger
  | bind ctx name value =>
      exact Ledger.resolversKept_change ctx (Ledger.bindIn name value) (fun _ => rfl) m.ledger
  | extendSearchPath ctx | shareModules ctx | hookImports ctx | redirectOutput ctx =>
      refine Ledger.resolversKept_change ctx _ (fun k => ?_) m.ledger
      rfl

/-- A call that neither names a context nor is answered with it leaves its resolver alone. -/
theorem resolver?_elsewhere {m : MemoryInterpreter} (h : m.Loyal) (files : Files) {c : Call}
    {k : Handle} {name : Option String} (hc : c.context? ≠ some k)
    (ha : c.acquired? (answer files c m).1 ≠ some k) (hk : m.ledger.resolver? k = some name) :
    (answer files c m).2.ledger.resolver? k = some name := by
  cases hkeeps : c.keepsResolvers with
  | true => exact resolversKept_answer h files hkeeps k name hk
  | false =>
      cases c with
      | acquire request =>
          change Call.acquired? (.acquire request) (m.ledger.acquire request).1 ≠ some k at ha
          change (m.ledger.acquire request).2.resolver? k = some name
          rcases m.ledger.acquire_cases request with ⟨-, heq⟩ | ⟨-, heq⟩ | ⟨ctx, -, -, heq⟩
          · rw [heq]
            exact hk
          · rw [heq]
            exact hk
          · rw [heq] at ha ⊢
            unfold Ledger.resolver? at hk ⊢
            dsimp only
            rwa [Table.find?_insert_of_ne _ _ fun hctx => ha (congrArg some hctx)]
      | release ctx =>
          have hne : ctx ≠ k := fun hctx => hc (congrArg some hctx)
          change (m.ledger.release ctx).resolver? k = some name
          unfold Ledger.resolver? Ledger.release at *
          dsimp only
          rwa [Table.find?_erase, if_neg hne]
      | useResolver ctx resolver =>
          have hne : ctx ≠ k := fun hctx => hc (congrArg some hctx)
          change (m.ledger.useResolver ctx resolver).resolver? k = some name
          rwa [Ledger.resolver?_useResolver, if_neg hne]
      | _ => cases hkeeps

/-- What a call on a context does to its resolver. -/
theorem resolver?_uses {m : MemoryInterpreter} (h : m.Loyal) (files : Files) {c : Call} {k : Handle}
    {name : Option String} (hc : c.Uses k) (hk : m.ledger.resolver? k = some name) :
    (answer files c m).2.ledger.resolver? k =
      some (c.replacement?.elim name fun p => some p.2.name) := by
  cases c with
  | acquire => cases hc.names
  | release => cases hc.keeps
  | useResolver ctx resolver =>
      have hctx : ctx = k := Option.some.inj hc.names
      change (m.ledger.useResolver ctx resolver).resolver? k = _
      rw [Ledger.resolver?_useResolver, if_pos hctx, hk]
      rfl
  | _ => exact resolversKept_answer h files rfl k name hk

/-- A context that is acquired uses the resolver that was asked for. -/
theorem resolver?_acquire {m m' : MemoryInterpreter} {files : Files} {request : ContextRequest}
    {ctx : Handle} (h : answer files (.acquire request) m = (.ok ctx, m')) :
    m'.ledger.resolver? ctx = some (request.resolver.map (·.name)) := by
  obtain rfl : (answer files (.acquire request) m).2 = m' := congrArg Prod.snd h
  replace h : (m.ledger.acquire request).1 = .ok ctx := congrArg Prod.fst h
  change (m.ledger.acquire request).2.resolver? ctx = _
  rcases m.ledger.acquire_cases request with ⟨-, heq⟩ | ⟨-, heq⟩ | ⟨k, -, -, heq⟩
  · rw [heq] at h
    cases h
  · rw [heq] at h
    cases h
  · rw [heq] at h ⊢
    cases h
    unfold Ledger.resolver?
    dsimp only
    rw [Table.find?_insert_self]
    rfl

end MemoryInterpreter

section Line

variable (files : Files) (t : Thread)

theorem Line.loyal_callAll (cs : List Call) {l : Line MemoryInterpreter}
    (h : l.interpreter.Loyal) : (l.callAll files t cs).interpreter.Loyal := by
  induction cs generalizing l with
  | nil => exact h
  | cons c cs ih => exact ih (MemoryInterpreter.loyal_answer h files c)

/-- What calls on a context do to its resolver: the last replacement among them counts. -/
theorem Line.resolver?_callAll {k : Handle} {cs : List Call} (hcs : ∀ c ∈ cs, c.Uses k)
    {l : Line MemoryInterpreter} (h : l.interpreter.Loyal) {name : Option String}
    (hk : l.interpreter.ledger.resolver? k = some name) :
    (l.callAll files t cs).interpreter.ledger.resolver? k =
      some ((cs.filterMap Call.replacement?).foldl (fun _ p => some p.2.name) name) := by
  induction cs generalizing l name with
  | nil => exact hk
  | cons c cs ih =>
      have hone := MemoryInterpreter.resolver?_uses h files (hcs c (.head _)) hk
      have hrest := ih (l := (l.call files t c).2) (fun d hd => hcs d (.tail _ hd))
        (MemoryInterpreter.loyal_answer h files c) hone
      rw [callAll, hrest]
      cases hr : c.replacement? with
      | none => rw [List.filterMap_cons_none hr, Option.elim_none]
      | some p => rw [List.filterMap_cons_some hr, Option.elim_some, List.foldl_cons]

end Line

end PinnedSessions
