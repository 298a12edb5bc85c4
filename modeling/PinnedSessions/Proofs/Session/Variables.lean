import PinnedSessions.Proofs.Interpreter.Variables
import PinnedSessions.Proofs.Session.Conduct

/-! # Variables seen through a session

What the owner of a live session on an in-memory interpreter finds in a variable, and what binding
one does.

* Three readers look at a variable: one converts its value for a target, one takes it as it is, and
  one takes its bytes. They find a value (`Reads`) or that there is none (`ReadsNothing`).
* Binding a variable always succeeds. It gives the variable its value, lists the binding, and leaves
  everything else as it was (`Binds`). -/

namespace PinnedSessions

variable {σ : Type}

/-! ### Operations behind the gate -/

namespace Session

section Behind

variable [Interpreter σ] {env : Ambient} {s : Scene σ} {ctx : Handle} {name : String}

/-- Behind the gate, and with a name, reading converts what the interpreter answers. -/
theorem result_read (hp : s.session.phase = .live env.caller ctx) (hn : Text.isBlank name = false)
    (t : Target) : ((read t name : Op σ t.Carrier).run env s).1 =
      match (s.world.line.call env.files env.caller (.read ctx name t.kind)).1 with
      | .ok v => (t.extract v).mapError fun fault => .noConversion (.host fault)
      | .error e => .error (.ofGuest e) := by
  rw [read, variableContext_bind, Op.run_bind_ok (context_live hp), hn, if_neg Bool.false_ne_true,
    Op.run_bind_ok (Op.run_call _ _ _)]
  cases (s.world.line.call env.files env.caller (.read ctx name t.kind)).1 with
  | error e => rfl
  | ok v =>
      rw [Op.ofReply, Op.run_bind_ok (Op.run_pure _ _ _), Op.run_bind_ok (Op.run_modify _ _ _)]
      dsimp only
      cases t.extract v <;> rfl

theorem result_readBytes (hp : s.session.phase = .live env.caller ctx)
    (hn : Text.isBlank name = false) :
    ((readBytes name : Op σ (List UInt8)).run env s).1 =
      (s.world.line.call env.files env.caller (.readBytes ctx name)).1.mapError .ofGuest := by
  rw [readBytes, variableContext_bind, Op.run_bind_ok (context_live hp), hn,
    if_neg Bool.false_ne_true, Op.run_bind_ok (Op.run_call _ _ _)]
  cases (s.world.line.call env.files env.caller (.readBytes ctx name)).1 <;> rfl

/-- Behind the gate, and with a name, binding makes one call. -/
theorem run_bind (hp : s.session.phase = .live env.caller ctx) (hn : Text.isBlank name = false)
    (source : Source) (a : source.Carrier) : ∃ log, (bind name source a : Op σ Unit).run env s =
      ((s.world.line.call env.files env.caller (.bind ctx name (source.inject a))).1.mapError
          .ofGuest, ⟨s.session, { s.world with
        line := (s.world.line.call env.files env.caller (.bind ctx name (source.inject a))).2
        log := log }⟩) := by
  rw [bind, variableContext_bind, Op.run_bind_ok (context_live hp), hn, if_neg Bool.false_ne_true,
    Op.run_bind_ok (Op.run_log _ _ _), Op.run_bind_ok (Op.run_call _ _ _)]
  dsimp only
  cases (s.world.line.call env.files env.caller (.bind ctx name (source.inject a))).1 with
  | ok u => exact ⟨_, rfl⟩
  | error e => exact ⟨_, rfl⟩

end Behind

end Session

/-! ### What is found -/

/-- What all readers find in a variable that holds a value. -/
structure Reads (env : Ambient) (s : Scene MemoryInterpreter) (name : String) (v : Value) :
    Prop where
  /-- A target gets what it extracts from the value, or the fault with which it refuses it. -/
  value : ∀ t : Target, ((Session.read t name).run env s).1 =
    (t.extract v).mapError fun fault => .noConversion (.host fault)
  object : ((Session.read .value name).run env s).1 = .ok v
  text : ∀ text, v = .str text →
    ((Session.readBytes name).run env s).1 = .ok text.toUTF8.data.toList
  bytes : ∀ bs, v = .byteArray bs → ((Session.readBytes name).run env s).1 = .ok bs
  /-- Nothing else has bytes. -/
  other : v.kind ≠ .str → v.kind ≠ .byteArray → ((Session.readBytes name).run env s).1 =
    .error (.noConversion (.guest
      ("'" ++ name ++ "' is " ++ v.kind.name ++ ", not str or bytes")))

/-- What all readers find in a variable that is not bound. -/
structure ReadsNothing (env : Ambient) (s : Scene MemoryInterpreter) (name : String) : Prop where
  value : ∀ t : Target, ((Session.read t name).run env s).1 =
    .error (.raised ("name '" ++ name ++ "' is not defined"))
  bytes : ((Session.readBytes name).run env s).1 =
    .error (.raised ("name '" ++ name ++ "' is not defined"))

section Readers

variable {env : Ambient} {s : Scene MemoryInterpreter} {ctx : Handle} {name : String} {v : Value}

/-- What the interpreter answers to one who looks into a live context. -/
theorem Ledger.look_live {α : Type} {l : Ledger} {k : GuestContext}
    (hk : l.contexts.find? ctx = some k) (f : GuestContext → Except GuestFault α) :
    (l.look ctx f).1 = f k := by
  rw [look, hk]

theorem Line.reply_read {line : Line MemoryInterpreter} {k : GuestContext}
    (hk : line.interpreter.context? ctx = some k) (files : Files) (t : Thread) (kind : Kind) :
    (line.call files t (.read ctx name kind)).1 = Ledger.readVariable name k :=
  Ledger.look_live hk _

theorem Line.reply_readBytes {line : Line MemoryInterpreter} {k : GuestContext}
    (hk : line.interpreter.context? ctx = some k) (files : Files) (t : Thread) :
    (line.call files t (.readBytes ctx name)).1 = Ledger.readBytes name k :=
  Ledger.look_live hk _

theorem reads_of_value (hp : s.session.phase = .live env.caller ctx)
    (hn : Text.isBlank name = false)
    (hv : s.world.line.interpreter.ledger.value? ctx name = some v) : Reads env s name v := by
  obtain ⟨k, hk, hfind⟩ := Option.bind_eq_some_iff.1 hv
  have hread : Ledger.readVariable name k = .ok v := by rw [Ledger.readVariable, hfind]
  have hvalue : ∀ t : Target, ((Session.read t name).run env s).1 =
      (t.extract v).mapError fun fault => .noConversion (.host fault) := by
    intro t
    rw [Session.result_read hp hn, Line.reply_read hk, hread]
  have hbytes : ((Session.readBytes name).run env s).1 =
      (Ledger.readBytes name k).mapError .ofGuest := by
    rw [Session.result_readBytes hp hn, Line.reply_readBytes hk]
  rw [Ledger.readBytes, hfind] at hbytes
  refine ⟨hvalue, hvalue .value, ?_, ?_, ?_⟩
  · rintro text rfl
    exact hbytes
  · rintro bs rfl
    exact hbytes
  · intro hstr hbuffer
    cases v with
    | str => exact absurd rfl hstr
    | byteArray => exact absurd rfl hbuffer
    | _ => exact hbytes

theorem readsNothing_of_unbound {k : GuestContext} (hp : s.session.phase = .live env.caller ctx)
    (hn : Text.isBlank name = false) (hk : s.world.line.interpreter.context? ctx = some k)
    (hfind : k.vars.find? name = none) : ReadsNothing env s name := by
  constructor
  · intro t
    rw [Session.result_read hp hn, Line.reply_read hk, Ledger.readVariable, hfind]
    rfl
  · rw [Session.result_readBytes hp hn, Line.reply_readBytes hk, Ledger.readBytes, hfind]
    rfl

end Readers

/-! ### What binding does -/

/-- What binding a variable of a context to a value does to an interpreter. -/
structure Binds (ctx : Handle) (name : String) (v : Value) (x x' : MemoryInterpreter) : Prop where
  /-- The binding is listed, and of the context nothing changes but the variable. -/
  context : ∃ k, x.context? ctx = some k ∧ x'.context? ctx = some
    { k with
      bindings := k.bindings ++ [(name, v.kind)]
      vars := k.vars.insert name v }
  bound : x'.ledger.value? ctx name = some v
  values : ∀ name', name' ≠ name → x'.ledger.value? ctx name' = x.ledger.value? ctx name'
  others : ∀ k, k ≠ ctx → x'.context? k = x.context? k

theorem binds_answer {x : MemoryInterpreter} {ctx : Handle} {k : GuestContext}
    (hk : x.context? ctx = some k) (files : Files) (name : String) (v : Value) :
    (MemoryInterpreter.answer files (.bind ctx name v) x).1 = .ok () ∧
      Binds ctx name v x (MemoryInterpreter.answer files (.bind ctx name v) x).2 := by
  have hchange : x.ledger.change ctx (Ledger.bindIn name v) = (.ok (),
      { x.ledger with contexts := x.ledger.contexts.insert ctx (Ledger.bindIn name v k) }) := by
    unfold MemoryInterpreter.context? at hk
    rw [Ledger.change, Ledger.within, hk]
  have hanswer : MemoryInterpreter.answer files (.bind ctx name v) x = (.ok (), { x with ledger :=
      { x.ledger with contexts := x.ledger.contexts.insert ctx (Ledger.bindIn name v k) } }) := by
    rw [MemoryInterpreter.answer, MemoryInterpreter.onLedger, hchange]
  rw [hanswer]
  have hcontext : (x.ledger.contexts.insert ctx (Ledger.bindIn name v k)).find? ctx =
      some (Ledger.bindIn name v k) := Table.find?_insert_self ..
  refine ⟨rfl, ⟨k, hk, hcontext⟩, ?_, fun name' hne => ?_, fun k' hne => ?_⟩
  · rw [Ledger.value?, hcontext]
    exact Table.find?_insert_self ..
  · unfold MemoryInterpreter.context? at hk
    rw [Ledger.value?, Ledger.value?, hcontext, hk]
    exact Table.find?_insert_of_ne _ _ (Ne.symm hne)
  · exact Table.find?_insert_of_ne _ _ (Ne.symm hne)

end PinnedSessions
