import PinnedSessions.Proofs.Session.Steady

/-! # Operations behind the gate

`Op.Guarded` is an operation that changes nothing at all for a caller whom the gate does not let
pass, answering with the gate's failure, and is steady on the context of a caller who owns a live
one. Every request but the start and the end of a session is guarded (`guarded_perform`): a check of
arguments, a fault of the interpreter or a conversion that fails comes after the gate, and none of
them touches the phase of the session or the registry.

That a property holds of all these requests is proved from what they are made of, once and for all:
`Op.Closed` has one clause for each thing that an operation behind the gate can do, and whatever has
them all holds of every such request (`Op.Closed.perform`). -/

namespace PinnedSessions

variable {σ α β : Type} [Interpreter σ]

/-! ### Failures of the gate -/

/-- Whether a failure is the gate's. -/
def Failure.isRefusal : Failure → Bool
  | .foreignCaller .. | .closed | .uninitialized => true
  | _ => false

/-- No fault of an interpreter is told as a refusal. -/
theorem Failure.isRefusal_ofGuest (fault : GuestFault) :
    (Failure.ofGuest fault).isRefusal = false := by
  cases fault <;> rfl

/-! ### The gate -/

/-- The gate of a session, as it is for a caller. -/
def Session.gate (s : Session) (caller : Thread) : Except Failure Unit :=
  s.lifecycle.gate s.owner? caller

/-- The gate lets those callers pass who own a live context. -/
theorem Session.gate_eq_ok_iff_live (s : Session) (caller : Thread) :
    s.gate caller = .ok () ↔ ∃ ctx, s.phase = .live caller ctx := by
  unfold Session.gate Session.lifecycle Session.owner?
  rw [Lifecycle.gate_eq_ok_iff]
  cases s.phase <;> simp [Phase.lifecycle, Phase.owner?]

theorem Session.gate_live {s : Session} {caller : Thread} {ctx : Handle}
    (h : s.phase = .live caller ctx) : s.gate caller = .ok () :=
  (s.gate_eq_ok_iff_live caller).2 ⟨ctx, h⟩

/-- Either the caller owns a live context, or the gate refuses. -/
theorem Session.gate_cases (s : Session) (caller : Thread) :
    (∃ ctx, s.phase = .live caller ctx) ∨ ∃ e, s.gate caller = .error e := by
  cases hg : s.gate caller with
  | ok u => exact .inl ((s.gate_eq_ok_iff_live caller).1 hg)
  | error e => exact .inr ⟨e, rfl⟩

namespace Op

/-- An operation that gives the context of a caller who passes the gate, unless it fails for another
reason. Either way it changes nothing. -/
structure Admits (op : Op σ Handle) : Prop where
  shut : ∀ env s e, s.session.gate env.caller = .error e → op.run env s = (.error e, s)
  opens : ∀ env s ctx, s.session.phase = .live env.caller ctx →
    op.run env s = (.ok ctx, s) ∨ ∃ e, op.run env s = (.error e, s)

/-- An operation without effect for whom the gate does not let pass, and steady on the context of
whom it does. -/
structure Guarded (op : Op σ α) : Prop where
  shut : ∀ env s e, s.session.gate env.caller = .error e → op.run env s = (.error e, s)
  steady : ∀ env s ctx, s.session.phase = .live env.caller ctx → Steady env ctx s (op.run env s).2

theorem Guarded.of_admits {op : Op σ Handle} {f : Handle → Op σ α} (h : op.Admits)
    (hf : ∀ ctx, (f ctx).Uses ctx) : (op >>= f).Guarded where
  shut env s e he := run_bind_error (h.shut env s e he)
  steady env s ctx hp := by
    rcases h.opens env s ctx hp with hrun | ⟨e, hrun⟩
    · rw [run_bind_ok hrun]
      exact hf ctx env s
    · rw [run_bind_error hrun]
      exact .refl s

theorem Guarded.bind {op : Op σ α} {f : α → Op σ β} (h : op.Guarded) (hf : ∀ a, (f a).Guarded) :
    (op >>= f).Guarded where
  shut env s e he := run_bind_error (h.shut env s e he)
  steady env s ctx hp := by
    have hs := h.steady env s ctx hp
    rw [run_bind]
    cases hrun : op.run env s with
    | mk r s' =>
        rw [hrun] at hs
        cases r with
        | error e => exact hs
        | ok a => exact hs.trans ((hf a).steady env s' ctx (hs.phase.trans hp))

/-- Telling the result of an operation changes nothing more. -/
theorem Guarded.telling {op : Op σ α} (h : op.Guarded) (tell : α → Answer) :
    (Request.telling op tell).Guarded where
  shut env s e he := run_bind_error (h.shut env s e he)
  steady env s ctx hp := by
    have hs := h.steady env s ctx hp
    rw [Request.telling, run_bind]
    cases hrun : op.run env s with
    | mk r s' =>
        rw [hrun] at hs
        cases r <;> exact hs

end Op

namespace Session

/-! ### Passing the gate -/

omit [Interpreter σ] in
theorem context_shut {env : Ambient} {s : Scene σ} {e : Failure}
    (he : s.session.gate env.caller = .error e) :
    (context : Op σ Handle).run env s = (.error e, s) := by
  unfold Session.gate at he
  simp only [context, Op.run_bind, Op.run_session, Op.run_caller, Op.run_ofExcept, he]

omit [Interpreter σ] in
theorem context_live {env : Ambient} {s : Scene σ} {ctx : Handle}
    (hp : s.session.phase = .live env.caller ctx) :
    (context : Op σ Handle).run env s = (.ok ctx, s) := by
  have hg := Session.gate_live hp
  unfold Session.gate at hg
  simp only [context, Op.run_bind, Op.run_session, Op.run_caller, Op.run_ofExcept, hg, handle?,
    hp, Phase.handle?, Op.run_pure]

omit [Interpreter σ] in
theorem admits_context : (context : Op σ Handle).Admits where
  shut _ _ _ he := context_shut he
  opens _ _ _ hp := .inl (context_live hp)

/-! ### Feeding a line -/

/-- What holds between the states of a sink before and after each of its calls, whatever they are,
holds between those before and after a line is fed. -/
theorem feed_relates {τ ε : Type} {P : τ → τ → Prop} (hrefl : ∀ s, P s s)
    (htrans : ∀ {s t u}, P s t → P t u → P s u) {sink : Sink τ ε}
    (hprobe : ∀ text s, P s (sink.probe text s).2) (hrun : ∀ text s, P s (sink.run text s).2)
    (line : Option String) (b : LineBuffer) (s : τ) : P s (b.feed sink line s).2.2 := by
  have hnow : ∀ text b s, P s (LineBuffer.runNow sink text b s).2.2 := by
    intro text b s
    have h := hrun text s
    unfold LineBuffer.runNow
    split <;> next heq => rw [heq] at h; exact h
  unfold LineBuffer.feed
  split
  · next text _ =>
    unfold LineBuffer.take
    split
    · exact hnow text b s
    · exact hrefl s
    · have h := hprobe text s
      split <;> next heq => rw [heq] at h; first | exact h | exact htrans h (hnow text b _)
  · unfold LineBuffer.flush
    split
    · exact hnow _ _ s
    · exact hrefl s

theorem uses_feed (ctx : Handle) (line : Option String) :
    (feed ctx line : Op σ Outcome).Uses ctx := by
  intro env s
  have hcalls : ∃ cs : List Call, (∀ c ∈ cs, c.Uses ctx) ∧
      (s.session.buffer.feed (sink env ctx) line s.world.line).2.2 =
        s.world.line.callAll env.files env.caller cs := by
    refine feed_relates (P := fun l l' : Line σ => ∃ cs : List Call, (∀ c ∈ cs, c.Uses ctx) ∧
      l' = l.callAll env.files env.caller cs) ?_ ?_ ?_ ?_ line _ _
    · exact fun l => ⟨[], by simp, rfl⟩
    · rintro l l' l'' ⟨cs, hcs, rfl⟩ ⟨ds, hds, rfl⟩
      refine ⟨cs ++ ds, fun c hc => ?_, (Line.callAll_append ..).symm⟩
      exact (List.mem_append.1 hc).elim (hcs c) (hds c)
    · intro text l
      refine ⟨[.probe ctx text], by simpa using ⟨rfl, rfl⟩, ?_⟩
      unfold sink
      dsimp only
      split <;> next heq => exact (congrArg Prod.snd heq).symm
    · intro text l
      refine ⟨[.run ctx text], by simpa using ⟨rfl, rfl⟩, ?_⟩
      unfold sink
      dsimp only
      split <;> next heq => exact (congrArg Prod.snd heq).symm
  exact ⟨rfl, rfl, hcalls⟩

/-! ### Every operation behind the gate

An operation behind the gate passes the gate and goes on with the context that it finds. `Closed`
collects what must be known of a property `P` of such continuations and of a property `Q` of whole
operations, one clause for each thing that an operation can do; then every request between the start
and the end of a session has `Q` (`Closed.perform`). The clauses do not tell a continuation which
context it works on, so `P` may also compare its work on two contexts. -/

omit [Interpreter σ] in
theorem variableContext_bind (name : String) (f : Handle → Op σ α) :
    (variableContext name : Op σ Handle) >>= f =
      (context >>= fun ctx =>
        if Text.isBlank name then Op.fail (.badArgument .variableName) else f ctx) := by
  funext env s
  change ((variableContext name : Op σ Handle) >>= f).run env s = Op.run _ env s
  rw [variableContext, Op.run_bind, Op.run_bind, Op.run_bind]
  cases (context : Op σ Handle).run env s with
  | mk r s' =>
      cases r with
      | error e => rfl
      | ok ctx =>
          by_cases hb : Text.isBlank name
          · simp only [if_pos hb]
            rfl
          · simp only [if_neg hb]
            rfl

/-- Switching the mode of a buffer, and telling what that drops. -/
def switchBuffer (buffer : LineBuffer) (interactive : Bool) : Op σ Unit := do
  Op.modify fun s => { s with buffer := (buffer.switchMode interactive).2 }
  match (buffer.switchMode interactive).1 with
  | some text => Op.log (.statementDropped text)
  | none => pure ()

end Session

/-- What must be known of properties of operations and of their continuations behind the gate, so
that every operation behind the gate has them. -/
structure Op.Closed (P : ∀ {α : Type}, (Handle → Op σ α) → Prop) (Q : ∀ {α : Type}, Op σ α → Prop) :
    Prop where
  pure : ∀ {α : Type} (a : α), P fun _ => Pure.pure a
  /-- Behind the gate nothing fails the way the gate does. -/
  fail : ∀ {α : Type} {e : Failure}, e.isRefusal = false → P fun _ => (Op.fail e : Op σ α)
  bind : ∀ {α β : Type} {op : Handle → Op σ α} {f : Handle → α → Op σ β}, P op →
    (∀ a, P fun ctx => f ctx a) → P fun ctx => op ctx >>= f ctx
  /-- Of the session no more is looked at than the resolver and the buffer. -/
  look : ∀ {α : Type} {f : Handle → Option Resolver → LineBuffer → Op σ α},
    (∀ resolver buffer, P fun ctx => f ctx resolver buffer) →
      P fun ctx => Op.session >>= fun s => f ctx s.resolver s.buffer
  files : P fun _ => (Op.files : Op σ Files)
  log : ∀ e : Handle → Event, P fun ctx => (Op.log (e ctx) : Op σ Unit)
  putResolver : ∀ resolver : Option Resolver,
    P fun _ => (Op.modify fun s => { s with resolver := resolver } : Op σ Unit)
  putBuffer : ∀ buffer : LineBuffer,
    P fun _ => (Op.modify fun s => { s with buffer := buffer } : Op σ Unit)
  feed : ∀ line : Option String, P fun ctx => (Session.feed ctx line : Op σ Outcome)
  runFile : ∀ path : String, P fun ctx => (Op.call (.runFile ctx path) : Op σ _)
  readBytes : ∀ name : String, P fun ctx => (Op.call (.readBytes ctx name) : Op σ _)
  bindTo : ∀ (name : String) (v : Value), P fun ctx => (Op.call (.bind ctx name v) : Op σ _)
  useResolver : ∀ resolver : Resolver, P fun ctx => (Op.call (.useResolver ctx resolver) : Op σ _)
  /-- A value that is answered is kept before anything else is done with it. -/
  apply : ∀ {α : Type} (name : String) (args : List Value) (kwargs : Option Kwargs)
    {f : Handle → Value → Op σ α}, (∀ v, P fun ctx => f ctx v) →
      P fun ctx => Op.call (.apply ctx name args kwargs) >>= fun r => Op.ofReply r >>= fun v =>
        Op.modify (fun s => { s with held := s.held.keep v }) >>= fun _ => f ctx v
  read : ∀ {α : Type} (name : String) (kind : Kind) {f : Handle → Value → Op σ α},
    (∀ v, P fun ctx => f ctx v) →
      P fun ctx => Op.call (.read ctx name kind) >>= fun r => Op.ofReply r >>= fun v =>
        Op.modify (fun s => { s with held := s.held.keep v }) >>= fun _ => f ctx v
  gate : ∀ {α : Type} {f : Handle → Op σ α}, P f → Q (Session.context >>= f)
  seq : ∀ {α β : Type} {op : Op σ α} {f : α → Op σ β}, op.Guarded → Q op → (∀ a, Q (f a)) →
    Q (op >>= f)
  telling : ∀ {α : Type} {op : Op σ α} (tell : α → Answer), Q op → Q (Request.telling op tell)

namespace Op.Closed

variable {P : ∀ {α : Type}, (Handle → Op σ α) → Prop} {Q : ∀ {α : Type}, Op σ α → Prop}

theorem ite (_ : Closed P Q) {c : Prop} [Decidable c] {f g : Handle → Op σ α} (hf : P f)
    (hg : P g) : P fun ctx => if c then f ctx else g ctx := by
  by_cases hc : c
  · simpa only [if_pos hc] using hf
  · simpa only [if_neg hc] using hg

theorem ofReply (h : Closed P Q) (r : Except GuestFault α) :
    P fun _ => (Op.ofReply r : Op σ α) := by
  cases r with
  | ok a => exact h.pure a
  | error e => exact h.fail (Failure.isRefusal_ofGuest e)

theorem gateVariable (h : Closed P Q) {name : String} {f : Handle → Op σ α} (hf : P f) :
    Q (Session.variableContext name >>= f) := by
  rw [Session.variableContext_bind]
  exact h.gate (h.ite (h.fail rfl) hf)

/-! ### The operations -/

theorem evaluate (h : Closed P Q) (line : Option String) :
    Q (Session.evaluate line : Op σ Outcome) :=
  h.gate (h.bind (h.feed line) fun outcome => h.ite
    (h.bind (h.log fun _ => .statementHeld) fun _ => h.pure outcome)
    (h.bind (h.pure ()) fun _ => h.pure outcome))

theorem applyTo (h : Closed P Q) (name : String) (args : List Value) (kwargs : Option Kwargs) :
    Q (Session.apply name args kwargs : Op σ Value) :=
  h.gate (h.ite (h.fail rfl) (h.apply name args kwargs h.pure))

theorem runFileAt (h : Closed P Q) (path : String) : Q (Session.runFile path : Op σ Unit) :=
  h.gate (h.ite (h.fail rfl) (h.bind h.files fun _ => h.ite (h.fail rfl)
    (h.bind (h.log fun ctx => .scriptStarted ctx path) fun _ =>
      h.bind (h.runFile path) fun r => h.ofReply r)))

theorem replaceResolver (h : Closed P Q) (resolver : Resolver) :
    Q (Session.useResolver resolver : Op σ Unit) :=
  h.gate (h.look (f := fun ctx used _ => if used.any (·.same resolver) then Pure.pure () else do
      Op.log (.resolverReplaced ctx resolver.name)
      Op.call (.useResolver ctx resolver)
      Op.modify fun s => { s with resolver := some resolver }) fun _ _ =>
    h.ite (h.pure ()) (h.bind (h.log fun ctx => .resolverReplaced ctx resolver.name) fun _ =>
      h.bind (h.useResolver resolver) fun _ => h.putResolver (some resolver)))

theorem readAs (h : Closed P Q) (t : Target) (name : String) :
    Q (Session.read t name : Op σ t.Carrier) :=
  h.gateVariable (h.read name t.kind fun v => by
    unfold Session.ofConversion
    split
    · exact h.pure _
    · exact h.fail rfl)

theorem readBytesOf (h : Closed P Q) (name : String) :
    Q (Session.readBytes name : Op σ (List UInt8)) :=
  h.gateVariable (h.bind (h.readBytes name) fun r => h.ofReply r)

theorem bindVariable (h : Closed P Q) (name : String) (source : Source) (x : source.Carrier) :
    Q (Session.bind name source x : Op σ Unit) :=
  h.gateVariable (h.bind (h.log fun ctx => .variableBound ctx name (source.inject x).kind) fun _ =>
    h.bind (h.bindTo name (source.inject x)) fun r => h.ofReply r)

theorem switch (h : Closed P Q) (interactive : Bool) :
    Q (Session.switchMode interactive : Op σ Unit) :=
  h.gate (h.look (f := fun _ _ buffer => Session.switchBuffer buffer interactive) fun _ _ =>
    h.bind (h.putBuffer _) fun _ => by
      split
      · exact h.log _
      · exact h.pure ())

end Op.Closed

/-- Being guarded is such a property, and so is being steady on the context. -/
theorem Op.closed_guarded : Op.Closed (σ := σ) (fun f => ∀ ctx, (f ctx).Uses ctx) Op.Guarded where
  pure a _ := (Op.Answers.pure a).uses
  fail _ _ := .fail _
  bind hop hf ctx := .bind (hop ctx) fun a => hf a ctx
  look hf ctx := .bind Op.Answers.session.uses fun s => hf s.resolver s.buffer ctx
  files _ := Op.Answers.files.uses
  log e ctx := (Op.Answers.log (e ctx)).uses
  putResolver _ _ := .modify fun _ => rfl
  putBuffer _ _ := .modify fun _ => rfl
  feed line ctx := Session.uses_feed ctx line
  runFile _ _ := (Op.Answers.call ⟨rfl, rfl⟩).uses
  readBytes _ _ := (Op.Answers.call ⟨rfl, rfl⟩).uses
  bindTo _ _ _ := (Op.Answers.call ⟨rfl, rfl⟩).uses
  useResolver _ _ := (Op.Answers.call ⟨rfl, rfl⟩).uses
  apply _ _ _ _ hf ctx := .bind (Op.Answers.call ⟨rfl, rfl⟩).uses fun r => .bind (.ofReply r)
    fun v => .bind (.modify fun _ => rfl) fun _ => hf v ctx
  read _ _ _ hf ctx := .bind (Op.Answers.call ⟨rfl, rfl⟩).uses fun r => .bind (.ofReply r)
    fun v => .bind (.modify fun _ => rfl) fun _ => hf v ctx
  gate hf := .of_admits Session.admits_context hf
  seq _ hop hf := .bind hop hf
  telling tell hop := hop.telling tell

/-! ### The requests -/

/-- Whether a request begins or ends the life of a session. -/
def Request.isBoundary : Request → Bool
  | .start | .close => true
  | _ => false

/-- What is closed holds of every request between the start and the end of a session. -/
theorem Op.Closed.perform {P : ∀ {α : Type}, (Handle → Op σ α) → Prop}
    {Q : ∀ {α : Type}, Op σ α → Prop} (h : Op.Closed P Q) {r : Request}
    (hr : r.isBoundary = false) : Q (r.perform : Op σ Answer) := by
  cases r with
  | start => cases hr
  | close => cases hr
  | evaluate line => exact h.telling _ (h.evaluate line)
  | apply name args kwargs => exact h.telling _ (h.applyTo name args kwargs)
  | runFile path => exact h.telling _ (h.runFileAt path)
  | runFileWith path resolver =>
      have hg := Op.closed_guarded.replaceResolver (σ := σ) resolver
      exact h.telling _ (h.seq hg (h.replaceResolver resolver) fun _ => h.runFileAt path)
  | useResolver resolver => exact h.telling _ (h.replaceResolver resolver)
  | read target name => exact h.telling _ (h.readAs target name)
  | readBytes name => exact h.telling _ (h.readBytesOf name)
  | bind name source x => exact h.telling _ (h.bindVariable name source x)
  | switchMode interactive => exact h.telling _ (h.switch interactive)

/-- Every request between the start and the end of a session is behind the gate. -/
theorem guarded_perform {r : Request} (h : r.isBoundary = false) :
    (r.perform : Op σ Answer).Guarded :=
  Op.closed_guarded.perform h

end PinnedSessions
