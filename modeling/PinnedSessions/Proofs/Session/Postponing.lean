import PinnedSessions.Proofs.Session.Conduct

/-! # A start that is postponed

A session whose start is postponed is created without a context, and started when it is asked to.

* `Session.withPostponed` is a session with the other choice about its start. An operation is
  `Op.Indifferent` if it does the same to both sessions and leaves them the same but for that
  choice. Only the creation of a session looks at the choice, so every request is indifferent
  (`indifferent_perform`), and sessions that were the same stay so, whatever they are asked for and
  whatever happens around them (`follow_withPostponed`).
* To create a session and start it at once, on the same thread, therefore comes to what its
  immediate creation comes to, in the same world (`postponing_exact`): a session that could not be
  started has neither context nor mark, so nothing is left to do when it is thrown away. -/

namespace PinnedSessions

variable {σ α β : Type}

/-! ### Sessions with another choice about their start -/

/-- The session with another choice about its start. -/
def Session.withPostponed (on : Bool) (s : Session) : Session :=
  { s with settings := s.settings.choose (.postponed on) }

/-- The session with another choice about its start, in the same world. -/
def Scene.withPostponed (on : Bool) (s : Scene σ) : Scene σ := ⟨s.session.withPostponed on, s.world⟩

theorem Settings.postponed_choose (c : Settings) (on : Bool) :
    (c.choose (.postponed on)).postponed = on := rfl

theorem Session.fresh_withPostponed (c : Settings) (on on' : Bool) :
    (fresh (c.choose (.postponed on))).withPostponed on' =
      fresh (c.choose (.postponed on')) := rfl

namespace Op

/-- An operation that does not look at the choice about the start. -/
def Indifferent (op : Op σ α) : Prop :=
  ∀ on env s, op.run env (s.withPostponed on) =
    ((op.run env s).1, (op.run env s).2.withPostponed on)

namespace Indifferent

theorem pure (a : α) : (Pure.pure a : Op σ α).Indifferent := fun _ _ _ => rfl

theorem fail (e : Failure) : (Op.fail e : Op σ α).Indifferent := fun _ _ _ => rfl

theorem ofExcept (r : Except Failure α) : (Op.ofExcept r : Op σ α).Indifferent := fun _ _ _ => rfl

theorem ofReply (r : Except GuestFault α) : (Op.ofReply r : Op σ α).Indifferent := by
  cases r with
  | ok a => exact .pure a
  | error e => exact .fail _

theorem caller : (Op.caller : Op σ Thread).Indifferent := fun _ _ _ => rfl

theorem files : (Op.files : Op σ Files).Indifferent := fun _ _ _ => rfl

theorem onWorld (f : World σ → World σ) : (Op.onWorld f).Indifferent := fun _ _ _ => rfl

theorem mark : (Op.mark : Op σ Unit).Indifferent := by
  intro on env s
  rw [run_mark, run_mark, Scene.withPostponed]
  dsimp only
  cases s.world.registry.mark env.caller <;> rfl

theorem call [Interpreter σ] (c : Call) : (Op.call c : Op σ c.Reply).Indifferent :=
  fun _ _ _ => rfl

theorem modify {f : Session → Session}
    (hf : ∀ on s, f (s.withPostponed on) = (f s).withPostponed on) :
    (Op.modify f : Op σ Unit).Indifferent := by
  intro on env s
  rw [run_modify, run_modify, Scene.withPostponed]
  dsimp only
  rw [hf]
  rfl

theorem bind {op : Op σ α} {f : α → Op σ β} (h : op.Indifferent) (hf : ∀ a, (f a).Indifferent) :
    (op >>= f).Indifferent := by
  intro on env s
  rw [run_bind, run_bind, h on env s]
  cases op.run env s with
  | mk r s' =>
      cases r with
      | error e => rfl
      | ok a => exact hf a on env s'

/-- Whatever else of the session may be looked at. -/
theorem look {f : Session → Op σ α} (hf : ∀ on s, f (s.withPostponed on) = f s)
    (h : ∀ s, (f s).Indifferent) : (Op.session >>= f).Indifferent := by
  intro on env s
  rw [run_bind_ok (run_session _ _), run_bind_ok (run_session _ _), Scene.withPostponed, hf]
  exact h s.session on env s

theorem telling {op : Op σ α} (h : op.Indifferent) (tell : α → Answer) :
    (Request.telling op tell).Indifferent :=
  h.bind fun a => .pure (tell a)

end Indifferent

theorem indifferent_context : (Session.context : Op σ Handle).Indifferent :=
  .look (fun _ _ => rfl) fun s => .bind .caller fun _ => .bind (.ofExcept _) fun _ => by
    split
    · exact .pure _
    · exact .fail _

variable [Interpreter σ]

theorem indifferent_feed (ctx : Handle) (line : Option String) :
    (Session.feed ctx line : Op σ Outcome).Indifferent := fun _ _ _ => rfl

/-- Behind the gate nobody looks at the choice. -/
theorem closed_indifferent :
    Closed (σ := σ) (fun f => ∀ ctx, (f ctx).Indifferent) Indifferent where
  pure a _ := .pure a
  fail _ _ := .fail _
  bind hop hf ctx := (hop ctx).bind fun a => hf a ctx
  look hf ctx := .look (fun _ _ => rfl) fun s => hf s.resolver s.buffer ctx
  files _ := .files
  log _ _ := .onWorld _
  putResolver _ _ := .modify fun _ _ => rfl
  putBuffer _ _ := .modify fun _ _ => rfl
  feed line ctx := indifferent_feed ctx line
  runFile _ _ := .call _
  readBytes _ _ := .call _
  bindTo _ _ _ := .call _
  useResolver _ _ := .call _
  apply _ _ _ _ hf ctx := .bind (.call _) fun r => .bind (.ofReply r) fun v =>
    .bind (.modify fun _ _ => rfl) fun _ => hf v ctx
  read _ _ _ hf ctx := .bind (.call _) fun r => .bind (.ofReply r) fun v =>
    .bind (.modify fun _ _ => rfl) fun _ => hf v ctx
  gate hf := indifferent_context.bind hf
  seq _ hop hf := hop.bind hf
  telling tell hop := hop.telling tell

end Op

/-! ### Every request -/

namespace Session

theorem contextRequest_withPostponed (on : Bool) (s : Session) :
    (s.withPostponed on).contextRequest = s.contextRequest := rfl

theorem indifferent_andThen {first second : Op σ (Except GuestFault Unit)}
    (h : first.Indifferent) (h' : second.Indifferent) : (andThen first second).Indifferent :=
  h.bind fun r => by
    cases r with
    | ok u => exact h'
    | error e => exact .pure _

theorem indifferent_spoil (owner : Thread) (e : GuestFault) :
    (spoil owner e : Op σ Unit).Indifferent :=
  .bind (.modify fun _ _ => rfl) fun _ => .bind (.onWorld _) fun _ => .fail _

variable [Interpreter σ]

theorem indifferent_configure (ctx : Handle) (s : Session) :
    (configure ctx s : Op σ _).Indifferent := by
  refine indifferent_andThen ?_ (indifferent_andThen ?_ (indifferent_andThen (.call _) ?_))
  · unfold extendSearchPath
    split
    · exact .pure _
    · exact .bind (.onWorld _) fun _ => .call _
  · unfold shareModules
    split
    · exact .bind (.onWorld _) fun _ => .call _
    · exact .pure _
  · unfold redirectOutput
    split
    · exact .call _
    · exact .pure _

/-- A start reads all settings but the one that says when it was to be. -/
theorem indifferent_acquire : (acquire : Op σ Unit).Indifferent := by
  refine .bind .mark fun _ => .look (fun on s => ?_) fun s => .bind .caller fun owner =>
    .bind (.call _) fun reply => ?_
  · rw [contextRequest_withPostponed]
    refine congrArg (Op.caller >>= ·) (funext fun owner =>
      congrArg (Op.call (.acquire s.contextRequest) >>= ·) (funext fun reply => ?_))
    -- what follows reads the session only once the reply is known
    cases reply with
    | error e => rfl
    | ok ctx => rfl
  · cases reply with
    | error e => exact indifferent_spoil owner e
    | ok ctx =>
        refine .bind (indifferent_configure ctx s) fun r => ?_
        cases r with
        | error e =>
            exact .bind (.onWorld _) fun _ => .bind (.call _) fun _ => indifferent_spoil owner e
        | ok u => exact .bind (.modify fun _ _ => rfl) fun _ => .onWorld _

theorem indifferent_start : (start : Op σ Unit).Indifferent :=
  .look (fun _ _ => rfl) fun s => by
    split
    · exact .fail _
    · exact .fail _
    · exact .fail _
    · exact indifferent_acquire

theorem indifferent_finish (owner : Thread) (ctx : Handle) :
    (finish owner ctx : Op σ Unit).Indifferent := by
  have hreleased : (releaseObjects ctx : Op σ Unit).Indifferent := fun _ _ _ => rfl
  have htorn : (teardown ctx : Op σ Unit).Indifferent := .bind (.call _) fun r => by
    cases r with
    | ok u => exact .pure _
    | error e => exact .onWorld _
  exact .bind hreleased fun _ => .bind htorn fun _ => .bind (.call _) fun _ =>
    .bind (.onWorld _) fun _ => .bind (.onWorld _) fun _ => .modify fun _ _ => rfl

theorem indifferent_close : (close : Op σ Unit).Indifferent :=
  .look (fun _ _ => rfl) fun s => by
    split
    · exact .pure _
    · exact .modify fun _ _ => rfl
    · exact .modify fun _ _ => rfl
    · exact .bind .caller fun caller => by
        split
        · exact indifferent_finish _ _
        · exact .fail _

theorem indifferent_discard : (discard : Op σ Unit).Indifferent := by
  intro on env s
  have hclose := indifferent_close on env s
  unfold discard Op.run at *
  dsimp only
  rw [hclose]
  cases close env s with
  | mk r s' => cases r <;> rfl

end Session

/-- No request looks at the choice about the start. -/
theorem indifferent_perform [Interpreter σ] (r : Request) :
    (r.perform : Op σ Answer).Indifferent := by
  cases hr : r.isBoundary with
  | false => exact Op.closed_indifferent.perform hr
  | true =>
      cases r with
      | start => exact Session.indifferent_start.telling _
      | close => exact Session.indifferent_close.telling _
      | evaluate | apply | runFile | runFileWith | useResolver | read | readBytes | bind
      | switchMode => cases hr

/-! ### What happens later -/

/-- What may happen after a session was created. -/
inductive Occasion (σ : Type) where
  /-- Some thread asks something of the session. -/
  | ask (env : Ambient) (r : Request)
  /-- Something else happens around it. -/
  | aside (f : World σ → World σ)

section Occasions

variable [Interpreter σ]

/-- One occasion: what was answered, if something was asked, and the scene after it. -/
def Scene.meet (s : Scene σ) : Occasion σ → Option (Except Failure Answer) × Scene σ
  | .ask env r => (some (r.perform.run env s).1, (r.perform.run env s).2)
  | .aside f => (none, ⟨s.session, f s.world⟩)

/-- One occasion after the other: what was answered, and the scene after them. -/
def Scene.follow (s : Scene σ) :
    List (Occasion σ) → List (Option (Except Failure Answer)) × Scene σ
  | [] => ([], s)
  | o :: os => ((s.meet o).1 :: ((s.meet o).2.follow os).1, ((s.meet o).2.follow os).2)

theorem Scene.meet_withPostponed (on : Bool) (s : Scene σ) (o : Occasion σ) :
    (s.withPostponed on).meet o = ((s.meet o).1, (s.meet o).2.withPostponed on) := by
  cases o with
  | ask env r => rw [meet, meet, indifferent_perform r on env s]
  | aside f => rfl

/-- Sessions that are the same but for that choice stay so, and answer alike. -/
theorem Scene.follow_withPostponed (on : Bool) (s : Scene σ) (os : List (Occasion σ)) :
    (s.withPostponed on).follow os = ((s.follow os).1, (s.follow os).2.withPostponed on) := by
  induction os generalizing s with
  | nil => rfl
  | cons o os ih => rw [follow, follow, meet_withPostponed, ih]

end Occasions

/-! ### Creating a session and starting it at once -/

namespace Session

variable [Interpreter σ]

/-- Create a session without a context, and then start it from the same thread. -/
def createThenStart (c : Settings) (env : Ambient) (w : World σ) : Except Failure Session × World σ :=
  match create (c.choose (.postponed true)) env w with
  | (.error e, w) => (.error e, w)
  | (.ok session, w) =>
    match start.run env ⟨session, w⟩ with
    | (.error e, s) => (.error e, s.world)
    | (.ok _, s) => (.ok s.session, s.world)

/-- Create a session with a context. -/
def createNow (c : Settings) (env : Ambient) (w : World σ) : Except Failure Session × World σ :=
  create (c.choose (.postponed false)) env w

/-- A start that failed leaves nothing to do for whoever throws the session away. -/
theorem world_discard_of_start_error {env : Ambient} {s s' : Scene σ} {e : Failure}
    (hs : s.session.phase = .fresh) (h : (start : Op σ Unit).run env s = (.error e, s'))
    (env' : Ambient) (w : World σ) :
    ((discard : Op σ Unit).run env' ⟨s'.session, w⟩).2.world = w := by
  have hnone : s'.session.tenure? = none := by
    rw [start, Op.run_bind_ok (Op.run_session _ _), hs] at h
    have hfailed := (attempt_acquire env s hs).failed e
    rw [h] at hfailed
    exact hfailed rfl
  obtain ⟨session, hclose, -, -⟩ := @close_idle σ _ env' ⟨s'.session, w⟩ hnone
  unfold discard Op.run at *
  dsimp only
  rw [hclose]

/-- What it comes to that the start of a session is postponed: it happens later, and that is all. -/
structure Postponement (c : Settings) (env : Ambient) (w : World σ) : Prop where
  /-- The same result or failure, with the same calls, and with the same registry, interpreter and
  log after it. -/
  started : createThenStart c env w =
    ((createNow c env w).1.map (withPostponed true), (createNow c env w).2)
  /-- Whatever either session is asked for later on, and whatever happens around it, it answers as
  the other one does and ends up where the other one does. -/
  later : ∀ s, (createNow c env w).1 = .ok s → ∀ w' os, ∃ answers s',
    (⟨s, w'⟩ : Scene σ).follow os = (answers, s') ∧
      (⟨s.withPostponed true, w'⟩ : Scene σ).follow os = (answers, s'.withPostponed true) ∧
      ∀ env', ((discard : Op σ Unit).run env' (s'.withPostponed true)).2.world =
        ((discard : Op σ Unit).run env' s').2.world
  /-- A session whose start failed is thrown away without any effect, whenever that is and whoever
  does it. -/
  failed : ∀ on e s,
    (start : Op σ Unit).run env ⟨fresh (c.choose (.postponed on)), w⟩ = (.error e, s) →
      ∀ env' w', ((discard : Op σ Unit).run env' ⟨s.session, w'⟩).2.world = w'

theorem createThenStart_eq (c : Settings) (env : Ambient) (w : World σ) :
    createThenStart c env w =
      ((createNow c env w).1.map (withPostponed true), (createNow c env w).2) := by
  unfold createThenStart createNow create
  by_cases hhosts : w.registry.hosts env.caller
  · rw [if_pos hhosts, if_pos hhosts]
    rfl
  · rw [if_neg hhosts, if_neg hhosts, Settings.postponed_choose, Settings.postponed_choose,
      if_pos rfl, if_neg Bool.false_ne_true]
    -- the session that waits for its start is the other one with the other choice
    have hstart := indifferent_start (σ := σ) true env ⟨fresh (c.choose (.postponed false)), w⟩
    rw [Scene.withPostponed, fresh_withPostponed] at hstart
    dsimp only at hstart ⊢
    rw [hstart]
    cases hrun : (start : Op σ Unit).run env ⟨fresh (c.choose (.postponed false)), w⟩ with
    | mk r s =>
        cases r with
        | ok u => rfl
        | error e =>
            have hworld := world_discard_of_start_error rfl hrun env s.world
            exact congrArg (Prod.mk _) hworld.symm

/-- Postponing the start of a session changes nothing but when it happens. -/
theorem postponing_exact (c : Settings) (env : Ambient) (w : World σ) : Postponement c env w where
  started := createThenStart_eq c env w
  later s _ w' os := by
    refine ⟨_, _, rfl, Scene.follow_withPostponed true ⟨s, w'⟩ os, fun env' => ?_⟩
    rw [indifferent_discard true env']
    rfl
  failed on e s h := world_discard_of_start_error rfl h

end Session

end PinnedSessions
