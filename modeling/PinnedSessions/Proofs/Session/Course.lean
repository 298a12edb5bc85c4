import PinnedSessions.Proofs.Session.Conduct

/-! # The course of a request

What can come of a request between the start and the end of a session, if the owner of a live
context makes it: the exchanges, the result and the scene that is left.

* `Request.flaw?` is what is wrong with the arguments, and `Request.errand?` the one call for which
  a request to run something or to pass a value is made.
* `LineBuffer.FeedCourse` lists what feeding a line can come to, and `Course` what every request can
  (`course_perform`). Whatever else holds of all requests is read off a `Course`. -/

namespace PinnedSessions

variable {σ α : Type}

/-! ### One call -/

namespace Line

variable [Interpreter σ] (l : Line σ) (env : Ambient) (c : Call)

/-- The exchange that a call comes to. -/
def exchange : Exchange := ⟨env.caller, c, (l.call env.files env.caller c).1⟩

/-- The line after a call. -/
def next : Line σ := (l.call env.files env.caller c).2

@[simp] theorem exchanges_next :
    (l.next env c).exchanges = l.exchanges ++ [l.exchange env c] := rfl

variable {l env c} {reply : c.Reply} {l' : Line σ}

theorem next_of_call (h : l.call env.files env.caller c = (reply, l')) : l.next env c = l' :=
  congrArg Prod.snd h

theorem fault?_of_call (h : l.call env.files env.caller c = (reply, l')) :
    (l.exchange env c).fault? = c.fault? reply := by
  rw [Exchange.fault?, exchange, h]

end Line

/-! ### Feeding a line -/

namespace LineBuffer

variable [Interpreter σ] (env : Ambient) (ctx : Handle)

/-- What running a text comes to. -/
inductive RunCourse (text : String) (b : LineBuffer) (l : Line σ) :
    List Exchange → Except Failure Outcome → LineBuffer → Line σ → Prop
  | failed {e : GuestFault} (hx : (l.exchange env (.run ctx text)).fault? = some e) :
      RunCourse text b l [l.exchange env (.run ctx text)] (.error (.ofGuest e)) b.clear
        (l.next env (.run ctx text))
  | done (hx : (l.exchange env (.run ctx text)).fault? = none) :
      RunCourse text b l [l.exchange env (.run ctx text)] (.ok .ran) b (l.next env (.run ctx text))

/-- What feeding a line comes to. -/
inductive FeedCourse (line : Option String) (b : LineBuffer) (l : Line σ) :
    List Exchange → Except Failure Outcome → LineBuffer → Line σ → Prop
  | idle (hline : content? line = none) (hb : b.interactive = false ∨ b.pending = none) :
      FeedCourse line b l [] (.ok .idle) b l
  | flushed {text : String} {xs : List Exchange} {r : Except Failure Outcome} {b' : LineBuffer}
      {l' : Line σ} (hline : content? line = none) (hi : b.interactive = true)
      (hp : b.pending = some text) (hr : RunCourse env ctx text b.clear l xs r b' l') :
      FeedCourse line b l xs r b' l'
  | direct {text : String} {xs : List Exchange} {r : Except Failure Outcome} {b' : LineBuffer}
      {l' : Line σ} (hline : content? line = some text) (hi : b.interactive = false)
      (hr : RunCourse env ctx text b l xs r b' l') : FeedCourse line b l xs r b' l'
  | joined {text statement : String} (hline : content? line = some text) (hi : b.interactive = true)
      (hp : b.pending = some statement) : FeedCourse line b l [] (.ok .held) (b.hold text) l
  /-- A first line cannot be probed. -/
  | unclear {text : String} {e : GuestFault} (hline : content? line = some text)
      (hi : b.interactive = true) (hp : b.pending = none)
      (hx : (l.exchange env (.probe ctx text)).fault? = some e) :
      FeedCourse line b l [l.exchange env (.probe ctx text)] (.error (.ofGuest e)) b.clear
        (l.next env (.probe ctx text))
  | incomplete {text : String} (hline : content? line = some text) (hi : b.interactive = true)
      (hp : b.pending = none) (hx : (l.exchange env (.probe ctx text)).fault? = none) :
      FeedCourse line b l [l.exchange env (.probe ctx text)] (.ok .held) (b.hold text)
        (l.next env (.probe ctx text))
  | complete {text : String} {xs : List Exchange} {r : Except Failure Outcome} {b' : LineBuffer}
      {l' : Line σ} (hline : content? line = some text) (hi : b.interactive = true)
      (hp : b.pending = none) (hx : (l.exchange env (.probe ctx text)).fault? = none)
      (hr : RunCourse env ctx text b (l.next env (.probe ctx text)) xs r b' l') :
      FeedCourse line b l (l.exchange env (.probe ctx text) :: xs) r b' l'

variable {env ctx} {text : String} {line : Option String} {b b' : LineBuffer} {l l' : Line σ}
  {xs : List Exchange} {r : Except Failure Outcome}

theorem RunCourse.exchanges (h : RunCourse env ctx text b l xs r b' l') :
    l'.exchanges = l.exchanges ++ xs := by
  cases h <;> rfl

theorem FeedCourse.exchanges (h : FeedCourse env ctx line b l xs r b' l') :
    l'.exchanges = l.exchanges ++ xs := by
  cases h with
  | idle | joined => exact (List.append_nil _).symm
  | flushed _ _ _ hr | direct _ _ hr => exact hr.exchanges
  | unclear | incomplete => rfl
  | complete _ _ _ _ hr =>
      rw [hr.exchanges, Line.exchanges_next, List.append_assoc, List.singleton_append]

/-- Feeding a line fails only for a fault of the interpreter. -/
theorem FeedCourse.error {e : Failure} (h : FeedCourse env ctx line b l xs (.error e) b' l') :
    ∃ fault, e = .ofGuest fault := by
  have hran : ∀ {text : String} {b : LineBuffer} {l : Line σ} {xs : List Exchange},
      RunCourse env ctx text b l xs (.error e) b' l' → ∃ fault, e = .ofGuest fault := by
    intro text b l xs hr
    cases hr
    exact ⟨_, rfl⟩
  cases h with
  | flushed _ _ _ hr | direct _ _ hr | complete _ _ _ _ hr => exact hran hr
  | unclear => exact ⟨_, rfl⟩

theorem runCourse_runNow (env : Ambient) (ctx : Handle) (text : String) (b : LineBuffer)
    (l : Line σ) {p : Except Failure Outcome × LineBuffer × Line σ}
    (h : runNow (Session.sink env ctx) text b l = p) :
    ∃ xs, RunCourse env ctx text b l xs p.1 p.2.1 p.2.2 := by
  subst h
  unfold runNow Session.sink
  dsimp only
  cases hcall : l.call env.files env.caller (.run ctx text) with
  | mk reply l' =>
      have hx := Line.fault?_of_call hcall
      obtain rfl := Line.next_of_call hcall
      cases reply with
      | ok u => exact ⟨_, .done hx⟩
      | error e => exact ⟨_, .failed hx⟩

theorem feedCourse_feed (env : Ambient) (ctx : Handle) (line : Option String) (b : LineBuffer)
    (l : Line σ) : ∃ xs, FeedCourse env ctx line b l xs (feed (Session.sink env ctx) line b l).1
      (feed (Session.sink env ctx) line b l).2.1 (feed (Session.sink env ctx) line b l).2.2 := by
  unfold feed
  cases hline : content? line with
  | none =>
      dsimp only
      unfold flush
      split
      · next statement hi hp =>
        obtain ⟨xs, hr⟩ := runCourse_runNow env ctx statement b.clear l rfl
        exact ⟨xs, .flushed hline hi hp hr⟩
      · next hn =>
        refine ⟨[], .idle hline ?_⟩
        cases hi : b.interactive with
        | false => exact .inl rfl
        | true =>
            cases hp : b.pending with
            | none => exact .inr rfl
            | some statement => exact absurd hp (hn statement hi)
  | some text =>
      dsimp only
      unfold take
      split
      · next hi =>
        obtain ⟨xs, hr⟩ := runCourse_runNow env ctx text b l rfl
        exact ⟨xs, .direct hline hi hr⟩
      · next statement hi hp => exact ⟨[], .joined hline hi hp⟩
      · next hi hp =>
        unfold Session.sink
        dsimp only
        cases hcall : l.call env.files env.caller (.probe ctx text) with
        | mk reply l' =>
            have hx := Line.fault?_of_call hcall
            obtain rfl := Line.next_of_call hcall
            cases reply with
            | error e => exact ⟨_, .unclear hline hi hp hx⟩
            | ok status =>
                cases status with
                | incomplete => exact ⟨_, .incomplete hline hi hp hx⟩
                | complete =>
                    obtain ⟨xs, hr⟩ :=
                      runCourse_runNow env ctx text b (l.next env (.probe ctx text)) rfl
                    exact ⟨_, .complete hline hi hp hx hr⟩

end LineBuffer

/-! ### Requests -/

namespace Request

/-- What is wrong with the arguments of a request. -/
def flaw? : Request → Option ArgumentFault
  | .apply name _ _ => if Text.isBlank name then some .functionName else none
  | .read _ name | .readBytes name | .bind name _ _ =>
    if Text.isBlank name then some .variableName else none
  | .runFile path | .runFileWith path _ => if path = "" then some .scriptPath else none
  | _ => none

/-- The call for which a request is made, if it is made for one. -/
def errand? (ctx : Handle) : Request → Option Call
  | .apply name args kwargs => some (.apply ctx name args kwargs)
  | .runFile path => some (.runFile ctx path)
  | .read t name => some (.read ctx name t.kind)
  | .readBytes name => some (.readBytes ctx name)
  | .bind name source x => some (.bind ctx name (source.inject x))
  | _ => none

end Request

/-- The scene with another session, line and log. -/
def Scene.onward (s : Scene σ) (session : Session) (line : Line σ) (log : List Event) :
    Scene σ :=
  ⟨session, ⟨line, s.world.registry, log⟩⟩

/-- What a request between the start and the end of a session can come to for the owner of the live
context `ctx`: the exchanges, the result, and the scene that it leaves. -/
inductive Course [Interpreter σ] (env : Ambient) (ctx : Handle) :
    Request → Scene σ → List Exchange → Except Failure Answer → Scene σ → Prop
  /-- Something is wrong with an argument, and nothing is done. -/
  | malformed {r : Request} {s : Scene σ} {c : Call} {fault : ArgumentFault}
      (hc : r.errand? ctx = some c) (hf : r.flaw? = some fault) :
      Course env ctx r s [] (.error (.badArgument fault)) s
  | unreadable {path : String} {s : Scene σ} (hf : path ≠ "")
      (hpath : env.files.isFile path = false) :
      Course env ctx (.runFile path) s [] (.error (.unreadable path)) s
  | failed {r : Request} {s : Scene σ} {c : Call} {e : GuestFault} (hc : r.errand? ctx = some c)
      (hf : r.flaw? = none) (hx : (s.world.line.exchange env c).fault? = some e)
      (log : List Event) :
      Course env ctx r s [s.world.line.exchange env c] (.error (.ofGuest e))
        (s.onward s.session (s.world.line.next env c) log)
  /-- The call is answered, and what comes of the answer is the host's business. -/
  | answered {r : Request} {s : Scene σ} {c : Call} {res : Except Failure Answer}
      (hc : r.errand? ctx = some c) (hf : r.flaw? = none)
      (hx : (s.world.line.exchange env c).fault? = none)
      (hres : ∀ e, res = .error e → ∃ fault, e = .noConversion (.host fault))
      (held : HeldObjects) (log : List Event) :
      Course env ctx r s [s.world.line.exchange env c] res
        (s.onward { s.session with held := held } (s.world.line.next env c) log)
  /-- The resolver is in use already. -/
  | unchanged {resolver : Resolver} {s : Scene σ}
      (hs : s.session.resolver.any (·.same resolver) = true) :
      Course env ctx (.useResolver resolver) s [] (.ok .done) s
  | replaced {resolver : Resolver} {s : Scene σ}
      (hs : s.session.resolver.any (·.same resolver) = false) (log : List Event) :
      Course env ctx (.useResolver resolver) s
        [s.world.line.exchange env (.useResolver ctx resolver)] (.ok .done)
        (s.onward { s.session with resolver := some resolver }
          (s.world.line.next env (.useResolver ctx resolver)) log)
  | both {path : String} {resolver : Resolver} {s s' s'' : Scene σ} {xs ys : List Exchange}
      {res : Except Failure Answer} (h : Course env ctx (.useResolver resolver) s xs (.ok .done) s')
      (h' : Course env ctx (.runFile path) s' ys res s'') :
      Course env ctx (.runFileWith path resolver) s (xs ++ ys) res s''
  | switched {s : Scene σ} (interactive : Bool) (log : List Event) :
      Course env ctx (.switchMode interactive) s [] (.ok .done)
        (s.onward { s.session with buffer := (s.session.buffer.switchMode interactive).2 }
          s.world.line log)
  | fed {line : Option String} {s : Scene σ} {xs : List Exchange} {res : Except Failure Outcome}
      {buffer : LineBuffer} {l : Line σ}
      (h : LineBuffer.FeedCourse env ctx line s.session.buffer s.world.line xs res buffer l)
      (log : List Event) :
      Course env ctx (.evaluate line) s xs (res.map .outcome)
        (s.onward { s.session with buffer := buffer } l log)

/-- The resolver in use once another one is asked for: an object that is in use stays in use. -/
def Resolver.swap (used : Option Resolver) (resolver : Resolver) : Option Resolver :=
  if used.any (·.same resolver) then used else some resolver

namespace Course

variable [Interpreter σ] {env : Ambient} {ctx : Handle} {r : Request} {s s' : Scene σ}
  {xs : List Exchange} {res : Except Failure Answer}

theorem exchanges (h : Course env ctx r s xs res s') :
    s'.world.line.exchanges = s.world.line.exchanges ++ xs := by
  induction h with
  | malformed | unreadable | unchanged | switched => exact (List.append_nil _).symm
  | failed | answered | replaced => rfl
  | both h h' ih ih' => rw [ih', ih, List.append_assoc]
  | fed h log => exact h.exchanges

theorem registry (h : Course env ctx r s xs res s') : s'.world.registry = s.world.registry := by
  induction h with
  | both h h' ih ih' => rw [ih', ih]
  | _ => rfl

theorem phase (h : Course env ctx r s xs res s') : s'.session.phase = s.session.phase := by
  induction h with
  | both h h' ih ih' => rw [ih', ih]
  | _ => rfl

/-- Replacing the resolver changes nothing else of the session. -/
theorem session_useResolver {resolver : Resolver}
    (h : Course env ctx (.useResolver resolver) s xs res s') :
    s'.session = { s.session with resolver := Resolver.swap s.session.resolver resolver } := by
  cases h with
  | malformed hc => cases hc
  | failed hc => cases hc
  | answered hc => cases hc
  | unchanged hs => rw [Resolver.swap, if_pos hs]
  | replaced hs => rw [Resolver.swap, if_neg (by simp [hs]), Scene.onward]

end Course

/-! ### Every request takes its course -/

/-- What is made of an answer: its fault, if it has one, is told; otherwise an object in it may be
kept, and the host may refuse it. -/
def Op.Concludes (o : Option GuestFault) (op : Op σ α) : Prop :=
  ∀ env s, match o with
    | some e => op.run env s = (.error (.ofGuest e), s)
    | none => ∃ res held, op.run env s = (res, ⟨{ s.session with held := held }, s.world⟩) ∧
        ∀ e, res = .error e → ∃ fault, e = .noConversion (.host fault)

theorem Op.Concludes.congr {o o' : Option GuestFault} {op : Op σ α} (h : op.Concludes o)
    (ho : o = o') : op.Concludes o' := ho ▸ h

theorem Op.Concludes.ofReply (r : Except GuestFault α) :
    (Op.ofReply r : Op σ α).Concludes (match r with | .ok _ => none | .error e => some e) := by
  intro env s
  cases r with
  | error e => rfl
  | ok a => exact ⟨.ok a, s.session.held, rfl, nofun⟩

/-- A value in an answer is kept, and then the host makes of it what it can. -/
theorem Op.Concludes.keep (r : Except GuestFault Value) {f : Value → Op σ α}
    (hf : ∀ v env s, ∃ res, (f v).run env s = (res, s) ∧
      ∀ e, res = .error e → ∃ fault, e = .noConversion (.host fault)) :
    (Op.ofReply r >>= fun v =>
      (Op.modify fun s => { s with held := s.held.keep v }) >>= fun _ => f v : Op σ α).Concludes
        (match r with | .ok _ => none | .error e => some e) := by
  intro env s
  cases r with
  | error e => rfl
  | ok v =>
      obtain ⟨res, hrun, hres⟩ := hf v env ⟨{ s.session with held := s.session.held.keep v },
        s.world⟩
      exact ⟨res, s.session.held.keep v, hrun, hres⟩

section Courses

variable [Interpreter σ] {env : Ambient} {ctx : Handle} {s : Scene σ}

/-- A request that is made for one call takes its course from that call on. -/
theorem course_errand {r : Request} {c : Call} (hc : r.errand? ctx = some c) (hf : r.flaw? = none)
    {f : c.Reply → Op σ α} (hreply : ∀ reply, (f reply).Concludes (c.fault? reply))
    (tell : α → Answer) (log : List Event) :
    ∃ xs, Course env ctx r s xs
      (((Op.call c >>= f).run env ⟨s.session, { s.world with log := log }⟩).1.map tell)
      ((Op.call c >>= f).run env ⟨s.session, { s.world with log := log }⟩).2 := by
  have h := hreply (s.world.line.call env.files env.caller c).1 env
    (s.onward s.session (s.world.line.next env c) log)
  have hrun : (Op.call c >>= f).run env ⟨s.session, { s.world with log := log }⟩ =
      (f (s.world.line.call env.files env.caller c).1).run env
        (s.onward s.session (s.world.line.next env c) log) :=
    Op.run_bind_ok (Op.run_call _ _ _)
  rw [hrun]
  cases hx : c.fault? (s.world.line.call env.files env.caller c).1 with
  | some e =>
      rw [hx] at h
      dsimp only at h
      rw [h]
      exact ⟨_, .failed hc hf hx log⟩
  | none =>
      rw [hx] at h
      obtain ⟨res, held, h, hres⟩ := h
      rw [h]
      refine ⟨_, .answered hc hf hx (fun e he => ?_) held log⟩
      cases res with
      | ok a => cases he
      | error e' =>
          cases he
          exact hres e rfl

theorem course_apply (hp : s.session.phase = .live env.caller ctx) (name : String)
    (args : List Value) (kwargs : Option Kwargs) :
    ∃ xs, Course env ctx (.apply name args kwargs) s xs
      (((Session.apply name args kwargs).run env s).1.map .value)
      ((Session.apply name args kwargs).run env s).2 := by
  rw [Session.apply, Op.run_bind_ok (Session.context_live hp)]
  by_cases hb : Text.isBlank name = true
  · rw [if_pos hb]
    exact ⟨[], .malformed rfl (if_pos hb)⟩
  · rw [if_neg hb]
    refine course_errand (r := .apply name args kwargs) rfl (if_neg hb) (fun reply => ?_) _ _
    refine (Op.Concludes.keep reply fun v env s => ⟨.ok v, rfl, nofun⟩).congr ?_
    cases reply <;> rfl

theorem course_runFile (hp : s.session.phase = .live env.caller ctx) (path : String) :
    ∃ xs, Course env ctx (.runFile path) s xs
      (((Session.runFile path).run env s).1.map fun _ => .done)
      ((Session.runFile path).run env s).2 := by
  rw [Session.runFile, Op.run_bind_ok (Session.context_live hp)]
  by_cases he : path = ""
  · rw [if_pos he]
    exact ⟨[], .malformed rfl (if_pos he)⟩
  · rw [if_neg he, Op.run_bind_ok (Op.run_files _ _)]
    cases hpath : env.files.isFile path with
    | false => exact ⟨[], .unreadable he hpath⟩
    | true =>
        rw [if_neg (by simp), Op.run_bind_ok (Op.run_log _ _ _)]
        refine course_errand (r := .runFile path) rfl (if_neg he) (fun reply => ?_) _ _
        refine (Op.Concludes.ofReply reply).congr ?_
        cases reply <;> rfl

theorem course_useResolver (hp : s.session.phase = .live env.caller ctx) (resolver : Resolver) :
    ∃ xs s', (Session.useResolver resolver).run env s = (.ok (), s') ∧
      Course env ctx (.useResolver resolver) s xs (.ok .done) s' := by
  rw [Session.useResolver, Op.run_bind_ok (Session.context_live hp),
    Op.run_bind_ok (Op.run_session _ _)]
  cases hs : s.session.resolver.any (·.same resolver) with
  | true => exact ⟨[], s, rfl, .unchanged hs⟩
  | false => exact ⟨_, _, rfl, .replaced hs _⟩

theorem course_runFileWith (hp : s.session.phase = .live env.caller ctx) (path : String)
    (resolver : Resolver) :
    ∃ xs, Course env ctx (.runFileWith path resolver) s xs
      (((Session.runFileWith path resolver).run env s).1.map fun _ => .done)
      ((Session.runFileWith path resolver).run env s).2 := by
  obtain ⟨xs, s', hrun, h⟩ := course_useResolver hp resolver
  obtain ⟨ys, h'⟩ := course_runFile (h.phase.trans hp) path
  rw [Session.runFileWith, Op.run_bind_ok hrun]
  exact ⟨xs ++ ys, .both h h'⟩

theorem course_read (hp : s.session.phase = .live env.caller ctx) (t : Target) (name : String) :
    ∃ xs, Course env ctx (.read t name) s xs
      (((Session.read t name).run env s).1.map fun x => .value (t.inject x))
      ((Session.read t name).run env s).2 := by
  rw [Session.read, Session.variableContext_bind, Op.run_bind_ok (Session.context_live hp)]
  by_cases hb : Text.isBlank name = true
  · rw [if_pos hb]
    exact ⟨[], .malformed rfl (if_pos hb)⟩
  · rw [if_neg hb]
    refine course_errand (r := .read t name) rfl (if_neg hb) (fun reply => ?_) _ _
    refine (Op.Concludes.keep reply fun v env s => ?_).congr ?_
    · cases t.extract v with
      | ok x => exact ⟨.ok x, rfl, nofun⟩
      | error fault => exact ⟨_, rfl, fun e he => ⟨fault, (Except.error.inj he).symm⟩⟩
    · cases reply <;> rfl

theorem course_readBytes (hp : s.session.phase = .live env.caller ctx) (name : String) :
    ∃ xs, Course env ctx (.readBytes name) s xs
      (((Session.readBytes name).run env s).1.map .bytes)
      ((Session.readBytes name).run env s).2 := by
  rw [Session.readBytes, Session.variableContext_bind, Op.run_bind_ok (Session.context_live hp)]
  by_cases hb : Text.isBlank name = true
  · rw [if_pos hb]
    exact ⟨[], .malformed rfl (if_pos hb)⟩
  · rw [if_neg hb]
    refine course_errand (r := .readBytes name) rfl (if_neg hb) (fun reply => ?_) _ _
    refine (Op.Concludes.ofReply reply).congr ?_
    cases reply <;> rfl

theorem course_bind (hp : s.session.phase = .live env.caller ctx) (name : String) (source : Source)
    (x : source.Carrier) :
    ∃ xs, Course env ctx (.bind name source x) s xs
      (((Session.bind name source x).run env s).1.map fun _ => .done)
      ((Session.bind name source x).run env s).2 := by
  rw [Session.bind, Session.variableContext_bind, Op.run_bind_ok (Session.context_live hp)]
  by_cases hb : Text.isBlank name = true
  · rw [if_pos hb]
    exact ⟨[], .malformed rfl (if_pos hb)⟩
  · rw [if_neg hb]
    dsimp only
    rw [Op.run_bind_ok (Op.run_log _ _ _)]
    refine course_errand (r := .bind name source x) rfl (if_neg hb) (fun reply => ?_) _ _
    refine (Op.Concludes.ofReply reply).congr ?_
    cases reply <;> rfl

theorem course_switchMode (hp : s.session.phase = .live env.caller ctx) (interactive : Bool) :
    ∃ xs, Course env ctx (.switchMode interactive) s xs
      (((Session.switchMode interactive).run env s).1.map fun _ => .done)
      ((Session.switchMode interactive).run env s).2 := by
  rw [Session.switchMode, Op.run_bind_ok (Session.context_live hp),
    Op.run_bind_ok (Op.run_session _ _)]
  dsimp only
  rw [Op.run_bind_ok (Op.run_modify _ _ _)]
  split
  · exact ⟨[], .switched interactive _⟩
  · exact ⟨[], .switched interactive _⟩

theorem course_evaluate (hp : s.session.phase = .live env.caller ctx) (line : Option String) :
    ∃ xs, Course env ctx (.evaluate line) s xs
      (((Session.evaluate line).run env s).1.map .outcome)
      ((Session.evaluate line).run env s).2 := by
  obtain ⟨xs, h⟩ := LineBuffer.feedCourse_feed env ctx line s.session.buffer s.world.line
  have hfeed : (Session.feed ctx line : Op σ Outcome).run env s =
      ((s.session.buffer.feed (Session.sink env ctx) line s.world.line).1,
        s.onward { s.session with
            buffer := (s.session.buffer.feed (Session.sink env ctx) line s.world.line).2.1 }
          (s.session.buffer.feed (Session.sink env ctx) line s.world.line).2.2 s.world.log) := rfl
  rw [Session.evaluate, Op.run_bind_ok (Session.context_live hp)]
  cases hres : (s.session.buffer.feed (Session.sink env ctx) line s.world.line).1 with
  | error e =>
      rw [hres] at h hfeed
      rw [Op.run_bind_error hfeed]
      exact ⟨xs, .fed h _⟩
  | ok outcome =>
      rw [hres] at h hfeed
      rw [Op.run_bind_ok hfeed]
      by_cases ho : outcome = .held
      · rw [if_pos ho]
        exact ⟨xs, .fed h _⟩
      · rw [if_neg ho]
        exact ⟨xs, .fed h _⟩

/-- Every request between the start and the end of a session takes its course. -/
theorem course_perform {r : Request} (hr : r.isBoundary = false)
    (hp : s.session.phase = .live env.caller ctx) :
    ∃ xs, Course env ctx r s xs ((r.perform : Op σ Answer).run env s).1
      ((r.perform : Op σ Answer).run env s).2 := by
  cases r with
  | start => cases hr
  | close => cases hr
  | evaluate line =>
      rw [Request.perform, Op.result_telling, Op.run_telling]
      exact course_evaluate hp line
  | apply name args kwargs =>
      rw [Request.perform, Op.result_telling, Op.run_telling]
      exact course_apply hp name args kwargs
  | runFile path =>
      rw [Request.perform, Request.silent, Op.result_telling, Op.run_telling]
      exact course_runFile hp path
  | runFileWith path resolver =>
      rw [Request.perform, Request.silent, Op.result_telling, Op.run_telling]
      exact course_runFileWith hp path resolver
  | useResolver resolver =>
      obtain ⟨xs, s', hrun, h⟩ := course_useResolver hp resolver
      rw [Request.perform, Request.silent, Op.result_telling, Op.run_telling, hrun]
      exact ⟨xs, h⟩
  | read t name =>
      rw [Request.perform, Op.result_telling, Op.run_telling]
      exact course_read hp t name
  | readBytes name =>
      rw [Request.perform, Op.result_telling, Op.run_telling]
      exact course_readBytes hp name
  | bind name source x =>
      rw [Request.perform, Request.silent, Op.result_telling, Op.run_telling]
      exact course_bind hp name source x
  | switchMode interactive =>
      rw [Request.perform, Request.silent, Op.result_telling, Op.run_telling]
      exact course_switchMode hp interactive

/-- A request is refused by the gate, takes its course, or starts or ends the session. -/
theorem perform_cases (r : Request) (env : Ambient) (s : Scene σ) :
    (∃ e, s.session.gate env.caller = .error e ∧
      (r.perform : Op σ Answer).run env s = (.error e, s)) ∨
    (∃ ctx xs, r.isBoundary = false ∧ s.session.phase = .live env.caller ctx ∧
      Course env ctx r s xs ((r.perform : Op σ Answer).run env s).1
        ((r.perform : Op σ Answer).run env s).2) ∨
    (r = .start ∧ ((r.perform : Op σ Answer).run env s).2 =
      ((Session.start : Op σ Unit).run env s).2) ∨
    (r = .close ∧ ((r.perform : Op σ Answer).run env s).2 =
      ((Session.close : Op σ Unit).run env s).2) := by
  cases hr : r.isBoundary with
  | false =>
      rcases s.session.gate_cases env.caller with ⟨ctx, hp⟩ | ⟨e, he⟩
      · obtain ⟨xs, h⟩ := course_perform hr hp
        exact .inr (.inl ⟨ctx, xs, rfl, hp, h⟩)
      · exact .inl ⟨e, he, (guarded_perform hr).shut env s e he⟩
  | true =>
      cases r with
      | start => exact .inr (.inr (.inl ⟨rfl, Op.run_telling _ _ env s⟩))
      | close => exact .inr (.inr (.inr ⟨rfl, Op.run_telling _ _ env s⟩))
      | evaluate | apply | runFile | runFileWith | useResolver | read | readBytes | bind
      | switchMode => cases hr

end Courses

end PinnedSessions
