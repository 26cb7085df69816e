import Jukebox.Proofs.Scene
import Jukebox.Proofs.Spotify.Calls
import Jukebox.Proofs.Spotify.Contacts

/-!
# Jobs that share the tokens

Any number of jobs take turns on one session (`desk`), step by step: to send a request and to receive its answer
are two steps, and between them others may go on.  Only the lock around renewals makes a job wait; the locks of
the gateway, which only rule out some of the orders, are left out.

What matters of a job is its `Stance` with regard to the tokens.  Whatever is answered, a job takes the steps
that `May` allows, and is idle before and after each of its calls (`Job.follows`).
-/

namespace Jukebox

/-- The parts of an interpreted program are interpreted. -/
theorem Program.interpret_bind {I J : Interface} {α β : Type} (p : Program I α) (f : α → Program I β)
    (g : (r : I.Request) → Program J (I.Answer r)) :
    (p >>= f).interpret g = p.interpret g >>= fun a => (f a).interpret g := by
  induction p with
  | done a => rfl
  | ask r next ih =>
    show (g r).bind (fun x => (next x >>= f).interpret g) = ((g r).bind fun x => (next x).interpret g).bind _
    rw [bind_assoc]
    exact congrArg _ (funext fun x => ih x)

namespace Spotify

variable {α β : Type} {client : Client}

/-! ## Steps of jobs -/

/-- A step of a job under way. -/
inductive Move where
  /-- A step as it is; of a request, that its answer is received. -/
  | own (a : Action)
  | send (c : Http.Call)

/-- What a step answers. -/
def Move.Answer : Move → Type
  | .own a => a.Answer
  | .send _ => Unit

/-- The interface of jobs under way. -/
abbrev moves : Interface :=
  ⟨Move, Move.Answer⟩

/-- The steps of one action. -/
def Action.spread : (a : Action) → Program moves a.Answer
  | .exchange c => .ask (Move.send c) fun _ => .request (I := moves) (Move.own (.exchange c))
  | a => .request (I := moves) (Move.own a)

/-- All steps of a program. -/
def spread (p : Program interface α) : Program moves α :=
  p.interpret Action.spread

/-- All steps of an action of the gateway, but for its locks. -/
def attend (client : Client) : (a : Gateway.Action) → Program moves a.Answer
  | .call c => spread (steps client c)
  | .acquire _ | .release _ => pure ()

/-- All steps of a job. -/
def Job.moves (client : Client) (job : Job) : Program moves (Except Error job.Result) :=
  job.program.interpret (attend client)

/-- Answers a step; nothing is answered to a request that is only sent. -/
def Move.serve (now : Instant) : (m : Move) → Session → m.Answer × Session
  | .own a, s => Session.serve now a s
  | .send _, s => ((), s)

/-- The step takes the lock around renewals. -/
def Move.taken : Move → Option Unit
  | .own .acquire => some ()
  | _ => none

/-- The step gives the lock around renewals back. -/
def Move.freed : Move → Option Unit
  | .own .release => some ()
  | _ => none

/-- A session that jobs share, while the clock stands still. -/
abbrev desk (now : Instant) : Venue moves Session Job Unit where
  Result job := Except Error job.Result
  effect _ s := s
  program job s := job.moves s.client
  serve := Move.serve now
  takes := Move.taken
  frees := Move.freed

/-! ## Stances -/

/-- Where a job is with regard to the tokens. -/
inductive Stance where
  | idle
  /-- The token was sent and rejected. -/
  | rejected (value : String)
  /-- The lock was taken. -/
  | looking
  /-- No fresh token was found under the lock. -/
  | lapsed
  /-- Tokens were asked for. -/
  | asking
  /-- Tokens were issued. -/
  | issued (issue : Issue)
  /-- There is no more to do under the lock but to use another refresh token. -/
  | finishing

/-- The lock that a job holds. -/
def Stance.held : Stance → Option Unit
  | .idle | .rejected _ => none
  | .looking | .lapsed | .asking | .issued _ | .finishing => some ()

/-- A step that has to do neither with the lock nor with the tokens that are kept. -/
def Quiet (client : Client) : Move → Prop
  | .own .freshToken => True
  | .own (.exchange c) | .send c => c.authorization ≠ Contact.basic client
  | _ => False

/-- How a step takes a job from one stance to the next. -/
inductive May (client : Client) : Stance → Exchange moves → Stance → Prop
  | quiet {x : Exchange moves} (hx : Quiet client x.request) : May client .idle x .idle
  | rejects {c : Http.Call} {reply : Http.Reply} {value : String}
      (hc : c.authorization = Contact.bearer value) (hreply : IsRejection reply) :
      May client .idle ⟨.own (.exchange c), (some reply : Option Http.Reply)⟩ (.rejected value)
  | forgets {value : String} : May client (.rejected value) ⟨.own (.forget value), ()⟩ .idle
  | acquires : May client .idle ⟨.own .acquire, ()⟩ .looking
  | spares {value : String} :
      May client .looking ⟨.own .freshToken, (some value : Option String)⟩ .finishing
  | lapses : May client .looking ⟨.own .freshToken, (none : Option String)⟩ .lapsed
  | recalls {token : String} : May client .lapsed ⟨.own .refreshToken, (token : String)⟩ .lapsed
  | asks {c : Http.Call} (hc : c.authorization = Contact.basic client) :
      May client .lapsed ⟨.send c, ()⟩ .asking
  | refused {c : Http.Call} {reply : Option Http.Reply} (hc : c.authorization = Contact.basic client)
      (hreply : ∀ r issue, reply = some r → issueOf r ≠ .ok issue) :
      May client .asking ⟨.own (.exchange c), reply⟩ .finishing
  | issues {c : Http.Call} {reply : Http.Reply} {issue : Issue}
      (hc : c.authorization = Contact.basic client) (hreply : issueOf reply = .ok issue) :
      May client .asking ⟨.own (.exchange c), (some reply : Option Http.Reply)⟩ (.issued issue)
  | stores {issue : Issue} {stored : Bool} :
      May client (.issued issue)
        ⟨.own (.store issue.accessToken (issue.lifetime - margin)), (stored : Bool)⟩ .finishing
  | rotates {token : String} : May client .finishing ⟨.own (.rotate token), ()⟩ .finishing
  | releases : May client .finishing ⟨.own .release, ()⟩ .idle

/-! ## Jobs follow their stances -/

/-- All steps of a task are allowed, from the given stance on. -/
def Goes (client : Client) (task : Task α) (s : Stance) (ends : Stance → Except Fault α → Prop) : Prop :=
  (spread task.run).Follows (May client) ends s

theorem Goes.bind {task : Task α} {f : α → Task β} {s : Stance} {mid : Stance → Except Fault α → Prop}
    {ends : Stance → Except Fault β → Prop} (h : Goes client task s mid)
    (hok : ∀ s' a, mid s' (.ok a) → Goes client (f a) s' ends)
    (herror : ∀ s' e, mid s' (.error e) → ends s' (.error e)) : Goes client (task >>= f) s ends := by
  unfold Goes spread
  rw [ExceptT.run_bind, Program.interpret_bind]
  refine Program.Follows.bind h fun s' r hr => ?_
  cases r with
  | ok a => exact hok s' a hr
  | error e => exact herror s' e hr

/-- A task that takes no steps. -/
theorem goes_pure {task : Task α} {result : Except Fault α} (h : task.run = pure result) {s : Stance}
    {ends : Stance → Except Fault α → Prop} (hends : ends s result) : Goes client task s ends := by
  unfold Goes
  rw [h]
  exact hends

theorem goes_step {a : Action} (ha : a.spread = .request (I := moves) (Move.own a)) {s : Stance}
    {ends : Stance → Except Fault a.Answer → Prop}
    (h : ∀ x : a.Answer, ∃ s', May client s ⟨.own a, x⟩ s' ∧ ends s' (.ok x)) :
    Goes client (step a) s ends := by
  show (a.spread.bind _).Follows (May client) ends s
  rw [ha]
  exact h

/-- A step does not fail, so the task goes on with what is answered. -/
theorem goes_step_bind {a : Action} (ha : a.spread = .request (I := moves) (Move.own a)) {f : a.Answer → Task β}
    {s : Stance} {ends : Stance → Except Fault β → Prop}
    (h : ∀ x : a.Answer, ∃ s', May client s ⟨.own a, x⟩ s' ∧ Goes client (f x) s' ends) :
    Goes client (step a >>= f) s ends := by
  have hstep : Goes client (step a) s fun s' r => ∃ x, r = .ok x ∧ Goes client (f x) s' ends := by
    refine goes_step ha fun x => ?_
    obtain ⟨s', hmay, hrest⟩ := h x
    exact ⟨s', hmay, x, rfl, hrest⟩
  refine hstep.bind ?_ ?_
  · rintro s' a ⟨x, ⟨⟩, hrest⟩
    exact hrest
  · rintro s' e ⟨x, ⟨⟩, -⟩

/-- A request is sent, and its answer received. -/
theorem goes_exchange {c : Http.Call} {s s' : Stance} {ends : Stance → Except Fault Http.Reply → Prop}
    (hsend : May client s ⟨.send c, ()⟩ s')
    (hnone : ∃ s'', May client s' ⟨.own (.exchange c), (none : Option Http.Reply)⟩ s'' ∧
      ends s'' (.error (.network "no answer")))
    (hsome : ∀ reply, ∃ s'', May client s' ⟨.own (.exchange c), (some reply : Option Http.Reply)⟩ s'' ∧
      ends s'' (.ok reply)) : Goes client (exchange c) s ends := by
  show ∀ _ : Unit, _
  intro _
  refine ⟨s', hsend, fun reply => ?_⟩
  cases (reply : Option Http.Reply) with
  | none => exact hnone
  | some reply => exact hsome reply

/-- What follows the answer to a request to the API. -/
theorem goes_conclude {value : String} {reply : Http.Reply} {s : Stance}
    (hs : IsRejection reply ∧ s = .rejected value ∨ ¬ IsRejection reply ∧ s = .idle) :
    Goes client (conclude value reply) s fun s _ => s = .idle := by
  rcases conclude_cases value reply with ⟨hreject, heq⟩ | ⟨hkept, result, heq⟩
  · obtain ⟨-, rfl⟩ : _ ∧ s = .rejected value := hs.resolve_right fun h => h.1 hreject
    rw [heq]
    exact goes_step_bind rfl fun _ => ⟨.idle, .forgets, goes_pure rfl rfl⟩
  · obtain ⟨-, rfl⟩ : _ ∧ s = .idle := hs.resolve_left fun h => hkept h.1
    exact goes_pure heq rfl

/-- Where a job is when a request with a token was answered. -/
def AfterAnswer (value : String) (s : Stance) : Except Fault Http.Reply → Prop
  | .ok reply => IsRejection reply ∧ s = .rejected value ∨ ¬ IsRejection reply ∧ s = .idle
  | .error _ => s = .idle

theorem goes_exchange_api (client : Client) (r : ApiRequest) (value : String) :
    Goes client (exchange (r.withToken client.apiBase value)) .idle (AfterAnswer value) := by
  have hbearer : (r.withToken client.apiBase value).authorization = Contact.bearer value := rfl
  have hno : (r.withToken client.apiBase value).authorization ≠ Contact.basic client :=
    fun h => Contact.basic_ne_bearer client value h.symm
  refine goes_exchange (.quiet hno) ⟨.idle, .quiet hno, rfl⟩ fun reply => ?_
  by_cases hreject : IsRejection reply
  · exact ⟨.rejected value, .rejects hbearer hreject, Or.inl ⟨hreject, rfl⟩⟩
  · exact ⟨.idle, .quiet hno, Or.inr ⟨hreject, rfl⟩⟩

theorem goes_accessToken : Goes client accessToken .idle fun s _ => s = .idle := by
  refine goes_step_bind rfl fun token => ⟨.idle, .quiet (x := ⟨.own .freshToken, token⟩) trivial, ?_⟩
  cases (token : Option String) <;> exact goes_pure rfl rfl

/-- A request to the API. -/
theorem goes_send (client : Client) (r : ApiRequest) :
    Goes client (send client r) .idle fun s _ => s = .idle := by
  rw [send_eq]
  refine goes_accessToken.bind (fun s value hs => ?_) fun _ _ => id
  subst hs
  dsimp only
  split
  · exact goes_pure rfl rfl
  · exact (goes_exchange_api client r value).bind (fun s reply => goes_conclude) fun _ _ => id

/-! ### Renewals -/

/-- Where a job is when a request for tokens was answered. -/
def AfterIssue (s : Stance) : Except Fault Http.Reply → Prop
  | .ok reply => (∃ issue, issueOf reply = .ok issue ∧ s = .issued issue) ∨
      (∃ e, issueOf reply = .error e) ∧ s = .finishing
  | .error _ => s = .finishing

theorem goes_exchange_issue (client : Client) (token : String) :
    Goes client (exchange (issueRequest client token)) .lapsed AfterIssue := by
  have hbasic : (issueRequest client token).authorization = Contact.basic client := rfl
  refine goes_exchange (.asks hbasic) ⟨.finishing, .refused hbasic nofun, rfl⟩ fun reply => ?_
  cases hissue : issueOf reply with
  | ok issue => exact ⟨.issued issue, .issues hbasic hissue, Or.inl ⟨issue, hissue, rfl⟩⟩
  | error e =>
    refine ⟨.finishing, .refused hbasic fun r issue hr => ?_, Or.inr ⟨⟨e, hissue⟩, rfl⟩⟩
    cases hr
    rw [hissue]
    nofun

theorem goes_accept {reply : Http.Reply} {s : Stance} (hs : AfterIssue s (.ok reply)) :
    Goes client (accept reply) s fun s _ => s = .finishing := by
  unfold accept
  rcases hs with ⟨issue, hissue, rfl⟩ | ⟨⟨e, hissue⟩, rfl⟩
  · rw [hissue]
    refine goes_step_bind (a := .store _ _) rfl fun stored => ⟨.finishing, .stores, ?_⟩
    cases (stored : Bool) with
    | false => exact goes_pure rfl rfl
    | true =>
      cases hrotated : issue.refreshToken with
      | none => exact goes_pure rfl rfl
      | some token => exact goes_step (a := .rotate token) rfl fun _ => ⟨.finishing, .rotates, rfl⟩
  · rw [hissue]
    exact goes_pure rfl rfl

theorem goes_renew (client : Client) : Goes client (renew client) .lapsed fun s _ => s = .finishing := by
  rw [renew_eq]
  refine goes_step_bind rfl fun token => ⟨.lapsed, .recalls, ?_⟩
  exact (goes_exchange_issue client token).bind (fun s reply => goes_accept) fun _ _ => id

/-- What is done under the lock. -/
theorem goes_renewUnlessFresh (client : Client) :
    Goes client (renewUnlessFresh client) .looking fun s _ => s = .finishing := by
  refine goes_step_bind rfl fun token => ?_
  cases (token : Option String) with
  | none => exact ⟨.lapsed, .lapses, goes_renew client⟩
  | some value => exact ⟨.finishing, .spares, goes_pure rfl rfl⟩

theorem goes_refresh (client : Client) : Goes client (refresh client) .idle fun s _ => s = .idle := by
  have hrelease : ∀ result : Except Fault Unit,
      (spread (Program.request (I := interface) .release >>= fun _ => pure result)).Follows (May client)
        (fun s _ => s = .idle) .finishing := fun result _ => ⟨.idle, .releases, rfl⟩
  show ∀ _ : Unit, _
  intro _
  refine ⟨.looking, .acquires, ?_⟩
  show (spread ((renewUnlessFresh client).run >>= fun result =>
    Program.request (I := interface) .release >>= fun _ => pure result)).Follows (May client) _ _
  unfold spread
  rw [Program.interpret_bind]
  refine Program.Follows.bind (goes_renewUnlessFresh client) fun s result hs => ?_
  subst hs
  exact hrelease result

theorem follows_steps (client : Client) (c : Call) :
    (spread (steps client c)).Follows (May client) (fun s _ => s = .idle) .idle := by
  have hmap : ∀ {α β : Type} (f : α → β) {p : Program interface α},
      (spread p).Follows (May client) (fun s _ => s = .idle) .idle →
        (spread (f <$> p)).Follows (May client) (fun s _ => s = .idle) .idle := by
    intro α β f p h
    unfold spread
    rw [map_eq_pure_bind, Program.interpret_bind]
    exact Program.Follows.bind h fun s a hs => hs
  cases hr : request? c with
  | some r =>
    obtain ⟨answer, heq, -⟩ := steps_eq_map hr client
    rw [heq]
    exact hmap answer (goes_send client r)
  | none =>
    obtain rfl := request?_eq_none.1 hr
    rw [steps_refresh]
    exact hmap _ (goes_refresh client)

/-- Whatever is answered to a job, it is idle in the end. -/
theorem Job.follows (client : Client) (job : Job) :
    (job.moves client).Follows (May client) (fun s _ => s = .idle) .idle := by
  unfold moves
  induction job.program with
  | done r => rfl
  | ask a next ih =>
    have hattend : (attend client a).Follows (May client) (fun s _ => s = .idle) .idle := by
      cases a with
      | call c => exact follows_steps client c
      | acquire | release => rfl
    refine Program.Follows.bind hattend fun s x hs => ?_
    subst hs
    exact ih x

end Spotify
end Jukebox
