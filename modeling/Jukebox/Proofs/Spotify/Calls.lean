import Jukebox.Gateway
import Jukebox.Proofs.Trace
import Jukebox.Spotify

/-!
# What calls to Spotify are made of

A call that does not renew the tokens makes one request to the API and reads the answer (`steps_eq_map`).
Reading takes no steps, so all that happens in such a call happens in `send`, and a request that fails makes
the call fail.  What follows an answer is at most that the token that was sent is forgotten
(`conclude_cases`).

A call that renews the tokens is `refresh`; the tokens in an answer are taken up in `accept`.
-/

namespace Jukebox.Spotify

variable {α β : Type} {client : Client} {r : ApiRequest}

/-! ## The answer to a request -/

theorem ofAnswer_eq_unauthorized {status : Nat} {body : String} :
    Fault.ofAnswer status body = .unauthorized ↔ status = 401 := by
  unfold Fault.ofAnswer
  dsimp only
  constructor
  · intro h
    split at h
    · assumption
    · split at h
      · cases h
      · split at h <;> cases h
  · intro h
    rw [if_pos h]

/-- What is made of an answer to a request that carried the token. -/
def conclude (token : String) (reply : Http.Reply) : Task (Option String) := do
  let body ← bodyOf reply
  if reply.status = 204 then pure none
  else if reply.isSuccess then
    pure (if (Text.trim body.toList).isEmpty then none else some body)
  else
    let fault := Fault.ofAnswer reply.status body
    if fault = .unauthorized then step (.forget token)
    throw fault

theorem send_eq (client : Client) (r : ApiRequest) : send client r = (do
    let token ← accessToken
    if !isSendable token then throw (.network "the access token cannot be sent")
    let reply ← exchange (r.withToken client.apiBase token)
    conclude token reply) := rfl

/-- The answer says that the token was rejected, and all of it came. -/
def IsRejection (reply : Http.Reply) : Prop :=
  reply.status = 401 ∧ reply.body ≠ none

/-- A rejected token is forgotten; other answers take no more steps. -/
theorem conclude_cases (token : String) (reply : Http.Reply) :
    (IsRejection reply ∧ conclude token reply = (do step (.forget token); throw .unauthorized)) ∨
    (¬ IsRejection reply ∧ ∃ result, (conclude token reply).run = pure result) := by
  unfold conclude bodyOf IsRejection Http.Reply.text?
  cases reply.body with
  | none => exact Or.inr ⟨fun h => h.2 rfl, _, rfl⟩
  | some bytes =>
    dsimp only [Option.map_some]
    by_cases hstatus : reply.status = 401
    · have hfailure : reply.isSuccess = false := by simp [Http.Reply.isSuccess, hstatus]
      refine Or.inl ⟨⟨hstatus, nofun⟩, ?_⟩
      simp only [pure_bind, hstatus, hfailure, ofAnswer_eq_unauthorized, if_true]
      rfl
    · refine Or.inr ⟨fun h => hstatus h.1, ?_⟩
      simp only [pure_bind, ofAnswer_eq_unauthorized, hstatus, if_false]
      split
      · exact ⟨_, rfl⟩
      · split <;> exact ⟨_, rfl⟩

/-- What is made of an answer to a request for tokens. -/
def accept (reply : Http.Reply) : Task Unit := do
  let issue ← ofExcept (issueOf reply)
  let stored ← step (.store issue.accessToken (issue.lifetime - margin))
  if !(stored : Bool) then throw .endlessLifetime
  match issue.refreshToken with
  | some token => step (.rotate token)
  | none => pure ()

theorem renew_eq (client : Client) : renew client = (do
    let refreshToken ← step .refreshToken
    let reply ← exchange (issueRequest client refreshToken)
    accept reply) := rfl

/-- What is done under the lock. -/
def renewUnlessFresh (client : Client) : Task Unit := do
  match (← step .freshToken : Option String) with
  | some _ => pure ()
  | none => renew client

/-- Of the stored token only the rejected one is forgotten. -/
theorem Session.forget_eq (s : Session) (rejected : String) :
    s.forget rejected = { s with token := s.token.filter fun token => decide (token.value ≠ rejected) } := by
  obtain ⟨client, token, refreshToken, web, broken⟩ := s
  cases token with
  | none => rfl
  | some token =>
    unfold forget
    by_cases h : token.value = rejected <;> simp [h, Option.filter]

/-- The clock decides whether a token is stored. -/
theorem Session.serve_store (now : Instant) (value : String) (seconds : Nat) (s : Session) :
    Session.serve now (.store value seconds) s =
      match now.addSeconds? seconds with
      | some time => (true, { s with token := some ⟨value, time⟩ })
      | none => (false, { s with broken := true }) := rfl

/-! ## One request -/

/-- The task makes the request, and nothing else but to read the answer. -/
def Reads (client : Client) (r : ApiRequest) (task : Task α) : Prop :=
  ∃ read : Except Fault (Option String) → Except Fault α,
    task.run = read <$> (send client r).run ∧ ∀ e, read (.error e) = .error e

theorem reads_send : Reads client r (send client r) :=
  ⟨id, (id_map _).symm, fun _ => rfl⟩

/-- What is made of an answer without further steps may be read from it. -/
theorem Reads.bind {task : Task α} {f : α → Task β} (h : Reads client r task)
    (hf : ∀ a, ∃ result, (f a).run = pure result) : Reads client r (task >>= f) := by
  obtain ⟨read, hrun, hread⟩ := h
  obtain ⟨result, hresult⟩ := Classical.axiomOfChoice hf
  refine ⟨fun answer => (read answer).bind result, ?_, fun e => congrArg (·.bind result) (hread e)⟩
  rw [ExceptT.run_bind, hrun, map_eq_pure_bind, map_eq_pure_bind, bind_assoc]
  refine bind_congr fun answer => ?_
  rw [pure_bind]
  cases read answer with
  | ok a => exact hresult a
  | error e => rfl

theorem reads_fetch (read : Json → Option α) : Reads client r (fetch client read r) := by
  refine reads_send.bind fun body => ?_
  cases body with
  | none => exact ⟨_, rfl⟩
  | some body =>
    dsimp only
    split <;> exact ⟨_, rfl⟩

theorem reads_command : Reads client r (command client r) :=
  reads_send.bind fun _ => ⟨_, rfl⟩

/-! ## Calls -/

/-- The request to the API that a call makes; renewing the tokens makes none. -/
def request? : Call → Option ApiRequest
  | .refresh => none
  | .search pattern limit => some (searchRequest pattern limit)
  | .lookup id => some (lookupRequest id)
  | .current | .volume => some playerRequest
  | .devices => some devicesRequest
  | .transfer device => some (transferRequest device)
  | .start id device => some (startRequest id device)
  | .resume => some resumeRequest
  | .pause => some pauseRequest
  | .skip => some skipRequest
  | .setVolume percent => some (volumeRequest percent)

theorem request?_eq_none {c : Call} : request? c = none ↔ c = .refresh := by
  cases c <;> simp [request?]

theorem reads_perform {c : Call} (h : request? c = some r) (client : Client) :
    Reads client r (perform client c) := by
  have hcommand : ∀ {task : Task Unit}, Reads client r task →
      Reads client r (Except.ok <$> task : Task (Except Error Unit)) := by
    intro task htask
    rw [map_eq_pure_bind]
    exact htask.bind fun _ => ⟨_, rfl⟩
  cases c with
  | refresh => cases h
  | search | current | devices | volume =>
    cases h
    exact (reads_fetch _).bind fun _ => ⟨_, rfl⟩
  | lookup id =>
    cases h
    refine (reads_fetch _).bind fun track => ?_
    cases track <;> exact ⟨_, rfl⟩
  | transfer | start | resume | pause | skip | setVolume =>
    cases h
    exact hcommand reads_command

/-- How a call ends. -/
def answerOf : Except Fault (Except Error α) → Except Error α
  | .ok answer => answer
  | .error fault => .error fault.toError

theorem steps_eq (client : Client) (c : Call) : steps client c = answerOf <$> (perform client c).run := by
  unfold steps
  rw [map_eq_pure_bind]
  refine bind_congr fun result => ?_
  cases result <;> rfl

/-- A call makes its request and reads the answer, and fails if the request does. -/
theorem steps_eq_map {c : Call} (h : request? c = some r) (client : Client) :
    ∃ answer : Except Fault (Option String) → Except Error c.Result,
      steps client c = answer <$> (send client r).run ∧ ∀ e, answer (.error e) = .error e.toError := by
  obtain ⟨read, hrun, hread⟩ := reads_perform h client
  refine ⟨fun result => answerOf (read result), ?_, fun e => congrArg answerOf (hread e)⟩
  rw [steps_eq, hrun, Functor.map_map]

theorem steps_refresh (client : Client) :
    steps client .refresh = (fun result => answerOf (result.map .ok)) <$> (refresh client).run := by
  rw [steps_eq]
  show answerOf <$> (Except.ok <$> refresh client : Task _).run = _
  rw [ExceptT.run_map, Functor.map_map]

/-- What a session is used for. -/
inductive Job where
  | call (c : Call)
  | operate (preferred : Option String) (op : Gateway.Operation)

/-- What a successful job answers. -/
def Job.Result : Job → Type
  | .call c => c.Result
  | .operate _ op => op.Result

/-- The calls of a job, and the locks around them. -/
def Job.program : (job : Job) → Program Gateway.interface (Except Error job.Result)
  | .call c => Program.request (I := Gateway.interface) (.call c)
  | .operate preferred op => (op.task preferred).run

end Jukebox.Spotify
