import Jukebox.Proofs.Spotify.Calls
import Jukebox.Proofs.Spotify.Contacts

/-!
# The tokens of a session

A `Watched` session does one call after the other while time goes on, in particular while a request is under
way.  What it keeps of the tokens is what follows from its contacts (`Faithful`), and every call goes by them
(`Lawful`).  Each call keeps this, so gateway operations do, and all errands do.
-/

namespace Jukebox.Spotify

variable {α β : Type} {client : Client}

/-- A session, the time, how long the answers to come take, and all contacts so far. -/
structure Watched where
  session : Session
  now : Instant
  delays : List Nat
  contacts : List Contact

namespace Watched

/-! ## Steps that take time -/

/-- The contact that a request makes now. -/
def contact (w : Watched) (c : Http.Call) : Contact :=
  ⟨c, w.now, (w.session.web.exchange c).1, w.now.advance (w.delays.headD 0)⟩

/-- The session after a request, when the time for the answer is over. -/
def contacted (w : Watched) (c : Http.Call) : Watched where
  session := (Session.serve w.now (.exchange c) w.session).2
  now := (w.contact c).answered
  delays := w.delays.tail
  contacts := w.contacts ++ [w.contact c]

/-- Answers a step; time goes on while an answer is waited for. -/
def serve : (a : Action) → Watched → a.Answer × Watched
  | .exchange c, w => ((w.contact c).reply, w.contacted c)
  | a, w => ((Session.serve w.now a w.session).1, { w with session := (Session.serve w.now a w.session).2 })

/-- Answers a step of a gateway operation that has the session to itself. -/
def visit : (a : Gateway.Action) → Watched → a.Answer × Watched
  | .call c, w => (steps w.session.client c).run serve w
  | .acquire _, w => ((), w)
  | .release _, w => ((), w)

/-- If no answer takes any time, a program runs as with the session alone. -/
theorem run_undelayed (p : Program interface α) {w : Watched} (hdelays : w.delays = []) :
    (p.run serve w).1 = (p.run (Session.serve w.now) w.session).1 ∧
      (p.run serve w).2.session = (p.run (Session.serve w.now) w.session).2 := by
  induction p generalizing w with
  | done a => exact ⟨rfl, rfl⟩
  | ask a next ih =>
    cases a with
    | exchange c =>
      have hnow : (w.contacted c).now = w.now := by
        simp [contacted, contact, hdelays, Instant.advance]
      have hrest := ih (w.contact c).reply (w := w.contacted c) (by simp [contacted, hdelays])
      rw [hnow] at hrest
      exact hrest
    | _ => exact ih _ (w := { w with session := _ }) hdelays

/-- Then a call is answered as the backend answers it. -/
theorem visit_undelayed (c : Call) {w : Watched} (hdelays : w.delays = []) :
    (visit (.call c) w).1 = (Session.backend.serve w.now c w.session).1 ∧
      (visit (.call c) w).2.session = (Session.backend.serve w.now c w.session).2 :=
  run_undelayed _ hdelays

/-! ## Requests to the API -/

variable {w : Watched} {r : ApiRequest} {value : String}

theorem run_accessToken (w : Watched) : accessToken.run.run serve w =
    ((w.session.fresh? w.now).elim (.error .unauthorized) .ok, w) := by
  have hstep : (step .freshToken).run.run serve w = (.ok (w.session.fresh? w.now), w) := rfl
  unfold accessToken
  rw [ExceptT.run_bind, Program.run_bind, hstep]
  cases w.session.fresh? w.now <;> rfl

theorem run_exchange (w : Watched) (c : Http.Call) : (exchange c).run.run serve w =
    ((w.contact c).reply.elim (.error (.network "no answer")) .ok, w.contacted c) := by
  have hstep : (step (.exchange c)).run.run serve w = (.ok (w.contact c).reply, w.contacted c) := rfl
  unfold exchange
  rw [ExceptT.run_bind, Program.run_bind, hstep]
  cases (w.contact c).reply <;> rfl

/-- Without a fresh token nothing is sent. -/
theorem run_send_lapsed (client : Client) (r : ApiRequest) (h : w.session.fresh? w.now = none) :
    (send client r).run.run serve w = (.error .unauthorized, w) := by
  rw [send_eq, ExceptT.run_bind, Program.run_bind, run_accessToken, h]
  rfl

/-- A token with control characters in it is never sent. -/
theorem run_send_unsendable (client : Client) (r : ApiRequest) (h : w.session.fresh? w.now = some value)
    (hvalue : isSendable value = false) : ((send client r).run.run serve w).2 = w := by
  rw [send_eq, ExceptT.run_bind, Program.run_bind, run_accessToken, h]
  dsimp only [Option.elim]
  rw [hvalue]
  rfl

theorem run_send_sendable (client : Client) (r : ApiRequest) (h : w.session.fresh? w.now = some value)
    (hvalue : isSendable value = true) : (send client r).run.run serve w =
      (exchange (r.withToken client.apiBase value) >>= conclude value).run.run serve w := by
  rw [send_eq, ExceptT.run_bind, Program.run_bind, run_accessToken, h]
  dsimp only [Option.elim]
  rw [hvalue]
  rfl

/-- A fresh token is sent, and forgotten if it is rejected. -/
theorem run_send (client : Client) (r : ApiRequest) (h : w.session.fresh? w.now = some value)
    (hvalue : isSendable value = true) :
    let c := r.withToken client.apiBase value
    ((w.contact c).Rejects value ∧ ((send client r).run.run serve w).2 =
      { w.contacted c with session := (w.contacted c).session.forget value }) ∨
    (¬ (w.contact c).Rejects value ∧ ((send client r).run.run serve w).2 = w.contacted c) := by
  intro c
  rw [run_send_sendable client r h hvalue, ExceptT.run_bind, Program.run_bind, run_exchange]
  cases hreply : (w.contact c).reply with
  | none =>
    refine Or.inr ⟨?_, rfl⟩
    rintro ⟨-, reply, hsome, -⟩
    rw [hreply] at hsome
    cases hsome
  | some reply =>
    dsimp only [Option.elim]
    rcases conclude_cases value reply with ⟨hreject, heq⟩ | ⟨hkept, result, heq⟩
    · rw [heq]
      exact Or.inl ⟨⟨rfl, reply, hreply, hreject⟩, rfl⟩
    · rw [heq]
      refine Or.inr ⟨?_, rfl⟩
      rintro ⟨-, reply', hsome, hreject⟩
      rw [hreply] at hsome
      cases hsome
      exact hkept hreject

/-! ## Requests for tokens -/

theorem run_refresh (client : Client) (w : Watched) : (refresh client).run.run serve w =
    (if (w.session.fresh? w.now).isSome then (.ok (), w) else (renew client).run.run serve w) := by
  have hstep : (step .freshToken).run.run serve w = (.ok (w.session.fresh? w.now), w) := rfl
  have hlocked : (refresh client).run.run serve w = (renewUnlessFresh client).run.run serve w := by
    show ((renewUnlessFresh client).run >>= fun result =>
      Program.request (I := interface) .release >>= fun _ => pure result).run serve w = _
    rw [Program.run_bind]
    rfl
  rw [hlocked]
  unfold renewUnlessFresh
  rw [ExceptT.run_bind, Program.run_bind, hstep]
  cases w.session.fresh? w.now <;> rfl

/-- The session with tokens that were issued. -/
def equipped (w : Watched) (token : Token) (rotated : Option String) : Watched :=
  { w with session := { w.session with
      token := some token, refreshToken := rotated.getD w.session.refreshToken } }

/-- The session after more than the clock can show was issued, or not. -/
def marked (w : Watched) (broken : Bool) : Watched :=
  { w with session := { w.session with broken } }

theorem run_store (w : Watched) (value : String) (seconds : Nat) :
    (step (.store value seconds)).run.run serve w =
      match w.now.addSeconds? seconds with
      | some time => (.ok true, w.equipped ⟨value, time⟩ none)
      | none => (.ok false, w.marked true) := by
  show (Except.ok (Session.serve w.now (.store _ _) w.session).1,
    { w with session := (Session.serve w.now (.store _ _) w.session).2 }) = _
  rw [Session.serve_store]
  cases w.now.addSeconds? seconds <;> rfl

/-- The clock decides whether issued tokens are taken up. -/
theorem run_accept {reply : Http.Reply} {issue : Issue} (hissue : issueOf reply = .ok issue) (w : Watched) :
    (accept reply).run.run serve w =
      match w.now.addSeconds? (issue.lifetime - margin) with
      | some time => (.ok (), w.equipped ⟨issue.accessToken, time⟩ issue.refreshToken)
      | none => (.error .endlessLifetime, w.marked true) := by
  unfold accept
  rw [hissue]
  show (step (.store issue.accessToken (issue.lifetime - margin)) >>= fun stored => _).run.run serve w = _
  rw [ExceptT.run_bind, Program.run_bind, run_store]
  cases w.now.addSeconds? (issue.lifetime - margin) with
  | none => rfl
  | some time => cases hrotated : issue.refreshToken <;> rfl

/-- What becomes of a renewal depends on the answer. -/
theorem run_renew_eq {c : Http.Call} (hc : issueRequest client w.session.refreshToken = c) :
    (renew client).run.run serve w =
      (w.contact c).reply.elim (.error (.network "no answer"), w.contacted c)
        fun reply => (accept reply).run.run serve (w.contacted c) := by
  have hstep : (step .refreshToken).run.run serve w = (.ok w.session.refreshToken, w) := rfl
  rw [renew_eq, ExceptT.run_bind, Program.run_bind, hstep]
  show (exchange (issueRequest client w.session.refreshToken) >>= accept).run.run serve w = _
  rw [hc, ExceptT.run_bind, Program.run_bind, run_exchange]
  cases (w.contact c).reply <;> rfl

/-- Tokens that are issued take the place of those before; otherwise these stay. -/
theorem run_renew {c : Http.Call} (hc : issueRequest client w.session.refreshToken = c) :
    (∃ issue, (w.contact c).issued? client = some issue ∧ (renew client).run.run serve w =
      (.ok (), (w.contacted c).equipped ((w.contact c).token issue) issue.refreshToken)) ∨
    ((w.contact c).issued? client = none ∧
      ∃ e broken, (renew client).run.run serve w = (.error e, (w.contacted c).marked broken)) := by
  have hbasic : (w.contact c).request.authorization = Contact.basic client := by
    rw [← hc]
    rfl
  rw [run_renew_eq hc]
  cases Contact.outcome hbasic with
  | unanswered hreply hissued =>
    rw [hreply]
    exact Or.inr ⟨hissued, _, (w.contacted c).session.broken, rfl⟩
  | @refused reply e hreply hissue hissued =>
    rw [hreply]
    refine Or.inr ⟨hissued, e, (w.contacted c).session.broken, ?_⟩
    dsimp only [Option.elim]
    unfold accept
    rw [hissue]
    rfl
  | @endless reply issue hreply hissue htime hissued =>
    have htime : (w.contacted c).now.addSeconds? (issue.lifetime - margin) = none := htime
    rw [hreply]
    refine Or.inr ⟨hissued, .endlessLifetime, true, ?_⟩
    dsimp only [Option.elim]
    rw [run_accept hissue, htime]
  | @accepted reply issue hreply hissue htime hissued =>
    have htime : (w.contacted c).now.addSeconds? (issue.lifetime - margin) = _ := htime
    rw [hreply]
    refine Or.inl ⟨issue, hissued, ?_⟩
    dsimp only [Option.elim]
    rw [run_accept hissue, htime]
    rfl

/-! ## Calls -/

theorem run_map (f : α → β) (p : Program interface α) (w : Watched) :
    (f <$> p).run serve w = (f (p.run serve w).1, (p.run serve w).2) := by
  rw [map_eq_pure_bind, Program.run_bind, Program.run_pure]

/-- What a session keeps of the tokens follows from its contacts. -/
structure Faithful (client : Client) (w : Watched) : Prop where
  client_eq : w.session.client = client
  token_iff : ∀ token, w.session.token = some token ↔ Standing client w.contacts token
  refreshToken_eq : w.session.refreshToken = inUse client w.contacts

variable {client : Client} {w : Watched}

theorem contacts_contacted (w : Watched) (c : Http.Call) :
    (w.contacted c).contacts = w.contacts ++ [w.contact c] := rfl

/-- A contact by which nothing was issued leaves the tokens, but for the one that it rejects. -/
theorem Faithful.contacted (h : w.Faithful client) {c : Http.Call}
    (hnone : (w.contact c).issued? client = none) {w' : Watched}
    (hsession : w'.session.client = w.session.client ∧ w'.session.refreshToken = w.session.refreshToken)
    (hcontacts : w'.contacts = w.contacts ++ [w.contact c])
    (htoken : ∀ token, w'.session.token = some token ↔
      ¬ (w.contact c).Rejects token.value ∧ w.session.token = some token) : w'.Faithful client := by
  refine ⟨hsession.1.trans h.client_eq, fun token => ?_, ?_⟩
  · rw [hcontacts, standing_concat, hnone, htoken, ← h.token_iff token]
    constructor
    · rintro ⟨hkept, hsome⟩
      exact Or.inr ⟨rfl, hkept, hsome⟩
    · rintro (⟨issue, hissue, -⟩ | ⟨-, hkept, hsome⟩)
      · cases hissue
      · exact ⟨hkept, hsome⟩
  · rw [hsession.2, hcontacts, inUse_concat, Contact.rotated?, hnone]
    exact h.refreshToken_eq

/-- Tokens that were issued are stored. -/
theorem Faithful.equipped (h : w.Faithful client) {c : Http.Call} {issue : Issue}
    (hissue : (w.contact c).issued? client = some issue) :
    Faithful client ((w.contacted c).equipped ((w.contact c).token issue) issue.refreshToken) := by
  refine ⟨h.client_eq, fun token => ?_, ?_⟩
  · show some ((w.contact c).token issue) = some token ↔ Standing client (w.contacted c).contacts token
    rw [contacts_contacted, standing_concat, hissue, Option.some.injEq]
    constructor
    · exact fun heq => Or.inl ⟨issue, rfl, heq.symm⟩
    · rintro (⟨issue', hissue', rfl⟩ | ⟨hnone, -⟩)
      · cases hissue'
        rfl
      · cases hnone
  · show issue.refreshToken.getD w.session.refreshToken = inUse client (w.contacted c).contacts
    rw [contacts_contacted, inUse_concat, Contact.rotated?, hissue, h.refreshToken_eq]
    rfl

/-! ### Calls for the API -/

/-- All that a call does is to make its request. -/
theorem Faithful.visit_eq (h : w.Faithful client) {c : Call} {r : ApiRequest} (hr : request? c = some r) :
    ∃ answer : Except Fault (Option String) → Except Error c.Result,
      visit (.call c) w = (answer ((send client r).run.run serve w).1, ((send client r).run.run serve w).2) ∧
      ∀ e, answer (.error e) = .error e.toError := by
  obtain ⟨answer, hsteps, herror⟩ := steps_eq_map hr client
  refine ⟨answer, ?_, herror⟩
  show (steps w.session.client c).run serve w = _
  rw [h.client_eq, hsteps, run_map]

theorem Faithful.send (h : w.Faithful client) (r : ApiRequest) :
    Faithful client ((Spotify.send client r).run.run serve w).2 := by
  cases hfresh : w.session.fresh? w.now with
  | none =>
    rw [run_send_lapsed client r hfresh]
    exact h
  | some value =>
    cases hvalue : isSendable value with
    | false =>
      rw [run_send_unsendable client r hfresh hvalue]
      exact h
    | true =>
      have hbearer : (w.contact (r.withToken client.apiBase value)).request.authorization =
        Contact.bearer value := rfl
      have hnone : (w.contact (r.withToken client.apiBase value)).issued? client = none :=
        Contact.issued?_of_bearer hbearer
      rcases run_send client r hfresh hvalue with ⟨hreject, heq⟩ | ⟨hkept, heq⟩
      · rw [heq, Session.forget_eq]
        refine h.contacted hnone ⟨rfl, rfl⟩ rfl fun token => ?_
        rw [Option.filter_eq_some_iff, decide_eq_true_iff, and_comm]
        refine and_congr_left fun _ => not_congr ⟨?_, fun h => h.eq_of_bearer hbearer⟩
        rintro rfl
        exact hreject
      · rw [heq]
        refine h.contacted hnone ⟨rfl, rfl⟩ rfl fun token => ?_
        refine (and_iff_right fun h => ?_).symm
        exact hkept (h.eq_of_bearer hbearer ▸ h)

/-! ### Calls for tokens -/

theorem Faithful.visit_refresh (h : w.Faithful client) : Watched.visit (.call .refresh) w =
    (answerOf (((Spotify.refresh client).run.run serve w).1.map .ok),
      ((Spotify.refresh client).run.run serve w).2) := by
  show (steps w.session.client .refresh).run serve w = _
  rw [h.client_eq, steps_refresh]
  exact run_map _ _ _

theorem Faithful.refresh (h : w.Faithful client) :
    Faithful client ((Spotify.refresh client).run.run serve w).2 := by
  rw [run_refresh]
  split
  · exact h
  · have hbasic : (w.contact (issueRequest client w.session.refreshToken)).request.authorization =
      Contact.basic client := rfl
    rcases run_renew (rfl : issueRequest client w.session.refreshToken = _)
      with ⟨issue, hissue, heq⟩ | ⟨hnone, e, broken, heq⟩
    · rw [heq]
      exact h.equipped hissue
    · rw [heq]
      refine h.contacted hnone ⟨rfl, rfl⟩ rfl fun token => ?_
      exact (and_iff_right (Contact.not_rejects_of_basic hbasic token.value)).symm

/-! ### All calls -/

theorem Faithful.visit (h : w.Faithful client) (a : Gateway.Action) :
    Faithful client (Watched.visit a w).2 := by
  cases a with
  | acquire | release => exact h
  | call c =>
    cases hr : request? c with
    | some r =>
      obtain ⟨answer, heq, -⟩ := h.visit_eq hr
      rw [heq]
      exact h.send r
    | none =>
      obtain rfl := request?_eq_none.1 hr
      rw [h.visit_refresh]
      exact h.refresh

end Watched

/-! ## Errands -/

/-- What a session does next. -/
inductive Errand where
  /-- Nothing is asked for a while. -/
  | pause (millis : Nat)
  | work (job : Job)

namespace Watched

/-- A session at its beginning. -/
def start (s : Session) (now : Instant) (delays : List Nat) : Watched :=
  ⟨s, now, delays, []⟩

/-- The session after an errand. -/
def after (w : Watched) : Errand → Watched
  | .pause millis => { w with now := w.now.advance millis }
  | .work job => (job.program.run visit w).2

/-- The session after some errands. -/
def afterAll (w : Watched) (errands : List Errand) : Watched :=
  errands.foldl after w

variable {client : Client} {w : Watched}

theorem Faithful.run {α : Type} (h : w.Faithful client) (p : Program Gateway.interface α) :
    (∀ m ∈ p.moments Watched.visit w, m.state.Faithful client) ∧
      Faithful client (p.run Watched.visit w).2 :=
  Program.moments_invariant (fun a _ h => h.visit a) p h

theorem Faithful.afterAll (h : w.Faithful client) (errands : List Errand) :
    Faithful client (w.afterAll errands) := by
  refine List.foldlRecOn errands after h fun w h errand _ => ?_
  cases errand with
  | pause millis => exact ⟨h.client_eq, h.token_iff, h.refreshToken_eq⟩
  | work job => exact (h.run job.program).2

theorem refreshToken_of_credentials {account : Account} {credentials : Credentials}
    (h : account.credentials = .ok credentials) : account.refreshToken = some credentials.refreshToken := by
  unfold Account.credentials at h
  split at h
  · next htoken =>
    split at h
    · cases h
      exact htoken
    · cases h
  · cases h

/-- A session begins without an access token and with the configured refresh token. -/
theorem faithful_start {apiBase tokenUrl : String} {account : Account} {web : Http.Web} {s : Session}
    (hs : Session.beginAt apiBase tokenUrl account web = .ok s) (now : Instant) (delays : List Nat) :
    account.refreshToken = some s.client.credentials.refreshToken ∧
      Faithful s.client (start s now delays) := by
  unfold Session.beginAt at hs
  cases hcredentials : account.credentials with
  | error e =>
    rw [hcredentials] at hs
    cases hs
  | ok credentials =>
    rw [hcredentials] at hs
    cases hs
    refine ⟨?_, rfl, fun token => ?_, rfl⟩
    · exact refreshToken_of_credentials hcredentials
    · exact iff_of_false nofun not_standing_nil

end Watched

end Jukebox.Spotify
