import Jukebox.Party
import Jukebox.Proofs.Json.Record
import Jukebox.Proofs.Json.RoundTrip
import Jukebox.Proofs.Spotify.Tokens
import Jukebox.Proofs.Text.Utf8

/-!
# Which answers to a renewal a session survives

An answer to a request for tokens either grants an access token (`Grants`) or is told as a fault of a certain
kind (`Denies`).  The lifetime that is granted may be any number of 64 bits (`exists_grants_iff`).  The margin
is taken off it without going below zero, but what is left is added to the time of the answer as it is, and
the clock counts less far.  A contact for which the sum is out of range is `Endless`, and nothing goes on after
it.

    Ends        how one renewal ends, by its contact (ends_renew)
    Traced      a session is broken exactly if one of its contacts was endless (kept by each call, so by all
                errands)
-/

namespace Jukebox

/-- The clock cannot show the sum exactly if its seconds leave the range. -/
theorem Instant.addSeconds?_eq_none {t : Instant} {seconds : Nat} :
    t.addSeconds? seconds = none ↔ secondsLimit ≤ t.millis / 1000 + seconds := by
  have hsum : (t.advance (1000 * seconds)).millis / 1000 = t.millis / 1000 + seconds := by
    show (t.millis + 1000 * seconds) / 1000 = _
    omega
  unfold addSeconds?
  dsimp only
  rw [hsum]
  split
  · next h => exact iff_of_false nofun (Nat.not_le.2 h)
  · next h => exact iff_of_true rfl (Nat.not_lt.1 h)

namespace Spotify

variable {client : Client} {reply : Http.Reply} {issue : Issue} {e : Fault} {x : Contact}

/-! ## Answers to a request for tokens -/

/-- The answer grants an access token: it reports success, and its text can be read. -/
structure Grants (reply : Http.Reply) (issue : Issue) : Prop where
  success : 200 ≤ reply.status ∧ reply.status < 300
  read : ∃ text json, reply.strictText? = some text ∧ Json.read? text = some json ∧ issue? json = some issue

/-- The fault that is told of an answer by which nothing is granted, or of none. -/
inductive Denies : Option Http.Reply → Fault → Prop
  /-- The connection was closed, or there never was one. -/
  | closed : Denies none (.network "no answer")
  /-- The refresh token is not accepted; the body may say why, if it came. -/
  | rejected {reply : Http.Reply} (hstatus : reply.status = 400 ∨ reply.status = 401) :
      Denies (some reply) (.refreshRejected (reply.text?.getD ""))
  /-- Another failure; what it is depends on the status and on the body, if it came. -/
  | failed {reply : Http.Reply} (hstatus : ¬ (reply.status = 400 ∨ reply.status = 401))
      (hfailure : ¬ (200 ≤ reply.status ∧ reply.status < 300)) :
      Denies (some reply) (.ofAnswer reply.status (reply.text?.getD ""))
  /-- Success is reported, but the body broke off, is not in UTF-8, or has another form. -/
  | unreadable {reply : Http.Reply} (hsuccess : 200 ≤ reply.status ∧ reply.status < 300)
      (hread : ∀ issue, ¬ Grants reply issue) :
      Denies (some reply) (.unreadable "the answer has another form")

theorem isSuccess_iff : reply.isSuccess = true ↔ 200 ≤ reply.status ∧ reply.status < 300 := by
  simp [Http.Reply.isSuccess]

theorem issueOf_eq_ok : issueOf reply = .ok issue ↔ Grants reply issue := by
  constructor
  · intro h
    unfold issueOf at h
    split at h
    · cases h
    · split at h
      · next hsuccess =>
        split at h
        · next issue' hread =>
          cases h
          obtain ⟨json, hjson, hissue⟩ := Option.bind_eq_some_iff.1 hread
          obtain ⟨text, htext, hread⟩ := Option.bind_eq_some_iff.1 hjson
          exact ⟨isSuccess_iff.1 hsuccess, text, json, htext, hread, hissue⟩
        · cases h
      · cases h
  · rintro ⟨hsuccess, text, json, htext, hread, hissue⟩
    unfold issueOf
    rw [if_neg (by omega), if_pos (isSuccess_iff.2 hsuccess), htext, Option.bind_some, hread, Option.bind_some,
      hissue]

theorem denies_of_issueOf (h : issueOf reply = .error e) : Denies (some reply) e := by
  have hnone : ∀ issue, ¬ Grants reply issue := by
    intro issue hgrants
    rw [issueOf_eq_ok.2 hgrants] at h
    cases h
  unfold issueOf at h
  split at h
  · next hstatus =>
    cases h
    exact .rejected hstatus
  · next hstatus =>
    split at h
    · next hsuccess =>
      split at h
      · cases h
      · cases h
        exact .unreadable (isSuccess_iff.1 hsuccess) hnone
    · next hfailure =>
      cases h
      exact .failed hstatus fun hsuccess => hfailure (isSuccess_iff.2 hsuccess)

theorem Denies.not_grants (h : Denies (some reply) e) : ¬ Grants reply issue := by
  intro hgrants
  have hsuccess := hgrants.success
  cases h with
  | rejected hstatus => omega
  | failed hstatus hfailure => exact hfailure hsuccess
  | unreadable _ hread => exact hread issue hgrants

theorem Grants.unique {issue' : Issue} (h : Grants reply issue) (h' : Grants reply issue') : issue = issue' :=
  Except.ok.inj ((issueOf_eq_ok.2 h).symm.trans (issueOf_eq_ok.2 h'))

/-! ## Granted lifetimes -/

theorem lifetime_lt_of_issue? {json : Json} (h : issue? json = some issue) : issue.lifetime < UInt64.size := by
  obtain ⟨fields, -, hfields⟩ := Option.bind_eq_some_iff.1 h
  split at hfields
  · obtain ⟨token, -, hrest⟩ := Option.bind_eq_some_iff.1 hfields
    obtain ⟨lifetime, -, hrest⟩ := Option.bind_eq_some_iff.1 hrest
    obtain ⟨refreshToken, -, hissue⟩ := Option.bind_eq_some_iff.1 hrest
    cases hissue
    exact lifetime.toNat_lt_size
  · cases hfields

/-- The answer by which a service grants just this. -/
def grant (issue : Issue) : Http.Reply :=
  let json := Json.ofMembers [("access_token", .ofText issue.accessToken),
    ("expires_in", .ofNat issue.lifetime), ("refresh_token", .ofOption .ofText issue.refreshToken)]
  ⟨200, some (Text.Utf8.encode json.print.toList)⟩

theorem strictText?_encode (status : Nat) (s : String) :
    (⟨status, some (Text.Utf8.encode s.toList)⟩ : Http.Reply).strictText? = some s := by
  simp [Http.Reply.strictText?, Text.Utf8.decode_encode]

theorem grants_grant (h : issue.lifetime < UInt64.size) : Grants (grant issue) issue := by
  refine ⟨by simp [grant], _, _, strictText?_encode _ _, Json.read?_print _, ?_⟩
  have hlifetime : (UInt64.ofNat issue.lifetime).toNat = issue.lifetime :=
    UInt64.toNat_ofNat'.trans (Nat.mod_eq_of_lt h)
  have hread := Json.uint64?_ofNat (UInt64.ofNat issue.lifetime)
  rw [hlifetime] at hread
  have hrotated : Json.optional Json.text? (some (.ofOption .ofText issue.refreshToken)) =
      some issue.refreshToken := Json.optional_ofOption nofun Json.text?_ofText _
  unfold issue? fieldsOf?
  rw [Json.record_ofMembers (by simp)]
  simp [List.lookup_cons, hread, hrotated, hlifetime]

/-- Any lifetime of 64 bits can be granted, and no other. -/
theorem exists_grants_iff : (∃ reply, Grants reply issue) ↔ issue.lifetime < UInt64.size := by
  constructor
  · rintro ⟨reply, -, text, json, -, -, hissue⟩
    exact lifetime_lt_of_issue? hissue
  · exact fun h => ⟨grant issue, grants_grant h⟩

/-! ## Lifetimes beyond the clock -/

/-- An access token was granted, and the time at which it expires is out of the range of the clock. -/
def Contact.Endless (client : Client) (x : Contact) : Prop :=
  x.request.authorization = basic client ∧ ∃ reply issue, x.reply = some reply ∧ Grants reply issue ∧
    Instant.secondsLimit ≤ x.answered.millis / 1000 + (issue.lifetime - margin)

/-- Once a token was granted, the clock decides. -/
theorem Contact.endless_iff (hbasic : x.request.authorization = basic client) (hreply : x.reply = some reply)
    (hgrants : Grants reply issue) :
    x.Endless client ↔ x.answered.addSeconds? (issue.lifetime - margin) = none := by
  rw [Instant.addSeconds?_eq_none]
  constructor
  · rintro ⟨-, reply', issue', hreply', hgrants', hbeyond⟩
    cases hreply.symm.trans hreply'
    rwa [hgrants.unique hgrants']
  · exact fun hbeyond => ⟨hbasic, reply, issue, hreply, hgrants, hbeyond⟩

theorem Contact.not_endless_of_bearer {value : String} (h : x.request.authorization = bearer value) :
    ¬ x.Endless client :=
  fun hendless => basic_ne_bearer client value (hendless.1.symm.trans h)

theorem Contact.not_endless_of_denies (h : Denies x.reply e) : ¬ x.Endless client := by
  rintro ⟨-, reply, issue, hreply, hgrants, -⟩
  rw [hreply] at h
  exact h.not_grants hgrants

namespace Watched

variable {w w' : Watched}

/-! ## One renewal -/

/-- How a renewal ends whose request has become the contact `x`; that left the session as it is in `w`. -/
inductive Ends (client : Client) (w : Watched) (x : Contact) : Except Error Unit × Watched → Prop
  /-- What was granted is stored. -/
  | renewed {reply : Http.Reply} {issue : Issue} (hreply : x.reply = some reply) (hgrants : Grants reply issue)
      (hbounded : ¬ x.Endless client) :
      Ends client w x (.ok (), w.equipped (x.token issue) issue.refreshToken)
  /-- Any other answer is an error of some kind, and the tokens stay. -/
  | denied {e : Fault} (hdenies : Denies x.reply e) : Ends client w x (.error e.toError, w)
  /-- The sum is out of range; nothing goes on after this. -/
  | broken {e : Error} (hendless : x.Endless client) : Ends client w x (.error e, w.marked true)

theorem Ends.broken_iff {result : Except Error Unit × Watched} (h : Ends client w x result) :
    result.2.session.broken = true ↔ w.session.broken = true ∨ x.Endless client := by
  cases h with
  | renewed _ _ hbounded => exact (or_iff_left hbounded).symm
  | denied hdenies => exact (or_iff_left (Contact.not_endless_of_denies hdenies)).symm
  | broken hendless => exact iff_of_true rfl (Or.inr hendless)

theorem Ends.contacts_eq {result : Except Error Unit × Watched} (h : Ends client w x result) :
    result.2.contacts = w.contacts := by
  cases h <;> rfl

theorem run_accept_error (h : issueOf reply = .error e) (w : Watched) :
    (accept reply).run.run serve w = (.error e, w) := by
  unfold accept
  rw [h]
  rfl

theorem ends_renew {c : Http.Call} (hc : issueRequest client w.session.refreshToken = c) :
    Ends client (w.contacted c) (w.contact c)
      (answerOf (((renew client).run.run serve w).1.map .ok), ((renew client).run.run serve w).2) := by
  have hbasic : (w.contact c).request.authorization = Contact.basic client := by
    rw [← hc]
    rfl
  rw [run_renew_eq hc]
  cases Contact.outcome hbasic with
  | unanswered hreply _ =>
    rw [hreply]
    exact .denied (hreply.symm ▸ .closed)
  | @refused reply e hreply hissue _ =>
    rw [hreply]
    dsimp only [Option.elim]
    rw [run_accept_error hissue]
    exact .denied (hreply.symm ▸ denies_of_issueOf hissue)
  | @endless reply issue hreply hissue htime _ =>
    have hendless := (Contact.endless_iff hbasic hreply (issueOf_eq_ok.1 hissue)).2 htime
    have htime : (w.contacted c).now.addSeconds? (issue.lifetime - margin) = none := htime
    rw [hreply]
    dsimp only [Option.elim]
    rw [run_accept hissue, htime]
    exact .broken hendless
  | @accepted reply issue hreply hissue htime _ =>
    have hgrants := issueOf_eq_ok.1 hissue
    have hbounded : ¬ (w.contact c).Endless client := by
      rw [Contact.endless_iff hbasic hreply hgrants, htime]
      exact nofun
    have htime : (w.contacted c).now.addSeconds? (issue.lifetime - margin) = _ := htime
    rw [hreply]
    dsimp only [Option.elim]
    rw [run_accept hissue, htime]
    exact .renewed hreply hgrants hbounded

/-- What a call does to renew the tokens now. -/
structure Renews (client : Client) (w : Watched) : Prop where
  /-- Nothing is asked for while the stored token is fresh. -/
  spared : ∀ value, w.session.fresh? w.now = some value →
    visit (.call .refresh) w = ((.ok () : Except Error Unit), w)
  /-- Otherwise the answer decides. -/
  asked : w.session.fresh? w.now = none →
    let c := issueRequest client w.session.refreshToken
    Ends client (w.contacted c) (w.contact c) (visit (.call .refresh) w)

theorem Faithful.renews (h : w.Faithful client) : w.Renews client := by
  refine ⟨fun value hfresh => ?_, fun hlapsed => ?_⟩
  · rw [h.visit_refresh, run_refresh, hfresh]
    rfl
  · intro c
    rw [h.visit_refresh, run_refresh, hlapsed]
    exact ends_renew rfl

/-! ## Any number of calls -/

/-- The session is broken exactly if one of its contacts was endless. -/
structure Traced (client : Client) (w : Watched) : Prop where
  faithful : w.Faithful client
  broken_iff : w.session.broken = true ↔ ∃ x ∈ w.contacts, x.Endless client

/-- One more contact, which decides whether the session breaks now. -/
theorem Traced.contacted (h : w.Traced client) (hfaithful : w'.Faithful client)
    (hcontacts : w'.contacts = w.contacts ++ [x])
    (hbroken : w'.session.broken = true ↔ w.session.broken = true ∨ x.Endless client) :
    w'.Traced client := by
  refine ⟨hfaithful, ?_⟩
  rw [hcontacts, hbroken, h.broken_iff]
  simp only [List.mem_append, List.mem_singleton, or_and_right, exists_or, exists_eq_left]

theorem Traced.send (h : w.Traced client) (r : ApiRequest) :
    Traced client ((Spotify.send client r).run.run serve w).2 := by
  have hfaithful := h.faithful.send r
  cases hfresh : w.session.fresh? w.now with
  | none =>
    rw [run_send_lapsed client r hfresh]
    exact h
  | some value =>
    cases hvalue : isSendable value with
    | false =>
      rw [run_send_unsendable client r hfresh hvalue]
      exact h
    | true =>
      -- A request that carries a token is answered; whatever is forgotten then, nothing breaks.
      have hbounded : ¬ (w.contact (r.withToken client.apiBase value)).Endless client :=
        Contact.not_endless_of_bearer rfl
      rcases run_send client r hfresh hvalue with ⟨-, heq⟩ | ⟨-, heq⟩
      · rw [heq, Session.forget_eq] at hfaithful ⊢
        exact h.contacted hfaithful rfl (or_iff_left hbounded).symm
      · rw [heq] at hfaithful ⊢
        exact h.contacted hfaithful rfl (or_iff_left hbounded).symm

theorem Traced.refresh (h : w.Traced client) : Traced client (Watched.visit (.call .refresh) w).2 := by
  have hfaithful := h.faithful.visit (.call .refresh)
  cases hfresh : w.session.fresh? w.now with
  | some value =>
    rw [h.faithful.renews.spared value hfresh]
    exact h
  | none =>
    have hends := h.faithful.renews.asked hfresh
    exact h.contacted hfaithful hends.contacts_eq hends.broken_iff

theorem Traced.visit (h : w.Traced client) (a : Gateway.Action) : Traced client (Watched.visit a w).2 := by
  cases a with
  | acquire | release => exact h
  | call c =>
    cases hr : request? c with
    | some r =>
      obtain ⟨answer, heq, -⟩ := h.faithful.visit_eq hr
      rw [heq]
      exact h.send r
    | none =>
      obtain rfl := request?_eq_none.1 hr
      exact h.refresh

theorem Traced.run {α : Type} (h : w.Traced client) (p : Program Gateway.interface α) :
    (∀ m ∈ p.moments Watched.visit w, m.state.Traced client) ∧ Traced client (p.run Watched.visit w).2 :=
  Program.moments_invariant (fun a _ h => h.visit a) p h

theorem Traced.afterAll (h : w.Traced client) (errands : List Errand) :
    Traced client (w.afterAll errands) := by
  refine List.foldlRecOn errands after h fun w h errand _ => ?_
  cases errand with
  | pause millis => exact ⟨h.faithful.afterAll [.pause millis], h.broken_iff⟩
  | work job => exact (h.run job.program).2

theorem broken_of_beginAt {apiBase tokenUrl : String} {account : Account} {web : Http.Web} {s : Session}
    (hs : Session.beginAt apiBase tokenUrl account web = .ok s) : s.broken = false := by
  unfold Session.beginAt at hs
  cases hcredentials : account.credentials with
  | error e =>
    rw [hcredentials] at hs
    cases hs
  | ok credentials =>
    rw [hcredentials] at hs
    cases hs
    rfl

/-- A session begins whole and without contacts. -/
theorem traced_start {apiBase tokenUrl : String} {account : Account} {web : Http.Web} {s : Session}
    (hs : Session.beginAt apiBase tokenUrl account web = .ok s) (now : Instant) (delays : List Nat) :
    Traced s.client (start s now delays) := by
  refine ⟨(faithful_start hs now delays).2, iff_of_false ?_ nofun⟩
  show ¬ s.broken = true
  rw [broken_of_beginAt hs]
  exact Bool.false_ne_true

end Watched

/-- **A session survives all answers but those that grant an access token for longer than the clock counts.**
Any lifetime of 64 bits can be granted.  Let a session begin, and let calls and operations of the gateway be
done one after the other, with any pauses between them, whatever the service answers and however long it takes.
Then it is broken exactly if some answer granted an access token for which the time of the answer and the
lifetime without the margin come to more seconds than the clock counts.  At any time, also within an operation,
a call to renew the tokens either finds a fresh one and asks for nothing, or makes one request.  Unless the answer
to it is such a one, the call stores what was granted and succeeds, or it changes no token and fails with the
error for this answer. -/
theorem broken_iff_endless {apiBase tokenUrl : String} {account : Account} {web : Http.Web} {s : Session}
    (hs : Session.beginAt apiBase tokenUrl account web = .ok s) (now : Instant) (delays : List Nat)
    (errands : List Errand) :
    let w := (Watched.start s now delays).afterAll errands
    (∀ issue, (∃ reply, Grants reply issue) ↔ issue.lifetime < UInt64.size) ∧
      (w.session.broken = true ↔ ∃ x ∈ w.contacts, x.Endless s.client) ∧ w.Renews s.client ∧
      ∀ job : Job, ∀ m ∈ job.program.moments Watched.visit w,
        (m.state.session.broken = true ↔ ∃ x ∈ m.state.contacts, x.Endless s.client) ∧
          m.state.Renews s.client := by
  intro w
  have htraced : w.Traced s.client := (Watched.traced_start hs now delays).afterAll errands
  refine ⟨fun issue => exists_grants_iff, htraced.broken_iff, htraced.faithful.renews, fun job m hm => ?_⟩
  have hmoment := (htraced.run job.program).1 m hm
  exact ⟨hmoment.broken_iff, hmoment.faithful.renews⟩

/-- A session whose first request for tokens is answered with one that lives so many seconds. -/
def granted (lifetime : Nat) : Session :=
  ⟨⟨"/v1", "/token", ⟨"id", "secret", "r1"⟩⟩, none, "r1",
    .answering [some (grant ⟨"t1", lifetime, none⟩)], false⟩

/-- A lifetime that the clock can just bear if the answer takes less than a second, and cannot if it takes longer. -/
theorem broken_iff_endless_at_limit :
    let s := granted (Instant.secondsLimit + 9)
    let early := (Watched.start s ⟨0⟩ [999]).afterAll [.work (.call .refresh)]
    let late := (Watched.start s ⟨0⟩ [1000]).afterAll [.work (.call .refresh)]
    Session.beginAt "/v1" "/token" ⟨some "id", some "secret", some "r1"⟩ s.web = .ok s ∧
      (early.session.broken = false ∧ ¬ ∃ x ∈ early.contacts, x.Endless s.client) ∧
      (late.session.broken = true ∧ ∃ x ∈ late.contacts, x.Endless s.client) := by
  intro s early late
  have hs : Session.beginAt "/v1" "/token" ⟨some "id", some "secret", some "r1"⟩ s.web = .ok s := rfl
  have hearly : early.session.broken = false := by decide +kernel
  have hlate : late.session.broken = true := by decide +kernel
  refine ⟨hs, ⟨hearly, fun h => ?_⟩, hlate, (broken_iff_endless hs ⟨0⟩ [1000] _).2.1.1 hlate⟩
  have hbroken : early.session.broken = true := (broken_iff_endless hs ⟨0⟩ [999] _).2.1.2 h
  rw [hearly] at hbroken
  cases hbroken

/-- The greatest lifetime of 64 bits breaks a session at its first renewal, and at the first tick of a party. -/
theorem granted_breaks :
    let s := granted (UInt64.size - 1)
    let party := Party.new ⟨none, none, 10⟩ ⟨2000, 5, 10000⟩ (fun _ => ⟨"s"⟩) s default
    Grants (grant ⟨"t1", UInt64.size - 1, none⟩) ⟨"t1", UInt64.size - 1, none⟩ ∧
      (Session.backend.serve ⟨0⟩ .refresh s).2.broken = true ∧
      (party.runTick Session.backend).2.service.broken = true := by
  intro s party
  exact ⟨grants_grant (by decide), by decide +kernel, by decide +kernel⟩

end Spotify
end Jukebox
