import Jukebox.Spotify

/-!
# What was sent to Spotify and what came back

A `Contact` is a request with its answer and the times of both.  Which access token is usable, and which
refresh token is in use, is said of the contacts so far alone (`Usable`, `inUse`), with no regard to what a
session keeps of them.  Each new contact changes this as `standing_concat` and `inUse_concat` say.
-/

namespace Jukebox

/-- The clock shows the sum, if it can. -/
theorem Instant.addSeconds?_eq {t u : Instant} {seconds : Nat} (h : t.addSeconds? seconds = some u) :
    u = t.advance (1000 * seconds) := by
  unfold addSeconds? at h
  dsimp only at h
  split at h
  · exact (Option.some.inj h).symm
  · cases h

namespace Spotify

/-- A request that was made, what was answered to it, and when. -/
structure Contact where
  request : Http.Call
  sent : Instant
  reply : Option Http.Reply
  answered : Instant

variable {client : Client} {x : Contact}

namespace Contact

/-- The authorization of requests for tokens. -/
def basic (client : Client) : String :=
  (issueRequest client "").authorization

/-- The authorization of requests that carry an access token. -/
def bearer (token : String) : String :=
  s!"Bearer {token}"

theorem basic_ne_bearer (client : Client) (token : String) : basic client ≠ bearer token := by
  intro h
  have hchars := congrArg String.toList h
  simp [basic, bearer, issueRequest, toString] at hchars

theorem bearer_inj {token token' : String} (h : bearer token = bearer token') : token = token' := by
  have hchars := congrArg String.toList h
  simp only [bearer, toString, String.toList_append] at hchars
  exact String.toList_injective (by simpa using hchars)

/-- What was issued, if the request was for tokens and the answer was accepted. -/
def issued? (client : Client) (x : Contact) : Option Issue :=
  if x.request.authorization = basic client then do
    let issue ← (issueOf (← x.reply)).toOption
    let _ ← x.answered.addSeconds? (issue.lifetime - margin)
    return issue
  else none

/-- The access token that was issued, and until when it is fresh: a few seconds less than the answer says. -/
def token (x : Contact) (issue : Issue) : Token :=
  ⟨issue.accessToken, x.answered.advance (1000 * (issue.lifetime - margin))⟩

/-- The refresh token that took the place of the one before. -/
def rotated? (client : Client) (x : Contact) : Option String :=
  (x.issued? client).bind (·.refreshToken)

/-- The access token was sent and rejected, and all of the answer came. -/
def Rejects (x : Contact) (token : String) : Prop :=
  x.request.authorization = bearer token ∧
    ∃ reply, x.reply = some reply ∧ reply.status = 401 ∧ reply.body ≠ none

instance (x : Contact) (token : String) : Decidable (x.Rejects token) :=
  decidable_of_iff (x.request.authorization = bearer token ∧
    x.reply.any (fun reply => reply.status = 401 ∧ reply.body ≠ none) = true) <| by
      unfold Rejects
      cases x.reply <;> simp

/-- Only the token that was sent is rejected. -/
theorem Rejects.eq_of_bearer {value token : String} (h : x.Rejects token)
    (hx : x.request.authorization = bearer value) : token = value :=
  bearer_inj (h.1.symm.trans hx)

/-- Nothing is issued for a request that carries an access token. -/
theorem issued?_of_bearer {value : String} (h : x.request.authorization = bearer value) :
    x.issued? client = none :=
  if_neg fun heq => basic_ne_bearer client value (heq.symm.trans h)

/-- A request for tokens rejects none. -/
theorem not_rejects_of_basic (h : x.request.authorization = basic client) (value : String) :
    ¬ x.Rejects value :=
  fun hreject => basic_ne_bearer client value (h.symm.trans hreject.1)

/-- What becomes of a request for tokens. -/
inductive Outcome (client : Client) (x : Contact) : Prop
  | unanswered (hreply : x.reply = none) (hissued : x.issued? client = none)
  | refused {reply : Http.Reply} {e : Fault} (hreply : x.reply = some reply)
      (hissue : issueOf reply = .error e) (hissued : x.issued? client = none)
  /-- The clock cannot show when the access token expires. -/
  | endless {reply : Http.Reply} {issue : Issue} (hreply : x.reply = some reply)
      (hissue : issueOf reply = .ok issue)
      (htime : x.answered.addSeconds? (issue.lifetime - margin) = none)
      (hissued : x.issued? client = none)
  | accepted {reply : Http.Reply} {issue : Issue} (hreply : x.reply = some reply)
      (hissue : issueOf reply = .ok issue)
      (htime : x.answered.addSeconds? (issue.lifetime - margin) = some (x.token issue).expiresAt)
      (hissued : x.issued? client = some issue)

theorem outcome (h : x.request.authorization = basic client) : x.Outcome client := by
  have hissued : x.issued? client = (do
      let issue ← (issueOf (← x.reply)).toOption
      let _ ← x.answered.addSeconds? (issue.lifetime - margin)
      return issue) := if_pos h
  cases hreply : x.reply with
  | none => exact .unanswered hreply (by rw [hissued, hreply]; rfl)
  | some reply =>
    cases hissue : issueOf reply with
    | error e => exact .refused hreply hissue (by simp [hissued, hreply, hissue, Except.toOption])
    | ok issue =>
      cases htime : x.answered.addSeconds? (issue.lifetime - margin) with
      | none =>
        exact .endless hreply hissue htime (by simp [hissued, hreply, hissue, htime, Except.toOption])
      | some time =>
        obtain rfl := Instant.addSeconds?_eq htime
        exact .accepted hreply hissue htime (by simp [hissued, hreply, hissue, htime, Except.toOption])

/-- What was issued is in the answer, and the clock can show when it expires. -/
theorem issued?_eq_some {issue : Issue} (h : x.issued? client = some issue) :
    ∃ reply, x.reply = some reply ∧ issueOf reply = .ok issue ∧
      x.answered.addSeconds? (issue.lifetime - margin) = some (x.token issue).expiresAt := by
  have hbasic : x.request.authorization = basic client := by
    refine Decidable.byContradiction fun hno => ?_
    rw [issued?, if_neg hno] at h
    cases h
  cases outcome hbasic with
  | unanswered _ hissued | refused _ _ hissued | endless _ _ _ hissued =>
    rw [hissued] at h
    cases h
  | accepted hreply hissue htime hissued =>
    rw [hissued] at h
    cases h
    exact ⟨_, hreply, hissue, htime⟩

end Contact

variable {contacts : List Contact}

/-! ## The access token -/

/-- The access token was issued last, and has not been rejected since. -/
def Standing (client : Client) (contacts : List Contact) (token : Token) : Prop :=
  ∃ before x after issue, contacts = before ++ x :: after ∧ x.issued? client = some issue ∧
    token = x.token issue ∧ ∀ y ∈ after, y.issued? client = none ∧ ¬ y.Rejects token.value

theorem not_standing_nil {token : Token} : ¬ Standing client [] token := by
  rintro ⟨before, x, after, issue, heq, -⟩
  cases before <;> cases heq

/-- What one more contact changes: the token that it issued stands, or the one before, if not rejected. -/
theorem standing_concat {token : Token} : Standing client (contacts ++ [x]) token ↔
    (∃ issue, x.issued? client = some issue ∧ token = x.token issue) ∨
    (x.issued? client = none ∧ ¬ x.Rejects token.value ∧ Standing client contacts token) := by
  constructor
  · rintro ⟨before, y, after, issue, heq, hissue, htoken, hafter⟩
    rcases List.eq_nil_or_concat after with rfl | ⟨after, z, rfl⟩
    · obtain ⟨-, hy⟩ := List.append_inj' heq rfl
      cases hy
      exact Or.inl ⟨issue, hissue, htoken⟩
    · rw [List.concat_eq_append, ← List.cons_append, ← List.append_assoc] at heq
      obtain ⟨rfl, hz⟩ := List.append_inj' heq rfl
      cases hz
      rw [List.concat_eq_append] at hafter
      obtain ⟨hnone, hkept⟩ := hafter x (List.mem_append_right after (List.mem_singleton_self x))
      exact Or.inr ⟨hnone, hkept, before, y, after, issue, rfl, hissue, htoken,
        fun u hu => hafter u (List.mem_append_left _ hu)⟩
  · rintro (⟨issue, hissue, htoken⟩ | ⟨hnone, hkept, before, y, after, issue, rfl, hissue, htoken, hafter⟩)
    · exact ⟨contacts, x, [], issue, rfl, hissue, htoken, by simp⟩
    · refine ⟨before, y, after ++ [x], issue, by simp, hissue, htoken, fun u hu => ?_⟩
      rcases List.mem_append.1 hu with hu | hu
      · exact hafter u hu
      · obtain rfl := List.mem_singleton.1 hu
        exact ⟨hnone, hkept⟩

/-! ## The refresh token -/

/-- The refresh token that was issued last, or else the configured one. -/
def inUse (client : Client) (contacts : List Contact) : String :=
  (contacts.filterMap (·.rotated? client)).getLast?.getD client.credentials.refreshToken

theorem inUse_concat :
    inUse client (contacts ++ [x]) = (x.rotated? client).getD (inUse client contacts) := by
  unfold inUse
  rw [List.filterMap_append]
  cases h : x.rotated? client <;> simp [h]

end Spotify
end Jukebox
