import Jukebox.Proofs.Spotify.Stances

/-!
# Tokens are not renewed more often than they are rejected

Jobs take turns on one session, and each of them may find its token lapsed, or see it rejected, when others have
renewed it already.  What keeps them from renewing it once more is that they look again under the lock; what
keeps the new token is that only the value that was rejected is forgotten.

    Balance      all issued tokens were rejected but for those that are left, and tokens were asked for once for
                 each of them
    Settled      what is left is the stored token
    Accounted    how this stands while somebody is about to renew it (May.accounted: what one step preserves)
    Kept         what any number of jobs preserve (kept_run)
-/

namespace Jukebox.Spotify

variable {client : Client} {now : Instant} {first : Option Token}

/-! ## What was asked for, issued and rejected -/

/-- What came of a request when its answer was received. -/
def contactIn (now : Instant) : Exchange moves → Option Contact
  | ⟨.own (.exchange c), reply⟩ => some ⟨c, now, reply, now⟩
  | _ => none

/-- The contacts among some exchanges. -/
def contacts (now : Instant) (t : List (Exchange moves)) : List Contact :=
  t.filterMap (contactIn now)

/-- The access tokens that were issued. -/
def issuedTokens (client : Client) (contacts : List Contact) : List String :=
  contacts.filterMap fun x => (x.issued? client).map (·.accessToken)

/-- A request for tokens is sent. -/
def asksIn (client : Client) (x : Exchange moves) : Bool :=
  match x.request with
  | .send c => c.authorization = Contact.basic client
  | .own _ => false

/-- How often tokens were asked for. -/
def timesAsked (client : Client) (t : List (Exchange moves)) : Nat :=
  t.countP (asksIn client)

/-- The access token was rejected. -/
def isRejected (contacts : List Contact) (value : String) : Bool :=
  contacts.any fun x => x.Rejects value

/-- Every request for tokens was answered with an access token that stays fresh for a while. -/
def AllIssued (client : Client) (contacts : List Contact) : Prop :=
  ∀ x ∈ contacts, x.request.authorization = Contact.basic client →
    (x.issued? client).any (fun issue => margin < issue.lifetime) = true

/-- All issued tokens but those that are `left` were rejected, and so many requests for tokens are under way. -/
def Balance (client : Client) (now : Instant) (t : List (Exchange moves)) (left : List String)
    (underWay : Nat) : Prop :=
  ∃ spent, issuedTokens client (contacts now t) = spent ++ left ∧
    (∀ value ∈ spent, isRejected (contacts now t) value = true) ∧
    timesAsked client t = (issuedTokens client (contacts now t)).length + underWay

section
variable {t : List (Exchange moves)} {x : Exchange moves} {left : List String} {underWay : Nat}

theorem contacts_concat : contacts now (t ++ [x]) = contacts now t ++ (contactIn now x).toList := by
  unfold contacts
  rw [List.filterMap_append]
  cases h : contactIn now x <;> simp [h]

theorem isRejected_concat {value : String} (h : isRejected (contacts now t) value = true) :
    isRejected (contacts now (t ++ [x])) value = true := by
  unfold isRejected at h ⊢
  rw [contacts_concat, List.any_append, h, Bool.true_or]

theorem AllIssued.of_concat (h : AllIssued client (contacts now (t ++ [x]))) :
    AllIssued client (contacts now t) := by
  intro y hy
  refine h y ?_
  rw [contacts_concat]
  exact List.mem_append_left _ hy

theorem issuedTokens_concat (hissued : ∀ y, contactIn now x = some y → y.issued? client = none) :
    issuedTokens client (contacts now (t ++ [x])) = issuedTokens client (contacts now t) := by
  unfold issuedTokens
  rw [contacts_concat, List.filterMap_append]
  cases hx : contactIn now x with
  | none => simp
  | some y => simp [hissued y hx]

theorem timesAsked_concat (hasks : asksIn client x = false) :
    timesAsked client (t ++ [x]) = timesAsked client t := by
  simp [timesAsked, List.countP_append, hasks]

theorem timesAsked_concat_asks (hasks : asksIn client x = true) :
    timesAsked client (t ++ [x]) = timesAsked client t + 1 := by
  simp [timesAsked, List.countP_append, hasks]

/-- Whoever has got the answer to a request for tokens has got one that stays fresh for a while. -/
theorem AllIssued.heard {c : Http.Call} {reply : Option Http.Reply}
    (h : AllIssued client (contacts now (t ++ [⟨.own (.exchange c), reply⟩])))
    (hc : c.authorization = Contact.basic client) :
    ∃ issue, (⟨c, now, reply, now⟩ : Contact).issued? client = some issue ∧ margin < issue.lifetime := by
  have hmem : (⟨c, now, reply, now⟩ : Contact) ∈ contacts now (t ++ [⟨.own (.exchange c), reply⟩]) := by
    rw [contacts_concat]
    exact List.mem_append_right _ (List.mem_singleton_self _)
  obtain ⟨issue, hissue, hlong⟩ := (Option.any_eq_true _ _).1 (h _ hmem hc)
  exact ⟨issue, hissue, of_decide_eq_true hlong⟩

/-- A step by which nothing is asked for or issued. -/
theorem Balance.concat (h : Balance client now t left underWay)
    (hissued : ∀ y, contactIn now x = some y → y.issued? client = none)
    (hasks : asksIn client x = false) : Balance client now (t ++ [x]) left underWay := by
  obtain ⟨spent, htokens, hspent, hasked⟩ := h
  refine ⟨spent, (issuedTokens_concat hissued).trans htokens,
    fun value hvalue => isRejected_concat (hspent value hvalue), ?_⟩
  rw [timesAsked_concat hasks, issuedTokens_concat hissued, hasked]

/-- Tokens are asked for. -/
theorem Balance.asked (h : Balance client now t [] 0) (hx : contactIn now x = none)
    (hasks : asksIn client x = true) : Balance client now (t ++ [x]) [] 1 := by
  obtain ⟨spent, htokens, hspent, hasked⟩ := h
  have hsame : contacts now (t ++ [x]) = contacts now t := by
    rw [contacts_concat, hx]
    exact List.append_nil _
  refine ⟨spent, hsame.symm ▸ htokens, hsame.symm ▸ hspent, ?_⟩
  rw [timesAsked_concat_asks hasks, hsame, hasked]

/-- Tokens are issued. -/
theorem Balance.issued (h : Balance client now t [] 1) {y : Contact} {issue : Issue}
    (hx : contactIn now x = some y) (hy : y.issued? client = some issue) (hasks : asksIn client x = false) :
    Balance client now (t ++ [x]) [issue.accessToken] 0 := by
  obtain ⟨spent, htokens, hspent, hasked⟩ := h
  have hmore : issuedTokens client (contacts now (t ++ [x])) =
      issuedTokens client (contacts now t) ++ [issue.accessToken] := by
    unfold issuedTokens
    rw [contacts_concat, hx, List.filterMap_append]
    simp [hy]
  refine ⟨spent, by rw [hmore, htokens, List.append_nil],
    fun value hvalue => isRejected_concat (hspent value hvalue), ?_⟩
  rw [timesAsked_concat hasks, hmore, hasked, List.length_append, List.length_singleton]

/-- A token that was rejected is no longer left. -/
theorem Balance.spend {value : String} (h : Balance client now t [value] underWay)
    (hvalue : isRejected (contacts now t) value = true) : Balance client now t [] underWay := by
  obtain ⟨spent, htokens, hspent, hasked⟩ := h
  refine ⟨spent ++ [value], by rw [htokens, List.append_nil], fun v hv => ?_, hasked⟩
  rcases List.mem_append.1 hv with hv | hv
  · exact hspent v hv
  · rw [List.mem_singleton.1 hv]
    exact hvalue

/-- Tokens are asked for at most once more than they were rejected. -/
theorem Balance.timesAsked_le (h : Balance client now t left underWay) (hle : left.length + underWay ≤ 1) :
    timesAsked client t ≤ 1 + (issuedTokens client (contacts now t)).countP (isRejected (contacts now t)) := by
  obtain ⟨spent, htokens, hspent, hasked⟩ := h
  have hall : spent.countP (isRejected (contacts now t)) = spent.length :=
    List.countP_eq_length.2 hspent
  rw [hasked, htokens, List.countP_append, hall, List.length_append]
  omega

end

/-! ## What is kept while jobs take turns -/

/-- The stored token is the `first` one as long as none was asked for.  From then on it is fresh, and all other
tokens that were issued were rejected. -/
def Settled (client : Client) (now : Instant) (first : Option Token) (t : List (Exchange moves))
    (token : Option Token) : Prop :=
  (token = first ∧ issuedTokens client (contacts now t) = [] ∧ timesAsked client t = 0) ∨
    ((∀ k, token = some k → now.isBefore k.expiresAt = true) ∧
      Balance client now t (token.toList.map (·.value)) 0)

/-- No token is stored, or the `first` one, which has expired. -/
def Expired (now : Instant) (first token : Option Token) : Prop :=
  ∀ k, token = some k → first = some k ∧ now.isBefore k.expiresAt = false

/-- What the stored token, and the stance of the job that holds the lock, have to do with the tokens so far. -/
def Accounted (client : Client) (now : Instant) (first : Option Token) (t : List (Exchange moves))
    (token : Option Token) : Option Stance → Prop
  | some .lapsed => Expired now first token ∧ Balance client now t [] 0
  | some .asking => Expired now first token ∧ Balance client now t [] 1
  | some (.issued issue) => Expired now first token ∧ Balance client now t [issue.accessToken] 0 ∧
      margin < issue.lifetime ∧ (now.addSeconds? (issue.lifetime - margin)).isSome = true
  | _ => Settled client now first t token

/-- The stance of the job that holds the lock. -/
def phase (stances : List Stance) (holder : Unit → Option Nat) : Option Stance :=
  (holder ()).bind (stances[·]?)

/-- What all jobs preserve. -/
structure Kept (client : Client) (first : Option Token) (stances : List Stance) (c : (desk now).Scene) :
    Prop where
  client_eq : c.state.client = client
  holding : Venue.Holding Stance.held stances c.holder
  rejected : ∀ (who : Nat) (value : String), stances[who]? = some (.rejected value) →
    isRejected (contacts now (c.log.map Venue.Step.exchanged)) value = true
  accounted : AllIssued client (contacts now (c.log.map Venue.Step.exchanged)) →
    Accounted client now first (c.log.map Venue.Step.exchanged) c.state.token (phase stances c.holder)

section
variable {s s' : Stance} {x : Exchange moves}

theorem Quiet.no_lock {m : Move} (h : Quiet client m) : m.taken = none ∧ m.freed = none := by
  cases m with
  | send c => exact ⟨rfl, rfl⟩
  | own a => cases a <;> first | exact ⟨rfl, rfl⟩ | exact h.elim

theorem May.passes (h : May client s x s') : (desk now).Passes x.request s.held s'.held := by
  cases h with
  | quiet hx => exact .stays hx.no_lock.1 hx.no_lock.2
  | acquires => exact .takes rfl rfl
  | releases => exact .frees rfl rfl
  | _ => exact .stays rfl rfl

/-! ### The lock -/

variable {stances : List Stance} {holder : Unit → Option Nat} {who : Nat}

theorem phase_of_held (hholding : Venue.Holding Stance.held stances holder) (hs : stances[who]? = some s)
    (hheld : s.held = some ()) : phase stances holder = some s := by
  unfold phase
  rw [(hholding.holder_iff hs ()).2 hheld]
  exact hs

/-- How the lock's holder changes with a step. -/
theorem phase_stepped (hholding : Venue.Holding Stance.held stances holder) (hs : stances[who]? = some s)
    (hmay : May client s x s') (hadmits : (desk now).admits x.request holder = true) :
    phase (stances.set who s') ((desk now).passed x.request who holder) =
      if s'.held = some () then some s' else if s.held = some () then none else phase stances holder := by
  have hpasses : (desk now).Passes x.request s.held s'.held := hmay.passes
  have hlt := (List.getElem?_eq_some_iff.1 hs).1
  have hown := hholding.holder_iff hs ()
  split
  · next hheld' =>
    exact phase_of_held (hholding.stepped hs hpasses hadmits) (List.getElem?_set_self hlt) hheld'
  · next hheld' =>
    unfold phase Venue.passed
    generalize s.held = before at hpasses hown
    generalize s'.held = after at hpasses hheld'
    have hno : (none : Option Unit) ≠ some () := (Option.some_ne_none ()).symm
    cases hpasses with
    | takes ht hf => exact absurd rfl hheld'
    | frees ht hf => rw [if_pos rfl, ht, hf, if_neg hno, if_pos rfl, Option.bind_none]
    | stays ht hf =>
      rw [if_neg hheld', ht, hf, if_neg hno, if_neg hno]
      cases hholder : holder () with
      | none => rfl
      | some other =>
        refine List.getElem?_set_ne ?_
        rintro rfl
        exact hheld' (hown.1 hholder)

/-! ### The tokens -/

variable {t : List (Exchange moves)} {token : Option Token} {holding : Option Stance}

theorem Settled.concat (h : Settled client now first t token)
    (hissued : ∀ y, contactIn now x = some y → y.issued? client = none) (hasks : asksIn client x = false) :
    Settled client now first (t ++ [x]) token := by
  rcases h with ⟨hfirst, htokens, hasked⟩ | ⟨hfresh, hbalance⟩
  · exact Or.inl ⟨hfirst, (issuedTokens_concat hissued).trans htokens, (timesAsked_concat hasks).trans hasked⟩
  · exact Or.inr ⟨hfresh, hbalance.concat hissued hasks⟩

/-- A token that is stored no longer leaves none behind. -/
theorem Settled.emptied {value : String} (h : Settled client now first t token)
    (hvalue : isRejected (contacts now t) value = true) (htoken : ∀ k, token = some k → k.value = value) :
    Settled client now first t none := by
  refine Or.inr ⟨nofun, ?_⟩
  rcases h with ⟨-, htokens, hasked⟩ | ⟨-, hbalance⟩
  · exact ⟨[], htokens, nofun, by rw [hasked, htokens]; rfl⟩
  · cases token with
    | none => exact hbalance
    | some k =>
      obtain rfl := htoken k rfl
      exact hbalance.spend hvalue

/-- Nothing that is stored can be sent. -/
theorem Settled.expired (h : Settled client now first t token)
    (hstale : ∀ k, token = some k → now.isBefore k.expiresAt = false) :
    Expired now first token ∧ Balance client now t [] 0 := by
  rcases h with ⟨rfl, htokens, hasked⟩ | ⟨hfresh, hbalance⟩
  · exact ⟨fun k hk => ⟨hk, hstale k hk⟩, [], htokens, nofun, by rw [hasked, htokens]; rfl⟩
  · cases token with
    | none => exact ⟨nofun, hbalance⟩
    | some k => exact absurd (hfresh k rfl) (Bool.eq_false_iff.1 (hstale k rfl))

theorem Expired.filter (h : Expired now first token) (p : Token → Bool) :
    Expired now first (token.filter p) :=
  fun k hk => h k (Option.filter_eq_some_iff.1 hk).1

/-- Nothing changes with a step by which nothing is asked for or issued. -/
theorem Accounted.concat (h : Accounted client now first t token holding)
    (hissued : ∀ y, contactIn now x = some y → y.issued? client = none) (hasks : asksIn client x = false) :
    Accounted client now first (t ++ [x]) token holding := by
  match holding, h with
  | some .lapsed, h => exact ⟨h.1, h.2.concat hissued hasks⟩
  | some .asking, h => exact ⟨h.1, h.2.concat hissued hasks⟩
  | some (.issued issue), h => exact ⟨h.1, h.2.1.concat hissued hasks, h.2.2⟩
  | none, h | some .idle, h | some (.rejected _), h | some .looking, h | some .finishing, h =>
    exact Settled.concat h hissued hasks

/-- A step that is no part of a request. -/
theorem Accounted.silent (h : Accounted client now first t token holding) (hheard : contactIn now x = none)
    (hasks : asksIn client x = false) : Accounted client now first (t ++ [x]) token holding := by
  refine h.concat (fun y hy => ?_) hasks
  rw [hheard] at hy
  cases hy

/-- A token that was rejected is forgotten. -/
theorem Accounted.forget {value : String} (h : Accounted client now first t token holding)
    (hvalue : isRejected (contacts now t) value = true) :
    Accounted client now first t (token.filter fun k => decide (k.value ≠ value)) holding := by
  match holding, h with
  | some .lapsed, h => exact ⟨h.1.filter _, h.2⟩
  | some .asking, h => exact ⟨h.1.filter _, h.2⟩
  | some (.issued issue), h => exact ⟨h.1.filter _, h.2⟩
  | none, h | some .idle, h | some (.rejected _), h | some .looking, h | some .finishing, h =>
    cases token with
    | none => exact h
    | some k =>
      by_cases hk : k.value = value
      · have hfilter : (some k).filter (fun k => decide (k.value ≠ value)) = none := by simp [hk]
        rw [hfilter]
        refine Settled.emptied h hvalue fun k' hk' => ?_
        cases hk'
        exact hk
      · have hfilter : (some k).filter (fun k => decide (k.value ≠ value)) = some k := by simp [hk]
        rw [hfilter]
        exact h

theorem Quiet.unheard (now : Instant) (h : Quiet client x.request) :
    (∀ y, contactIn now x = some y → y.issued? client = none) ∧ asksIn client x = false := by
  obtain ⟨m, answer⟩ := x
  cases m with
  | send c => exact ⟨nofun, decide_eq_false h⟩
  | own a =>
    refine ⟨fun y hy => ?_, rfl⟩
    cases a with
    | exchange c =>
      cases hy
      exact if_neg h
    | _ => cases hy

theorem Quiet.token_eq {m : Move} (h : Quiet client m) (session : Session) :
    (Move.serve now m session).2.token = session.token := by
  cases m with
  | send c => rfl
  | own a => cases a <;> first | rfl | exact h.elim

/-- Who takes a token for rejected has got the answer that says so. -/
theorem May.heard_rejected {value : String} (h : May client s x (.rejected value)) :
    isRejected (contacts now (t ++ [x])) value = true := by
  cases h with
  | @rejects c reply _ hc hreply =>
    unfold isRejected
    rw [contacts_concat, List.any_append, Bool.or_eq_true]
    refine Or.inr (List.any_eq_true.2 ⟨⟨c, now, some reply, now⟩, List.mem_singleton_self _, ?_⟩)
    exact decide_eq_true ⟨hc, reply, rfl, hreply⟩

/-- No fresh token was found under the lock. -/
theorem Accounted.lapsed {session : Session} (h : Accounted client now first t session.token (some .looking))
    (hstale : session.fresh? now = none) : Accounted client now first t session.token (some .lapsed) := by
  refine Settled.expired h fun k hk => ?_
  unfold Session.fresh? at hstale
  rw [hk] at hstale
  simpa using hstale

/-- Tokens are issued to the job that holds the lock. -/
theorem Accounted.issued (h : Accounted client now first t token (some .asking)) {c : Http.Call}
    {reply : Option Http.Reply} {issue : Issue}
    (hissued : (⟨c, now, reply, now⟩ : Contact).issued? client = some issue)
    (hlong : margin < issue.lifetime) :
    Accounted client now first (t ++ [⟨.own (.exchange c), reply⟩]) token (some (.issued issue)) := by
  obtain ⟨_, _, _, htime⟩ := Contact.issued?_eq_some hissued
  exact ⟨h.1, h.2.issued rfl hissued rfl, hlong, Option.isSome_iff_exists.2 ⟨_, htime⟩⟩

/-- The token that was issued is stored, and it is fresh. -/
theorem Accounted.stored {session : Session} {issue : Issue}
    (h : Accounted client now first t session.token (some (.issued issue))) :
    Accounted client now first t
      (Session.serve now (.store issue.accessToken (issue.lifetime - margin)) session).2.token
      (some .finishing) := by
  obtain ⟨-, hbalance, hlong, hshown⟩ := h
  obtain ⟨time, htime⟩ := Option.isSome_iff_exists.1 hshown
  have hbefore : now.isBefore time = true := by
    rw [Instant.addSeconds?_eq htime]
    refine decide_eq_true ?_
    simp only [Instant.advance]
    omega
  rw [Session.serve_store, htime]
  refine Or.inr ⟨fun k hk => ?_, hbalance⟩
  cases hk
  exact hbefore

theorem answer_eq {m m' : Move} {answer : m'.Answer} {session : Session}
    (h : (⟨m, (Move.serve now m session).1⟩ : Exchange moves) = ⟨m', answer⟩) :
    m = m' ∧ (Move.serve now m' session).1 = answer := by
  cases h
  exact ⟨rfl, rfl⟩

/-- What a job's step does to the tokens. -/
theorem May.accounted {m : Move} {session : Session}
    (hmay : May client s ⟨m, (Move.serve now m session).1⟩ s')
    (hrejected : ∀ value, s = .rejected value → isRejected (contacts now t) value = true)
    (hholding : s.held = some () → holding = some s) (hfree : m = .own .acquire → holding = none)
    (hall : AllIssued client (contacts now (t ++ [⟨m, (Move.serve now m session).1⟩])))
    (h : Accounted client now first t session.token holding) :
    Accounted client now first (t ++ [⟨m, (Move.serve now m session).1⟩]) (Move.serve now m session).2.token
      (if s'.held = some () then some s' else if s.held = some () then none else holding) := by
  have hquiet : Quiet client m → Accounted client now first (t ++ [⟨m, (Move.serve now m session).1⟩])
      (Move.serve now m session).2.token holding := by
    intro hm
    rw [hm.token_eq session]
    obtain ⟨hissued, hasks⟩ := Quiet.unheard now (x := ⟨m, (Move.serve now m session).1⟩) hm
    exact h.concat hissued hasks
  generalize hx : (⟨m, (Move.serve now m session).1⟩ : Exchange moves) = x at hmay hall hquiet ⊢
  cases hmay with
  | quiet hm =>
    subst hx
    exact hquiet hm
  | rejects hc hreply =>
    obtain ⟨rfl, -⟩ := answer_eq hx
    exact hquiet fun heq => Contact.basic_ne_bearer client _ (heq.symm.trans hc)
  | @forgets value =>
    obtain ⟨rfl, -⟩ := answer_eq hx
    show Accounted client now first _ (session.forget value).token holding
    rw [Session.forget_eq]
    exact (h.silent rfl rfl).forget (isRejected_concat (hrejected value rfl))
  | acquires =>
    obtain ⟨rfl, -⟩ := answer_eq hx
    rw [hfree rfl] at h
    exact h.silent rfl rfl
  | spares =>
    obtain ⟨rfl, -⟩ := answer_eq hx
    rw [hholding rfl] at h
    have h : Accounted client now first t session.token (some .finishing) := h
    exact h.silent rfl rfl
  | lapses =>
    obtain ⟨rfl, hanswer⟩ := answer_eq hx
    rw [hholding rfl] at h
    exact (h.lapsed hanswer).silent rfl rfl
  | recalls =>
    obtain ⟨rfl, -⟩ := answer_eq hx
    rw [hholding rfl] at h
    exact h.silent rfl rfl
  | asks hc =>
    obtain ⟨rfl, -⟩ := answer_eq hx
    rw [hholding rfl] at h
    exact ⟨h.1, h.2.asked rfl (decide_eq_true hc)⟩
  | @refused c reply hc hreply =>
    obtain ⟨issue, hissue, -⟩ := hall.heard hc
    obtain ⟨r, hr, hok, -⟩ := Contact.issued?_eq_some hissue
    exact absurd hok (hreply r issue hr)
  | @issues c reply issue hc hreply =>
    obtain ⟨rfl, -⟩ := answer_eq hx
    rw [hholding rfl] at h
    obtain ⟨issue', hissue, hlong⟩ := hall.heard hc
    obtain ⟨_, ⟨⟩, hok, -⟩ := Contact.issued?_eq_some hissue
    obtain rfl := Except.ok.inj (hreply.symm.trans hok)
    exact h.issued hissue hlong
  | @stores issue stored =>
    obtain ⟨rfl, -⟩ := answer_eq hx
    rw [hholding rfl] at h
    exact h.stored.silent rfl rfl
  | rotates =>
    obtain ⟨rfl, -⟩ := answer_eq hx
    rw [hholding rfl] at h
    exact h.silent rfl rfl
  | releases =>
    obtain ⟨rfl, -⟩ := answer_eq hx
    rw [hholding rfl] at h
    have h : Accounted client now first t session.token none := h
    exact h.silent rfl rfl

end

/-! ## Runs -/

section
variable {stances : List Stance} {c : (desk now).Scene} {job : Job}

theorem Kept.start (now : Instant) (session : Session) :
    Kept session.client session.token [] (Venue.Scene.start (desk now) session) := by
  refine ⟨rfl, fun lock who => ⟨?_, ?_⟩, ?_, fun _ => ?_⟩
  · intro hwho
    cases hwho
  · rintro ⟨s, hs, -⟩
    cases hs
  · intro who value hs
    cases hs
  · exact Or.inl ⟨rfl, rfl, rfl⟩

theorem Kept.begun (h : Kept client first stances c) (job : Job) :
    Kept client first (stances ++ [.idle]) (c.begun job) := by
  refine ⟨h.client_eq, h.holding.begun rfl, fun who value hs => ?_, fun hall => ?_⟩
  · rcases Venue.Scene.getElem?_concat hs with ⟨-, hidle⟩ | hold
    · cases hidle
    · exact h.rejected who value hold
  · have hphase : phase (stances ++ [.idle]) c.holder = phase stances c.holder := by
      unfold phase
      cases hholder : c.holder () with
      | none => rfl
      | some who => exact List.getElem?_append_left (h.holding.lt hholder)
    show Accounted client now first _ c.state.token (phase (stances ++ [.idle]) c.holder)
    rw [hphase]
    exact h.accounted hall

theorem client_serve (now : Instant) (m : Move) (session : Session) :
    (Move.serve now m session).2.client = session.client := by
  cases m with
  | send c => rfl
  | own a =>
    cases a with
    | forget rejected =>
      show (session.forget rejected).client = _
      rw [Session.forget_eq]
    | store value seconds =>
      show (Session.serve now (.store value seconds) session).2.client = _
      rw [Session.serve_store]
      cases now.addSeconds? seconds <;> rfl
    | _ => rfl

theorem exchanged_stepped {who : Nat} {m : Move} {next : m.Answer → Program moves (Except Error job.Result)} :
    (c.stepped who job m next).log.map Venue.Step.exchanged =
      c.log.map Venue.Step.exchanged ++ [⟨m, (Move.serve now m c.state).1⟩] :=
  List.map_append

theorem Kept.stepped (h : Kept client first stances c) {who : Nat} {m : Move}
    {next : m.Answer → Program moves (Except Error job.Result)} {s s' : Stance}
    (hs : stances[who]? = some s) (hadmits : (desk now).admits m c.holder = true)
    (hmay : May client s ⟨m, (Move.serve now m c.state).1⟩ s') :
    Kept client first (stances.set who s') (c.stepped who job m next) := by
  have hlt := (List.getElem?_eq_some_iff.1 hs).1
  refine ⟨(client_serve now m c.state).trans h.client_eq, h.holding.stepped hs hmay.passes hadmits,
    fun other value hother => ?_, fun hall => ?_⟩
  · rw [exchanged_stepped]
    rcases Venue.Scene.getElem?_of_set hlt hother with ⟨-, rfl⟩ | ⟨-, hold⟩
    · exact hmay.heard_rejected
    · exact isRejected_concat (h.rejected other value hold)
  · rw [exchanged_stepped] at hall ⊢
    have haccounted := h.accounted hall.of_concat
    show Accounted client now first _ (Move.serve now m c.state).2.token
      (phase (stances.set who s') ((desk now).passed m who c.holder))
    have hphase : phase (stances.set who s') ((desk now).passed m who c.holder) = _ :=
      phase_stepped h.holding hs hmay hadmits
    rw [hphase]
    refine hmay.accounted (fun value heq => h.rejected who value (heq ▸ hs)) (phase_of_held h.holding hs)
      (fun heq => ?_) hall haccounted
    subst heq
    have hfree : c.holder () = none := by simpa [Venue.admits, Move.taken] using hadmits
    unfold phase
    rw [hfree]
    rfl

theorem kept_run (session : Session) (now : Instant) (picks : List (Pick Job)) :
    ∃ stances, Kept session.client session.token stances ((Venue.Scene.start (desk now) session).run picks) ∧
      Venue.Scene.Stands (May session.client) (fun _ s _ => s = .idle) stances
        ((Venue.Scene.start (desk now) session).run picks) := by
  refine Venue.Scene.run_stands (Kept session.client session.token) ?_ ?_ (Kept.start now session)
  · intro stances c job _ _ hkept
    refine ⟨.idle, ?_, hkept.begun job⟩
    rw [← hkept.client_eq]
    exact job.follows c.state.client
  · intro stances c who job m next s s' _ _ hs hadmits hmay hkept
    exact hkept.stepped hs hadmits hmay

end

/-! ## Stored tokens -/

section
variable {t : List (Exchange moves)} {k : Token}

theorem Accounted.timesAsked_le {token : Option Token} {holding : Option Stance}
    (h : Accounted client now first t token holding) : timesAsked client t ≤
      1 + (issuedTokens client (contacts now t)).countP (isRejected (contacts now t)) := by
  match holding, h with
  | some .lapsed, h => exact h.2.timesAsked_le (by simp)
  | some .asking, h => exact h.2.timesAsked_le (by simp)
  | some (.issued issue), h => exact h.2.1.timesAsked_le (by simp)
  | none, h | some .idle, h | some (.rejected _), h | some .looking, h | some .finishing, h =>
    rcases h with ⟨-, -, hasked⟩ | ⟨-, hbalance⟩
    · omega
    · exact hbalance.timesAsked_le (by cases token <;> simp)

/-- A stored token is the newest one, and nobody stores another one meanwhile. -/
theorem Accounted.of_stored {holding : Option Stance} (h : Accounted client now first t (some k) holding)
    (hk : first = some k → now.isBefore k.expiresAt = true) :
    (∃ older, first.toList.map (·.value) ++ issuedTokens client (contacts now t) = older ++ [k.value]) ∧
      ∀ issue, holding ≠ some (.issued issue) := by
  have hno : ¬ Expired now first (some k) := fun hexpired => by
    obtain ⟨hfirst, hstale⟩ := hexpired k rfl
    exact Bool.false_ne_true (hstale.symm.trans (hk hfirst))
  match holding, h with
  | some .lapsed, h | some .asking, h | some (.issued _), h => exact absurd h.1 hno
  | none, h | some .idle, h | some (.rejected _), h | some .looking, h | some .finishing, h =>
    refine ⟨?_, nofun⟩
    rcases h with ⟨rfl, htokens, -⟩ | ⟨-, older, htokens, -⟩
    · exact ⟨[], by rw [htokens]; rfl⟩
    · exact ⟨first.toList.map (·.value) ++ older, by rw [htokens, List.append_assoc]; rfl⟩

/-- A stored token stays, unless it was rejected itself. -/
theorem May.token_eq {m : Move} {session : Session} {s s' : Stance}
    (hmay : May client s ⟨m, (Move.serve now m session).1⟩ s') (hs : ∀ issue, s ≠ .issued issue)
    (hk : session.token = some k) : (Move.serve now m session).2.token = some k ∨
      (m = .own (.forget k.value) ∧ s = .rejected k.value) := by
  generalize hx : (⟨m, (Move.serve now m session).1⟩ : Exchange moves) = x at hmay
  cases hmay with
  | quiet hm =>
    subst hx
    exact Or.inl ((Quiet.token_eq hm session).trans hk)
  | @forgets value =>
    obtain ⟨rfl, -⟩ := answer_eq hx
    by_cases hvalue : k.value = value
    · subst hvalue
      exact Or.inr ⟨rfl, rfl⟩
    · refine Or.inl ?_
      show (session.forget value).token = some k
      rw [Session.forget_eq]
      simp [hk, hvalue]
  | stores => exact absurd rfl (hs _)
  | _ =>
    obtain ⟨rfl, -⟩ := answer_eq hx
    exact Or.inl hk

end

/-- The token that a job is about to forget. -/
def aboutToForget? (c : (desk now).Scene) (who : Nat) : Option String :=
  (c.pending[who]?).bind fun q =>
    match q.rest with
    | .ask (.own (.forget value)) _ => some value
    | _ => none

/-- **Tokens are not renewed more often than they are rejected.**  Let any number of calls and operations of the
gateway take turns on one session, while the clock stands still; whatever is answered to them, let every request
for tokens be answered with an access token that is a new one and stays fresh for a while.  Then tokens are asked
for at most once more than issued tokens were rejected.

The stored token is always the newest one, but for one that had expired in the beginning.  Whatever step comes
next, it stays where it is, unless the step is to forget it after it was rejected itself: a job that is about to
forget an older one leaves it. -/
theorem renewals_not_duplicated (session : Session) (now : Instant) (picks : List (Pick Job)) :
    let c := (Venue.Scene.start (desk now) session).run picks
    let heard := contacts now (c.log.map Venue.Step.exchanged)
    let issued := issuedTokens session.client heard
    let tokens := session.token.toList.map (·.value) ++ issued
    AllIssued session.client heard → tokens.Nodup →
      timesAsked session.client (c.log.map Venue.Step.exchanged) ≤ 1 + issued.countP (isRejected heard) ∧
      ∀ k, c.state.token = some k → (session.token = some k → now.isBefore k.expiresAt = true) →
        ∃ older, tokens = older ++ [k.value] ∧ k.value ∉ older ∧
          (∀ who value, aboutToForget? c who = some value → value ∈ older →
            (c.turn (.proceed who)).state.token = some k) ∧
          ∀ pick, (c.turn pick).state.token = some k ∨ ∃ who, pick = .proceed who ∧
            aboutToForget? c who = some k.value ∧ isRejected heard k.value = true := by
  intro c heard issued tokens hall hnew
  obtain ⟨stances, hkept, hstands⟩ := kept_run session now picks
  have haccounted := hkept.accounted hall
  refine ⟨haccounted.timesAsked_le, fun k hk hfirst => ?_⟩
  rw [hk] at haccounted
  obtain ⟨⟨older, htokens⟩, hno⟩ := haccounted.of_stored hfirst
  have hstays : ∀ pick, (c.turn pick).state.token = some k ∨ ∃ who, pick = .proceed who ∧
      aboutToForget? c who = some k.value ∧ isRejected heard k.value = true := by
    intro pick
    rcases c.turn_cases pick with ⟨job, -, heq⟩ | ⟨who, job, m, next, hpick, hwho, -, heq⟩ | heq
    · rw [heq]
      exact Or.inl hk
    · obtain ⟨s, s', hs, hmay, -⟩ := hstands.stepped hwho
      have hother : ∀ issue, s ≠ .issued issue := by
        rintro issue rfl
        exact hno issue (phase_of_held hkept.holding hs rfl)
      rcases hmay.token_eq hother hk with htoken | ⟨rfl, rfl⟩
      · rw [heq]
        exact Or.inl htoken
      · refine Or.inr ⟨who, hpick, ?_, hkept.rejected who _ hs⟩
        unfold aboutToForget?
        rw [hwho]
        rfl
    · rw [heq]
      exact Or.inl hk
  have hfresh : k.value ∉ older := by
    have hnodup : (older ++ [k.value]).Nodup := htokens ▸ hnew
    exact fun hmem => (List.nodup_append.1 hnodup).2.2 _ hmem _ (List.mem_singleton_self _) rfl
  refine ⟨older, htokens, hfresh, fun who value hwho hvalue => ?_, hstays⟩
  rcases hstays (.proceed who) with htoken | ⟨who', hpick, hwho', -⟩
  · exact htoken
  · cases hpick
    cases hwho.symm.trans hwho'
    exact absurd hvalue hfresh

/-- A session whose first token is rejected twice, for the second time when there is a new one already. -/
def rejectedLate : Session :=
  let text (status : Nat) (s : String) : Option Http.Reply := some ⟨status, some (Text.Utf8.encode s.toList)⟩
  ⟨⟨"/v1", "/token", ⟨"id", "secret", "r1"⟩⟩, none, "r1", .answering [text 200 "[\"t1\",3600,null]", text 401 "",
    text 200 "[\"t2\",3600,null]", text 401 ""], false⟩

/-- Two jobs find that there is no token, and one of them asks for it.  Both send it then.  The first one gets
the answer, and another job renews the token before the second one gets its answer. -/
def overtaken : List (Pick Job) :=
  [.begin (.operate none .skip), .begin (.operate none .skip)] ++
  [0, 1, 0, 0, 0, 0, 0, 0, 0, 1, 1, 1, 0, 0, 1, 1, 0, 0].map .proceed ++
  [.begin (.operate none .skip)] ++ [2, 2, 2, 2, 2, 2, 2, 2, 1].map .proceed

def overtakenScene : (desk ⟨0⟩).Scene :=
  (Venue.Scene.start (desk ⟨0⟩) rejectedLate).run overtaken

/-- Tokens were asked for twice, and the second job leaves the new token. -/
theorem renewals_not_duplicated_overtaken :
    let t := overtakenScene.log.map Venue.Step.exchanged
    let heard := contacts ⟨0⟩ t
    rejectedLate.token = none ∧ AllIssued rejectedLate.client heard ∧
      issuedTokens rejectedLate.client heard = ["t1", "t2"] ∧
      timesAsked rejectedLate.client t = 2 ∧ 2 ≤ 1 + ["t1", "t2"].countP (isRejected heard) ∧
      aboutToForget? overtakenScene 1 = some "t1" ∧
      ∃ k, k.value = "t2" ∧ overtakenScene.state.token = some k ∧
        (overtakenScene.turn (.proceed 1)).state.token = some k := by
  have hall : AllIssued rejectedLate.client (contacts ⟨0⟩ (overtakenScene.log.map Venue.Step.exchanged)) := by
    unfold AllIssued
    decide +kernel
  have htokens : issuedTokens rejectedLate.client
      (contacts ⟨0⟩ (overtakenScene.log.map Venue.Step.exchanged)) = ["t1", "t2"] := by decide +kernel
  have hasked : timesAsked rejectedLate.client (overtakenScene.log.map Venue.Step.exchanged) = 2 := by
    decide +kernel
  have hforget : aboutToForget? overtakenScene 1 = some "t1" := by decide +kernel
  have hk : overtakenScene.state.token = some ⟨"t2", ⟨3590000⟩⟩ := by decide +kernel
  have hnew : (rejectedLate.token.toList.map (·.value) ++ issuedTokens rejectedLate.client
      (contacts ⟨0⟩ (overtakenScene.log.map Venue.Step.exchanged))).Nodup := by
    rw [htokens]
    decide
  have hscene : (Venue.Scene.start (desk ⟨0⟩) rejectedLate).run overtaken = overtakenScene := rfl
  have h := renewals_not_duplicated rejectedLate ⟨0⟩ overtaken
  dsimp only at h
  rw [hscene] at h
  obtain ⟨hle, hstored⟩ := h hall hnew
  obtain ⟨older, holder, -, hleft, -⟩ := hstored _ hk nofun
  rw [htokens] at holder hle
  obtain rfl : ["t1"] = older := List.append_cancel_right holder
  rw [hasked] at hle
  exact ⟨rfl, hall, htokens, hasked, hle, hforget, _, rfl, hk,
    hleft 1 "t1" hforget (List.mem_singleton_self _)⟩

end Jukebox.Spotify
