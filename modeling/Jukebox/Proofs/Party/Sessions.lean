import Jukebox.Proofs.Party.Venue

/-!
# Sessions and their rights

Sessions are created by requests for them only, each under a new name, and stay as they are.  So the rights
of a session are those that its password gave it when it was opened, whatever else happens at the party
(`registered_run`).
-/

namespace Jukebox.Party

variable {σ : Type} {backend : Backend σ}

/-- A session of this name was opened with the password. -/
def Opened (c : (venue backend).Scene) (password : Option String) (id : SessionId) : Prop :=
  ∃ (who : Nat) (nickname : Option String),
    c.pending[who]? = some ⟨.request (.openSession password nickname), .done (.ok id)⟩

/-- The deed is not a request for a session. -/
def NoOpening (d : Deed σ) : Prop :=
  ∀ password nickname, d ≠ .request (.openSession password nickname)

/-- Sessions are those that were opened, and they have the rights that their passwords gave them. -/
structure Registered (rules : Rules) (names : Nat → SessionId) (c : (venue backend).Scene) : Prop where
  ruled : c.state.rules = rules
  named : c.state.sessionNames = names
  /-- Nothing else creates sessions. -/
  others : ∀ (who : Nat) (d : Deed σ) (rest : Program interface d.Result),
    c.pending[who]? = some ⟨d, rest⟩ → NoOpening d → rest.Only Ordinary
  /-- To open a session takes one step. -/
  opening : ∀ (who : Nat) (password nickname : Option String)
    (rest : Program interface (Except Error SessionId)),
    c.pending[who]? = some ⟨.request (.openSession password nickname), rest⟩ →
      rest = (openSession rules password nickname).run ∨ ∃ id, rest = .done (.ok id)
  opened : ∀ password id, Opened c password id →
    (∃ i < c.state.sessionsCreated, id = names i) ∧
      ∃ session, c.state.sessions.get? id = some session ∧ session.isAdmin = rules.grantsAdmin password
  asked : ∀ id session, c.state.sessions.get? id = some session → ∃ password, Opened c password id
  /-- A session stays as it was created. -/
  kept : ∀ x ∈ c.log, ∀ id session, x.state.sessions.get? id = some session →
    c.state.sessions.get? id = some session

theorem openSession_eq (rules : Rules) (password nickname : Option String) :
    (openSession rules password nickname).run =
      .ask (.addSession nickname (rules.grantsAdmin password)) fun session =>
        .done (.ok (session : Session).id) := rfl

theorem sessions_serve (backend : Backend σ) {a : Action} (ha : Ordinary a) (p : Party σ) :
    (serve backend a p).2.sessions = p.sessions ∧
      (serve backend a p).2.sessionsCreated = p.sessionsCreated := by
  cases a with
  | addSession => exact ha.elim
  | _ => exact ⟨rfl, rfl⟩

section
variable {rules : Rules} {names : Nat → SessionId} {c : (venue backend).Scene} {who : Nat} {d : Deed σ}
  {a : Action} {next : a.Answer → Program interface d.Result}

theorem Opened.begun {password : Option String} {id : SessionId} (h : Opened c password id)
    (d : Deed σ) : Opened (c.begun d) password id := by
  obtain ⟨who, nickname, hwho⟩ := h
  exact ⟨who, nickname, (List.getElem?_append_left (Venue.Scene.pending_lt hwho)).trans hwho⟩

theorem Opened.stepped {password : Option String} {id : SessionId} (h : Opened c password id)
    (hwho : c.pending[who]? = some ⟨d, .ask a next⟩) :
    Opened (c.stepped who d a next) password id := by
  obtain ⟨other, nickname, hother⟩ := h
  have hne : who ≠ other := by
    rintro rfl
    rw [hwho] at hother
    cases hother
  exact ⟨other, nickname, (List.getElem?_set_ne hne).trans hother⟩

theorem registered_begun (h : Registered rules names c)
    (hjoin : ∀ nickname isAdmin, d ≠ .join nickname isAdmin) : Registered rules names (c.begun d) := by
  have hstate : (d.effect c.state).rules = rules ∧ (d.effect c.state).sessionNames = names ∧
      (d.effect c.state).sessions = c.state.sessions ∧
      (d.effect c.state).sessionsCreated = c.state.sessionsCreated := by
    cases d <;> exact ⟨h.ruled, h.named, rfl, rfl⟩
  obtain ⟨hrules, hnames, hsessions, hcreated⟩ := hstate
  refine ⟨hrules, hnames, ?_, ?_, ?_, ?_, ?_⟩
  · intro other d' rest hother hno
    rcases Venue.Scene.pending_begun hother with ⟨-, hq⟩ | hold
    · cases hq
      exact (Deed.made_ordinary c.state hno hjoin).only (fun _ => trivial) fun _ => id
    · exact h.others other d' rest hold hno
  · intro other password nickname rest hother
    rcases Venue.Scene.pending_begun hother with ⟨-, hq⟩ | hold
    · cases hq
      refine Or.inl ?_
      show (openSession c.state.rules password nickname).run = _
      rw [h.ruled]
    · exact h.opening other password nickname rest hold
  · rintro password id ⟨other, nickname, hother⟩
    rcases Venue.Scene.pending_begun hother with ⟨-, hq⟩ | hold
    · cases hq
    · show (∃ i < (d.effect c.state).sessionsCreated, id = names i) ∧
        ∃ session, (d.effect c.state).sessions.get? id = some session ∧ _
      rw [hsessions, hcreated]
      exact h.opened password id ⟨other, nickname, hold⟩
  · intro id session hget
    have hget : (d.effect c.state).sessions.get? id = some session := hget
    rw [hsessions] at hget
    obtain ⟨password, hopened⟩ := h.asked id session hget
    exact ⟨password, hopened.begun d⟩
  · intro x hx id session hget
    show (d.effect c.state).sessions.get? id = some session
    rw [hsessions]
    exact h.kept x hx id session hget

/-- A step of a deed that creates no session. -/
theorem registered_stepped_ordinary (h : Registered rules names c) (hd : NoOpening d)
    (hwho : c.pending[who]? = some ⟨d, .ask a next⟩) : Registered rules names (c.stepped who d a next) := by
  have honly := h.others who d _ hwho hd
  obtain ⟨hsessions, hcreated⟩ := sessions_serve backend honly.1 c.state
  obtain ⟨hrules, hnames⟩ := rules_serve backend a c.state
  refine ⟨hrules.trans h.ruled, hnames.trans h.named, ?_, ?_, ?_, ?_, ?_⟩
  · intro other d' rest hother hno
    rcases Venue.Scene.pending_stepped hwho hother with ⟨rfl, hq⟩ | ⟨-, hold⟩
    · cases hq
      exact honly.2 _
    · exact h.others other d' rest hold hno
  · intro other password nickname rest hother
    rcases Venue.Scene.pending_stepped hwho hother with ⟨rfl, hq⟩ | ⟨-, hold⟩
    · exact absurd (congrArg Venue.Pending.deed hq).symm (hd password nickname)
    · exact h.opening other password nickname rest hold
  · rintro password id ⟨other, nickname, hother⟩
    show (∃ i < (serve backend a c.state).2.sessionsCreated, id = names i) ∧
      ∃ session, (serve backend a c.state).2.sessions.get? id = some session ∧ _
    rw [hsessions, hcreated]
    rcases Venue.Scene.pending_stepped hwho hother with ⟨rfl, hq⟩ | ⟨-, hold⟩
    · exact absurd (congrArg Venue.Pending.deed hq).symm (hd password nickname)
    · exact h.opened password id ⟨other, nickname, hold⟩
  · intro id session hget
    have hget : (serve backend a c.state).2.sessions.get? id = some session := hget
    rw [hsessions] at hget
    obtain ⟨password, hopened⟩ := h.asked id session hget
    exact ⟨password, hopened.stepped hwho⟩
  · intro x hx id session hget
    show (serve backend a c.state).2.sessions.get? id = some session
    rw [hsessions]
    rcases List.mem_append.1 hx with hx | hx
    · exact h.kept x hx id session hget
    · obtain rfl := List.mem_singleton.1 hx
      exact hget

/-- The step that creates a session.  Its name is new, so no session that is there is replaced. -/
theorem registered_stepped_opening (hnames : Function.Injective names) (h : Registered rules names c)
    {password nickname : Option String} {next : a.Answer → Program interface (Except Error SessionId)}
    (hwho : c.pending[who]? = some ⟨.request (.openSession password nickname), .ask a next⟩) :
    Registered rules names (c.stepped who (.request (.openSession password nickname)) a next) := by
  rcases (h.opening who password nickname _ hwho).symm with ⟨id, heq⟩ | heq
  · cases heq
  rw [openSession_eq] at heq
  cases heq
  let created : Session :=
    ⟨c.state.sessionNames c.state.sessionsCreated, nickname, rules.grantsAdmin password, c.state.time⟩
  have hnew : ∀ id session, c.state.sessions.get? id = some session →
      c.state.sessionNames c.state.sessionsCreated ≠ id := by
    intro id session hget heq
    obtain ⟨password', hopened⟩ := h.asked id session hget
    obtain ⟨⟨i, hi, hid⟩, -⟩ := h.opened password' id hopened
    rw [h.named, hid] at heq
    exact absurd (hnames heq) (Nat.ne_of_gt hi)
  have hkept : ∀ id session, c.state.sessions.get? id = some session →
      (serve backend (.addSession nickname (rules.grantsAdmin password)) c.state).2.sessions.get? id =
        some session := by
    intro id session hget
    exact (Sessions.get?_insert _ created _).trans ((if_neg (hnew id session hget)).trans hget)
  refine ⟨h.ruled, h.named, ?_, ?_, ?_, ?_, ?_⟩
  · intro other d' rest hother hno
    rcases Venue.Scene.pending_stepped hwho hother with ⟨rfl, hq⟩ | ⟨-, hold⟩
    · cases hq
      exact absurd rfl (hno password nickname)
    · exact h.others other d' rest hold hno
  · intro other password' nickname' rest hother
    rcases Venue.Scene.pending_stepped hwho hother with ⟨rfl, hq⟩ | ⟨-, hold⟩
    · cases hq
      exact Or.inr ⟨_, rfl⟩
    · exact h.opening other password' nickname' rest hold
  · rintro password' id ⟨other, nickname', hother⟩
    rcases Venue.Scene.pending_stepped hwho hother with ⟨rfl, hq⟩ | ⟨-, hold⟩
    · cases hq
      have hnamed : c.state.sessionNames c.state.sessionsCreated = names c.state.sessionsCreated :=
        congrFun h.named _
      refine ⟨⟨_, Nat.lt_succ_self c.state.sessionsCreated, hnamed⟩, created, ?_, rfl⟩
      exact (Sessions.get?_insert _ created _).trans (if_pos rfl)
    · obtain ⟨⟨i, hi, hid⟩, session, hget, hadmin⟩ := h.opened password' id ⟨other, nickname', hold⟩
      exact ⟨⟨i, Nat.lt_succ_of_lt hi, hid⟩, session, hkept id session hget, hadmin⟩
  · intro id session hget
    have hget : (c.state.sessions.insert created).get? id = some session := hget
    rw [Sessions.get?_insert] at hget
    split at hget
    · next hid =>
      refine ⟨password, who, nickname, ?_⟩
      rw [← hid]
      exact List.getElem?_set_self (Venue.Scene.pending_lt hwho)
    · obtain ⟨password', hopened⟩ := h.asked id session hget
      exact ⟨password', hopened.stepped hwho⟩
  · intro x hx id session hget
    rcases List.mem_append.1 hx with hx | hx
    · exact hkept id session (h.kept x hx id session hget)
    · obtain rfl := List.mem_singleton.1 hx
      exact hkept id session hget

/-- What sessions can do is fixed when they are opened, whatever else happens. -/
theorem registered_run (backend : Backend σ) (hnames : Function.Injective names)
    (scheduling : Scheduler.Settings) (service : σ) (time : Timestamp) {picks : List (Pick (Deed σ))}
    (hjoin : ∀ nickname isAdmin, .begin (.join nickname isAdmin) ∉ picks) :
    Registered rules names ((Venue.Scene.start (venue backend)
      (Party.new rules scheduling names service time)).run picks) := by
  refine Venue.Scene.run_invariant (Registered rules names) ?_ ?_ ?_
  · intro c d hd h
    refine registered_begun h fun nickname isAdmin heq => ?_
    subst heq
    exact hjoin nickname isAdmin hd
  · intro c who d a next hwho _ h
    by_cases hd : ∃ password nickname, d = .request (.openSession password nickname)
    · obtain ⟨password, nickname, rfl⟩ := hd
      exact registered_stepped_opening hnames h hwho
    · have hno : NoOpening d := fun password nickname heq => hd ⟨password, nickname, heq⟩
      exact registered_stepped_ordinary h hno hwho
  · refine ⟨rfl, rfl, ?_, ?_, ?_, ?_, fun x hx => absurd hx List.not_mem_nil⟩
    · intro who d rest hwho
      cases hwho
    · intro who password nickname rest hwho
      cases hwho
    · rintro password id ⟨who, nickname, hwho⟩
      cases hwho
    · intro id session hget
      have hget : Sessions.empty.get? id = some session := hget
      cases hget

end

end Jukebox.Party
