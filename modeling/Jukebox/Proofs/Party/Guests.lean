import Jukebox.Proofs.Party.Sessions
import Jukebox.Proofs.Queue.Modest
import Jukebox.Script

/-!
# What guests can do

A request that names a session finds it first.  If the session has no special rights, then what follows is
`Harmless`, whoever answers (`yields_request_session`); and at a party, where deeds take turns in any order,
the request is `Confined` (`guests_confined`).
-/

namespace Jukebox.Party

open Queue.Store (Modest)

variable {σ α : Type} {backend : Backend σ}

/-! ## Requests -/

/-- The session that a request comes from. -/
def Request.session? : Request → Option SessionId
  | .openSession .. | .search .. => none
  | .queues session | .add session .. | .vote session .. | .control session _ | .remove session _
  | .move session .. => some session

/-- A step that a guest without special rights may cause. -/
def Humble (guest : SessionId) : Action → Prop
  | .gateway (.call (.lookup _)) | .gateway (.call .refresh) => True
  | .store (.enqueue _ kind) => kind = .normal
  | .store (.vote _ voter _) => voter = guest
  | .findSession _ | .readStore | .publish _ | .recallTrack _ | .rememberTracks _ => True
  | _ => False

/-- The step is an operation on the queues. -/
def isStore : Action → Bool
  | .store _ => true
  | _ => false

/-- The failure is an answer of the playback service. -/
def Reported (e : Error) (t : List (Exchange interface)) : Prop :=
  ∃ call, ⟨.gateway (.call call), .error e⟩ ∈ t

/-- The failure is an answer of the playback service or of the queues. -/
def Blamed (e : Error) (t : List (Exchange interface)) : Prop :=
  Reported e t ∨ ∃ track change, ⟨.store (.enqueue track .normal), (.error e, change)⟩ ∈ t

/-- What follows when the session of a request is found and has no special rights. -/
structure Harmless (guest : SessionId) (t : List (Exchange interface)) (r : Except Error α) : Prop where
  humble : ∀ x ∈ t, Humble guest x.request
  once : (t.countP fun x => isStore x.request) ≤ 1
  /-- The failure is not the request's own, unless it comes before any calls. -/
  blamed : ∀ e, r = .error e → (∀ x ∈ t, ∀ call, x.request ≠ .gateway (.call call)) ∨ Blamed e t

section
variable {guest : SessionId} {session : Session} {t : List (Exchange interface)} {r : Except Error α}

/-- A refusal that comes before anything is done. -/
theorem yields_requireAdmin {what : String} {f : Unit → Task α} (hadmin : session.isAdmin = false)
    (h : (requireAdmin session what >>= f).run.Yields t r) : Harmless guest t r := by
  have hthrow : requireAdmin session what = throw (.adminRequired what) := by
    unfold requireAdmin
    rw [hadmin]
    rfl
  rw [hthrow] at h
  obtain ⟨rfl, rfl⟩ := Program.yields_pure.1 h
  exact ⟨by simp, by simp, fun _ _ => Or.inl (by simp)⟩

theorem yields_findSession {id : SessionId} {f : Session → Task α}
    (h : (findSession id >>= f).run.Yields t r) :
    ∃ (x : Except Error Session) (u : List (Exchange interface)), t = ⟨.findSession id, x⟩ :: u ∧
      ((∃ e, x = .error e ∧ u = [] ∧ r = .error e) ∨
        ∃ session, x = .ok session ∧ (f session).run.Yields u r) := by
  rcases Program.yields_bind_run.1 h with ⟨t₁, u, session, rfl, h₁, h₂⟩ | ⟨e, he, rfl⟩
  · obtain rfl := Program.yields_request.1 h₁
    exact ⟨.ok session, u, rfl, Or.inr ⟨session, rfl, h₂⟩⟩
  · obtain rfl := Program.yields_request.1 he
    exact ⟨.error e, [], rfl, Or.inl ⟨e, rfl, rfl, rfl⟩⟩

theorem humble_committed {op : Queue.Store.Operation} {reply : op.Reply} {change : Option Queue.Change}
    (hop : Humble guest (.store op)) : ∀ x ∈ committed op reply change, Humble guest x.request := by
  intro x hx
  rcases request_committed hx with hx | ⟨occurrence, hx⟩ <;> rw [hx]
  · exact hop
  · trivial

theorem stores_committed {op : Queue.Store.Operation} {reply : op.Reply} {change : Option Queue.Change} :
    ((committed op reply change).countP fun x => isStore x.request) = 1 := by
  cases change <;> rfl

theorem calls_committed {op : Queue.Store.Operation} {reply : op.Reply} {change : Option Queue.Change} :
    ∀ x ∈ committed op reply change, ∀ call, x.request ≠ .gateway (.call call) := by
  intro x hx call
  rcases request_committed hx with hx | ⟨occurrence, hx⟩ <;> rw [hx] <;> nofun

/-- A step of a guest that leaves the queues alone. -/
def Looking (guest : SessionId) (x : Exchange interface) : Prop :=
  Humble guest x.request ∧ isStore x.request = false

theorem stores_looking (h : ∀ x ∈ t, Looking guest x) : (t.countP fun x => isStore x.request) = 0 :=
  List.countP_eq_zero.2 fun x hx => by simp [(h x hx).2]

theorem yields_lookup (guest : SessionId) {id : TrackId} {r : Except Error Track}
    (h : (gateway (Gateway.lookup id)).run.Yields t r) :
    (∀ x ∈ t, Looking guest x) ∧ ∀ e, r = .error e → Reported e t := by
  obtain ⟨u, hu, rfl⟩ := yields_gateway h
  have hstage := Gateway.yields_stage hu
  constructor
  · intro x hx
    obtain ⟨y, hy, rfl⟩ := List.mem_map.1 hx
    show Humble guest (.gateway y.request) ∧ isStore (.gateway y.request) = false
    rcases hstage.request_eq y hy with heq | heq <;> rw [heq] <;> exact ⟨trivial, rfl⟩
  · rintro e rfl
    rcases hstage.answered with hmem | hmem
    · exact ⟨_, List.mem_map_of_mem hmem⟩
    · exact ⟨_, List.mem_map_of_mem hmem⟩

/-- A track that is not known is looked up, and remembered. -/
theorem yields_resolve (guest : SessionId) {id : TrackId} {r : Except Error Track}
    (h : (resolve id).run.Yields t r) :
    (∀ x ∈ t, Looking guest x) ∧ ∀ e, r = .error e → Reported e t := by
  have hrecall : ∀ seen : Option Track, Looking guest ⟨.recallTrack id, seen⟩ := fun _ => ⟨trivial, rfl⟩
  obtain ⟨t₁, t₂, seen, rfl, h₁, h₂⟩ := Program.yields_bind_lift.1 h
  obtain rfl := Program.yields_request.1 h₁
  cases seen with
  | some track =>
    obtain ⟨rfl, rfl⟩ := Program.yields_pure.1 h₂
    exact ⟨List.forall_mem_cons.2 ⟨hrecall _, by simp⟩, nofun⟩
  | none =>
    rcases Program.yields_bind_run.1 h₂ with ⟨t₃, t₄, track, rfl, h₃, h₄⟩ | ⟨e, he, rfl⟩
    · obtain ⟨t₅, t₆, _, rfl, h₅, h₆⟩ := Program.yields_bind_lift.1 h₄
      obtain rfl := Program.yields_request.1 h₅
      obtain ⟨rfl, rfl⟩ := Program.yields_pure.1 h₆
      obtain ⟨hlooking, -⟩ := yields_lookup guest h₃
      rw [List.singleton_append, List.append_nil]
      refine ⟨List.forall_mem_cons.2 ⟨hrecall _, List.forall_mem_append.2 ⟨hlooking, ?_⟩⟩, nofun⟩
      exact List.forall_mem_singleton.2 ⟨trivial, rfl⟩
    · obtain ⟨hlooking, hreported⟩ := yields_lookup guest he
      refine ⟨List.forall_mem_cons.2 ⟨hrecall _, hlooking⟩, ?_⟩
      rintro _ ⟨⟩
      obtain ⟨call, hcall⟩ := hreported e rfl
      exact ⟨call, List.mem_cons_of_mem _ hcall⟩

/-- A track is added to the queue for all. -/
theorem harmless_add {id : TrackId} {r : Except Error Unit}
    (h : (do let track ← resolve id; ExceptT.mk (commit (.enqueue track .normal)) : Task Unit).run.Yields t r) :
    Harmless guest t r := by
  rcases Program.yields_bind_run.1 h with ⟨t₁, t₂, track, rfl, h₁, h₂⟩ | ⟨e, he, rfl⟩
  · obtain ⟨hlooking, -⟩ := yields_resolve guest h₁
    obtain ⟨change, rfl⟩ := yields_commit h₂
    refine ⟨List.forall_mem_append.2 ⟨fun x hx => (hlooking x hx).1, humble_committed rfl⟩, ?_, ?_⟩
    · rw [List.countP_append, stores_looking hlooking, Nat.zero_add]
      exact Nat.le_of_eq stores_committed
    · rintro e rfl
      exact Or.inr (Or.inr ⟨track, change, List.mem_append_right _ (List.mem_cons_self ..)⟩)
  · obtain ⟨hlooking, hreported⟩ := yields_resolve guest he
    refine ⟨fun x hx => (hlooking x hx).1, ?_, ?_⟩
    · rw [stores_looking hlooking]
      exact Nat.zero_le _
    · rintro _ ⟨⟩
      exact Or.inr (Or.inl (hreported e rfl))

/-- The first thing that a request does is to find its session. -/
theorem yields_request_session {rules : Rules} {q : Request} {r : Except Error q.Result}
    (hq : q.session? = some guest) (h : (q.task rules).run.Yields t r) :
    ∃ (x : Except Error Session) (u : List (Exchange interface)), t = ⟨.findSession guest, x⟩ :: u ∧
      ((∃ e, x = .error e ∧ u = [] ∧ r = .error e) ∨
        ∃ session, x = .ok session ∧ (session.isAdmin = false → Harmless guest u r)) := by
  have hfound : ∀ {f : Session → Task q.Result}, q.task rules = findSession guest >>= f →
      (∀ session u, session.isAdmin = false → (f session).run.Yields u r → Harmless guest u r) →
      ∃ (x : Except Error Session) (u : List (Exchange interface)), t = ⟨.findSession guest, x⟩ :: u ∧
        ((∃ e, x = .error e ∧ u = [] ∧ r = .error e) ∨
          ∃ session, x = .ok session ∧ (session.isAdmin = false → Harmless guest u r)) := by
    intro f hf hbody
    rw [hf] at h
    obtain ⟨x, u, ht, herror | ⟨session, hx, hu⟩⟩ := yields_findSession h
    · exact ⟨x, u, ht, Or.inl herror⟩
    · exact ⟨x, u, ht, Or.inr ⟨session, hx, fun hadmin => hbody session u hadmin hu⟩⟩
  cases q with
  | openSession | search => cases hq
  | queues id =>
    cases hq
    refine hfound rfl fun session u hadmin hu => ?_
    obtain ⟨t₁, t₂, s, rfl, h₁, h₂⟩ := Program.yields_bind_lift.1 hu
    obtain rfl := Program.yields_request.1 h₁
    obtain ⟨rfl, rfl⟩ := Program.yields_pure.1 h₂
    exact ⟨List.forall_mem_cons.2 ⟨trivial, by simp⟩, Nat.zero_le _, nofun⟩
  | add id track queue =>
    cases hq
    refine hfound rfl fun session u hadmin hu => ?_
    cases queue with
    | normal => exact harmless_add hu
    | admin => exact yields_requireAdmin hadmin hu
  | vote id track up =>
    cases hq
    refine hfound rfl fun session u hadmin hu => ?_
    obtain ⟨change, rfl⟩ := yields_commit hu
    exact ⟨humble_committed rfl, Nat.le_of_eq stores_committed, fun _ _ => Or.inl calls_committed⟩
  | control | remove | move =>
    cases hq
    exact hfound rfl fun session u hadmin hu => yields_requireAdmin hadmin hu

end

/-! ## Guests at a party -/

theorem modest_serve {guest : SessionId} {a : Action} (ha : Humble guest a) (p : Party σ) :
    Modest guest p.store (serve backend a p).2.store := by
  cases a with
  | store op =>
    cases op with
    | enqueue track kind =>
      obtain rfl := ha
      exact Queue.Store.modest_enqueue guest track p.store
    | vote id voter up =>
      obtain rfl := ha
      exact Queue.Store.modest_vote voter id up p.store
    | _ => exact ha.elim
  | _ => exact .refl guest p.store

theorem store_serve {a : Action} (ha : isStore a = false) (p : Party σ) :
    (serve backend a p).2.store = p.store := by
  cases a with
  | store op => cases ha
  | _ => rfl

/-- What a guest without special rights does with a request, step by step and as a whole. -/
structure Confined (guest : SessionId) (own : List (venue backend).Step)
    (rest : Program interface (Except Error α)) : Prop where
  modest : ∀ x ∈ own, Modest guest x.state.store x.after.store
  /-- At most one step changes the queues at all. -/
  once : (own.countP fun x => x.after.store ≠ x.state.store) ≤ 1
  calls : ∀ x ∈ own, ∀ call, x.request = .gateway (.call call) →
    call = .refresh ∨ ∃ id, call = .lookup id
  /-- Access is denied before any calls, or by the playback service itself. -/
  denied : ∀ e, rest = .done (.error e) → e.kind = .accessDenied →
    (∀ x ∈ own, ∀ call, x.request ≠ .gateway (.call call)) ∨ Reported e (own.map Venue.Step.exchanged)

section
variable {guest : SessionId} {own : List (venue backend).Step} {u : List (Exchange interface)}

theorem step_findSession {y : (venue backend).Step} {id : SessionId} {x : Except Error Session}
    (h : y.exchanged = ⟨.findSession id, x⟩) :
    y.request = .findSession id ∧ x = y.state.sessions.get id ∧ y.after = y.state := by
  obtain ⟨⟨a, p⟩, who, holder⟩ := y
  cases h
  exact ⟨rfl, rfl, rfl⟩

/-- A request whose session is not found comes to nothing. -/
theorem confined_singleton {y : (venue backend).Step} {id : SessionId} (hy : y.request = .findSession id)
    {rest : Program interface (Except Error α)} : Confined guest [y] rest := by
  have hafter : y.after.store = y.state.store := by
    unfold Venue.Step.after
    rw [hy]
    rfl
  refine ⟨?_, ?_, ?_, fun _ _ _ => Or.inl ?_⟩
  · rw [List.forall_mem_singleton, hafter]
    exact .refl guest _
  · exact List.countP_le_length
  · rw [List.forall_mem_singleton, hy]
    nofun
  · rw [List.forall_mem_singleton, hy]
    nofun

/-- What is harmless whoever answers is confined at the party. -/
theorem confined_of_harmless {ys : List (venue backend).Step} {y : (venue backend).Step} {id : SessionId}
    {r : Except Error α} {rest : Program interface (Except Error α)} (hy : y.request = .findSession id)
    (h : Harmless guest (ys.map Venue.Step.exchanged ++ u) r)
    (hdone : ∀ r', rest = .done r' → u = [] ∧ r = r') : Confined guest (y :: ys) rest := by
  have hhumble : ∀ x ∈ ys, Humble guest x.request := fun x hx =>
    h.humble x.exchanged (List.mem_append_left _ (List.mem_map_of_mem hx))
  have hfirst : Humble guest y.request := by
    rw [hy]
    trivial
  refine ⟨List.forall_mem_cons.2 ⟨modest_serve hfirst _, fun x hx => modest_serve (hhumble x hx) _⟩,
    ?_, ?_, ?_⟩
  · have hstores : (y :: ys).countP (fun x => isStore x.request) ≤ 1 := by
      have honce := h.once
      rw [List.countP_append, List.countP_map] at honce
      rw [List.countP_cons_of_neg (by rw [hy]; nofun)]
      exact Nat.le_trans (Nat.le_add_right _ _) honce
    refine Nat.le_trans (List.countP_mono_left fun x _ hx => ?_) hstores
    by_contra hstore
    rw [decide_eq_true_eq] at hx
    exact hx (store_serve (Bool.eq_false_iff.2 hstore) x.state)
  · have hcall : ∀ x : (venue backend).Step, Humble guest x.request → ∀ call,
        x.request = .gateway (.call call) → call = .refresh ∨ ∃ id, call = .lookup id := by
      intro x hx call hcall
      rw [hcall] at hx
      cases call with
      | refresh => exact Or.inl rfl
      | lookup id => exact Or.inr ⟨id, rfl⟩
      | _ => exact hx.elim
    exact List.forall_mem_cons.2 ⟨hcall y hfirst, fun x hx => hcall x (hhumble x hx)⟩
  · intro e hrest hkind
    obtain ⟨rfl, rfl⟩ := hdone _ hrest
    rw [List.append_nil] at h
    rcases h.blamed e rfl with hno | ⟨call, hcall⟩ | ⟨track, change, hreply⟩
    · refine Or.inl (List.forall_mem_cons.2 ⟨?_, fun x hx => hno x.exchanged (List.mem_map_of_mem hx)⟩)
      rw [hy]
      nofun
    · exact Or.inr ⟨call, List.mem_cons_of_mem _ hcall⟩
    · -- The queues never deny access.
      exfalso
      obtain ⟨⟨⟨a, p⟩, who, holder⟩, -, hx⟩ := List.mem_map.1 hreply
      have hx : (⟨a, (serve backend a p).1⟩ : Exchange interface) =
          ⟨.store (.enqueue track .normal), (.error e, change)⟩ := hx
      obtain ⟨rfl, hx⟩ := Exchange.mk.inj hx
      have hx := congrArg Prod.fst (eq_of_heq hx)
      have hx : (p.store.enqueue track .normal).reply = .error e := hx
      rcases p.store.enqueue_cases track .normal with ⟨_, _, _, _, heq⟩ | ⟨-, heq⟩ <;> rw [heq] at hx
      · cases hx
        cases hkind
      · cases hx

end

/-- A request whose session is unknown changes nothing at all, and fails with its first step. -/
structure TurnedAway (guest : SessionId) (own : List (venue backend).Step)
    (rest : Program interface (Except Error α)) : Prop where
  unchanged : ∀ x ∈ own, x.after = x.state ∧ ∀ a, x.request ≠ .gateway a
  failed : own = [] ∨ rest = .done (.error (.unknownSession guest))

section
variable {rules : Rules} {names : Nat → SessionId} {c : (venue backend).Scene} {who : Nat}
  {guest : SessionId} {q : Request} {rest : Program interface (Except Error q.Result)}

/-- What a request has done, from the session that it found first. -/
theorem own_request (hled : c.Led fun p => p.rules = rules)
    (hwho : c.pending[who]? = some ⟨.request q, rest⟩) (hq : q.session? = some guest)
    {y : (venue backend).Step} {ys : List (venue backend).Step} (hown : c.own who = y :: ys) :
    y ∈ c.log ∧ y.request = .findSession guest ∧ y.after = y.state ∧
      ((y.state.sessions.get? guest = none ∧ ys = [] ∧ rest = .done (.error (.unknownSession guest))) ∨
        ∃ session, y.state.sessions.get? guest = some session ∧
          (session.isAdmin = false → Confined guest (y :: ys) rest)) := by
  obtain ⟨p, hp, hlead⟩ := hled who (.request q) rest hwho
  have hlead : (q.task p.rules).run.Leads ((c.own who).map Venue.Step.exchanged) rest := hlead
  have hlog : y ∈ c.log := by
    have hmem : y ∈ c.own who := by
      rw [hown]
      exact List.mem_cons_self ..
    exact (List.mem_filter.1 hmem).1
  rw [hown] at hlead
  obtain ⟨v, r, hrest⟩ := rest.exists_yields
  obtain ⟨x, u, ht, hcases⟩ := yields_request_session hq (hlead.yields hrest)
  obtain ⟨hy, rfl⟩ := List.cons.inj ht
  obtain ⟨hfind, rfl, hafter⟩ := step_findSession hy
  refine ⟨hlog, hfind, hafter, ?_⟩
  rcases hcases with ⟨e, he, hnil, rfl⟩ | ⟨session, hsession, hharmless⟩
  · obtain ⟨hys, rfl⟩ := List.append_eq_nil_iff.1 hnil
    unfold Sessions.get at he
    split at he
    · cases he
    · next hnone =>
      cases he
      refine Or.inl ⟨hnone, List.map_eq_nil_iff.1 hys, ?_⟩
      cases hrest
      rfl
  · unfold Sessions.get at hsession
    split at hsession
    · next hget =>
      cases hsession
      refine Or.inr ⟨session, hget, fun hadmin => ?_⟩
      refine confined_of_harmless hfind (hharmless hadmin) ?_
      rintro r' rfl
      cases hrest
      exact ⟨rfl, rfl⟩
    · cases hsession

theorem turnedAway_of_unopened (h : Registered rules names c) (hled : c.Led fun p => p.rules = rules)
    (hwho : c.pending[who]? = some ⟨.request q, rest⟩) (hq : q.session? = some guest)
    (hunopened : ∀ password, ¬ Opened c password guest) : TurnedAway guest (c.own who) rest := by
  rcases hown : c.own who with _ | ⟨y, ys⟩
  · exact ⟨by simp, Or.inl rfl⟩
  · obtain ⟨hlog, hfind, hafter, ⟨-, rfl, hrest⟩ | ⟨session, hget, -⟩⟩ := own_request hled hwho hq hown
    · refine ⟨List.forall_mem_singleton.2 ⟨hafter, ?_⟩, Or.inr hrest⟩
      rw [hfind]
      nofun
    · obtain ⟨password, hopened⟩ := h.asked guest session (h.kept y hlog guest session hget)
      exact absurd hopened (hunopened password)

theorem confined_of_opened (h : Registered rules names c) (hled : c.Led fun p => p.rules = rules)
    (hwho : c.pending[who]? = some ⟨.request q, rest⟩) (hq : q.session? = some guest)
    {password : Option String} (hopened : Opened c password guest)
    (hpassword : rules.grantsAdmin password = false) : Confined guest (c.own who) rest := by
  rcases hown : c.own who with _ | ⟨y, ys⟩
  · exact ⟨by simp, by simp, by simp, fun _ _ _ => Or.inl (by simp)⟩
  · obtain ⟨hlog, hfind, -, ⟨-, rfl, -⟩ | ⟨session, hget, hconfined⟩⟩ := own_request hled hwho hq hown
    · exact confined_singleton hfind
    · obtain ⟨-, session', hget', hadmin⟩ := h.opened password guest hopened
      rw [h.kept y hlog guest session hget] at hget'
      obtain rfl := Option.some.inj hget'
      exact hconfined (hadmin.trans hpassword)

end

theorem grantsAdmin_of_ne {rules : Rules} {expected : String} {password : Option String}
    (hrules : rules.adminPassword = some expected) (hexpected : expected ≠ "")
    (hpassword : password ≠ some expected) : rules.grantsAdmin password = false := by
  simp [Rules.grantsAdmin, hrules, Option.filter_some, hexpected, hpassword]

theorem grantsAdmin_of_none {rules : Rules} (hrules : rules.adminPassword = none ∨ rules.adminPassword = some "")
    (password : Option String) : rules.grantsAdmin password = true := by
  rcases hrules with hrules | hrules <;> simp [Rules.grantsAdmin, hrules, Option.filter_some]

/-- **Guests cannot do what administrators can.**  Let names for sessions be distinct, and let ticks, requests
and whatever else happens at a party take turns in any order.  A request that names a session that was not
opened changes nothing, asks nothing of the playback service and fails.  If the party has a password, a
request that names a session opened without it, or with another one, is confined: the queues keep what they
hold, of which the session may change its own vote on one track, or get one more entry, in the queue for all;
the playback service sees lookups and renewals only, and none at all if access is denied, unless the service
itself denied it.  If the party has no password, every session passes as an administrator's. -/
theorem guests_confined (backend : Backend σ) (rules : Rules) (scheduling : Scheduler.Settings)
    (names : Nat → SessionId) (service : σ) (time : Timestamp) (picks : List (Pick (Deed σ)))
    (hnames : Function.Injective names)
    (hjoin : ∀ nickname isAdmin, .begin (.join nickname isAdmin) ∉ picks) :
    let c := (Venue.Scene.start (venue backend) (Party.new rules scheduling names service time)).run picks
    (∀ (who : Nat) (q : Request) (rest : Program interface (Except Error q.Result)) (guest : SessionId),
      c.pending[who]? = some ⟨.request q, rest⟩ → q.session? = some guest →
        ((∀ password, ¬ Opened c password guest) → TurnedAway guest (c.own who) rest) ∧
        ∀ expected password, rules.adminPassword = some expected → expected ≠ "" →
          password ≠ some expected → Opened c password guest → Confined guest (c.own who) rest) ∧
    (rules.adminPassword = none ∨ rules.adminPassword = some "" →
      ∀ guest session, c.state.sessions.get guest = .ok session →
        ∀ what, requireAdmin session what = pure ()) := by
  intro c
  have hregistered : Registered rules names c :=
    registered_run backend hnames scheduling service time hjoin
  have hled : c.Led fun p => p.rules = rules := by
    refine Venue.Scene.leads_run _ (fun d p _ hp => ?_) (fun a p hp => ?_) rfl
    · cases d <;> exact hp
    · exact (rules_serve backend a p).1.trans hp
  refine ⟨fun who q rest guest hwho hq => ⟨fun hunopened => ?_, ?_⟩, fun hrules guest session hget what => ?_⟩
  · exact turnedAway_of_unopened hregistered hled hwho hq hunopened
  · intro expected password hrules hexpected hpassword hopened
    exact confined_of_opened hregistered hled hwho hq hopened
      (grantsAdmin_of_ne hrules hexpected hpassword)
  · have hget : c.state.sessions.get? guest = some session := by
      unfold Sessions.get at hget
      split at hget
      · cases hget
        assumption
      · cases hget
    obtain ⟨password, hopened⟩ := hregistered.asked guest session hget
    obtain ⟨-, session', hget', hadmin⟩ := hregistered.opened password guest hopened
    rw [hget] at hget'
    obtain rfl := Option.some.inj hget'
    unfold requireAdmin
    rw [hadmin, grantsAdmin_of_none hrules]
    rfl

/-- A guest who guessed the password wrongly may not change the volume, and nobody has the name of the next
session yet. -/
theorem guests_confined_wrong_password :
    let names : Nat → SessionId := fun n => ⟨String.ofList (List.replicate n 's')⟩
    let turnDown : Request := .control (names 0) .volumeDown
    let strange : Request := .vote (names 1) ⟨"a"⟩ true
    let picks : List (Pick (Deed Script)) :=
      [.begin (.request (.openSession (some "guess") none)), .proceed 0,
        .begin (.request turnDown), .proceed 1, .begin (.request strange), .proceed 2]
    let c := (Venue.Scene.start (venue Script.backend)
      (Party.new ⟨some "secret", none, 10⟩ ⟨2000, 5, 10000⟩ names Script.empty default)).run picks
    Function.Injective names ∧ (∀ nickname isAdmin, Pick.begin (.join nickname isAdmin) ∉ picks) ∧
      (∃ rest : Program interface (Except Error Unit), c.pending[1]? = some ⟨.request turnDown, rest⟩ ∧
        rest = .done (.error (.adminRequired "controlling the player")) ∧
        Confined (names 0) (c.own 1) rest) ∧
      ∃ rest : Program interface (Except Error Unit), c.pending[2]? = some ⟨.request strange, rest⟩ ∧
        c.own 2 ≠ [] ∧ TurnedAway (names 1) (c.own 2) rest := by
  intro names turnDown strange picks c
  have hnames : Function.Injective names := by
    intro m n h
    have hlength := congrArg (fun id : SessionId => id.text.toList.length) h
    simpa [names] using hlength
  have hjoin : ∀ nickname isAdmin, Pick.begin (.join nickname isAdmin) ∉ picks := by
    intro nickname isAdmin h
    simp [picks] at h
  have hall := (guests_confined Script.backend ⟨some "secret", none, 10⟩ ⟨2000, 5, 10000⟩ names
    Script.empty default picks hnames hjoin).1
  have hopened : Opened c (some "guess") (names 0) := ⟨0, none, rfl⟩
  refine ⟨hnames, hjoin, ⟨_, rfl, rfl, ?_⟩, _, rfl, List.cons_ne_nil _ _, ?_⟩
  · exact (hall 1 turnDown _ (names 0) rfl rfl).2 "secret" (some "guess") rfl (by decide) (by decide) hopened
  · refine (hall 2 strange _ (names 1) rfl rfl).1 fun password hopened => ?_
    have hregistered : Registered ⟨some "secret", none, 10⟩ names c :=
      registered_run Script.backend hnames ⟨2000, 5, 10000⟩ Script.empty default hjoin
    obtain ⟨⟨i, hi, hid⟩, -⟩ := hregistered.opened password _ hopened
    have hi : i < 1 := hi
    have hone := hnames hid
    omega

/-- Access may also be denied by the playback service, after it was asked. -/
theorem lookup_denied_by_service :
    let guest : SessionId := ⟨""⟩
    let names : Nat → SessionId := fun n => ⟨String.ofList (List.replicate n 's')⟩
    let add : Request := .add guest ⟨"a"⟩ .normal
    let denied : Error := ⟨.accessDenied, "track lookup denied"⟩
    let picks : List (Pick (Deed Script)) :=
      [.begin (.request (.openSession none none)), .proceed 0,
        .begin (.request add), .proceed 1, .proceed 1, .proceed 1]
    let c := (Venue.Scene.start (venue Script.backend) (Party.new ⟨some "secret", none, 10⟩
      ⟨2000, 5, 10000⟩ names (Script.empty.expect .lookup (.error denied)) default)).run picks
    Opened c none guest ∧ c.pending[1]? = some ⟨.request add, .done (.error denied)⟩ ∧
      (c.own 1).map (·.request) =
        [.findSession guest, .recallTrack ⟨"a"⟩, .gateway (.call (.lookup ⟨"a"⟩))] := by
  intro guest names add denied picks c
  exact ⟨⟨0, none, rfl⟩, rfl, rfl⟩

end Jukebox.Party
