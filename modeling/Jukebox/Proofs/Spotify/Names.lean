import Jukebox.Player
import Jukebox.Proofs.Party.Address
import Jukebox.Proofs.Spotify.Calls

/-!
# Names of tracks

The simulated service knows a track by one name only.  Spotify may be asked for a track by its URI or by the
bare name that ends it, and answers with the URI.  As long as its answers are `Truthful`, all tracks that are
remembered or queued have URIs for names, so a track that was added by its bare name waits under its URI.

    a track that was added can be addressed by its URI, and by the bare name not at all  (addressable_added)
-/

namespace Jukebox

variable {α : Type}

/-! ## The simulated service -/

theorem Player.serve_lookup (now : Instant) (id : TrackId) (player : Player) :
    Player.backend.serve now (.lookup id) player =
      player.connected (match player.find? id with
        | some track => (.ok track, player)
        | none => (.error (.unknownTrack id), player)) :=
  rfl

/-- The track that is looked up has the name that it is looked up by. -/
theorem Player.lookup_id (now : Instant) {id : TrackId} {player : Player} {track : Track}
    (h : (Player.backend.serve now (.lookup id) player).1 = .ok track) : track.id = id := by
  rw [Player.serve_lookup] at h
  unfold Player.connected at h
  split at h
  · cases h
  · split at h
    · split at h
      · next found hfind =>
        cases h
        simpa using List.find?_some hfind
      · cases h
    · cases h

namespace Spotify

/-! ## URIs -/

/-- The name is the URI of a track. -/
def isUri (id : TrackId) : Bool :=
  uriLead.isPrefixOf id.text.toList

theorem isUri_uri (id : TrackId) : isUri ⟨uri id⟩ = true := by
  simp [isUri, uri, List.isPrefixOf_iff_prefix]

/-- A URI stays as it is. -/
theorem uri_of_isUri {id : TrackId} (h : isUri id = true) : (⟨uri id⟩ : TrackId) = id := by
  obtain ⟨rest, hrest⟩ := List.isPrefixOf_iff_prefix.1 h
  have hbare : bareName id = String.ofList rest := by
    unfold bareName
    dsimp only
    rw [← hrest, if_pos (List.isPrefixOf_iff_prefix.2 (List.prefix_append _ _)), List.drop_left]
  obtain ⟨text⟩ := id
  congr 1
  rw [uri, hbare, ← String.ofList_append, hrest, String.ofList_toList]

/-! ## Answers that name tracks -/

/-- What an answer is read as. -/
def readAs? (read : Json → Option α) (reply : Http.Reply) : Option α :=
  if reply.isSuccess then (reply.text?.bind Json.read?).bind read else none

/-- The tracks in an answer to a call. -/
def tracksIn (c : Call) (reply : Http.Reply) : List Track :=
  match c with
  | .lookup _ => (readAs? track? reply).toList
  | .search .. => (readAs? found? reply).getD []
  | _ => []

/-- A call may be answered with a track of this name: a lookup with the URI of what was looked up, and a
search with any URI. -/
def suits (id : TrackId) : Call → Bool
  | .lookup asked => id = ⟨uri asked⟩
  | _ => isUri id

theorem isUri_of_suits {id : TrackId} {c : Call} (h : suits id c = true) : isUri id = true := by
  cases c with
  | lookup asked =>
    obtain rfl := of_decide_eq_true h
    exact isUri_uri asked
  | _ => exact h

/-- The answer from the far end in an exchange. -/
def replyIn : Exchange interface → Option Http.Reply
  | ⟨.exchange _, reply⟩ => reply
  | _ => none

/-- The answers from the far end at a moment, each with the call that it was made for. -/
def repliesAt : Moment Party.interface (Party Session) → List (Call × Http.Reply)
  | ⟨.gateway (.call c), p⟩ =>
    (((steps p.service.client c).trace (Session.serve p.clock) p.service).filterMap replyIn).map (c, ·)
  | _ => []

/-- All tracks that are named at the moment have the names that they should have. -/
abbrev Truthful (m : Moment Party.interface (Party Session)) : Prop :=
  ∀ x ∈ repliesAt m, ∀ track ∈ tracksIn x.1 x.2, suits track.id x.1 = true

/-! ## What is read from an answer -/

theorem yields_exchange {c : Http.Call} {t : List (Exchange interface)} {reply : Http.Reply}
    (h : (exchange c).run.Yields t (.ok reply)) : reply ∈ t.filterMap replyIn := by
  obtain ⟨t₁, t₂, answer, rfl, hasked, hanswered⟩ := Program.yields_bind_lift.1 h
  obtain rfl := Program.yields_request.1 hasked
  cases answer with
  | none => cases (Program.yields_pure.1 hanswered).2
  | some answer =>
    obtain ⟨rfl, hsame⟩ := Program.yields_pure.1 hanswered
    cases hsame
    exact List.mem_cons_self

theorem yields_conclude {token body : String} {t : List (Exchange interface)} {reply : Http.Reply}
    (h : (conclude token reply).run.Yields t (.ok (some body))) :
    reply.isSuccess = true ∧ reply.text? = some body := by
  unfold conclude bodyOf at h
  cases htext : reply.text? with
  | none =>
    rw [htext] at h
    rcases Program.yields_bind_run.1 h with ⟨t₁, t₂, text, rfl, hbroken, -⟩ | ⟨e, -, he⟩
    · cases (Program.yields_pure.1 hbroken).2
    · cases he
  | some text =>
    rw [htext, pure_bind] at h
    split at h
    · cases (Program.yields_pure.1 h).2
    · split at h
      · next hsuccess =>
        obtain ⟨-, hbody⟩ := Program.yields_pure.1 h
        refine ⟨hsuccess, ?_⟩
        split at hbody <;> cases hbody
        rfl
      · -- A failure is passed on, whether the token is forgotten or not.
        dsimp only at h
        split at h
        · obtain ⟨t₁, t₂, _, rfl, -, hthrown⟩ := Program.yields_bind_lift.1 h
          cases (Program.yields_pure.1 hthrown).2
        · cases (Program.yields_pure.1 h).2

theorem yields_send {client : Client} {r : ApiRequest} {t : List (Exchange interface)} {body : String}
    (h : (send client r).run.Yields t (.ok (some body))) :
    ∃ reply ∈ t.filterMap replyIn, reply.isSuccess = true ∧ reply.text? = some body := by
  rw [send_eq] at h
  rcases Program.yields_bind_run.1 h with ⟨t₁, t₂, token, rfl, -, hrest⟩ | ⟨e, -, he⟩
  · have hsent : ∀ {t}, (do
        let reply ← exchange (r.withToken client.apiBase token)
        conclude token reply : Task (Option String)).run.Yields t (.ok (some body)) →
        ∃ reply ∈ t.filterMap replyIn, reply.isSuccess = true ∧ reply.text? = some body := by
      intro t h
      rcases Program.yields_bind_run.1 h with ⟨t₁, t₂, reply, rfl, hreply, hbody⟩ | ⟨e, -, he⟩
      · rw [List.filterMap_append]
        exact ⟨reply, List.mem_append_left _ (yields_exchange hreply), yields_conclude hbody⟩
      · cases he
    dsimp only at hrest
    split at hrest
    · rcases Program.yields_bind_run.1 hrest with ⟨t₃, t₄, _, rfl, hthrown, -⟩ | ⟨e, -, he⟩
      · cases (Program.yields_pure.1 hthrown).2
      · cases he
    · obtain ⟨reply, hreply, hbody⟩ := hsent hrest
      rw [List.filterMap_append]
      exact ⟨reply, List.mem_append_right _ hreply, hbody⟩
  · cases he

theorem yields_fetch {client : Client} {read : Json → Option α} {r : ApiRequest}
    {t : List (Exchange interface)} {a : α} (h : (fetch client read r).run.Yields t (.ok (some a))) :
    ∃ reply ∈ t.filterMap replyIn, readAs? read reply = some a := by
  rcases Program.yields_bind_run.1 h with ⟨t₁, t₂, body, rfl, hsent, hread⟩ | ⟨e, -, he⟩
  · cases body with
    | none => cases (Program.yields_pure.1 hread).2
    | some body =>
      obtain ⟨reply, hreply, hsuccess, htext⟩ := yields_send hsent
      rw [List.filterMap_append]
      refine ⟨reply, List.mem_append_left _ hreply, ?_⟩
      unfold readAs?
      rw [if_pos hsuccess, htext]
      dsimp only at hread
      split at hread
      · next found hfound =>
        cases (Program.yields_pure.1 hread).2
        exact hfound
      · cases (Program.yields_pure.1 hread).2
  · cases he

theorem yields_steps {client : Client} {c : Call} {t : List (Exchange interface)} {a : c.Result}
    (h : (steps client c).Yields t (.ok a)) : (perform client c).run.Yields t (.ok (.ok a)) := by
  rw [steps_eq, map_eq_pure_bind] at h
  obtain ⟨t₁, t₂, result, rfl, hperformed, hanswered⟩ := Program.yields_bind.1 h
  obtain ⟨rfl, hsame⟩ := Program.yields_pure.1 hanswered
  rw [List.append_nil]
  cases result with
  | ok answer =>
    cases hsame
    exact hperformed
  | error fault => cases hsame

/-- What a call is answered with was in an answer from the far end. -/
theorem yields_tracks {client : Client} {c : Call} {t : List (Exchange interface)} {a : c.Result}
    (h : (steps client c).Yields t (.ok a)) :
    ∀ track ∈ Party.named ⟨.gateway (.call c), .ok a⟩, ∃ reply ∈ t.filterMap replyIn, track ∈ tracksIn c reply := by
  intro track htrack
  have hperformed := yields_steps h
  cases c with
  | lookup id =>
    obtain rfl := List.mem_singleton.1 htrack
    rcases Program.yields_bind_run.1 hperformed with ⟨t₁, t₂, found, rfl, hfetched, hfound⟩ | ⟨e, -, he⟩
    · cases found with
      | none => cases (Program.yields_pure.1 hfound).2
      | some found =>
        cases (Program.yields_pure.1 hfound).2
        obtain ⟨reply, hreply, hread⟩ := yields_fetch hfetched
        rw [List.filterMap_append]
        exact ⟨reply, List.mem_append_left _ hreply, Option.mem_toList.2 hread⟩
    · cases he
  | search pattern limit =>
    rcases Program.yields_bind_run.1 hperformed with ⟨t₁, t₂, found, rfl, hfetched, hfound⟩ | ⟨e, -, he⟩
    · cases (Program.yields_pure.1 hfound).2
      cases found with
      | none => exact absurd htrack List.not_mem_nil
      | some found =>
        obtain ⟨reply, hreply, hread⟩ := yields_fetch hfetched
        rw [List.filterMap_append]
        refine ⟨reply, List.mem_append_left _ hreply, ?_⟩
        show track ∈ (readAs? found? reply).getD []
        rw [hread]
        exact htrack
    · cases he
  | _ => exact absurd htrack List.not_mem_nil

/-- Tracks that are named where the answers are truthful have the names that they should have. -/
theorem suits_of_truthful {m : Moment Party.interface (Party Session)} (h : Truthful m) {c : Call}
    (hm : m.request = .gateway (.call c)) :
    ∀ track ∈ Party.named (m.exchange (Party.serve Session.backend)), suits track.id c = true := by
  obtain ⟨a, p⟩ := m
  subst hm
  intro track htrack
  have hends := Program.ends_run (steps p.service.client c) (Session.serve p.clock) p.service
  have hanswer : (Moment.exchange (Party.serve Session.backend) ⟨.gateway (.call c), p⟩ : Exchange Party.interface) =
    ⟨.gateway (.call c), ((steps p.service.client c).run (Session.serve p.clock) p.service).1⟩ := rfl
  rw [hanswer] at htrack
  generalize ((steps p.service.client c).run (Session.serve p.clock) p.service).1 = answer at hends htrack
  cases answer with
  | ok a =>
    obtain ⟨reply, hreply, hin⟩ := yields_tracks hends.yields track htrack
    exact h (c, reply) (List.mem_map_of_mem hreply) track hin
  | error e => cases c <;> exact absurd htrack List.not_mem_nil

/-- Where the answers are truthful, only URIs are named. -/
theorem honest_of_truthful {m : Moment Party.interface (Party Session)} (h : Truthful m) :
    Party.Honest Session.backend (fun track => isUri track.id = true) m := by
  intro track htrack
  obtain ⟨a, p⟩ := m
  cases a with
  | gateway a =>
    cases a with
    | call c => exact isUri_of_suits (suits_of_truthful h rfl track htrack)
    | _ => exact absurd htrack List.not_mem_nil
  | _ => exact absurd htrack List.not_mem_nil

end Spotify

/-! ## Tracks that were added -/

namespace Party

variable {σ : Type} {guest : SessionId} {id : TrackId} {kind : Queue.Kind}

theorem addressable_of_named {backend : Backend σ} {p : Party σ} {name : TrackId}
    (hcapacity : 0 < p.cache.capacity)
    (hname : ∀ track, Named p ((Deed.request (.add guest id kind)).exchanges backend p) id track → track.id = name)
    (h : (p.request backend (.add guest id kind)).1 = .ok ()) :
    Addressable backend (p.request backend (.add guest id kind)).2 name kind := by
  obtain ⟨track, hnamed, hfiled⟩ := filed_of_added hcapacity h
  rw [← hname track hnamed]
  exact addressable_of_filed backend hfiled

/-- The simulated service names what it was asked for. -/
theorem Named.id_eq {p : Party Player} {q : Request} {track : Track}
    (h : Named p ((Deed.request q).exchanges Player.backend p) id track) : track.id = id := by
  cases h with
  | remembered hget => exact (TrackCache.get?_eq_some hget).2
  | lookedUp hmem =>
    obtain ⟨p', -, hanswer⟩ := Program.exists_moment hmem
    exact Player.lookup_id p'.clock hanswer.symm

/-- Spotify names the URI of what it was asked for, and what is remembered is known by its URI. -/
theorem Named.id_eq_uri {p : Party Spotify.Session} {q : Request} {track : Track}
    (hstocked : WellStocked (fun track => Spotify.isUri track.id = true) p)
    (htruthful : ∀ m ∈ (q.task p.rules).run.moments (serve Spotify.Session.backend) p, Spotify.Truthful m)
    (h : Named p ((Deed.request q).exchanges Spotify.Session.backend p) id track) :
    track.id = ⟨Spotify.uri id⟩ := by
  cases h with
  | remembered hget =>
    obtain ⟨hmem, rfl⟩ := TrackCache.get?_eq_some hget
    exact (Spotify.uri_of_isUri (hstocked.remembered track hmem)).symm
  | lookedUp hmem =>
    obtain ⟨p', hmoment, hanswer⟩ := Program.exists_moment hmem
    have hnamed : track ∈ named (Moment.exchange (serve Spotify.Session.backend)
        (⟨.gateway (.call (.lookup id)), p'⟩ : Moment interface (Party Spotify.Session))) := by
      show track ∈ Option.toList (Except.toOption _)
      rw [← hanswer]
      exact List.mem_cons_self
    exact of_decide_eq_true (Spotify.suits_of_truthful (htruthful _ hmoment) rfl track hnamed)

/-- **What was added can be addressed.**  Let ticks, requests and whatever else happens take turns at a party,
in any order, and let a guest then add a track by a name.

Over the simulated service, there is then an entry of this name in the queue, guests can vote for the name,
and who tries to add it once more is told that it is there.

Over Spotify, if its answers were truthful throughout, the same holds of the track's URI, and thus of the name
if that is a URI.  If it is not, no entry has the name, and guests who vote for it are told that it is not
queued. -/
theorem addressable_added (rules : Rules) (scheduling : Scheduler.Settings) (names : Nat → SessionId)
    (time : Timestamp) (guest : SessionId) (id : TrackId) (kind : Queue.Kind) :
    (∀ (player : Player) (picks : List (Pick (Deed Player))),
      let p := ((Venue.Scene.start (venue Player.backend)
        (Party.new rules scheduling names player time)).run picks).state
      let added := p.request Player.backend (.add guest id kind)
      added.1 = .ok () → Addressable Player.backend added.2 id kind) ∧
    ∀ (session : Spotify.Session) (picks : List (Pick (Deed Spotify.Session))),
      let c := (Venue.Scene.start (venue Spotify.Session.backend)
        (Party.new rules scheduling names session time)).run picks
      let added := c.state.request Spotify.Session.backend (.add guest id kind)
      (∀ op, .begin (.queue op) ∈ picks → ∀ track ∈ op.tracks, Spotify.isUri track.id = true) →
      (∀ x ∈ c.log, Spotify.Truthful x.toMoment) →
      (∀ m ∈ (add guest id kind).run.moments (serve Spotify.Session.backend) c.state, Spotify.Truthful m) →
      added.1 = .ok () →
      Addressable Spotify.Session.backend added.2 ⟨Spotify.uri id⟩ kind ∧
        (Spotify.isUri id = true → Addressable Spotify.Session.backend added.2 id kind) ∧
        (Spotify.isUri id = false → (∀ e ∈ added.2.store.entries, e.id ≠ id) ∧
          ∀ voter viewer up, added.2.sessions.get voter = .ok viewer →
            (added.2.request Spotify.Session.backend (.vote voter id up)).1 = .error (.notQueued id)) := by
  constructor
  · intro player picks p added hadded
    have hcapacity := capacity_run Player.backend rules scheduling names player time picks
    exact addressable_of_named hcapacity (fun _ hnamed => hnamed.id_eq) hadded
  · intro session picks c added hqueue hlog htruthful hadded
    have hcapacity := capacity_run Spotify.Session.backend rules scheduling names session time picks
    have hstocked : WellStocked (fun track => Spotify.isUri track.id = true) c.state :=
      wellStocked_run Spotify.Session.backend rules scheduling names session time hqueue fun x hx =>
        Spotify.honest_of_truthful (hlog x hx)
    have hafter : WellStocked (fun track => Spotify.isUri track.id = true) added.2 :=
      wellStocked_request (.add guest id kind) hstocked fun m hm => Spotify.honest_of_truthful (htruthful m hm)
    have huri : Addressable Spotify.Session.backend added.2 ⟨Spotify.uri id⟩ kind :=
      addressable_of_named hcapacity
        (fun _ hnamed => hnamed.id_eq_uri (q := .add guest id kind) hstocked htruthful) hadded
    refine ⟨huri, fun hid => ?_, fun hid => ?_⟩
    · rw [Spotify.uri_of_isUri hid] at huri
      exact huri
    · have habsent : ∀ e ∈ added.2.store.entries, e.id ≠ id := by
        rintro e he rfl
        have hgood : Spotify.isUri e.id = true := hafter.queued e he
        rw [hid] at hgood
        cases hgood
      refine ⟨habsent, fun voter viewer up hvoter => ?_⟩
      rw [request_vote hvoter]
      exact Queue.Store.vote_absent habsent voter up

/-- An answer of Spotify that describes the track of this name, with its fields in an array. -/
def describing (name : String) : Http.Reply :=
  ⟨200, some (Text.Utf8.encode s!"[\"{name}\",\"T\",1000,[],[\"L\"]]".toList)⟩

/-- A session with Spotify that has a token issued first, and then gets these answers. -/
def expecting (replies : List Http.Reply) : Spotify.Session :=
  let issued : Http.Reply := ⟨200, some (Text.Utf8.encode "[\"t1\",3600,null]".toList)⟩
  ⟨⟨"/v1", "/token", ⟨"id", "secret", "r1"⟩⟩, none, "r1", .answering ((issued :: replies).map some), false⟩

/-- A track is added by its URI: over the simulated service, and over Spotify after another one was added by
its bare name. -/
theorem addressable_added_uri :
    let guest : SessionId := ⟨"guest"⟩
    let id : TrackId := ⟨"spotify:track:abc"⟩
    let rules : Rules := ⟨none, none, 10⟩
    let scheduling : Scheduler.Settings := ⟨2000, 5, 10000⟩
    let p := Party.new rules scheduling (fun _ => guest) (Player.new [⟨id, "T", "A", "L", 1000, ""⟩]) default
    let known := ((Venue.Scene.start (venue Player.backend) p).run [.begin (.join none true), .proceed 0]).state
    let simulated : Except Error Unit × Party Player := known.request Player.backend (.add guest id .normal)
    let session : Spotify.Session := expecting
      [describing "spotify:track:xyz", describing "spotify:track:abc"]
    let picks : List (Pick (Deed Spotify.Session)) :=
      [.begin (.join none true), .proceed 0, .begin (.request (.add guest ⟨"xyz"⟩ .admin))] ++
        List.replicate 8 (.proceed 1)
    let c := (Venue.Scene.start (venue Spotify.Session.backend) (Party.new rules scheduling (fun _ => guest)
      session default)).run picks
    let added : Except Error Unit × Party Spotify.Session :=
      c.state.request Spotify.Session.backend (.add guest id .normal)
    (simulated.1 = .ok () ∧ Addressable Player.backend simulated.2 id .normal) ∧
      (∀ op, .begin (.queue op) ∉ picks) ∧
      (∀ x ∈ c.log, Spotify.Truthful x.toMoment) ∧
      (∀ m ∈ (add guest id .normal).run.moments (serve Spotify.Session.backend) c.state, Spotify.Truthful m) ∧
      added.1 = .ok () ∧ added.2.store.entries.map (·.id) = [⟨"spotify:track:xyz"⟩, id] ∧
      Addressable Spotify.Session.backend added.2 id .normal := by
  intro guest id rules scheduling p known simulated session picks c added
  have hsimulated : simulated.1 = .ok () := by decide +kernel
  have hqueue : ∀ op, .begin (.queue op) ∉ picks := by simp [picks]
  have hlog : ∀ x ∈ c.log, Spotify.Truthful x.toMoment := by decide +kernel
  have htruthful : ∀ m ∈ (add guest id .normal).run.moments (serve Spotify.Session.backend) c.state,
      Spotify.Truthful m := by decide +kernel
  have hadded : added.1 = .ok () := by decide +kernel
  obtain ⟨hplayer, hspotify⟩ := addressable_added rules scheduling (fun _ => guest) default guest id .normal
  have huri := hspotify session picks (fun op hop => absurd hop (hqueue op)) hlog htruthful hadded
  exact ⟨⟨hsimulated, hplayer _ _ hsimulated⟩, hqueue, hlog, htruthful, hadded, by decide +kernel,
    huri.2.1 (by decide +kernel)⟩

/-- A track that was added by its bare name cannot be addressed by it. -/
theorem bare_name_unknown :
    let guest : SessionId := ⟨"guest"⟩
    let bare : TrackId := ⟨"abc"⟩
    let found : TrackId := ⟨"spotify:track:abc"⟩
    let session : Spotify.Session := expecting (List.replicate 2 (describing found.text))
    let c := (Venue.Scene.start (venue Spotify.Session.backend) (Party.new ⟨none, none, 10⟩ ⟨2000, 5, 10000⟩
      (fun _ => guest) session default)).run [.begin (.join none true), .proceed 0]
    let added : Except Error Unit × Party Spotify.Session :=
      c.state.request Spotify.Session.backend (.add guest bare .normal)
    let voted : Except Error Unit × Party Spotify.Session :=
      added.2.request Spotify.Session.backend (.vote guest bare true)
    let again : Except Error Unit × Party Spotify.Session :=
      added.2.request Spotify.Session.backend (.add guest bare .normal)
    (∀ x ∈ c.log, Spotify.Truthful x.toMoment) ∧
      (∀ m ∈ (add guest bare .normal).run.moments (serve Spotify.Session.backend) c.state, Spotify.Truthful m) ∧
      added.1 = .ok () ∧ added.2.store.entries.map (·.id) = [found] ∧
      voted.1 = .error (.notQueued bare) ∧ again.1 = .error (.alreadyQueued found .normal) ∧
      ¬ Addressable Spotify.Session.backend added.2 bare .normal := by
  intro guest bare found session c added voted again
  have hvoted : voted.1 = .error (.notQueued bare) := by decide +kernel
  refine ⟨by decide +kernel, by decide +kernel, by decide +kernel, by decide +kernel, hvoted,
    by decide +kernel, fun h => ?_⟩
  have hguest : added.2.sessions.get guest = .ok ⟨guest, none, true, default⟩ := by decide +kernel
  have hok : voted.1 = .ok () := h.votable guest _ true hguest
  rw [hvoted] at hok
  cases hok

end Party
end Jukebox
