import Jukebox.Proofs.Party.Failures
import Jukebox.Proofs.Party.Provenance

/-!
# Tracks that were added

A track that was added waits under the name that it carries itself, and is remembered under this name
(`filed_of_added`).  So it can be addressed by it, whatever name it was asked for by
(`addressable_of_filed`); the two names are the same if the track was remembered, and otherwise it is for
the playback service to say what the track carries (`Named`).
-/

namespace Jukebox

/-! ## The queues -/

namespace Queue.Store

variable {s : Store} {track : Track} {kind : Kind} {id : TrackId} {e : Entry}

/-- What was put in is found where it was put. -/
theorem locate_enqueue (h : (s.enqueue track kind).reply = .ok ()) :
    (s.enqueue track kind).store.locate track.id = some (kind, .new track s.nextSequence) := by
  rcases s.enqueue_cases track kind with ⟨_, _, -, -, ho⟩ | ⟨hne, ho⟩ <;> rw [ho] at h ⊢
  · cases h
  · have hnew : Entry.new track s.nextSequence ∈
        (s.advance.insert kind (.new track s.nextSequence)).queue kind :=
      mem_queue_insert.2 (Or.inr ⟨rfl, rfl⟩)
    rcases (s.advance.insert kind (.new track s.nextSequence)).locate_cases track.id with
      ⟨-, hnone⟩ | ⟨other, x, hl, hx, hid⟩
    · exact absurd rfl (hnone _ (mem_entries.2 ⟨kind, hnew⟩))
    · rcases mem_queue_insert.1 hx with hold | ⟨rfl, rfl⟩
      · rw [queue_advance] at hold
        exact absurd hid (hne x (mem_entries.2 ⟨other, hold⟩))
      · exact hl

theorem vote_located (h : s.locate id = some (kind, e)) (voter : SessionId) (up : Bool) :
    (s.vote id voter up).reply = .ok () := by
  unfold vote
  rw [h]
  dsimp only
  split <;> rfl

theorem vote_absent (h : ∀ e ∈ s.entries, e.id ≠ id) (voter : SessionId) (up : Bool) :
    (s.vote id voter up).reply = .error (.notQueued id) := by
  unfold vote
  rw [locate_eq_none.2 h]

theorem enqueue_located (h : s.locate track.id = some (kind, e)) (other : Kind) :
    (s.enqueue track other).reply = .error (.alreadyQueued track.id kind) := by
  unfold enqueue
  rw [h]

end Queue.Store

namespace Party

variable {σ α : Type} {backend : Backend σ} {p p' : Party σ} {t : List (Exchange interface)}
  {id : TrackId} {track : Track} {kind : Queue.Kind} {guest : SessionId} {viewer : Session}

/-- A track of this name waits in the queue, and those who use the name are understood: guests can vote for
the track, and who tries to add it once more is told where it waits. -/
structure Addressable (backend : Backend σ) (p : Party σ) (id : TrackId) (kind : Queue.Kind) : Prop where
  waits : ∃ e ∈ p.store.queue kind, e.id = id
  votable : ∀ guest viewer up, p.sessions.get guest = .ok viewer →
    (p.request backend (.vote guest id up)).1 = .ok ()
  known : ∀ guest viewer other, p.sessions.get guest = .ok viewer →
    (other = .admin → viewer.isAdmin = true) →
    (p.request backend (.add guest id other)).1 = .error (.alreadyQueued id kind)

/-- The track is found in the queue, and is remembered. -/
structure Filed (p : Party σ) (track : Track) (kind : Queue.Kind) : Prop where
  located : ∃ e, p.store.locate track.id = some (kind, e)
  remembered : p.cache.get? track.id = some track

/-- Who was asked for a track by a name has named this one: the cache, or else the playback service. -/
inductive Named (p : Party σ) (t : List (Exchange interface)) (id : TrackId) (track : Track) : Prop
  | remembered (h : p.cache.get? id = some track)
  | lookedUp (h : ⟨.gateway (.call (.lookup id)), .ok track⟩ ∈ t)

/-! ## Requests by name -/

theorem run_findSession (h : p.sessions.get guest = .ok viewer) :
    (findSession guest).run.run (serve backend) p = (.ok viewer, p) :=
  congrArg (·, p) h

theorem reply_commit (op : Queue.Store.Operation) (p : Party σ) :
    ((commit op).run (serve backend) p).1 = (p.store.apply op).reply := by
  have hends := Program.ends_run (commit op) (serve backend) p
  obtain ⟨change, ht⟩ := yields_commit hends.yields
  have hserved := hends.served
  rw [ht] at hserved
  exact (served_committed hserved).1

/-- A guest who is known may vote. -/
theorem request_vote (h : p.sessions.get guest = .ok viewer) (up : Bool) :
    (p.request backend (.vote guest id up)).1 = (p.store.vote id guest up).reply := by
  show ((vote guest id up).run.run (serve backend) p).1 = _
  unfold vote
  rw [ExceptT.run_bind, Program.run_bind, run_findSession h]
  exact reply_commit (.vote id guest up) p

theorem run_resolve (h : p.cache.get? id = some track) :
    (resolve id).run.run (serve backend) p = (.ok track, p) := by
  have hrecall : (liftM (step (.recallTrack id)) : Task (Action.recallTrack id).Answer).run.run (serve backend) p =
      (.ok (p.cache.get? id), p) := rfl
  unfold resolve
  rw [ExceptT.run_bind, Program.run_bind, hrecall, h]
  rfl

/-- A track that is remembered is added without asking for it. -/
theorem request_add (h : p.sessions.get guest = .ok viewer) (hadmin : kind = .admin → viewer.isAdmin = true)
    (hseen : p.cache.get? id = some track) :
    (p.request backend (.add guest id kind)).1 = (p.store.enqueue track kind).reply := by
  have hadd : ((do let track ← resolve id; ExceptT.mk (commit (.enqueue track kind)) : Task Unit).run.run
      (serve backend) p).1 = (p.store.enqueue track kind).reply := by
    rw [ExceptT.run_bind, Program.run_bind, run_resolve hseen]
    exact reply_commit (.enqueue track kind) p
  show ((add guest id kind).run.run (serve backend) p).1 = _
  unfold add
  rw [ExceptT.run_bind, Program.run_bind, run_findSession h]
  dsimp only
  split
  · next hkind =>
    unfold requireAdmin
    rw [ExceptT.run_bind, Program.run_bind, if_pos (hadmin hkind)]
    exact hadd
  · exact hadd

/-- What is filed can be addressed by its own name. -/
theorem addressable_of_filed (backend : Backend σ) (h : Filed p track kind) :
    Addressable backend p track.id kind := by
  obtain ⟨⟨e, he⟩, hseen⟩ := h
  refine ⟨⟨e, Queue.Store.locate_eq_some he⟩, fun guest viewer up hguest => ?_, ?_⟩
  · rw [request_vote hguest]
    exact Queue.Store.vote_located he guest up
  · intro guest viewer other hguest hadmin
    rw [request_add hguest hadmin hseen]
    exact Queue.Store.enqueue_located he other

/-! ## What is added -/

/-- The track that a name stands for is remembered under its own name. -/
theorem ends_resolve_ok (hcapacity : 0 < p.cache.capacity)
    (h : (resolve id).run.Ends (serve backend) p t (.ok track) p') :
    Named p t id track ∧ p'.cache.get? track.id = some track := by
  rcases resolve_cases h with ⟨found, hget, hr, hspared⟩ | ⟨found, hmem, hr, -, hsame⟩ | ⟨e, hr, -⟩ <;> cases hr
  · refine ⟨.remembered hget, ?_⟩
    rw [hspared.same, (TrackCache.get?_eq_some hget).2]
    exact hget
  · refine ⟨.lookedUp hmem, ?_⟩
    rw [hsame]
    exact TrackCache.get?_insert_self hcapacity track

/-- The track that a name stands for is put in. -/
theorem ends_enqueue_ok (hcapacity : 0 < p.cache.capacity)
    (h : (do let track ← resolve id; ExceptT.mk (commit (.enqueue track kind)) : Task Unit).run.Ends
      (serve backend) p t (.ok ()) p') : ∃ track, Named p t id track ∧ Filed p' track kind := by
  rcases Program.ends_bind_run.1 h with ⟨t₁, t₂, track, p₁, rfl, h₁, h₂⟩ | ⟨e, -, he⟩
  · obtain ⟨hnamed, hseen⟩ := ends_resolve_ok hcapacity h₁
    have hcommitted : (commit (.enqueue track kind)).Ends (serve backend) p₁ t₂ (.ok ()) p' := h₂
    obtain ⟨change, rfl⟩ := yields_commit hcommitted.yields
    obtain ⟨hreply, -, bus, rfl⟩ := served_committed hcommitted.served
    refine ⟨track, ?_, ⟨_, Queue.Store.locate_enqueue hreply.symm⟩, hseen⟩
    cases hnamed with
    | remembered h => exact .remembered h
    | lookedUp h => exact .lookedUp (List.mem_append_left _ h)
  · cases he

/-- Nothing that comes before a track is named has to do with its name. -/
theorem Named.of_spared {q : Party σ} {u : List (Exchange interface)} (hspared : Spared q u p)
    (h : Named p t id track) : Named q (u ++ t) id track := by
  cases h with
  | remembered h =>
    rw [hspared.same] at h
    exact .remembered h
  | lookedUp h => exact .lookedUp (List.mem_append_right _ h)

theorem added_bind {x : Task α} {f : α → Task Unit} (hcapacity : 0 < p.cache.capacity)
    (hx : ∀ {t r p'}, x.run.Ends (serve backend) p t r p' → Spared p t p')
    (hf : ∀ {a p₁ u}, 0 < p₁.cache.capacity → (f a).run.Ends (serve backend) p₁ u (.ok ()) p' →
      ∃ track, Named p₁ u id track ∧ Filed p' track kind)
    (h : (x >>= f).run.Ends (serve backend) p t (.ok ()) p') :
    ∃ track, Named p t id track ∧ Filed p' track kind := by
  rcases Program.ends_bind_run.1 h with ⟨t₁, t₂, a, p₁, rfl, h₁, h₂⟩ | ⟨e, -, he⟩
  · have hspared := hx h₁
    have hcache : p₁.cache = p.cache := by rw [hspared.same]
    obtain ⟨track, hnamed, hfiled⟩ := hf (hcache ▸ hcapacity) h₂
    exact ⟨track, hnamed.of_spared hspared, hfiled⟩
  · cases he

/-- A track that was added is filed. -/
theorem filed_of_added (hcapacity : 0 < p.cache.capacity)
    (h : (p.request backend (.add guest id kind)).1 = .ok ()) :
    ∃ track, Named p ((Deed.request (.add guest id kind)).exchanges backend p) id track ∧
      Filed (p.request backend (.add guest id kind)).2 track kind := by
  have hends := Program.ends_run (add guest id kind).run (serve backend) p
  have hresult : ((add guest id kind).run.run (serve backend) p).1 = .ok () := h
  rw [hresult] at hends
  refine added_bind hcapacity ends_findSession (fun hcapacity hrest => ?_) hends
  split at hrest
  · exact added_bind hcapacity ends_requireAdmin ends_enqueue_ok hrest
  · exact ends_enqueue_ok hcapacity hrest

/-! ## Parties -/

/-- At any party there is room for a track in the cache. -/
theorem capacity_run (backend : Backend σ) (rules : Rules) (scheduling : Scheduler.Settings)
    (names : Nat → SessionId) (service : σ) (time : Timestamp) (picks : List (Pick (Deed σ))) :
    0 < ((Venue.Scene.start (venue backend)
      (Party.new rules scheduling names service time)).run picks).state.cache.capacity := by
  have hbegin : ∀ (c : (venue backend).Scene) d, .begin d ∈ picks → 0 < c.state.cache.capacity →
      0 < (c.begun d).state.cache.capacity := by
    intro c d _ hc
    cases d <;> exact hc
  have hstep : ∀ (c : (venue backend).Scene) who d a next, c.pending[who]? = some ⟨d, .ask a next⟩ →
      (venue backend).admits a c.holder = true → 0 < c.state.cache.capacity →
      0 < (c.stepped who d a next).state.cache.capacity := by
    intro c who d a next _ _ hc
    cases a with
    | rememberTracks tracks =>
      show 0 < (c.state.cache.insertAll tracks).capacity
      rw [TrackCache.capacity_insertAll]
      exact hc
    | _ => exact hc
  have hnew : 0 < (TrackCache.new cacheCapacity).capacity := by decide
  exact Venue.Scene.run_invariant (fun c : (venue backend).Scene => 0 < c.state.cache.capacity) hbegin hstep hnew

end Party
end Jukebox
