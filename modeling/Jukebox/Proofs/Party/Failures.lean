import Jukebox.Proofs.Party.Deeds
import Jukebox.Proofs.Queue.Effects

/-!
# Requests that fail

Every request checks first and acts last: what it checks is `Spared`, and if its last act is refused,
nothing comes of that either (`ends_refused`).  So a request that fails was not applied in part
(`unapplied_request`), except that the track it was about may be remembered.
-/

namespace Jukebox.Party

variable {σ α β : Type} {backend : Backend σ} {p p₁ p' : Party σ} {t u : List (Exchange interface)} {e : Error}

/-- The playback service answered a lookup with the track. -/
def LookedUp (track : Track) (t : List (Exchange interface)) : Prop :=
  ∃ id, ⟨.gateway (.call (.lookup id)), .ok track⟩ ∈ t

/-- Observers are told nothing, and all that may be different at the party is the playback service, and a
track that was looked up and is remembered. -/
structure Unapplied (p : Party σ) (t : List (Exchange interface)) (p' : Party σ) : Prop where
  silent : told t = []
  same : p' = { p with service := p'.service, cache := p'.cache }
  remembered : p'.cache = p.cache ∨ ∃ track, LookedUp track t ∧ p'.cache = p.cache.insertAll [track]

/-- Observers are told nothing, and all that may be different at the party is the playback service. -/
structure Spared (p : Party σ) (t : List (Exchange interface)) (p' : Party σ) : Prop where
  silent : told t = []
  same : p' = { p with service := p'.service }

theorem Spared.unapplied (h : Spared p t p') : Unapplied p t p' where
  silent := h.silent
  same := by
    rw [h.same]
  remembered := by
    rw [h.same]
    exact Or.inl rfl

theorem Spared.append (h : Spared p t p₁) (h' : Unapplied p₁ u p') : Unapplied p (t ++ u) p' where
  silent := by
    rw [told_append, h.silent, h'.silent]
    rfl
  same := by
    rw [h'.same, h.same]
  remembered := by
    have hcache : p₁.cache = p.cache := by rw [h.same]
    rw [← hcache]
    refine h'.remembered.imp_right fun ⟨track, ⟨id, hmem⟩, hp'⟩ => ⟨track, ⟨id, ?_⟩, hp'⟩
    exact List.mem_append_right t hmem

theorem Unapplied.append (h : Unapplied p t p₁) (h' : Spared p₁ u p') : Unapplied p (t ++ u) p' where
  silent := by
    rw [told_append, h.silent, h'.silent]
    rfl
  same := by
    rw [h'.same, h.same]
  remembered := by
    have hcache : p'.cache = p₁.cache := by rw [h'.same]
    rw [hcache]
    refine h.remembered.imp_right fun ⟨track, ⟨id, hmem⟩, hp₁⟩ => ⟨track, ⟨id, ?_⟩, hp₁⟩
    exact List.mem_append_left u hmem

/-! ## What comes before the last act -/

/-- What is settled without asking anybody. -/
theorem ends_settled {x r : Except Error α}
    (h : (ExceptT.mk (pure x) : Task α).run.Ends (serve backend) p t r p') : Spared p t p' := by
  obtain ⟨rfl, -, rfl⟩ := Program.ends_pure.1 h
  exact ⟨rfl, rfl⟩

theorem ends_findSession {id : SessionId} {r : Except Error Session}
    (h : (findSession id).run.Ends (serve backend) p t r p') : Spared p t p' := by
  obtain ⟨rfl, -, rfl⟩ := Program.ends_request.1 h
  exact ⟨rfl, rfl⟩

theorem ends_requireAdmin {session : Session} {what : String} {r : Except Error Unit}
    (h : (requireAdmin session what).run.Ends (serve backend) p t r p') : Spared p t p' := by
  unfold requireAdmin at h
  split at h
  · exact ends_settled h
  · exact ends_settled h

theorem ends_gateway {task : Gateway.Task α} {r : Except Error α}
    (h : (gateway task).run.Ends (serve backend) p t r p') : Spared p t p' := by
  obtain ⟨u, -, rfl⟩ := yields_gateway h.yields
  obtain ⟨s, -, rfl⟩ := served_atGateway h.served
  exact ⟨told_atGateway u, rfl⟩

/-- If the beginning does nothing, and the rest comes to nothing when it fails, so does the whole. -/
theorem unapplied_bind {x : Task α} {f : α → Task β}
    (hx : ∀ {t : List (Exchange interface)} {r p'}, x.run.Ends (serve backend) p t r p' → Spared p t p')
    (hf : ∀ {a p₁ u}, (f a).run.Ends (serve backend) p₁ u (.error e) p' → Unapplied p₁ u p')
    (h : (x >>= f).run.Ends (serve backend) p t (.error e) p') : Unapplied p t p' := by
  rcases Program.ends_bind_run.1 h with ⟨t₁, t₂, a, p₁, rfl, h₁, h₂⟩ | ⟨e', he', -⟩
  · exact (hx h₁).append (hf h₂)
  · exact (hx he').unapplied

/-! ## The last act -/

/-- An operation on the queues that is refused. -/
theorem ends_refused {op : Queue.Store.Operation} {r : op.Reply}
    (h : (commit op).Ends (serve backend) p t r p') (hr : op.Refused r) : Spared p t p' := by
  obtain ⟨change, rfl⟩ := yields_commit h.yields
  obtain ⟨rfl, rfl, -⟩ := served_committed h.served
  obtain ⟨hchange, hstore⟩ := Queue.Store.apply_refused hr
  have hserved := h.served
  rw [hchange] at hserved
  obtain ⟨-, hp'⟩ := Program.served_cons.1 hserved
  obtain rfl := Program.served_nil.1 hp'
  constructor
  · rw [told_committed, hchange]
    rfl
  · show { p with store := (p.store.apply op).store } = { p with service := p.service }
    rw [hstore]

/-- A step that does not fail, with nothing behind it that could. -/
theorem not_ends_step {a : Action} {g : a.Answer → β}
    (h : ((liftM (step a) : Task a.Answer) >>= fun x => pure (g x)).run.Ends (serve backend) p t (.error e) p') :
    False := by
  obtain ⟨t₁, t₂, x, p₁, -, -, h₂⟩ := Program.ends_bind_lift.1 h
  obtain ⟨-, he, -⟩ := Program.ends_pure.1 h₂
  cases he

theorem ends_stepVolume {delta : Int16}
    (h : (stepVolume delta).run.Ends (serve backend) p t (.error e) p') : Unapplied p t p' := by
  refine unapplied_bind ends_gateway (fun {volume p₁ u} hrest => ?_) h
  obtain ⟨t₁, t₂, x, p₂, -, -, hdone⟩ := Program.ends_bind.1 hrest
  obtain ⟨-, he, -⟩ := Program.ends_pure.1 hdone
  cases he

/-- How it ends that a track is named: it was remembered, or it was looked up and is remembered now, or it
could not be looked up. -/
theorem resolve_cases {id : TrackId} {r : Except Error Track}
    (h : (resolve id).run.Ends (serve backend) p t r p') :
    (∃ track, p.cache.get? id = some track ∧ r = .ok track ∧ Spared p t p') ∨
    (∃ track, ⟨.gateway (.call (.lookup id)), .ok track⟩ ∈ t ∧ r = .ok track ∧ told t = [] ∧
      p' = { p with service := p'.service, cache := p.cache.insertAll [track] }) ∨
    (∃ e, r = .error e ∧ Spared p t p') := by
  obtain ⟨t₁, t₂, seen, p₁, rfl, hrecall, hrest⟩ := Program.ends_bind_lift.1 h
  obtain ⟨rfl, hseen, rfl⟩ := Program.ends_request.1 hrecall
  cases seen with
  | some track =>
    obtain ⟨rfl, rfl, rfl⟩ := Program.ends_pure.1 hrest
    exact Or.inl ⟨track, hseen.symm, rfl, rfl, rfl⟩
  | none =>
    rcases Program.ends_bind_run.1 hrest with ⟨t₃, t₄, track, p₂, rfl, hlookup, hfound⟩ | ⟨e, he, rfl⟩
    · obtain ⟨t₅, t₆, _, p₃, rfl, hremember, hdone⟩ := Program.ends_bind_lift.1 hfound
      obtain ⟨rfl, -, rfl⟩ := Program.ends_request.1 hremember
      obtain ⟨rfl, rfl, rfl⟩ := Program.ends_pure.1 hdone
      have hspared := ends_gateway hlookup
      have hanswered := answered_stage hlookup.yields
      refine Or.inr (Or.inl ⟨track, ?_, rfl, ?_, ?_⟩)
      · exact List.mem_append_right _ (List.mem_append_left _ hanswered)
      · rw [told_append, told_append, hspared.silent]
        rfl
      · show { p₂ with cache := p₂.cache.insertAll [track] } = _
        rw [hspared.same]
        rfl
    · have hspared := ends_gateway he
      refine Or.inr (Or.inr ⟨e, rfl, ?_, hspared.same⟩)
      rw [told_append, hspared.silent]
      rfl

/-- However it ends that a track is named, at most it is remembered. -/
theorem ends_resolve {id : TrackId} {r : Except Error Track}
    (h : (resolve id).run.Ends (serve backend) p t r p') : Unapplied p t p' := by
  rcases resolve_cases h with ⟨track, -, -, hspared⟩ | ⟨track, hmem, -, hsilent, hsame⟩ | ⟨e, -, hspared⟩
  · exact hspared.unapplied
  · have hcache : p'.cache = p.cache.insertAll [track] := by rw [hsame]
    refine ⟨hsilent, ?_, Or.inr ⟨track, ⟨id, hmem⟩, hcache⟩⟩
    rw [hcache]
    exact hsame
  · exact hspared.unapplied

/-! ## Requests -/

/-- The track is named before it is added. -/
theorem ends_enqueue {id : TrackId} {kind : Queue.Kind}
    (h : (do let track ← resolve id; ExceptT.mk (commit (.enqueue track kind)) : Task Unit).run.Ends
      (serve backend) p t (.error e) p') : Unapplied p t p' := by
  rcases Program.ends_bind_run.1 h with ⟨t₁, t₂, track, p₁, rfl, h₁, h₂⟩ | ⟨e', he', -⟩
  · exact (ends_resolve h₁).append (ends_refused h₂ ⟨e, rfl⟩)
  · exact ends_resolve he'

/-- A request that fails is not applied in part. -/
theorem ends_request {rules : Rules} {q : Request}
    (h : (q.task rules).run.Ends (serve backend) p t (.error e) p') : Unapplied p t p' := by
  cases q with
  | openSession password nickname => exact (not_ends_step h).elim
  | search pattern limit =>
    have hsearch : ∀ {n p₁ u}, (do
        let tracks ← gateway (Gateway.search pattern n)
        step (.rememberTracks tracks)
        pure tracks : Task (List Track)).run.Ends (serve backend) p₁ u (.error e) p' → Unapplied p₁ u p' :=
      unapplied_bind ends_gateway fun h => (not_ends_step h).elim
    cases limit with
    | none => exact hsearch h
    | some n =>
      dsimp only [Request.task, search] at h
      split at h
      · exact unapplied_bind ends_settled hsearch h
      · exact unapplied_bind ends_settled hsearch h
  | queues session => exact unapplied_bind ends_findSession (fun h => (not_ends_step h).elim) h
  | add session track queue =>
    refine unapplied_bind ends_findSession (fun hrest => ?_) h
    split at hrest
    · exact unapplied_bind ends_requireAdmin ends_enqueue hrest
    · exact ends_enqueue hrest
  | vote session track up =>
    refine unapplied_bind ends_findSession (fun hrest => ?_) h
    exact (ends_refused hrest ⟨e, rfl⟩).unapplied
  | control session action =>
    refine unapplied_bind ends_findSession (fun hrest => ?_) h
    refine unapplied_bind ends_requireAdmin (fun hrest => ?_) hrest
    cases action with
    | play | pause | stop | skip => exact (ends_gateway hrest).unapplied
    | volumeUp | volumeDown => exact ends_stepVolume hrest
  | remove session track =>
    refine unapplied_bind ends_findSession (fun hrest => ?_) h
    refine unapplied_bind ends_requireAdmin (fun hrest => ?_) hrest
    rcases Program.ends_bind_run.1 hrest with ⟨t₁, t₂, entry, p₂, -, -, hdone⟩ | ⟨e', he', -⟩
    · obtain ⟨-, he, -⟩ := Program.ends_pure.1 hdone
      cases he
    · exact (ends_refused he' ⟨e', rfl⟩).unapplied
  | move session track queue =>
    refine unapplied_bind ends_findSession (fun hrest => ?_) h
    refine unapplied_bind ends_requireAdmin (fun hrest => ?_) hrest
    exact (ends_refused hrest ⟨e, rfl⟩).unapplied

/-- Whoever made the request, and whatever the playback service answers. -/
theorem unapplied_request (backend : Backend σ) (p : Party σ) (q : Request)
    (h : (p.request backend q).1 = .error e) :
    Unapplied p ((Deed.request q).exchanges backend p) (p.request backend q).2 := by
  have hends := Program.ends_run (q.task p.rules).run (serve backend) p
  have hresult : ((q.task p.rules).run.run (serve backend) p).1 = .error e := h
  rw [hresult] at hends
  exact ends_request hends

end Jukebox.Party
