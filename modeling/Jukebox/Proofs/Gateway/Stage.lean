import Jukebox.Gateway
import Jukebox.Proofs.Trace

/-!
# The stages of a gateway operation

Every call to the playback service is made in a `Stage`: one call; if it reports expired credentials,
one renewal; and if that succeeds, the same call once more.  What `stage c` exchanges with any service
whatever is such a stage (`yields_stage`), and every such stage may be exchanged (`Stage.yields`).  A lock
is held around all of an operation (`yields_holding`).

    a failed stage ends with the error of its last call                  (Stage.answered)
    a stage starts a track exactly if it is to start it and succeeds     (Stage.started_start)
-/

namespace Jukebox.Gateway

/-- A call and its answer. -/
def made (c : Call) (r : Except Error c.Result) : Exchange interface :=
  ⟨.call c, r⟩

/-- What one capability is used for, with all calls that this takes. -/
inductive Stage (c : Call) : List (Exchange interface) → Except Error c.Result → Prop
  /-- The credentials were not at fault. -/
  | settled {r : Except Error c.Result}
      (h : ∀ e, r = .error e → e.isCredentialExpired = false) : Stage c [made c r] r
  /-- The credentials could not be renewed. -/
  | notRenewed {e e' : Error} (h : e.isCredentialExpired = true) :
      Stage c [made c (.error e), made .refresh (.error e')] (.error e')
  /-- The call was made once more with renewed credentials. -/
  | repeated {e : Error} {r : Except Error c.Result} (h : e.isCredentialExpired = true) :
      Stage c [made c (.error e), made .refresh (.ok ()), made c r] r

theorem yields_call {c : Call} {t : List (Exchange interface)} {r : Except Error c.Result} :
    (call c).run.Yields t r ↔ t = [made c r] :=
  Program.yields_request

theorem yields_stage {c : Call} {t : List (Exchange interface)} {r : Except Error c.Result}
    (h : (stage c).run.Yields t r) : Stage c t r := by
  unfold stage at h
  rw [ExceptT.run_tryCatch] at h
  obtain ⟨t₁, t₂, a, rfl, h₁, h₂⟩ := Program.yields_bind.1 h
  obtain rfl := yields_call.1 h₁
  cases a with
  | ok a =>
    obtain ⟨rfl, rfl⟩ := Program.yields_pure.1 h₂
    exact .settled fun e he => by cases he
  | error e =>
    dsimp only at h₂
    split at h₂
    · next he =>
      rcases Program.yields_bind_run.1 h₂ with ⟨u₁, u₂, x, rfl, hu₁, hu₂⟩ | ⟨e', he', rfl⟩
      · obtain rfl := yields_call.1 hu₁
        obtain rfl := yields_call.1 hu₂
        exact .repeated he
      · obtain rfl := yields_call.1 he'
        exact .notRenewed he
    · next he =>
      obtain ⟨rfl, rfl⟩ := Program.yields_pure.1 h₂
      refine .settled fun e' he' => ?_
      cases he'
      exact Bool.eq_false_iff.2 he

/-- Every stage may be what is exchanged for its call. -/
theorem Stage.yields {c : Call} {t : List (Exchange interface)} {r : Except Error c.Result}
    (h : Stage c t r) : (Gateway.stage c).run.Yields t r := by
  unfold Gateway.stage
  rw [ExceptT.run_tryCatch]
  cases h with
  | settled fresh =>
    refine Program.yields_bind.2 ⟨[made c r], [], r, rfl, yields_call.2 rfl, ?_⟩
    cases r with
    | ok a => exact .done _
    | error e =>
      have hfresh : ¬ e.isCredentialExpired = true := Bool.eq_false_iff.1 (fresh e rfl)
      dsimp only
      rw [if_neg hfresh]
      exact .done _
  | @notRenewed e e' expired =>
    refine Program.yields_bind.2 ⟨[_], [_], _, rfl, yields_call.2 rfl, ?_⟩
    dsimp only
    rw [if_pos expired]
    exact Program.yields_bind_run.2 (Or.inr ⟨e', yields_call.2 rfl, rfl⟩)
  | @repeated e r expired =>
    refine Program.yields_bind.2 ⟨[_], [_, _], _, rfl, yields_call.2 rfl, ?_⟩
    dsimp only
    rw [if_pos expired]
    exact Program.yields_bind_run.2
      (Or.inl ⟨[_], [_], _, rfl, yields_call.2 rfl, yields_call.2 rfl⟩)

/-- A stage ends where its answers end it. -/
theorem Stage.unique {c : Call} {t t' u u' : List (Exchange interface)} {r r' : Except Error c.Result}
    (h : Stage c t r) (h' : Stage c t' r') (heq : t ++ u = t' ++ u') : t = t' ∧ r = r' :=
  h.yields.unique h'.yields heq

theorem yields_holding {α : Type} {lock : Lock} {body : Task α} {t : List (Exchange interface)}
    {r : Except Error α} (h : (holding lock body).run.Yields t r) :
    ∃ t', body.run.Yields t' r ∧ t = ⟨.acquire lock, ()⟩ :: (t' ++ [⟨.release lock, ()⟩]) := by
  obtain ⟨t₁, t₂, a, rfl, h₁, h₂⟩ := Program.yields_bind.1 h
  obtain ⟨t', t₃, r', rfl, hb, h₃⟩ := Program.yields_bind.1 h₂
  obtain ⟨t₄, t₅, b, rfl, h₄, h₅⟩ := Program.yields_bind.1 h₃
  obtain ⟨rfl, rfl⟩ := Program.yields_pure.1 h₅
  obtain rfl := Program.yields_request.1 h₁
  obtain rfl := Program.yields_request.1 h₄
  exact ⟨t', hb, rfl⟩

theorem holding_yields {α : Type} {lock : Lock} {body : Task α} {t : List (Exchange interface)}
    {r : Except Error α} (h : body.run.Yields t r) :
    (holding lock body).run.Yields (⟨.acquire lock, ()⟩ :: (t ++ [⟨.release lock, ()⟩])) r := by
  refine Program.yields_bind.2 ⟨[_], _, (), rfl, Program.yields_request.2 rfl, ?_⟩
  refine Program.yields_bind.2 ⟨t, [_], r, rfl, h, ?_⟩
  exact Program.yields_bind.2 ⟨[_], [], (), rfl, Program.yields_request.2 rfl, .done r⟩

/-! ## What a stage does -/

/-- The track that an exchange has started. -/
def startedIn : Exchange interface → Option TrackId
  | ⟨.call (.start id _), .ok _⟩ => some id
  | _ => none

/-- The track is started once if the attempt succeeds, and not at all if it fails. -/
def startedBy {α : Type} (id : TrackId) : Except Error α → List TrackId
  | .ok _ => [id]
  | .error _ => []

namespace Stage

variable {c : Call} {t : List (Exchange interface)} {r : Except Error c.Result}

/-- A failed stage has the error of its call, or of the renewal. -/
theorem answered {e : Error} (h : Stage c t (.error e)) :
    made c (.error e) ∈ t ∨ made .refresh (.error e) ∈ t := by
  cases h with
  | settled => exact Or.inl (by simp)
  | notRenewed => exact Or.inr (by simp)
  | repeated => exact Or.inl (by simp)

/-- What a stage succeeds with was answered to its call. -/
theorem answered_ok {a : c.Result} (h : Stage c t (.ok a)) : made c (.ok a) ∈ t := by
  cases h with
  | settled => simp
  | repeated => simp

/-- Only the stage's own call and renewals are made. -/
theorem request_eq (h : Stage c t r) : ∀ x ∈ t, x.request = .call c ∨ x.request = .call .refresh := by
  cases h <;> simp [made]

theorem started_of_ne (h : Stage c t r) (hc : c.capability ≠ .start) :
    t.filterMap startedIn = [] := by
  rw [List.filterMap_eq_nil_iff]
  intro x hx
  obtain ⟨request, answer⟩ := x
  rcases h.request_eq _ hx with rfl | rfl
  · cases c <;> first | rfl | exact absurd rfl hc
  · rfl

theorem started_start {id : TrackId} {device : Device}
    {r : Except Error (Call.start id device).Result} (h : Stage (.start id device) t r) :
    t.filterMap startedIn = startedBy id r := by
  cases h with
  | settled => cases r <;> rfl
  | notRenewed => rfl
  | repeated => cases r <;> rfl

end Stage
end Jukebox.Gateway
