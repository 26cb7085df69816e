import Jukebox.Proofs.Gateway.Stage

/-!
# Starting a track

`Gateway.play` lists the devices, selects one, asks what is loaded, makes the device active if that is
nothing, and starts the track.  `Playing` says this of the exchanges with any service whatever
(`yields_play`).  So the track is started exactly if the operation succeeds (`started_play`), and if it
fails, the error was the answer to one of the calls, or there was no device (`answered_play`).
-/

namespace Jukebox.Gateway

/-- The stages of starting a track on a device, up to the first that fails. -/
inductive Starting (device : Device) (track : Track) :
    List (Exchange interface) → Except Error Unit → Prop
  | currentFailed {t e} : Stage .current t (.error e) → Starting device track t (.error e)
  | transferFailed {t₁ t₂ e} : Stage .current t₁ (.ok none) →
      Stage (.transfer device) t₂ (.error e) → Starting device track (t₁ ++ t₂) (.error e)
  | transferred {t₁ t₂ t₃ r} : Stage .current t₁ (.ok none) →
      Stage (.transfer device) t₂ (.ok ()) → Stage (.start track.id device) t₃ r →
      Starting device track (t₁ ++ (t₂ ++ t₃)) r
  | loaded {t₁ t₂ playback r} : Stage .current t₁ (.ok (some playback)) →
      Stage (.start track.id device) t₂ r → Starting device track (t₁ ++ t₂) r

/-- The stages of starting a track on the device that is selected, up to the first that fails. -/
inductive Playing (preferred : Option String) (track : Track) :
    List (Exchange interface) → Except Error Unit → Prop
  | devicesFailed {t e} : Stage .devices t (.error e) → Playing preferred track t (.error e)
  | noDevice {t devices} : Stage .devices t (.ok devices) →
      Device.select devices preferred = .error .noDevices →
      Playing preferred track t (.error .noDevices)
  | selected {t₁ t₂ devices device r} : Stage .devices t₁ (.ok devices) →
      Device.select devices preferred = .ok device → Starting device track t₂ r →
      Playing preferred track (t₁ ++ t₂) r

theorem select_error {devices : List Device} {preferred : Option String} {e : Error}
    (h : Device.select devices preferred = .error e) : e = .noDevices := by
  unfold Device.select at h
  split at h <;> cases h
  rfl

theorem yields_ofExcept {α : Type} {x r : Except Error α} {t : List (Exchange interface)}
    (h : (ofExcept x : Task α).run.Yields t r) : t = [] ∧ x = r := by
  cases x <;> exact Program.yields_pure.1 h

/-- What is done once a device is selected. -/
theorem yields_starting {device : Device} {track : Track} {t : List (Exchange interface)}
    {r : Except Error Unit}
    (h : (do
      let playback ← stage .current
      match (playback : Option Playback) with
      | none => stage (.transfer device)
      | some _ => pure ()
      stage (.start track.id device) : Task Unit).run.Yields t r) : Starting device track t r := by
  rcases Program.yields_bind_run.1 h with ⟨t₁, t₂, playback, rfl, hcurrent, hrest⟩ | ⟨e, he, rfl⟩
  · cases (playback : Option Playback) with
    | none =>
      rcases Program.yields_bind_run.1 hrest with ⟨t₃, t₄, _, rfl, htransfer, hstart⟩ | ⟨e, he, rfl⟩
      · exact .transferred (yields_stage hcurrent) (yields_stage htransfer) (yields_stage hstart)
      · exact .transferFailed (yields_stage hcurrent) (yields_stage he)
    | some playback => exact .loaded (yields_stage hcurrent) (yields_stage hrest)
  · exact .currentFailed (yields_stage he)

theorem yields_play {preferred : Option String} {track : Track} {t : List (Exchange interface)}
    {r : Except Error Unit} (h : (play preferred track).run.Yields t r) :
    ∃ t', Playing preferred track t' r ∧
      t = ⟨.acquire .transport, ()⟩ :: (t' ++ [⟨.release .transport, ()⟩]) := by
  obtain ⟨t', hbody, rfl⟩ := yields_holding h
  refine ⟨t', ?_, rfl⟩
  rcases Program.yields_bind_run.1 hbody with ⟨t₁, t₂, devices, rfl, hdevices, hrest⟩ | ⟨e, he, rfl⟩
  · rcases Program.yields_bind_run.1 hrest with ⟨u, t₂, device, rfl, hselect, hstart⟩ | ⟨e, he, rfl⟩
    · obtain ⟨rfl, hdevice⟩ := yields_ofExcept hselect
      exact .selected (yields_stage hdevices) hdevice (yields_starting hstart)
    · obtain ⟨rfl, hnone⟩ := yields_ofExcept he
      obtain rfl := select_error hnone
      rw [List.append_nil]
      exact .noDevice (yields_stage hdevices) hnone
  · exact .devicesFailed (yields_stage he)

/-! ## What starting a track does -/

/-- The calls that come before a track is started, and renewals. -/
def Prepares (c : Call) : Prop :=
  c.capability = .devices ∨ c.capability = .current ∨ c.capability = .transfer ∨
    c.capability = .refresh

/-- An exchange in which the error `e` was answered to a call before the track was started. -/
def PreparationFailed (e : Error) (x : Exchange interface) : Prop :=
  ∃ c, Prepares c ∧ x = made c (.error e)

/-- An exchange in which the service refused to start the track, with the error `e`. -/
def Refused (id : TrackId) (e : Error) (x : Exchange interface) : Prop :=
  ∃ device, x = made (.start id device) (.error e)

theorem Stage.preparationFailed {c : Call} (hc : Prepares c) {t : List (Exchange interface)}
    {e : Error} (h : Stage c t (.error e)) : ∃ x ∈ t, PreparationFailed e x := by
  rcases h.answered with h | h
  · exact ⟨_, h, c, hc, rfl⟩
  · exact ⟨_, h, .refresh, Or.inr (Or.inr (Or.inr rfl)), rfl⟩

variable {device : Device} {track : Track} {preferred : Option String}
  {t : List (Exchange interface)} {r : Except Error Unit} {e : Error}

theorem Starting.started (h : Starting device track t r) :
    t.filterMap startedIn = startedBy track.id r := by
  cases h with
  | currentFailed h => exact h.started_of_ne (by decide)
  | transferFailed h₁ h₂ =>
    rw [List.filterMap_append, h₁.started_of_ne (by decide), List.nil_append]
    exact h₂.started_of_ne (by simp [Call.capability])
  | transferred h₁ h₂ h₃ =>
    rw [List.filterMap_append, List.filterMap_append, h₁.started_of_ne (by decide),
      h₂.started_of_ne (by simp [Call.capability]), List.nil_append, List.nil_append]
    exact h₃.started_start
  | loaded h₁ h₂ =>
    rw [List.filterMap_append, h₁.started_of_ne (by decide), List.nil_append]
    exact h₂.started_start

theorem Playing.started (h : Playing preferred track t r) :
    t.filterMap startedIn = startedBy track.id r := by
  cases h with
  | devicesFailed h => exact h.started_of_ne (by decide)
  | noDevice h => exact h.started_of_ne (by decide)
  | selected h₁ _ h₂ =>
    rw [List.filterMap_append, h₁.started_of_ne (by decide), List.nil_append]
    exact h₂.started

theorem Stage.refusedOrFailed {device : Device} {id : TrackId}
    (h : Stage (.start id device) t (.error e)) :
    ∃ x ∈ t, Refused id e x ∨ PreparationFailed e x := by
  rcases h.answered with h | h
  · exact ⟨_, h, Or.inl ⟨device, rfl⟩⟩
  · exact ⟨_, h, Or.inr ⟨.refresh, Or.inr (Or.inr (Or.inr rfl)), rfl⟩⟩

theorem Starting.answered (h : Starting device track t (.error e)) :
    ∃ x ∈ t, Refused track.id e x ∨ PreparationFailed e x := by
  cases h with
  | currentFailed h =>
    obtain ⟨x, hx, hf⟩ := h.preparationFailed (Or.inr (Or.inl rfl))
    exact ⟨x, hx, Or.inr hf⟩
  | transferFailed h₁ h₂ =>
    obtain ⟨x, hx, hf⟩ := h₂.preparationFailed (Or.inr (Or.inr (Or.inl rfl)))
    exact ⟨x, List.mem_append_right _ hx, Or.inr hf⟩
  | transferred h₁ h₂ h₃ =>
    obtain ⟨x, hx, hf⟩ := h₃.refusedOrFailed
    exact ⟨x, List.mem_append_right _ (List.mem_append_right _ hx), hf⟩
  | loaded h₁ h₂ =>
    obtain ⟨x, hx, hf⟩ := h₂.refusedOrFailed
    exact ⟨x, List.mem_append_right _ hx, hf⟩

theorem Playing.answered (h : Playing preferred track t (.error e)) :
    (∃ x ∈ t, Refused track.id e x ∨ PreparationFailed e x) ∨ e = .noDevices := by
  cases h with
  | devicesFailed h =>
    obtain ⟨x, hx, hf⟩ := h.preparationFailed (Or.inl rfl)
    exact Or.inl ⟨x, hx, Or.inr hf⟩
  | noDevice h => exact Or.inr rfl
  | selected h₁ _ h₂ =>
    obtain ⟨x, hx, hf⟩ := h₂.answered
    exact Or.inl ⟨x, List.mem_append_right _ hx, hf⟩

/-- The track is started once if the operation succeeds, and not at all if it fails. -/
theorem started_play (h : (play preferred track).run.Yields t r) :
    t.filterMap startedIn = startedBy track.id r := by
  obtain ⟨u, hu, rfl⟩ := yields_play h
  show (u ++ [_]).filterMap startedIn = _
  rw [List.filterMap_append, hu.started]
  exact List.append_nil _

/-- An error of the operation was answered to one of its calls, or there was no device. -/
theorem answered_play (h : (play preferred track).run.Yields t (.error e)) :
    (∃ x ∈ t, Refused track.id e x ∨ PreparationFailed e x) ∨ e = .noDevices := by
  obtain ⟨u, hu, rfl⟩ := yields_play h
  rcases hu.answered with ⟨x, hx, hf⟩ | he
  · exact Or.inl ⟨x, List.mem_cons_of_mem _ (List.mem_append_left _ hx), hf⟩
  · exact Or.inr he

end Jukebox.Gateway
