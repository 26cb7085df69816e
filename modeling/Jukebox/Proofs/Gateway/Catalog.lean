import Jukebox.Player
import Jukebox.Proofs.Gateway.Play

/-!
# The simulated service and its catalog

No call changes the catalog of a `Player` (`sameSetting_serve`), and a track of the catalog is never
refused for good: if starting it fails, the player is offline, its access token has expired, or there is
no such device, and all this may pass (`isTransient_of_play`).
-/

namespace Jukebox.Player

variable {player : Player} {now : Instant}

/-- The player can start a track of this name. -/
def Offers (player : Player) (id : TrackId) : Prop :=
  ∃ track ∈ player.catalog, track.id = id

theorem find?_ne_none {id : TrackId} (h : player.Offers id) : player.find? id ≠ none := by
  obtain ⟨track, htrack, hid⟩ := h
  intro hnone
  have hne := List.find?_eq_none.1 hnone track htrack
  exact hne (beq_iff_eq.2 hid)

/-- A call that does not get through fails for a reason that may pass. -/
theorem isTransient_of_connected {α : Type} {answer : Except Error α × Player} {e : Error}
    (h : (player.connected answer).1 = .error e)
    (hanswer : answer.1 = .error e → e.isTransient = true) : e.isTransient = true := by
  unfold connected at h
  split at h
  · cases h
    rfl
  · split at h
    · exact hanswer h
    · cases h
      rfl

/-- What no call changes is the same for both players. -/
structure SameSetting (player player' : Player) : Prop where
  catalog : player'.catalog = player.catalog
  devices : player'.devices = player.devices
  offline : player'.offline = player.offline
  refreshIneffective : player'.refreshIneffective = player.refreshIneffective

theorem sameSetting_connected {α : Type} {answer : Except Error α × Player}
    (h : player.SameSetting answer.2) : player.SameSetting (player.connected answer).2 := by
  unfold connected
  split
  · exact ⟨rfl, rfl, rfl, rfl⟩
  · split
    · exact h
    · exact ⟨rfl, rfl, rfl, rfl⟩

theorem sameSetting_serve (c : Call) : player.SameSetting (serve now c player).2 := by
  cases c with
  | refresh =>
    show player.SameSetting player.refresh.2
    unfold refresh
    split
    · exact ⟨rfl, rfl, rfl, rfl⟩
    · split <;> exact ⟨rfl, rfl, rfl, rfl⟩
  | start id device =>
    refine sameSetting_connected ?_
    unfold start
    split
    · split <;> exact ⟨rfl, rfl, rfl, rfl⟩
    · exact ⟨rfl, rfl, rfl, rfl⟩
  | search | current | devices | pause | volume => exact sameSetting_connected ⟨rfl, rfl, rfl, rfl⟩
  | lookup | transfer | resume | skip | setVolume =>
    refine sameSetting_connected ?_
    split <;> exact ⟨rfl, rfl, rfl, rfl⟩

theorem catalog_gateway (a : Gateway.Action) :
    (Gateway.serve backend now a player).2.catalog = player.catalog := by
  cases a with
  | call c => exact (sameSetting_serve c).catalog
  | acquire | release => rfl

/-! ## Failures -/

/-- A renewal, and the calls before a track is started, fail only for reasons that may pass. -/
theorem isTransient_of_prepares {c : Call} {e : Error} (hc : Gateway.Prepares c)
    (h : (serve now c player).1 = .error e) : e.isTransient = true := by
  cases c with
  | refresh =>
    have h : player.refresh.1 = .error e := h
    unfold refresh at h
    split at h
    · cases h
      rfl
    · split at h <;> cases h
  | devices => exact isTransient_of_connected h nofun
  | current => exact isTransient_of_connected h nofun
  | transfer device =>
    refine isTransient_of_connected h fun hanswer => ?_
    split at hanswer <;> cases hanswer
    rfl
  | _ => simp [Gateway.Prepares, Call.capability] at hc

/-- A track of the catalog is not refused for good. -/
theorem isTransient_of_start {id : TrackId} {device : Device} {e : Error} (hid : player.Offers id)
    (h : (serve now (.start id device) player).1 = .error e) : e.isTransient = true := by
  refine isTransient_of_connected h fun hanswer => ?_
  unfold start at hanswer
  split at hanswer
  · split at hanswer
    · next hnone => exact absurd hnone (find?_ne_none hid)
    · cases hanswer
  · cases hanswer
    rfl

theorem isTransient_of_play {preferred : Option String} {track : Track} {player' : Player}
    {t : List (Exchange Gateway.interface)} {e : Error} (hid : player.Offers track.id)
    (h : (Gateway.play preferred track).run.Ends (Gateway.serve backend now) player t (.error e)
      player') : e.isTransient = true := by
  -- Earlier calls may have changed the player, but not its catalog.
  have hstep : ∀ a q, q.catalog = player.catalog →
      (Gateway.Refused track.id e ⟨a, (Gateway.serve backend now a q).1⟩ ∨
        Gateway.PreparationFailed e ⟨a, (Gateway.serve backend now a q).1⟩ → e.isTransient = true) ∧
      (Gateway.serve backend now a q).2.catalog = player.catalog := by
    intro a q hq
    constructor
    · rintro (⟨device, hx⟩ | ⟨c, hc, hx⟩)
      · obtain ⟨rfl, hx⟩ := Exchange.mk.inj hx
        have hoffers : q.Offers track.id := by
          unfold Offers
          rwa [hq]
        exact isTransient_of_start hoffers (eq_of_heq hx)
      · obtain ⟨rfl, hx⟩ := Exchange.mk.inj hx
        exact isTransient_of_prepares hc (eq_of_heq hx)
    · exact (catalog_gateway a).trans hq
  rcases Gateway.answered_play h.yields with ⟨x, hx, hf⟩ | rfl
  · obtain ⟨hall, -⟩ := h.served.invariant (fun q => q.catalog = player.catalog)
      (fun x => Gateway.Refused track.id e x ∨ Gateway.PreparationFailed e x → e.isTransient = true)
      hstep rfl
    exact hall x hx hf
  · rfl

end Jukebox.Player
