import Jukebox.Proofs.Gateway.Catalog
import Jukebox.Proofs.Gateway.Operations
import Jukebox.Proofs.Indifference

/-!
# Expired credentials go unnoticed

Over the simulated service, as long as renewing the credentials helps, no gateway operation can tell
whether they have expired (`indifferent_task`).  A stage asks a player with expired credentials first, who
refuses and does nothing else; then it has them renewed and asks again.  A player that is offline says so
before it looks at the credentials, so the failure is the same in both cases.
-/

namespace Jukebox.Player

variable {player player' : Player} {now : Instant}

/-- The player with valid credentials that were renewed so many times. -/
def renewed (player : Player) (count : Nat) : Player :=
  { player with credentialsValid := true, refreshCount := count }

theorem connected_renewed {α : Type} {answer : Except Error α × Player} {count : Nat}
    (h : player.offline = false) : (player.renewed count).connected answer = answer := by
  simp [connected, renewed, h]

theorem connected_offline {α : Type} {answer : Except Error α × Player}
    (h : player.offline = true) : player.connected answer = (.error .playerOffline, player) := by
  simp [connected, h]

theorem serve_offline (c : Call) (h : player.offline = true) :
    serve now c player = (.error .playerOffline, player) := by
  cases c with
  | refresh => exact if_pos h
  | _ => exact connected_offline h

theorem find?_renewed (count : Nat) (id : TrackId) :
    (player.renewed count).find? id = player.find? id := rfl

theorem hasDevice_renewed (count : Nat) (id : String) :
    (player.renewed count).hasDevice id = player.hasDevice id := rfl

theorem loaded_renewed (count : Nat) : (player.renewed count).loaded = player.loaded := rfl

theorem refresh_renewed (count : Nat) (h : player.offline = false) :
    (player.renewed count).refresh = (.ok (), player.renewed count) := by
  simp [refresh, renewed, h]

theorem start_renewed (count : Nat) (id : TrackId) (device : Device) :
    (player.renewed count).start now id device =
      (((player.renewed 0).start now id device).1,
        ((player.renewed 0).start now id device).2.renewed count) := by
  cases hd : player.hasDevice device.id with
  | false =>
    simp only [start, hasDevice_renewed, hd, if_false, Bool.false_eq_true]
    rfl
  | true =>
    simp only [start, hasDevice_renewed, hd, if_true, find?_renewed]
    split <;> simp only [renewed]

/-- How often the credentials were renewed makes no difference to a call. -/
theorem serve_renewed (c : Call) (count : Nat) (h : player.offline = false) :
    serve now c (player.renewed count) =
      ((serve now c (player.renewed 0)).1, (serve now c (player.renewed 0)).2.renewed count) := by
  cases c with
  | refresh =>
    show (player.renewed count).refresh =
      ((player.renewed 0).refresh.1, (player.renewed 0).refresh.2.renewed count)
    rw [refresh_renewed count h, refresh_renewed 0 h]
    rfl
  | search | current | devices | pause | volume =>
    simp only [serve, connected_renewed h]
    rfl
  | lookup id =>
    simp only [serve, connected_renewed h, find?_renewed]
    split <;> rfl
  | transfer device =>
    simp only [serve, connected_renewed h]
    cases hd : player.hasDevice device.id <;> simp only [hasDevice_renewed, hd] <;> rfl
  | start id device =>
    have hserve : ∀ n, serve now (.start id device) (player.renewed n) =
        (player.renewed n).start now id device := fun n => connected_renewed h
    rw [hserve, hserve]
    exact start_renewed count id device
  | resume | skip | setVolume =>
    simp only [serve, connected_renewed h, loaded_renewed]
    split <;> rfl

/-- With valid credentials no call fails because they have expired. -/
theorem isCredentialExpired_renewed {c : Call} {count : Nat} {e : Error} (h : player.offline = false)
    (he : (serve now c (player.renewed count)).1 = .error e) : e.isCredentialExpired = false := by
  cases c with
  | refresh =>
    rw [show serve now .refresh (player.renewed count) = _ from refresh_renewed count h] at he
    cases he
  | search | current | devices | pause | volume =>
    simp only [serve, connected_renewed h] at he
    cases he
  | lookup | transfer | resume | skip | setVolume =>
    simp only [serve, connected_renewed h] at he
    split at he <;> cases he
    rfl
  | start id device =>
    have he : ((player.renewed count).connected ((player.renewed count).start now id device)).1 =
      .error e := he
    rw [connected_renewed h] at he
    unfold start at he
    split at he
    · split at he <;> cases he
      rfl
    · cases he
      rfl

theorem renewed_refreshCount (h : player.credentialsValid = true) :
    player.renewed player.refreshCount = player := by
  unfold renewed
  rw [← h]

theorem serve_expired {c : Call} (honline : player.offline = false)
    (hvalid : player.credentialsValid = false) (hc : c ≠ .refresh) :
    serve now c player = (.error .playerTokenExpired, player) := by
  have hconnected : ∀ {α : Type} (answer : Except Error α × Player),
      player.connected answer = (.error .playerTokenExpired, player) := by
    intro α answer
    simp [connected, honline, hvalid]
  cases c with
  | refresh => exact absurd rfl hc
  | _ => exact hconnected _

theorem refresh_expired (honline : player.offline = false) (hvalid : player.credentialsValid = false)
    (heffective : player.refreshIneffective = false) :
    player.refresh = (.ok (), player.renewed (player.refreshCount + 1)) := by
  simp [refresh, renewed, honline, hvalid, heffective]

/-- Players that differ at most in their credentials and in how often these were renewed; renewing them
helps. -/
def Alike (player player' : Player) : Prop :=
  player.refreshIneffective = false ∧ ∃ valid count,
    player' = { player with credentialsValid := valid, refreshCount := count }

namespace Alike

theorem offline (h : player.Alike player') : player'.offline = player.offline := by
  obtain ⟨-, valid, count, rfl⟩ := h
  rfl

theorem refreshIneffective (h : player.Alike player') : player'.refreshIneffective = false := by
  obtain ⟨heffective, valid, count, rfl⟩ := h
  exact heffective

theorem renewed (h : player.Alike player') (count : Nat) :
    player'.renewed count = player.renewed count := by
  obtain ⟨-, valid, n, rfl⟩ := h
  rfl

end Alike
end Jukebox.Player

namespace Jukebox.Gateway

/-- A stage is one call, unless this reports expired credentials; then they are renewed first. -/
theorem run_stage {σ : Type} (backend : Backend σ) (now : Instant) (c : Call) (s : σ) :
    (stage c).run.run (serve backend now) s =
      match backend.serve now c s with
      | (.ok a, s) => (.ok a, s)
      | (.error e, s) =>
        if e.isCredentialExpired then
          match backend.serve now .refresh s with
          | (.ok _, s) => backend.serve now c s
          | (.error e, s) => (.error e, s)
        else (.error e, s) := by
  have hcall : ∀ (c : Call) (s : σ), (call c).run.run (serve backend now) s = backend.serve now c s :=
    fun _ _ => rfl
  unfold stage
  rw [ExceptT.run_tryCatch, Program.run_bind, hcall]
  obtain ⟨r, s⟩ := backend.serve now c s
  cases r with
  | ok a => rfl
  | error e =>
    dsimp only
    split
    · show (call .refresh >>= fun _ => call c).run.run (serve backend now) s = _
      rw [ExceptT.run_bind, Program.run_bind, hcall]
      obtain ⟨r, s⟩ := backend.serve now .refresh s
      cases r <;> rfl
    · rfl

section
variable {player player' : Player} (now : Instant)

theorem run_stage_renewed (c : Call) (count : Nat) (honline : player.offline = false) :
    (stage c).run.run (serve Player.backend now) (player.renewed count) =
      Player.serve now c (player.renewed count) := by
  have hserve : Player.backend.serve = Player.serve := rfl
  rw [run_stage, hserve]
  cases hanswer : Player.serve now c (player.renewed count) with
  | mk r after =>
    cases r with
    | ok a => rfl
    | error e =>
      have he := Player.isCredentialExpired_renewed honline (congrArg Prod.fst hanswer)
      simp only [he, if_false, Bool.false_eq_true]

/-- Unless the player is offline, a stage leads to what its call leads to with valid credentials. -/
theorem run_stage_online (c : Call) (heffective : player.refreshIneffective = false)
    (honline : player.offline = false) : ∃ count,
      (stage c).run.run (serve Player.backend now) player =
        Player.serve now c (player.renewed count) := by
  cases hvalid : player.credentialsValid with
  | true =>
    refine ⟨player.refreshCount, ?_⟩
    have h := run_stage_renewed now c player.refreshCount honline
    rwa [Player.renewed_refreshCount hvalid] at h ⊢
  | false =>
    refine ⟨player.refreshCount + 1, ?_⟩
    have hserve : Player.backend.serve = Player.serve := rfl
    have hrefresh : Player.serve now .refresh player = (.ok (), player.renewed (player.refreshCount + 1)) :=
      Player.refresh_expired honline hvalid heffective
    rw [run_stage, hserve]
    by_cases hc : c = .refresh
    · subst hc
      rw [hrefresh]
      exact (Player.refresh_renewed _ honline).symm
    · rw [Player.serve_expired honline hvalid hc]
      have hexpired : Error.playerTokenExpired.isCredentialExpired = true := rfl
      simp only [hexpired, if_true, hrefresh]

theorem run_stage_offline (c : Call) (hoffline : player.offline = true) :
    (stage c).run.run (serve Player.backend now) player = (.error .playerOffline, player) := by
  have hserve : Player.backend.serve = Player.serve := rfl
  rw [run_stage, hserve, Player.serve_offline c hoffline]
  rfl

/-- A stage cannot tell whether the credentials have expired, if nobody sees its calls. -/
theorem indifferent_stage (c : Call) :
    (stage c).run.Indifferent (serve Player.backend now) Player.Alike fun _ => false := by
  intro player player' halike
  have hunseen : ∀ t : List (Exchange interface), t.filter (fun _ => false) = [] := by simp
  have heffective := halike.1
  have heffective' := halike.refreshIneffective
  have honline' := halike.offline
  cases honline : player.offline with
  | true =>
    rw [honline] at honline'
    have h := run_stage_offline now c honline
    have h' := run_stage_offline now c honline'
    refine ⟨?_, ?_, by rw [hunseen, hunseen]⟩
    · rw [h, h']
    · rw [h, h']
      exact halike
  | false =>
    rw [honline] at honline'
    obtain ⟨n, h⟩ := run_stage_online now c heffective honline
    obtain ⟨m, h'⟩ := run_stage_online now c heffective' honline'
    rw [Player.serve_renewed c n honline] at h
    rw [halike.renewed, Player.serve_renewed c m honline] at h'
    have hsetting : (player.renewed 0).SameSetting (Player.serve now c (player.renewed 0)).2 :=
      Player.sameSetting_serve c
    refine ⟨?_, ?_, by rw [hunseen, hunseen]⟩
    · rw [h, h']
    · rw [h, h']
      exact ⟨hsetting.refreshIneffective.trans heffective, true, m, rfl⟩

theorem Made.indifferent {calls : Call → Prop} {α : Type} {q : Program interface α}
    (h : Made calls q) : q.Indifferent (serve Player.backend now) Player.Alike fun _ => false := by
  induction h with
  | pure a => exact Program.indifferent_pure a
  | stage => exact indifferent_stage now _
  | acquire lock => exact Program.indifferent_request fun _ _ hs => ⟨rfl, hs⟩
  | release lock => exact Program.indifferent_request fun _ _ hs => ⟨rfl, hs⟩
  | bind _ _ ihq ihf => exact ihq.bind ihf

end
end Jukebox.Gateway
