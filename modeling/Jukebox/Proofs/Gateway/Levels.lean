import Jukebox.Proofs.Gateway.Operations

/-!
# The level of the volume

A playback service may keep the level of the volume as it was set last (`KeepsLevel`).  What an operation
exchanges with such a service, if nobody else sets the volume meanwhile, is seen from the level alone (`Sees`),
and so is what the operation makes of the level and what it answers (`sees_task`).
-/

namespace Jukebox.Gateway

variable {σ : Type}

/-! ## Seeing a level -/

/-- An exchange with a service that is at level `v` before and at another one, or the same, afterwards. -/
inductive Seen (v : UInt8) : Exchange interface → UInt8 → Prop
  | read : Seen v (made .volume (.ok (some v) : Except Error (Option UInt8))) v
  | written (percent : UInt8) : Seen v (made (.setVolume percent) (.ok () : Except Error Unit)) percent
  | other {x : Exchange interface} (hread : x.request ≠ .call .volume)
      (hwritten : ∀ percent, x.request ≠ .call (.setVolume percent)) : Seen v x v

/-- Exchanges with a service that nobody else sets the volume of. -/
inductive Sees : UInt8 → List (Exchange interface) → UInt8 → Prop
  | nil (v : UInt8) : Sees v [] v
  | cons {v w u : UInt8} {x : Exchange interface} {t : List (Exchange interface)} :
      Seen v x w → Sees w t u → Sees v (x :: t) u

theorem sees_append {v u : UInt8} {t₁ t₂ : List (Exchange interface)} :
    Sees v (t₁ ++ t₂) u ↔ ∃ w, Sees v t₁ w ∧ Sees w t₂ u := by
  induction t₁ generalizing v with
  | nil =>
    constructor
    · exact fun h => ⟨v, .nil v, h⟩
    · rintro ⟨w, hnil, h⟩
      cases hnil
      exact h
  | cons x t₁ ih =>
    constructor
    · intro h
      cases h with
      | cons hx h =>
        obtain ⟨w, h₁, h₂⟩ := ih.1 h
        exact ⟨w, .cons hx h₁, h₂⟩
    · rintro ⟨w, h₁, h₂⟩
      cases h₁ with
      | cons hx h₁ => exact .cons hx (ih.2 ⟨w, h₁, h₂⟩)

theorem sees_singleton {v w : UInt8} {x : Exchange interface} : Sees v [x] w ↔ Seen v x w := by
  constructor
  · intro h
    cases h with
    | cons hx h =>
      cases h
      exact hx
  · exact fun h => .cons h (.nil w)

/-- Taking a lock or giving it back is seen from any level. -/
theorem seen_lock {v w : UInt8} {a : Action} {x : a.Answer} (ha : ∀ c, a ≠ .call c)
    (h : Seen v ⟨a, x⟩ w) : w = v := by
  cases h with
  | read => exact absurd rfl (ha _)
  | written => exact absurd rfl (ha _)
  | other => rfl

/-! ## What operations make of a level -/

/-- What an operation makes of the level. -/
def Operation.effect : Operation → UInt8 → UInt8
  | .setVolume percent, _ => percent
  | .adjustVolume delta, v => stepped v delta
  | _, v => v

/-- What an operation answers about the level that it was begun at. -/
def Operation.Reports (v : UInt8) : (op : Operation) → Except Error op.Result → Prop
  | .volume, r => r = (.ok v : Except Error UInt8)
  | .setVolume _, r => r = (.ok () : Except Error Unit)
  | .adjustVolume delta, r => r = (.ok (stepped v delta) : Except Error UInt8)
  | _, _ => True

section
variable {v w : UInt8} {t : List (Exchange interface)}

theorem seen_volume {r : Except Error (Option UInt8)} (h : Seen v (made .volume r) w) :
    r = .ok (some v) ∧ w = v := by
  generalize hx : made Call.volume r = x at h
  cases h with
  | read =>
    cases hx
    exact ⟨rfl, rfl⟩
  | written percent => cases hx
  | other hread => exact absurd (hx ▸ rfl) hread

theorem seen_setVolume {percent : UInt8} {r : Except Error Unit}
    (h : Seen v (made (.setVolume percent) r) w) : r = .ok () ∧ w = percent := by
  generalize hx : made (Call.setVolume percent) r = x at h
  cases h with
  | read => cases hx
  | written percent =>
    cases hx
    exact ⟨rfl, rfl⟩
  | other _ hwritten => exact absurd (hx ▸ rfl) (hwritten percent)

theorem sees_stage_volume {r : Except Error Call.volume.Result} (h : Stage .volume t r)
    (hs : Sees v t w) : r = (.ok (some v) : Except Error (Option UInt8)) ∧ w = v := by
  cases h with
  | settled => exact seen_volume (sees_singleton.1 hs)
  | notRenewed | repeated =>
    cases hs with
    | cons hx _ => exact absurd (seen_volume hx).1 nofun

theorem sees_stage_setVolume {percent : UInt8} {r : Except Error (Call.setVolume percent).Result}
    (h : Stage (.setVolume percent) t r) (hs : Sees v t w) :
    r = (.ok () : Except Error Unit) ∧ w = percent := by
  cases h with
  | settled => exact seen_setVolume (sees_singleton.1 hs)
  | notRenewed | repeated =>
    cases hs with
    | cons hx _ => exact absurd (seen_setVolume hx).1 nofun

theorem sees_readVolume {r : Except Error UInt8} (h : readVolume.run.Yields t r) (hs : Sees v t w) :
    r = .ok v ∧ w = v := by
  rcases Program.yields_bind_run.1 h with ⟨t₁, t₂, volume, rfl, h₁, h₂⟩ | ⟨e, he, rfl⟩
  · obtain ⟨u, hs₁, hs₂⟩ := sees_append.1 hs
    obtain ⟨hvolume, rfl⟩ := sees_stage_volume (yields_stage h₁) hs₁
    cases hvolume
    obtain ⟨rfl, rfl⟩ := Program.yields_pure.1 h₂
    cases hs₂
    exact ⟨rfl, rfl⟩
  · exact absurd (sees_stage_volume (yields_stage he) hs).1 nofun

theorem sees_holding {α : Type} {body : Task α} {r : Except Error α}
    (h : (holding .volume body).run.Yields t r) (hs : Sees v t w) :
    ∃ u, body.run.Yields u r ∧ Sees v u w := by
  obtain ⟨u, hu, rfl⟩ := yields_holding h
  cases hs with
  | cons hx hs =>
    obtain rfl := seen_lock (a := .acquire .volume) nofun hx
    obtain ⟨w', hs, hx⟩ := sees_append.1 hs
    obtain rfl := seen_lock (a := .release .volume) nofun (sees_singleton.1 hx)
    exact ⟨u, hu, hs⟩

/-- What an operation that has the volume to itself makes of the level, and what it answers. -/
theorem sees_task {op : Operation} {preferred : Option String} {r : Except Error op.Result}
    (hop : op.lock? = some .volume) (ht : t ≠ []) (h : (op.task preferred).run.Yields t r)
    (hs : Sees v t w) : w = op.effect v ∧ op.Reports v r := by
  cases op with
  | volume =>
    obtain ⟨u, hu, hs⟩ := sees_holding h hs
    obtain ⟨rfl, rfl⟩ := sees_readVolume hu hs
    exact ⟨rfl, rfl⟩
  | setVolume percent =>
    have h : (Gateway.setVolume percent).run.Yields t r := h
    unfold Gateway.setVolume at h
    split at h
    · obtain ⟨u, hu, hs⟩ := sees_holding h hs
      obtain ⟨rfl, rfl⟩ := sees_stage_setVolume (yields_stage hu) hs
      exact ⟨rfl, rfl⟩
    · obtain ⟨rfl, -⟩ := Program.yields_pure.1 h
      exact absurd rfl ht
  | adjustVolume delta =>
    obtain ⟨u, hu, hs⟩ := sees_holding h hs
    rcases Program.yields_bind_run.1 hu with ⟨t₁, t₂, volume, rfl, h₁, h₂⟩ | ⟨e, he, rfl⟩
    · obtain ⟨v', hs₁, hs₂⟩ := sees_append.1 hs
      obtain ⟨hvolume, rfl⟩ := sees_readVolume h₁ hs₁
      cases hvolume
      dsimp only at h₂
      split at h₂
      · rcases Program.yields_bind_run.1 h₂ with ⟨t₃, t₄, _, rfl, h₃, h₄⟩ | ⟨e, he, rfl⟩
        · obtain ⟨w', hs₃, hs₄⟩ := sees_append.1 hs₂
          obtain ⟨-, rfl⟩ := sees_stage_setVolume (yields_stage h₃) hs₃
          obtain ⟨rfl, rfl⟩ := Program.yields_pure.1 h₄
          cases hs₄
          exact ⟨rfl, rfl⟩
        · exact absurd (sees_stage_setVolume (yields_stage he) hs₂).1 nofun
      · next heq =>
        obtain ⟨rfl, rfl⟩ := Program.yields_pure.1 h₂
        cases hs₂
        exact ⟨(Decidable.not_not.1 heq).symm, rfl⟩
    · exact absurd (sees_readVolume he hs).1 nofun
  | _ => cases hop

end

/-! ## Services that keep the level -/

/-- The calls for the volume succeed, and the level is the one that was set last. -/
structure KeepsLevel (backend : Backend σ) (level : σ → UInt8) : Prop where
  read : ∀ now s, (backend.serve now .volume s).1 = (.ok (some (level s)) : Except Error (Option UInt8))
  written : ∀ now percent s, percent ≤ 100 →
    (backend.serve now (.setVolume percent) s).1 = (.ok () : Except Error Unit) ∧
      level (backend.serve now (.setVolume percent) s).2 = percent
  kept : ∀ now c s, (∀ percent, c ≠ .setVolume percent) → level (backend.serve now c s).2 = level s

variable {backend : Backend σ} {level : σ → UInt8}

/-- A step of an operation that sets no volume leaves the level as it is. -/
theorem KeepsLevel.serve_eq (h : KeepsLevel backend level) (now : Instant) {a : Action}
    (ha : ∀ percent, a ≠ .call (.setVolume percent)) (s : σ) :
    level (serve backend now a s).2 = level s := by
  cases a with
  | call c => exact h.kept now c s fun percent hc => ha percent (congrArg Action.call hc)
  | acquire | release => rfl

theorem KeepsLevel.seen (h : KeepsLevel backend level) (now : Instant) {a : Action}
    (ha : ∀ percent, a = .call (.setVolume percent) → percent ≤ 100) (s : σ) :
    Seen (level s) ⟨a, (serve backend now a s).1⟩ (level (serve backend now a s).2) := by
  by_cases hwritten : ∃ percent, a = .call (.setVolume percent)
  · obtain ⟨percent, rfl⟩ := hwritten
    obtain ⟨hanswer, hlevel⟩ := h.written now percent s (ha percent rfl)
    have hseen := Seen.written (v := level s) percent
    rw [← hanswer] at hseen
    exact hlevel.symm ▸ hseen
  · have hno : ∀ percent, a ≠ .call (.setVolume percent) := fun percent heq => hwritten ⟨percent, heq⟩
    rw [h.serve_eq now hno s]
    by_cases hread : a = .call .volume
    · subst hread
      have hseen := Seen.read (v := level s)
      rw [← h.read now s] at hseen
      exact hseen
    · exact .other hread hno

end Jukebox.Gateway
