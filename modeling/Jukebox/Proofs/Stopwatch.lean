import Jukebox.Proofs.Gateway.Expiry

/-!
# The player is a stopwatch

What happened on a player since a track was started there is a list of `Happening`s, the latest first: time passed, and
calls were answered, of any kind but those that load another track (`Since`).  In between the service may be cut off,
and its credentials may expire.  From the list alone one reads whether the track plays (`runs`) and how long it has
been playing (`timePlayed`).

The player knows only a saved offset and when playing was resumed.  The sum of both is its `position`, which every
step keeps equal to the time played, up to the end of the track (`Follows`):

    min (l.position now) duration = min (timePlayed h) duration

Behind the end the position may fall short, as a pause saves it cut off, but not the time played.  So the track is
reported with the time played, as long as that is less than the duration, and then never again (`stopwatch`).
-/

namespace Jukebox

/-- How far the track has come, were it not for its end. -/
def Loaded.position (l : Loaded) (now : Instant) : Nat :=
  l.offset.toNat + (l.resumedAt.map now.since).getD 0

/-- The call leaves the track loaded that is, unless this has come to its end. -/
def Call.KeepsTrack : Call → Prop
  | .start .. | .skip => False
  | _ => True

namespace Player

/-- What happens to a player. -/
inductive Happening where
  | waited (millis : Nat)
  | called (c : Call) (answer : Except Error c.Result)

/-- Whether the track plays from now on, where something was done about it. -/
def Happening.playing? : Happening → Option Bool
  | .called .resume (.ok _) => some true
  | .called .pause (.ok _) => some false
  | _ => none

/-- The progress that was reported. -/
def Happening.report? : Happening → Option UInt64
  | .called .current (.ok (some playback)) => some playback.progress
  | _ => none

/-- The track plays, as it was last resumed or paused successfully; a track that is started plays. -/
def runs (h : List Happening) : Bool :=
  (h.findSome? Happening.playing?).getD true

/-- How long the track has been playing, in milliseconds. -/
def timePlayed : List Happening → Nat
  | [] => 0
  | .waited millis :: h => timePlayed h + if runs h then millis else 0
  | .called .. :: h => timePlayed h

/-- How long ago the track was started, in milliseconds. -/
def elapsed : List Happening → Nat
  | [] => 0
  | .waited millis :: h => elapsed h + millis
  | .called .. :: h => elapsed h

/-- The progress at every report, the latest first. -/
def reports (h : List Happening) : List UInt64 :=
  h.filterMap Happening.report?

/-- What happened since the track was started, when it is now, and what has become of the player. -/
inductive Since (track : Track) : List Happening → Instant → Player → Prop
  | started {now : Instant} {p p' : Player} {id : TrackId} {device : Device} :
      p.find? id = some track → serve now (.start id device) p = (.ok (), p') → Since track [] now p'
  | startedExternally (now : Instant) (p : Player) : Since track [] now (p.playExternally now track)
  | waited {h : List Happening} {now : Instant} {p : Player} (millis : Nat) :
      Since track h now p → Since track (.waited millis :: h) (now.advance millis) p
  | called {h : List Happening} {now : Instant} {p : Player} {c : Call} :
      Since track h now p → c.KeepsTrack → Since track (.called c (serve now c p).1 :: h) now (serve now c p).2
  /-- The service goes offline or comes back, its credentials expire, its devices change. -/
  | disturbed {h : List Happening} {now : Instant} {p p' : Player} :
      Since track h now p → p'.loaded = p.loaded → Since track h now p'

variable {track : Track} {x : Happening} {h : List Happening} {now : Instant} {p p' : Player} {l : Loaded}

/-! ## Reading what happened -/

theorem runs_cons : runs (x :: h) = x.playing?.getD (runs h) := by
  unfold runs
  rw [List.findSome?_cons]
  cases x.playing? <;> rfl

theorem timePlayed_le_elapsed (h : List Happening) : timePlayed h ≤ elapsed h := by
  induction h with
  | nil => exact Nat.le_refl 0
  | cons x h ih =>
    cases x with
    | waited millis =>
      refine Nat.add_le_add ih ?_
      split <;> omega
    | called => exact ih

theorem timePlayed_le_cons : timePlayed h ≤ timePlayed (x :: h) := by
  cases x with
  | waited millis => exact Nat.le_add_right _ _
  | called => exact Nat.le_refl _

theorem elapsed_le_cons : elapsed h ≤ elapsed (x :: h) := by
  cases x with
  | waited millis => exact Nat.le_add_right _ _
  | called => exact Nat.le_refl _

/-! ## Calls -/

/-- What a successful call makes of the loaded track. -/
def after (now : Instant) : Call → Option Loaded → Option Loaded
  | .resume, loaded => loaded.map (·.resume now)
  | .pause, loaded => loaded.map (·.pause now)
  | .current, loaded => loaded.filter fun l => !l.finished now
  | _, loaded => loaded

/-- The call failed and changed nothing, or it succeeded and left this loaded. -/
def Leaves {α : Type} (p : Player) (loaded : Option Loaded) (answer : Except Error α × Player) : Prop :=
  (∃ e, answer = (.error e, p)) ∨ ∃ r p', answer = (.ok r, p') ∧ p'.loaded = loaded

theorem Leaves.connected {α : Type} {loaded : Option Loaded} {answer : Except Error α × Player}
    (ha : p.Leaves loaded answer) : p.Leaves loaded (p.connected answer) := by
  unfold Player.connected
  split
  · exact Or.inl ⟨_, rfl⟩
  · split
    · exact ha
    · exact Or.inl ⟨_, rfl⟩

theorem leaves_serve {c : Call} (hc : c.KeepsTrack) : p.Leaves (after now c p.loaded) (serve now c p) := by
  cases c with
  | start | skip => exact hc.elim
  | refresh =>
    show p.Leaves p.loaded p.refresh
    unfold refresh
    split
    · exact Or.inl ⟨_, rfl⟩
    · split <;> exact Or.inr ⟨_, _, rfl, rfl⟩
  | search | current | devices | pause | volume => exact Leaves.connected (Or.inr ⟨_, _, rfl, rfl⟩)
  | lookup id =>
    refine Leaves.connected ?_
    split
    · exact Or.inr ⟨_, _, rfl, rfl⟩
    · exact Or.inl ⟨_, rfl⟩
  | transfer device =>
    refine Leaves.connected ?_
    split
    · exact Or.inr ⟨_, _, rfl, rfl⟩
    · exact Or.inl ⟨_, rfl⟩
  | resume | setVolume =>
    refine Leaves.connected ?_
    split
    · next l hl => exact Or.inr ⟨_, _, rfl, by simp [after, hl]⟩
    · exact Or.inl ⟨_, rfl⟩

theorem loaded_of_start {id : TrackId} {device : Device} (hid : p.find? id = some track)
    (hok : serve now (.start id device) p = (.ok (), p')) : p'.loaded = some (.start track now) := by
  have hok : p.connected (p.start now id device) = (.ok (), p') := hok
  unfold connected start at hok
  rw [hid] at hok
  split at hok
  · cases hok
  · split at hok
    · split at hok <;> cases hok
      rfl
    · cases hok

/-! ## The loaded track -/

theorem toNat_min (a b : UInt64) : (min a b).toNat = min a.toNat b.toNat := by
  show (if a ≤ b then a else b).toNat = _
  split
  · next hle => exact (Nat.min_eq_left (UInt64.le_iff_toNat_le.1 hle)).symm
  · next hle => exact (Nat.min_eq_right (Nat.le_of_not_le (mt UInt64.le_iff_toNat_le.2 hle))).symm

/-- What is known of the loaded track by what happened since it was started. -/
structure Follows (track : Track) (h : List Happening) (now : Instant) (l : Loaded) : Prop where
  track : l.track = track
  playing : l.resumedAt.isSome = runs h
  past : ∀ resumed ∈ l.resumedAt, resumed.millis ≤ now.millis
  position_le : l.position now ≤ timePlayed h
  position_eq : min (l.position now) l.track.duration.toNat = min (timePlayed h) l.track.duration.toNat

theorem follows_start (track : Track) (now : Instant) : Follows track [] now (.start track now) where
  track := rfl
  playing := rfl
  past resumed hr := by
    cases hr
    exact Nat.le_refl _
  position_le := by simp [Loaded.position, Loaded.start, Instant.since]
  position_eq := by simp [Loaded.position, Loaded.start, Instant.since, timePlayed]

theorem position_advance (hpast : ∀ resumed ∈ l.resumedAt, resumed.millis ≤ now.millis) (millis : Nat) :
    l.position (now.advance millis) = l.position now + if l.resumedAt.isSome then millis else 0 := by
  unfold Loaded.position
  cases hr : l.resumedAt with
  | none => rfl
  | some resumed =>
    have hle := hpast resumed hr
    simp only [Option.map_some, Option.getD_some, Option.isSome_some, if_true, Instant.since, Instant.advance]
    omega

theorem Follows.waited (hl : Follows track h now l) (millis : Nat) :
    Follows track (.waited millis :: h) (now.advance millis) l := by
  have hadvance := position_advance hl.past millis
  rw [hl.playing] at hadvance
  have hle := hl.position_le
  have heq := hl.position_eq
  refine ⟨hl.track, hl.playing, fun resumed hr => ?_, ?_, ?_⟩
  · exact Nat.le_trans (hl.past resumed hr) (Nat.le_add_right _ _)
  · rw [hadvance]
    exact Nat.add_le_add_right hle _
  · rw [hadvance]
    show min _ _ = min (timePlayed h + _) _
    omega

section
variable (hl : Follows track h now l) (hroom : elapsed h < UInt64.size)
include hl hroom

/-- The sum of the offset and the time since playing was resumed fits into a word. -/
theorem Follows.toNat_offset_add_running : l.offset.toNat + (l.running now).toNat = l.position now := by
  have hle := Nat.le_trans hl.position_le (timePlayed_le_elapsed h)
  unfold Loaded.position Loaded.running at *
  cases hr : l.resumedAt with
  | none => rfl
  | some resumed =>
    rw [hr] at hle
    simp only [Option.map_some, Option.getD_some] at hle ⊢
    rw [Nat.toUInt64, UInt64.toNat_ofNat_of_lt' (by omega)]

theorem Follows.toNat_progress : (l.progress now).toNat = min (timePlayed h) track.duration.toNat := by
  have hsum := hl.toNat_offset_add_running hroom
  have hlt : l.position now < UInt64.size :=
    Nat.lt_of_le_of_lt (Nat.le_trans hl.position_le (timePlayed_le_elapsed h)) hroom
  unfold Loaded.progress
  rw [toNat_min, UInt64.toNat_add, hsum, Nat.mod_eq_of_lt hlt, hl.position_eq, hl.track]

theorem Follows.finished_iff : l.finished now = true ↔ track.duration.toNat ≤ timePlayed h := by
  unfold Loaded.finished
  rw [decide_eq_true_iff, UInt64.le_iff_toNat_le, hl.toNat_progress hroom, hl.track]
  omega

theorem Follows.pause : Follows track (.called .pause (.ok ()) :: h) now (l.pause now) := by
  have hprogress := hl.toNat_progress hroom
  have hposition : (l.pause now).position now = min (timePlayed h) track.duration.toNat := hprogress
  refine ⟨hl.track, rfl, nofun, ?_, ?_⟩
  · rw [hposition]
    exact Nat.min_le_left _ _
  · rw [hposition]
    show min _ l.track.duration.toNat = min (timePlayed h) l.track.duration.toNat
    rw [hl.track]
    omega

end

theorem Follows.resume (hl : Follows track h now l) :
    Follows track (.called .resume (.ok ()) :: h) now (l.resume now) := by
  cases hr : l.resumedAt with
  | none =>
    have hresume : l.resume now = { l with resumedAt := some now } := if_pos (by rw [hr]; rfl)
    have hposition : (l.resume now).position now = l.position now := by
      rw [hresume]
      simp [Loaded.position, hr, Instant.since]
    refine ⟨?_, ?_, ?_, ?_, ?_⟩
    · rw [hresume]
      exact hl.track
    · rw [hresume]
      rfl
    · rw [hresume]
      intro resumed hnow
      cases hnow
      exact Nat.le_refl _
    · rw [hposition]
      exact hl.position_le
    · rw [hposition, hresume]
      exact hl.position_eq
  | some resumed =>
    have hresume : l.resume now = l := if_neg (by rw [hr]; exact Bool.false_ne_true)
    rw [hresume]
    exact ⟨hl.track, by rw [hr]; rfl, hl.past, hl.position_le, hl.position_eq⟩

/-- Of the other calls, none says anything about the loaded track. -/
theorem Follows.called (hl : Follows track h now l) {c : Call} {answer : Except Error c.Result}
    (hx : (Happening.called c answer).playing? = none) : Follows track (.called c answer :: h) now l := by
  have hruns : runs (.called c answer :: h) = runs h := by rw [runs_cons, hx]; rfl
  exact ⟨hl.track, hl.playing.trans hruns.symm, hl.past, hl.position_le, hl.position_eq⟩

/-- The loaded track follows what happened; if it has been unloaded, then it was played to its end. -/
def Tracks (track : Track) (h : List Happening) (now : Instant) : Option Loaded → Prop
  | none => track.duration.toNat ≤ timePlayed h
  | some l => Follows track h now l

theorem Tracks.called {loaded : Option Loaded} (hloaded : Tracks track h now loaded) {c : Call}
    {answer : Except Error c.Result} (hx : (Happening.called c answer).playing? = none) :
    Tracks track (.called c answer :: h) now loaded := by
  cases loaded with
  | none => exact hloaded
  | some l => exact Follows.called hloaded hx

theorem Tracks.after {loaded : Option Loaded} (hloaded : Tracks track h now loaded)
    (hroom : elapsed h < UInt64.size) (c : Call) (r : c.Result) :
    Tracks track (.called c (.ok r) :: h) now (after now c loaded) := by
  cases c with
  | resume =>
    cases loaded with
    | none => exact hloaded
    | some l => exact Follows.resume hloaded
  | pause =>
    cases loaded with
    | none => exact hloaded
    | some l => exact Follows.pause hloaded hroom
  | current =>
    cases loaded with
    | none => exact hloaded
    | some l =>
      show Tracks track _ now ((some l).filter fun l => !l.finished now)
      rw [Option.filter_some]
      cases hf : l.finished now with
      | true => exact (Follows.finished_iff hloaded hroom).1 hf
      | false => exact Tracks.called hloaded rfl
  | _ => exact hloaded.called rfl

/-- Whatever happened, what is loaded follows it. -/
theorem Since.tracks (hp : Since track h now p) (hroom : elapsed h < UInt64.size) :
    Tracks track h now p.loaded := by
  induction hp with
  | @started now p p' id device hid hok =>
    rw [loaded_of_start hid hok]
    exact follows_start track now
  | startedExternally now p => exact follows_start track now
  | @waited h now p millis _ ih =>
    have hloaded := ih (Nat.lt_of_le_of_lt elapsed_le_cons hroom)
    unfold Tracks at hloaded ⊢
    split
    · next hnone =>
      rw [hnone] at hloaded
      exact Nat.le_trans hloaded timePlayed_le_cons
    · next l hl =>
      rw [hl] at hloaded
      exact hloaded.waited millis
  | @called h now p c _ hc ih =>
    have hloaded := ih hroom
    have hleaves : p.Leaves (after now c p.loaded) (serve now c p) := leaves_serve hc
    rcases hleaves with ⟨e, hanswer⟩ | ⟨r, p', hanswer, hp'⟩
    · rw [hanswer]
      exact hloaded.called (by cases c <;> rfl)
    · rw [hanswer]
      show Tracks track (.called c (.ok r) :: h) now p'.loaded
      rw [hp']
      exact hloaded.after hroom c r
  | @disturbed h now p p' _ hsame ih =>
    rw [hsame]
    exact ih hroom

/-! ## Reports -/

/-- What is reported about a track that follows what happened. -/
theorem Since.current (hp : Since track h now p) (hroom : elapsed h < UInt64.size) (honline : p.offline = false)
    (hvalid : p.credentialsValid = true) :
    (track.duration.toNat ≤ timePlayed h → serve now .current p = (.ok none, { p with loaded := none })) ∧
      (timePlayed h < track.duration.toNat → ∃ progress, serve now .current p =
        (.ok (some ⟨track, runs h, progress⟩), p) ∧ progress.toNat = min track.duration.toNat (timePlayed h)) := by
  have hserve : serve now .current p =
      (.ok ((p.unloadFinished now).loaded.map (·.playback now)), p.unloadFinished now) := by
    show p.connected _ = _
    simp [connected, honline, hvalid]
  have htracks := hp.tracks hroom
  rw [hserve]
  unfold unloadFinished
  cases hl : p.loaded with
  | none =>
    rw [hl] at htracks
    have hend : track.duration.toNat ≤ timePlayed h := htracks
    exact ⟨fun _ => rfl, fun hlt => absurd hlt (Nat.not_lt.2 hend)⟩
  | some l =>
    rw [hl] at htracks
    have hfollows : Follows track h now l := htracks
    have hfinished := hfollows.finished_iff hroom
    rw [Option.filter_some]
    constructor
    · intro hend
      rw [hfinished.2 hend]
      rfl
    · intro hlt
      have hgoes : l.finished now = false := Bool.eq_false_iff.2 (mt hfinished.1 (Nat.not_le.2 hlt))
      refine ⟨l.progress now, ?_, (hfollows.toNat_progress hroom).trans (Nat.min_comm _ _)⟩
      have hplayback : l.playback now = ⟨track, runs h, l.progress now⟩ := by
        unfold Loaded.playback
        rw [hfollows.track, hfollows.playing]
      rw [hgoes, ← hplayback]
      show (Except.ok (some (l.playback now)), { p with loaded := some l }) = _
      rw [← hl]
      rfl

theorem serve_cut_off {c : Call} (hoff : p.offline = true ∨ p.credentialsValid = false) (hc : c ≠ .refresh) :
    ∃ e, serve now c p = (.error e, p) := by
  cases honline : p.offline with
  | true => exact ⟨_, serve_offline c honline⟩
  | false => exact ⟨_, serve_expired honline (hoff.resolve_left (by simp [honline])) hc⟩

/-- A report fails, or finds the track at its end, or tells the time played. -/
theorem Since.current_cases (hp : Since track h now p) (hroom : elapsed h < UInt64.size) :
    (∃ e, (serve now .current p).1 = .error e) ∨
    track.duration.toNat ≤ timePlayed h ∧ (serve now .current p).1 = .ok none ∨
    ∃ progress : UInt64, (serve now .current p).1 = .ok (some ⟨track, runs h, progress⟩) ∧
      progress.toNat = min track.duration.toNat (timePlayed h) := by
  by_cases hoff : p.offline = true ∨ p.credentialsValid = false
  · have hfails : ∃ e, serve now .current p = (.error e, p) := serve_cut_off hoff nofun
    obtain ⟨e, he⟩ := hfails
    exact Or.inl ⟨e, congrArg Prod.fst he⟩
  · obtain ⟨honline, hvalid⟩ := not_or.1 hoff
    obtain ⟨hended, hgoes⟩ := hp.current hroom (Bool.eq_false_iff.2 honline) (by simpa using hvalid)
    rcases Nat.lt_or_ge (timePlayed h) track.duration.toNat with hlt | hge
    · obtain ⟨progress, hanswer, hprogress⟩ := hgoes hlt
      exact Or.inr (Or.inr ⟨progress, congrArg Prod.fst hanswer, hprogress⟩)
    · exact Or.inr (Or.inl ⟨hge, congrArg Prod.fst (hended hge)⟩)

theorem Since.toNat_report (hp : Since track h now p) (hroom : elapsed h < UInt64.size) {c : Call} {r : UInt64}
    (hr : (Happening.called c (serve now c p).1).report? = some r) :
    r.toNat = min track.duration.toNat (timePlayed h) := by
  cases c with
  | current =>
    rcases hp.current_cases hroom with ⟨e, he⟩ | ⟨-, hnone⟩ | ⟨progress, hsome, hprogress⟩
    · rw [he] at hr
      cases hr
    · rw [hnone] at hr
      cases hr
    · rw [hsome] at hr
      cases hr
      exact hprogress
  | _ => cases hr

theorem reports_cons : reports (x :: h) = x.report?.toList ++ reports h := by
  unfold reports
  rw [List.filterMap_cons]
  cases x.report? <;> rfl

/-- The reports never go back nor behind the end of the track. -/
theorem Since.pairwise_reports (hp : Since track h now p) (hroom : elapsed h < UInt64.size) :
    (reports h).Pairwise (· ≥ ·) ∧ ∀ r ∈ reports h, r.toNat ≤ min track.duration.toNat (timePlayed h) := by
  induction hp with
  | started | startedExternally => exact ⟨List.Pairwise.nil, nofun⟩
  | @waited h now p millis _ ih =>
    obtain ⟨hdown, hle⟩ := ih (Nat.lt_of_le_of_lt elapsed_le_cons hroom)
    have hlonger : timePlayed h ≤ timePlayed (.waited millis :: h) := timePlayed_le_cons
    refine ⟨hdown, fun r hr => ?_⟩
    have hbefore := hle r hr
    omega
  | @called h now p c hp _ ih =>
    obtain ⟨hdown, hle⟩ := ih hroom
    rw [reports_cons]
    cases hreport : (Happening.called c (serve now c p).1).report? with
    | none => exact ⟨hdown, hle⟩
    | some r =>
      have hr := hp.toNat_report hroom hreport
      refine ⟨List.pairwise_cons.2 ⟨fun earlier hmem => ?_, hdown⟩, List.forall_mem_cons.2 ⟨Nat.le_of_eq hr, hle⟩⟩
      rw [ge_iff_le, UInt64.le_iff_toNat_le, hr]
      exact hle earlier hmem
  | disturbed _ _ ih => exact ih hroom

/-- A track that was found at its end has been played to it. -/
theorem Since.ended (hp : Since track h now p) (hroom : elapsed h < UInt64.size)
    (hnone : .called .current (.ok none) ∈ h) : track.duration.toNat ≤ timePlayed h := by
  induction hp with
  | started | startedExternally => cases hnone
  | @waited h now p millis _ ih =>
    rcases List.mem_cons.1 hnone with hx | hmem
    · cases hx
    · exact Nat.le_trans (ih (Nat.lt_of_le_of_lt elapsed_le_cons hroom) hmem) timePlayed_le_cons
  | @called h now p c hp _ ih =>
    rcases List.mem_cons.1 hnone with hx | hmem
    · cases c with
      | current =>
        obtain ⟨-, hanswer⟩ := Happening.called.inj hx
        rcases hp.current_cases hroom with ⟨e, he⟩ | ⟨hend, -⟩ | ⟨progress, hsome, -⟩
        · cases (eq_of_heq hanswer).trans he
        · exact hend
        · cases (eq_of_heq hanswer).trans hsome
      | _ => cases hx
    · exact ih hroom hmem
  | disturbed _ _ ih => exact ih hroom hnone

/-- **The player is a stopwatch.**  Since a track was started, less than 2^64 milliseconds ago, it is reported with the
time that it has been playing, however often playing was paused and resumed, and as playing or not, as that was
asked for last.  Once this time has come up to the duration, the track is unloaded by the next report and no longer
reported.  While the service is cut off, or the credentials have expired, calls fail and change nothing.  The
reports never go back nor behind the end of the track, and no addition overflows. -/
theorem stopwatch (hp : Since track h now p) (hroom : elapsed h < UInt64.size) :
    (p.offline = false → p.credentialsValid = true →
      (track.duration.toNat ≤ timePlayed h → serve now .current p = (.ok none, { p with loaded := none })) ∧
      (timePlayed h < track.duration.toNat → ∃ progress, serve now .current p =
        (.ok (some ⟨track, runs h, progress⟩), p) ∧ progress.toNat = min track.duration.toNat (timePlayed h))) ∧
    (.called .current (.ok none) ∈ h → track.duration.toNat ≤ timePlayed h) ∧
    (p.offline = true ∨ p.credentialsValid = false → ∀ c ≠ Call.refresh, ∃ e, serve now c p = (.error e, p)) ∧
    (reports h).Pairwise (· ≥ ·) ∧ (∀ r ∈ reports h, r ≤ track.duration) ∧
    ∀ l, p.loaded = some l → l.offset.toNat + (l.running now).toNat < UInt64.size := by
  obtain ⟨hdown, hle⟩ := hp.pairwise_reports hroom
  refine ⟨hp.current hroom, hp.ended hroom, fun hoff c hc => serve_cut_off hoff hc, hdown, fun r hr => ?_,
    fun l hl => ?_⟩
  · exact UInt64.le_iff_toNat_le.2 (Nat.le_trans (hle r hr) (Nat.min_le_left _ _))
  · have htracks := hp.tracks hroom
    rw [hl] at htracks
    have hfollows : Follows track h now l := htracks
    rw [hfollows.toNat_offset_add_running hroom]
    exact Nat.lt_of_le_of_lt (Nat.le_trans hfollows.position_le (timePlayed_le_elapsed h)) hroom

/-- A track of one second is paused after 300 milliseconds and resumed later; a pause while the service is offline
changes nothing. -/
theorem stopwatch_paused :
    let track : Track := ⟨⟨"a"⟩, "A", "", "", 1000, ""⟩
    let start : Call := .start track.id ⟨"memory-device-0", "", false, none⟩
    let player : Player := (serve ⟨5⟩ start (new [track])).2
    let resumed : Player := (serve ⟨5305⟩ .resume (serve ⟨305⟩ .pause player).2).2
    let h : List Happening := [.waited 299, .called .pause (.error .playerOffline), .waited 400,
      .called .resume (.ok ()), .waited 5000, .called .pause (.ok ()), .waited 300]
    Since track h ⟨6004⟩ resumed ∧ elapsed h < UInt64.size ∧ timePlayed h = 999 ∧
      (∃ progress, serve ⟨6004⟩ .current resumed = (.ok (some ⟨track, true, progress⟩), resumed) ∧
        progress.toNat = 999) ∧
      Since track (.waited 1 :: h) ⟨6005⟩ resumed ∧
      serve ⟨6005⟩ .current resumed = (.ok none, { resumed with loaded := none }) := by
  intro track start player resumed h
  have hok : serve ⟨5⟩ start (new [track]) = (.ok (), player) := rfl
  have hplayer : Since track [] ⟨5⟩ player := .started rfl hok
  have hpaused : Since track _ ⟨305⟩ (serve ⟨305⟩ .pause player).2 := (hplayer.waited 300).called trivial
  have hresumed : Since track _ ⟨5305⟩ resumed := (hpaused.waited 5000).called trivial
  have hoffline : Since track _ ⟨5705⟩ { resumed with offline := true } := (hresumed.waited 400).disturbed rfl
  have hrefused : Since track _ ⟨5705⟩ (serve ⟨5705⟩ .pause { resumed with offline := true }).2 :=
    hoffline.called trivial
  have hback : Since track h ⟨6004⟩ resumed := (hrefused.waited 299).disturbed rfl
  have hlater : Since track (.waited 1 :: h) ⟨6005⟩ resumed := hback.waited 1
  obtain ⟨hreport, -⟩ := stopwatch hback (by decide)
  obtain ⟨hended, -⟩ := stopwatch hlater (by decide)
  exact ⟨hback, by decide, by decide, (hreport rfl rfl).2 (by decide), hlater, (hended rfl rfl).1 (by decide)⟩

end Player
end Jukebox
