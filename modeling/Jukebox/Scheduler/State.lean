/-!
Where the scheduler stands between two tracks.
-/

namespace Jukebox.Scheduler

/-- The states of the scheduler. -/
inductive State where
  /-- Nothing is under way; a queued track and a free player are awaited. -/
  | idle
  /-- The next track is to be taken off a queue and started. -/
  | playNextSong
  /-- A track was started and its playback is not reported yet. -/
  | checkPlaying
  /-- The started track is reported as playing; its end is awaited. -/
  | playing
deriving DecidableEq, Repr, Inhabited

namespace State

/-- The word for a state. -/
def name : State → String
  | .idle => "idle"
  | .playNextSong => "play_next_song"
  | .checkPlaying => "check_playing"
  | .playing => "playing"

/-- The state that a word names. -/
def ofName? : String → Option State
  | "idle" => some .idle
  | "play_next_song" => some .playNextSong
  | "check_playing" => some .checkPlaying
  | "playing" => some .playing
  | _ => none

/-- The word for a state names it. -/
@[simp]
theorem ofName?_name (state : State) : ofName? state.name = some state := by
  cases state <;> rfl

end State
end Jukebox.Scheduler
