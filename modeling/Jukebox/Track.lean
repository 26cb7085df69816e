/-!
Tracks: what can be queued and played.

A `Track` is fixed once a search or a lookup has found it.  A `Playback` is what the playback service
reports at one moment: a track, whether it runs, and how far it has come.
-/

namespace Jukebox

/-- The name under which the playback service knows a track. -/
structure TrackId where
  /-- The name itself; every text is a name. -/
  text : String
deriving DecidableEq, Repr, Inhabited

/-- The name that a guest's device was given when it joined the party. -/
structure SessionId where
  /-- The name itself; every text is a name. -/
  text : String
deriving DecidableEq, Repr, Inhabited

/-- A track as the playback service describes it. -/
structure Track where
  id : TrackId
  title : String
  /-- The names of the artists, joined for display. -/
  artist : String
  album : String
  /-- The length in milliseconds. -/
  duration : UInt64
  /-- The address of a cover picture, empty if there is none. -/
  icon : String
deriving DecidableEq, Repr, Inhabited

/-- Several artists are shown with an ampersand between each two. -/
def joinArtists (names : List String) : String :=
  " & ".intercalate names

/-- What the playback service reports as loaded right now. -/
structure Playback where
  track : Track
  isPlaying : Bool
  /-- The position within the track in milliseconds. -/
  progress : UInt64
deriving DecidableEq, Repr, Inhabited

namespace Playback

/-- The name of the reported track. -/
def id (p : Playback) : TrackId :=
  p.track.id

end Playback

/-- An output device of the playback service. -/
structure Device where
  id : String
  name : String
  isActive : Bool
  /-- The volume in percent, where the service reports one. -/
  volume : Option UInt8
deriving DecidableEq, Repr, Inhabited

end Jukebox
