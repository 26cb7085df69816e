import Jukebox.Codec
import Jukebox.Proofs.Json.Record
import Jukebox.Proofs.Json.RoundTrip
import Jukebox.Proofs.Timestamp.RoundTrip

/-!
# Values that are written as JSON text and read back

Tracks, playbacks, devices, words and events come back from their JSON form as they were
(`Track.ofJson?_toJson` and the like), and every JSON value comes back from its text, so they come back
from their text too (`read_back`).

A playback shares one object with its track, and an event with the word for its kind.  Of both it is shown
that the reader finds what is its own, and can keep or pass over the rest.
-/

namespace Jukebox

open Json (required IsPlain)

/-! ## Tracks -/

@[simp]
theorem TrackId.ofJson?_toJson (id : TrackId) : ofJson? id.toJson = some id := rfl

theorem Track.nodup_keys (t : Track) : (t.members.map Prod.fst).Nodup := by
  show fieldNames.Nodup
  decide

theorem Track.isPlain_members (t : Track) : ∀ m ∈ t.members, m.2.IsPlain := by
  have hduration := Json.isPlain_ofNat t.duration.toNat_lt
  simp [members, TrackId.toJson, hduration]

/-- The fields of a track are read as they were written. -/
theorem Track.ofFields?_members (t : Track) :
    ofFields? (fieldNames.map fun name => t.members.lookup name) = some t := by
  simp [fieldNames, members, ofFields?, List.lookup_cons]

theorem Track.ofJson?_toJson (t : Track) : ofJson? t.toJson = some t := by
  rw [ofJson?, toJson, Json.record_ofMembers t.nodup_keys]
  exact t.ofFields?_members

namespace Playback

/-- What a playback writes beside its track. -/
def ownMembers (p : Playback) : List (String × Json) :=
  [("is_playing", .bool p.isPlaying), ("progress_ms", .ofNat p.progress.toNat)]

theorem canBeKept_members (t : Track) :
    canBeKept (t.members.map fun (key, value) => (some key, value)) = true := by
  simp [canBeKept, Json.depth, Json.depthOfMembers_map t.isPlain_members,
    Json.membersSound_map t.isPlain_members]

/-- What is left to the track is what it has written. -/
theorem filter_members (p : Playback) :
    ((p.track.members ++ p.ownMembers).map fun (key, value) => (some key, value)).filter
        (fun (key, _) => !(ownFieldNames.map some).contains key) =
      p.track.members.map fun (key, value) => (some key, value) := by
  simp [ownFieldNames, ownMembers, Track.members]

theorem ofJson?_toJson (p : Playback) : ofJson? p.toJson = some p := by
  have hkeys : ((p.track.members ++ p.ownMembers).map Prod.fst).Nodup := by
    show (Track.fieldNames ++ ownFieldNames).Nodup
    decide
  have hown : (ownFieldNames.map fun name => (p.track.members ++ p.ownMembers).lookup name) =
      [some (.bool p.isPlaying), some (.ofNat p.progress.toNat)] := by
    simp [ownFieldNames, ownMembers, Track.members, List.lookup_cons]
  show ofJson? (.ofMembers (p.track.members ++ p.ownMembers)) = some p
  rw [Json.ofMembers, ofJson?, Json.recordOfMembers_map hkeys, p.filter_members, hown]
  simp [Json.recordOfMembers_map p.track.nodup_keys, p.track.ofFields?_members, canBeKept_members]

end Playback

theorem Device.ofJson?_toJson (d : Device) : ofJson? d.toJson = some d := by
  have hnull : ∀ v : UInt8, Json.ofNat v.toNat ≠ .null := by
    intro v
    simp [Json.ofNat]
  have hvolume := Json.optional_ofOption hnull Json.uint8?_ofNat d.volume
  rw [ofJson?, toJson, Json.record_ofMembers (by simp)]
  simp [fieldNames, List.lookup_cons, hvolume]

/-! ## Words -/

@[simp]
theorem Queue.Kind.ofJson?_toJson (kind : Queue.Kind) : ofJson? kind.toJson = some kind :=
  ofName?_name kind

@[simp]
theorem Scheduler.State.ofJson?_toJson (state : Scheduler.State) : ofJson? state.toJson = some state :=
  ofName?_name state

@[simp]
theorem Control.ofJson?_toJson (action : Control) : ofJson? action.toJson = some action :=
  ofName?_name action

/-! ## Events -/

theorem Timestamp.ofJson?_toJson (t : Timestamp) (hyear : yearInRange t.date.year = true) :
    ofJson? t.toJson = some t := by
  rw [ofJson?, toJson, Json.text?_ofText, Option.bind_some, ofText?_text t hyear]

namespace Occurrence

@[simp]
theorem word?_ofText {α : Type} (ofName? : String → Option α) (s : String) :
    word? ofName? (.ofText s) = ofName? s := rfl

variable (o : Occurrence) (time : Timestamp)

/-- What an event writes beside the word for its kind. -/
def timedMembers : List (String × Json) :=
  o.members ++ [("timestamp", time.toJson)]

theorem nodup_keys : ((o.timedMembers time).map Prod.fst).Nodup := by
  cases o <;> simp [timedMembers, members]

theorem key_ne_type : ∀ m ∈ o.timedMembers time, m.1 ≠ "type" := by
  cases o <;> simp [timedMembers, members]

theorem isPlain_timedMembers : ∀ m ∈ o.timedMembers time, m.2.IsPlain := by
  cases o with
  | volumeChanged volume =>
    have hvolume : (Json.ofNat volume.toNat).IsPlain :=
      Json.isPlain_ofNat (Nat.lt_trans volume.toNat_lt (by decide))
    simp [timedMembers, members, Timestamp.toJson, hvolume]
  | queueChanged | trackStarted | schedulerStateChanged =>
    simp [timedMembers, members, TrackId.toJson, Queue.Kind.toJson, Scheduler.State.toJson,
      Timestamp.toJson]

/-- The reader for the kind of an event reads what the event writes. -/
theorem reader?_name (hyear : Timestamp.yearInRange time.date.year = true) :
    ∃ names read, reader? o.name = some (names, read) ∧
      read (names.map fun name => (o.timedMembers time).lookup name) = some ⟨o, time⟩ := by
  have htime := time.ofJson?_toJson hyear
  cases o with
  | queueChanged c =>
    refine ⟨_, _, reader?.eq_1, ?_⟩
    simp [timedMembers, members, List.lookup_cons, htime, Queue.Kind.toJson]
  | trackStarted id title artist =>
    refine ⟨_, _, reader?.eq_2, ?_⟩
    simp [timedMembers, members, List.lookup_cons, htime]
  | schedulerStateChanged old new =>
    refine ⟨_, _, reader?.eq_3, ?_⟩
    simp [timedMembers, members, List.lookup_cons, htime, Scheduler.State.toJson]
  | volumeChanged volume =>
    refine ⟨_, _, reader?.eq_4, ?_⟩
    simp [timedMembers, members, List.lookup_cons, htime]

end Occurrence

namespace Event

/-- Without the kind of an event, its other members are left. -/
theorem filter_members (kind : String) {members : List (String × Json)}
    (htype : ∀ m ∈ members, m.1 ≠ "type") :
    ((("type", Json.ofText kind) :: members).map fun (key, value) => (some key, value)).filter
        (fun (key, _) => key ≠ some "type") =
      members.map fun (key, value) => (some key, value) := by
  rw [List.map_cons, List.filter_cons_of_neg (by simp), List.filter_eq_self]
  rintro ⟨key, value⟩ hm
  obtain ⟨m, hmem, heq⟩ := List.mem_map.1 hm
  obtain ⟨rfl, -⟩ := Prod.mk.inj heq
  simpa using htype m hmem

/-- The kind of an event is found among its members. -/
theorem separateKind_ofMembers (kind : String) {members : List (String × Json)}
    (hkeys : (members.map Prod.fst).Nodup) (htype : ∀ m ∈ members, m.1 ≠ "type") :
    separateKind (.ofMembers (("type", .ofText kind) :: members)) =
      some (.ofText kind, .ofMembers members) := by
  have hall : ((("type", Json.ofText kind) :: members).map Prod.fst).Nodup := by
    refine List.nodup_cons.2 ⟨fun hmem => ?_, hkeys⟩
    obtain ⟨m, hm, heq⟩ := List.mem_map.1 hmem
    exact htype m hm heq
  have hvalues := Json.valuesOf_map hall "type"
  rw [List.lookup_cons_self, Option.toList_some] at hvalues
  rw [Json.ofMembers, separateKind, hvalues, filter_members kind htype]
  rfl

theorem ofJson?_toJson (e : Event) (hyear : Timestamp.yearInRange e.timestamp.date.year = true) :
    ofJson? e.toJson = some e := by
  obtain ⟨o, time⟩ := e
  obtain ⟨names, read, hreader, hread⟩ := o.reader?_name time hyear
  have hkeys := o.nodup_keys time
  have hplain := o.isPlain_timedMembers time
  have hseparate := separateKind_ofMembers o.name hkeys (o.key_ne_type time)
  have hdepth : (Json.ofMembers (("type", .ofText o.name) :: o.timedMembers time)).depth ≤ 127 := by
    have hkind : (Json.ofText o.name).depth = 0 := rfl
    simp [Json.ofMembers, Json.depth, Json.depthOfMembers, hkind, Json.depthOfMembers_map hplain]
  have hsound : (Json.ofMembers (o.timedMembers time)).isSound = true := Json.membersSound_map hplain
  show ofJson? (.ofMembers (("type", .ofText o.name) :: o.timedMembers time)) = _
  simp [ofJson?, hseparate, hreader, hdepth, hsound, Json.record_ofMembers hkeys, hread]

end Event

/-! ## Texts -/

/-- What is written as JSON text is read back from it as it was. -/
def RoundTrips {α : Type} (toJson : α → Json) (ofJson? : Json → Option α) (a : α) : Prop :=
  (Json.read? (toJson a).print).bind ofJson? = some a

theorem roundTrips {α : Type} {toJson : α → Json} {ofJson? : Json → Option α} {a : α}
    (h : ofJson? (toJson a) = some a) : RoundTrips toJson ofJson? a := by
  rw [RoundTrips, Json.read?_print, Option.bind_some, h]

/-- **Values are read back** from their JSON text as they were: tracks and their names, playbacks, devices,
the words for queues, states and player actions, and events of every kind with a time of the years 0 to
9999.  Texts within them may hold any characters, and numbers may be as large as their words. -/
theorem read_back :
    (∀ id : TrackId, RoundTrips TrackId.toJson TrackId.ofJson? id) ∧
      (∀ t : Track, RoundTrips Track.toJson Track.ofJson? t) ∧
      (∀ p : Playback, RoundTrips Playback.toJson Playback.ofJson? p) ∧
      (∀ d : Device, RoundTrips Device.toJson Device.ofJson? d) ∧
      (∀ kind : Queue.Kind, RoundTrips Queue.Kind.toJson Queue.Kind.ofJson? kind) ∧
      (∀ state : Scheduler.State, RoundTrips Scheduler.State.toJson Scheduler.State.ofJson? state) ∧
      (∀ action : Control, RoundTrips Control.toJson Control.ofJson? action) ∧
      ∀ e : Event, 0 ≤ e.timestamp.date.year → e.timestamp.date.year ≤ 9999 →
        RoundTrips Event.toJson Event.ofJson? e := by
  refine ⟨fun id => roundTrips id.ofJson?_toJson, fun t => roundTrips t.ofJson?_toJson,
    fun p => roundTrips p.ofJson?_toJson, fun d => roundTrips d.ofJson?_toJson,
    fun kind => roundTrips kind.ofJson?_toJson, fun state => roundTrips state.ofJson?_toJson,
    fun action => roundTrips action.ofJson?_toJson, fun e hlow hhigh => roundTrips ?_⟩
  have hyear : Timestamp.yearInRange e.timestamp.date.year = true := by
    simp only [Timestamp.yearInRange, Bool.and_eq_true, decide_eq_true_eq]
    omega
  exact e.ofJson?_toJson hyear

/-- The last nanosecond of the year 9999, of which a track with quotation marks, a backslash, a line feed and
another control character in its name is told. -/
theorem read_back_last_moment :
    let time : Timestamp := ⟨⟨9999, 12, 31, by decide, by decide⟩, ⟨23, by decide⟩, ⟨59, by decide⟩,
      ⟨60, by decide⟩, ⟨999999999, by decide⟩⟩
    let e : Event := ⟨.trackStarted ⟨"a\"\\b"⟩ "\n\x01" "é😀", time⟩
    (0 ≤ e.timestamp.date.year ∧ e.timestamp.date.year ≤ 9999) ∧
      RoundTrips Event.toJson Event.ofJson? e :=
  ⟨by decide, read_back.2.2.2.2.2.2.2 _ (by decide) (by decide)⟩

end Jukebox
