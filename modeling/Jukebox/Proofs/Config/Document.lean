import Jukebox.Config.Reader
import Mathlib.Tactic.Simproc.ExistsAndEq

/-!
What a document says a configuration is.

The readers of the sections take a document apart in one go.  `Describes` says the same one setting at a
time: the value of a setting is what stands for it in its section, and its default where the section or
the field in it is missing.  That both agree for every document is `ofToml?_eq_some`.

Every section is read in the same way, so one lemma about records (`record?_eq`) and two about settings,
for a section that is missing and one that is there (`setting_none`, `setting_some`), carry all six.
-/

namespace Jukebox

/-! ## Records, one field at a time -/

namespace Toml

/-- The value can stand for a record. -/
def isRecord : Toml → Bool
  | .table .. | .array _ | .tables _ | .moment _ => true
  | .text _ | .integer _ | .float _ | .bool _ => false

/-- What a record has for a field: under its name, or in its place among the names of all fields. -/
def field? (names : List String) (name : String) : Toml → Option Toml
  | .table _ entries => entries.lookup name
  | .array items | .tables items => items[names.idxOf name]?
  | _ => none

theorem range_map_getElem? {names : List String} (distinct : names.Nodup) (items : List Toml) :
    ((List.range names.length).map fun i => items[i]?) =
      names.map fun name => items[names.idxOf name]? := by
  apply List.ext_getElem (by simp)
  intro i _ inside
  have bound : i < names.length := by simpa using inside
  have place : names.idxOf names[i] = i := distinct.idxOf_getElem i bound
  simp [place]

theorem record?_eq {names : List String} (distinct : names.Nodup) (value : Toml) :
    value.record? names =
      if value.isRecord then some (names.map (field? names · value)) else none := by
  cases value with
  | array items => simp [record?, isRecord, field?, range_map_getElem? distinct]
  | tables items => simp [record?, isRecord, field?, range_map_getElem? distinct]
  | _ => rfl

end Toml

namespace Config

open Toml (withDefault asText? asNat? asWord?)

/-! ## Settings -/

/--
The value of a setting.  `block` is what a document has for the section of the setting, and `names` are
the fields of that section in their order.
-/
inductive Setting {α : Type} (block : Option Toml) (names : List String) (name : String)
    (decode : Toml → Option α) (base : α) : α → Prop where
  /-- There is no such section. -/
  | noSection (gone : block = none) : Setting block names name decode base base
  /-- The section does not say anything about the setting. -/
  | unsaid {table : Toml} (there : block = some table) (record : table.isRecord)
      (gone : table.field? names name = none) : Setting block names name decode base base
  /-- The section gives the value. -/
  | said {table entry : Toml} {value : α} (there : block = some table) (record : table.isRecord)
      (found : table.field? names name = some entry) (reads : decode entry = some value) :
      Setting block names name decode base value

section
variable {α : Type} {names : List String} {name : String} {decode : Toml → Option α} {base value : α}

theorem setting_none : Setting none names name decode base value ↔ base = value := by
  constructor
  · intro setting
    cases setting with
    | noSection => rfl
    | unsaid there => cases there
    | said there => cases there
  · rintro rfl
    exact .noSection rfl

theorem setting_some {table : Toml} : Setting (some table) names name decode base value ↔
    table.isRecord ∧ withDefault base decode (table.field? names name) = some value := by
  constructor
  · intro setting
    cases setting with
    | noSection gone => cases gone
    | unsaid there record gone =>
      cases there
      exact ⟨record, by simp [gone, withDefault]⟩
    | said there record found reads =>
      cases there
      exact ⟨record, by simpa [found, withDefault] using reads⟩
  · rintro ⟨record, reads⟩
    cases found : table.field? names name with
    | none =>
      have same : base = value := by simpa [found, withDefault] using reads
      exact same ▸ .unsaid rfl record found
    | some entry => exact .said rfl record found (by simpa [found, withDefault] using reads)

end

/-- A natural number below a bound, as a word of that width. -/
abbrev whole? {α : Type} (bound : Nat) (convert : Nat → α) (value : Toml) : Option α :=
  (asNat? bound value).map convert

/-- A text for a setting that may be missing. -/
abbrev someText? (value : Toml) : Option (Option String) :=
  (asText? value).map some

/-! ## Sections -/

/-- The fields of the section on the server. -/
abbrev serverFields : List String :=
  ["bind", "port"]

/-- The fields of the section on the scheduler. -/
abbrev schedulerFields : List String :=
  ["interval_ms", "check_attempts", "end_of_track_threshold_ms"]

/-- The fields of the section on how music is played. -/
abbrev playbackFields : List String :=
  ["backend", "preferred_device", "volume_step"]

/-- The fields of the section on the Spotify account. -/
abbrev accountFields : List String :=
  ["client_id", "client_secret", "refresh_token"]

theorem withDefault_none {α : Type} (base : α) (decode : Toml → Option α) :
    withDefault base decode none = some base :=
  rfl

theorem withDefault_some {α : Type} (base : α) (decode : Toml → Option α) (entry : Toml) :
    withDefault base decode (some entry) = decode entry :=
  rfl

theorem server_ofToml? (block : Option Toml) (base s : Server) :
    withDefault base base.ofToml? block = some s ↔
      Setting block serverFields "bind" asText? base.bind s.bind ∧
      Setting block serverFields "port" (whole? UInt16.size (·.toUInt16)) base.port s.port := by
  cases base
  cases s
  cases block with
  | none => simp [withDefault_none, setting_none]
  | some table =>
    by_cases record : table.isRecord <;>
      simp [withDefault_some, Server.ofToml?, Toml.record?_eq, setting_some, serverFields, record,
        Option.bind_eq_some_iff]

theorem scheduler_ofToml? (block : Option Toml) (base s : Scheduler.Settings) :
    withDefault base (schedulerOfToml? base) block = some s ↔
      Setting block schedulerFields "interval_ms" (whole? UInt64.size (·.toUInt64)) base.interval
        s.interval ∧
      Setting block schedulerFields "check_attempts" (whole? UInt32.size (·.toUInt32))
        base.checkAttempts s.checkAttempts ∧
      Setting block schedulerFields "end_of_track_threshold_ms" (whole? UInt64.size (·.toUInt64))
        base.endOfTrackThreshold s.endOfTrackThreshold := by
  cases base
  cases s
  cases block with
  | none => simp [withDefault_none, setting_none]
  | some table =>
    by_cases record : table.isRecord <;>
      simp [withDefault_some, schedulerOfToml?, Toml.record?_eq, setting_some, schedulerFields, record,
        Option.bind_eq_some_iff]

theorem playback_ofToml? (block : Option Toml) (base s : Playback) (noDevice : base.preferredDevice = none) :
    withDefault base base.ofToml? block = some s ↔
      Setting block playbackFields "backend" (asWord? Service.Kind.ofName?) base.backend s.backend ∧
      Setting block playbackFields "preferred_device" someText? none s.preferredDevice ∧
      Setting block playbackFields "volume_step" (whole? UInt8.size (·.toUInt8)) base.volumeStep
        s.volumeStep := by
  cases base
  cases s
  cases noDevice
  cases block with
  | none => simp [withDefault_none, setting_none]
  | some table =>
    by_cases record : table.isRecord <;>
      simp [withDefault_some, Playback.ofToml?, optionalText?, Toml.record?_eq, setting_some,
        playbackFields, record, Option.bind_eq_some_iff]

theorem account_ofToml? (block : Option Toml) (s : Spotify.Account) :
    withDefault .empty accountOfToml? block = some s ↔
      Setting block accountFields "client_id" someText? none s.clientId ∧
      Setting block accountFields "client_secret" someText? none s.clientSecret ∧
      Setting block accountFields "refresh_token" someText? none s.refreshToken := by
  cases s
  cases block with
  | none => simp [withDefault_none, setting_none, Spotify.Account.empty]
  | some table =>
    by_cases record : table.isRecord <;>
      simp [withDefault_some, accountOfToml?, optionalText?, Toml.record?_eq, setting_some,
        accountFields, record, Option.bind_eq_some_iff]

theorem password_ofToml? (block : Option Toml) (s : Option String) :
    withDefault none passwordOfToml? block = some s ↔
      Setting block ["admin_password"] "admin_password" someText? none s := by
  cases block with
  | none => simp [withDefault_none, setting_none]
  | some table =>
    by_cases record : table.isRecord <;>
      simp [withDefault_some, passwordOfToml?, optionalText?, Toml.record?_eq, setting_some, record]

theorem logLevel_ofToml? (block : Option Toml) (base s : String) :
    withDefault base (logLevelOfToml? base) block = some s ↔
      Setting block ["level"] "level" asText? base s := by
  cases block with
  | none => simp [withDefault_none, setting_none]
  | some table =>
    by_cases record : table.isRecord <;>
      simp [withDefault_some, logLevelOfToml?, Toml.record?_eq, setting_some, record]

/-! ## Documents -/

/-- Each setting of the configuration is what the document says, or its default. -/
structure Describes (document : Toml.Entries) (c : Config) : Prop where
  bind : Setting (document.lookup "server") serverFields "bind" asText? default.server.bind c.server.bind
  port : Setting (document.lookup "server") serverFields "port" (whole? UInt16.size (·.toUInt16))
    default.server.port c.server.port
  interval : Setting (document.lookup "scheduler") schedulerFields "interval_ms"
    (whole? UInt64.size (·.toUInt64)) default.scheduler.interval c.scheduler.interval
  checkAttempts : Setting (document.lookup "scheduler") schedulerFields "check_attempts"
    (whole? UInt32.size (·.toUInt32)) default.scheduler.checkAttempts c.scheduler.checkAttempts
  endOfTrackThreshold : Setting (document.lookup "scheduler") schedulerFields
    "end_of_track_threshold_ms" (whole? UInt64.size (·.toUInt64)) default.scheduler.endOfTrackThreshold
    c.scheduler.endOfTrackThreshold
  backend : Setting (document.lookup "playback") playbackFields "backend"
    (asWord? Service.Kind.ofName?) default.playback.backend c.playback.backend
  preferredDevice : Setting (document.lookup "playback") playbackFields "preferred_device" someText?
    none c.playback.preferredDevice
  volumeStep : Setting (document.lookup "playback") playbackFields "volume_step"
    (whole? UInt8.size (·.toUInt8)) default.playback.volumeStep c.playback.volumeStep
  clientId : Setting (document.lookup "spotify") accountFields "client_id" someText? none
    c.spotify.clientId
  clientSecret : Setting (document.lookup "spotify") accountFields "client_secret" someText? none
    c.spotify.clientSecret
  refreshToken : Setting (document.lookup "spotify") accountFields "refresh_token" someText? none
    c.spotify.refreshToken
  adminPassword : Setting (document.lookup "party") ["admin_password"] "admin_password" someText? none
    c.adminPassword
  logLevel : Setting (document.lookup "logging") ["level"] "level" asText? default.logLevel c.logLevel

/-- A document is read as the configuration that it describes, and not at all if it describes none. -/
theorem ofToml?_eq_some (document : Toml.Entries) (c : Config) :
    ofToml? document = some c ↔ Describes document c := by
  have parts : ofToml? document = some c ↔
      withDefault default.server default.server.ofToml? (document.lookup "server") = some c.server ∧
      withDefault default.scheduler (schedulerOfToml? default.scheduler) (document.lookup "scheduler") =
        some c.scheduler ∧
      withDefault default.playback default.playback.ofToml? (document.lookup "playback") =
        some c.playback ∧
      withDefault default.spotify accountOfToml? (document.lookup "spotify") = some c.spotify ∧
      withDefault default.adminPassword passwordOfToml? (document.lookup "party") =
        some c.adminPassword ∧
      withDefault default.logLevel (logLevelOfToml? default.logLevel) (document.lookup "logging") =
        some c.logLevel := by
    cases c
    constructor
    · intro reads
      simp only [ofToml?, Option.pure_def, Option.bind_eq_bind, Option.bind_eq_some_iff] at reads
      obtain ⟨_, server, _, scheduler, _, playback, _, spotify, _, password, _, level, same⟩ := reads
      cases same
      exact ⟨server, scheduler, playback, spotify, password, level⟩
    · rintro ⟨server, scheduler, playback, spotify, password, level⟩
      simp [ofToml?, server, scheduler, playback, spotify, password, level]
  rw [parts, server_ofToml?, scheduler_ofToml?, playback_ofToml? _ _ _ rfl]
  rw [show default.spotify = .empty from rfl, show default.adminPassword = none from rfl,
    account_ofToml?, password_ofToml?, logLevel_ofToml?]
  constructor
  · rintro ⟨⟨bind, port⟩, ⟨interval, attempts, threshold⟩, ⟨backend, device, step⟩, ⟨id, secret, token⟩,
      password, level⟩
    exact ⟨bind, port, interval, attempts, threshold, backend, device, step, id, secret, token,
      password, level⟩
  · intro d
    exact ⟨⟨d.bind, d.port⟩, ⟨d.interval, d.checkAttempts, d.endOfTrackThreshold⟩,
      ⟨d.backend, d.preferredDevice, d.volumeStep⟩, ⟨d.clientId, d.clientSecret, d.refreshToken⟩,
      d.adminPassword, d.logLevel⟩

end Config
end Jukebox
