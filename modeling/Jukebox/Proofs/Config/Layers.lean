import Jukebox.Config.Load
import Jukebox.Proofs.Config.Document
import Mathlib.Control.Monad.Basic

/-!
What loading a configuration comes to.

Five layers have a say in a configuration: the command line, the variables, the place of the file, the
file itself, and the defaults.  `Layered` says of each result of `Config.load` how it comes about, with a
relation for each question on the way: where the file is looked for (`Located`), what is taken from there
(`Taken`), and what goes over it (`Overlaid`).  `load_layered` says that loading is exactly this.

A configuration is only loaded if a party can be held with it (`Runnable`).  The credentials are checked
twice on the way to a running party: when the configuration is validated, and when the session with
Spotify begins.  That both checks agree is `credentials_isOk`, and `validate_eq_ok` rests on it.
-/

namespace Jukebox

/-! ## What a party can be held with -/

theorem Spotify.Account.credentials_isOk (account : Account) :
    (∃ credentials, account.credentials = .ok credentials) ↔ account.isComplete := by
  obtain ⟨id, secret, token⟩ := account
  cases id with
  | none => simp [credentials, isComplete, isGiven]
  | some id =>
    cases secret with
    | none => simp [credentials, isComplete, isGiven]
    | some secret =>
      cases token with
      | none => simp [credentials, isComplete, isGiven]
      | some token =>
        by_cases complete : isComplete ⟨some id, some secret, some token⟩ <;>
          simp [credentials, complete]

theorem Spotify.Session.begin_isOk (account : Account) (web : Http.Web) :
    (∃ session, Session.begin account web = .ok session) ↔ account.isComplete := by
  rw [← account.credentials_isOk]
  cases known : account.credentials <;>
    simp [Session.begin, Session.beginAt, known, bind, Except.bind, pure, Except.pure]

namespace Config

/-- A party can be held with the configuration: it ticks, and it has a service to play music. -/
structure Runnable (c : Config) : Prop where
  interval : c.scheduler.interval ≠ 0
  checkAttempts : c.scheduler.checkAttempts ≠ 0
  volumeStep : 1 ≤ c.playback.volumeStep ∧ c.playback.volumeStep ≤ 100
  service (web : Http.Web) : ∃ service, c.service web = .ok service

theorem service_isOk (c : Config) (web : Http.Web) :
    (∃ service, c.service web = .ok service) ↔
      (c.playback.backend = .spotify → c.spotify.isComplete) := by
  cases backend : c.playback.backend with
  | memory => simp [Config.service, backend]
  | spotify =>
    rw [← Spotify.Session.begin_isOk c.spotify web]
    cases begun : Spotify.Session.begin c.spotify web <;>
      simp [Config.service, backend, begun, Except.map]

theorem volumeStep_inRange (step : UInt8) : ¬ (step = 0 ∨ 100 < step) ↔ 1 ≤ step ∧ step ≤ 100 := by
  simp only [← UInt8.toNat_inj, UInt8.lt_iff_toNat_lt, UInt8.le_iff_toNat_le, UInt8.reduceToNat]
  omega

theorem validate_eq_ok (c : Config) : c.validate = .ok () ↔ Runnable c := by
  constructor
  · intro valid
    unfold validate at valid
    split at valid
    · cases valid
    rename_i interval
    split at valid
    · cases valid
    rename_i attempts
    split at valid
    · cases valid
    rename_i step
    split at valid
    · cases valid
    rename_i account
    refine ⟨interval, attempts, (volumeStep_inRange _).mp step, fun web => ?_⟩
    rw [service_isOk]
    intro spotify
    simpa [spotify] using account
  · rintro ⟨interval, attempts, step, service⟩
    have inRange := (volumeStep_inRange _).mpr step
    have account := (service_isOk c .unreachable).mp (service _)
    have complete : ¬ (c.playback.backend = .spotify ∧ (!c.spotify.isComplete) = true) := by
      simpa using account
    simp only [validate, if_neg interval, if_neg attempts, if_neg inRange, if_neg complete]

/-! ## Where the file is -/

/-- The path of the user's own file, if the user has a directory for it. -/
def userPath? (around : Surroundings) : Option String :=
  (userDirectory? around).map (joinPath · "partyq/config.toml")

/-- The environment does not say where the file is; an empty variable says nothing. -/
def Unnamed (around : Surroundings) : Prop :=
  ∀ path, around.env? "PARTYQ_CONFIG" = some path → path = ""

/-- There is nothing in the user's own place. -/
def NotOwned (around : Surroundings) : Prop :=
  ∀ path, userPath? around = some path → around.file? path = none

/-- `Located around given path`: the path is where the file is looked for. -/
inductive Located (around : Surroundings) : Option String → Option String → Prop where
  /-- The path is given on the command line. -/
  | given (path : String) : Located around (some path) (some path)
  /-- The environment names it. -/
  | named {path : String} (said : around.env? "PARTYQ_CONFIG" = some path) (proper : path ≠ "") :
      Located around none (some path)
  /-- The user has something in the place for it. -/
  | owned {path : String} (unnamed : Unnamed around) (own : userPath? around = some path)
      (there : around.file? path ≠ none) : Located around none (some path)
  /-- The machine has something in the place for it. -/
  | shared (unnamed : Unnamed around) (notOwned : NotOwned around)
      (there : around.file? systemPath ≠ none) : Located around none (some systemPath)
  /-- There is no file. -/
  | nowhere (unnamed : Unnamed around) (notOwned : NotOwned around)
      (gone : around.file? systemPath = none) : Located around none none

theorem named_eq_none (around : Surroundings) :
    (around.env? "PARTYQ_CONFIG").filter (!·.isEmpty) = none ↔ Unnamed around := by
  simp [Unnamed, Option.filter_eq_none_iff]

theorem owned_eq_none (around : Surroundings) :
    (userPath? around).filter (path?.exists? around) = none ↔ NotOwned around := by
  simp [NotOwned, Option.filter_eq_none_iff, path?.exists?]

theorem path?_none (around : Surroundings) :
    path? around none = ((around.env? "PARTYQ_CONFIG").filter (!·.isEmpty) <|>
      (userPath? around).filter (path?.exists? around) <|>
      (some systemPath).filter (path?.exists? around)) :=
  rfl

theorem located_path? (around : Surroundings) (given : Option String) :
    Located around given (path? around given) := by
  cases given with
  | some path => exact .given path
  | none =>
    rw [path?_none]
    cases named : (around.env? "PARTYQ_CONFIG").filter (!·.isEmpty) with
    | some path =>
      obtain ⟨said, proper⟩ := Option.filter_eq_some_iff.mp named
      exact .named said (by simpa using proper)
    | none =>
      have unnamed := (named_eq_none around).mp named
      cases owned : (userPath? around).filter (path?.exists? around) with
      | some path =>
        obtain ⟨own, there⟩ := Option.filter_eq_some_iff.mp owned
        exact .owned unnamed own (by simpa [path?.exists?, Option.isSome_iff_ne_none] using there)
      | none =>
        have notOwned := (owned_eq_none around).mp owned
        cases there : around.file? systemPath with
        | none =>
          have shared : (some systemPath).filter (path?.exists? around) = none := by
            simp [path?.exists?, there]
          rw [shared]
          exact .nowhere unnamed notOwned there
        | some file =>
          have shared : (some systemPath).filter (path?.exists? around) = some systemPath := by
            simp [path?.exists?, there]
          rw [shared]
          exact .shared unnamed notOwned (by simp [there])

theorem path?_eq_iff (around : Surroundings) (given path : Option String) :
    path? around given = path ↔ Located around given path := by
  constructor
  · rintro rfl
    exact located_path? around given
  · intro located
    cases located with
    | given => rfl
    | named said proper => simp [path?_none, said, proper]
    | owned unnamed own there =>
      have silent := (named_eq_none around).mpr unnamed
      simp [path?_none, silent, own, path?.exists?, Option.isSome_iff_ne_none, there]
    | shared unnamed notOwned there =>
      have silent := (named_eq_none around).mpr unnamed
      have gone := (owned_eq_none around).mpr notOwned
      simp [path?_none, silent, gone, path?.exists?, Option.isSome_iff_ne_none, there]
    | nowhere unnamed notOwned gone =>
      have silent := (named_eq_none around).mpr unnamed
      have empty := (owned_eq_none around).mpr notOwned
      simp [path?_none, silent, empty, path?.exists?, gone]

/-! ## What is taken from the file -/

/-- The text is a TOML document that describes the configuration. -/
def Says (content : String) (c : Config) : Prop :=
  ∃ document, Toml.read? content = some document ∧ Describes document c

theorem parse_eq_ok (content : String) (c : Config) : parse content = .ok c ↔ Says content c := by
  cases found : Toml.read? content with
  | none => simp [parse, Says, found]
  | some document =>
    simp only [Says, found, ← ofToml?_eq_some]
    cases reads : ofToml? document <;> simp [parse, found, reads]

theorem parse_eq_error (content : String) (e : Error) :
    parse content = .error e ↔ e = .notAConfig ∧ ∀ c, ¬ Says content c := by
  simp only [← parse_eq_ok]
  unfold parse
  split <;> simp [eq_comm]

/--
`Taken around path c source`: the configuration is taken from the path, and `source` is the file that it
came from.
-/
inductive Taken (around : Surroundings) : Option String → Config → Option String → Prop where
  /-- There is no path, and the defaults are taken. -/
  | nowhere : Taken around none default none
  /-- There is nothing at the path, and the defaults are taken. -/
  | missing {path : String} (gone : around.file? path = none) : Taken around (some path) default none
  /-- The file says what is taken. -/
  | read {path content : String} {c : Config} (there : around.file? path = some (.text content))
      (meant : Says content c) : Taken around (some path) c (some path)

/-- `Spoilt around path e`: there is a file at the path, but nothing can be taken from it. -/
inductive Spoilt (around : Surroundings) : Option String → Error → Prop where
  /-- The file cannot be read. -/
  | unreadable {path reason : String} (there : around.file? path = some (.unreadable reason)) :
      Spoilt around (some path) (.unreadableFile path reason)
  /-- The file is no document that describes a configuration. -/
  | notAConfig {path content : String} (there : around.file? path = some (.text content))
      (nothing : ∀ c, ¬ Says content c) : Spoilt around (some path) .notAConfig

/-- The file from which a configuration is taken that comes from a path. -/
def source? (around : Surroundings) (path : Option String) : Option String :=
  path.filter fun path => (around.file? path).isSome

theorem source?_some (around : Surroundings) (path : String) :
    source? around (some path) = if (around.file? path).isSome then some path else none := by
  simp [source?, Option.filter]

theorem ofPath_eq_ok (around : Surroundings) (path source : Option String) (c : Config) :
    ofPath around path = .ok c ∧ source? around path = source ↔ Taken around path c source := by
  constructor
  · rintro ⟨loaded, rfl⟩
    cases path with
    | none =>
      cases loaded
      exact .nowhere
    | some path =>
      cases there : around.file? path with
      | none =>
        simp only [ofPath, there, Except.ok.injEq] at loaded
        subst loaded
        simpa [source?_some, there] using Taken.missing there
      | some file =>
        cases file with
        | text content =>
          simp only [ofPath, there] at loaded
          simpa [source?_some, there] using Taken.read there ((parse_eq_ok content c).mp loaded)
        | unreadable reason => simp [ofPath, there] at loaded
  · intro taken
    cases taken with
    | nowhere => exact ⟨rfl, rfl⟩
    | missing gone => simp [ofPath, source?_some, gone]
    | read there meant => simp [ofPath, source?_some, there, (parse_eq_ok _ _).mpr meant]

theorem ofPath_eq_error (around : Surroundings) (path : Option String) (e : Error) :
    ofPath around path = .error e ↔ Spoilt around path e := by
  constructor
  · intro failed
    cases path with
    | none => cases failed
    | some path =>
      cases there : around.file? path with
      | none => simp [ofPath, there] at failed
      | some file =>
        cases file with
        | text content =>
          simp only [ofPath, there, parse_eq_error] at failed
          obtain ⟨rfl, nothing⟩ := failed
          exact .notAConfig there nothing
        | unreadable reason =>
          simp only [ofPath, there, Except.error.injEq] at failed
          exact failed ▸ .unreadable there
  · intro spoilt
    cases spoilt with
    | unreadable there => simp [ofPath, there]
    | notAConfig there nothing => simp [ofPath, there, parse_eq_error, nothing]

/-! ## What goes over it -/

/-- `Overlaid around given f c`: the command line and the variables go over `f`, which gives `c`. -/
structure Overlaid (around : Surroundings) (given : Overrides) (f c : Config) : Prop where
  port : c.server.port = given.port.getD f.server.port
  backend : c.playback.backend = given.backend.getD f.playback.backend
  clientId : c.spotify.clientId = (around.env? "PARTYQ_SPOTIFY_CLIENT_ID").or f.spotify.clientId
  clientSecret : c.spotify.clientSecret =
    (around.env? "PARTYQ_SPOTIFY_CLIENT_SECRET").or f.spotify.clientSecret
  refreshToken : c.spotify.refreshToken =
    (around.env? "PARTYQ_SPOTIFY_REFRESH_TOKEN").or f.spotify.refreshToken
  /-- Nothing else has a place on the command line or a variable. -/
  rest : c.server.bind = f.server.bind ∧ c.scheduler = f.scheduler ∧
    c.playback.preferredDevice = f.playback.preferredDevice ∧
    c.playback.volumeStep = f.playback.volumeStep ∧ c.adminPassword = f.adminPassword ∧
    c.logLevel = f.logLevel

theorem overlaid_iff (around : Surroundings) (given : Overrides) (f c : Config) :
    withOverrides given (withVariables around f) = c ↔ Overlaid around given f c := by
  constructor
  · rintro rfl
    constructor <;> simp [withOverrides, withVariables]
  · obtain ⟨⟨_, _⟩, _, ⟨_, _, _⟩, ⟨_, _, _⟩, _, _⟩ := c
    rintro ⟨port, backend, id, secret, token, bind, scheduler, device, step, password, level⟩
    simp only at *
    subst port backend id secret token bind scheduler device step password level
    simp [withOverrides, withVariables]

/-! ## Loading -/

/-- How each result of loading comes about. -/
inductive Layered (around : Surroundings) (given : Overrides) : Except Error Loaded → Prop where
  /-- A configuration is loaded, and a party can be held with it. -/
  | loaded {path source : Option String} {f c : Config} (located : Located around given.config path)
      (taken : Taken around path f source) (overlaid : Overlaid around given f c)
      (runnable : Runnable c) : Layered around given (.ok ⟨c, source⟩)
  /-- The file is there, but cannot be read or does not describe a configuration. -/
  | spoilt {path : Option String} {e : Error} (located : Located around given.config path)
      (spoilt : Spoilt around path e) : Layered around given (.error e)
  /-- No party can be held with the configuration. -/
  | refused {path source : Option String} {f c : Config} {e : Error}
      (located : Located around given.config path) (taken : Taken around path f source)
      (overlaid : Overlaid around given f c) (notRunnable : ¬ Runnable c)
      (reason : c.validate = .error e) : Layered around given (.error e)

/-- What `load` does, when the path, what is taken from it and what goes over it are known. -/
theorem load_eq (around : Surroundings) (given : Overrides) :
    load around given = (do
      let f ← ofPath around (path? around given.config)
      (withOverrides given (withVariables around f)).validate
      .ok ⟨withOverrides given (withVariables around f), source? around (path? around given.config)⟩) :=
  rfl

theorem load_layered (around : Surroundings) (given : Overrides) (result : Except Error Loaded) :
    load around given = result ↔ Layered around given result := by
  constructor
  · rintro rfl
    have located := located_path? around given.config
    rw [load_eq]
    generalize path? around given.config = path at located ⊢
    cases taking : ofPath around path with
    | error e => exact .spoilt located ((ofPath_eq_error around path e).mp taking)
    | ok f =>
      have taken := (ofPath_eq_ok around path _ f).mp ⟨taking, rfl⟩
      have overlaid := (overlaid_iff around given f _).mp rfl
      simp only [bind, Except.bind]
      generalize withOverrides given (withVariables around f) = c at overlaid ⊢
      cases valid : c.validate with
      | ok => exact .loaded located taken overlaid ((validate_eq_ok c).mp valid)
      | error e =>
        have notRunnable : ¬ Runnable c := by simp [← validate_eq_ok, valid]
        exact .refused located taken overlaid notRunnable valid
  · intro layered
    rw [load_eq]
    cases layered with
    | loaded located taken overlaid runnable =>
      obtain ⟨taking, source⟩ := (ofPath_eq_ok ..).mpr taken
      have valid := (validate_eq_ok _).mpr runnable
      simp [(path?_eq_iff ..).mpr located, taking, source, (overlaid_iff ..).mpr overlaid, valid, bind,
        Except.bind]
    | spoilt located spoilt =>
      have taking := (ofPath_eq_error ..).mpr spoilt
      simp [(path?_eq_iff ..).mpr located, taking, bind, Except.bind]
    | refused located taken overlaid notRunnable reason =>
      obtain ⟨taking, -⟩ := (ofPath_eq_ok ..).mpr taken
      simp [(path?_eq_iff ..).mpr located, taking, (overlaid_iff ..).mpr overlaid, reason, bind,
        Except.bind]

/-- A variable names a file that speaks in most sections, another gives the refresh token, and the command line
gives another port than the file.  A file that breaks off in its first header is spoilt. -/
theorem load_layered_named :
    let content := "[scheduler]\ninterval_ms = 2_000 # rarely\n\n[server]\nbind = '::'\nport = 0x50\n" ++
      "[playback]\nbackend = \"spotify\"\n[spotify]\nclient_id = \"filed\"\n\"client_secret\" = \"\\u0062\"\n"
    let around (content : String) : Surroundings :=
      ⟨fun path => if path = "/party.toml" then some (.text content) else none,
        fun name => if name = "PARTYQ_CONFIG" then some "/party.toml"
          else if name = "PARTYQ_SPOTIFY_REFRESH_TOKEN" then some "fresh" else none⟩
    let given : Overrides := ⟨none, some 9000, none⟩
    let loaded : Loaded := ⟨⟨⟨"::", 9000⟩, ⟨2000, 5, 1000⟩, ⟨.spotify, none, 10⟩,
      ⟨some "filed", some "b", some "fresh"⟩, none, "info"⟩, some "/party.toml"⟩
    Layered (around content) given (.ok loaded) ∧
      Layered (around "[scheduler") given (.error .notAConfig) := by
  intro content around given loaded
  have hload : load (around content) given = .ok loaded := by decide +kernel
  have hfail : load (around "[scheduler") given = .error .notAConfig := by decide +kernel
  exact ⟨(load_layered _ _ _).1 hload, (load_layered _ _ _).1 hfail⟩

/-- Where nothing is found, the defaults hold but for what the command line gives. -/
example : load ⟨fun _ => none, fun _ => none⟩ ⟨none, some 9000, some .memory⟩ =
    .ok ⟨{ default with
      server := ⟨"0.0.0.0", 9000⟩
      playback := ⟨.memory, none, 10⟩ }, none⟩ := by
  rfl

end Config
end Jukebox
