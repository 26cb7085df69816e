import Jukebox.Error
import Jukebox.Text.Quoted

/-!
The credentials with which the program acts for a Spotify account.
-/

namespace Jukebox.Spotify

/-- What is configured for an account; each part may be missing. -/
structure Account where
  clientId : Option String
  clientSecret : Option String
  refreshToken : Option String
deriving DecidableEq, Inhabited

/-- Credentials that can be used. -/
structure Credentials where
  clientId : String
  clientSecret : String
  /-- The token for which access tokens are issued. -/
  refreshToken : String
deriving DecidableEq, Repr

end Spotify

/-- Parts of the credentials for the account are missing. -/
def Error.incompleteAccount : Error :=
  ⟨.notInitialized, "Spotify client_id, client_secret and refresh_token are required"⟩

namespace Spotify.Account

/-- No credentials. -/
def empty : Account :=
  ⟨none, none, none⟩

/-- The value is there and not empty. -/
def isGiven (value : Option String) : Bool :=
  value.any fun text => !text.isEmpty

/-- All parts are there and not empty. -/
def isComplete (a : Account) : Bool :=
  isGiven a.clientId && isGiven a.clientSecret && isGiven a.refreshToken

/-- The credentials, if all parts are there. -/
def credentials (a : Account) : Except Error Credentials :=
  match a.clientId, a.clientSecret, a.refreshToken with
  | some id, some secret, some token =>
    if a.isComplete then .ok ⟨id, secret, token⟩ else .error .incompleteAccount
  | _, _, _ => .error .incompleteAccount

/-! ## Showing an account -/

/-- A text that may be missing. -/
def shownPart (write : String → String) : Option String → String
  | none => "None"
  | some text => s!"Some({write text})"

/-- What is shown in the place of a secret. -/
def redacted : String → String :=
  fun _ => Text.Quoted.quote "<redacted>"

/-- The account as it is shown in logs, where the secrets in it do not appear. -/
def shown (a : Account) : String :=
  let parts := [("client_id", shownPart Text.Quoted.quote a.clientId),
    ("client_secret", shownPart redacted a.clientSecret),
    ("refresh_token", shownPart redacted a.refreshToken)]
  let fields := ", ".intercalate (parts.map fun (name, value) => s!"{name}: {value}")
  "SpotifyConfig \x7b " ++ fields ++ " \x7d"

end Spotify.Account
end Jukebox
