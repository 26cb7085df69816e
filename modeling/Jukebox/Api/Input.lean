import Jukebox.Api.Route
import Jukebox.Http.MediaType
import Jukebox.Http.Message
import Jukebox.Json.Reader
import Jukebox.Json.Record
import Jukebox.Party.Request
import Jukebox.Text.Percent

/-!
What a guest asks for with an HTTP request.

The arguments come as a record in a JSON body or as the query of the target.  A request without them,
or with arguments of another form, cannot be read.
-/

namespace Jukebox

/-- The body is not said to be JSON. -/
def Error.notJson : Error :=
  ⟨.invalidFormat, "Expected request with an application/json body"⟩

/-- The body is not a record with the arguments of the request. -/
def Error.unreadableBody : Error :=
  ⟨.invalidFormat, "Failed to read the request body"⟩

/-- The query does not hold the arguments of the request. -/
def Error.unreadableQuery : Error :=
  ⟨.invalidFormat, "Failed to read the query"⟩

namespace Api

open Json (required optional text? int64?)
open Party (Request)

/-- The JSON body of a request; what follows the value does not count. -/
def jsonBody (r : Http.Request) : Except Error Json :=
  match r.contentType.bind Http.MediaType.parse? with
  | some media =>
    if media.isJson then
      match Json.readStart? r.body with
      | some (j, _) => .ok j
      | none => .error .unreadableBody
    else .error .notJson
  | none => .error .notJson

/-- The fields of the record in the body of a request. -/
def bodyFields (names : List String) (r : Http.Request) : Except Error (List (Option Json)) := do
  match (← jsonBody r).record names names.length with
  | some fields => .ok fields
  | none => .error .unreadableBody

/-- A value that was read from the body, if it could be. -/
def inBody {α : Type} : Option α → Except Error α
  | some a => .ok a
  | none => .error .unreadableBody

/-- A value that was read from the query, if it could be. -/
def inQuery {α : Type} : Option α → Except Error α
  | some a => .ok a
  | none => .error .unreadableQuery

/-- The value of an argument in a query; nothing inside, if it is missing, and none if given twice. -/
def argument? (pairs : List (String × String)) (name : String) : Option (Option String) :=
  match pairs.filter (·.1 == name) with
  | [] => some none
  | [(_, value)] => some (some value)
  | _ => none

/-- An integer of 64 bits in decimal digits, perhaps after a sign. -/
def integer? (text : String) : Option Int :=
  let (sign, digits) : Int × List Char := match text.toList with
    | '+' :: r => (1, r)
    | '-' :: r => (-1, r)
    | r => (1, r)
  if digits.isEmpty || !digits.all Char.isDigit then none
  else
    let n := sign * Text.Decimal.value digits
    if -0x8000000000000000 ≤ n ∧ n < 0x8000000000000000 then some n else none

/-- The name of a session. -/
def sessionId? (j : Json) : Option SessionId :=
  (text? j).map (⟨·⟩)

/-- The name of a track. -/
def trackId? (j : Json) : Option TrackId :=
  (text? j).map (⟨·⟩)

/-- The request of a guest, for the endpoints that take one. -/
def request? (endpoint : Endpoint) (r : Http.Request) : Option (Except Error Request) :=
  match endpoint with
  | .health | .events => none
  | .openSession => some do
    match ← bodyFields ["password", "nickname"] r with
    | [password, nickname] =>
      return .openSession (← inBody (optional text? password)) (← inBody (optional text? nickname))
    | _ => .error .unreadableBody
  | .search => some do
    let pairs := Text.Percent.decodeForm r.query
    let pattern ← inQuery (argument? pairs "pattern").join
    match ← inQuery (argument? pairs "max_entries") with
    | none => return .search pattern none
    | some limit => return .search pattern (some (← inQuery (integer? limit)))
  | .queues => some do
    let pairs := Text.Percent.decodeForm r.query
    return .queues ⟨← inQuery (argument? pairs "session_id").join⟩
  | .add => some do
    match ← bodyFields ["session_id", "track_id", "queue_type"] r with
    | [session, track, queue] =>
      let session ← inBody (required sessionId? session)
      let track ← inBody (required trackId? track)
      match ← inBody (optional text? queue) with
      | none => return .add session track .normal
      | some word => return .add session track (← Queue.Kind.parse word)
    | _ => .error .unreadableBody
  | .move => some do
    match ← bodyFields ["session_id", "track_id", "queue_type"] r with
    | [session, track, queue] =>
      let session ← inBody (required sessionId? session)
      let track ← inBody (required trackId? track)
      let word ← inBody (required text? queue)
      return .move session track (← Queue.Kind.parse word)
    | _ => .error .unreadableBody
  | .remove => some do
    match ← bodyFields ["session_id", "track_id"] r with
    | [session, track] =>
      return .remove (← inBody (required sessionId? session)) (← inBody (required trackId? track))
    | _ => .error .unreadableBody
  | .vote => some do
    match ← bodyFields ["session_id", "track_id", "vote"] r with
    | [session, track, vote] =>
      let session ← inBody (required sessionId? session)
      let track ← inBody (required trackId? track)
      return .vote session track ((← inBody (required int64? vote)) != 0)
    | _ => .error .unreadableBody
  | .control => some do
    match ← bodyFields ["session_id", "player_action"] r with
    | [session, action] =>
      let session ← inBody (required sessionId? session)
      let word ← inBody (required text? action)
      return .control session (← Control.parse word)
    | _ => .error .unreadableBody

end Api
end Jukebox
