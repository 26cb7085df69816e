import Jukebox.Text.Utf8

/-!
HTTP as a client sees it: the requests it makes and what becomes of them.

A `Web` is the far end.  It can be reached or not; if it can, it answers with what was planned and
writes down what it was asked.
-/

namespace Jukebox.Http

/-- A request that a client makes. -/
structure Call where
  method : String
  /-- The path and, after a question mark, the query. -/
  target : String
  authorization : String
  contentType : Option String
  userAgent : String
  body : String
deriving DecidableEq, Repr

/-- An answer that a client gets, as far as it gets it. -/
structure Reply where
  status : Nat
  /-- The body; nothing, if the connection broke before its end. -/
  body : Option (List UInt8)
deriving DecidableEq, Repr

namespace Reply

/-- The answer reports success. -/
def isSuccess (r : Reply) : Bool :=
  200 ≤ r.status && r.status < 300

/-- The text of the body, if all of it came.  Whatever character set the answer may name, it is read as UTF-8, and a
byte order mark at its start is kept as a character. -/
def text? (r : Reply) : Option String :=
  r.body.map fun bytes => String.ofList (Text.Utf8.decode bytes)

/-- The text of the body, if all of it came and it is in UTF-8.  Bytes that are not spoil all of the body, also within
a member of JSON that a reader could pass over without looking. -/
def strictText? (r : Reply) : Option String := do
  let bytes ← r.body
  let chars := Text.Utf8.decode bytes
  if Text.Utf8.encode chars = bytes then some (String.ofList chars) else none

end Reply

/-- The far end of a client. -/
structure Web where
  /-- Requests get there. -/
  reachable : Bool
  /-- The answers to come; nothing stands for a connection that is closed without an answer. -/
  planned : List (Option Reply)
  /-- The requests that got there, the newest first. -/
  log : List Call

namespace Web

/-- No request gets anywhere. -/
def unreachable : Web :=
  ⟨false, [], []⟩

/-- Every request gets there and is answered from a plan. -/
def answering (planned : List (Option Reply)) : Web :=
  ⟨true, planned, []⟩

/-- Plans further answers. -/
def plan (w : Web) (replies : List (Option Reply)) : Web :=
  { w with planned := w.planned ++ replies }

/-- The answer when none was planned. -/
def unplanned : Reply :=
  ⟨500, some (Text.Utf8.encode "no response scripted".toList)⟩

/-- What becomes of a request; there may be no answer. -/
def exchange (w : Web) (c : Call) : Option Reply × Web :=
  if w.reachable then
    match w.planned with
    | [] => (some unplanned, { w with log := c :: w.log })
    | reply :: rest => (reply, { w with planned := rest, log := c :: w.log })
  else (none, w)

end Web
end Jukebox.Http
