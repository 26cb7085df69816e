import Jukebox.Json.Printer

/-!
HTTP requests and answers.
-/

namespace Jukebox.Http

/-- A request. -/
structure Request where
  method : String
  /-- The path and, after a question mark, the query. -/
  target : String
  contentType : Option String
  body : String
deriving DecidableEq

namespace Request

/-- The target without the part that never leaves a client. -/
def sentTarget (r : Request) : List Char :=
  r.target.toList.takeWhile (· != '#')

/-- The path of the target. -/
def path (r : Request) : String :=
  String.ofList (r.sentTarget.takeWhile (· != '?'))

/-- The query of the target, empty if there is none. -/
def query (r : Request) : String :=
  String.ofList ((r.sentTarget.dropWhile (· != '?')).drop 1)

end Request

/-- An answer. -/
structure Response where
  status : Nat
  contentType : Option String
  body : String
deriving DecidableEq

namespace Response

/-- An answer that is a status only. -/
def bare (status : Nat) : Response :=
  ⟨status, none, ""⟩

/-- An answer in JSON. -/
def json (status : Nat) (j : Json) : Response :=
  ⟨status, some "application/json", j.print⟩

/-- The answer without its body. -/
def withoutBody (r : Response) : Response :=
  { r with body := "" }

end Response
end Jukebox.Http
