import Jukebox.Error
import Jukebox.Timestamp

/-!
Sessions: the guests of a party, each known by a name that its device was given.

A session's rights are fixed when it is created.
-/

namespace Jukebox

/-- No session has this name. -/
def Error.unknownSession (id : SessionId) : Error :=
  ⟨.notFound, s!"session '{id.text}'"⟩

/-- A guest's session. -/
structure Session where
  id : SessionId
  nickname : Option String
  isAdmin : Bool
  createdAt : Timestamp
deriving DecidableEq

/-- The sessions created so far, the newest first. -/
structure Sessions where
  toList : List Session
deriving DecidableEq

namespace Sessions

/-- Nobody has joined. -/
def empty : Sessions :=
  ⟨[]⟩

/-- The session of this name. -/
def get? (sessions : Sessions) (id : SessionId) : Option Session :=
  sessions.toList.find? (·.id == id)

/-- The session of this name, or the failure that says there is none. -/
def get (sessions : Sessions) (id : SessionId) : Except Error Session :=
  match sessions.get? id with
  | some session => .ok session
  | none => .error (.unknownSession id)

/-- Adds a session; one of the same name is replaced. -/
def insert (sessions : Sessions) (session : Session) : Sessions :=
  ⟨session :: sessions.toList.filter (·.id != session.id)⟩

/-- The number of sessions. -/
def count (sessions : Sessions) : Nat :=
  sessions.toList.length

@[simp]
theorem get?_insert (sessions : Sessions) (session : Session) (id : SessionId) :
    (sessions.insert session).get? id = if session.id = id then some session else sessions.get? id := by
  by_cases h : session.id = id
  · simp [get?, insert, h]
  · simp only [get?, insert, h, if_false, List.find?_cons, beq_eq_false_iff_ne.2 h,
      List.find?_filter]
    congr 1
    funext s
    by_cases hs : s.id = id
    · simp [hs, Ne.symm h]
    · simp [hs]

end Sessions
end Jukebox
