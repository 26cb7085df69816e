import Jukebox.Track

/-!
A track in a queue, the votes for it, and the rule that ranks entries.

Entries are ranked by votes, most first, and equal votes by age: the entry with the smaller sequence
number comes first.  Main statement: setting a vote leaves everybody else's vote alone and makes the
voter's vote what was asked for (`Voters.mem_set`).
-/

namespace Jukebox.Queue

/-- The sessions that vote for an entry, each at most once. -/
structure Voters where
  toList : List SessionId
  nodup : toList.Nodup
deriving DecidableEq

namespace Voters

/-- Nobody votes. -/
def empty : Voters :=
  ⟨[], List.nodup_nil⟩

instance : Membership SessionId Voters where
  mem votes voter := voter ∈ votes.toList

theorem mem_def {votes : Voters} {voter : SessionId} : voter ∈ votes ↔ voter ∈ votes.toList :=
  Iff.rfl

instance (votes : Voters) (voter : SessionId) : Decidable (voter ∈ votes) :=
  inferInstanceAs (Decidable (voter ∈ votes.toList))

/-- The number of votes. -/
def count (votes : Voters) : Nat :=
  votes.toList.length

/-- Adds a vote; a second vote of the same session changes nothing. -/
def insert (votes : Voters) (voter : SessionId) : Voters :=
  if h : voter ∈ votes.toList then votes
  else ⟨voter :: votes.toList, List.nodup_cons.2 ⟨h, votes.nodup⟩⟩

/-- Withdraws a vote, if there is one. -/
def erase (votes : Voters) (voter : SessionId) : Voters :=
  ⟨votes.toList.erase voter, votes.nodup.erase voter⟩

/-- Sets (`up`) or withdraws the vote of one session. -/
def set (votes : Voters) (voter : SessionId) (up : Bool) : Voters :=
  if up then votes.insert voter else votes.erase voter

@[simp]
theorem not_mem_empty (voter : SessionId) : voter ∉ empty := by
  simp [mem_def, empty]

@[simp]
theorem mem_insert {votes : Voters} {voter x : SessionId} :
    x ∈ votes.insert voter ↔ x = voter ∨ x ∈ votes := by
  unfold insert
  split
  next h => exact ⟨.inr, fun hx => hx.elim (fun e => e ▸ h) id⟩
  next => simp [mem_def]

@[simp]
theorem mem_erase {votes : Voters} {voter x : SessionId} :
    x ∈ votes.erase voter ↔ x ≠ voter ∧ x ∈ votes :=
  votes.nodup.mem_erase_iff

/-- After a vote is set, the voter votes as asked and everybody else as before. -/
theorem mem_set {votes : Voters} {voter x : SessionId} {up : Bool} :
    x ∈ votes.set voter up ↔ if x = voter then up = true else x ∈ votes := by
  cases up <;> by_cases h : x = voter <;> simp [set, h]

/-- A vote that is already as asked for changes nothing. -/
def changes (votes : Voters) (voter : SessionId) (up : Bool) : Bool :=
  decide (voter ∈ votes) != up

end Voters

/-- A track that waits in a queue. -/
structure Entry where
  track : Track
  /-- The sessions that vote for the track. -/
  votes : Voters
  /-- The age of the entry: smaller numbers were given out earlier. -/
  sequence : UInt64
deriving DecidableEq

namespace Entry

/-- A new entry has no votes. -/
def new (track : Track) (sequence : UInt64) : Entry :=
  ⟨track, .empty, sequence⟩

/-- The name of the track. -/
def id (e : Entry) : TrackId :=
  e.track.id

/-- The number of votes. -/
def score (e : Entry) : Nat :=
  e.votes.count

/-- Sets or withdraws one session's vote. -/
def setVote (e : Entry) (voter : SessionId) (up : Bool) : Entry :=
  { e with votes := e.votes.set voter up }

/-! ## Rank -/

/-- Compares the places of two entries of one queue: more votes first, then the smaller sequence. -/
def compareRank (a b : Entry) : Ordering :=
  (compare b.score a.score).then (compare a.sequence b.sequence)

/-- The entry `a` may stand in front of `b`. -/
def precedes (a b : Entry) : Bool :=
  (a.compareRank b).isLE

/-- The entries in rank order; entries of equal rank keep their order. -/
def rank (entries : List Entry) : List Entry :=
  entries.mergeSort precedes

end Entry
end Jukebox.Queue
