import Jukebox.Proofs.Queue.Contents

/-!
# Modest changes of the queues

What a guest without special rights may do to the queues: set the own vote on one track, or add one track,
without votes, to the queue for all.  Everything else stays where it is, up to its rank.
-/

namespace Jukebox.Queue

namespace Entry

/-- The second entry is the first but for one session's vote. -/
structure SameBut (voter : SessionId) (e e' : Entry) : Prop where
  track : e'.track = e.track
  sequence : e'.sequence = e.sequence
  votes : ∀ other, other ≠ voter → (other ∈ e'.votes ↔ other ∈ e.votes)

theorem SameBut.refl (voter : SessionId) (e : Entry) : SameBut voter e e :=
  ⟨rfl, rfl, fun _ _ => Iff.rfl⟩

theorem sameBut_setVote (voter : SessionId) (up : Bool) (e : Entry) :
    SameBut voter e (e.setVote voter up) := by
  refine ⟨rfl, rfl, fun other hne => ?_⟩
  show other ∈ e.votes.set voter up ↔ _
  rw [Voters.mem_set, if_neg hne]

end Entry

namespace Store

/-- The queues hold what they held, revised by `f`, and what was `added` to the queue for all. -/
structure Revised (voter : SessionId) (f : Kind → Entry → Entry) (added : List Entry)
    (s s' : Store) : Prop where
  /-- Only the voter's own votes are revised. -/
  own : ∀ kind e, Entry.SameBut voter e (f kind e)
  /-- Only one track is concerned. -/
  single : ∃ id, ∀ kind e, e.id ≠ id → f kind e = e
  admin : s'.admin.Perm (s.admin.map (f .admin))
  normal : s'.normal.Perm (s.normal.map (f .normal) ++ added)

/-- A change of the queues that a guest may make: the own vote on one track, or one more entry, without
votes, in the queue for all. -/
def Modest (guest : SessionId) (s s' : Store) : Prop :=
  ∃ f added, Revised guest f added s s' ∧ added.length ≤ 1 ∧ ∀ e ∈ added, e.score = 0

theorem Modest.refl (guest : SessionId) (s : Store) : Modest guest s s := by
  refine ⟨fun _ e => e, [], ⟨fun _ e => .refl guest e, ⟨⟨""⟩, fun _ _ _ => rfl⟩, ?_, ?_⟩, by simp, by simp⟩
  · simp
  · simp

theorem modest_enqueue (guest : SessionId) (track : Track) (s : Store) :
    Modest guest s (s.enqueue track .normal).store := by
  rcases s.enqueue_cases track .normal with ⟨_, _, _, _, heq⟩ | ⟨-, heq⟩ <;> rw [heq]
  · exact .refl guest s
  · refine ⟨fun _ e => e, [.new track s.nextSequence],
      ⟨fun _ e => .refl guest e, ⟨⟨""⟩, fun _ _ _ => rfl⟩, ?_, ?_⟩, by simp, ?_⟩
    · rw [List.map_id']
      exact .refl _
    · rw [List.map_id']
      exact Entry.rank_perm _
    · intro e he
      obtain rfl := List.mem_singleton.1 he
      rfl

theorem modest_vote (guest : SessionId) (id : TrackId) (up : Bool) (s : Store) :
    Modest guest s (s.vote id guest up).store := by
  rcases s.vote_cases id guest up with ⟨-, heq⟩ | ⟨kind, _, -, -, ⟨-, heq⟩ | ⟨-, heq⟩⟩ <;> rw [heq]
  · exact .refl guest s
  · exact .refl guest s
  · have hown : ∀ e : Entry, Entry.SameBut guest e (if e.id == id then e.setVote guest up else e) := by
      intro e
      split
      · exact Entry.sameBut_setVote guest up e
      · exact .refl guest e
    refine ⟨fun k e => if k = kind then (if e.id == id then e.setVote guest up else e) else e, [],
      ⟨fun k e => ?_, ⟨id, fun k e hne => ?_⟩, ?_, ?_⟩, by simp, by simp⟩
    · split
      · exact hown e
      · exact .refl guest e
    · simp [hne]
    · cases kind with
      | admin => exact Entry.rank_perm _
      | normal => simp [update, setQueue]
    · rw [List.append_nil]
      cases kind with
      | normal => exact Entry.rank_perm _
      | admin => simp [update, setQueue]

end Store
end Jukebox.Queue
