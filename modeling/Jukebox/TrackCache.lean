import Jukebox.Track
import Std.Data.TreeMap

/-!
A bounded memory of tracks: once it is full, the track that came in first leaves first.

A track stands in two places of a `Shelf`: itself under its name, and the name in a queue.  Main statement: the two
places stay in step as a track is put in (`Shelf.InStep.put`) and as the oldest ones are taken away
(`Shelf.InStep.fit`).
-/

namespace Jukebox

instance : Ord TrackId :=
  ⟨compareOn TrackId.text⟩

instance : Std.TransOrd TrackId :=
  inferInstanceAs (Std.TransCmp (compareOn TrackId.text))

instance : Std.LawfulEqOrd TrackId where
  eq_of_compare {a b} h := by
    obtain ⟨a⟩ := a
    obtain ⟨b⟩ := b
    exact congrArg TrackId.mk (Std.LawfulEqOrd.eq_of_compare (α := String) h)

/-- Tracks by their names, and the names by their age. -/
structure Shelf where
  byName : Std.TreeMap TrackId Track
  /-- The names in the order in which they leave, the oldest first. -/
  order : List TrackId

namespace Shelf

/-- No tracks. -/
def empty : Shelf :=
  ⟨∅, []⟩

/-- Puts a track under its name; a name that is there already keeps its place in the queue. -/
def put (s : Shelf) (track : Track) : Shelf where
  byName := s.byName.insert track.id track
  order := if s.byName.contains track.id then s.order else s.order ++ [track.id]

/-- The shelf with these tracks and names, after the oldest that do not fit were taken away. -/
def fitting (capacity : Nat) (byName : Std.TreeMap TrackId Track) : (order : List TrackId) → Shelf
  | [] => ⟨byName, []⟩
  | oldest :: order =>
    if capacity < order.length + 1 then fitting capacity (byName.erase oldest) order
    else ⟨byName, oldest :: order⟩

/-- Takes the oldest tracks away until the others fit. -/
def fit (capacity : Nat) (s : Shelf) : Shelf :=
  fitting capacity s.byName s.order

/-- The names in the queue are those under which there are tracks, each of them once and for its own track. -/
structure InStep (s : Shelf) : Prop where
  nodup : s.order.Nodup
  mem_order : ∀ {id : TrackId}, id ∈ s.order ↔ id ∈ s.byName
  id_eq : ∀ {id : TrackId} {track : Track}, s.byName[id]? = some track → track.id = id

theorem inStep_empty : empty.InStep where
  nodup := List.nodup_nil
  mem_order := iff_of_false List.not_mem_nil Std.TreeMap.not_mem_emptyc
  id_eq h := by
    rw [empty, Std.TreeMap.getElem?_emptyc] at h
    cases h

variable {s : Shelf} {capacity : Nat}

theorem getElem?_put (s : Shelf) (track : Track) (id : TrackId) :
    (s.put track).byName[id]? = if id = track.id then some track else s.byName[id]? := by
  show (s.byName.insert track.id track)[id]? = _
  rw [Std.TreeMap.getElem?_insert]
  simp only [Std.compare_eq_iff_eq, eq_comm (a := track.id)]

/-- A name is new exactly if it does not stand in the queue. -/
theorem InStep.order_put (h : s.InStep) (track : Track) :
    (s.put track).order = if track.id ∈ s.order then s.order else s.order ++ [track.id] := by
  simp only [Shelf.put, h.mem_order, ← Std.TreeMap.contains_iff_mem]

theorem InStep.put (h : s.InStep) (track : Track) : (s.put track).InStep where
  nodup := by
    rw [h.order_put]
    split
    · exact h.nodup
    · next hnew =>
      refine List.nodup_append.2 ⟨h.nodup, List.pairwise_singleton _ _, ?_⟩
      rintro id hid other hother rfl
      exact hnew (List.mem_singleton.1 hother ▸ hid)
  mem_order {id} := by
    show _ ↔ id ∈ s.byName.insert track.id track
    rw [h.order_put, Std.TreeMap.mem_insert, Std.compare_eq_iff_eq, ← h.mem_order]
    split
    · next hseen => exact ⟨Or.inr, fun hid => hid.elim (fun heq => heq ▸ hseen) fun hid => hid⟩
    · rw [List.mem_append, List.mem_singleton, or_comm, eq_comm]
  id_eq {id t} ht := by
    rw [getElem?_put] at ht
    split at ht
    · next hid => exact Option.some.inj ht ▸ hid.symm
    · exact h.id_eq ht

/-- Without its oldest track, a shelf is still in step. -/
theorem InStep.tail {byName : Std.TreeMap TrackId Track} {oldest : TrackId} {order : List TrackId}
    (h : InStep ⟨byName, oldest :: order⟩) : InStep ⟨byName.erase oldest, order⟩ where
  nodup := h.nodup.tail
  mem_order {id} := by
    have hid : id ∈ oldest :: order ↔ id ∈ byName := h.mem_order
    have holdest := (List.nodup_cons.1 h.nodup).1
    show _ ↔ id ∈ byName.erase oldest
    rw [Std.TreeMap.mem_erase, Ne, Std.compare_eq_iff_eq, ← hid, List.mem_cons]
    constructor
    · exact fun hmem => ⟨fun heq => holdest (heq ▸ hmem), Or.inr hmem⟩
    · exact fun ⟨hne, hmem⟩ => hmem.resolve_left fun heq => hne heq.symm
  id_eq {id t} ht := by
    have ht : (byName.erase oldest)[id]? = some t := ht
    rw [Std.TreeMap.getElem?_erase] at ht
    split at ht
    · cases ht
    · exact h.id_eq ht

theorem InStep.fit (h : s.InStep) : (s.fit capacity).InStep := by
  obtain ⟨byName, order⟩ := s
  show (fitting capacity byName order).InStep
  induction order generalizing byName with
  | nil => exact h
  | cons oldest order ih =>
    unfold fitting
    split
    · exact ih _ h.tail
    · exact h

/-- The newest names are left, as many as fit. -/
theorem order_fit (capacity : Nat) (s : Shelf) :
    (s.fit capacity).order = s.order.drop (s.order.length - capacity) := by
  obtain ⟨byName, order⟩ := s
  show (fitting capacity byName order).order = order.drop (order.length - capacity)
  induction order generalizing byName with
  | nil => exact List.drop_nil.symm
  | cons oldest order ih =>
    unfold fitting
    rw [List.length_cons]
    split
    · next hmany => rw [ih, Nat.sub_add_comm (Nat.le_of_lt_succ hmany), List.drop_succ_cons]
    · next hfits => rw [Nat.sub_eq_zero_of_le (Nat.le_of_not_lt hfits), List.drop_zero]

theorem length_fit_le (capacity : Nat) (s : Shelf) : (s.fit capacity).order.length ≤ capacity := by
  rw [order_fit, List.length_drop]
  omega

end Shelf

/-- The tracks that are remembered. -/
structure TrackCache where
  /-- The number of tracks that fit. -/
  capacity : Nat
  shelf : Shelf
  inStep : shelf.InStep
  fits : shelf.order.length ≤ capacity

namespace TrackCache

/-- An empty cache; at least one track always fits. -/
def new (capacity : Nat) : TrackCache :=
  ⟨max 1 capacity, .empty, Shelf.inStep_empty, Nat.zero_le _⟩

/-- The track of this name, if it is remembered. -/
def get? (cache : TrackCache) (id : TrackId) : Option Track :=
  cache.shelf.byName[id]?

/-- The number of tracks that are remembered. -/
def size (cache : TrackCache) : Nat :=
  cache.shelf.byName.size

/-- Nothing is remembered. -/
def isEmpty (cache : TrackCache) : Bool :=
  cache.shelf.byName.isEmpty

/-- The tracks that are remembered, the oldest first. -/
def tracks (cache : TrackCache) : List Track :=
  cache.shelf.order.filterMap cache.get?

/-- Remembers a track; one that is remembered already keeps its age. -/
def insert (cache : TrackCache) (track : Track) : TrackCache where
  capacity := cache.capacity
  shelf := (cache.shelf.put track).fit cache.capacity
  inStep := (cache.inStep.put track).fit
  fits := Shelf.length_fit_le _ _

/-- Remembers tracks in their order. -/
def insertAll (cache : TrackCache) (tracks : List Track) : TrackCache :=
  tracks.foldl insert cache

end TrackCache
end Jukebox
