import Jukebox.TrackCache
import Mathlib.Data.List.Induction

/-!
# What a cache remembers

A cache remembers nothing but what was put in (`mem_insertAll`), finds each track under its own name, and finds at
least what was put in last (`get?_insert_self`).

A name that is there keeps its place in the queue, a new one goes to the end, and then the oldest leaves if there are
too many (`Placed`).  The age of a name is that of the insert that last brought it in (`LastBroughtIn`), and names leave
by their age:

    the names stand in the queue by the inserts that last brought them in           (aged_insertAll)
    one more track drives out the oldest name if it is new and the cache is full,
      and none otherwise                                                            (first_in_first_out)
-/

namespace Jukebox

/-- What is left is as it was. -/
theorem Shelf.getElem?_fit {s : Shelf} {capacity : Nat} {id : TrackId} (h : s.InStep)
    (hid : id ∈ (s.fit capacity).order) : (s.fit capacity).byName[id]? = s.byName[id]? := by
  obtain ⟨byName, order⟩ := s
  show (fitting capacity byName order).byName[id]? = byName[id]?
  have hid : id ∈ (fitting capacity byName order).order := hid
  induction order generalizing byName with
  | nil => rfl
  | cons oldest order ih =>
    unfold fitting at hid ⊢
    split at hid
    · next hmany =>
      have hkept : id ∈ (fit capacity ⟨byName.erase oldest, order⟩).order := hid
      rw [order_fit] at hkept
      have hne : oldest ≠ id := by
        rintro rfl
        exact (List.nodup_cons.1 h.nodup).1 (List.mem_of_mem_drop hkept)
      rw [if_pos hmany, ih _ h.tail hid hid, Std.TreeMap.getElem?_erase, if_neg (mt Std.compare_eq_iff_eq.1 hne)]
    · next hfits => rw [if_neg hfits]

namespace TrackCache

variable {cache : TrackCache} {track x : Track} {tracks history : List Track} {id other : TrackId} {capacity : Nat}

/-! ## Names and tracks -/

theorem get?_eq_none : cache.get? id = none ↔ id ∉ cache.shelf.order := by
  rw [cache.inStep.mem_order, Std.TreeMap.mem_iff_isSome_getElem?, Option.not_isSome_iff_eq_none]
  rfl

theorem mem_order : id ∈ cache.shelf.order ↔ cache.get? id ≠ none := by
  rw [Ne, get?_eq_none, Decidable.not_not]

theorem get?_eq_some (h : cache.get? id = some track) : track ∈ cache.tracks ∧ track.id = id := by
  have hid : id ∈ cache.shelf.order := mem_order.2 (h ▸ Option.some_ne_none track)
  exact ⟨List.mem_filterMap.2 ⟨id, hid, h⟩, cache.inStep.id_eq h⟩

theorem get?_of_mem (h : track ∈ cache.tracks) : cache.get? track.id = some track := by
  obtain ⟨id, -, hget⟩ := List.mem_filterMap.1 h
  rw [(get?_eq_some hget).2]
  exact hget

/-- The queue holds the names of the tracks, and nothing else. -/
theorem perm_keys (cache : TrackCache) : cache.shelf.order.Perm cache.shelf.byName.keys := by
  refine (List.perm_ext_iff_of_nodup cache.inStep.nodup Std.TreeMap.nodup_keys).2 fun id => ?_
  rw [Std.TreeMap.mem_keys, cache.inStep.mem_order]

theorem size_eq (cache : TrackCache) : cache.size = cache.shelf.order.length := by
  rw [size, ← Std.TreeMap.length_keys, cache.perm_keys.length_eq]

/-! ## One more track -/

theorem capacity_insert (cache : TrackCache) (track : Track) :
    (cache.insert track).capacity = cache.capacity := rfl

theorem order_insert (cache : TrackCache) (track : Track) : (cache.insert track).shelf.order =
    (cache.shelf.put track).order.drop ((cache.shelf.put track).order.length - cache.capacity) :=
  Shelf.order_fit _ _

/-- What becomes of the queue as a track is put in. -/
inductive Placed (cache : TrackCache) (track : Track) : Prop
  /-- A track of this name is there already. -/
  | kept (hseen : track.id ∈ cache.shelf.order) (horder : (cache.insert track).shelf.order = cache.shelf.order)
  | added (hnew : track.id ∉ cache.shelf.order) (hroom : cache.shelf.order.length < cache.capacity)
      (horder : (cache.insert track).shelf.order = cache.shelf.order ++ [track.id])
  /-- The oldest makes room. -/
  | evicted {oldest : TrackId} {rest : List TrackId} (hnew : track.id ∉ cache.shelf.order)
      (hfull : cache.shelf.order.length = cache.capacity) (holdest : cache.shelf.order = oldest :: rest)
      (horder : (cache.insert track).shelf.order = rest ++ [track.id])

theorem placed (hcapacity : 0 < cache.capacity) (track : Track) : Placed cache track := by
  have horder := cache.order_insert track
  rw [cache.inStep.order_put] at horder
  by_cases hseen : track.id ∈ cache.shelf.order
  · rw [if_pos hseen, Nat.sub_eq_zero_of_le cache.fits, List.drop_zero] at horder
    exact .kept hseen horder
  · rw [if_neg hseen, List.length_append, List.length_singleton] at horder
    rcases Nat.lt_or_eq_of_le cache.fits with hroom | hfull
    · rw [Nat.sub_eq_zero_of_le hroom, List.drop_zero] at horder
      exact .added hseen hroom horder
    · rw [hfull, Nat.add_sub_cancel_left] at horder
      cases holdest : cache.shelf.order with
      | nil =>
        rw [← hfull, holdest] at hcapacity
        exact absurd hcapacity (Nat.lt_irrefl 0)
      | cons oldest rest =>
        rw [holdest] at horder
        exact .evicted hseen hfull holdest horder

theorem Placed.mem_order (h : Placed cache track) : track.id ∈ (cache.insert track).shelf.order := by
  cases h with
  | kept hseen horder =>
    rw [horder]
    exact hseen
  | added hnew hroom horder | evicted hnew hfull holdest horder =>
    rw [horder]
    exact List.mem_append_right _ (List.mem_singleton_self _)

/-- The tracks whose names stand in the queue afterwards are those of before, but for the one that was put in. -/
theorem get?_insert (cache : TrackCache) (track : Track) (id : TrackId) : (cache.insert track).get? id =
    if id ∈ (cache.insert track).shelf.order then if id = track.id then some track else cache.get? id else none := by
  split
  · next hid => exact (Shelf.getElem?_fit (cache.inStep.put track) hid).trans (Shelf.getElem?_put _ _ _)
  · next hid => exact get?_eq_none.2 hid

/-- Nothing comes in but what is put in. -/
theorem mem_insert (h : x ∈ (cache.insert track).tracks) : x = track ∨ x ∈ cache.tracks := by
  have hget := get?_of_mem h
  rw [get?_insert] at hget
  split at hget
  · split at hget
    · exact Or.inl (Option.some.inj hget).symm
    · exact Or.inr (get?_eq_some hget).1
  · cases hget

theorem mem_insertAll (h : x ∈ (cache.insertAll tracks).tracks) : x ∈ tracks ∨ x ∈ cache.tracks := by
  induction tracks generalizing cache with
  | nil => exact Or.inr h
  | cons track tracks ih =>
    rcases ih h with htracks | hinsert
    · exact Or.inl (List.mem_cons_of_mem _ htracks)
    · rcases mem_insert hinsert with rfl | hold
      · exact Or.inl List.mem_cons_self
      · exact Or.inr hold

theorem capacity_insertAll (cache : TrackCache) (tracks : List Track) :
    (cache.insertAll tracks).capacity = cache.capacity := by
  induction tracks generalizing cache with
  | nil => rfl
  | cons track tracks ih => exact (ih _).trans (capacity_insert cache track)

/-- A track that is put in can be found, as at least one track fits. -/
theorem get?_insert_self (hcapacity : 0 < cache.capacity) (track : Track) :
    (cache.insert track).get? track.id = some track := by
  rw [get?_insert, if_pos (placed hcapacity track).mem_order, if_pos rfl]

/-! ## A history of tracks -/

theorem insertAll_concat (cache : TrackCache) (history : List Track) (track : Track) :
    cache.insertAll (history ++ [track]) = (cache.insertAll history).insert track :=
  List.foldl_append

theorem capacity_pos (capacity : Nat) (history : List Track) : 0 < ((new capacity).insertAll history).capacity := by
  rw [capacity_insertAll]
  exact Nat.le_max_left 1 capacity

/-- What is found under a name is the track that was put in last under it. -/
theorem find?_of_get? (h : ((new capacity).insertAll history).get? id = some track) :
    history.reverse.find? (·.id == id) = some track := by
  induction history using List.reverseRecOn with
  | nil => cases h
  | append_singleton history newest ih =>
    rw [insertAll_concat, get?_insert] at h
    rw [List.reverse_concat, List.find?_cons]
    split at h
    · split at h
      · next hid =>
        rw [beq_iff_eq.2 hid.symm]
        exact h
      · next hid =>
        rw [beq_eq_false_iff_ne.2 (Ne.symm hid)]
        exact ih h
    · cases h

/-- With the track after `n` others, the name came in, since it was not remembered then. -/
def BroughtIn (capacity : Nat) (history : List Track) (id : TrackId) (n : Nat) : Prop :=
  (∃ track, history[n]? = some track ∧ track.id = id) ∧
    ((new capacity).insertAll (history.take n)).get? id = none

/-- With the track after `n` others, the name came in for the last time. -/
def LastBroughtIn (capacity : Nat) (history : List Track) (id : TrackId) (n : Nat) : Prop :=
  BroughtIn capacity history id n ∧ ∀ m, BroughtIn capacity history id m → m ≤ n

variable {m n : Nat}

theorem BroughtIn.lt_length (h : BroughtIn capacity history id n) : n < history.length := by
  obtain ⟨⟨track, htrack, -⟩, -⟩ := h
  exact (List.getElem?_eq_some_iff.1 htrack).1

theorem broughtIn_concat : BroughtIn capacity (history ++ [track]) id n ↔
    BroughtIn capacity history id n ∨
      n = history.length ∧ track.id = id ∧ ((new capacity).insertAll history).get? id = none := by
  rcases Nat.lt_trichotomy n history.length with hlt | rfl | hgt
  · unfold BroughtIn
    rw [List.getElem?_append_left hlt, List.take_append_of_le_length (Nat.le_of_lt hlt)]
    simp [Nat.ne_of_lt hlt]
  · have hno : ¬ BroughtIn capacity history id history.length := fun h => Nat.lt_irrefl _ h.lt_length
    rw [or_iff_right hno]
    simp [BroughtIn]
  · have hno : ¬ BroughtIn capacity history id n := fun h => Nat.lt_asymm hgt h.lt_length
    have hno' : ¬ BroughtIn capacity (history ++ [track]) id n := by
      intro h
      have hlt := h.lt_length
      rw [List.length_append, List.length_singleton] at hlt
      omega
    exact iff_of_false hno' (not_or.2 ⟨hno, fun h => Nat.ne_of_gt hgt h.1⟩)

/-- A name that comes in now has not come in later. -/
theorem lastBroughtIn_concat_of_new (hnew : ((new capacity).insertAll history).get? track.id = none) :
    LastBroughtIn capacity (history ++ [track]) track.id n ↔ n = history.length := by
  have hnow : BroughtIn capacity (history ++ [track]) track.id history.length :=
    broughtIn_concat.2 (Or.inr ⟨rfl, rfl, hnew⟩)
  constructor
  · intro h
    have hlt := h.1.lt_length
    rw [List.length_append, List.length_singleton] at hlt
    exact Nat.le_antisymm (Nat.le_of_lt_succ hlt) (h.2 _ hnow)
  · rintro rfl
    refine ⟨hnow, fun m hm => ?_⟩
    have hlt := hm.lt_length
    rw [List.length_append, List.length_singleton] at hlt
    exact Nat.le_of_lt_succ hlt

/-- The age of a name that is remembered is not renewed. -/
theorem lastBroughtIn_concat_of_seen (hseen : ((new capacity).insertAll history).get? id ≠ none) :
    LastBroughtIn capacity (history ++ [track]) id n ↔ LastBroughtIn capacity history id n := by
  simp [LastBroughtIn, broughtIn_concat, hseen]

/-- The names stand in the queue by the inserts that last brought them in. -/
structure Aged (capacity : Nat) (history : List Track) : Prop where
  brought : ∀ id ∈ ((new capacity).insertAll history).shelf.order, ∃ n, LastBroughtIn capacity history id n
  sorted : ((new capacity).insertAll history).shelf.order.Pairwise fun older newer =>
    ∀ m n, LastBroughtIn capacity history older m → LastBroughtIn capacity history newer n → m < n

/-- The age of the other names is as before. -/
theorem Aged.of_sublist (h : Aged capacity history) {order : List TrackId}
    (horder : order.Sublist ((new capacity).insertAll history).shelf.order) (track : Track) :
    (∀ id ∈ order, ∃ n, LastBroughtIn capacity (history ++ [track]) id n) ∧
      order.Pairwise fun older newer => ∀ m n, LastBroughtIn capacity (history ++ [track]) older m →
        LastBroughtIn capacity (history ++ [track]) newer n → m < n := by
  have hsame : ∀ id ∈ order, ∀ n,
      LastBroughtIn capacity (history ++ [track]) id n ↔ LastBroughtIn capacity history id n :=
    fun id hid n => lastBroughtIn_concat_of_seen (mem_order.1 (horder.subset hid))
  constructor
  · intro id hid
    simp only [hsame id hid]
    exact h.brought id (horder.subset hid)
  · refine (h.sorted.sublist horder).imp_of_mem fun {older newer} holder hnewer hlt m n => ?_
    rw [hsame older holder, hsame newer hnewer]
    exact hlt m n

/-- A new name goes behind all others. -/
theorem Aged.concat (h : Aged capacity history) {order : List TrackId}
    (horder : order.Sublist ((new capacity).insertAll history).shelf.order)
    (hnew : track.id ∉ ((new capacity).insertAll history).shelf.order)
    (hinsert : ((new capacity).insertAll (history ++ [track])).shelf.order = order ++ [track.id]) :
    Aged capacity (history ++ [track]) := by
  have hlast := fun n => lastBroughtIn_concat_of_new (n := n) (get?_eq_none.2 hnew)
  obtain ⟨hbrought, hsorted⟩ := h.of_sublist horder track
  constructor
  · rw [hinsert, List.forall_mem_append, List.forall_mem_singleton]
    exact ⟨hbrought, history.length, (hlast _).2 rfl⟩
  · rw [hinsert, List.pairwise_append]
    refine ⟨hsorted, List.pairwise_singleton _ _, fun older holder newer hnewer m n hm hn => ?_⟩
    obtain rfl := List.mem_singleton.1 hnewer
    rw [(hlast n).1 hn]
    rw [lastBroughtIn_concat_of_seen (mem_order.1 (horder.subset holder))] at hm
    exact hm.1.lt_length

theorem aged_insertAll (capacity : Nat) (history : List Track) : Aged capacity history := by
  induction history using List.reverseRecOn with
  | nil => exact ⟨fun id hid => absurd hid List.not_mem_nil, List.Pairwise.nil⟩
  | append_singleton history track ih =>
    have hconcat := insertAll_concat (new capacity) history track
    cases placed (capacity_pos capacity history) track with
    | kept hseen horder =>
      rw [← hconcat] at horder
      obtain ⟨hbrought, hsorted⟩ := ih.of_sublist (List.Sublist.refl _) track
      rw [← horder] at hbrought hsorted
      exact ⟨hbrought, hsorted⟩
    | added hnew hroom horder =>
      rw [← hconcat] at horder
      exact ih.concat (List.Sublist.refl _) hnew horder
    | evicted hnew hfull holdest horder =>
      rw [← hconcat] at horder
      exact ih.concat (holdest ▸ List.sublist_cons_self _ _) hnew horder

/-! ## Who leaves -/

/-- Of the names that are remembered, none came in before this one. -/
def Oldest (capacity : Nat) (history : List Track) (id : TrackId) : Prop :=
  ((new capacity).insertAll history).get? id ≠ none ∧
    ∀ other, ((new capacity).insertAll history).get? other ≠ none →
      ∀ m n, LastBroughtIn capacity history id m → LastBroughtIn capacity history other n → m ≤ n

theorem LastBroughtIn.unique (hm : LastBroughtIn capacity history id m) (hn : LastBroughtIn capacity history id n) :
    m = n :=
  Nat.le_antisymm (hn.2 m hm.1) (hm.2 n hn.1)

/-- The oldest name stands at the head of the queue. -/
theorem head?_eq_some_iff :
    ((new capacity).insertAll history).shelf.order.head? = some id ↔ Oldest capacity history id := by
  obtain ⟨hbrought, hsorted⟩ := aged_insertAll capacity history
  unfold Oldest
  simp only [← mem_order]
  cases horder : ((new capacity).insertAll history).shelf.order with
  | nil => simp
  | cons oldest rest =>
    rw [horder] at hbrought hsorted
    have hfirst := (List.pairwise_cons.1 hsorted).1
    rw [List.head?_cons, Option.some.injEq]
    constructor
    · rintro rfl
      refine ⟨List.mem_cons_self, fun other hother m n hm hn => ?_⟩
      rcases List.mem_cons.1 hother with rfl | hother
      · exact Nat.le_of_eq (hm.unique hn)
      · exact Nat.le_of_lt (hfirst other hother m n hm hn)
    · rintro ⟨hid, hleast⟩
      rcases List.mem_cons.1 hid with rfl | hrest
      · rfl
      · obtain ⟨m, hm⟩ := hbrought id hid
        obtain ⟨n, hn⟩ := hbrought oldest List.mem_cons_self
        exact absurd (hleast oldest List.mem_cons_self m n hm hn) (Nat.not_le_of_lt (hfirst id hrest n m hn hm))

/-- The name is remembered, but not any more as soon as the track is put in. -/
def Leaves (cache : TrackCache) (track : Track) (id : TrackId) : Prop :=
  cache.get? id ≠ none ∧ (cache.insert track).get? id = none

/-- Only a new name in a full cache drives another one out, and that is the head of the queue. -/
theorem leaves_iff (hcapacity : 0 < cache.capacity) : Leaves cache track id ↔
    cache.get? track.id = none ∧ cache.size = cache.capacity ∧ cache.shelf.order.head? = some id := by
  unfold Leaves
  rw [size_eq, ← mem_order, get?_eq_none, get?_eq_none]
  cases placed hcapacity track with
  | kept hseen horder => simp [horder, hseen]
  | added hnew hroom horder =>
    rw [horder]
    have hleft : ¬ (id ∈ cache.shelf.order ∧ id ∉ cache.shelf.order ++ [track.id]) :=
      fun h => h.2 (List.mem_append_left _ h.1)
    exact iff_of_false hleft fun h => Nat.ne_of_lt hroom h.2.1
  | @evicted oldest rest hnew hfull holdest horder =>
    have hnodup := cache.inStep.nodup
    rw [holdest] at hnodup hnew
    rw [horder, hfull, holdest, List.head?_cons, Option.some.injEq, List.mem_append, List.mem_singleton]
    constructor
    · rintro ⟨hid, hgone⟩
      refine ⟨hnew, rfl, ?_⟩
      rcases List.mem_cons.1 hid with rfl | hrest
      · rfl
      · exact absurd (Or.inl hrest) hgone
    · rintro ⟨-, -, rfl⟩
      refine ⟨List.mem_cons_self, fun hid => ?_⟩
      rcases hid with hrest | heq
      · exact (List.nodup_cons.1 hnodup).1 hrest
      · exact hnew (heq ▸ List.mem_cons_self)

/-- **First in, first out.**  Let tracks be put into a new cache one after the other.  The queue then holds the names
of the tracks that are remembered, each of them once, and no more than fit.  What is found under a name has this name
and was put in last under it.  The names stand in the queue by the inserts that last brought them in, so that the
oldest stands at its head.  If one more track is put in, it is found.  A name leaves then exactly if the track is new,
the cache is full and the name is the oldest; a track that is remembered already changes nothing in the queue. -/
theorem first_in_first_out (capacity : Nat) (history : List Track) :
    let cache := (new capacity).insertAll history
    (cache.shelf.order.Nodup ∧ cache.shelf.order.Perm cache.shelf.byName.keys ∧ cache.size ≤ max 1 capacity) ∧
      (∀ id track, cache.get? id = some track →
        track.id = id ∧ history.reverse.find? (·.id == id) = some track) ∧
      (Aged capacity history ∧ ∀ id, cache.shelf.order.head? = some id ↔ Oldest capacity history id) ∧
      ∀ track, (cache.insert track).get? track.id = some track ∧
        (∀ id, Leaves cache track id ↔
          cache.get? track.id = none ∧ cache.size = max 1 capacity ∧ Oldest capacity history id) ∧
        (cache.get? track.id ≠ none → (cache.insert track).shelf.order = cache.shelf.order) := by
  intro cache
  have hcapacity : cache.capacity = max 1 capacity := capacity_insertAll _ _
  have hpos : 0 < cache.capacity := capacity_pos capacity history
  refine ⟨⟨cache.inStep.nodup, cache.perm_keys, ?_⟩, fun id track hget => ?_,
    ⟨aged_insertAll capacity history, fun id => head?_eq_some_iff⟩, fun track => ⟨?_, fun id => ?_, fun hseen => ?_⟩⟩
  · rw [size_eq, ← hcapacity]
    exact cache.fits
  · exact ⟨(get?_eq_some hget).2, find?_of_get? hget⟩
  · exact get?_insert_self hpos track
  · rw [leaves_iff hpos, hcapacity, head?_eq_some_iff]
  · cases placed hpos track with
    | kept _ horder => exact horder
    | added hnew | evicted hnew => exact absurd (mem_order.2 hseen) hnew

/-- The first of two tracks leaves for a third, though it was put in again after the second. -/
example :
    let track (name title : String) : Track := ⟨⟨name⟩, title, "", "", 1000, ""⟩
    let cache := (new 2).insertAll [track "a" "A", track "b" "B", track "a" "A2", track "c" "C"]
    cache.tracks = [track "b" "B", track "c" "C"] := by
  decide

end TrackCache
end Jukebox
