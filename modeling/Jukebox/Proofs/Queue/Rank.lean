import Jukebox.Queue.Entry
import Mathlib.Data.List.Pairwise
import Mathlib.Data.List.Sort

/-!
# The order of a queue

Entries are compared by votes, most first, and then by sequence number.  A list of entries is
`Ranked` if each entry strictly outranks the ones behind it.  Ranking a list whose sequence numbers
are pairwise different makes it `Ranked` (`ranked_rank`), and there is only one such order:

    l ~ l' → Ranked l → l' in rank order → l' = l      (Ranked.eq_of_perm)
-/

namespace Jukebox.Queue.Entry

/-- More votes come first, and among as many the smaller sequence number. -/
theorem compareRank_eq_lt {a b : Entry} :
    a.compareRank b = .lt ↔ b.score < a.score ∨ a.score = b.score ∧ a.sequence < b.sequence := by
  unfold compareRank
  rw [Ordering.then_eq_lt, Std.compare_eq_lt, compare_eq_iff_eq, eq_comm,
    Std.compare_eq_lt]

theorem precedes_iff {a b : Entry} :
    a.precedes b = true ↔ b.score < a.score ∨ a.score = b.score ∧ a.sequence ≤ b.sequence := by
  unfold precedes compareRank
  rw [Ordering.isLE_then_iff_or, Std.compare_eq_lt, compare_eq_iff_eq, eq_comm,
    Std.isLE_compare]

theorem precedes_trans (a b c : Entry) (hab : a.precedes b) (hbc : b.precedes c) :
    a.precedes c := by
  rw [precedes_iff] at *
  grind

theorem precedes_total (a b : Entry) : (a.precedes b || b.precedes a) = true := by
  rw [Bool.or_eq_true, precedes_iff, precedes_iff]
  grind

/-- Entries of different numbers are never of equal rank. -/
theorem compareRank_eq_lt_of_precedes {a b : Entry} (h : a.precedes b)
    (hne : a.sequence ≠ b.sequence) : a.compareRank b = .lt := by
  rw [precedes_iff] at h
  rw [compareRank_eq_lt]
  grind

theorem precedes_of_compareRank_eq_lt {a b : Entry} (h : a.compareRank b = .lt) :
    a.precedes b := by
  simp [precedes, h]

/-! ## Ranking -/

theorem rank_perm (l : List Entry) : (rank l).Perm l :=
  List.mergeSort_perm l precedes

@[simp]
theorem mem_rank {l : List Entry} {e : Entry} : e ∈ rank l ↔ e ∈ l :=
  (rank_perm l).mem_iff

theorem pairwise_rank (l : List Entry) : (rank l).Pairwise fun a b => a.precedes b :=
  List.pairwise_mergeSort precedes_trans precedes_total l

/-- Each entry strictly outranks all entries behind it. -/
def Ranked (l : List Entry) : Prop :=
  l.Pairwise fun a b => a.compareRank b = .lt

theorem Ranked.precedes {l : List Entry} (h : Ranked l) : l.Pairwise fun a b => a.precedes b :=
  h.imp precedes_of_compareRank_eq_lt

theorem Ranked.sublist {l l' : List Entry} (h : Ranked l) (hs : l'.Sublist l) : Ranked l' :=
  List.Pairwise.sublist hs h

/-- Different sequence numbers leave no two entries of equal rank. -/
theorem ranked_rank {l : List Entry} (h : (l.map Entry.sequence).Nodup) : Ranked (rank l) := by
  have hd : ((rank l).map Entry.sequence).Nodup := ((rank_perm l).map _).nodup_iff.2 h
  exact (pairwise_rank l).imp₂ (fun _ _ => compareRank_eq_lt_of_precedes)
    (List.pairwise_map.1 hd)

/-- The order of a ranked list is the only one its entries can be ranked in. -/
theorem Ranked.eq_of_perm {l l' : List Entry} (h : Ranked l) (hp : l'.Perm l)
    (hl : l'.Pairwise fun a b => a.precedes b) : l' = l := by
  have hsymm : Std.Symm fun x y : Entry => x.compareRank y = .lt ∨ y.compareRank x = .lt :=
    ⟨fun _ _ => Or.symm⟩
  have hone : l.Pairwise fun x y => x.compareRank y = .lt ∨ y.compareRank x = .lt := h.imp Or.inl
  refine hp.eq_of_pairwise ?_ hl h.precedes
  intro a b ha hb hab hba
  apply Classical.byContradiction
  intro hne
  rw [precedes_iff] at hab hba
  have hlt := hone.forall (hp.mem_iff.1 ha) hb hne
  rw [compareRank_eq_lt, compareRank_eq_lt] at hlt
  grind

/-- How a list stood before makes no difference to its ranking. -/
theorem rank_congr {l l' : List Entry} (hp : l.Perm l') (h : (l.map Entry.sequence).Nodup) :
    rank l = rank l' :=
  ((ranked_rank h).eq_of_perm ((rank_perm l').trans (hp.symm.trans (rank_perm l).symm))
    (pairwise_rank l')).symm

/-- Leaving entries out before or after ranking makes no difference. -/
theorem filter_rank {l : List Entry} (p : Entry → Bool) (h : (l.map Entry.sequence).Nodup) :
    (rank l).filter p = rank (l.filter p) := by
  have hd : ((l.filter p).map Entry.sequence).Nodup := h.sublist (List.filter_sublist.map _)
  refine (ranked_rank hd).eq_of_perm ?_ ((pairwise_rank l).sublist List.filter_sublist)
  exact ((rank_perm l).filter p).trans (rank_perm _).symm

theorem Ranked.rank_eq {l : List Entry} (h : Ranked l) : rank l = l :=
  h.eq_of_perm (rank_perm l) (pairwise_rank l)

end Jukebox.Queue.Entry
