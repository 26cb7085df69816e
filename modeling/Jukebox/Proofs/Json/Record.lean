import Jukebox.Json.Record

/-!
# Records that were written

A record is written as an object with a member for each field.  If its keys are different, each field is
found again, whether all fields of the object are asked for or some of them (`recordOfMembers_map`), and each
value is read as it was written, numbers in words of 64 or 8 bits among them (`uint64?_ofNat`,
`uint8?_ofNat`).  Plain members, which hold neither arrays nor objects, may be passed over by any reader
(`membersSound_map`, `depthOfMembers_map`).
-/

namespace Jukebox.Json

/-! ## Values of fields -/

@[simp]
theorem text?_ofText (s : String) : text? (ofText s) = some s := rfl

@[simp]
theorem bool?_bool (b : Bool) : bool? (.bool b) = some b := rfl

theorem integer?_ofNat {n : Nat} {high : Int} (h : (n : Int) ≤ high) :
    integer? 0 high (ofNat n) = some n := by
  simp [integer?, ofNat, h]

@[simp]
theorem uint64?_ofNat (n : UInt64) : uint64? (ofNat n.toNat) = some n := by
  have hn := n.toNat_lt
  rw [uint64?, integer?_ofNat (by omega)]
  simp

@[simp]
theorem uint8?_ofNat (n : UInt8) : uint8? (ofNat n.toNat) = some n := by
  have hn := n.toNat_lt
  rw [uint8?, integer?_ofNat (by omega)]
  simp

@[simp]
theorem word?_ofText {α : Type} (ofName? : String → Option α) (s : String) :
    word? ofName? (ofText s) = ofName? s := rfl

@[simp]
theorem required_some {α : Type} (decode : Json → Option α) (j : Json) :
    required decode (some j) = decode j := rfl

/-- What is there is read as it was written if nothing is written as null. -/
theorem optional_ofOption {α : Type} {decode : Json → Option α} {f : α → Json}
    (hnull : ∀ a, f a ≠ .null) (hf : ∀ a, decode (f a) = some a) (v : Option α) :
    optional decode (some (.ofOption f v)) = some v := by
  cases v with
  | none => rfl
  | some a =>
    show nullable decode (f a) = some (some a)
    unfold nullable
    split
    · next h => exact absurd h (hnull a)
    · rw [hf]
      rfl

/-! ## Members -/

theorem valuesOf_map {members : List (String × Json)} (h : (members.map Prod.fst).Nodup)
    (name : String) :
    valuesOf (members.map fun (key, value) => (some key, value)) name =
      (members.lookup name).toList := by
  induction members with
  | nil => rfl
  | cons m rest ih =>
    obtain ⟨key, value⟩ := m
    obtain ⟨hkey, hrest⟩ := List.nodup_cons.1 h
    have htail := ih hrest
    by_cases heq : key = name
    · subst heq
      have hnone : rest.lookup key = none := by
        rw [List.lookup_eq_none_iff]
        intro p hp
        have hne : key ≠ p.1 := fun heq => hkey (List.mem_map.2 ⟨p, hp, heq.symm⟩)
        simpa using hne
      simp [hnone, valuesOf] at htail ⊢
      exact htail
    · have hne : (name == key) = false := by simpa using fun e : name = key => heq e.symm
      simp [valuesOf, heq, List.lookup_cons, hne] at htail ⊢
      exact htail

/-- Fields are found in the members that they were written as, others among them. -/
theorem recordOfMembers_map {members : List (String × Json)} (h : (members.map Prod.fst).Nodup)
    (names : List String) :
    recordOfMembers names (members.map fun (key, value) => (some key, value)) =
      some (names.map fun name => members.lookup name) := by
  unfold recordOfMembers
  rw [if_pos]
  case hc => simp
  refine Eq.trans (congrArg (names.mapM ·) (funext fun name => ?_)) List.mapM_pure
  rw [valuesOf_map h]
  cases members.lookup name <;> rfl

theorem record_ofMembers {members : List (String × Json)} (h : (members.map Prod.fst).Nodup)
    (names : List String) (needed : Nat) :
    (ofMembers members).record names needed = some (names.map fun name => members.lookup name) :=
  recordOfMembers_map h names

/-! ## What may be passed over -/

theorem overflows_integer {n : Nat} (h : n < UInt64.size) : Number.overflows (.integer n) = false := by
  have hlimit : UInt64.size < Text.Binary64.limit := by decide +kernel
  simp only [Number.overflows, Text.Binary64.overflows, Int.natAbs_natCast]
  split
  · rfl
  · have hbelow : ¬Text.Binary64.limit ≤ n := by omega
    simp [hbelow]

/-- The value holds nothing within, and every reader can hold it. -/
def IsPlain (j : Json) : Prop :=
  j.depth = 0 ∧ j.isSound = true

@[simp]
theorem isPlain_ofText (s : String) : (ofText s).IsPlain := ⟨rfl, rfl⟩

@[simp]
theorem isPlain_bool (b : Bool) : (Json.bool b).IsPlain := ⟨rfl, rfl⟩

theorem isPlain_ofNat {n : Nat} (h : n < UInt64.size) : (ofNat n).IsPlain :=
  ⟨rfl, by simp [ofNat, isSound, overflows_integer h]⟩

theorem depthOfMembers_map {members : List (String × Json)} (h : ∀ m ∈ members, m.2.IsPlain) :
    depthOfMembers (members.map fun (key, value) => (some key, value)) = 0 := by
  induction members with
  | nil => rfl
  | cons m rest ih =>
    obtain ⟨hm, hrest⟩ := List.forall_mem_cons.1 h
    simp [depthOfMembers, hm.1, ih hrest]

theorem membersSound_map {members : List (String × Json)} (h : ∀ m ∈ members, m.2.IsPlain) :
    membersSound (members.map fun (key, value) => (some key, value)) = true := by
  induction members with
  | nil => rfl
  | cons m rest ih =>
    obtain ⟨hm, hrest⟩ := List.forall_mem_cons.1 h
    simp [membersSound, hm.2, ih hrest]

end Jukebox.Json
