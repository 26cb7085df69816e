/-!
Natural numbers in decimal digits.

Main statements: `digits` writes digits only and never none (`digits_all`, `digits_ne_nil`), no needless
zero in front (`eq_nil_of_digits_eq_zero_cons`) and no more than are needed (`length_digits_le`), and
`value` reads back what was written (`value_digits`), also with zeros in front (`value_padded`).  A row
of digits ends where something else follows (`span_append`).
-/

namespace Jukebox.Text.Decimal

/-- The digit for a number below ten. -/
def digit (n : Nat) : Char :=
  Char.ofNat ('0'.toNat + n)

/-- The number for which a digit stands. -/
def digitValue (c : Char) : Nat :=
  c.toNat - '0'.toNat

/-- The digits of a number, without zeros in front. -/
def digits (n : Nat) : List Char :=
  if n < 10 then [digit n] else digits (n / 10) ++ [digit (n % 10)]

/-- The digits of a number with zeros in front, up to `width` digits. -/
def padded (width n : Nat) : List Char :=
  List.replicate (width - (digits n).length) '0' ++ digits n

/-- The number that a row of digits writes, following `acc`. -/
def valueFrom (acc : Nat) (cs : List Char) : Nat :=
  cs.foldl (fun n c => 10 * n + digitValue c) acc

/-- The number that a row of digits writes. -/
def value (cs : List Char) : Nat :=
  valueFrom 0 cs

/-- The digits at the start of a text, and the rest. -/
def span (cs : List Char) : List Char × List Char :=
  (cs.takeWhile Char.isDigit, cs.dropWhile Char.isDigit)

/-! ## Laws -/

theorem digit_cases {P : Nat → Prop} {n : Nat} (h : n < 10)
    (all : ∀ k : Fin 10, P k.val) : P n :=
  all ⟨n, h⟩

theorem isDigit_digit {n : Nat} (h : n < 10) : (digit n).isDigit = true :=
  digit_cases (P := fun k => (digit k).isDigit = true) h (by decide)

theorem digitValue_digit {n : Nat} (h : n < 10) : digitValue (digit n) = n :=
  digit_cases (P := fun k => digitValue (digit k) = k) h (by decide)

theorem digits_ne_nil (n : Nat) : digits n ≠ [] := by
  unfold digits
  split <;> simp

theorem digits_all (n : Nat) : ∀ c ∈ digits n, c.isDigit = true := by
  induction n using digits.induct with
  | case1 n h =>
    unfold digits
    simpa [h] using isDigit_digit h
  | case2 n h ih =>
    unfold digits
    simp only [h, if_false, List.mem_append, List.mem_singleton]
    rintro c (hc | rfl)
    · exact ih c hc
    · exact isDigit_digit (Nat.mod_lt _ (by decide))

theorem valueFrom_append (acc : Nat) (a b : List Char) :
    valueFrom acc (a ++ b) = valueFrom (valueFrom acc a) b := by
  simp [valueFrom]

/-- Reading gives back the number that was written. -/
@[simp]
theorem value_digits (n : Nat) : value (digits n) = n := by
  induction n using digits.induct with
  | case1 n h =>
    unfold digits
    simp [h, value, valueFrom, digitValue_digit h]
  | case2 n h ih =>
    unfold digits
    rw [if_neg h, value, valueFrom_append]
    change valueFrom (value (digits (n / 10))) [digit (n % 10)] = n
    rw [ih]
    simp [valueFrom, digitValue_digit (Nat.mod_lt n (by decide : 0 < 10))]
    omega

theorem valueFrom_zeros (k : Nat) (cs : List Char) :
    valueFrom 0 (List.replicate k '0' ++ cs) = valueFrom 0 cs := by
  induction k with
  | zero => rfl
  | succ k ih => exact ih

/-- Zeros in front do not change what is read. -/
@[simp]
theorem value_padded (width n : Nat) : value (padded width n) = n := by
  unfold padded value
  rw [valueFrom_zeros]
  exact value_digits n

/-! ### Single digits and rows of them -/

theorem exists_digit_of_isDigit {c : Char} (h : c.isDigit = true) :
    ∃ k : Fin 10, c = digit k.val := by
  have hrange : 48 ≤ c.toNat ∧ c.toNat ≤ 57 := by
    simp only [Char.isDigit, Bool.and_eq_true, decide_eq_true_eq, UInt32.le_iff_toNat_le] at h
    exact h
  refine ⟨⟨c.toNat - 48, by omega⟩, ?_⟩
  have hvalue : '0'.toNat + (c.toNat - 48) = c.toNat := by
    show 48 + (c.toNat - 48) = c.toNat
    omega
  rw [digit, hvalue, Char.ofNat_toNat]

theorem exists_digits_eq_cons (n : Nat) :
    ∃ c cs, digits n = c :: cs ∧ c.isDigit = true := by
  cases h : digits n with
  | nil => exact absurd h (digits_ne_nil n)
  | cons c cs => exact ⟨c, cs, rfl, digits_all n c (by simp [h])⟩

/-- Only zero is written with a zero in front. -/
theorem eq_nil_of_digits_eq_zero_cons {n : Nat} {cs : List Char} (h : digits n = '0' :: cs) :
    cs = [] := by
  induction n using digits.induct generalizing cs with
  | case1 n hn =>
    rw [digits, if_pos hn] at h
    exact (List.cons.inj h).2.symm
  | case2 n hn ih =>
    rw [digits, if_neg hn] at h
    cases hd : digits (n / 10) with
    | nil => exact absurd hd (digits_ne_nil _)
    | cons c ds =>
      rw [hd] at h
      obtain ⟨rfl, -⟩ := List.cons.inj h
      have hnil := ih hd
      have hzero := value_digits (n / 10)
      rw [hd, hnil] at hzero
      have hpos : n / 10 = 0 := hzero.symm
      omega

theorem length_digits_le {n width : Nat} (hwidth : 0 < width) (h : n < Nat.pow 10 width) :
    (digits n).length ≤ width := by
  induction n using digits.induct generalizing width with
  | case1 n hn =>
    rw [digits, if_pos hn]
    exact hwidth
  | case2 n hn ih =>
    obtain ⟨k, rfl⟩ : ∃ k, width = k + 1 := ⟨width - 1, by omega⟩
    have hten : n < Nat.pow 10 k * 10 := h
    have hk : 0 < k := by
      rcases Nat.eq_zero_or_pos k with rfl | hk
      · exact absurd hten hn
      · exact hk
    have hlength := ih hk (by omega)
    rw [digits, if_neg hn, List.length_append]
    exact Nat.succ_le_succ hlength

theorem length_padded {n width : Nat} (hwidth : 0 < width) (h : n < Nat.pow 10 width) :
    (padded width n).length = width := by
  have hlength := length_digits_le hwidth h
  simp [padded]
  omega

theorem padded_all (width n : Nat) : ∀ c ∈ padded width n, c.isDigit = true := by
  intro c hc
  rcases List.mem_append.1 hc with hc | hc
  · obtain rfl := List.eq_of_mem_replicate hc
    rfl
  · exact digits_all n c hc

theorem padded_ne_nil (width n : Nat) : padded width n ≠ [] := by
  simp [padded, digits_ne_nil]

/-- A row of digits ends where something else follows. -/
theorem span_append {ds r : List Char} (hds : ∀ c ∈ ds, c.isDigit = true)
    (hr : ∀ c ∈ r.head?, c.isDigit = false) : span (ds ++ r) = (ds, r) := by
  have hnone : r.takeWhile Char.isDigit = [] ∧ r.dropWhile Char.isDigit = r := by
    cases r with
    | nil => exact ⟨rfl, rfl⟩
    | cons c r => simp [hr c rfl]
  rw [span, List.takeWhile_append_of_pos hds, List.dropWhile_append_of_pos hds, hnone.1, hnone.2,
    List.append_nil]

end Jukebox.Text.Decimal
