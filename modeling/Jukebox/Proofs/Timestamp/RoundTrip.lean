import Jukebox.Timestamp.Reader

/-!
# Reading the text of a moment

The text of every moment is read as that moment (`ofText?_text`), down to the nanosecond and with leap
seconds, as long as its year is one that dates may have.  Years, numbers of fixed width and fractions of one,
two or three groups are shown first, each with anything behind it that does not go on with digits.
-/

namespace Jukebox.Timestamp

open Text

/-! ## Numbers and marks -/

theorem not_isBlank_of_isDigit {c : Char} (h : c.isDigit = true) : isBlank c = false := by
  have all : ∀ k : Fin 10, isBlank (Decimal.digit k.val) = false := by decide
  obtain ⟨k, rfl⟩ := Decimal.exists_digit_of_isDigit h
  exact all k

theorem dropBlanks_cons {c : Char} (h : isBlank c = false) (cs : List Char) :
    dropBlanks (c :: cs) = c :: cs := by
  simp [dropBlanks, h]

/-- Digits are preceded by no white space. -/
theorem dropBlanks_padded (width n : Nat) (r : List Char) :
    dropBlanks (Decimal.padded width n ++ r) = Decimal.padded width n ++ r := by
  cases h : Decimal.padded width n with
  | nil => exact absurd h (Decimal.padded_ne_nil width n)
  | cons c cs =>
    have hc : c.isDigit = true := Decimal.padded_all width n c (by simp [h])
    exact dropBlanks_cons (not_isBlank_of_isDigit hc) _

/-- A number of fixed width is read, whatever follows it. -/
theorem number?_padded {k n : Nat} (hk : 0 < k) (hn : n < Nat.pow 10 k) (r : List Char) :
    number? k (Decimal.padded k n ++ r) = some (n, r) := by
  have hlength := Decimal.length_padded hk hn
  have htake : (Decimal.padded k n ++ r).take k = Decimal.padded k n := by
    rw [List.take_append_of_le_length (by omega), List.take_of_length_le (by omega)]
  have hdrop : (Decimal.padded k n ++ r).drop k = r := by
    rw [List.drop_append_of_le_length (by omega), List.drop_of_length_le (by omega), List.nil_append]
  have hall : (Decimal.padded k n).takeWhile Char.isDigit = Decimal.padded k n := by
    have hspan := Decimal.span_append (r := []) (Decimal.padded_all k n) (by simp)
    rw [List.append_nil] at hspan
    exact congrArg Prod.fst hspan
  have hempty : (Decimal.padded k n).isEmpty = false := by
    simp [Decimal.padded_ne_nil]
  simp only [number?, dropBlanks_padded, htake, hall, hempty, hlength, hdrop, Decimal.value_padded]
  rfl

theorem number?_two {n : Nat} (hn : n < 100) (r : List Char) :
    number? 2 (Decimal.padded 2 n ++ r) = some (n, r) :=
  number?_padded (by decide) hn r

theorem mark?_cons {c : Char} (h : isBlank c = false) (r : List Char) : mark? c (c :: r) = some r := by
  simp [mark?, dropBlanks_cons h]

/-- A year of four digits is read, whatever follows it. -/
theorem year?_padded {m : Nat} (hm : m < Nat.pow 10 4) (r : List Char) :
    year? (Decimal.padded 4 m ++ r) = some ((m : Int), r) := by
  have hread := number?_padded (by decide) hm r
  have hdrop := dropBlanks_padded 4 m r
  cases hpadded : Decimal.padded 4 m with
  | nil => exact absurd hpadded (Decimal.padded_ne_nil 4 m)
  | cons c cs =>
    have hc : c.isDigit = true := Decimal.padded_all 4 m c (by simp [hpadded])
    have hminus : c ≠ '-' := by rintro rfl; simp at hc
    have hplus : c ≠ '+' := by rintro rfl; simp at hc
    rw [hpadded, List.cons_append] at hread hdrop
    simp [year?, hdrop, hread, hminus, hplus]

/-- A year is followed by what is no digit. -/
theorem year?_yearText (year : Int) {r : List Char} (hr : ∀ c ∈ r.head?, c.isDigit = false) :
    year? (yearText year ++ r) = some (year, r) := by
  have hsigned : ∀ (sign : Int) (m : Nat), year?.signed sign (Decimal.padded 4 m ++ r) =
      some (sign * m, r) := by
    intro sign m
    have hspan := Decimal.span_append (Decimal.padded_all 4 m) hr
    simp [year?.signed, hspan, Decimal.padded_ne_nil]
  by_cases hfour : 0 ≤ year ∧ year ≤ 9999
  · obtain ⟨m, rfl⟩ : ∃ m : Nat, year = m := ⟨year.toNat, by omega⟩
    have hm : m < 10000 := by omega
    rw [yearText, if_pos hfour]
    exact year?_padded hm r
  · by_cases hneg : year < 0
    · obtain ⟨m, rfl⟩ : ∃ m : Nat, year = -m := ⟨year.natAbs, by omega⟩
      rw [yearText, if_neg hfour, if_pos hneg]
      simp [year?, dropBlanks_cons (c := '-') rfl, hsigned]
    · obtain ⟨m, rfl⟩ : ∃ m : Nat, year = m := ⟨year.toNat, by omega⟩
      rw [yearText, if_neg hfour, if_neg hneg]
      simp [year?, dropBlanks_cons (c := '+') rfl, hsigned]

/-! ## Fractions -/

/-- A fraction of one, two or three groups counts thousandths, millionths or billionths. -/
theorem fraction?_group {k n : Nat} (hk : 0 < k) (hk9 : k ≤ 9) (hn : n < Nat.pow 10 k) {r : List Char}
    (hr : ∀ c ∈ r.head?, c.isDigit = false) :
    fraction? ('.' :: (Decimal.padded k n ++ r)) = some (n * Nat.pow 10 (9 - k), r) := by
  have hspan := Decimal.span_append (Decimal.padded_all k n) hr
  have hlength := Decimal.length_padded hk hn
  have htake : (Decimal.padded k n).take 9 = Decimal.padded k n := List.take_of_length_le (by omega)
  simp [fraction?, hspan, htake, hlength, Decimal.padded_ne_nil]

theorem fraction?_fractionText {n : Nat} (hn : n < 1000000000) :
    fraction? (fractionText n ++ ['Z']) = some (n, ['Z']) := by
  have hZ : ∀ c ∈ ['Z'].head?, c.isDigit = false := by simp
  unfold fractionText
  split
  · next h => simp [fraction?, h]
  split
  · next h =>
    have hsmall : n / 1000000 < 1000 := by omega
    have hvalue : n / 1000000 * 1000000 = n := by omega
    have hread := fraction?_group (k := 3) (by decide) (by decide) hsmall hZ
    rw [List.cons_append, hread]
    exact congrArg (fun m => some (m, ['Z'])) hvalue
  split
  · next h =>
    have hsmall : n / 1000 < 1000000 := by omega
    have hvalue : n / 1000 * 1000 = n := by omega
    have hread := fraction?_group (k := 6) (by decide) (by decide) hsmall hZ
    rw [List.cons_append, hread]
    exact congrArg (fun m => some (m, ['Z'])) hvalue
  · have hread := fraction?_group (k := 9) (by decide) (by decide) hn hZ
    rw [List.cons_append, hread]
    exact congrArg (fun m => some (m, ['Z'])) (Nat.mul_one n)

/-! ## Moments -/

theorem date_ofNumbers? (d : Date) : Date.ofNumbers? d.year d.month d.day = some d := by
  simp [Date.ofNumbers?, d.month_valid, d.day_valid]

theorem day_le (d : Date) : d.day ≤ 31 := by
  have h := d.day_valid.2
  have hmonth : daysInMonth d.year d.month ≤ 31 := by
    unfold daysInMonth
    split
    · split <;> decide
    all_goals decide
  omega

/-- A moment given in Coordinated Universal Time is not moved. -/
theorem addMinutes_zero (t : Timestamp) : t.addMinutes (-0) = t := by
  have htotal : ¬(60 * (t.hour.val : Int) + t.minute.val + -0 < 0) := by omega
  have hday : 60 * (t.hour.val : Int) + t.minute.val + -0 < 1440 := by omega
  have hrest : ((60 * (t.hour.val : Int) + t.minute.val + -0) % 1440).toNat =
      60 * t.hour.val + t.minute.val := by omega
  have hhour : (60 * t.hour.val + t.minute.val) / 60 % 24 = t.hour.val := by omega
  have hminute : (60 * t.hour.val + t.minute.val) % 60 = t.minute.val := by omega
  simp only [addMinutes, htotal, hday, hrest, hhour, hminute, if_true, if_false]

theorem date?_date (d : Date) (hyear : yearInRange d.year = true) (r : List Char) :
    date? (yearText d.year ++ '-' :: (Decimal.padded 2 d.month ++ '-' :: (Decimal.padded 2 d.day ++ r))) =
      some (d, r) := by
  have hmonth := d.month_valid
  have hday := day_le d
  have hreadMonth := number?_two (n := d.month) (by omega)
    ('-' :: (Decimal.padded 2 d.day ++ r))
  have hreadDay := number?_two (n := d.day) (by omega) r
  rw [date?, year?_yearText d.year (by simp)]
  simp [mark?_cons (c := '-') rfl, hreadMonth, hreadDay, date_ofNumbers?, hyear]

theorem time?_time (t : Timestamp) :
    time? t.date (Decimal.padded 2 t.hour.val ++ ':' :: (Decimal.padded 2 t.minute.val ++
      ':' :: (Decimal.padded 2 t.second.val ++ (fractionText t.nanosecond.val ++ ['Z'])))) =
      some (t, ['Z']) := by
  have hhour := t.hour.isLt
  have hminute := t.minute.isLt
  have hsecond := t.second.isLt
  have hnano := t.nanosecond.isLt
  have hreadMinute := number?_two (n := t.minute.val) (by omega)
  have hreadSecond := number?_two (n := t.second.val) (by omega)
  rw [time?, number?_two (by omega)]
  simp [mark?_cons (c := ':') rfl, hreadMinute, hreadSecond, fraction?_fractionText hnano, hhour,
    hminute, hsecond, hnano]

/-- **A moment is read back** from its text, if dates may have its year. -/
theorem ofText?_text (t : Timestamp) (hyear : yearInRange t.date.year = true) :
    ofText? t.text = some t := by
  have hchars : t.chars = yearText t.date.year ++ '-' :: (Decimal.padded 2 t.date.month ++
      '-' :: (Decimal.padded 2 t.date.day ++ 'T' :: (Decimal.padded 2 t.hour.val ++
      ':' :: (Decimal.padded 2 t.minute.val ++ ':' :: (Decimal.padded 2 t.second.val ++
      (fractionText t.nanosecond.val ++ ['Z'])))))) := by
    simp [chars]
  have hoffset : offset? ['Z'] = some (0, []) := rfl
  rw [ofText?, text, String.toList_ofList, ofChars?, hchars, date?_date t.date hyear]
  simp only [Option.bind_eq_bind, Option.bind_some, time?_time, hoffset, addMinutes_zero, hyear]
  rfl

end Jukebox.Timestamp
