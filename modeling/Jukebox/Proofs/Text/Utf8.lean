import Jukebox.Text.Utf8

/-!
# Texts in UTF-8 are read back

The decoder takes any bytes, but those that were encoded it takes for the characters they came from
(`decode_encode`).  The first byte of a character tells how many are due and within which bounds the next of them
must lie; that a character keeps these bounds is where the ranges of characters come in: no character of three
bytes lies below 0x800 or is a surrogate, and none of four bytes lies below 0x10000 or above 0x10FFFF.
-/

namespace Jukebox.Text.Utf8

/-! ## First bytes -/

theorem first_ascii {n : Nat} (h : n < 0x80) : first (UInt8.ofNat n) = ([Char.ofNat n], .between) := by
  have hn : (UInt8.ofNat n).toNat = n := UInt8.toNat_ofNat_of_lt (show _ < 256 by omega)
  have hb : UInt8.ofNat n < 0x80 := UInt8.lt_iff_toNat_lt.2 (hn.symm ▸ h)
  rw [first, if_pos hb, hn]

/-- What a byte from 0x80 on leads to, by its number. -/
theorem first_of_le {n : Nat} (h : 0x80 ≤ n) (h' : n < 256) : first (UInt8.ofNat n) =
    if 0xC2 ≤ n ∧ n ≤ 0xDF then ([], .within 1 0x80 0xBF (n - 0xC0))
    else if n = 0xE0 then ([], .within 2 0xA0 0xBF 0)
    else if n = 0xED then ([], .within 2 0x80 0x9F (n - 0xE0))
    else if 0xE1 ≤ n ∧ n ≤ 0xEF then ([], .within 2 0x80 0xBF (n - 0xE0))
    else if n = 0xF0 then ([], .within 3 0x90 0xBF 0)
    else if 0xF1 ≤ n ∧ n ≤ 0xF3 then ([], .within 3 0x80 0xBF (n - 0xF0))
    else if n = 0xF4 then ([], .within 3 0x80 0x8F (n - 0xF0))
    else ([replacement], .between) := by
  have hn : (UInt8.ofNat n).toNat = n := UInt8.toNat_ofNat_of_lt h'
  have hb : ¬ UInt8.ofNat n < 0x80 := by
    rw [UInt8.lt_iff_toNat_lt, hn]
    exact Nat.not_lt.2 h
  rw [first, if_neg hb]
  simp only [UInt8.le_iff_toNat_le, ← UInt8.toNat_inj, hn]
  rfl

theorem first_two {v : Nat} (h : 0x80 ≤ v) (h' : v < 0x800) :
    first (UInt8.ofNat (v / 64 % 32 + 0xC0)) = ([], .within 1 0x80 0xBF (v / 64)) := by
  have hdiv : v / 64 % 32 + 0xC0 - 0xC0 = v / 64 := by omega
  rw [first_of_le (by omega) (by omega), if_pos (by omega), hdiv]

/-- The bounds for the second of three bytes keep out what two bytes can say and the surrogates. -/
theorem first_three {v : Nat} (h : 0x800 ≤ v) (h' : v < 0x10000) (hvalid : v < 0xD800 ∨ 0xDFFF < v) :
    ∃ low high : UInt8, first (UInt8.ofNat (v / 4096 % 16 + 0xE0)) = ([], .within 2 low high (v / 64 / 64)) ∧
      low.toNat ≤ v / 64 % 64 + 0x80 ∧ v / 64 % 64 + 0x80 ≤ high.toNat := by
  have hdiv : v / 4096 % 16 + 0xE0 - 0xE0 = v / 64 / 64 := by omega
  rw [first_of_le (by omega) (by omega), if_neg (by omega), hdiv]
  by_cases hfirst : v / 4096 = 0
  · rw [if_pos (by omega)]
    exact ⟨0xA0, 0xBF, by rw [show v / 64 / 64 = 0 by omega], by simp; omega, by simp; omega⟩
  · rw [if_neg (by omega)]
    by_cases hlast : v / 4096 = 13
    · rw [if_pos (by omega)]
      exact ⟨0x80, 0x9F, rfl, by simp, by simp; omega⟩
    · rw [if_neg (by omega), if_pos (by omega)]
      exact ⟨0x80, 0xBF, rfl, by simp, by simp; omega⟩

/-- The bounds for the second of four bytes keep out what three bytes can say and what is no character. -/
theorem first_four {v : Nat} (h : 0x10000 ≤ v) (h' : v < 0x110000) :
    ∃ low high : UInt8, first (UInt8.ofNat (v / 262144 % 8 + 0xF0)) =
        ([], .within 3 low high (v / 64 / 64 / 64)) ∧
      low.toNat ≤ v / 64 / 64 % 64 + 0x80 ∧ v / 64 / 64 % 64 + 0x80 ≤ high.toNat := by
  have hdiv : v / 262144 % 8 + 0xF0 - 0xF0 = v / 64 / 64 / 64 := by omega
  rw [first_of_le (by omega) (by omega), if_neg (by omega), if_neg (by omega), if_neg (by omega),
    if_neg (by omega), hdiv]
  by_cases hfirst : v / 262144 = 0
  · rw [if_pos (by omega)]
    exact ⟨0x90, 0xBF, by rw [show v / 64 / 64 / 64 = 0 by omega], by simp; omega, by simp; omega⟩
  · rw [if_neg (by omega)]
    by_cases hlast : v / 262144 = 4
    · rw [if_neg (by omega), if_pos (by omega)]
      exact ⟨0x80, 0x8F, rfl, by simp, by simp; omega⟩
    · rw [if_pos (by omega)]
      exact ⟨0x80, 0xBF, rfl, by simp, by simp; omega⟩

/-! ## Further bytes -/

/-- A further byte within the bounds adds its six bits to those before. -/
theorem decodeFrom_within {low high : UInt8} {n : Nat} (due : Nat) (hlow : low.toNat ≤ n % 64 + 0x80)
    (hhigh : n % 64 + 0x80 ≤ high.toNat) (rest : List UInt8) :
    decodeFrom (.within due low high (n / 64)) (UInt8.ofNat (n % 64 + 0x80) :: rest) =
      if due ≤ 1 then Char.ofNat n :: decodeFrom .between rest
      else decodeFrom (.within (due - 1) 0x80 0xBF n) rest := by
  have hb : (UInt8.ofNat (n % 64 + 0x80)).toNat = n % 64 + 0x80 := UInt8.toNat_ofNat_of_lt (show _ < 256 by omega)
  have hbits : 64 * (n / 64) + (n % 64 + 0x80 - 0x80) = n := by omega
  have hbounds : low ≤ UInt8.ofNat (n % 64 + 0x80) ∧ UInt8.ofNat (n % 64 + 0x80) ≤ high := by
    rw [UInt8.le_iff_toNat_le, UInt8.le_iff_toNat_le, hb]
    exact ⟨hlow, hhigh⟩
  rw [decodeFrom]
  simp only [step, if_pos hbounds, hb, hbits]
  split <;> rfl

/-- Any further byte is within the wide bounds, which hold from the second of them on. -/
theorem decodeFrom_within_wide {n : Nat} (due : Nat) (rest : List UInt8) :
    decodeFrom (.within due 0x80 0xBF (n / 64)) (UInt8.ofNat (n % 64 + 0x80) :: rest) =
      if due ≤ 1 then Char.ofNat n :: decodeFrom .between rest
      else decodeFrom (.within (due - 1) 0x80 0xBF n) rest :=
  decodeFrom_within due (by simp) (by simp; omega) rest

/-- A first byte that is a character by itself or opens one. -/
theorem decodeFrom_first {b : UInt8} {chars : List Char} {s : State} (h : first b = (chars, s))
    (rest : List UInt8) : decodeFrom .between (b :: rest) = chars ++ decodeFrom s rest := by
  rw [decodeFrom]
  simp only [step, h]

/-! ## Texts -/

theorem decodeFrom_encodeChar (c : Char) (rest : List UInt8) :
    decodeFrom .between (String.utf8EncodeChar c ++ rest) = c :: decodeFrom .between rest := by
  have hc : Char.ofNat c.val.toNat = c := Char.ofNat_toNat c
  have hvalid : c.val.toNat < 0xD800 ∨ 0xDFFF < c.val.toNat ∧ c.val.toNat < 0x110000 := c.valid
  unfold String.utf8EncodeChar
  generalize c.val.toNat = v at hc hvalid
  dsimp only
  -- The cases are characters of one, two, three and four bytes.
  split
  · next h =>
    rw [List.cons_append, decodeFrom_first (first_ascii (by omega)), hc]
    rfl
  · split
    · next h =>
      rw [List.cons_append, decodeFrom_first (first_two (by omega) (by omega))]
      show decodeFrom _ (_ :: rest) = _
      rw [decodeFrom_within_wide, if_pos (by omega), hc]
    · split
      · next h =>
        obtain ⟨low, high, hfirst, hlow, hhigh⟩ := first_three (v := v) (by omega) (by omega) (by omega)
        rw [List.cons_append, decodeFrom_first hfirst]
        show decodeFrom _ (_ :: _ :: rest) = _
        rw [decodeFrom_within 2 hlow hhigh, if_neg (by omega), decodeFrom_within_wide, if_pos (by omega), hc]
      · obtain ⟨low, high, hfirst, hlow, hhigh⟩ := first_four (v := v) (by omega) (by omega)
        rw [show v / 4096 = v / 64 / 64 by omega, List.cons_append, decodeFrom_first hfirst]
        show decodeFrom _ (_ :: _ :: _ :: rest) = _
        rw [decodeFrom_within 3 hlow hhigh, if_neg (by omega), decodeFrom_within_wide, if_neg (by omega),
          decodeFrom_within_wide, if_pos (by omega), hc]

/-- Encoded texts are read as they were. -/
theorem decode_encode (cs : List Char) : decode (encode cs) = cs := by
  induction cs with
  | nil => rfl
  | cons c cs ih => exact (decodeFrom_encodeChar c (encode cs)).trans (congrArg (c :: ·) ih)

end Jukebox.Text.Utf8
