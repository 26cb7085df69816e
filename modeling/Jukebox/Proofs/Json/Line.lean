import Jukebox.Json.Printer

/-!
# JSON text stands on one line

No control character is left in printed text (`shown_print`): within quotation marks they are escaped, and
none is written between values.  So the text can be sent where a line ends what is sent.
-/

namespace Jukebox.Json

open Text

/-- The character is no control character. -/
def Shown (c : Char) : Prop :=
  32 ≤ c.toNat

instance : DecidablePred Shown :=
  fun c => inferInstanceAs (Decidable (32 ≤ c.toNat))

theorem shown_of_all {text : List Char} (all : text.all (Shown ·) = true) : ∀ c ∈ text, Shown c := by
  simpa using all

theorem shown_hexDigit {n : Nat} (h : n < 16) : Shown (Hex.digit n) := by
  have all : ∀ n < 16, Shown (Hex.digit n) := by decide
  exact all n h

theorem shown_of_isDigit {c : Char} (h : c.isDigit = true) : Shown c := by
  simp only [Char.isDigit, Bool.and_eq_true, decide_eq_true_eq] at h
  have low : ('0' : Char).toNat ≤ c.toNat := h.1
  exact Nat.le_trans (by decide) low

theorem shown_escape (c : Char) : ∀ d ∈ escape c, Shown d := by
  unfold escape
  split
  case h_8 =>
    split
    · next control =>
      have high := shown_hexDigit (show c.toNat / 16 < 16 by omega)
      have low := shown_hexDigit (show c.toNat % 16 < 16 by omega)
      simp only [List.forall_mem_cons]
      exact ⟨by decide, by decide, by decide, by decide, high, low, by simp⟩
    · next plain =>
      have shown : Shown c := Nat.le_of_not_lt plain
      simpa using shown
  all_goals exact shown_of_all (by decide)

theorem shown_quote (t : Option String) : ∀ d ∈ quote t, Shown d := by
  cases t with
  | none => exact shown_of_all (by decide)
  | some s =>
    have inner : ∀ d ∈ s.toList.flatMap escape, Shown d := by
      intro d member
      obtain ⟨c, -, found⟩ := List.mem_flatMap.mp member
      exact shown_escape c d found
    simp only [quote, List.forall_mem_cons, List.forall_mem_append]
    exact ⟨by decide, inner, by decide, by simp⟩

theorem shown_integerChars (n : Int) : ∀ d ∈ integerChars n, Shown d := by
  have digits : ∀ d ∈ Decimal.digits n.natAbs, Shown d :=
    fun d member => shown_of_isDigit (Decimal.digits_all _ d member)
  unfold integerChars
  split
  · exact List.forall_mem_cons.mpr ⟨by decide, digits⟩
  · exact digits

theorem shown_numberChars (n : Number) : ∀ d ∈ n.chars, Shown d := by
  cases n with
  | integer n => exact shown_integerChars n
  | decimal mantissa exponent =>
    simp only [Number.chars, List.forall_mem_append, List.forall_mem_cons]
    exact ⟨shown_integerChars mantissa, by decide, shown_integerChars exponent⟩

mutual

theorem shown_chars : ∀ j : Json, ∀ d ∈ j.chars, Shown d
  | .null | .bool true | .bool false | .array [] | .object [] => shown_of_all (by decide)
  | .number n => shown_numberChars n
  | .text t => shown_quote t
  | .array (item :: rest) => by
    simp only [chars, List.forall_mem_cons, List.forall_mem_append]
    exact ⟨by decide, shown_chars item, shown_charsOfItems rest⟩
  | .object ((key, value) :: rest) => by
    simp only [chars, List.forall_mem_cons, List.forall_mem_append]
    exact ⟨by decide, shown_quote key, by decide, shown_chars value, shown_charsOfMembers rest⟩

theorem shown_charsOfItems : ∀ items : List Json, ∀ d ∈ charsOfItems items, Shown d
  | [] => shown_of_all (by decide)
  | item :: rest => by
    simp only [charsOfItems, List.forall_mem_cons, List.forall_mem_append]
    exact ⟨by decide, shown_chars item, shown_charsOfItems rest⟩

theorem shown_charsOfMembers : ∀ members : List (Option String × Json),
    ∀ d ∈ charsOfMembers members, Shown d
  | [] => shown_of_all (by decide)
  | (key, value) :: rest => by
    simp only [charsOfMembers, List.forall_mem_cons, List.forall_mem_append]
    exact ⟨by decide, shown_quote key, by decide, shown_chars value, shown_charsOfMembers rest⟩

end

end Jukebox.Json
