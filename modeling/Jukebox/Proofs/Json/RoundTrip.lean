import Jukebox.Json.Printer
import Jukebox.Json.Reader

/-!
# Reading JSON text that was printed

Whatever the value, its text is read as that value (`read?_print`).  The parts are shown one by one, each
with anything behind it:

    a character is read as it was escaped                      (textFrom_escape)
    a text is read up to its closing quotation mark            (textFrom_quote)
    a number is read up to what cannot belong to it            (number?_chars)
    values, items and members are read if the fuel suffices    (reads_all)

The reader needs no more fuel than the text has characters, since every value, item and member takes at
least one of each.
-/

namespace Jukebox.Json

open Text

/-! ## Texts -/

theorem unit?_control {n : Nat} (h : n < 32) :
    unit? '0' '0' (Hex.digit (n / 16)) (Hex.digit (n % 16)) = some n := by
  have hzero : Hex.value? '0' = some 0 := rfl
  have hhigh := Hex.value?_digit (show n / 16 < 16 by omega)
  have hlow := Hex.value?_digit (show n % 16 < 16 by omega)
  simp only [unit?, hzero, hhigh, hlow, bind, Option.bind, pure]
  congr 1
  omega

/-- A control character is written by its code point, which is no half of a surrogate pair. -/
theorem textFrom_control (read : Option (List Char)) {n : Nat} (h : n < 32) (r : List Char) :
    textFrom read ('\\' :: 'u' :: '0' :: '0' :: Hex.digit (n / 16) :: Hex.digit (n % 16) :: r) =
      textFrom (push (Char.ofNat n) read) r := by
  have hunit := unit?_control h
  have hhigh : isHighSurrogate n = false := by
    simp [isHighSurrogate]
    omega
  have hlow : isLowSurrogate n = false := by
    simp [isLowSurrogate]
    omega
  rw [textFrom.eq_def]
  -- What follows may be another code point; this one is read alone in any case.
  split
  case h_2 heq =>
    simp only [List.cons.injEq, true_and] at heq
    obtain ⟨rfl, rfl, rfl, rfl, rfl⟩ := heq
    simp [hunit, hhigh, hlow]
  case h_3 heq =>
    simp only [List.cons.injEq, true_and] at heq
    obtain ⟨rfl, rfl, rfl, rfl, rfl⟩ := heq
    simp [hunit, hhigh, hlow]
  all_goals grind

/-- A character that needs no escaping stands for itself. -/
theorem textFrom_plain (read : Option (List Char)) {c : Char} (hquote : c ≠ '"') (hslash : c ≠ '\\')
    (h : ¬c.toNat < 32) (r : List Char) : textFrom read (c :: r) = textFrom (push c read) r := by
  rw [textFrom.eq_def]
  split
  case h_5 heq =>
    obtain ⟨rfl, rfl⟩ := List.cons.inj heq
    rw [if_neg h]
  all_goals simp_all

/-- A character is read as it was written. -/
theorem textFrom_escape (read : Option (List Char)) (c : Char) (r : List Char) :
    textFrom read (escape c ++ r) = textFrom (push c read) r := by
  unfold escape
  split
  case h_8 hquote hslash _ _ _ _ _ =>
    split
    · next h =>
      have hcontrol := textFrom_control read h r
      rwa [Char.ofNat_toNat] at hcontrol
    · next h => exact textFrom_plain read hquote hslash h r
  all_goals rfl

/-- A text is read up to its closing quotation mark. -/
theorem textFrom_escapes (read cs r : List Char) :
    textFrom (some read) (cs.flatMap escape ++ '"' :: r) =
      some (some (String.ofList (read.reverse ++ cs)), r) := by
  induction cs generalizing read with
  | nil => simp [textFrom]
  | cons c cs ih =>
    rw [List.flatMap_cons, List.append_assoc, textFrom_escape]
    exact (ih (c :: read)).trans (by simp)

theorem textFrom_quote (t : Option String) (r : List Char) :
    ∃ cs, quote t ++ r = '"' :: cs ∧ textFrom (some []) cs = some (t, r) := by
  cases t with
  | none => exact ⟨_, rfl, rfl⟩
  | some s =>
    refine ⟨s.toList.flatMap escape ++ '"' :: r, by simp [quote], ?_⟩
    rw [textFrom_escapes]
    simp

/-! ## Numbers -/

/-- A number cannot go on with what follows. -/
def EndsNumber (r : List Char) : Prop :=
  ∀ c ∈ r.head?, c.isDigit = false ∧ c ≠ '.' ∧ c ≠ 'e' ∧ c ≠ 'E'

theorem natural?_digits (n : Nat) {r : List Char} (hr : ∀ c ∈ r.head?, c.isDigit = false) :
    natural? (Decimal.digits n ++ r) = some (n, r) := by
  unfold natural?
  rw [Decimal.span_append (Decimal.digits_all n) hr]
  split
  · next h => exact absurd (Prod.mk.inj h).1 (Decimal.digits_ne_nil n)
  · next h => simpa using Decimal.eq_nil_of_digits_eq_zero_cons (Prod.mk.inj h).1
  · next h =>
    obtain ⟨rfl, rfl⟩ := Prod.mk.inj h
    rw [Decimal.value_digits]

theorem not_isDigit_of_endsNumber {r : List Char} (h : EndsNumber r) :
    ∀ c ∈ r.head?, c.isDigit = false :=
  fun c hc => (h c hc).1

theorem fraction?_none {r : List Char} (h : ∀ c ∈ r.head?, c ≠ '.') : fraction? r = some ([], r) := by
  unfold fraction?
  split
  · next r => exact absurd rfl (h '.' rfl)
  · rfl

theorem exponent?_none {r : List Char} (h : EndsNumber r) : exponent? r = some (none, r) := by
  unfold exponent?
  split
  · next r => exact absurd rfl (h 'e' rfl).2.2.1
  · next r => exact absurd rfl (h 'E' rfl).2.2.2
  · rfl

/-- An integer is a natural number after a minus sign, or a natural number alone. -/
theorem integerChars_cases (n : Int) :
    ∃ m : Nat, (n = -m ∧ 0 < m ∧ integerChars n = '-' :: Decimal.digits m) ∨
      (n = m ∧ integerChars n = Decimal.digits m) := by
  refine ⟨n.natAbs, ?_⟩
  unfold integerChars
  split
  · next h => exact Or.inl ⟨by omega, by omega, rfl⟩
  · next h => exact Or.inr ⟨by omega, rfl⟩

/-- An exponent is read with its sign. -/
theorem exponent?_integerChars (n : Int) {r : List Char} (h : EndsNumber r) :
    exponent? ('e' :: (integerChars n ++ r)) = some (some n, r) := by
  obtain ⟨m, hm⟩ := integerChars_cases n
  obtain ⟨c, cs, hcs, hc⟩ := Decimal.exists_digits_eq_cons m
  have hspan := Decimal.span_append (Decimal.digits_all m) (not_isDigit_of_endsNumber h)
  have hvalue := Decimal.value_digits m
  rw [hcs, List.cons_append] at hspan
  rw [hcs] at hvalue
  rcases hm with ⟨rfl, -, hds⟩ | ⟨rfl, hds⟩
  · simp [exponent?, hds, hcs, hspan, hvalue]
  · have hplus : c ≠ '+' := by rintro rfl; simp at hc
    have hminus : c ≠ '-' := by rintro rfl; simp at hc
    simp [exponent?, hds, hcs, hspan, hvalue, hplus, hminus]

/-- The sign and the whole part of a number are read first, whatever follows. -/
theorem number?_integerChars (n : Int) (tail : List Char)
    (htail : ∀ c ∈ tail.head?, c.isDigit = false) :
    ∃ (sign : Int) (m : Nat), sign * m = n ∧ number? (integerChars n ++ tail) = (do
      let (places, r) ← fraction? tail
      let (exponent, r) ← exponent? r
      if places.isEmpty && exponent.isNone then return (.integer n, r)
      else return (.decimal (sign * Decimal.valueFrom m places) (exponent.getD 0 - places.length), r)) := by
  obtain ⟨m, hm⟩ := integerChars_cases n
  obtain ⟨c, cs, hcs, hc⟩ := Decimal.exists_digits_eq_cons m
  have hnatural := natural?_digits m htail
  rw [hcs, List.cons_append] at hnatural
  rcases hm with ⟨rfl, hpos, hds⟩ | ⟨rfl, hds⟩
  · have hzero : ¬m = 0 := by omega
    exact ⟨-1, m, by omega, by simp [number?, hds, hcs, hnatural, hzero]⟩
  · have hminus : c ≠ '-' := by rintro rfl; simp at hc
    exact ⟨1, m, by omega, by simp [number?, hds, hcs, hnatural, hminus]⟩

theorem number?_chars (n : Number) {r : List Char} (h : EndsNumber r) :
    number? (n.chars ++ r) = some (n, r) := by
  cases n with
  | integer n =>
    obtain ⟨sign, m, -, hread⟩ := number?_integerChars n r (not_isDigit_of_endsNumber h)
    show number? (integerChars n ++ r) = some (.integer n, r)
    rw [hread, fraction?_none fun c hc => (h c hc).2.1]
    simp [exponent?_none h]
  | decimal mantissa exponent =>
    have hchars : (Number.decimal mantissa exponent).chars ++ r =
        integerChars mantissa ++ 'e' :: (integerChars exponent ++ r) := by
      simp [Number.chars]
    obtain ⟨sign, m, hm, hread⟩ :=
      number?_integerChars mantissa ('e' :: (integerChars exponent ++ r)) (by simp)
    have hvalue : Decimal.valueFrom m [] = m := rfl
    rw [hchars, hread, fraction?_none (by simp)]
    simp [exponent?_integerChars exponent h, hvalue, hm]

/-- A number may begin with the character. -/
def BeginsNumber (c : Char) : Prop :=
  c = '-' ∨ c.isDigit = true

theorem BeginsNumber.ne {c : Char} (h : BeginsNumber c) {d : Char} (hd : ¬BeginsNumber d) : c ≠ d := by
  rintro rfl
  exact hd h

instance (c : Char) : Decidable (BeginsNumber c) :=
  inferInstanceAs (Decidable (_ ∨ _))

theorem BeginsNumber.not_isBlank {c : Char} (h : BeginsNumber c) : isBlank c = false := by
  simp [isBlank, h.ne (d := ' ') (by decide), h.ne (d := '\t') (by decide),
    h.ne (d := '\n') (by decide), h.ne (d := '\r') (by decide)]

theorem exists_numberChars_eq_cons (n : Number) : ∃ c cs, n.chars = c :: cs ∧ BeginsNumber c := by
  have hinteger : ∀ n : Int, ∃ c cs, integerChars n = c :: cs ∧ BeginsNumber c := by
    intro n
    obtain ⟨m, ⟨-, -, hds⟩ | ⟨-, hds⟩⟩ := integerChars_cases n
    · exact ⟨'-', _, hds, Or.inl rfl⟩
    · obtain ⟨c, cs, hcs, hc⟩ := Decimal.exists_digits_eq_cons m
      exact ⟨c, cs, hds.trans hcs, Or.inr hc⟩
  cases n with
  | integer n => exact hinteger n
  | decimal mantissa exponent =>
    obtain ⟨c, cs, hcs, hc⟩ := hinteger mantissa
    exact ⟨c, cs ++ 'e' :: integerChars exponent, by simp [Number.chars, hcs], hc⟩

/-! ## Values -/

theorem skip_cons {c : Char} (h : isBlank c = false) (cs : List Char) : skip (c :: cs) = c :: cs := by
  simp [skip, h]

/-- What a value's text begins with is no blank and ends no array. -/
theorem exists_chars_eq_cons (j : Json) :
    ∃ c cs, j.chars = c :: cs ∧ isBlank c = false ∧ c ≠ ']' := by
  cases j with
  | number n =>
    obtain ⟨c, cs, hcs, hc⟩ := exists_numberChars_eq_cons n
    exact ⟨c, cs, hcs, hc.not_isBlank, hc.ne (by decide)⟩
  | bool b => cases b <;> exact ⟨_, _, rfl, by decide⟩
  | text t => cases t <;> exact ⟨_, _, rfl, by decide⟩
  | null => exact ⟨_, _, rfl, by decide⟩
  | array items => cases items <;> exact ⟨_, _, rfl, by decide⟩
  | object members =>
    cases members with
    | nil => exact ⟨_, _, rfl, by decide⟩
    | cons m rest => exact ⟨_, _, rfl, by decide⟩

theorem endsNumber_cons {c : Char} (h : c.isDigit = false ∧ c ≠ '.' ∧ c ≠ 'e' ∧ c ≠ 'E') (r : List Char) :
    EndsNumber (c :: r) := by
  rintro d hd
  obtain rfl : c = d := by simpa using hd
  exact h

/-- The reader reads every value whose text is no longer than its fuel. -/
def ReadsValues (fuel : Nat) : Prop :=
  ∀ (j : Json) (r : List Char), j.chars.length ≤ fuel → EndsNumber r →
    valueFrom fuel (j.chars ++ r) = some (j, r)

/-- The reader reads the items of every array whose text is no longer than its fuel. -/
def ReadsItems (fuel : Nat) : Prop :=
  ∀ (item : Json) (rest : List Json) (r : List Char),
    (item.chars ++ charsOfItems rest).length ≤ fuel →
    itemsFrom fuel (item.chars ++ (charsOfItems rest ++ r)) = some (item :: rest, r)

/-- The reader reads the members of every object whose text is no longer than its fuel. -/
def ReadsMembers (fuel : Nat) : Prop :=
  ∀ (key : Option String) (value : Json) (rest : List (Option String × Json)) (r : List Char),
    (quote key ++ ':' :: (value.chars ++ charsOfMembers rest)).length ≤ fuel →
    membersFrom fuel (quote key ++ ':' :: (value.chars ++ (charsOfMembers rest ++ r))) =
      some ((key, value) :: rest, r)

theorem readsItems_succ {fuel : Nat} (hvalues : ReadsValues fuel) (hitems : ReadsItems fuel) :
    ReadsItems (fuel + 1) := by
  intro item rest r hlength
  cases rest with
  | nil =>
    have hitem : valueFrom fuel (item.chars ++ ']' :: r) = some (item, ']' :: r) := by
      refine hvalues item _ ?_ (endsNumber_cons (by decide) r)
      simp [charsOfItems] at hlength
      omega
    simp [itemsFrom, charsOfItems, hitem, skip_cons (c := ']') rfl]
  | cons next rest =>
    have hitem : valueFrom fuel (item.chars ++ ',' :: (next.chars ++ (charsOfItems rest ++ r))) =
        some (item, ',' :: (next.chars ++ (charsOfItems rest ++ r))) := by
      refine hvalues item _ ?_ (endsNumber_cons (by decide) _)
      simp [charsOfItems] at hlength
      omega
    have hrest := hitems next rest r (by simp [charsOfItems] at hlength ⊢; omega)
    simp [itemsFrom, charsOfItems, hitem, skip_cons (c := ',') rfl, hrest]

theorem readsMembers_succ {fuel : Nat} (hvalues : ReadsValues fuel) (hmembers : ReadsMembers fuel) :
    ReadsMembers (fuel + 1) := by
  intro key value rest r hlength
  cases rest with
  | nil =>
    have hvalue : valueFrom fuel (value.chars ++ '\x7d' :: r) = some (value, '\x7d' :: r) := by
      refine hvalues value _ ?_ (endsNumber_cons (by decide) r)
      simp [charsOfMembers] at hlength
      omega
    obtain ⟨cs, hcs, hkey⟩ := textFrom_quote key (':' :: (value.chars ++ '\x7d' :: r))
    simp [membersFrom, charsOfMembers, hcs, hkey, hvalue, skip_cons (c := '"') rfl,
      skip_cons (c := ':') rfl, skip_cons (c := '\x7d') rfl]
  | cons next rest =>
    obtain ⟨nextKey, nextValue⟩ := next
    have hrest := hmembers nextKey nextValue rest r (by simp [charsOfMembers] at hlength ⊢; omega)
    have hvalue := hvalues value
      (',' :: (quote nextKey ++ ':' :: (nextValue.chars ++ (charsOfMembers rest ++ r))))
      (by simp [charsOfMembers] at hlength; omega) (endsNumber_cons (by decide) _)
    obtain ⟨cs, hcs, hkey⟩ := textFrom_quote key (':' :: (value.chars ++
      ',' :: (quote nextKey ++ ':' :: (nextValue.chars ++ (charsOfMembers rest ++ r)))))
    simp [membersFrom, charsOfMembers, hcs, hkey, hvalue, hrest, skip_cons (c := '"') rfl,
      skip_cons (c := ':') rfl, skip_cons (c := ',') rfl]

/-- A number is read where no other value can begin. -/
theorem valueFrom_number (fuel : Nat) (n : Number) {r : List Char} (hr : EndsNumber r) :
    valueFrom (fuel + 1) (n.chars ++ r) = some (.number n, r) := by
  have hnumber := number?_chars n hr
  obtain ⟨c, cs, hcs, hc⟩ := exists_numberChars_eq_cons n
  rw [hcs, List.cons_append] at hnumber ⊢
  rw [valueFrom, skip_cons hc.not_isBlank]
  split
  case h_7 => rw [hnumber]; rfl
  all_goals
    next heq => exact absurd (List.cons.inj heq).1 (hc.ne (by decide))

theorem readsValues_succ {fuel : Nat} (hitems : ReadsItems fuel) (hmembers : ReadsMembers fuel) :
    ReadsValues (fuel + 1) := by
  intro j r hlength hr
  cases j with
  | null => rfl
  | bool b => cases b <;> rfl
  | number n => exact valueFrom_number fuel n hr
  | text t =>
    obtain ⟨cs, hcs, htext⟩ := textFrom_quote t r
    rw [chars, hcs, valueFrom, skip_cons (by rfl)]
    simp [htext]
  | array items =>
    cases items with
    | nil => rfl
    | cons item rest =>
      have hread := hitems item rest r (by simp [chars] at hlength ⊢; omega)
      obtain ⟨c, cs, hcs, hblank, hc⟩ := exists_chars_eq_cons item
      rw [hcs, List.cons_append] at hread
      simp [chars, valueFrom, hcs, hread, skip_cons (c := '[') rfl, skip_cons hblank, hc]
  | object members =>
    cases members with
    | nil => rfl
    | cons m rest =>
      obtain ⟨key, value⟩ := m
      have hread := hmembers key value rest r (by simp [chars] at hlength ⊢; omega)
      obtain ⟨cs, hcs, -⟩ := textFrom_quote key (':' :: (value.chars ++ (charsOfMembers rest ++ r)))
      rw [hcs] at hread
      simp [chars, valueFrom, hcs, hread, skip_cons (c := '\x7b') rfl, skip_cons (c := '"') rfl]

/-- By induction on the fuel, of which every value, item and member takes one at least. -/
theorem reads_all (fuel : Nat) : ReadsValues fuel ∧ ReadsItems fuel ∧ ReadsMembers fuel := by
  induction fuel with
  | zero =>
    have hne : ∀ (j : Json) (r : List Char), ¬(j.chars ++ r).length ≤ 0 := by
      intro j r
      obtain ⟨c, cs, hcs, -⟩ := exists_chars_eq_cons j
      simp [hcs]
    refine ⟨fun j r hlength _ => ?_, fun item rest r hlength => absurd hlength (hne item _), ?_⟩
    · exact absurd (by simpa using hlength) (hne j [])
    · intro key value rest r hlength
      simp at hlength
  | succ fuel ih =>
    obtain ⟨hvalues, hitems, hmembers⟩ := ih
    exact ⟨readsValues_succ hitems hmembers, readsItems_succ hvalues hitems,
      readsMembers_succ hvalues hmembers⟩

/-- **What is printed is read back**, whatever the value. -/
theorem read?_print (j : Json) : read? j.print = some j := by
  have hstart : readStart? j.print = some (j, []) := by
    have hlength : j.chars.length ≤ 2 * j.print.length + 2 := by
      simp [print]
      omega
    have hread := (reads_all _).1 j [] hlength (by simp [EndsNumber])
    rw [List.append_nil] at hread
    rw [readStart?, ← hread, print, String.toList_ofList]
  rw [read?, hstart]
  rfl

end Jukebox.Json
