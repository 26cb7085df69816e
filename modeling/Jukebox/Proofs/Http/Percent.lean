import Jukebox.Http.Target
import Mathlib.Data.List.Basic

/-!
# Percent-encoding

Encoding a text replaces some of its characters by escapes, and decoding takes an escape for the byte that it stands
for.  If percent signs and hexadecimal digits are never replaced, as in a path, then the escapes that were in the text
before are still there and no others came to be, so encoding makes no difference to decoding:

    decode (utf8 (encode keep cs)) = decode (utf8 cs)               (decode_encode)

What is decoded is never longer than what it was decoded from (`length_decode_le`).
-/

namespace Jukebox.Text

/-! ## Bytes of texts -/

namespace Utf8

theorem encode_cons (c : Char) (cs : List Char) : encode (c :: cs) = String.utf8EncodeChar c ++ encode cs :=
  List.flatMap_cons

/-- A text is known by its bytes. -/
theorem encode_inj {cs cs' : List Char} : encode cs = encode cs' ↔ cs = cs' := by
  refine ⟨fun h => ?_, congrArg encode⟩
  have hbytes : cs.utf8Encode = cs'.utf8Encode := congrArg List.toByteArray h
  have hdecoded := congrArg ByteArray.utf8Decode? hbytes
  rw [List.utf8Decode?_utf8Encode, List.utf8Decode?_utf8Encode, Option.some_inj] at hdecoded
  exact List.toArray_inj hdecoded

theorem encodeChar_ascii {c : Char} (h : c.toNat < 0x80) : String.utf8EncodeChar c = [UInt8.ofNat c.toNat] :=
  if_pos (Nat.le_of_lt_succ h)

theorem le_of_mem_encodeChar {c : Char} {b : UInt8} (h : 0x80 ≤ c.toNat) (hb : b ∈ String.utf8EncodeChar c) :
    0x80 ≤ b.toNat := by
  have h' : ¬ c.val.toNat ≤ 127 := Nat.not_le.2 h
  unfold String.utf8EncodeChar at hb
  simp only [h', if_false] at hb
  split at hb
  · simp only [List.mem_cons, List.not_mem_nil, or_false] at hb
    rcases hb with rfl | rfl <;> simp only [UInt8.toNat_ofNat'] <;> omega
  · split at hb
    · simp only [List.mem_cons, List.not_mem_nil, or_false] at hb
      rcases hb with rfl | rfl | rfl <;> simp only [UInt8.toNat_ofNat'] <;> omega
    · simp only [List.mem_cons, List.not_mem_nil, or_false] at hb
      rcases hb with rfl | rfl | rfl | rfl <;> simp only [UInt8.toNat_ofNat'] <;> omega

theorem length_encode_le {cs cs' : List Char} (h : cs.Sublist cs') : (encode cs).length ≤ (encode cs').length := by
  induction h with
  | slnil => exact Nat.le_refl 0
  | cons c _ ih =>
    rw [encode_cons, List.length_append]
    exact Nat.le_trans ih (Nat.le_add_left _ _)
  | cons_cons c _ ih =>
    rw [encode_cons, encode_cons, List.length_append, List.length_append]
    exact Nat.add_le_add_left ih _

/-- Leaving characters out leaves fewer bytes. -/
theorem eq_of_sublist {cs cs' : List Char} (h : cs.Sublist cs') (hle : (encode cs').length ≤ (encode cs).length) :
    cs = cs' := by
  induction h with
  | slnil => rfl
  | cons c h _ =>
    have hpos : 0 < (String.utf8EncodeChar c).length := List.length_pos_iff.2 String.utf8EncodeChar_ne_nil
    have hless := length_encode_le h
    rw [encode_cons, List.length_append] at hle
    omega
  | cons_cons c h ih =>
    rw [encode_cons, encode_cons, List.length_append, List.length_append] at hle
    rw [ih (by omega)]

end Utf8

namespace Percent

/-- The character that a byte is by itself. -/
abbrev charOf (b : UInt8) : Char :=
  Char.ofNat b.toNat

/-! ## Decoding -/

theorem length_decode_le (bytes : List UInt8) : (decode bytes).length ≤ bytes.length := by
  fun_induction decode bytes with
  | case1 => exact Nat.le_refl 0
  | case2 h l rest high low hl hh ih => exact Nat.succ_le_succ (Nat.le_trans ih (Nat.le_add_right _ 2))
  | case3 h l rest hno ih => exact Nat.succ_le_succ ih
  | case4 rest hshort ih => exact Nat.succ_le_succ ih
  | case5 b rest hb ih => exact Nat.succ_le_succ ih

theorem decode_cons_of_ne {b : UInt8} (h : b ≠ 0x25) (rest : List UInt8) : decode (b :: rest) = b :: decode rest := by
  match rest with
  | [] => simp [decode, h]
  | [_] => simp [decode, h]
  | _ :: _ :: _ => rw [decode, if_neg h]

theorem decode_escape {h l : UInt8} {high low : Nat} (hh : Hex.value? (charOf h) = some high)
    (hl : Hex.value? (charOf l) = some low) (rest : List UInt8) :
    decode (0x25 :: h :: l :: rest) = (16 * high + low).toUInt8 :: decode rest := by
  rw [decode, if_pos rfl]
  simp only [hh, hl]

/-- After a percent sign, these bytes make it an escape. -/
def opensEscape : List UInt8 → Bool
  | h :: l :: _ => (Hex.value? (charOf h)).isSome && (Hex.value? (charOf l)).isSome
  | _ => false

/-- A percent sign that opens no escape stands for itself. -/
theorem decode_percent {rest : List UInt8} (h : opensEscape rest = false) :
    decode (0x25 :: rest) = 0x25 :: decode rest := by
  match rest with
  | [] => rfl
  | [_] => rfl
  | x :: y :: rest =>
    rw [decode, if_pos rfl]
    split
    · next hh hl => simp [opensEscape, hh, hl] at h
    · rfl

/-! ## Encoding -/

/-- A percent sign and two digits for the halves of a byte. -/
theorem encode_encodeByte (b : UInt8) : ∃ h l, Utf8.encode (encodeByte b) = [0x25, h, l] ∧
    Hex.value? (charOf h) = some (b.toNat / 16) ∧ Hex.value? (charOf l) = some (b.toNat % 16) := by
  have hdigit : ∀ n : Fin 16, ∃ d, String.utf8EncodeChar (Hex.capitalDigit n) = [d] ∧
      Hex.value? (charOf d) = some n.val := by
    intro n
    refine ⟨UInt8.ofNat (Hex.capitalDigit n).toNat, ?_, ?_⟩ <;> revert n <;> decide
  have hb := UInt8.toNat_lt b
  obtain ⟨h, hh, hhigh⟩ := hdigit ⟨b.toNat / 16, by omega⟩
  obtain ⟨l, hl, hlow⟩ := hdigit ⟨b.toNat % 16, by omega⟩
  refine ⟨h, l, ?_, hhigh, hlow⟩
  unfold encodeByte
  rw [Utf8.encode_cons, Utf8.encode_cons, hh, Utf8.encode_cons, hl]
  rfl

theorem decode_encodeByte (b : UInt8) (rest : List UInt8) :
    decode (Utf8.encode (encodeByte b) ++ rest) = b :: decode rest := by
  obtain ⟨h, l, hbytes, hhigh, hlow⟩ := encode_encodeByte b
  rw [hbytes]
  show decode (0x25 :: h :: l :: rest) = _
  rw [decode_escape hhigh hlow, Nat.div_add_mod]
  exact congrArg (· :: decode rest) (UInt8.ofNat_toNat)

/-- Bytes as they stand in an encoded text: those of characters that are not kept are escaped. -/
def escaped (keep : Char → Bool) (bytes : List UInt8) : List UInt8 :=
  bytes.flatMap fun b => if keep (charOf b) then [b] else Utf8.encode (encodeByte b)

section
variable {keep : Char → Bool} {b : UInt8} {bytes : List UInt8}

theorem escaped_cons_of_keep (h : keep (charOf b) = true) : escaped keep (b :: bytes) = b :: escaped keep bytes := by
  unfold escaped
  rw [List.flatMap_cons, if_pos h]
  rfl

theorem escaped_cons_of_not_keep (h : keep (charOf b) = false) :
    escaped keep (b :: bytes) = Utf8.encode (encodeByte b) ++ escaped keep bytes := by
  unfold escaped
  rw [List.flatMap_cons, if_neg (by rw [h]; exact Bool.false_ne_true)]

variable (hkeep : ∀ c, keep c = false → c ≠ '%' ∧ Hex.value? c = none)
include hkeep

theorem opensEscape_escaped (bytes : List UInt8) : opensEscape (escaped keep bytes) = opensEscape bytes := by
  -- A byte that is escaped is no digit, and neither is the percent sign in its place.
  have hdrop : ∀ b : UInt8, keep (charOf b) = false → ∀ rest, ∃ rest',
      escaped keep (b :: rest) = 0x25 :: rest' := by
    intro b hb rest
    obtain ⟨h, l, hbytes, -, -⟩ := encode_encodeByte b
    exact ⟨_, by rw [escaped_cons_of_not_keep hb, hbytes]; rfl⟩
  have hpercent : Hex.value? (charOf 0x25) = none := by decide
  cases bytes with
  | nil => rfl
  | cons h bytes =>
    cases hh : keep (charOf h) with
    | false =>
      obtain ⟨rest, hrest⟩ := hdrop h hh bytes
      have hno := (hkeep _ hh).2
      rw [hrest]
      cases bytes <;> cases rest <;> simp [opensEscape, hno, hpercent]
    | true =>
      rw [escaped_cons_of_keep hh]
      cases bytes with
      | nil => rfl
      | cons l bytes =>
        cases hl : keep (charOf l) with
        | false =>
          obtain ⟨rest, hrest⟩ := hdrop l hl bytes
          have hno := (hkeep _ hl).2
          rw [hrest]
          simp [opensEscape, hno, hpercent]
        | true =>
          rw [escaped_cons_of_keep hl]
          rfl

theorem decode_escaped (bytes : List UInt8) : decode (escaped keep bytes) = decode bytes := by
  have hpercent : keep (charOf 0x25) = true := by
    cases hdropped : keep (charOf 0x25) with
    | true => rfl
    | false => exact absurd rfl (hkeep _ hdropped).1
  have hdigit : ∀ {b : UInt8} {n : Nat}, Hex.value? (charOf b) = some n → keep (charOf b) = true := by
    intro b n hb
    cases hdropped : keep (charOf b) with
    | true => rfl
    | false =>
      rw [(hkeep _ hdropped).2] at hb
      cases hb
  fun_induction decode bytes with
  | case1 => rfl
  | case2 h l rest high low hl hh ih =>
    rw [escaped_cons_of_keep hpercent, escaped_cons_of_keep (hdigit hh), escaped_cons_of_keep (hdigit hl),
      decode_escape hh hl, ih]
  | case3 h l rest hno ih =>
    have hopens : opensEscape (h :: l :: rest) = false := by
      show ((Hex.value? (charOf h)).isSome && (Hex.value? (charOf l)).isSome) = false
      cases hh : Hex.value? (charOf h) with
      | none => rfl
      | some high =>
        cases hl : Hex.value? (charOf l) with
        | none => rfl
        | some low => exact (hno high low hh hl).elim
    rw [escaped_cons_of_keep hpercent, decode_percent ((opensEscape_escaped hkeep _).trans hopens), ih]
  | case4 rest hshort ih =>
    have hopens : opensEscape rest = false := by
      unfold opensEscape
      split
      · exact (hshort _ _ _ rfl).elim
      · rfl
    rw [escaped_cons_of_keep hpercent, decode_percent ((opensEscape_escaped hkeep _).trans hopens), ih]
  | case5 b rest hb ih =>
    cases hkept : keep (charOf b) with
    | true => rw [escaped_cons_of_keep hkept, decode_cons_of_ne hb, ih]
    | false => rw [escaped_cons_of_not_keep hkept, decode_encodeByte, ih]

omit hkeep

theorem charOf_ascii {c : Char} (h : c.toNat < 0x80) : charOf (UInt8.ofNat c.toNat) = c := by
  unfold charOf
  rw [UInt8.toNat_ofNat', Nat.mod_eq_of_lt (by omega), Char.ofNat_toNat]

theorem toNat_charOf (b : UInt8) : (charOf b).toNat = b.toNat := by
  have hb := UInt8.toNat_lt b
  have hvalid : b.toNat.isValidChar := Or.inl (by omega)
  unfold charOf Char.ofNat
  rw [dif_pos hvalid]
  rfl

/-- Characters that are not kept consist of bytes that are not kept. -/
theorem keep_charOf (hascii : ∀ c, keep c = true → c.toNat < 0x80) {c : Char}
    (hb : b ∈ String.utf8EncodeChar c) : keep (charOf b) = keep c := by
  rcases Nat.lt_or_ge c.toNat 0x80 with hc | hc
  · rw [Utf8.encodeChar_ascii hc, List.mem_singleton] at hb
    rw [hb, charOf_ascii hc]
  · have hle := Utf8.le_of_mem_encodeChar hc hb
    have hno : ∀ c : Char, 0x80 ≤ c.toNat → keep c = false := fun c hc =>
      Bool.eq_false_iff.2 fun hkept => absurd (hascii c hkept) (Nat.not_lt.2 hc)
    rw [hno c hc, hno (charOf b) (by rw [toNat_charOf]; exact hle)]

theorem encode_encode (hascii : ∀ c, keep c = true → c.toNat < 0x80) (cs : List Char) :
    Utf8.encode (encode keep cs) = escaped keep (Utf8.encode cs) := by
  unfold encode escaped Utf8.encode
  rw [List.flatMap_assoc, List.flatMap_assoc]
  refine List.flatMap_congr fun c _ => ?_
  cases hc : keep c with
  | true =>
    have hbytes : (String.utf8EncodeChar c).flatMap
        (fun b => if keep (charOf b) then [b] else (encodeByte b).flatMap String.utf8EncodeChar) =
        (String.utf8EncodeChar c).flatMap fun b => [b] :=
      List.flatMap_congr fun b hb => if_pos ((keep_charOf hascii hb).trans hc)
    rw [if_pos rfl, List.flatMap_singleton, hbytes, List.flatMap_singleton']
  | false =>
    rw [if_neg Bool.false_ne_true, List.flatMap_assoc]
    refine List.flatMap_congr fun b hb => (if_neg ?_).symm
    rw [(keep_charOf hascii hb).trans hc]
    exact Bool.false_ne_true

end

/-- Encoding makes no difference to decoding, if percent signs and digits are kept. -/
theorem decode_encode {keep : Char → Bool} (hascii : ∀ c, keep c = true → c.toNat < 0x80)
    (hkeep : ∀ c, keep c = false → c ≠ '%' ∧ Hex.value? c = none) (cs : List Char) :
    decode (Utf8.encode (encode keep cs)) = decode (Utf8.encode cs) := by
  rw [encode_encode hascii, decode_escaped hkeep]

/-- What is kept throughout is left alone. -/
theorem encode_eq_self {keep : Char → Bool} {cs : List Char} (h : ∀ c ∈ cs, keep c = true) : encode keep cs = cs := by
  unfold encode
  rw [List.flatMap_congr (g := fun c => [c]) fun c hc => if_pos (h c hc), List.flatMap_singleton']

/-- An escape consists of a percent sign and two capital digits. -/
theorem mem_encode {keep : Char → Bool} {cs : List Char} {c : Char} (h : c ∈ encode keep cs) :
    c ∈ cs ∧ keep c = true ∨ c = '%' ∨ ∃ n < 16, c = Hex.capitalDigit n := by
  obtain ⟨x, hx, hc⟩ := List.mem_flatMap.1 h
  split at hc
  · next hkept =>
    obtain rfl := List.mem_singleton.1 hc
    exact Or.inl ⟨hx, hkept⟩
  · obtain ⟨b, -, hc⟩ := List.mem_flatMap.1 hc
    have hb := UInt8.toNat_lt b
    unfold encodeByte at hc
    simp only [List.mem_cons, List.not_mem_nil, or_false] at hc
    rcases hc with rfl | rfl | rfl
    · exact Or.inr (Or.inl rfl)
    · exact Or.inr (Or.inr ⟨_, by omega, rfl⟩)
    · exact Or.inr (Or.inr ⟨_, by omega, rfl⟩)

/-! ## Parts of a text -/

theorem splitAt_cons_mark (mark : Char) (cs : List Char) : splitAt mark (mark :: cs) = [] :: splitAt mark cs :=
  if_pos rfl

theorem splitAt_cons_of_ne {mark c : Char} {cs first : List Char} {parts : List (List Char)} (hc : c ≠ mark)
    (hcs : splitAt mark cs = first :: parts) : splitAt mark (c :: cs) = (c :: first) :: parts := by
  unfold splitAt at hcs ⊢
  rw [List.foldr_cons, if_neg hc, hcs]

theorem splitAt_append {mark : Char} {part cs first : List Char} {parts : List (List Char)}
    (hpart : mark ∉ part) (hcs : splitAt mark cs = first :: parts) :
    splitAt mark (part ++ cs) = (part ++ first) :: parts := by
  induction part with
  | nil => exact hcs
  | cons c part ih =>
    obtain ⟨hc, hpart⟩ := not_or.1 (mt List.mem_cons.2 hpart)
    exact splitAt_cons_of_ne (Ne.symm hc) (ih hpart)

theorem splitAt_ne_nil (mark : Char) (cs : List Char) : splitAt mark cs ≠ [] := by
  induction cs with
  | nil => exact List.cons_ne_nil _ _
  | cons c cs ih =>
    by_cases hc : c = mark
    · rw [hc, splitAt_cons_mark]
      exact List.cons_ne_nil _ _
    · obtain ⟨first, parts, hcs⟩ := List.exists_cons_of_ne_nil ih
      rw [splitAt_cons_of_ne hc hcs]
      exact List.cons_ne_nil _ _

theorem splitAt_of_not_mem {mark : Char} {cs : List Char} (h : mark ∉ cs) : splitAt mark cs = [cs] := by
  have hnil : splitAt mark [] = [[]] := rfl
  have hsplit := splitAt_append h hnil
  rwa [List.append_nil] at hsplit

theorem of_mem_splitAt {mark : Char} {part cs : List Char} (h : part ∈ splitAt mark cs) :
    part.Sublist cs ∧ mark ∉ part := by
  induction cs generalizing part with
  | nil =>
    rw [List.mem_singleton.1 h]
    exact ⟨List.Sublist.refl _, List.not_mem_nil⟩
  | cons c cs ih =>
    by_cases hc : c = mark
    · rw [hc, splitAt_cons_mark] at h
      rcases List.mem_cons.1 h with rfl | h
      · exact ⟨List.nil_sublist _, List.not_mem_nil⟩
      · exact ⟨(ih h).1.cons c, (ih h).2⟩
    · obtain ⟨first, parts, hcs⟩ := List.exists_cons_of_ne_nil (splitAt_ne_nil mark cs)
      rw [splitAt_cons_of_ne hc hcs] at h
      rw [hcs] at ih
      rcases List.mem_cons.1 h with rfl | h
      · obtain ⟨hsub, hno⟩ := ih List.mem_cons_self
        exact ⟨hsub.cons_cons c, by simpa using ⟨Ne.symm hc, hno⟩⟩
      · obtain ⟨hsub, hno⟩ := ih (List.mem_cons_of_mem _ h)
        exact ⟨hsub.cons c, hno⟩

end Percent
end Jukebox.Text
