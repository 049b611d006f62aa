import CloudReach.Percent

/-!
# Escapes

Decoding undoes encoding if the percent sign is one of the characters that are escaped. An encoded
text holds no character of the set besides the percent signs and digits of its escapes.
-/

namespace CloudReach.Percent

theorem hexDigit?_hexDigit : ∀ n < 16, Text.hexDigit? (hexDigit n) = some n := by decide

def IsEscapeChar (c : Char) : Prop :=
  c = '%' ∨ (Text.hexDigit? c).isSome

instance (c : Char) : Decidable (IsEscapeChar c) :=
  inferInstanceAs (Decidable (_ ∨ _))

theorem isEscapeChar_of_mem_escape {b : UInt8} {c : Char} (h : c ∈ escape b) : IsEscapeChar c := by
  have hb := b.toNat_lt
  simp only [escape, List.mem_cons, List.not_mem_nil, or_false] at h
  rcases h with rfl | rfl | rfl
  · exact .inl rfl
  · rw [IsEscapeChar, hexDigit?_hexDigit _ (by omega)]
    exact .inr rfl
  · rw [IsEscapeChar, hexDigit?_hexDigit _ (by omega)]
    exact .inr rfl

theorem mem_encode {escaped : Char → Bool} {s : List Char} {c : Char} (h : c ∈ encode escaped s) :
    (c ∈ s ∧ escaped c = false) ∨ IsEscapeChar c := by
  obtain ⟨d, hd, hc⟩ := List.mem_flatMap.mp h
  unfold encodeChar at hc
  split at hc
  · rename_i hplain
    obtain rfl := List.mem_singleton.mp hc
    simp only [Bool.and_eq_true, Bool.not_eq_true'] at hplain
    exact .inl ⟨hd, hplain.2⟩
  · obtain ⟨b, -, hb⟩ := List.mem_flatMap.mp hc
    exact .inr (isEscapeChar_of_mem_escape hb)

theorem utf8EncodeChar_ne_nil (c : Char) : String.utf8EncodeChar c ≠ [] := by
  intro hbytes
  have hsize := c.utf8Size_pos
  rw [← String.length_utf8EncodeChar, hbytes] at hsize
  exact absurd hsize (Nat.lt_irrefl 0)

theorem encodeChar_ne_nil (escaped : Char → Bool) (c : Char) : encodeChar escaped c ≠ [] := by
  unfold encodeChar
  split
  · exact List.cons_ne_nil _ _
  · rw [Ne, List.flatMap_eq_nil_iff]
    intro hnone
    have hbytes : String.utf8EncodeChar c = [] :=
      List.eq_nil_iff_forall_not_mem.mpr fun b hb => List.cons_ne_nil _ _ (hnone b hb)
    exact utf8EncodeChar_ne_nil c hbytes

theorem encodeChar_of_plain {escaped : Char → Bool} {c : Char} (hascii : c.toNat < 0x80)
    (hc : escaped c = false) : encodeChar escaped c = [c] := by
  rw [encodeChar, if_pos (by simp [hascii, hc])]

theorem encodeChar_of_percent_notMem {escaped : Char → Bool} {c : Char}
    (h : '%' ∉ encodeChar escaped c) : encodeChar escaped c = [c] := by
  unfold encodeChar at h ⊢
  split
  · rfl
  · rename_i hplain
    rw [if_neg hplain] at h
    obtain ⟨b, bytes, hbytes⟩ := List.exists_cons_of_ne_nil (utf8EncodeChar_ne_nil c)
    rw [hbytes, List.flatMap_cons] at h
    exact absurd List.mem_cons_self h

/-- What is written without a percent sign is written as it is. -/
theorem encode_of_percent_notMem {escaped : Char → Bool} {s : List Char}
    (h : '%' ∉ encode escaped s) : encode escaped s = s := by
  induction s with
  | nil => rfl
  | cons c s ih =>
    rw [encode, List.flatMap_cons, List.mem_append, not_or] at h
    have hs : s.flatMap (encodeChar escaped) = s := ih h.2
    rw [encode, List.flatMap_cons, encodeChar_of_percent_notMem h.1, hs, List.singleton_append]

theorem encode_eq_nil_iff {escaped : Char → Bool} {s : List Char} :
    encode escaped s = [] ↔ s = [] := by
  cases s with
  | nil => simp [encode]
  | cons c s => simp [encode, encodeChar_ne_nil]

/-- What an encoded text starts with, the text starts with, unless it is an escape. -/
theorem head?_of_head?_encode {escaped : Char → Bool} {s : List Char} {c : Char}
    (hc : ¬ IsEscapeChar c) (h : (encode escaped s).head? = some c) : s.head? = some c := by
  cases s with
  | nil => cases h
  | cons d s =>
    obtain ⟨e, rest, hd⟩ := List.exists_cons_of_ne_nil (encodeChar_ne_nil escaped d)
    rw [encode, List.flatMap_cons, hd, List.cons_append, List.head?_cons] at h
    have hmem : c ∈ encode escaped [d] := by
      rw [encode, List.flatMap_singleton, hd, Option.some.inj h]
      exact List.mem_cons_self
    rcases mem_encode hmem with ⟨hd, -⟩ | hescape
    · rw [List.mem_singleton.mp hd, List.head?_cons]
    · exact absurd hescape hc

theorem decode_escape (b : UInt8) (rest : List Char) :
    decode (escape b ++ rest) = b :: decode rest := by
  have hb := b.toNat_lt
  have hhigh := hexDigit?_hexDigit (b.toNat / 16) (by omega)
  have hlow := hexDigit?_hexDigit (b.toNat % 16) (by omega)
  change decode ('%' :: hexDigit (b.toNat / 16) :: hexDigit (b.toNat % 16) :: rest) = _
  rw [decode, hhigh, hlow]
  change UInt8.ofNat (16 * (b.toNat / 16) + b.toNat % 16) :: _ = _
  rw [Nat.div_add_mod, UInt8.ofNat_toNat]

theorem decode_flatMap_escape (bytes : List UInt8) (rest : List Char) :
    decode (bytes.flatMap escape ++ rest) = bytes ++ decode rest := by
  induction bytes with
  | nil => rfl
  | cons b bytes ih =>
    rw [List.flatMap_cons, List.append_assoc, decode_escape, ih, List.cons_append]

theorem decode_cons_of_ne {c : Char} (h : c ≠ '%') (rest : List Char) :
    decode (c :: rest) = String.utf8EncodeChar c ++ decode rest := by
  rw [decode]
  rintro _ _ _ rfl
  exact absurd rfl h

/-- Decoding gives the bytes of the text that was encoded. -/
theorem decode_encode {escaped : Char → Bool} (h : escaped '%' = true) (s : List Char) :
    decode (encode escaped s) = s.flatMap String.utf8EncodeChar := by
  induction s with
  | nil => rfl
  | cons c s ih =>
    rw [encode, List.flatMap_cons, List.flatMap_cons, encodeChar]
    change decode (_ ++ encode escaped s) = _
    split
    · rename_i hplain
      have hc : c ≠ '%' := by
        rintro rfl
        simp [h] at hplain
      rw [List.singleton_append, decode_cons_of_ne hc, ih]
    · rw [decode_flatMap_escape, ih]

theorem text?_flatMap_utf8EncodeChar (s : List Char) :
    text? (s.flatMap String.utf8EncodeChar) = some (String.ofList s) := by
  have hbytes : (⟨(s.flatMap String.utf8EncodeChar).toArray⟩ : ByteArray) = s.utf8Encode :=
    ByteArray.ext List.data_toByteArray.symm
  rw [text?, hbytes, String.fromUTF8?, dif_pos (.intro s rfl)]
  rfl

/-- A text can be read back from its escaped form. -/
theorem text?_decode_encode {escaped : Char → Bool} (h : escaped '%' = true) (s : List Char) :
    text? (decode (encode escaped s)) = some (String.ofList s) := by
  rw [decode_encode h, text?_flatMap_utf8EncodeChar]

end CloudReach.Percent
