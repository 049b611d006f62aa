import CloudReach.Proofs.Json.Reader

/-!
# Strings read and written

Every spelling of a string is read as that string, and passed over as far as its closing quote. The
library writes one of the spellings.
-/

namespace CloudReach.Json

variable {c : Char} {s t w rest : List Char}

theorem readUnit_append {unit : Nat} (h : SpellsUnit unit w) :
    readUnit (w ++ rest) = .ok (unit, rest) := by
  obtain ⟨a, b, c, d, x, y, z, t, rfl, ha, hb, hc, hd, rfl⟩ := h
  simp [readUnit, ha, hb, hc, hd]

/-! ### Characters up to the closing quote -/

section ReadChars

variable {escape : List Char → Except Failure (Char × List Char)} {seen : Nat}

theorem readChars_quote : readChars escape seen ('"' :: rest) = .ok ([], rest) := by
  rw [readChars, if_pos rfl]

theorem readChars_plain (hquote : c ≠ '"') (hslash : c ≠ '\\') (hcontrol : ¬ c < ' ') :
    readChars escape seen (c :: rest) =
      (readChars escape seen rest).map fun r => (c :: r.1, r.2) := by
  rw [readChars, if_neg hquote, if_neg hslash, if_neg hcontrol]

theorem readChars_escape (h : escape t = .ok (c, rest)) (hlt : rest.length < t.length) :
    readChars escape seen ('\\' :: t) =
      (readChars escape seen rest).map fun r => (c :: r.1, r.2) := by
  rw [readChars, if_neg (by decide), if_pos rfl, h]
  dsimp only
  rw [if_pos hlt]

end ReadChars

theorem readEscape_letter {l : Char} (h : (c, l) ∈ ('/', '/') :: shortEscapes) :
    readEscape (l :: rest) = .ok (c, rest) := by
  simp only [shortEscapes, List.mem_cons, Prod.mk.injEq, List.not_mem_nil, or_false] at h
  rcases h with ⟨rfl, rfl⟩ | ⟨rfl, rfl⟩ | ⟨rfl, rfl⟩ | ⟨rfl, rfl⟩ | ⟨rfl, rfl⟩ | ⟨rfl, rfl⟩ |
    ⟨rfl, rfl⟩ | ⟨rfl, rfl⟩ <;> rfl

theorem skipEscape_letter {l : Char} (h : (c, l) ∈ ('/', '/') :: shortEscapes) :
    skipEscape (l :: rest) = .ok (c, rest) := by
  have hu : l ≠ 'u' := by
    rintro rfl
    simp [shortEscapes] at h
  rw [skipEscape]
  · exact readEscape_letter h
  · rintro _ ⟨⟩
    exact hu rfl

theorem not_surrogate (c : Char) : c.toNat < 0xD800 ∨ 0xDFFF < c.toNat :=
  c.valid.imp id And.left

theorem readUnits_unit (h : SpellsUnit c.toNat w) : readUnits (w ++ rest) = .ok (c, rest) := by
  have hc := not_surrogate c
  unfold readUnits
  rw [readUnit_append h]
  dsimp only [bind, Except.bind]
  rw [if_neg (by omega), if_neg (by omega), Char.ofNat_toNat]

theorem readUnits_pair {high low : Nat} {v : List Char} (hhigh : 0xD800 ≤ high)
    (hhigh' : high ≤ 0xDBFF) (hlow : 0xDC00 ≤ low) (hlow' : low ≤ 0xDFFF)
    (hv : SpellsUnit high v) (hw : SpellsUnit low w)
    (hc : c.toNat = 0x10000 + (high - 0xD800) * 0x400 + (low - 0xDC00)) :
    readUnits (v ++ '\\' :: 'u' :: (w ++ rest)) = .ok (c, rest) := by
  have hsecond : readLowUnit ('\\' :: 'u' :: (w ++ rest)) = .ok (low, rest) := by
    rw [readLowUnit, readUnit_append hw]
    dsimp only [bind, Except.bind]
    rw [if_pos ⟨hlow, hlow'⟩]
  unfold readUnits
  rw [readUnit_append hv]
  dsimp only [bind, Except.bind]
  rw [if_neg (by omega), if_pos ⟨hhigh, hhigh'⟩, hsecond]
  dsimp only
  rw [← hc, Char.ofNat_toNat]

theorem readChars_readEscape {seen : Nat} (h : SpellsChar c w) :
    readChars readEscape seen (w ++ rest) =
      (readChars readEscape seen rest).map fun r => (c :: r.1, r.2) := by
  cases h with
  | plain hquote hslash hcontrol => exact readChars_plain hquote hslash hcontrol
  | letter h => exact readChars_escape (readEscape_letter h) (by simp)
  | @unit w h =>
    have hread : readEscape ('u' :: (w ++ rest)) = .ok (c, rest) := readUnits_unit h
    have hshorter : rest.length < ('u' :: (w ++ rest)).length := by
      rw [List.length_cons, List.length_append]
      omega
    exact readChars_escape hread hshorter
  | @pair high low v w hhigh hhigh' hlow hlow' hv hw hc =>
    have hread : readEscape ('u' :: (v ++ '\\' :: 'u' :: (w ++ rest))) = .ok (c, rest) :=
      readUnits_pair hhigh hhigh' hlow hlow' hv hw hc
    rw [List.append_assoc]
    exact readChars_escape hread (by simp; omega)

namespace Reader

theorem skipChars_escape (h : skipEscape t = .ok (c, rest)) (hlt : rest.length < t.length) :
    skipChars ('\\' :: t) = skipChars rest := by
  unfold skipChars
  rw [readChars_escape h hlt]
  cases readChars skipEscape 0 rest <;> rfl

theorem skipChars_unit {unit : Nat} (h : SpellsUnit unit w) :
    skipChars ('\\' :: 'u' :: (w ++ rest)) = skipChars rest := by
  have hskip : skipEscape ('u' :: (w ++ rest)) = .ok ('u', rest) := by
    rw [skipEscape, readUnit_append h]
    rfl
  have hshorter : rest.length < ('u' :: (w ++ rest)).length := by
    rw [List.length_cons, List.length_append]
    omega
  exact skipChars_escape hskip hshorter

theorem skipChars_char (h : SpellsChar c w) : skipChars (w ++ rest) = skipChars rest := by
  cases h with
  | plain hquote hslash hcontrol =>
    unfold skipChars
    rw [List.singleton_append, readChars_plain hquote hslash hcontrol]
    cases readChars skipEscape 0 rest <;> rfl
  | letter h => exact skipChars_escape (skipEscape_letter h) (by simp)
  | unit h => exact skipChars_unit h
  | pair _ _ _ _ hv hw _ =>
    rw [List.append_assoc]
    exact (skipChars_unit hv).trans (skipChars_unit hw)

/-! ### Whole strings -/

theorem chars_append {text : List Char} (h : SpellsChars text w) :
    chars (w ++ '"' :: rest) = .ok (String.ofList text, rest) := by
  have hread : readChars readEscape 1 (w ++ '"' :: rest) = .ok (text, rest) := by
    induction h with
    | nil => exact readChars_quote
    | cons hc _ ih =>
      rw [List.append_assoc, readChars_readEscape hc, ih]
      rfl
  unfold chars
  rw [hread]
  rfl

theorem skipChars_append {text : List Char} (h : SpellsChars text w) :
    skipChars (w ++ '"' :: rest) = .ok ((), rest) := by
  induction h with
  | nil =>
    unfold skipChars
    rw [List.nil_append, readChars_quote]
    rfl
  | cons hc _ ih => rw [List.append_assoc, skipChars_char hc, ih]

theorem reads_textAs {text : String} (expected : String) (h : SpellsText text w) :
    Reads (textAs expected) w text := by
  obtain ⟨body, hbody, rfl⟩ := h
  refine .peek rfl fun rest _ => ?_
  have hchars : chars (body ++ '"' :: rest) = .ok (String.ofList text.toList, rest) :=
    chars_append hbody
  rw [String.ofList_toList] at hchars
  rw [List.append_assoc]
  exact (bind_advance _).trans hchars

theorem passes_textAs (expected : String) (h : IsValue w) : Passes (textAs expected) w := by
  obtain ⟨c, t, rfl, hfrom⟩ := h.exists_valueFrom
  by_cases hc : c = '"'
  · subst hc
    obtain ⟨text, htext⟩ : ∃ text, SpellsText text ('"' :: t) := hfrom
    exact (reads_textAs expected htext).passes
  · refine .peek hfrom fun rest a s _ hok => ?_
    generalize hx : some c = x at hok
    split at hok
    · exact absurd (Option.some.inj hx) hc
    · exact absurd hok (refuses_refuseKind _ _ _ _)

end Reader

/-! ### Written strings -/

theorem hexDigit?_digitChar : ∀ n < 16, Text.hexDigit? (Nat.digitChar n) = some n := by decide

theorem spellsChar_writeChar (c : Char) : SpellsChar c (writeChar c) := by
  unfold writeChar
  split
  · rename_i letter hletter
    obtain ⟨_, _, heq, -⟩ := List.lookup_eq_some_iff.mp hletter
    exact .letter (List.mem_cons_of_mem _ (heq ▸ by simp))
  · rename_i hnone
    split
    · rename_i hcontrol
      have hlt : c.toNat < 32 := hcontrol
      refine .unit ⟨'0', '0', _, _, 0, 0, _, _, rfl, rfl, rfl,
        hexDigit?_digitChar _ (by omega), hexDigit?_digitChar _ (by omega), by omega⟩
    · rename_i hcontrol
      have hplain := List.lookup_eq_none_iff.mp hnone
      refine .plain ?_ ?_ hcontrol
      · rintro rfl
        exact absurd (hplain ('"', '"') (by decide)) (by decide)
      · rintro rfl
        exact absurd (hplain ('\\', '\\') (by decide)) (by decide)

theorem spellsText_writeText (text : String) : SpellsText text (writeText text) := by
  refine ⟨text.toList.flatMap writeChar, ?_, rfl⟩
  induction text.toList with
  | nil => exact .nil
  | cons c s ih => exact .cons (spellsChar_writeChar c) ih

end CloudReach.Json
