import CloudReach.Proofs.Json.Number
import CloudReach.Proofs.Json.Text

/-!
# The text of written values

What is written of a value is spelled in the sense of the grammar: an object by its members, each
with the text of its value. Line breaks are escaped, so a written value stands on one line.
-/

namespace CloudReach.Json.Value

/-! ### Spelling -/

theorem isValue_digits (n : Nat) : IsValue (Text.digits n) :=
  .magnitude (isMagnitude_digits n)

theorem spellsMember (key : String) (v : List Char) :
    SpellsMember (key, v) (writeText key ++ ':' :: v) :=
  ⟨_, [], [], spellsText_writeText key, blank_nil, blank_nil, rfl⟩

def spelled (m : String × Value) : String × List Char :=
  (m.1, m.2.chars)

@[simp] theorem spelled_number (key : String) (n : Nat) :
    spelled (key, number n) = (key, Text.digits n) := by
  rw [spelled, chars]

def memberText (m : String × Value) : List Char :=
  writeText m.1 ++ ':' :: m.2.chars

theorem memberChars_singleton (m : String × Value) : memberChars [m] = memberText m := by
  rw [memberChars, memberText]

theorem memberChars_cons_cons (m m' : String × Value) (members : List (String × Value)) :
    memberChars (m :: m' :: members) = memberText m ++ ',' :: memberChars (m' :: members) := by
  rw [memberChars, memberText]
  exact fun h => nomatch h

theorem separated_memberChars (m : String × Value) (members : List (String × Value)) :
    Separated ((m :: members).map memberText) (memberChars (m :: members)) := by
  induction members generalizing m with
  | nil =>
    rw [memberChars_singleton, ← List.append_nil (memberText m)]
    exact .one blank_nil blank_nil
  | cons m' members ih =>
    rw [memberChars_cons_cons]
    exact .more blank_nil blank_nil (ih m')

theorem spellsObject_chars (members : List (String × Value)) :
    SpellsObject (members.map spelled) (object members).chars := by
  refine ⟨members.map memberText, memberChars members, ?_, ?_, by rw [chars]; rfl⟩
  · exact List.forall₂_map_left_iff.mpr (List.forall₂_map_right_iff.mpr
      (List.forall₂_same.mpr fun m _ => spellsMember m.1 m.2.chars))
  · cases members with
    | nil => exact .inl ⟨rfl, by rw [memberChars]; exact blank_nil⟩
    | cons m members => exact .inr (separated_memberChars m members)

theorem spellsGiven_chars {δ : Type} {key : δ → String} {spells : δ → List Char → Prop}
    {given : List δ} {members : List (String × Value)} (hnodup : (given.map key).Nodup)
    (h : List.Forall₂ (fun x m => m.1 = key x ∧ spells x m.2.chars) given members) :
    SpellsGiven key spells given (object members).chars :=
  ⟨hnodup, _, List.forall₂_map_right_iff.mpr h, spellsObject_chars members⟩

mutual

theorem isValue_chars : (v : Value) → IsValue v.chars
  | text s => by
    rw [chars]
    exact .text (spellsText_writeText s)
  | number n => by
    rw [chars]
    exact isValue_digits n
  | object members => .object (spellsObject_chars members)
      (List.forall_mem_map.mpr (isValue_of_mem members))

theorem isValue_of_mem : (members : List (String × Value)) →
    ∀ m ∈ members, IsValue (spelled m).2
  | [] => fun _ hm => absurd hm List.not_mem_nil
  | (_, v) :: rest => List.forall_mem_cons.mpr ⟨isValue_chars v, isValue_of_mem rest⟩

end

/-! ### Line breaks -/

theorem digitChar_ne_lineBreak : ∀ n < 16, Nat.digitChar n ≠ '\n' := by decide

theorem freeOf_writeChar (c : Char) : Text.FreeOf ['\n'] (writeChar c) := by
  unfold writeChar
  split
  · rename_i letter hletter
    obtain ⟨front, back, heq, -⟩ := List.lookup_eq_some_iff.mp hletter
    have hletters : ∀ p ∈ shortEscapes, p.2 ≠ '\n' := by decide
    have hl : letter ≠ '\n' := hletters (c, letter) (heq ▸ by simp)
    simp [hl]
  · split
    · rename_i hcontrol
      have hlt : c.toNat < 32 := hcontrol
      have hhigh := digitChar_ne_lineBreak (c.toNat / 16) (by omega)
      have hlow := digitChar_ne_lineBreak (c.toNat % 16) (by omega)
      simp [hhigh, hlow]
    · rename_i hcontrol
      have hc : c ≠ '\n' := by
        rintro rfl
        exact hcontrol (by decide)
      simp [hc]

theorem freeOf_writeText (s : String) : Text.FreeOf ['\n'] (writeText s) := by
  have hinside : Text.FreeOf ['\n'] (s.toList.flatMap writeChar) := by
    intro d hd hmem
    obtain ⟨c, -, hdc⟩ := List.mem_flatMap.mp hmem
    exact freeOf_writeChar c d hd hdc
  simp [writeText, hinside]

theorem freeOf_digits (n : Nat) : Text.FreeOf ['\n'] (Text.digits n) := by
  intro c hc hmem
  obtain rfl := List.mem_singleton.mp hc
  exact absurd (isDigit_of_mem_digits hmem) (by decide)

mutual

/-- A written value stands on one line. -/
theorem freeOf_chars : (v : Value) → Text.FreeOf ['\n'] v.chars
  | text s => by
    rw [chars]
    exact freeOf_writeText s
  | number n => by
    rw [chars]
    exact freeOf_digits n
  | object members => by
    rw [chars]
    simp [freeOf_memberChars members]

theorem freeOf_memberChars : (members : List (String × Value)) →
    Text.FreeOf ['\n'] (memberChars members)
  | [] => by simp [memberChars]
  | [(key, v)] => by simp [memberChars, freeOf_writeText key, freeOf_chars v]
  | (key, v) :: m :: rest => by
    rw [memberChars_cons_cons]
    simp [memberText, freeOf_writeText key, freeOf_chars v, freeOf_memberChars (m :: rest)]

end

end CloudReach.Json.Value
