import CloudReach.Text.Blank

/-!
# Texts without certain characters

`FreeOf marks s` says that none of the marks stands in a text. Cutting a text at separators leaves
pieces that are free of them.
-/

namespace CloudReach.Text

def FreeOf (marks s : List Char) : Prop :=
  ∀ c ∈ marks, c ∉ s

variable {marks s t : List Char}

theorem forall_mem_of_all {P : Char → Prop} [DecidablePred P]
    (h : (marks.all fun c => decide (P c)) = true) : ∀ c ∈ marks, P c := fun c hc =>
  of_decide_eq_true (List.all_eq_true.mp h c hc)

instance (marks s : List Char) : Decidable (FreeOf marks s) :=
  decidable_of_iff ((marks.all fun c => !s.contains c) = true) (by simp [FreeOf])

@[simp] theorem freeOf_nil : FreeOf marks [] := fun _ _ => List.not_mem_nil

@[simp] theorem freeOf_append : FreeOf marks (s ++ t) ↔ FreeOf marks s ∧ FreeOf marks t := by
  simp only [FreeOf, List.mem_append, not_or]
  exact ⟨fun h => ⟨fun c hc => (h c hc).1, fun c hc => (h c hc).2⟩,
    fun h c hc => ⟨h.1 c hc, h.2 c hc⟩⟩

@[simp] theorem freeOf_cons {c : Char} : FreeOf marks (c :: s) ↔ c ∉ marks ∧ FreeOf marks s := by
  simp only [FreeOf, List.mem_cons, not_or]
  constructor
  · intro h
    exact ⟨fun hc => (h c hc).1 rfl, fun d hd => (h d hd).2⟩
  · rintro ⟨hc, hs⟩ d hd
    exact ⟨fun heq => hc (heq ▸ hd), hs d hd⟩

theorem FreeOf.subset {marks' : List Char} (h : FreeOf marks s) (hsub : marks' ⊆ marks) :
    FreeOf marks' s :=
  fun c hc => h c (hsub hc)

theorem toNat_lt_of_isAlpha {c : Char} (h : c.isAlpha = true) : c.toNat < 128 := by
  have hbound : c.val ≤ 'z'.val := by
    rcases (Bool.or_eq_true _ _).mp h with hupper | hlower
    · exact UInt32.le_trans (of_decide_eq_true hupper).2 (by decide)
    · exact of_decide_eq_true ((Bool.and_eq_true _ _).mp hlower).2
  exact Nat.lt_of_le_of_lt (UInt32.le_iff_toNat_le.mp hbound) (by decide)

theorem forall_ascii {P : Char → Prop} (h : ∀ n < 128, P (Char.ofNat n)) {c : Char}
    (hc : c.toNat < 128) : P c := by
  have hn := h c.toNat hc
  rwa [Char.ofNat_toNat] at hn

variable {α : Type} {p : α → Bool}

theorem takeWhile_append_stop {l rest : List α} (hl : ∀ a ∈ l, p a = true)
    (hrest : ∀ a, rest.head? = some a → p a = false) : (l ++ rest).takeWhile p = l := by
  rw [List.takeWhile_append_of_pos hl]
  cases rest with
  | nil => simp
  | cons a rest => simp [hrest a rfl]

theorem dropWhile_append_stop {l rest : List α} (hl : ∀ a ∈ l, p a = true)
    (hrest : ∀ a, rest.head? = some a → p a = false) : (l ++ rest).dropWhile p = rest := by
  rw [List.dropWhile_append_of_pos hl]
  cases rest with
  | nil => rfl
  | cons a rest => rw [List.dropWhile_cons_of_neg (by simp [hrest a rfl])]

theorem splitOn_ne_nil (p : α → Bool) (l : List α) : splitOn p l ≠ [] := by
  cases l with
  | nil => exact List.cons_ne_nil _ _
  | cons a l =>
    rw [splitOn]
    split
    · exact List.cons_ne_nil _ _
    · split <;> exact List.cons_ne_nil _ _

theorem splitOn_of_free {l : List α} (hl : ∀ a ∈ l, p a = false) : splitOn p l = [l] := by
  induction l with
  | nil => rfl
  | cons a l ih =>
    obtain ⟨ha, hl⟩ := List.forall_mem_cons.mp hl
    rw [splitOn, if_neg (by simp [ha]), ih hl]

/-- What stands on either side of a separator is cut by itself. -/
theorem splitOn_append_sep {l rest : List α} {a : α} (ha : p a = true) :
    splitOn p (l ++ a :: rest) = splitOn p l ++ splitOn p rest := by
  induction l with
  | nil => simp [splitOn, ha]
  | cons b l ih =>
    rw [List.cons_append, splitOn, splitOn, ih]
    by_cases hb : p b = true
    · rw [if_pos hb, if_pos hb, List.cons_append]
    · obtain ⟨first, others, hpieces⟩ := List.exists_cons_of_ne_nil (splitOn_ne_nil p l)
      rw [if_neg hb, if_neg hb, hpieces]
      rfl

/-- The piece in front of a separator is cut off. -/
theorem splitOn_append_cons {l rest : List α} {a : α} (hl : ∀ b ∈ l, p b = false)
    (ha : p a = true) : splitOn p (l ++ a :: rest) = l :: splitOn p rest := by
  rw [splitOn_append_sep ha, splitOn_of_free hl, List.singleton_append]

theorem splitOn_intercalate {sep : α} (hsep : p sep = true) {pieces : List (List α)}
    (hne : pieces ≠ []) (hpieces : ∀ piece ∈ pieces, ∀ a ∈ piece, p a = false) :
    splitOn p ([sep].intercalate pieces) = pieces := by
  induction pieces with
  | nil => exact absurd rfl hne
  | cons piece rest ih =>
    obtain ⟨hpiece, hrest⟩ := List.forall_mem_cons.mp hpieces
    cases rest with
    | nil => rw [List.intercalate_singleton, splitOn_of_free hpiece]
    | cons next rest =>
      rw [List.intercalate_cons_cons, List.append_assoc, List.singleton_append,
        splitOn_append_cons hpiece hsep, ih (List.cons_ne_nil _ _) hrest]

/-- Pieces with their separators in between make up what was cut. -/
theorem intercalate_splitOn [BEq α] [LawfulBEq α] (sep : α) (l : List α) :
    [sep].intercalate (splitOn (· == sep) l) = l := by
  induction l with
  | nil => rfl
  | cons a l ih =>
    obtain ⟨first, others, hpieces⟩ := List.exists_cons_of_ne_nil (splitOn_ne_nil (· == sep) l)
    rw [splitOn]
    by_cases ha : (a == sep) = true
    · rw [if_pos ha, hpieces, List.intercalate_cons_cons, ← hpieces, ih, eq_of_beq ha]
      rfl
    · rw [if_neg ha, hpieces]
      rw [hpieces] at ih
      cases others with
      | nil =>
        rw [List.intercalate_singleton] at ih ⊢
        rw [ih]
      | cons next others =>
        rw [List.intercalate_cons_cons] at ih ⊢
        rw [List.cons_append, List.cons_append, ih]

theorem of_mem_splitOn {l piece : List α} (h : piece ∈ splitOn p l) :
    ∀ a ∈ piece, a ∈ l ∧ p a = false := by
  induction l generalizing piece with
  | nil =>
    obtain rfl := List.mem_singleton.mp h
    exact fun a ha => absurd ha List.not_mem_nil
  | cons b l ih =>
    have widen {piece : List α} (h : piece ∈ splitOn p l) : ∀ a ∈ piece, a ∈ b :: l ∧ p a = false :=
      fun a ha => ⟨List.mem_cons_of_mem _ (ih h a ha).1, (ih h a ha).2⟩
    rw [splitOn] at h
    split at h
    · rcases List.mem_cons.mp h with rfl | h
      · exact fun a ha => absurd ha List.not_mem_nil
      · exact widen h
    · rename_i hb
      have hb : p b = false := by simpa using hb
      split at h
      · rename_i hnil
        exact absurd hnil (splitOn_ne_nil p l)
      · rename_i first rest hsplit
        rw [hsplit] at widen
        rcases List.mem_cons.mp h with rfl | h
        · intro a ha
          rcases List.mem_cons.mp ha with rfl | ha
          · exact ⟨List.mem_cons_self, hb⟩
          · exact widen List.mem_cons_self a ha
        · exact widen (List.mem_cons_of_mem _ h)

end CloudReach.Text
