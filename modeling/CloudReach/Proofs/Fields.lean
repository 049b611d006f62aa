import CloudReach.Text.Digits
import Mathlib.Algebra.Ring.Nat
import Mathlib.Data.List.Forall2

/-!
# Fields of digits

Numbers written one after the other, each in digits of a fixed number and with a character behind
it. Where every number fits its field, the text has the form of the layout, the numbers can be read
back at their places, and texts of one layout are in the order of the lists of their numbers.
-/

namespace CloudReach.Text

/-! ### Digits of a fixed number -/

def lowDigits : Nat → Nat → List Char
  | 0, _ => []
  | k + 1, n => lowDigits k (n / 10) ++ [(n % 10).digitChar]

variable {k m n : Nat} {s t : List Char}

theorem div_ten_lt (h : n < 10 ^ (k + 1)) : n / 10 < 10 ^ k := by
  rw [Nat.pow_succ] at h
  omega

theorem length_lowDigits (k n : Nat) : (lowDigits k n).length = k := by
  induction k generalizing n with
  | zero => rfl
  | succ k ih => rw [lowDigits, List.length_append, ih, List.length_singleton]

theorem lowDigits_zero (k : Nat) : lowDigits k 0 = List.replicate k '0' := by
  induction k with
  | zero => rfl
  | succ k ih => rw [lowDigits, Nat.zero_div, ih, List.replicate_succ']; rfl

/-- A number is filled up to its last digits, if it has no more. -/
theorem padded_eq_lowDigits (h : n < 10 ^ (k + 1)) : padded (k + 1) n = lowDigits (k + 1) n := by
  induction k generalizing n with
  | zero =>
    have hn : n < 10 := h
    rw [padded, digits, Nat.toDigits_of_lt_base hn, lowDigits, Nat.mod_eq_of_lt hn]
    rfl
  | succ k ih =>
    have hrec := ih (div_ten_lt h)
    rw [lowDigits, ← hrec]
    by_cases hn : n < 10
    · rw [padded, padded, digits, digits, Nat.div_eq_of_lt hn, Nat.toDigits_of_lt_base hn,
        Nat.mod_eq_of_lt hn, Nat.toDigits_zero]
      exact congrArg (· ++ [n.digitChar]) List.replicate_succ'
    · have hten : 10 ≤ n := Nat.le_of_not_lt hn
      rw [padded, padded, digits, digits, Nat.toDigits_of_base_le (by decide) hten,
        List.length_append, List.length_singleton, Nat.add_sub_add_right, List.append_assoc]

theorem isDigit_of_mem_lowDigits {c : Char} (h : c ∈ lowDigits k n) : c.isDigit = true := by
  induction k generalizing n with
  | zero => exact absurd h List.not_mem_nil
  | succ k ih =>
    rcases List.mem_append.mp h with hfirst | hlast
    · exact ih hfirst
    · have hdigit : ∀ d < 10, d.digitChar.isDigit = true := by decide
      rw [List.mem_singleton.mp hlast]
      exact hdigit _ (Nat.mod_lt n (by decide))

theorem ofDigits_lowDigits (h : n < 10 ^ k) : ofDigits (lowDigits k n) = n := by
  induction k generalizing n with
  | zero => exact (Nat.lt_one_iff.mp h).symm
  | succ k ih =>
    have hdigit : ∀ d < 10, d.digitChar.toNat - 0x30 = d := by decide
    have hrec : ofDigits (lowDigits k (n / 10)) = n / 10 := ih (div_ten_lt h)
    unfold ofDigits at hrec ⊢
    rw [lowDigits, List.foldl_append, hrec, List.foldl_cons, List.foldl_nil,
      hdigit _ (Nat.mod_lt n (by decide))]
    omega

theorem digitChar_lt_iff (hm : m < 10) (hn : n < 10) : m.digitChar < n.digitChar ↔ m < n := by
  have hall : ∀ m < 10, ∀ n < 10, m.digitChar < n.digitChar ↔ m < n := by decide
  exact hall m hm n hn

theorem digitChar_inj (hm : m < 10) (hn : n < 10) : m.digitChar = n.digitChar ↔ m = n := by
  have hall : ∀ m < 10, ∀ n < 10, m.digitChar = n.digitChar ↔ m = n := by decide
  exact hall m hm n hn

/-- Texts that begin with as many digits are in the order of the numbers, and of the rests behind
equal numbers. -/
theorem lowDigits_append_lt_iff (hm : m < 10 ^ k) (hn : n < 10 ^ k) :
    lowDigits k m ++ s < lowDigits k n ++ t ↔ m < n ∨ m = n ∧ s < t := by
  induction k generalizing m n s t with
  | zero =>
    have hm : m = 0 := Nat.lt_one_iff.mp hm
    have hn : n = 0 := Nat.lt_one_iff.mp hn
    simp [lowDigits, hm, hn]
  | succ k ih =>
    have hlast : m % 10 < 10 := Nat.mod_lt m (by decide)
    have hlast' : n % 10 < 10 := Nat.mod_lt n (by decide)
    rw [lowDigits, lowDigits, List.append_assoc, List.append_assoc,
      ih (div_ten_lt hm) (div_ten_lt hn), List.singleton_append, List.singleton_append,
      List.cons_lt_cons_iff, digitChar_lt_iff hlast hlast', digitChar_inj hlast hlast']
    by_cases hst : s < t <;> simp only [hst, and_true, and_false, or_false] <;> omega

/-! ### Layouts -/

abbrev Layout := List (Nat × Char)

namespace Layout

def write : Layout → List Nat → List Char
  | (width, mark) :: fields, n :: ns => lowDigits width n ++ mark :: write fields ns
  | _, _ => []

def read : Layout → List Char → List Nat
  | [], _ => []
  | (width, _) :: fields, s => ofDigits (s.take width) :: read fields (s.drop (width + 1))

def pattern (fields : Layout) : List Char :=
  fields.write (fields.map fun _ => 0)

abbrev Fits : Layout → List Nat → Prop :=
  List.Forall₂ fun field n => n < 10 ^ field.1

end Layout

/-- Each character is that of the pattern, or any digit in the place of a zero. -/
abbrev Matches : List Char → List Char → Prop :=
  List.Forall₂ fun p c => if p = '0' then c.isDigit = true else c = p

theorem matches_lowDigits (k n : Nat) : Matches (List.replicate k '0') (lowDigits k n) := by
  refine List.forall₂_iff_get.mpr ⟨by rw [List.length_replicate, length_lowDigits], ?_⟩
  intro i hi hi'
  rw [List.get_eq_getElem, List.getElem_replicate, if_pos rfl]
  exact isDigit_of_mem_lowDigits (List.get_mem ..)

namespace Layout

variable {fields : Layout} {ns ms : List Nat}

/-- A number that fits its field is filled up to its width. -/
theorem write_cons {c : Char} (h : n < 10 ^ (k + 1)) :
    write ((k + 1, c) :: fields) (n :: ns) = padded (k + 1) n ++ c :: write fields ns := by
  rw [padded_eq_lowDigits h]
  rfl

/-- What is written has the form of the layout. -/
theorem matches_write (h : fields.Fits ns) : Matches fields.pattern (fields.write ns) := by
  induction h with
  | nil => exact .nil
  | @cons field n fields ns _ _ ih =>
    have hmark : if field.2 = '0' then field.2.isDigit = true else field.2 = field.2 := by
      split
      · next hzero => rw [hzero]; rfl
      · rfl
    unfold pattern at ih ⊢
    rw [List.map_cons, write, write, lowDigits_zero]
    exact List.rel_append (matches_lowDigits ..) (.cons hmark ih)

/-- What is written is read back. -/
theorem read_write (h : fields.Fits ns) : fields.read (fields.write ns) = ns := by
  induction h with
  | nil => rfl
  | @cons field n fields ns hn _ ih =>
    have hlen := length_lowDigits field.1 n
    rw [write, read, List.take_left' hlen, ofDigits_lowDigits hn, ← List.drop_drop,
      List.drop_left' hlen, List.drop_one, List.tail_cons, ih]

/-- What is written is in the order of what is read. -/
theorem write_lt_write_iff (hn : fields.Fits ns) (hm : fields.Fits ms) :
    fields.write ns < fields.write ms ↔ ns < ms := by
  induction hn generalizing ms with
  | nil =>
    cases hm
    simp [write]
  | @cons field n fields ns hfit _ ih =>
    obtain _ | ⟨hfit', hfits'⟩ := hm
    rw [write, write, lowDigits_append_lt_iff hfit hfit', List.cons_lt_cons_self, ih hfits',
      List.cons_lt_cons_iff]

end Layout

end CloudReach.Text
