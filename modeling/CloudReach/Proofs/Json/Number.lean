import CloudReach.Json.Scalar
import CloudReach.Proofs.Json.Text
import Mathlib.Data.List.TakeDrop
import Mathlib.Data.Nat.Digits.Defs

/-!
# Numbers read and written

A whole number that fits is read as itself, and nothing that has a fraction, an exponent or a sign
is read as a whole number. Every number is passed over as far as it goes.
-/

namespace CloudReach.Json

variable {c : Char} {s t v w ds rest : List Char}

/-! ### Digits at the front of a text -/

theorem Number.spanDigits_eq (s : List Char) :
    spanDigits s = (s.takeWhile isDigit, s.dropWhile isDigit) :=
  List.span_eq_takeWhile_dropWhile isDigit s

theorem Digits.spanDigits (h : Digits ds) (hrest : ∀ c, rest.head? = some c → isDigit c = false) :
    Number.spanDigits (ds ++ rest) = (ds, rest) := by
  rw [Number.spanDigits_eq, Text.dropWhile_append_stop h.2 hrest,
    Text.takeWhile_append_stop h.2 hrest]

/-- Nothing that can follow a value could go on a number. -/
theorem Boundary.head (h : Boundary rest) (hc : rest.head? = some c) :
    isDigit c = false ∧ c ≠ '.' ∧ c ≠ 'e' ∧ c ≠ 'E' := by
  rcases h c hc with hblank | hmem
  · refine ⟨isDigit_eq_false_of_isBlank hblank, ?_, ?_, ?_⟩ <;>
      rintro rfl <;> exact absurd hblank (by decide)
  · simp only [List.mem_cons, List.not_mem_nil, or_false] at hmem
    obtain rfl | rfl | rfl := hmem <;> decide

theorem IsExponent.head (h : IsExponent w) (hc : w.head? = some c) : c = 'e' ∨ c = 'E' := by
  obtain rfl | ⟨e, _, _, he, -, -, rfl⟩ := h
  · cases hc
  · exact Option.some.inj hc ▸ he

theorem IsFraction.head (h : IsFraction w) (hc : w.head? = some c) : c = '.' := by
  obtain rfl | ⟨_, -, rfl⟩ := h
  · cases hc
  · exact (Option.some.inj hc).symm

/-- What follows the exponent of a number and the digits in front of it, or neither. -/
theorem head_append_exponent {exponent : List Char} (he : IsExponent exponent)
    (hrest : Boundary rest) (hc : (exponent ++ rest).head? = some c) :
    isDigit c = false ∧ c ≠ '.' := by
  cases exponent with
  | nil => exact ⟨(hrest.head hc).1, (hrest.head hc).2.1⟩
  | cons e exponent => obtain rfl | rfl := he.head hc <;> decide

theorem head_append_fraction {fraction exponent : List Char} (hf : IsFraction fraction)
    (he : IsExponent exponent) (hrest : Boundary rest)
    (hc : (fraction ++ (exponent ++ rest)).head? = some c) : isDigit c = false := by
  cases fraction with
  | nil => exact (head_append_exponent he hrest hc).1
  | cons d fraction =>
    obtain rfl := hf.head hc
    rfl

namespace Number

/-! ### Whole numbers only -/

variable {m : Mantissa} {x : Number} {positive : Bool} {n : Nat}

def IsFloating (x : Number) : Prop :=
  ∃ y, x = .floating y

theorem assemble_floating {e : Int} (h : assemble positive n e s = .ok (x, t)) :
    x.IsFloating := by
  obtain ⟨y, -, hx⟩ := map_eq_ok_iff.mp h
  cases hx
  exact ⟨_, rfl⟩

theorem readExponent_floating (h : readExponent m s = .ok (x, t)) : x.IsFloating := by
  unfold readExponent at h
  split at h
  split at h
  split at h
  · cases h
  · split at h
    · split at h
      · cases h
      · cases h
        exact ⟨_, rfl⟩
    · exact assemble_floating h

theorem readTail_floating (h : readTail m s = .ok (x, t)) : x.IsFloating := by
  unfold readTail at h
  split at h
  · exact readExponent_floating h
  · exact assemble_floating h

theorem readFraction_floating (h : readFraction m s = .ok (x, t)) : x.IsFloating := by
  unfold readFraction at h
  split at h
  split at h
  · exact readTail_floating h
  · split at h
    · cases h
    · exact readTail_floating h

/-- A natural number is read to its last digit, with no fraction and no exponent behind. -/
theorem readRest_natural {k : Nat} (h : readRest positive k s = .ok (.natural n, t)) :
    positive = true ∧ t = s.dropWhile isDigit ∧
      ∀ c, t.head? = some c → c ≠ '.' ∧ c ≠ 'e' ∧ c ≠ 'E' := by
  unfold readRest at h
  rw [spanDigits_eq] at h
  dsimp only at h
  split at h
  · obtain ⟨_, hy⟩ := readFraction_floating h
    cases hy
  · rename_i hpoint
    split at h
    · obtain ⟨_, hy⟩ := readTail_floating h
      cases hy
    · rename_i hexponent
      split at h
      · rename_i hpositive
        cases h
        refine ⟨hpositive, rfl, fun c hc => ⟨?_, ?_, ?_⟩⟩
        · rintro rfl
          exact hpoint hc
        · rintro rfl
          exact hexponent (.inl (by simp [startsExponent, hc]))
        · rintro rfl
          exact hexponent (.inl (by simp [startsExponent, hc]))
      · split at h <;> cases h

theorem fill_dropWhile (limit n count : Nat) (s : List Char) :
    (fill limit n count s).2.dropWhile isDigit = s.dropWhile isDigit := by
  induction s generalizing n count with
  | nil => rfl
  | cons c s ih =>
    rw [fill]
    split
    · rfl
    · rename_i d hd
      split
      · rw [ih, List.dropWhile_cons_of_pos (by simp [isDigit, hd])]
      · rfl

theorem read_natural (h : read positive s = .ok (.natural n, t)) :
    positive = true ∧ t = s.dropWhile isDigit ∧
      ∀ c, t.head? = some c → c ≠ '.' ∧ c ≠ 'e' ∧ c ≠ 'E' := by
  unfold read at h
  split at h
  · cases h
  · rename_i rest
    split at h
    · cases h
    · obtain ⟨hpositive, ht, hhead⟩ := readRest_natural h
      exact ⟨hpositive, ht, hhead⟩
  · split at h
    · dsimp only at h
      obtain ⟨hpositive, ht, hhead⟩ := readRest_natural h
      exact ⟨hpositive, ht.trans (fill_dropWhile _ 0 0 s), hhead⟩
    · cases h

/-! ### Written numbers -/

def push (n : Nat) (c : Char) : Nat :=
  10 * n + (c.toNat - 0x30)

theorem le_foldl_push (n : Nat) (ds : List Char) : n ≤ ds.foldl push n := by
  induction ds generalizing n with
  | nil => exact Nat.le_refl n
  | cons c ds ih => exact Nat.le_trans (by unfold push; omega) (ih (push n c))

theorem digit?_of_isDigit (h : isDigit c = true) : Text.digit? c = some (c.toNat - 0x30) := by
  unfold isDigit Text.digit? at h
  unfold Text.digit?
  split at h
  · rename_i hc
    rw [if_pos hc]
  · cases h

/-- Digits are taken as long as the number fits. -/
theorem fill_append (hds : ∀ c ∈ ds, isDigit c = true)
    (hrest : ∀ c, rest.head? = some c → isDigit c = false) {limit count : Nat}
    (hlt : ds.foldl push n < limit) :
    fill limit n count (ds ++ rest) = ((ds.foldl push n, count + ds.length), rest) := by
  induction ds generalizing n count with
  | nil =>
    cases rest with
    | nil => rfl
    | cons c rest =>
      have hc : Text.digit? c = none := by simpa [isDigit] using hrest c rfl
      rw [List.nil_append, fill, hc]
      rfl
  | cons c ds ih =>
    have hc := digit?_of_isDigit (hds c List.mem_cons_self)
    have hfits : 10 * n + (c.toNat - 0x30) < limit :=
      Nat.lt_of_le_of_lt (le_foldl_push (push n c) ds) hlt
    have hrec : fill limit (push n c) (count + 1) (ds ++ rest) =
        ((ds.foldl push (push n c), count + 1 + ds.length), rest) :=
      ih (fun d hd => hds d (List.mem_cons_of_mem c hd)) hlt
    rw [List.cons_append, fill, hc]
    dsimp only
    rw [if_pos hfits, List.length_cons, List.foldl_cons, Nat.add_comm ds.length, ← Nat.add_assoc]
    exact hrec

end Number

theorem isDigit_of_mem_digits {n : Nat} (h : c ∈ Text.digits n) : isDigit c = true := by
  have hdigit := Nat.isDigit_of_mem_toDigits (by decide) (by decide) h
  unfold Char.isDigit at hdigit
  simpa [isDigit, Text.digit?, Char.le_def] using hdigit

theorem digits_digits (n : Nat) : Digits (Text.digits n) :=
  ⟨Nat.toDigits_ne_nil, fun _ => isDigit_of_mem_digits⟩

theorem ofDigits_digits (n : Nat) : Text.ofDigits (Text.digits n) = n :=
  Nat.ofDigitChars_toDigits (by decide) (by decide)

theorem head?_digits {n : Nat} (h : (Text.digits n).head? = some '0') : n = 0 := by
  unfold Text.digits at h
  induction n using Nat.base_induction 10 (by decide) with
  | single m hm =>
    rw [Nat.toDigits_of_lt_base hm] at h
    have hzero : ∀ m < 10, m.digitChar = '0' → m = 0 := by decide
    exact hzero m hm (Option.some.inj h)
  | digit m k hk hm ih =>
    rw [← Nat.toDigits_append_toDigits (by decide) hm hk,
      List.head?_append_of_ne_nil _ Nat.toDigits_ne_nil] at h
    exact absurd (ih h) (Nat.ne_of_gt hm)

theorem isMagnitude_digits (n : Nat) : IsMagnitude (Text.digits n) := by
  refine ⟨Text.digits n, [], [], digits_digits n, fun h => ?_, .inl rfl, .inl rfl, by simp⟩
  rw [head?_digits h]
  rfl

namespace Number

theorem startsWithDigit_eq_false (h : ∀ c, s.head? = some c → isDigit c = false) :
    startsWithDigit s = false := by
  cases s with
  | nil => rfl
  | cons c s => exact h c rfl

theorem startsExponent_eq_false (h : ∀ c, s.head? = some c → c ≠ 'e' ∧ c ≠ 'E') :
    startsExponent s = false := by
  cases s with
  | nil => rfl
  | cons c s => simp [startsExponent, (h c rfl).1, (h c rfl).2]

theorem readRest_of_boundary {n : Nat} (hrest : Boundary rest) :
    readRest true n rest = .ok (.natural n, rest) := by
  have hspan : spanDigits rest = ([], rest) := by
    rw [spanDigits_eq]
    cases rest with
    | nil => rfl
    | cons c rest =>
      have hc : ¬ isDigit c = true := by simp [(hrest.head rfl).1]
      rw [List.takeWhile_cons_of_neg hc, List.dropWhile_cons_of_neg hc]
  have hpoint : rest.head? ≠ some '.' := fun h => (hrest.head h).2.1 rfl
  have hexponent := startsExponent_eq_false fun c hc => (hrest.head hc).2.2
  unfold readRest
  rw [hspan]
  dsimp only
  rw [if_neg hpoint, hexponent]
  rfl

theorem read_digits {n : Nat} (hn : n < UInt64.size) (hrest : Boundary rest) :
    read true (Text.digits n ++ rest) = .ok (.natural n, rest) := by
  have hstop : ∀ c, rest.head? = some c → isDigit c = false := fun c hc => (hrest.head hc).1
  by_cases hzero : n = 0
  · subst hzero
    have hread : read true ('0' :: rest) =
        if startsWithDigit rest then .error ⟨.badNumber, rest, 1⟩ else readRest true 0 rest := rfl
    rw [startsWithDigit_eq_false hstop] at hread
    exact hread.trans (readRest_of_boundary hrest)
  · obtain ⟨c, t, hct, hc⟩ := (digits_digits n).head
    have hvalue : (Text.digits n).foldl push 0 = n := ofDigits_digits n
    have hfill : fill UInt64.size 0 0 (Text.digits n ++ rest) =
        ((n, 0 + (Text.digits n).length), rest) := by
      rw [fill_append (digits_digits n).2 hstop (by rwa [hvalue]), hvalue]
    have hfront : c ≠ '0' := by
      rintro rfl
      exact hzero (head?_digits (by rw [hct]; rfl))
    rw [hct, List.cons_append] at hfill ⊢
    unfold read
    split
    · rename_i heq
      cases heq
    · rename_i heq
      exact absurd (List.cons.inj heq).1 hfront
    · have hdigit : startsWithDigit (c :: (t ++ rest)) = true := hc
      rw [if_pos hdigit, hfill]
      exact readRest_of_boundary hrest

end Number

/-! ### Readers of numbers -/

theorem IsValue.isMagnitude (h : IsValue (c :: t)) (hc : isDigit c = true) :
    IsMagnitude (c :: t) := by
  have hfrom := h.valueFrom
  unfold ValueFrom at hfrom
  split at hfrom
  case h_8 => exact hfrom.2
  all_goals exact absurd hc (by decide)

namespace Reader

variable {greatest n : Nat} {expected : String}

theorem bounded_eq_ok {x : Number} (h : bounded greatest expected x s = .ok (n, t)) :
    x = .natural n ∧ t = s := by
  unfold bounded at h
  split at h
  · split at h
    · cases h
      exact ⟨rfl, rfl⟩
    · cases h
  · cases h
  · cases h

/-- A text that is read as a natural number has nothing but digits. -/
theorem eq_of_read_natural (h : IsMagnitude v) (hrest : Boundary rest)
    (hread : Number.read true (v ++ rest) = .ok (.natural n, t)) : t = rest := by
  obtain ⟨whole, fraction, exponent, hwhole, -, hf, he, rfl⟩ := h
  obtain ⟨-, ht, hhead⟩ := Number.read_natural hread
  rw [List.append_assoc, List.append_assoc, Text.dropWhile_append_stop hwhole.2
    fun c hc => head_append_fraction hf he hrest hc] at ht
  subst ht
  cases fraction with
  | cons c fraction => exact absurd (hf.head rfl) (hhead c rfl).1
  | nil =>
    cases exponent with
    | nil => rfl
    | cons c exponent =>
      rcases he.head rfl with hc | hc
      · exact absurd hc (hhead c rfl).2.1
      · exact absurd hc (hhead c rfl).2.2

theorem refuses_negative :
    Refuses (do advance; bounded greatest expected (← number false)) := by
  refine .bind fun _ s p hok => ?_
  obtain ⟨x, t, hread, hbounded⟩ := bind_apply_eq_ok.mp hok
  obtain ⟨rfl, -⟩ := bounded_eq_ok hbounded
  cases (Number.read_natural hread).1

theorem passes_natural (h : IsValue v) : Passes (natural greatest expected) v := by
  obtain ⟨c, t, rfl, hfrom⟩ := h.exists_valueFrom
  refine .peek hfrom fun rest n s hrest hok => ?_
  generalize hx : some c = x at hok
  split at hok
  · exact absurd hok (refuses_negative _ _)
  · cases hx
    split at hok
    · rename_i hdigit
      obtain ⟨x, s', hread, hbounded⟩ := bind_apply_eq_ok.mp hok
      obtain ⟨rfl, rfl⟩ := bounded_eq_ok hbounded
      exact eq_of_read_natural (h.isMagnitude hdigit) hrest hread
    · exact absurd hok (refuses_refuseKind _ _ _ _)
  · cases hx

theorem reads_natural (hn : n ≤ greatest) (hsize : greatest < UInt64.size) :
    Reads (natural greatest expected) (Text.digits n) n := by
  obtain ⟨c, t, hct, hc⟩ := (digits_digits n).head
  rw [hct]
  have hblank : isBlank c = false :=
    eq_false_of_ne_true fun hblank => by simp [isDigit_eq_false_of_isBlank hblank] at hc
  refine .peek hblank fun rest hrest => ?_
  generalize hx : some c = x
  split
  · obtain rfl : c = '-' := Option.some.inj hx
    cases hc
  · cases hx
    have hread : number true (c :: (t ++ rest)) = .ok (.natural n, rest) := by
      rw [← List.cons_append, ← hct]
      exact Number.read_digits (Nat.lt_of_le_of_lt hn hsize) hrest
    have hdigit : (Text.digit? c).isSome = true := hc
    rw [if_pos hdigit, bind_apply_of_ok hread]
    simp only [bounded, if_pos hn]
    rfl
  · cases hx

theorem passes_word64 (h : IsValue v) : Passes (word64 expected) v :=
  (passes_natural h).map

theorem reads_word64 (expected : String) (n : UInt64) :
    Reads (word64 expected) (Text.digits n.toNat) n := by
  have hread : Reads (word64 expected) (Text.digits n.toNat) (UInt64.ofNat n.toNat) :=
    (reads_natural (Nat.le_sub_one_of_lt n.toNat_lt) (by decide)).map
  rwa [UInt64.ofNat_toNat] at hread

end Reader

/-! ### Numbers passed over -/

namespace Number

variable {fraction exponent : List Char}

theorem skipExponent_append {sign : List Char} (hsign : sign = [] ∨ sign = ['+'] ∨ sign = ['-'])
    (hds : Digits ds) (hrest : Boundary rest) : skipExponent (sign ++ (ds ++ rest)) = .ok rest := by
  have hspan : spanDigits (ds ++ rest) = (ds, rest) :=
    hds.spanDigits fun c hc => (hrest.head hc).1
  obtain ⟨c, t, rfl, hc⟩ := hds.head
  have hdigit : startsWithDigit (c :: t ++ rest) = true := hc
  have hunsigned : (if (sign ++ (c :: t ++ rest)).head? = some '+' ∨
      (sign ++ (c :: t ++ rest)).head? = some '-' then (sign ++ (c :: t ++ rest)).drop 1
      else sign ++ (c :: t ++ rest)) = c :: t ++ rest := by
    obtain rfl | rfl | rfl := hsign
    · refine if_neg ?_
      rintro (h | h) <;> cases h <;> cases hc
    · rfl
    · rfl
  unfold skipExponent
  rw [hunsigned]
  dsimp only
  rw [if_pos hdigit, hspan]

theorem skipTail_append (he : IsExponent exponent) (hrest : Boundary rest) :
    skipTail (exponent ++ rest) = .ok rest := by
  unfold skipTail
  obtain rfl | ⟨e, sign, ds, hletter, hsign, hds, rfl⟩ := he
  · rw [List.nil_append, startsExponent_eq_false fun c hc => (hrest.head hc).2.2]
    rfl
  · have hstarts : startsExponent (e :: (sign ++ ds) ++ rest) = true := by
      obtain rfl | rfl := hletter <;> rfl
    rw [if_pos hstarts, List.cons_append, List.append_assoc]
    exact skipExponent_append hsign hds hrest

theorem skip_append (h : IsMagnitude v) (hrest : Boundary rest) : skip (v ++ rest) = .ok rest := by
  obtain ⟨whole, fraction, exponent, hwhole, hzero, hf, he, rfl⟩ := h
  have hspan := hwhole.spanDigits fun c hc => head_append_fraction hf he hrest hc
  have hsome : ¬ whole.isEmpty = true := fun hempty => hwhole.1 (List.isEmpty_iff.mp hempty)
  have hleading : ¬ (whole.head? = some '0' ∧ 1 < whole.length) := by
    rintro ⟨hhead, hlength⟩
    rw [hzero hhead] at hlength
    exact absurd hlength (by decide)
  unfold skip
  rw [List.append_assoc, List.append_assoc, hspan]
  dsimp only
  rw [if_neg hsome, if_neg hleading]
  obtain rfl | ⟨ds, hds, rfl⟩ := hf
  · have hpoint : ([] ++ (exponent ++ rest)).head? ≠ some '.' := fun hc =>
      (head_append_exponent he hrest hc).2 rfl
    rw [if_neg hpoint]
    exact skipTail_append he hrest
  · have hspan' := hds.spanDigits fun c hc => (head_append_exponent he hrest hc).1
    rw [List.cons_append, List.head?_cons, if_pos rfl, List.drop_one, List.tail_cons, hspan']
    dsimp only
    rw [if_neg (by simpa using hds.1)]
    exact skipTail_append he hrest

end Number

end CloudReach.Json
