import CloudReach.Proofs.Text

/-!
# Patterns

A pattern takes parts off the front of a text: single characters, or as many or as few characters of
a class as will do. The ways to take a part are tried in order, and the first one that lets the rest
of the pattern match is kept; so are the places in a text, from the left.
-/

namespace CloudReach.Text.Pattern

inductive Part
  | one (set : List Char)
  | most (p : Char → Bool)
  | fewest (p : Char → Bool)

/-- The ways to cut a text after characters of a class, the shortest cut first. -/
def cuts (p : Char → Bool) : List Char → List (List Char × List Char)
  | [] => [([], [])]
  | c :: rest =>
    ([], c :: rest) :: if p c then (cuts p rest).map fun way => (c :: way.1, way.2) else []

/-- The ways to take a part off the front of a text, in the order in which they are tried. -/
def Part.ways : Part → List Char → List (List Char × List Char)
  | one _, [] => []
  | one set, c :: rest => if c ∈ set then [([c], rest)] else []
  | most p, s => (cuts p s).reverse
  | fewest p, s => cuts p s

def matchHere? : List Part → List Char → Option (List (List Char))
  | [], _ => some []
  | part :: parts, s =>
    (part.ways s).findSome? fun way => (matchHere? parts way.2).map (way.1 :: ·)

def match? (parts : List Part) : List Char → Option (List (List Char))
  | [] => matchHere? parts []
  | c :: rest => (matchHere? parts (c :: rest)).or (match? parts rest)

def capture? (before : List Part) (part : Part) (after : List Part) (s : List Char) :
    Option (List Char) :=
  (match? (before ++ part :: after) s).bind fun taken => taken[before.length]?

variable {p : Char → Bool} {parts : List Part} {s : List Char}

/-! ### Ways to take a part -/

theorem mem_cuts {way : List Char × List Char} (h : way ∈ cuts p s) :
    s = way.1 ++ way.2 ∧ ∀ c ∈ way.1, p c = true := by
  induction s generalizing way with
  | nil =>
    obtain rfl := List.mem_singleton.mp h
    exact ⟨rfl, nofun⟩
  | cons c rest ih =>
    rcases List.mem_cons.mp h with rfl | h
    · exact ⟨rfl, nofun⟩
    · split at h
      · rename_i hc
        obtain ⟨way', hway', rfl⟩ := List.mem_map.mp h
        obtain ⟨hrest, hall⟩ := ih hway'
        exact ⟨congrArg (c :: ·) hrest, List.forall_mem_cons.mpr ⟨hc, hall⟩⟩
      · cases h

/-- The shortest cut comes first, and takes nothing. -/
theorem cuts_eq_cons (p : Char → Bool) (s : List Char) :
    ∃ longer, cuts p s = ([], s) :: longer := by
  cases s with
  | nil => exact ⟨[], rfl⟩
  | cons c rest => exact ⟨_, rfl⟩

/-- The longest cut comes last. -/
theorem cuts_eq_append (p : Char → Bool) (s : List Char) :
    ∃ shorter, cuts p s = shorter ++ [(s.takeWhile p, s.dropWhile p)] := by
  induction s with
  | nil => exact ⟨[], rfl⟩
  | cons c rest ih =>
    rw [cuts]
    by_cases hc : p c = true
    · obtain ⟨shorter, hshorter⟩ := ih
      rw [if_pos hc, hshorter, List.map_append, List.takeWhile_cons_of_pos hc,
        List.dropWhile_cons_of_pos hc]
      exact ⟨([], c :: rest) :: _, rfl⟩
    · rw [if_neg hc, List.takeWhile_cons_of_neg hc, List.dropWhile_cons_of_neg hc]
      exact ⟨[], rfl⟩

/-! ### Taking most and taking fewest -/

/-- If the rest of the pattern matches behind all characters of a class, most takes them all. -/
theorem matchHere?_most {u : List Char} {taken : List (List Char)} (hu : ∀ c ∈ u, p c = true)
    (hs : ∀ c, s.head? = some c → p c = false) (h : matchHere? parts s = some taken) :
    matchHere? (.most p :: parts) (u ++ s) = some (u :: taken) := by
  obtain ⟨shorter, hshorter⟩ := cuts_eq_append p (u ++ s)
  rw [matchHere?, Part.ways, hshorter, takeWhile_append_stop hu hs, dropWhile_append_stop hu hs,
    List.reverse_append, List.reverse_singleton, List.singleton_append, List.findSome?_cons, h]
  rfl

/-- If the rest of the pattern matches behind a text, and in no place within it, fewest takes that
text. -/
theorem matchHere?_fewest {u : List Char} {taken : List (List Char)} (hu : ∀ c ∈ u, p c = true)
    (hwithin : ∀ v w, u = v ++ w → w ≠ [] → matchHere? parts (w ++ s) = none)
    (h : matchHere? parts s = some taken) :
    matchHere? (.fewest p :: parts) (u ++ s) = some (u :: taken) := by
  have hcuts {β : Type} (f : List Char → List (List Char) → β) :
      (cuts p (u ++ s)).findSome? (fun way => (matchHere? parts way.2).map (f way.1)) =
        some (f u taken) := by
    induction u generalizing f with
    | nil =>
      obtain ⟨longer, hlonger⟩ := cuts_eq_cons p s
      rw [List.nil_append, hlonger, List.findSome?_cons, h]
      rfl
    | cons c u ih =>
      obtain ⟨hc, hu⟩ := List.forall_mem_cons.mp hu
      have hnone := hwithin [] (c :: u) rfl (List.cons_ne_nil c u)
      rw [List.cons_append] at hnone ⊢
      rw [cuts, if_pos hc, List.findSome?_cons, hnone, Option.map_none, List.findSome?_map]
      exact ih hu (fun v w hvw => hwithin (c :: v) w (congrArg (c :: ·) hvw)) fun v => f (c :: v)
  exact hcuts List.cons

/-- What is taken of a class is followed by a match of the rest of the pattern. -/
theorem of_matchHere?_cuts {part : Part} {taken : List (List Char)}
    (hways : ∀ way ∈ part.ways s, way ∈ cuts p s)
    (h : matchHere? (part :: parts) s = some taken) :
    ∃ u rest taken', s = u ++ rest ∧ (∀ c ∈ u, p c = true) ∧ matchHere? parts rest = some taken' := by
  obtain ⟨way, hway, htaken⟩ := List.exists_of_findSome?_eq_some h
  obtain ⟨taken', htaken', -⟩ := Option.map_eq_some_iff.mp htaken
  obtain ⟨hs, hall⟩ := mem_cuts (hways way hway)
  exact ⟨way.1, way.2, taken', hs, hall, htaken'⟩

theorem of_matchHere?_most {taken : List (List Char)}
    (h : matchHere? (.most p :: parts) s = some taken) :
    ∃ u rest taken', s = u ++ rest ∧ (∀ c ∈ u, p c = true) ∧ matchHere? parts rest = some taken' :=
  of_matchHere?_cuts (fun _ => List.mem_reverse.mp) h

theorem of_matchHere?_fewest {taken : List (List Char)}
    (h : matchHere? (.fewest p :: parts) s = some taken) :
    ∃ u rest taken', s = u ++ rest ∧ (∀ c ∈ u, p c = true) ∧ matchHere? parts rest = some taken' :=
  of_matchHere?_cuts (fun _ => id) h

/-! ### Characters of sets -/

def words : List (List Char) → List (List Char)
  | [] => [[]]
  | set :: sets => set.flatMap fun c => (words sets).map (c :: ·)

variable {sets : List (List Char)} {w : List Char}

theorem mem_words_cons {set : List Char} :
    w ∈ words (set :: sets) ↔ ∃ c ∈ set, ∃ v ∈ words sets, c :: v = w := by
  simp only [words, List.mem_flatMap, List.mem_map]

theorem length_of_mem_words (h : w ∈ words sets) : w.length = sets.length := by
  induction sets generalizing w with
  | nil =>
    obtain rfl := List.mem_singleton.mp h
    rfl
  | cons set sets ih =>
    obtain ⟨c, -, v, hv, rfl⟩ := mem_words_cons.mp h
    exact congrArg (· + 1) (ih hv)

theorem matchHere?_one {set : List Char} {taken : List (List Char)} :
    matchHere? (.one set :: parts) s = some taken ↔
      ∃ c ∈ set, ∃ rest taken', s = c :: rest ∧ matchHere? parts rest = some taken' ∧
        [c] :: taken' = taken := by
  cases s with
  | nil => simp [matchHere?, Part.ways]
  | cons c rest =>
    by_cases hc : c ∈ set
    · rw [matchHere?, Part.ways, if_pos hc, List.findSome?_singleton, Option.map_eq_some_iff]
      constructor
      · rintro ⟨taken', htaken', rfl⟩
        exact ⟨c, hc, rest, taken', rfl, htaken', rfl⟩
      · rintro ⟨d, -, rest', taken', ⟨⟩, htaken', rfl⟩
        exact ⟨taken', htaken', rfl⟩
    · rw [matchHere?, Part.ways, if_neg hc, List.findSome?_nil]
      refine iff_of_false nofun ?_
      rintro ⟨d, hd, rest', taken', ⟨⟩, -⟩
      exact hc hd

/-- Single characters match the texts that their sets spell. -/
theorem matchHere?_words {taken : List (List Char)} :
    matchHere? (sets.map .one ++ parts) s = some taken ↔
      ∃ w ∈ words sets, ∃ rest taken', s = w ++ rest ∧ matchHere? parts rest = some taken' ∧
        w.map ([·]) ++ taken' = taken := by
  induction sets generalizing s taken with
  | nil => simp [words]
  | cons set sets ih =>
    rw [List.map_cons, List.cons_append, matchHere?_one]
    constructor
    · rintro ⟨c, hc, rest, taken', rfl, htaken', rfl⟩
      obtain ⟨w, hw, rest', taken'', rfl, htaken'', rfl⟩ := ih.mp htaken'
      exact ⟨c :: w, mem_words_cons.mpr ⟨c, hc, w, hw, rfl⟩, rest', taken'', rfl, htaken'', rfl⟩
    · rintro ⟨w, hw, rest, taken', rfl, htaken', rfl⟩
      obtain ⟨c, hc, v, hv, rfl⟩ := mem_words_cons.mp hw
      exact ⟨c, hc, v ++ rest, v.map ([·]) ++ taken', rfl,
        ih.mpr ⟨v, hv, rest, taken', rfl, htaken', rfl⟩, rfl⟩

end CloudReach.Text.Pattern
