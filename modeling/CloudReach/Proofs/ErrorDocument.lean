import CloudReach.ErrorDocument
import CloudReach.Proofs.Pattern
import Mathlib.Data.List.DropRight

/-!
# Fields of error documents

A field is the trimmed text of the first element of its name, and nothing else of the document
matters to it. It is also what a pattern of tags captures between blanks.
-/

namespace CloudReach

open Text (isSpace trim dropEndWhile)

/-! ### Trimmed text -/

namespace Text

variable {α : Type} {p : α → Bool} {l : List α}

theorem head?_dropWhile {a : α} (h : (l.dropWhile p).head? = some a) : p a = false := by
  have hnot := List.head?_dropWhile_not p l
  rwa [h] at hnot

theorem getLast?_dropEndWhile {a : α} (h : (dropEndWhile p l).getLast? = some a) : p a = false := by
  rw [dropEndWhile, List.getLast?_reverse] at h
  exact head?_dropWhile h

theorem exists_dropEndWhile_append (p : α → Bool) (l : List α) :
    ∃ dropped, dropEndWhile p l ++ dropped = l ∧ ∀ a ∈ dropped, p a = true :=
  ⟨l.rtakeWhile p, List.rdropWhile_append_rtakeWhile, fun _ => List.mem_rtakeWhile_imp⟩

variable {t : List Char} {c : Char}

theorem getLast?_trim (h : (trim t).getLast? = some c) : isSpace c = false :=
  getLast?_dropEndWhile h

theorem head?_trim (h : (trim t).head? = some c) : isSpace c = false := by
  obtain ⟨dropped, hdropped, -⟩ := exists_dropEndWhile_append isSpace (t.dropWhile isSpace)
  refine head?_dropWhile (l := t) ?_
  rw [← hdropped, List.head?_append]
  exact Option.or_eq_some_iff.mpr (.inl h)

theorem mem_of_mem_trim (h : c ∈ trim t) : c ∈ t := by
  obtain ⟨dropped, hdropped, -⟩ := exists_dropEndWhile_append isSpace (t.dropWhile isSpace)
  have hmem : c ∈ t.dropWhile isSpace := hdropped ▸ List.mem_append_left dropped h
  exact (List.dropWhile_suffix isSpace).subset hmem

end Text

namespace ErrorDocument

open Text.Pattern

/-! ### Elements -/

abbrev Name := List (List Char)

def openingTag (name : Name) : List (List Char) :=
  ['<'] :: name ++ [['>']]

def closingTag (name : Name) : List (List Char) :=
  ['<'] :: ['/'] :: name ++ [['>']]

/-- An element stands at the start of a text: both tags, each in one of its spellings, and between
them a text in which no other tag begins. -/
def Starts (name : Name) (t s : List Char) : Prop :=
  '<' ∉ t ∧ ∃ first ∈ words (openingTag name), ∃ last ∈ words (closingTag name), ∃ rest,
    s = first ++ (t ++ (last ++ rest))

def IsFirst (name : Name) (i : Nat) (t s : List Char) : Prop :=
  Starts name t (s.drop i) ∧ ∀ j < i, ∀ t', ¬ Starts name t' (s.drop j)

variable {name : Name} {s t : List Char}

/-- All spellings of a tag have the same length, so it does not matter which of them is found. -/
theorem afterTag?_eq_some_iff {sets : List (List Char)} {rest : List Char} :
    afterTag? (words sets) s = some rest ↔ ∃ w ∈ words sets, s = w ++ rest := by
  rw [afterTag?, Option.map_eq_some_iff]
  constructor
  · rintro ⟨w, hw, rfl⟩
    have hprefix : w <+: s := List.isPrefixOf_iff_prefix.mp (List.find?_eq_some_iff_append.mp hw).1
    obtain ⟨rest, rfl⟩ := hprefix
    exact ⟨w, List.mem_of_find?_eq_some hw, by rw [List.drop_left]⟩
  · rintro ⟨w, hw, rfl⟩
    have hsome : ((words sets).find? (·.isPrefixOf (w ++ rest))).isSome = true :=
      List.find?_isSome.mpr ⟨w, hw, List.isPrefixOf_iff_prefix.mpr (List.prefix_append w rest)⟩
    obtain ⟨v, hv⟩ := Option.isSome_iff_exists.mp hsome
    have hlength : v.length = w.length :=
      (length_of_mem_words (List.mem_of_find?_eq_some hv)).trans (length_of_mem_words hw).symm
    exact ⟨v, hv, by rw [hlength, List.drop_left]⟩

theorem head?_closingTag_append {w : List Char} (h : w ∈ words (closingTag name))
    (rest : List Char) : (w ++ rest).head? = some '<' := by
  obtain ⟨c, hc, v, -, rfl⟩ := mem_words_cons.mp h
  obtain rfl := List.mem_singleton.mp hc
  rfl

/-- Text without a tag ends where a tag begins. -/
theorem takeWhile_of_tag {rest : List Char} (ht : '<' ∉ t) (hrest : rest.head? = some '<') :
    (t ++ rest).takeWhile (· != '<') = t := by
  refine Text.takeWhile_append_stop (fun c hc => ?_) fun c hc => ?_
  · have hne : c ≠ '<' := fun heq => ht (heq ▸ hc)
    simpa using hne
  · obtain rfl : '<' = c := Option.some.inj (hrest.symm.trans hc)
    rfl

theorem elementHere?_eq_some_iff :
    elementHere? (words (openingTag name)) (words (closingTag name)) s = some t ↔
      Starts name t s := by
  unfold elementHere? Starts
  simp only [Option.bind_eq_bind, Option.bind_eq_some_iff, afterTag?_eq_some_iff, Option.pure_def,
    Option.some.injEq]
  constructor
  · rintro ⟨inside, ⟨first, hfirst, rfl⟩, rest, ⟨last, hlast, hclose⟩, rfl⟩
    refine ⟨fun hmem => ?_, first, hfirst, last, hlast, rest, ?_⟩
    · exact absurd (List.all_eq_true.mp List.all_takeWhile '<' hmem) (by decide)
    · rw [← hclose, List.prefix_iff_eq_append.mp (List.takeWhile_prefix _)]
  · rintro ⟨ht, first, hfirst, last, hlast, rest, rfl⟩
    have hinside : (t ++ (last ++ rest)).takeWhile (· != '<') = t :=
      takeWhile_of_tag ht (head?_closingTag_append hlast rest)
    refine ⟨_, ⟨first, hfirst, rfl⟩, rest, ⟨last, hlast, ?_⟩, hinside⟩
    rw [hinside, List.drop_left]

theorem elementHere?_eq_none_iff :
    elementHere? (words (openingTag name)) (words (closingTag name)) s = none ↔
      ∀ t, ¬ Starts name t s := by
  simp only [Option.eq_none_iff_forall_ne_some, ne_eq, elementHere?_eq_some_iff]

theorem not_starts_nil : ¬ Starts name t [] := by
  rintro ⟨-, first, hfirst, last, hlast, rest, hnil⟩
  have hlength := length_of_mem_words hfirst
  rw [(List.append_eq_nil_iff.mp hnil.symm).1] at hlength
  cases hlength

/-! ### The first element -/

theorem isFirst_zero : IsFirst name 0 t s ↔ Starts name t s := by
  simp [IsFirst]

theorem isFirst_succ {i : Nat} {c : Char} :
    IsFirst name (i + 1) t (c :: s) ↔ (∀ t', ¬ Starts name t' (c :: s)) ∧ IsFirst name i t s := by
  constructor
  · rintro ⟨hstarts, hbefore⟩
    refine ⟨hbefore 0 (Nat.zero_lt_succ i), hstarts, fun j hj => ?_⟩
    exact hbefore (j + 1) (Nat.succ_lt_succ hj)
  · rintro ⟨hhere, hstarts, hbefore⟩
    refine ⟨hstarts, fun j hj => ?_⟩
    cases j with
    | zero => exact hhere
    | succ j => exact hbefore j (Nat.lt_of_succ_lt_succ hj)

theorem element?_eq_some_iff :
    element? (words (openingTag name)) (words (closingTag name)) s = some t ↔
      ∃ i, IsFirst name i t s := by
  induction s with
  | nil =>
    refine iff_of_false nofun ?_
    rintro ⟨i, hstarts, -⟩
    rw [List.drop_nil] at hstarts
    exact not_starts_nil hstarts
  | cons c s ih =>
    rw [element?, Option.or_eq_some_iff, ih, elementHere?_eq_some_iff, elementHere?_eq_none_iff]
    constructor
    · rintro (hhere | ⟨hnot, i, hlater⟩)
      · exact ⟨0, isFirst_zero.mpr hhere⟩
      · exact ⟨i + 1, isFirst_succ.mpr ⟨hnot, hlater⟩⟩
    · rintro ⟨i, hfirst⟩
      cases i with
      | zero => exact .inl (isFirst_zero.mp hfirst)
      | succ i =>
        obtain ⟨hnot, hlater⟩ := isFirst_succ.mp hfirst
        exact .inr ⟨hnot, i, hlater⟩

theorem element?_eq_none (h : ∀ i t, ¬ Starts name t (s.drop i)) :
    element? (words (openingTag name)) (words (closingTag name)) s = none := by
  refine Option.eq_none_iff_forall_ne_some.mpr fun t ht => ?_
  obtain ⟨i, hstarts, -⟩ := element?_eq_some_iff.mp ht
  exact h i t hstarts

/-! ### What a pattern captures -/

theorem not_mem_of_blank {u : List Char} (hu : ∀ c ∈ u, isSpace c = true) : '<' ∉ u := fun hmem =>
  absurd (hu '<' hmem) (by decide)

def innerParts (name : Name) : List Part :=
  .most isSpace :: .fewest (· != '<') :: .most isSpace :: (closingTag name).map .one

theorem matchHere?_closingTag :
    (∃ taken, matchHere? ((closingTag name).map .one) s = some taken) ↔
      ∃ last ∈ words (closingTag name), ∃ rest, s = last ++ rest := by
  rw [← List.append_nil ((closingTag name).map Part.one)]
  simp only [matchHere?_words, matchHere?]
  constructor
  · rintro ⟨taken, last, hlast, rest, taken', rfl, -⟩
    exact ⟨last, hlast, rest, rfl⟩
  · rintro ⟨last, hlast, rest, rfl⟩
    exact ⟨_, last, hlast, rest, [], rfl, rfl, rfl⟩

/-- Blanks in front of a closing tag are all the text there is. -/
theorem matchHere?_blanks {u last rest : List Char} {taken : List (List Char)} (hu : '<' ∉ u)
    (hlast : last ∈ words (closingTag name))
    (h : matchHere? (.most isSpace :: (closingTag name).map .one) (u ++ (last ++ rest)) =
      some taken) : ∀ c ∈ u, isSpace c = true := by
  obtain ⟨blanks, rest', taken', hcut, hblanks, htaken'⟩ := of_matchHere?_most h
  obtain ⟨last', hlast', rest'', rfl⟩ := matchHere?_closingTag.mp ⟨taken', htaken'⟩
  have hsame : u = blanks := by
    rw [← takeWhile_of_tag hu (head?_closingTag_append hlast rest), hcut,
      takeWhile_of_tag (not_mem_of_blank hblanks) (head?_closingTag_append hlast' rest'')]
  rw [hsame]
  exact hblanks

/-- The last character of a trimmed text is not blank, so no end of it stands among the blanks in
front of a closing tag. -/
theorem matchHere?_end_of_trim {v w dropped last rest : List Char} (ht : '<' ∉ t)
    (htrim : trim t = v ++ w) (hw : w ≠ []) (hdropped : '<' ∉ dropped)
    (hlast : last ∈ words (closingTag name)) :
    matchHere? (.most isSpace :: (closingTag name).map .one) (w ++ (dropped ++ (last ++ rest))) =
      none := by
  refine Option.eq_none_iff_forall_ne_some.mpr fun taken htaken => ?_
  have hfree : '<' ∉ w ++ dropped := by
    rw [List.mem_append, not_or]
    refine ⟨fun hmem => ht (Text.mem_of_mem_trim ?_), hdropped⟩
    exact htrim ▸ List.mem_append_right v hmem
  rw [← List.append_assoc] at htaken
  have hblanks := matchHere?_blanks hfree hlast htaken
  have hend : (trim t).getLast? = some (w.getLast hw) := by
    rw [htrim, List.getLast?_append_of_ne_nil _ hw, List.getLast?_eq_some_getLast hw]
  have hspace := hblanks (w.getLast hw) (List.mem_append_left dropped (List.getLast_mem hw))
  rw [Text.getLast?_trim hend] at hspace
  cases hspace

/-- Between its tags, an element has its trimmed text between blanks. -/
theorem matchHere?_innerParts {last : List Char} (ht : '<' ∉ t)
    (hlast : last ∈ words (closingTag name)) (rest : List Char) :
    ∃ blanks taken, matchHere? (innerParts name) (t ++ (last ++ rest)) =
      some (blanks :: trim t :: taken) := by
  obtain ⟨dropped, hdropped, hblank⟩ :=
    Text.exists_dropEndWhile_append isSpace (t.dropWhile isSpace)
  have htrimmed : trim t ++ dropped = t.dropWhile isSpace := hdropped
  have hstop : ∀ c, (last ++ rest).head? = some c → isSpace c = false := by
    intro c hc
    obtain rfl : '<' = c := Option.some.inj ((head?_closingTag_append hlast rest).symm.trans hc)
    decide
  obtain ⟨closed, hclosed⟩ := matchHere?_closingTag.mpr ⟨last, hlast, rest, rfl⟩
  have hbehind : matchHere? (.most isSpace :: (closingTag name).map .one)
      (dropped ++ (last ++ rest)) = some (dropped :: closed) :=
    matchHere?_most hblank hstop hclosed
  have hvalue : matchHere? (.fewest (· != '<') :: .most isSpace :: (closingTag name).map .one)
      (trim t ++ (dropped ++ (last ++ rest))) = some (trim t :: dropped :: closed) := by
    refine matchHere?_fewest (fun c hc => ?_)
      (fun v w hvw hw => matchHere?_end_of_trim ht hvw hw (not_mem_of_blank hblank) hlast) hbehind
    have hne : c ≠ '<' := fun heq => ht (heq ▸ Text.mem_of_mem_trim hc)
    simpa using hne
  have hhead : ∀ c, (t.dropWhile isSpace ++ (last ++ rest)).head? = some c → isSpace c = false := by
    intro c hc
    rw [List.head?_append] at hc
    rcases Option.or_eq_some_iff.mp hc with hc | ⟨-, hc⟩
    · exact Text.head?_dropWhile hc
    · exact hstop c hc
  have hblanks : ∀ c ∈ t.takeWhile isSpace, isSpace c = true :=
    List.all_eq_true.mp List.all_takeWhile
  refine ⟨t.takeWhile isSpace, dropped :: closed, ?_⟩
  have hmatch := matchHere?_most hblanks hhead (by rwa [← htrimmed, List.append_assoc])
  rwa [← List.append_assoc, List.takeWhile_append_dropWhile] at hmatch

def elementParts (name : Name) : List Part :=
  (openingTag name).map .one ++ innerParts name

theorem matchHere?_of_starts (h : Starts name t s) :
    ∃ taken, matchHere? (elementParts name) s = some taken ∧
      taken[(openingTag name).length + 1]? = some (trim t) := by
  obtain ⟨ht, first, hfirst, last, hlast, rest, rfl⟩ := h
  obtain ⟨blanks, taken, htaken⟩ := matchHere?_innerParts ht hlast rest
  refine ⟨_, matchHere?_words.mpr ⟨first, hfirst, _, _, rfl, htaken, rfl⟩, ?_⟩
  have hlength : (first.map fun c => [c]).length = (openingTag name).length := by
    rw [List.length_map, length_of_mem_words hfirst]
  rw [← hlength, List.getElem?_append_right (Nat.le_add_right _ 1), Nat.add_sub_cancel_left]
  rfl

theorem starts_of_matchHere? {taken : List (List Char)}
    (h : matchHere? (elementParts name) s = some taken) : ∃ t, Starts name t s := by
  obtain ⟨first, hfirst, rest, taken', rfl, htaken', -⟩ := matchHere?_words.mp h
  obtain ⟨u, rest', taken'', rfl, hu, htaken''⟩ := of_matchHere?_most htaken'
  obtain ⟨v, rest'', taken₃, rfl, hv, htaken₃⟩ := of_matchHere?_fewest htaken''
  obtain ⟨w, rest₃, taken₄, rfl, hw, htaken₄⟩ := of_matchHere?_most htaken₃
  obtain ⟨last, hlast, rest₄, rfl⟩ := matchHere?_closingTag.mp ⟨taken₄, htaken₄⟩
  have hfree : '<' ∉ u ++ (v ++ w) := by
    rw [List.mem_append, List.mem_append, not_or, not_or]
    exact ⟨not_mem_of_blank hu, fun hmem => absurd (hv '<' hmem) (by decide), not_mem_of_blank hw⟩
  exact ⟨u ++ (v ++ w), hfree, first, hfirst, last, hlast, rest₄, by simp only [List.append_assoc]⟩

theorem matchHere?_eq_none (h : ∀ t, ¬ Starts name t s) :
    matchHere? (elementParts name) s = none := by
  refine Option.eq_none_iff_forall_ne_some.mpr fun taken htaken => ?_
  obtain ⟨t, ht⟩ := starts_of_matchHere? htaken
  exact h t ht

/-- What is captured between the tags of a name, and between the blanks behind the one and in front
of the other. -/
def captured? (name : Name) (s : List Char) : Option (List Char) :=
  capture? ((openingTag name).map .one ++ [.most isSpace]) (.fewest (· != '<'))
    (.most isSpace :: (closingTag name).map .one) s

theorem captured?_eq_match? (name : Name) (s : List Char) :
    captured? name s =
      (match? (elementParts name) s).bind (·[(openingTag name).length + 1]?) := by
  rw [captured?, capture?, List.append_assoc, List.length_append, List.length_map]
  rfl

/-- The pattern captures the trimmed text of the first element. -/
theorem captured?_eq (name : Name) (s : List Char) :
    captured? name s =
      (element? (words (openingTag name)) (words (closingTag name)) s).map trim := by
  rw [captured?_eq_match?]
  induction s with
  | nil =>
    rw [match?, matchHere?_eq_none fun _ => not_starts_nil]
    rfl
  | cons c s ih =>
    rw [match?, element?]
    cases hhere : elementHere? (words (openingTag name)) (words (closingTag name)) (c :: s) with
    | some t =>
      obtain ⟨taken, htaken, hvalue⟩ := matchHere?_of_starts (elementHere?_eq_some_iff.mp hhere)
      rw [htaken, Option.some_or, Option.some_or]
      exact hvalue
    | none =>
      have hnone := matchHere?_eq_none (elementHere?_eq_none_iff.mp hhere)
      rw [hnone, Option.none_or, Option.none_or, ih]

/-! ### Fields -/

def valueOf (t : List Char) : Option String :=
  if trim t = [] then none else some (String.ofList (trim t))

/-- A field of documents is read from the elements of a name. It is the trimmed text of the first of
them, unless that is empty, and there is none without an element. That is what the pattern of the
name captures. So values are trimmed, not empty and free of tags, and documents whose first elements
have the same text agree on the field. -/
structure Reads (name : Name) (field : String → Option String) : Prop where
  first : ∀ body i t, IsFirst name i t body.toList → field body = valueOf t
  absent : ∀ body : String, (∀ i t, ¬ Starts name t (body.toList.drop i)) → field body = none
  captured : ∀ body, field body =
    ((captured? name body.toList).filter (· ≠ [])).map String.ofList
  clean : ∀ body value, field body = some value →
    value.toList ≠ [] ∧ '<' ∉ value.toList ∧
      (∀ c, value.toList.head? = some c → isSpace c = false) ∧
      ∀ c, value.toList.getLast? = some c → isSpace c = false
  alone : ∀ body body' i i' t, IsFirst name i t body.toList → IsFirst name i' t body'.toList →
    field body = field body'

theorem field?_eq {names : List String}
    (hopening : (names.map fun n => '<' :: n.toList ++ ['>']) = words (openingTag name))
    (hclosing : (names.map fun n => '<' :: '/' :: n.toList ++ ['>']) = words (closingTag name))
    (body : String) :
    field? names body =
      (element? (words (openingTag name)) (words (closingTag name)) body.toList).bind valueOf := by
  unfold field? valueOf
  rw [hopening, hclosing]
  simp only [List.isEmpty_iff]
  rfl

theorem valueOf_eq_some {value : String} (h : valueOf t = some value) :
    trim t ≠ [] ∧ value.toList = trim t := by
  unfold valueOf at h
  split at h
  · cases h
  · rename_i hne
    obtain rfl := Option.some.inj h
    exact ⟨hne, String.toList_ofList⟩

theorem reads_of_element {field : String → Option String}
    (h : ∀ body, field body =
      (element? (words (openingTag name)) (words (closingTag name)) body.toList).bind valueOf) :
    Reads name field := by
  have hfirst : ∀ body i t, IsFirst name i t body.toList → field body = valueOf t := by
    intro body i t hi
    rw [h, element?_eq_some_iff.mpr ⟨i, hi⟩, Option.bind_some]
  refine ⟨hfirst, fun body hnone => ?_, fun body => ?_, fun body value hvalue => ?_, ?_⟩
  · rw [h, element?_eq_none hnone]
    rfl
  · rw [h, captured?_eq]
    cases element? (words (openingTag name)) (words (closingTag name)) body.toList with
    | none => rfl
    | some t =>
      rw [Option.bind_some, Option.map_some, Option.filter_some, valueOf]
      by_cases hempty : trim t = []
      · simp [hempty]
      · simp [hempty]
  · rw [h] at hvalue
    obtain ⟨t, ht, hvalue⟩ := Option.bind_eq_some_iff.mp hvalue
    obtain ⟨i, ⟨hfree, -⟩, -⟩ := element?_eq_some_iff.mp ht
    obtain ⟨hne, htrim⟩ := valueOf_eq_some hvalue
    rw [htrim]
    exact ⟨hne, fun hmem => hfree (Text.mem_of_mem_trim hmem), fun _ => Text.head?_trim,
      fun _ => Text.getLast?_trim⟩
  · intro body body' i i' t hi hi'
    rw [hfirst body i t hi, hfirst body' i' t hi']

def nameOf (text : String) : Name :=
  text.toList.map ([·])

/-- The name of the element with the id of a request, whose last letter is written in either case. -/
def requestIdName : Name :=
  nameOf "RequestI" ++ [['d', 'D']]

/-- Each field of an error document is read from the elements of its name. -/
theorem fields_read_from_elements :
    Reads (nameOf "Code") (fun body => (parse body).code) ∧
      Reads (nameOf "Message") (fun body => (parse body).message) ∧
      Reads requestIdName (fun body => (parse body).requestId) ∧
      Reads (nameOf "Endpoint") (fun body => (parse body).endpoint) :=
  ⟨reads_of_element (field?_eq (by decide) (by decide)),
    reads_of_element (field?_eq (by decide) (by decide)),
    reads_of_element (field?_eq (by decide) (by decide)),
    reads_of_element (field?_eq (by decide) (by decide))⟩

end ErrorDocument

end CloudReach
