import CloudReach.Proofs.Outcome
import CloudReach.Proofs.Text
import CloudReach.Route.Tables

/-!
# Filling routes

A template is read as the list of parts that spell it, and is malformed if there is none. A route is
filled unless the template is malformed or a parameter is missing; the first of its template that is
missing is reported. The parameters that were given are told apart by their places: those from which
the template is filled, and the rest, which are carried along in their order.
-/

namespace CloudReach.Route

open Text (FreeOf)

/-! ### Templates -/

def braces : List Char := ['\x7b', '\x7d']

theorem any_isBrace_eq_false_iff {s : List Char} :
    (s.any fun c => c == '\x7b' || c == '\x7d') = false ↔ FreeOf braces s := by
  simp only [List.any_eq_false, Bool.or_eq_true, beq_iff_eq, not_or, FreeOf, braces,
    List.mem_cons, List.not_mem_nil, or_false]
  constructor
  · rintro h c (rfl | rfl) hc
    · exact (h _ hc).1 rfl
    · exact (h _ hc).2 rfl
  · intro h c hc
    exact ⟨fun heq => h _ (.inl rfl) (heq ▸ hc), fun heq => h _ (.inr rfl) (heq ▸ hc)⟩

namespace Segment

def chars : Segment → List Char
  | literal text => text.toList
  | param name => '\x7b' :: (name.toList ++ ['\x7d'])

def WellFormed : Segment → Prop
  | literal text => FreeOf braces text.toList
  | param name => name ≠ "" ∧ FreeOf braces name.toList

end Segment

theorem exists_of_enclosed {s : List Char}
    (h : s.head? = some '\x7b' ∧ 2 ≤ s.length ∧ s.getLast? = some '\x7d') :
    ∃ name, s = '\x7b' :: (name ++ ['\x7d']) := by
  obtain ⟨hhead, hlength, hlast⟩ := h
  obtain ⟨rest, rfl⟩ := List.head?_eq_some_iff.mp hhead
  cases rest with
  | nil => simp at hlength
  | cons c rest =>
    rw [List.getLast?_cons_cons] at hlast
    obtain ⟨name, hname⟩ := List.getLast?_eq_some_iff.mp hlast
    exact ⟨name, by rw [hname]⟩

/-- A part is read from a text exactly if it is well-formed and stands there. -/
theorem segment?_eq_some_iff {s : List Char} {part : Segment} :
    segment? s = some part ↔ part.WellFormed ∧ part.chars = s := by
  unfold segment?
  dsimp only
  by_cases henclosed : s.head? = some '\x7b' ∧ 2 ≤ s.length ∧ s.getLast? = some '\x7d'
  · obtain ⟨name, rfl⟩ := exists_of_enclosed henclosed
    have hname : (('\x7b' :: (name ++ ['\x7d'])).drop 1).dropLast = name := by simp
    rw [if_pos henclosed, hname]
    constructor
    · intro h
      split at h
      · cases h
      · rename_i hallowed
        cases h
        rw [Bool.not_eq_true, Bool.or_eq_false_iff, any_isBrace_eq_false_iff] at hallowed
        refine ⟨⟨by simpa using hallowed.1, by simpa using hallowed.2⟩, ?_⟩
        rw [Segment.chars, String.toList_ofList]
    · rintro ⟨hwell, hchars⟩
      cases part with
      | literal text =>
        -- A literal part does not start with a brace.
        rw [Segment.chars] at hchars
        have hfree : FreeOf braces text.toList := hwell
        rw [hchars] at hfree
        exact absurd List.mem_cons_self (hfree '\x7b' (by decide))
      | param name' =>
        obtain rfl : name'.toList = name :=
          List.append_cancel_right (List.cons.inj hchars).2
        have hne : name'.toList.isEmpty = false := by simpa using hwell.1
        rw [hne, any_isBrace_eq_false_iff.mpr hwell.2, String.ofList_toList]
        rfl
  · rw [if_neg henclosed]
    constructor
    · intro h
      split at h
      · cases h
      · rename_i hfree
        cases h
        rw [Bool.not_eq_true, any_isBrace_eq_false_iff] at hfree
        rw [Segment.WellFormed, Segment.chars, String.toList_ofList]
        exact ⟨hfree, rfl⟩
    · rintro ⟨hwell, rfl⟩
      cases part with
      | literal text =>
        rw [Segment.chars, any_isBrace_eq_false_iff.mpr hwell, String.ofList_toList]
        rfl
      | param name =>
        have hlast : (Segment.param name).chars.getLast? = some '\x7d' :=
          List.getLast?_eq_some_iff.mpr ⟨'\x7b' :: name.toList, rfl⟩
        exact absurd ⟨rfl, by simp [Segment.chars], hlast⟩ henclosed

theorem mapM_segment?_eq_some_iff {pieces : List (List Char)} {template : List Segment} :
    pieces.mapM segment? = some template ↔
      template.map Segment.chars = pieces ∧ ∀ part ∈ template, part.WellFormed := by
  induction pieces generalizing template with
  | nil => cases template <;> simp
  | cons piece pieces ih =>
    rw [List.mapM_cons]
    simp only [Option.bind_eq_bind, Option.pure_def, Option.bind_eq_some_iff,
      segment?_eq_some_iff, ih, Option.some.injEq]
    constructor
    · rintro ⟨part, ⟨hpart, rfl⟩, template, ⟨rfl, htemplate⟩, rfl⟩
      exact ⟨rfl, List.forall_mem_cons.mpr ⟨hpart, htemplate⟩⟩
    · rintro ⟨hchars, hwell⟩
      cases template with
      | nil => cases hchars
      | cons part template =>
        obtain ⟨hpart, htemplate⟩ := List.forall_mem_cons.mp hwell
        obtain ⟨rfl, rfl⟩ := List.cons.inj hchars
        exact ⟨part, ⟨hpart, rfl⟩, template, ⟨rfl, htemplate⟩, rfl⟩

/-- The text is a slash and pieces with slashes between them, and the parts are the pieces that are
not empty. -/
def Spells (text : String) (template : List Segment) : Prop :=
  ∃ pieces : List (List Char), pieces ≠ [] ∧ (∀ piece ∈ pieces, '/' ∉ piece) ∧
    text.toList = '/' :: ['/'].intercalate pieces ∧
    template.map Segment.chars = pieces.filter (· ≠ []) ∧ ∀ part ∈ template, part.WellFormed

theorem segments?_eq_some_iff {text : String} {template : List Segment} :
    segments? text = some template ↔ Spells text template := by
  have hkept (pieces : List (List Char)) :
      pieces.filter (fun s => !s.isEmpty) = pieces.filter (· ≠ []) :=
    List.filter_congr fun piece _ => by cases piece <;> rfl
  constructor
  · intro h
    unfold segments? at h
    split at h
    · rename_i rest hrest
      rw [hkept, mapM_segment?_eq_some_iff] at h
      refine ⟨_, Text.splitOn_ne_nil _ _, fun piece hpiece hslash => ?_, ?_, h⟩
      · have hcut := (Text.of_mem_splitOn hpiece '/' hslash).2
        cases hcut
      · rw [Text.intercalate_splitOn, hrest]
    · cases h
  · rintro ⟨pieces, hne, hpieces, htext, htemplate⟩
    have hcut : Text.splitOn (· == '/') (['/'].intercalate pieces) = pieces := by
      refine Text.splitOn_intercalate rfl hne fun piece hpiece c hc => ?_
      have hslash : c ≠ '/' := fun heq => hpieces piece hpiece (heq ▸ hc)
      simpa using hslash
    unfold segments?
    rw [htext]
    change ((Text.splitOn (· == '/') (['/'].intercalate pieces)).filter
      (fun s => !s.isEmpty)).mapM segment? = some template
    rw [hcut, hkept, mapM_segment?_eq_some_iff]
    exact htemplate

/-! ### Places -/

variable {names : List String} {given : List (String × String)} {name value : String}

def place? (given : List (String × String)) (name : String) : Option Nat :=
  given.findIdx? (·.1 == name)

theorem place?_cons (p : String × String) :
    place? (p :: given) name = if p.1 = name then some 0 else (place? given name).map (· + 1) := by
  rw [place?, List.findIdx?_cons]
  by_cases hp : p.1 = name
  · rw [if_pos hp, if_pos (by simpa using hp)]
  · rw [if_neg hp, if_neg (by simpa using hp)]
    rfl

theorem lookup_eq_some_iff :
    given.lookup name = some value ↔
      ∃ i, place? given name = some i ∧ given[i]? = some (name, value) := by
  induction given with
  | nil => simp [place?]
  | cons p given ih =>
    rw [Assoc.lookup_cons, place?_cons]
    by_cases hp : p.1 = name
    · subst hp
      simp [Prod.ext_iff]
    · rw [if_neg (Ne.symm hp), if_neg hp, ih]
      simp

/-- A place from which a parameter of one of the names is taken. -/
def IsTaken (names : List String) (given : List (String × String)) (i : Nat) : Prop :=
  ∃ name ∈ names, place? given name = some i

instance (i : Nat) : Decidable (IsTaken names given i) :=
  inferInstanceAs (Decidable (∃ name ∈ names, _))

theorem isTaken_zero (p : String × String) : IsTaken names (p :: given) 0 ↔ p.1 ∈ names := by
  constructor
  · rintro ⟨name, hname, hplace⟩
    rw [place?_cons] at hplace
    split at hplace
    · rename_i hp
      exact hp ▸ hname
    · simp at hplace
  · intro hp
    exact ⟨p.1, hp, by rw [place?_cons, if_pos rfl]⟩

theorem isTaken_succ (p : String × String) (i : Nat) :
    IsTaken names (p :: given) (i + 1) ↔ IsTaken (names.filter (· ≠ p.1)) given i := by
  simp only [IsTaken, place?_cons, List.mem_filter, decide_eq_true_eq]
  constructor
  · rintro ⟨name, hname, hplace⟩
    by_cases hp : p.1 = name
    · simp [hp] at hplace
    · exact ⟨name, ⟨hname, Ne.symm hp⟩, by simpa [hp] using hplace⟩
  · rintro ⟨name, ⟨hname, hp⟩, hplace⟩
    exact ⟨name, hname, by simp [Ne.symm hp, hplace]⟩

def taken (names : List String) (given : List (String × String)) : List (String × String) :=
  (given.zipIdx.filter fun p => IsTaken names given p.2).map Prod.fst

def carried (names : List String) (given : List (String × String)) : List (String × String) :=
  (given.zipIdx.filter fun p => ¬ IsTaken names given p.2).map Prod.fst

theorem carried_cons (p : String × String) :
    carried names (p :: given) =
      (if p.1 ∈ names then [] else [p]) ++ carried (names.filter (· ≠ p.1)) given := by
  have hrest : ((given.zipIdx 1).filter fun q => ¬ IsTaken names (p :: given) q.2).map Prod.fst =
      carried (names.filter (· ≠ p.1)) given := by
    rw [carried, List.zipIdx_succ, List.filter_map, List.map_map]
    congr 1
    exact List.filter_congr fun q _ => by simp [isTaken_succ]
  rw [carried, List.zipIdx_cons, ← hrest]
  by_cases hp : p.1 ∈ names
  · rw [if_pos hp, List.filter_cons_of_neg (by simpa [isTaken_zero] using hp)]
    rfl
  · rw [if_neg hp, List.filter_cons_of_pos (by simpa [isTaken_zero] using hp)]
    rfl

/-- What is left out is what is taken. -/
theorem unused_eq_carried (names : List String) (given : List (String × String)) :
    unused names given = carried names given := by
  induction given generalizing names with
  | nil => rfl
  | cons p given ih =>
    rw [unused, carried_cons, ← ih]
    by_cases hp : p.1 ∈ names
    · rw [if_pos (by simpa using hp), if_pos hp]
      rfl
    · have hsame : names.filter (· ≠ p.1) = names :=
        List.filter_eq_self.mpr fun name hname => by
          have hne : name ≠ p.1 := fun heq => hp (heq ▸ hname)
          simpa using hne
      rw [if_neg (by simpa using hp), if_neg hp, hsame]
      rfl

/-- Nothing that was given goes missing, and nothing is used twice. -/
theorem taken_append_carried_perm (names : List String) (given : List (String × String)) :
    (taken names given ++ carried names given).Perm given := by
  have hsplit := (List.filter_append_perm (fun p : (String × String) × Nat =>
    IsTaken names given p.2) given.zipIdx).map Prod.fst
  rw [List.map_append, List.zipIdx_map_fst] at hsplit
  simpa [taken, carried] using hsplit

/-! ### Filling -/

variable {r : Route} {template : List Segment}

/-- What a part of a template is filled with: a literal part with its text, a parameter with the
value at its place. -/
def FilledFrom (given : List (String × String)) : Segment → String → Prop
  | .literal text, s => s = text
  | .param name, s => ∃ i, place? given name = some i ∧ given[i]? = some (name, s)

def missing? (names : List String) (given : List (String × String)) : Option String :=
  names.find? (· ∉ given.map Prod.fst)

theorem missing?_eq_none_iff :
    missing? names given = none ↔ ∀ name ∈ names, name ∈ given.map Prod.fst := by
  simp [missing?, List.find?_eq_none]

theorem missing?_cons (name : String) :
    missing? (name :: names) given =
      if name ∈ given.map Prod.fst then missing? names given else some name := by
  rw [missing?, List.find?_cons]
  by_cases hname : name ∈ given.map Prod.fst
  · rw [if_pos hname]
    simp [hname, missing?]
  · rw [if_neg hname]
    simp [hname]

theorem fillSegment_param (r : Route) (given : List (String × String)) (name : String) :
    if name ∈ given.map Prod.fst then
      ∃ value, r.fillSegment given (.param name) = .ok value ∧
        FilledFrom given (.param name) value
    else r.fillSegment given (.param name) = .error (.missingParameter r.name name) := by
  have hkeys : given.lookup name = none ↔ name ∉ given.map Prod.fst := by
    simp only [List.lookup_eq_none_iff, bne_iff_ne, List.mem_map, not_exists, not_and]
    exact ⟨fun h p hp heq => h p hp heq.symm, fun h p hp heq => h p hp heq.symm⟩
  cases hvalue : given.lookup name with
  | none =>
    rw [if_neg (hkeys.mp hvalue)]
    simp only [fillSegment, hvalue]
  | some value =>
    have hname : name ∈ given.map Prod.fst := by
      by_contra hnot
      rw [hkeys.mpr hnot] at hvalue
      cases hvalue
    rw [if_pos hname]
    exact ⟨value, by simp only [fillSegment, hvalue], lookup_eq_some_iff.mp hvalue⟩

/-- The parts are filled one by one, up to the first parameter that is missing. -/
theorem mapM_fillSegment (r : Route) (given : List (String × String)) (template : List Segment) :
    match missing? (params template) given with
    | some name => template.mapM (r.fillSegment given) = .error (.missingParameter r.name name)
    | none => ∃ segments, template.mapM (r.fillSegment given) = .ok segments ∧
        List.Forall₂ (FilledFrom given) template segments := by
  induction template with
  | nil => exact ⟨[], rfl, .nil⟩
  | cons part template ih =>
    -- A part that can be filled leaves the outcome to the parts after it.
    have hfilled {s : String} (hpart : r.fillSegment given part = .ok s)
        (hs : FilledFrom given part s) :
        match missing? (params template) given with
        | some name =>
          (part :: template).mapM (r.fillSegment given) = .error (.missingParameter r.name name)
        | none => ∃ segments, (part :: template).mapM (r.fillSegment given) = .ok segments ∧
            List.Forall₂ (FilledFrom given) (part :: template) segments := by
      rw [List.mapM_cons, hpart]
      cases hmissing : missing? (params template) given with
      | some name =>
        rw [hmissing] at ih
        dsimp only at ih ⊢
        rw [ih]
        rfl
      | none =>
        rw [hmissing] at ih
        obtain ⟨segments, hsegments, hall⟩ := ih
        refine ⟨s :: segments, ?_, .cons hs hall⟩
        rw [hsegments]
        rfl
    cases part with
    | literal text => exact hfilled rfl rfl
    | param name =>
      have hname := fillSegment_param r given name
      have hparams : params (.param name :: template) = name :: params template := rfl
      rw [hparams, missing?_cons]
      by_cases hkey : name ∈ given.map Prod.fst
      · rw [if_pos hkey] at hname ⊢
        obtain ⟨value, hvalue, hs⟩ := hname
        exact hfilled hvalue hs
      · rw [if_neg hkey] at hname ⊢
        rw [List.mapM_cons, hname]
        rfl

theorem fill_of_malformed (h : segments? r.path = none) (given : List (String × String)) :
    r.fill given = .error (.malformedTemplate r.name r.path) := by
  rw [fill, segments, h]
  rfl

theorem fill_of_missing (h : segments? r.path = some template)
    (hmissing : missing? (params template) given = some name) :
    r.fill given = .error (.missingParameter r.name name) := by
  have hfill := mapM_fillSegment r given template
  rw [hmissing] at hfill
  rw [fill, segments, h]
  change (template.mapM (r.fillSegment given) >>= _) = _
  rw [hfill]
  rfl

theorem fill_of_given (h : segments? r.path = some template)
    (hmissing : missing? (params template) given = none) :
    ∃ segments, List.Forall₂ (FilledFrom given) template segments ∧
      r.fill given = .ok
        { name := r.name, method := r.method, segments, style := r.style
          params := r.style.fields ++ carried (params template) given } := by
  have hfill := mapM_fillSegment r given template
  rw [hmissing] at hfill
  obtain ⟨segments, hsegments, hall⟩ := hfill
  refine ⟨segments, hall, ?_⟩
  rw [fill, Route.segments, h]
  change (template.mapM (r.fillSegment given) >>= _) = _
  rw [hsegments, ← unused_eq_carried]
  rfl

theorem fill_eq_ok {f : Filled} (h : r.fill given = .ok f) :
    ∃ template segments, segments? r.path = some template ∧
      List.Forall₂ (FilledFrom given) template segments ∧
      f =
        { name := r.name, method := r.method, segments, style := r.style
          params := r.style.fields ++ carried (params template) given } := by
  cases htemplate : segments? r.path with
  | none =>
    rw [fill_of_malformed htemplate] at h
    cases h
  | some template =>
    cases hmissing : missing? (params template) given with
    | some name =>
      rw [fill_of_missing htemplate hmissing] at h
      cases h
    | none =>
      obtain ⟨segments, hall, hfill⟩ := fill_of_given htemplate hmissing
      rw [hfill] at h
      exact ⟨template, segments, rfl, hall, (Except.ok.inj h).symm⟩

theorem templateParams_of_some (h : segments? r.path = some template) :
    r.templateParams = .ok (params template) := by
  rw [templateParams, segments, h]
  rfl

theorem templateParams_of_none (h : segments? r.path = none) :
    r.templateParams = .error (.malformedTemplate r.name r.path) := by
  rw [templateParams, segments, h]
  rfl

/-- A route is filled exactly if parts spell its template and each parameter of theirs is given. A
template that nothing spells is malformed, whatever is given; otherwise the first parameter that is
missing is named. The segments are the parts, with each parameter replaced by the value at its
place, and what is carried are the fields of the style and after them the parameters at all other
places: each one that is given is either taken or carried. -/
theorem fill_course (r : Route) (given : List (String × String)) :
    (∀ e, r.templateParams = .error e ↔
      (∀ template, ¬ Spells r.path template) ∧ e = .malformedTemplate r.name r.path) ∧
    ((∃ f, r.fill given = .ok f) ↔
      ∃ names, r.templateParams = .ok names ∧ ∀ name ∈ names, name ∈ given.map Prod.fst) ∧
    (∀ e, r.fill given = .error e ↔ r.templateParams = .error e ∨
      ∃ names name, r.templateParams = .ok names ∧ missing? names given = some name ∧
        e = .missingParameter r.name name) ∧
    ∀ f, r.fill given = .ok f → ∃ template, Spells r.path template ∧
      r.templateParams = .ok (params template) ∧
      List.Forall₂ (FilledFrom given) template f.segments ∧
      f.params = r.style.fields ++ carried (params template) given ∧
      (taken (params template) given ++ carried (params template) given).Perm given := by
  cases htemplate : segments? r.path with
  | none =>
    have hnone (template : List Segment) : ¬ Spells r.path template := by
      rw [← segments?_eq_some_iff, htemplate]
      rintro ⟨⟩
    rw [templateParams_of_none htemplate, fill_of_malformed htemplate]
    refine ⟨fun e => ?_, ⟨nofun, nofun⟩, fun e => ?_, nofun⟩
    · rw [Except.error.injEq, eq_comm]
      exact (and_iff_right hnone).symm
    · rw [Except.error.injEq, Except.error.injEq]
      exact ⟨.inl, fun he => he.elim id nofun⟩
  | some template =>
    have hspells := segments?_eq_some_iff.mp htemplate
    have hknown (P : List String → Prop) :
        (∃ names, Except.ok (ε := RouteError) (params template) = .ok names ∧ P names) ↔
          P (params template) := by
      simp
    rw [templateParams_of_some htemplate]
    cases hmissing : missing? (params template) given with
    | some name =>
      rw [fill_of_missing htemplate hmissing]
      refine ⟨fun e => ⟨nofun, fun he => absurd hspells (he.1 template)⟩, ?_, fun e => ?_, nofun⟩
      · rw [hknown, ← missing?_eq_none_iff, hmissing]
        exact ⟨nofun, nofun⟩
      · simp only [Except.error.injEq]
        constructor
        · rintro rfl
          exact .inr ⟨_, name, rfl, hmissing, rfl⟩
        · rintro (he | ⟨_, name', ⟨⟩, hname', rfl⟩)
          · cases he
          · rw [Option.some.inj (hmissing.symm.trans hname')]
    | none =>
      obtain ⟨segments, hall, hfill⟩ := fill_of_given htemplate hmissing
      rw [hfill]
      refine ⟨fun e => ⟨nofun, fun he => absurd hspells (he.1 template)⟩, ?_, fun e => ?_, ?_⟩
      · rw [hknown, ← missing?_eq_none_iff]
        exact iff_of_true ⟨_, rfl⟩ hmissing
      · refine ⟨nofun, ?_⟩
        rintro (he | ⟨_, name, ⟨⟩, hname, -⟩)
        · cases he
        · rw [hmissing] at hname
          cases hname
      · rintro _ ⟨⟩
        exact ⟨template, hspells, rfl, hall, rfl, taken_append_carried_perm ..⟩

/-- Both places are filled from one parameter, and the second of its name is carried. -/
example :
    (resource "copy" "PUT" "/a/\x7bx\x7d//\x7bx\x7d" .empty).fill
        [("y", "1"), ("x", "2"), ("x", "3")] =
      .ok
        { name := "copy", method := "PUT", segments := ["a", "2", "2"]
          params := [("y", "1"), ("x", "3")], style := .resource } := by
  decide +kernel

end CloudReach.Route
