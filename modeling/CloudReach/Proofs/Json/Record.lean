import CloudReach.Json.Record
import CloudReach.Proofs.Json.Skip

/-!
# Records read from objects and lists

What a record makes of the members of an object: each is read by its field, whose gap it fills, or
passed over. A run over the members that is read in every surroundings gives the record, and every
record that is read from an object comes from such a run. Hence a strict record is read only if all
keys are names of its fields, none of them twice.
-/

namespace CloudReach.Json.Record

open Reader

variable {σ α : Type} {r : Record σ α} {s s' : σ} {key : String} {c : Char}
  {b d k t v w part rest : List Char} {members : List (String × List Char)}
  {parts : List (List Char)} {first : Bool}

/-- How the value of a member is read as a way to fill a gap: in every surroundings, or somewhere. -/
abbrev Reading (σ : Type) := Reader (σ → σ) → List Char → (σ → σ) → Prop

def Found : Reading σ := fun read v fill =>
  ∃ b rest, Blank b ∧ Boundary rest ∧ read (b ++ (v ++ rest)) = .ok (fill, rest)

inductive Takes (reading : Reading σ) (r : Record σ α) (s : σ) : String × List Char → σ → Prop
  | field {key : String} {v : List Char} {f : Field σ} {fill : σ → σ} :
      r.fields.find? (·.name == key) = some f → f.isFilled s = false → reading f.read v fill →
      Takes reading r s (key, v) (fill s)
  | other {key : String} {v : List Char} :
      r.fields.find? (·.name == key) = none → r.strict = false → IsValue v →
      Takes reading r s (key, v) s

inductive Course (reading : Reading σ) (r : Record σ α) :
    σ → List (String × List Char) → σ → Prop
  | nil {s : σ} : Course reading r s [] s
  | cons {s s' s'' : σ} {m : String × List Char} {members : List (String × List Char)} :
      Takes reading r s m s' → Course reading r s' members s'' →
      Course reading r s (m :: members) s''

/-! ### Members -/

theorem member_of_takes (h : Takes Reads r s (key, v) s') (hb : Blank b) (hd : Blank d)
    (hrest : Boundary rest) :
    r.member key s (b ++ ':' :: (d ++ (v ++ rest))) = .ok (s', rest) := by
  have hcolon : colon (b ++ ':' :: (d ++ (v ++ rest))) = .ok ((), d ++ (v ++ rest)) :=
    bind_peek _ hb rfl
  cases h with
  | field hfind hfree hread =>
    unfold member
    rw [hfind]
    dsimp only
    rw [if_neg (by simp [hfree]), bind_apply_of_ok hcolon,
      bind_apply_of_ok (hread d rest hd hrest)]
    rfl
  | other hfind hstrict hv =>
    unfold member
    rw [hfind]
    dsimp only
    rw [if_neg (by simp [hstrict]), bind_apply_of_ok hcolon,
      bind_apply_of_ok (reads_skip hv d rest hd hrest)]
    rfl

def FieldsPass (r : Record σ α) (v : List Char) : Prop :=
  ∀ f ∈ r.fields, Passes f.read v

theorem takes_of_member (hv : IsValue v) (hpass : r.FieldsPass v) (hb : Blank b) (hd : Blank d)
    (hrest : Boundary rest)
    (h : r.member key s (b ++ ':' :: (d ++ (v ++ rest))) = .ok (s', t)) :
    t = rest ∧ Takes Found r s (key, v) s' := by
  have hcolon : colon (b ++ ':' :: (d ++ (v ++ rest))) = .ok ((), d ++ (v ++ rest)) :=
    bind_peek _ hb rfl
  unfold member at h
  cases hfind : r.fields.find? (·.name == key) with
  | none =>
    rw [hfind] at h
    dsimp only at h
    split at h
    · exact absurd h (refuses_refuseUpTo _ _ _ _)
    · rename_i hstrict
      rw [bind_apply_of_ok hcolon, bind_apply_of_ok (reads_skip hv d rest hd hrest)] at h
      cases h
      exact ⟨rfl, .other hfind (eq_false_of_ne_true hstrict) hv⟩
  | some f =>
    rw [hfind] at h
    dsimp only at h
    split at h
    · exact absurd h (refuses_refuseUpTo _ _ _ _)
    · rename_i hfree
      rw [bind_apply_of_ok hcolon] at h
      obtain ⟨fill, t', hread, h⟩ := bind_apply_eq_ok.mp h
      cases h
      have hmem : f ∈ r.fields := List.mem_of_find?_eq_some hfind
      obtain rfl := hpass f hmem d rest fill t hd hrest hread
      exact ⟨rfl, .field hfind (eq_false_of_ne_true hfree) ⟨d, t, hd, hrest, hread⟩⟩

/-- What stands in front of a member: nothing if it is the first, otherwise a comma. -/
inductive Front : Bool → List Char → Prop
  | first : Front true []
  | next {b : List Char} : Blank b → Front false (b ++ [','])

theorem objectStep_of_member {lead : List Char} (hlead : Front first lead) (hb : Blank b)
    (hk : SpellsText key k) :
    r.objectStep (first, s) (lead ++ (b ++ (k ++ t))) =
      (do let s' ← r.member key s; return (false, false, s')) t := by
  obtain ⟨body, hbody, rfl⟩ := hk
  have hchars : chars (body ++ '"' :: t) = .ok (key, t) := by
    have hread : chars (body ++ '"' :: t) = .ok (String.ofList key.toList, t) := chars_append hbody
    rwa [String.ofList_toList] at hread
  have hkeyed : objectStep.keyed r (first, s) ('"' :: (body ++ '"' :: t)) =
      (do let s' ← r.member key s; return (false, false, s')) t :=
    (bind_advance _).trans (bind_apply_of_ok hchars)
  simp only [List.cons_append, List.append_assoc, List.nil_append]
  cases hlead with
  | first => exact (bind_peek _ hb rfl).trans hkeyed
  | @next b' hb' =>
    rw [List.append_assoc]
    exact (bind_peek _ hb' rfl).trans ((bind_advance _).trans ((bind_peek _ hb rfl).trans hkeyed))

/-- The loop over the members of an object takes a member as `member` does. -/
theorem loop_of_takes {lead : List Char} (hlead : Front first lead) (hb : Blank b)
    (hpart : SpellsMember (key, v) part) (hrest : Boundary rest)
    (h : Takes Reads r s (key, v) s') :
    loop r.objectStep (first, s) (lead ++ (b ++ (part ++ rest))) =
      loop r.objectStep (false, s') rest := by
  obtain ⟨k, d, d', hk, hd, hd', rfl⟩ := hpart
  refine loop_of_continue ?_ (by simp; omega)
  have hmember := member_of_takes h hd hd' hrest
  simp only [List.append_assoc, List.cons_append]
  rw [objectStep_of_member hlead hb hk]
  exact bind_apply_of_ok hmember

theorem takes_of_loop {lead : List Char} {p : (Bool × σ) × List Char} (hlead : Front first lead)
    (hb : Blank b) (hpart : SpellsMember (key, v) part) (hrest : Boundary rest) (hv : IsValue v)
    (hpass : r.FieldsPass v)
    (h : loop r.objectStep (first, s) (lead ++ (b ++ (part ++ rest))) = .ok p) :
    ∃ s', Takes Found r s (key, v) s' ∧ loop r.objectStep (false, s') rest = .ok p := by
  obtain ⟨k, d, d', hk, hd, hd', rfl⟩ := hpart
  obtain ⟨done, y, t, hstep⟩ := exists_step_of_loop h
  have hmember : (do let s' ← r.member key s; return (false, false, s') : Reader (Bool × Bool × σ))
      (d ++ ':' :: (d' ++ (v ++ rest))) = .ok ((done, y), t) := by
    rw [← objectStep_of_member hlead hb hk, ← hstep]
    simp only [List.append_assoc, List.cons_append]
  obtain ⟨s', t', hmember, hend⟩ := bind_apply_eq_ok.mp hmember
  cases hend
  obtain ⟨rfl, htakes⟩ := takes_of_member hv hpass hd hd' hrest hmember
  refine ⟨s', htakes, ?_⟩
  rw [← h]
  exact (loop_of_continue hstep (by simp; omega)).symm

/-! ### Objects -/

theorem loop_of_brace (hb : Blank b) :
    loop r.objectStep (first, s) (b ++ '\x7d' :: rest) = .ok ((first, s), '\x7d' :: rest) :=
  loop_of_done (bind_peek _ hb rfl)

theorem loop_of_course {lead : List Char} (hlead : Front first lead) (h : Separated parts w)
    (hparts : List.Forall₂ SpellsMember members parts) (hcourse : Course Reads r s members s') :
    loop r.objectStep (first, s) (lead ++ (w ++ '\x7d' :: rest)) =
      .ok ((false, s'), '\x7d' :: rest) := by
  induction h generalizing first s lead members with
  | @one b part b' hb hb' =>
    obtain _ | ⟨hpart, hnil⟩ := hparts
    cases hnil
    obtain _ | ⟨htakes, hend⟩ := hcourse
    cases hend
    simp only [List.append_assoc]
    rw [loop_of_takes hlead hb hpart (boundary_append hb' (boundary_cons (by decide))) htakes]
    exact loop_of_brace hb'
  | @more b part b' w parts hb hb' _ ih =>
    obtain _ | ⟨hpart, hparts⟩ := hparts
    obtain _ | ⟨htakes, hcourse⟩ := hcourse
    have hnext := ih (.next hb') hparts hcourse
    simp only [List.append_assoc, List.cons_append, List.nil_append] at hnext ⊢
    rw [loop_of_takes hlead hb hpart (boundary_append hb' (boundary_cons (by decide))) htakes]
    exact hnext

theorem course_of_loop {lead : List Char} {p : (Bool × σ) × List Char} (hlead : Front first lead)
    (h : Separated parts w) (hparts : List.Forall₂ SpellsMember members parts)
    (hvalues : ∀ m ∈ members, IsValue m.2) (hpass : ∀ m ∈ members, r.FieldsPass m.2)
    (hok : loop r.objectStep (first, s) (lead ++ (w ++ '\x7d' :: rest)) = .ok p) :
    p.2 = '\x7d' :: rest ∧ Course Found r s members p.1.2 := by
  induction h generalizing first s lead members with
  | @one b part b' hb hb' =>
    obtain _ | ⟨hpart, hnil⟩ := hparts
    cases hnil
    simp only [List.append_assoc] at hok
    obtain ⟨s', htakes, hok⟩ := takes_of_loop hlead hb hpart
      (boundary_append hb' (boundary_cons (by decide))) (hvalues _ List.mem_cons_self)
      (hpass _ List.mem_cons_self) hok
    rw [loop_of_brace hb'] at hok
    cases hok
    exact ⟨rfl, .cons htakes .nil⟩
  | @more b part b' w parts hb hb' _ ih =>
    obtain _ | ⟨hpart, hparts⟩ := hparts
    simp only [List.append_assoc, List.cons_append] at hok
    obtain ⟨s', htakes, hok⟩ := takes_of_loop hlead hb hpart
      (boundary_append hb' (boundary_cons (by decide))) (hvalues _ List.mem_cons_self)
      (hpass _ List.mem_cons_self) hok
    have hnext := ih (.next hb') hparts (fun m hm => hvalues m (List.mem_cons_of_mem _ hm))
      (fun m hm => hpass m (List.mem_cons_of_mem _ hm))
      (by simpa only [List.append_assoc, List.cons_append, List.nil_append] using hok)
    exact ⟨hnext.1, .cons htakes hnext.2⟩

/-- A run over the members that is read in every surroundings gives the record. -/
theorem reads_object {a : α} (h : SpellsObject members v) (hcourse : Course Reads r r.start members s)
    (hfinish : r.finish s = .ok a) : Reads r.read v a := by
  obtain ⟨parts, body, hparts, hbody, rfl⟩ := h
  refine .peek rfl fun rest _ => ?_
  have hloop : ∃ first, loop r.objectStep (true, r.start) (body ++ '\x7d' :: rest) =
      .ok ((first, s), '\x7d' :: rest) := by
    rcases hbody with ⟨rfl, hblank⟩ | hbody
    · cases hparts
      cases hcourse
      exact ⟨true, loop_of_brace hblank⟩
    · exact ⟨false, loop_of_course .first hbody hparts hcourse⟩
  obtain ⟨first, hloop⟩ := hloop
  rw [List.append_assoc]
  refine (bind_advance _).trans ((bind_apply_of_ok hloop).trans ?_)
  dsimp only
  rw [hfinish]
  rfl

/-- A record that is read from an object is what a run over its members gives. -/
theorem course_of_read {a : α} (h : SpellsObject members v) (hvalues : ∀ m ∈ members, IsValue m.2)
    (hpass : ∀ m ∈ members, r.FieldsPass m.2) (hb : Blank b)
    (hok : r.read (b ++ (v ++ rest)) = .ok (a, t)) :
    t = rest ∧ ∃ s, Course Found r r.start members s ∧ r.finish s = .ok a := by
  obtain ⟨parts, body, hparts, hbody, rfl⟩ := h
  have hread : r.read (b ++ ('\x7b' :: (body ++ ['\x7d']) ++ rest)) =
      r.ofObject (body ++ '\x7d' :: rest) := by
    rw [List.cons_append, List.append_assoc]
    exact (bind_peek _ hb rfl).trans (bind_advance _)
  rw [hread] at hok
  obtain ⟨⟨first, s⟩, t', hloop, hok⟩ := bind_apply_eq_ok.mp hok
  have hcourse : t' = '\x7d' :: rest ∧ Course Found r r.start members s := by
    rcases hbody with ⟨rfl, hblank⟩ | hbody
    · cases hparts
      rw [loop_of_brace hblank] at hloop
      cases hloop
      exact ⟨rfl, .nil⟩
    · exact course_of_loop .first hbody hparts hvalues hpass hloop
  obtain ⟨rfl, hcourse⟩ := hcourse
  dsimp only at hok
  cases hfinish : r.finish s with
  | error name =>
    rw [hfinish] at hok
    exact absurd hok (refuses_refuseUpTo _ _ _ _)
  | ok a' =>
    rw [hfinish] at hok
    cases hok
    exact ⟨rfl, s, hcourse, hfinish⟩

/-! ### Lists -/

/-- An element is read by its field, once the comma in front of it is taken. -/
theorem element_of_item {lead item : List Char} {f : Field σ} (hlead : Front first lead)
    (hb : Blank b) (hv : IsValue item) :
    element f first s (lead ++ (b ++ (item ++ rest))) =
      (do let fill ← f.read; return some (fill s)) (item ++ rest) := by
  obtain ⟨c, t, rfl, hfrom⟩ := hv.exists_valueFrom
  have hbracket : c ≠ ']' := by
    rintro rfl
    cases hfrom.1
  have hpeek {α : Type} (f : Option Char → Reader α) :
      (peek >>= f) (b ++ (c :: t ++ rest)) = f (some c) (c :: t ++ rest) :=
    bind_peek f hb hfrom.not_blank
  cases hlead with
  | first =>
    refine (hpeek _).trans ?_
    generalize hx : some c = x
    split
    · cases hx
    · exact absurd (Option.some.inj hx) hbracket
    · rfl
  | @next b' hb' =>
    rw [List.append_assoc]
    refine (bind_peek _ hb' rfl).trans ((bind_advance _).trans ((hpeek _).trans ?_))
    generalize hx : some c = x
    split
    · exact absurd (Option.some.inj hx) hbracket
    · cases hx
    · rfl

/-- A list with an element left over is refused. -/
theorem endOfElements_of_item {lead item : List Char} {p : Unit × List Char}
    (hlead : Front first lead) (hb : Blank b) (hv : IsValue item) :
    endOfElements (lead ++ (b ++ (item ++ rest))) ≠ .ok p := by
  obtain ⟨c, t, rfl, hfrom⟩ := hv.exists_valueFrom
  have hpeek {α : Type} (f : Option Char → Reader α) :
      (peek >>= f) (b ++ (c :: t ++ rest)) = f (some c) (c :: t ++ rest) :=
    bind_peek f hb hfrom.not_blank
  intro hok
  cases hlead with
  | first =>
    rw [List.nil_append, endOfElements, hpeek] at hok
    generalize hx : some c = x at hok
    split at hok
    · obtain rfl := Option.some.inj hx
      cases hfrom.1
    · obtain rfl := Option.some.inj hx
      cases hfrom.1
    · cases hok
    · cases hok
  | @next b' hb' =>
    obtain ⟨r, hrefuses, hcomma⟩ : ∃ r : Reader Unit, Refuses r ∧
        endOfElements (b' ++ [','] ++ (b ++ (c :: t ++ rest))) = r (b ++ (c :: t ++ rest)) := by
      rw [List.append_assoc]
      refine ⟨_, ?_, (bind_peek _ hb' rfl).trans (bind_advance _)⟩
      exact .bind fun _ => by split <;> exact refuses_refuseNext _
    exact hrefuses _ _ (hcomma ▸ hok)

/-- Where the elements end, so does the list. -/
theorem eq_of_elements_end {fields : List (Field σ)}
    (hb : Blank b) (h : elements first s fields (b ++ ']' :: rest) = .ok (s', t))
    (hend : endOfElements t = .ok ((), w)) : w = rest := by
  have hclose {b : List Char} (hb : Blank b) : endOfElements (b ++ ']' :: rest) = .ok ((), rest) :=
    bind_peek _ hb rfl
  cases fields with
  | nil =>
    cases h
    rw [hclose hb] at hend
    cases hend
    rfl
  | cons f fields =>
    have helement : element f first s (b ++ ']' :: rest) = .ok (none, ']' :: rest) :=
      bind_peek _ hb rfl
    rw [elements, bind_apply_of_ok helement] at h
    cases h
    have hclosed : endOfElements (']' :: rest) = .ok ((), rest) := hclose blank_nil
    rw [hclosed] at hend
    cases hend
    rfl

/-- An item goes to the first of the fields that are left. -/
theorem elements_of_item {fields : List (Field σ)} {lead item : List Char} {p : Unit × List Char}
    (hlead : Front first lead) (hb : Blank b) (hv : IsValue item) (hrest : Boundary rest)
    (hpass : ∀ f ∈ fields, Passes f.read item)
    (h : elements first s fields (lead ++ (b ++ (item ++ rest))) = .ok (s', t))
    (hend : endOfElements t = .ok p) :
    ∃ f fields' s'', fields = f :: fields' ∧ elements false s'' fields' rest = .ok (s', t) := by
  cases fields with
  | nil =>
    cases h
    exact absurd hend (endOfElements_of_item hlead hb hv)
  | cons f fields =>
    rw [elements] at h
    obtain ⟨next, u, helement, hnext⟩ := bind_apply_eq_ok.mp h
    rw [element_of_item hlead hb hv] at helement
    obtain ⟨fill, u', hread, heq⟩ := bind_apply_eq_ok.mp helement
    cases heq
    obtain rfl := hpass f List.mem_cons_self [] rest fill u blank_nil hrest hread
    exact ⟨f, fields, fill s, rfl, hnext⟩

theorem eq_of_elements {items : List (List Char)} {fields : List (Field σ)} {lead : List Char}
    (hlead : Front first lead) (hitems : Separated items w) (hvalues : ∀ v ∈ items, IsValue v)
    (hpass : ∀ v ∈ items, ∀ f ∈ fields, Passes f.read v)
    (h : elements first s fields (lead ++ (w ++ ']' :: rest)) = .ok (s', t))
    (hend : endOfElements t = .ok ((), v)) : v = rest := by
  -- The fields take the items in turn; an item that is left over is refused at the end.
  induction hitems generalizing fields first s lead with
  | @one b item b' hb hb' =>
    simp only [List.append_assoc] at h
    obtain ⟨f, fields', s'', rfl, hlast⟩ := elements_of_item hlead hb (hvalues _ List.mem_cons_self)
      (boundary_append hb' (boundary_cons (by decide))) (hpass _ List.mem_cons_self) h hend
    exact eq_of_elements_end hb' hlast hend
  | @more b item b' w items hb hb' _ ih =>
    simp only [List.append_assoc, List.cons_append] at h
    obtain ⟨f, fields', s'', rfl, hmore⟩ := elements_of_item hlead hb (hvalues _ List.mem_cons_self)
      (boundary_append hb' (boundary_cons (by decide))) (hpass _ List.mem_cons_self) h hend
    have hnext : elements false s'' fields' (b' ++ [','] ++ (w ++ ']' :: rest)) = .ok (s', t) := by
      simpa only [List.append_assoc, List.cons_append, List.nil_append] using hmore
    exact ih (.next hb') (fun v hv => hvalues v (List.mem_cons_of_mem _ hv))
      (fun v hv f hf => hpass v (List.mem_cons_of_mem _ hv) f (List.mem_cons_of_mem _ hf)) hnext

theorem passes_list {items : List (List Char)} (h : SpellsList items v)
    (hvalues : ∀ v ∈ items, IsValue v) (hpass : ∀ v ∈ items, r.FieldsPass v) :
    Passes r.read v := by
  obtain ⟨body, hbody, rfl⟩ := h
  intro b rest a t hb _ hok
  have hread : r.read (b ++ ('[' :: (body ++ [']']) ++ rest)) = r.ofList (body ++ ']' :: rest) := by
    rw [List.cons_append, List.append_assoc]
    exact (bind_peek _ hb rfl).trans (bind_advance _)
  rw [hread] at hok
  obtain ⟨s, t', helements, hok⟩ := bind_apply_eq_ok.mp hok
  cases hfinish : r.finish s with
  | error name =>
    rw [hfinish] at hok
    exact absurd hok (refuses_refuseUpTo _ _ _ _)
  | ok a' =>
    rw [hfinish] at hok
    obtain ⟨_, t', hend, hok⟩ := bind_apply_eq_ok.mp hok
    cases hok
    rcases hbody with ⟨-, hblank⟩ | hbody
    · exact eq_of_elements_end hblank helements hend
    · exact eq_of_elements .first hbody hvalues hpass helements hend

/-- A record takes no more and no less than a value if its fields do so. -/
theorem passes_read (hv : IsValue v) (hpass : ∀ v, IsValue v → r.FieldsPass v) :
    Passes r.read v := by
  obtain ⟨c, t, rfl, hfrom⟩ := hv.exists_valueFrom
  by_cases hbracket : c = '['
  · subst hbracket
    obtain ⟨items, hitems, hvalues⟩ := hfrom
    exact passes_list hitems hvalues fun v hv => hpass v (hvalues v hv)
  by_cases hbrace : c = '\x7b'
  · subst hbrace
    obtain ⟨members, hmembers, hvalues⟩ := hfrom
    intro b rest a t hb _ hok
    exact (course_of_read hmembers hvalues (fun m hm => hpass m.2 (hvalues m hm)) hb hok).1
  · refine .peek hfrom fun rest a s _ hok => ?_
    generalize hx : some c = x at hok
    split at hok
    · exact absurd (Option.some.inj hx) hbracket
    · exact absurd (Option.some.inj hx) hbrace
    · exact absurd hok (refuses_refuseKind _ _ _ _)

/-! ### Keys -/

def Lawful (r : Record σ α) : Prop :=
  ∀ f ∈ r.fields, ∀ t fill rest, f.read t = .ok (fill, rest) → ∀ s, f.isFilled (fill s) = true ∧
    ∀ g ∈ r.fields, g.isFilled s = true → g.isFilled (fill s) = true

theorem known_of_course (hstrict : r.strict = true) (h : Course Found r s members s') :
    ∀ m ∈ members, m.1 ∈ r.names := by
  induction h with
  | nil => exact fun _ hm => absurd hm List.not_mem_nil
  | cons htakes _ ih =>
    intro m hm
    rcases List.mem_cons.mp hm with rfl | hm
    · cases htakes with
      | field hfind _ _ =>
        have hname := List.find?_some hfind
        exact List.mem_map.mpr ⟨_, List.mem_of_find?_eq_some hfind, by simpa using hname⟩
      | other _ hloose _ =>
        rw [hstrict] at hloose
        cases hloose
    · exact ih m hm

/-- A field whose gap is filled is not given again. -/
theorem nodup_of_course (hlawful : r.Lawful) (hstrict : r.strict = true)
    (h : Course Found r s members s') :
    (members.map Prod.fst).Nodup ∧ ∀ key f, r.fields.find? (·.name == key) = some f →
      f.isFilled s = true → key ∉ members.map Prod.fst := by
  induction h with
  | nil => exact ⟨List.nodup_nil, fun _ _ _ _ => List.not_mem_nil⟩
  | @cons s _ _ _ _ htakes _ ih =>
    cases htakes with
    | @field key v f fill hfind hfree hfound =>
      obtain ⟨_, rest, -, -, hread⟩ := hfound
      obtain ⟨hnodup, hfilled⟩ := ih
      have hmem := List.mem_of_find?_eq_some hfind
      obtain ⟨hfull, hkeeps⟩ := hlawful f hmem _ fill rest hread s
      refine ⟨List.nodup_cons.mpr ⟨hfilled key f hfind hfull, hnodup⟩, fun key' g hg hgs => ?_⟩
      rw [List.map_cons, List.mem_cons, not_or]
      refine ⟨?_, hfilled key' g hg (hkeeps g (List.mem_of_find?_eq_some hg) hgs)⟩
      rintro rfl
      rw [hfind] at hg
      cases hg
      rw [hfree] at hgs
      cases hgs
    | other _ hloose _ =>
      rw [hstrict] at hloose
      cases hloose

/-- The field of a member has read its value. -/
theorem found_of_course (h : Course Found r s members s') {m : String × List Char}
    (hm : m ∈ members) {f : Field σ} (hf : r.fields.find? (·.name == m.1) = some f) :
    ∃ fill, Found f.read m.2 fill := by
  induction h with
  | nil => exact absurd hm List.not_mem_nil
  | cons htakes _ ih =>
    rcases List.mem_cons.mp hm with rfl | hm
    · cases htakes with
      | field hfind _ hfound =>
        cases hfind.symm.trans hf
        exact ⟨_, hfound⟩
      | other hfind _ _ => cases hfind.symm.trans hf
    · exact ih hm

/-- The keys of a strict record that is read are names of its fields, none of them twice. -/
theorem not_misnamed_of_course (hlawful : r.Lawful) (hstrict : r.strict = true)
    (h : Course Found r s members s') : ¬ Misnamed r.names members := by
  rintro (⟨m, hm, hunknown⟩ | hrepeated)
  · exact hunknown (known_of_course hstrict h m hm)
  · exact hrepeated (nodup_of_course hlawful hstrict h).1

/-! ### Fields given once each -/

section Gives

variable {δ : Type} {key : δ → String} {fill : δ → σ → σ} {spells : δ → List Char → Prop}
  {given : List δ} {a : α}

/-- How a part is given: under the name of a field that reads its spellings and leaves the gaps of
the other fields as they are. -/
structure Gives (r : Record σ α) (key : δ → String) (fill : δ → σ → σ)
    (spells : δ → List Char → Prop) : Prop where
  start : ∀ f ∈ r.fields, f.isFilled r.start = false
  reads : ∀ x v, spells x v →
    ∃ f, r.fields.find? (·.name == key x) = some f ∧ Reads f.read v (fill x)
  frame : ∀ x, ∀ f ∈ r.fields, f.name ≠ key x → ∀ s, f.isFilled (fill x s) = f.isFilled s

theorem Gives.course (h : r.Gives key fill spells) (hnodup : (given.map key).Nodup)
    (hmembers : List.Forall₂ (fun x m => m.1 = key x ∧ spells x m.2) given members)
    (hfree : ∀ f ∈ r.fields, f.name ∈ given.map key → f.isFilled s = false) :
    Course Reads r s members (given.foldl (fun s x => fill x s) s) := by
  -- The gaps of the parts that are still to come are free.
  induction hmembers generalizing s with
  | nil => exact .nil
  | @cons x m given members hm _ ih =>
    obtain ⟨_, v⟩ := m
    obtain ⟨rfl, hspells⟩ := hm
    obtain ⟨f, hfind, hreads⟩ := h.reads x v hspells
    obtain ⟨hnew, hnodup⟩ := List.nodup_cons.mp hnodup
    have hmem := List.mem_of_find?_eq_some hfind
    have hname : f.name = key x := by simpa using List.find?_some hfind
    have hgap : f.isFilled s = false := hfree f hmem (hname ▸ List.mem_cons_self)
    refine .cons (.field hfind hgap hreads) (ih hnodup fun g hg hlater => ?_)
    have hother : g.name ≠ key x := fun heq => hnew (heq ▸ hlater)
    rw [h.frame x g hg hother]
    exact hfree g hg (List.mem_cons_of_mem _ hlater)

/-- What the parts make of the gaps, they make of the record. -/
theorem finish_foldl {assign : α → δ → α}
    (h : ∀ x s a, r.finish s = .ok a → r.finish (fill x s) = .ok (assign a x)) (given : List δ)
    (hs : r.finish s = .ok a) :
    r.finish (given.foldl (fun s x => fill x s) s) = .ok (given.foldl assign a) := by
  induction given generalizing s a with
  | nil => exact hs
  | cons x given ih => exact ih (h x s a hs)

/-- Parts that are given once each make up the record, in whatever order they come. -/
theorem Gives.reads_given (h : r.Gives key fill spells) (hv : SpellsGiven key spells given v)
    (hfinish : r.finish (given.foldl (fun s x => fill x s) r.start) = .ok a) :
    Reads r.read v a := by
  obtain ⟨hnodup, members, hmembers, hobject⟩ := hv
  have hcourse := h.course hnodup hmembers fun f hf _ => h.start f hf
  exact reads_object hobject hcourse hfinish

end Gives

end CloudReach.Json.Record
