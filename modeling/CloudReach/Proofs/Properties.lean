import CloudReach.Properties.Json
import CloudReach.Proofs.Json.Record
import CloudReach.Proofs.Json.Value
import Mathlib.Data.List.Permutation

/-!
# Properties read and written

Properties are read from every object in which some of their fields are given, once each and in any
order; the fields that are not given keep their standard values. What is written of properties is
such an object. An object with another key, or with one key twice, is refused.
-/

namespace CloudReach

open Json Json.Reader

variable {w : List Char}

/-! ### Settings of policies -/

namespace PolicySettings

variable {s : PolicySettings}

def Spells (s : PolicySettings) (w : List Char) : Prop :=
  ∃ members, members.Perm
    [("max_attempts", Text.digits s.maxAttempts.toNat),
      ("interval_ms", Text.digits s.intervalMillis.toNat)] ∧ SpellsObject members w

theorem reads_record (h : s.Spells w) : Reads record.read w s := by
  obtain ⟨members, hperm, hobject⟩ := h
  have hattempts := (reads_word64 "usize" s.maxAttempts).map
    (f := fun n (g : Gaps) => { g with maxAttempts := some n })
  have hinterval := (reads_word64 "u64" s.intervalMillis).map
    (f := fun n (g : Gaps) => { g with intervalMillis := some n })
  rcases List.perm_pair.mp hperm with rfl | rfl
  · exact Record.reads_object hobject
      (.cons (.field rfl rfl hattempts) (.cons (.field rfl rfl hinterval) .nil)) rfl
  · exact Record.reads_object hobject
      (.cons (.field rfl rfl hinterval) (.cons (.field rfl rfl hattempts) .nil)) rfl

theorem spells_json (s : PolicySettings) : s.Spells s.json.chars := by
  refine ⟨_, .refl _, ?_⟩
  have hobject := Value.spellsObject_chars [("max_attempts", .number s.maxAttempts.toNat),
    ("interval_ms", .number s.intervalMillis.toNat)]
  simp only [List.map_cons, List.map_nil, Value.spelled_number] at hobject
  exact hobject

theorem head_of_spells (h : s.Spells w) : ∃ t, w = '\x7b' :: t := by
  obtain ⟨_, -, _, _, -, -, rfl⟩ := h
  exact ⟨_, rfl⟩

theorem passes_record (hw : IsValue w) : Passes record.read w := by
  refine Record.passes_read hw fun v hv f hf => ?_
  simp only [record, List.mem_cons, List.not_mem_nil, or_false] at hf
  rcases hf with rfl | rfl
  · exact (passes_word64 hv).map
  · exact (passes_word64 hv).map

end PolicySettings

/-! ### Overrides -/

namespace ReadinessOverrides

inductive Given
  | running (s : Option PolicySettings)
  | terminated (s : Option PolicySettings)
  | socketOpen (s : Option PolicySettings)

namespace Given

def key : Given → String
  | running _ => "running"
  | terminated _ => "terminated"
  | socketOpen _ => "socket_open"

def SpellsSettings : Option PolicySettings → List Char → Prop
  | none, w => w = ['n', 'u', 'l', 'l']
  | some s, w => s.Spells w

def Spells : Given → List Char → Prop
  | running s => SpellsSettings s
  | terminated s => SpellsSettings s
  | socketOpen s => SpellsSettings s

def assign (o : ReadinessOverrides) : Given → ReadinessOverrides
  | running s => { o with running := s }
  | terminated s => { o with terminated := s }
  | socketOpen s => { o with socketOpen := s }

def fill : Given → Gaps → Gaps
  | running s => fun g => { g with running := some s }
  | terminated s => fun g => { g with terminated := some s }
  | socketOpen s => fun g => { g with socketOpen := some s }

end Given

/-- An object in which some of the overrides are given, once each and in any order. -/
def Spells (o : ReadinessOverrides) (w : List Char) : Prop :=
  ∃ given, SpellsGiven Given.key Given.Spells given w ∧ given.foldl Given.assign empty = o

theorem reads_settings {s : Option PolicySettings} (h : Given.SpellsSettings s w) :
    Reads settings w s := by
  cases s with
  | none =>
    obtain rfl : w = ['n', 'u', 'l', 'l'] := h
    exact reads_optional_null
  | some s =>
    obtain ⟨t, rfl⟩ := PolicySettings.head_of_spells h
    exact reads_optional (PolicySettings.reads_record h) rfl (by decide)

theorem gives_record : record.Gives Given.key Given.fill Given.Spells where
  start := by simp [record]
  reads x v hv := by
    cases x with
    | running s => exact ⟨_, rfl, (reads_settings hv).map⟩
    | terminated s => exact ⟨_, rfl, (reads_settings hv).map⟩
    | socketOpen s => exact ⟨_, rfl, (reads_settings hv).map⟩
  frame x := by cases x <;> simp [record, Given.key, Given.fill]

theorem finish_fill (x : Given) (g : Gaps) (o : ReadinessOverrides)
    (h : record.finish g = .ok o) : record.finish (x.fill g) = .ok (x.assign o) := by
  cases h
  cases x <;> rfl

theorem reads_record {o : ReadinessOverrides} (h : o.Spells w) : Reads record.read w o := by
  obtain ⟨given, hgiven, rfl⟩ := h
  exact gives_record.reads_given hgiven (Record.finish_foldl finish_fill given rfl)

/-- What is written of some overrides: those that there are. -/
theorem spells_json (o : ReadinessOverrides) : o.Spells o.json.chars := by
  obtain ⟨running, terminated, socketOpen⟩ := o
  refine ⟨running.toList.map (.running ∘ some) ++ terminated.toList.map (.terminated ∘ some) ++
    socketOpen.toList.map (.socketOpen ∘ some), Value.spellsGiven_chars ?_ ?_, ?_⟩
  · cases running <;> cases terminated <;> cases socketOpen <;> simp [Given.key]
  · have hentry (name : String) (make : Option PolicySettings → Given) (s : Option PolicySettings)
        (hkey : ∀ s, (make s).key = name) (hspells : ∀ s, (make s).Spells = Given.SpellsSettings s) :
        List.Forall₂ (fun (x : Given) m => m.1 = x.key ∧ x.Spells (Value.chars m.2))
          (s.toList.map (make ∘ some)) (entry name s) := by
      cases s with
      | none => exact .nil
      | some s =>
        refine .cons ⟨(hkey _).symm, ?_⟩ .nil
        rw [Function.comp_apply, hspells]
        exact s.spells_json
    exact List.rel_append (List.rel_append (hentry _ .running _ (fun _ => rfl) fun _ => rfl)
      (hentry _ .terminated _ (fun _ => rfl) fun _ => rfl))
      (hentry _ .socketOpen _ (fun _ => rfl) fun _ => rfl)
  · cases running <;> cases terminated <;> cases socketOpen <;> rfl

theorem lawful_record : record.Lawful := by
  intro f hf t fill rest hread s
  simp only [record, List.mem_cons, List.not_mem_nil, or_false] at hf
  rcases hf with rfl | rfl | rfl
  all_goals
    obtain ⟨_, _, -, hfill⟩ := bind_apply_eq_ok.mp hread
    cases hfill
    simp +contextual [record]

theorem fieldsPass_record (hw : IsValue w) : record.FieldsPass w := by
  intro f hf
  have hsettings : Passes settings w := passes_optional (PolicySettings.passes_record hw) hw
  simp only [record, List.mem_cons, List.not_mem_nil, or_false] at hf
  rcases hf with rfl | rfl | rfl
  · exact hsettings.map
  · exact hsettings.map
  · exact hsettings.map

theorem passes_record (hw : IsValue w) : Passes record.read w :=
  Record.passes_read hw fun _ => fieldsPass_record

theorem not_misnamed_of_read {members : List (String × List Char)} {o : ReadinessOverrides}
    {b rest t : List Char} (h : SpellsObject members w) (hvalues : ∀ m ∈ members, IsValue m.2)
    (hb : Blank b) (hok : record.read (b ++ (w ++ rest)) = .ok (o, t)) :
    ¬ Misnamed ["running", "terminated", "socket_open"] members := by
  have hpass : ∀ m ∈ members, record.FieldsPass m.2 := fun m hm =>
    fieldsPass_record (hvalues m hm)
  obtain ⟨-, _, hcourse, -⟩ := Record.course_of_read h hvalues hpass hb hok
  exact Record.not_misnamed_of_course lawful_record rfl hcourse

end ReadinessOverrides

/-! ### Properties -/

namespace Properties

inductive Given
  | computeEndpoint (endpoint : String)
  | loadBalancerEndpoint (endpoint : String)
  | expireSeconds (n : UInt64)
  | readiness (o : ReadinessOverrides)

namespace Given

def key : Given → String
  | computeEndpoint _ => "compute_endpoint"
  | loadBalancerEndpoint _ => "load_balancer_endpoint"
  | expireSeconds _ => "expire_interval_secs"
  | readiness _ => "readiness"

def Spells : Given → List Char → Prop
  | computeEndpoint t, w => SpellsText t w
  | loadBalancerEndpoint t, w => SpellsText t w
  | expireSeconds n, w => w = Text.digits n.toNat
  | readiness o, w => o.Spells w

def assign (p : Properties) : Given → Properties
  | computeEndpoint t => { p with computeEndpoint := t }
  | loadBalancerEndpoint t => { p with loadBalancerEndpoint := t }
  | expireSeconds n => { p with expireSeconds := n }
  | readiness o => { p with readiness := o }

def fill : Given → Gaps → Gaps
  | computeEndpoint t => fun g => { g with computeEndpoint := some t }
  | loadBalancerEndpoint t => fun g => { g with loadBalancerEndpoint := some t }
  | expireSeconds n => fun g => { g with expireSeconds := some n }
  | readiness o => fun g => { g with readiness := some o }

end Given

def ofGiven (given : List Given) : Properties :=
  given.foldl Given.assign standard

theorem gives_record : record.Gives Given.key Given.fill Given.Spells where
  start := by simp [record]
  reads x v hv := by
    cases x with
    | computeEndpoint t => exact ⟨_, rfl, (reads_textAs "a string" hv).map⟩
    | loadBalancerEndpoint t => exact ⟨_, rfl, (reads_textAs "a string" hv).map⟩
    | expireSeconds n =>
      obtain rfl : v = Text.digits n.toNat := hv
      exact ⟨_, rfl, (reads_word64 "u64" n).map⟩
    | readiness o => exact ⟨_, rfl, (ReadinessOverrides.reads_record hv).map⟩
  frame x := by cases x <;> simp [record, Given.key, Given.fill, expireProperty]

theorem finish_fill (x : Given) (g : Gaps) (p : Properties) (h : record.finish g = .ok p) :
    record.finish (x.fill g) = .ok (x.assign p) := by
  cases h
  cases x <;> rfl

theorem reads_record {given : List Given} (h : SpellsGiven Given.key Given.Spells given w) :
    Reads record.read w (ofGiven given) :=
  gives_record.reads_given h (Record.finish_foldl finish_fill given rfl)

theorem spellsGiven_json (p : Properties) :
    SpellsGiven Given.key Given.Spells
      [.computeEndpoint p.computeEndpoint, .loadBalancerEndpoint p.loadBalancerEndpoint,
        .expireSeconds p.expireSeconds, .readiness p.readiness] p.json.chars := by
  refine Value.spellsGiven_chars (by simp [Given.key]) (.cons ⟨rfl, ?_⟩ (.cons ⟨rfl, ?_⟩
    (.cons ⟨rfl, ?_⟩ (.cons ⟨rfl, p.readiness.spells_json⟩ .nil))))
  · rw [Value.chars]
    exact spellsText_writeText p.computeEndpoint
  · rw [Value.chars]
    exact spellsText_writeText p.loadBalancerEndpoint
  · rw [Value.chars]
    rfl

theorem lawful_record : record.Lawful := by
  intro f hf t fill rest hread s
  simp only [record, List.mem_cons, List.not_mem_nil, or_false] at hf
  rcases hf with rfl | rfl | rfl | rfl
  all_goals
    obtain ⟨_, _, -, hfill⟩ := bind_apply_eq_ok.mp hread
    cases hfill
    simp +contextual [record]

theorem fieldsPass_record (hw : IsValue w) : record.FieldsPass w := by
  intro f hf
  simp only [record, List.mem_cons, List.not_mem_nil, or_false] at hf
  rcases hf with rfl | rfl | rfl | rfl
  · exact (passes_textAs _ hw).map
  · exact (passes_textAs _ hw).map
  · exact (passes_word64 hw).map
  · exact (ReadinessOverrides.passes_record hw).map

/-- Objects with an unknown or a repeated key, or with readiness settings that have one. -/
def Refused (members : List (String × List Char)) : Prop :=
  Misnamed ["compute_endpoint", "load_balancer_endpoint", "expire_interval_secs", "readiness"]
    members ∨
  ∃ v inner, ("readiness", v) ∈ members ∧ SpellsObject inner v ∧ (∀ m ∈ inner, IsValue m.2) ∧
    Misnamed ["running", "terminated", "socket_open"] inner

theorem not_refused_of_read {members : List (String × List Char)} {p : Properties}
    {b rest t : List Char} (h : SpellsObject members w) (hvalues : ∀ m ∈ members, IsValue m.2)
    (hb : Blank b) (hok : record.read (b ++ (w ++ rest)) = .ok (p, t)) : ¬ Refused members := by
  have hpass : ∀ m ∈ members, record.FieldsPass m.2 := fun m hm =>
    fieldsPass_record (hvalues m hm)
  obtain ⟨-, _, hcourse, -⟩ := Record.course_of_read h hvalues hpass hb hok
  rintro (hmisnamed | ⟨v, inner, hmem, hinner, hvalues, hmisnamed⟩)
  · exact Record.not_misnamed_of_course lawful_record rfl hcourse hmisnamed
  · obtain ⟨_, d, _, hd, -, hread⟩ := Record.found_of_course hcourse hmem rfl
    obtain ⟨_, _, hread, -⟩ := bind_apply_eq_ok.mp hread
    exact ReadinessOverrides.not_misnamed_of_read hinner hvalues hd hread hmisnamed

/-- Written properties are read back. Fields given once each, in any order, are read as they are,
the others keep their standard values. Unknown and repeated keys are refused. -/
theorem json_codec :
    (∀ p : Properties, ofJson p.json.toText = .ok p) ∧
    (∀ (text : String) (given : List Given) (w : List Char),
      SpellsGiven Given.key Given.Spells given w → Surrounds text w →
      ofJson text = .ok (ofGiven given)) ∧
    (∀ (text : String) (members : List (String × List Char)) (w : List Char),
      SpellsObject members w → (∀ m ∈ members, IsValue m.2) → Surrounds text w →
      Refused members → ∃ reason, ofJson text = .error (.invalidProperty "properties" reason)) := by
  have hgiven (text : String) (given : List Given) (w : List Char)
      (hw : SpellsGiven Given.key Given.Spells given w) (htext : Surrounds text w) :
      ofJson text = .ok (ofGiven given) := by
    unfold ofJson
    rw [run_of_reads (reads_record hw) htext]
  refine ⟨fun p => ?_, hgiven, fun text members w hw hvalues htext hrefused => ?_⟩
  · have hchars : p.json.toText.toList = [] ++ (p.json.chars ++ []) := by
      rw [List.nil_append, List.append_nil]
      exact String.toList_ofList
    exact hgiven _ _ _ (spellsGiven_json p) ⟨[], [], blank_nil, blank_nil, hchars⟩
  · cases hrun : run record.read text with
    | ok p =>
      obtain ⟨t, hread⟩ := run_eq_ok hrun
      obtain ⟨b, b', hb, -, htext⟩ := htext
      rw [htext] at hread
      exact absurd hrefused (not_refused_of_read hw hvalues hb hread)
    | error f =>
      refine ⟨f.message, ?_⟩
      unfold ofJson
      rw [hrun]

/-- Two of the fields in another order, and a key that is none of theirs. -/
theorem json_codec_of_two_fields :
    ofJson "\x7b\"readiness\": \x7b\x7d, \"expire_interval_secs\":7\x7d\n" =
      .ok { standard with expireSeconds := 7 } ∧
    ∃ reason, ofJson "\x7b\"zone\":7\x7d" = .error (.invalidProperty "properties" reason) := by
  have hspace : Blank [' '] := blank_singleton rfl
  have hbreak : Blank ['\n'] := blank_singleton rfl
  have hseven : IsValue ['7'] := Value.isValue_digits 7
  have hdigits : ['7'] = Text.digits (7 : UInt64).toNat := by decide
  have hempty : SpellsObject [] ['\x7b', '\x7d'] :=
    ⟨[], [], .nil, .inl ⟨rfl, blank_nil⟩, rfl⟩
  have hnone : ReadinessOverrides.empty.Spells ['\x7b', '\x7d'] :=
    ⟨[], ⟨List.nodup_nil, [], .nil, hempty⟩, rfl⟩
  have hreadiness : SpellsMember ("readiness", ['\x7b', '\x7d'])
      (writeText "readiness" ++ ':' :: [' ', '\x7b', '\x7d']) :=
    ⟨_, [], [' '], spellsText_writeText _, blank_nil, hspace, rfl⟩
  have hfields : SpellsGiven Given.key Given.Spells [.readiness .empty, .expireSeconds 7]
      "\x7b\"readiness\": \x7b\x7d, \"expire_interval_secs\":7\x7d".toList :=
    ⟨by decide, [("readiness", ['\x7b', '\x7d']), ("expire_interval_secs", ['7'])],
      .cons ⟨rfl, hnone⟩ (.cons ⟨rfl, hdigits⟩ .nil), _, _,
      .cons hreadiness (.cons (Value.spellsMember "expire_interval_secs" ['7']) .nil),
      .inr (.more blank_nil blank_nil (.one hspace blank_nil)), by decide⟩
  have hzone : SpellsObject [("zone", ['7'])] "\x7b\"zone\":7\x7d".toList :=
    ⟨_, _, .cons (Value.spellsMember "zone" ['7']) .nil, .inr (.one blank_nil blank_nil), by decide⟩
  refine ⟨json_codec.2.1 _ _ _ hfields ⟨[], ['\n'], blank_nil, hbreak, by decide⟩,
    json_codec.2.2 _ _ _ hzone (by simpa using hseven) ⟨[], [], blank_nil, blank_nil, by decide⟩
      (.inl (.inl ⟨_, List.mem_cons_self, by decide⟩))⟩

end Properties

end CloudReach
