import CloudReach.Event.Journal
import CloudReach.Proofs.Json.Record
import CloudReach.Proofs.Json.Value

/-!
# Journals read back

A journal is cut at its line breaks into one line for each event, in the order in which they were
delivered, and each line is the text of an object. `decode` recovers an event from its line: all of
it but the part of a duration that is not written.
-/

namespace CloudReach.Event

open Json Json.Reader

/-! ### Members -/

def members (e : Event) : List (String × Value) :=
  match e.json with
  | .object members => members
  | _ => []

theorem json_eq (e : Event) : e.json = .object e.members := by
  cases e <;> rfl

def textNames : List String := ["category", "kind", "policy"]

def numberNames : List String :=
  ["attempt", "attempts", "delay_ms", "elapsed_ms", "regions", "status", "zones"]

def Known : String × Value → Prop
  | (name, .text _) => name ∈ textNames
  | (name, .number _) => name ∈ numberNames
  | (_, .object _) => False

theorem known_of_mem (e : Event) : ∀ m ∈ e.members, Known m := by
  cases e <;> simp [members, json, Category.json, Known, textNames, numberNames]

theorem nodup_members (e : Event) : (e.members.map Prod.fst).Nodup := by
  cases e <;> simp [members, json]

/-! ### Events from members -/

def text? (name : String) (members : List (String × Value)) : Option String :=
  match members.lookup name with
  | some (.text s) => some s
  | _ => none

def number? (name : String) (members : List (String × Value)) : Option Nat :=
  match members.lookup name with
  | some (.number n) => some n
  | _ => none

def category? (members : List (String × Value)) : Option Category := do
  let key ← text? "category" members
  [Category.redirection, .clientError, .serverError].find? (·.key == key)

def duration? (name : String) (members : List (String × Value)) : Option Duration :=
  (number? name members).map fun n => .ofMillis (.ofNat n)

def ofMembers (ms : List (String × Value)) : Option Event := do
  match ← text? "kind" ms with
  | "poll_attempt" => return .attempt (← text? "policy" ms) (← number? "attempt" ms)
  | "poll_ready" =>
    return .ready (← text? "policy" ms) (← number? "attempts" ms) (← duration? "elapsed_ms" ms)
  | "poll_exhausted" =>
    return .exhausted (← text? "policy" ms) (← number? "attempts" ms)
      (← duration? "elapsed_ms" ms)
  | "poll_check_failed" => return .checkFailed (← text? "policy" ms) (← number? "attempt" ms)
  | "regions_loaded" => return .regionsLoaded (← number? "regions" ms)
  | "regions_load_failed" => return .regionsLoadFailed
  | "regions_failure_replayed" => return .regionsFailureReplayed
  | "zones_mapped" => return .zonesMapped (← number? "regions" ms) (← number? "zones" ms)
  | "response_retry" =>
    return .retryScheduled (← category? ms) (← number? "status" ms) (← number? "attempt" ms)
      (← duration? "delay_ms" ms)
  | "response_gave_up" => return .gaveUp (← category? ms) (← number? "status" ms)
  | "response_interpreted" => return .interpreted (← category? ms) (← number? "status" ms)
  | _ => none

/-- What a line keeps of a duration: the low 64 bits of its whole milliseconds. -/
def kept (d : Duration) : Duration :=
  .ofMillis (.ofNat (d.millis % 2 ^ 64))

def logged : Event → Event
  | ready policy n elapsed => ready policy n (kept elapsed)
  | exhausted policy n elapsed => exhausted policy n (kept elapsed)
  | retryScheduled category status n delay => retryScheduled category status n (kept delay)
  | e => e

theorem ofMembers_members (e : Event) : ofMembers e.members = some e.logged := by
  cases e with
  | retryScheduled category => cases category <;> rfl
  | gaveUp category => cases category <;> rfl
  | interpreted category => cases category <;> rfl
  | _ => rfl

/-! ### Members from lines -/

def whole : Reader Nat := do
  let _ ← peek
  fun s =>
    let (ds, rest) := Number.spanDigits s
    if ds.isEmpty then .error ⟨.expectedValue, s, 1⟩ else .ok (Text.ofDigits ds, rest)

def field (value : Reader Value) (name : String) : Json.Field (List (String × Value)) where
  name := name
  isFilled s := (s.lookup name).isSome
  read := do let v ← value; return (· ++ [(name, v)])

def record : Record (List (String × Value)) Event where
  name := "Event"
  strict := true
  start := []
  fields := textNames.map (field (do let s ← Reader.text; return .text s)) ++
    numberNames.map (field (do let n ← whole; return .number n))
  finish s :=
    match ofMembers s with
    | some e => .ok e
    | none => .error "kind"

def decode (line : List Char) : Option Event :=
  match run record.read (String.ofList line) with
  | .ok e => some e
  | .error _ => none

theorem reads_whole (n : Nat) : Reads whole (Text.digits n) n := by
  obtain ⟨c, t, hct, hc⟩ := (digits_digits n).head
  have hblank : isBlank c = false := by
    refine eq_false_of_ne_true fun hblank => ?_
    rw [isDigit_eq_false_of_isBlank hblank] at hc
    cases hc
  have hsome : (Text.digits n).isEmpty = false := by rw [hct]; rfl
  intro b rest hb hrest
  have hspan : Number.spanDigits (Text.digits n ++ rest) = (Text.digits n, rest) :=
    (digits_digits n).spanDigits fun d hd => (hrest.head hd).1
  rw [hct, List.cons_append]
  refine (bind_peek _ hb hblank).trans ?_
  rw [← List.cons_append, ← hct, hspan]
  dsimp only
  rw [hsome, ofDigits_digits]
  rfl

theorem exists_field {f : Json.Field (List (String × Value))} (hf : f ∈ record.fields) :
    ∃ value, f = field value f.name := by
  rcases List.mem_append.mp hf with hf | hf
  all_goals
    obtain ⟨name, -, rfl⟩ := List.mem_map.mp hf
    exact ⟨_, rfl⟩

theorem gives_record : record.Gives Prod.fst (fun m s => s ++ [m])
    (fun m w => Known m ∧ w = m.2.chars) where
  start f hf := by
    obtain ⟨_, hfield⟩ := exists_field hf
    rw [hfield]
    rfl
  reads m w hw := by
    obtain ⟨name, value⟩ := m
    obtain ⟨hknown, rfl⟩ := hw
    cases value with
    | text s =>
      have hread := ((reads_textAs "a string" (spellsText_writeText s)).map (f := Value.text)).map
        (f := fun v (ms : List (String × Value)) => ms ++ [(name, v)])
      rw [Value.chars]
      simp only [Known, textNames, List.mem_cons, List.not_mem_nil, or_false] at hknown
      rcases hknown with rfl | rfl | rfl
      all_goals exact ⟨_, rfl, hread⟩
    | number n =>
      have hread := ((reads_whole n).map (f := Value.number)).map
        (f := fun v (ms : List (String × Value)) => ms ++ [(name, v)])
      rw [Value.chars]
      simp only [Known, numberNames, List.mem_cons, List.not_mem_nil, or_false] at hknown
      rcases hknown with rfl | rfl | rfl | rfl | rfl | rfl | rfl
      all_goals exact ⟨_, rfl, hread⟩
    | object _ => cases hknown
  frame m f hf hname s := by
    obtain ⟨name, value⟩ := m
    obtain ⟨_, hfield⟩ := exists_field hf
    have hother : [(name, value)].lookup f.name = none :=
      List.lookup_eq_none_iff.mpr fun p hp => by
        obtain rfl := List.mem_singleton.mp hp
        exact bne_iff_ne.mpr hname
    rw [hfield]
    simp [field, List.lookup_append, hother]

theorem spellsGiven_members (e : Event) :
    SpellsGiven Prod.fst (fun m w => Known m ∧ w = m.2.chars) e.members e.json.chars := by
  rw [json_eq]
  exact Value.spellsGiven_chars e.nodup_members
    (List.forall₂_same.mpr fun m hm => ⟨rfl, e.known_of_mem m hm, rfl⟩)

/-- An event is recovered from its line alone. -/
theorem decode_chars (e : Event) : decode e.json.chars = some e.logged := by
  have hfold : e.members.foldl (fun s m => s ++ [m]) [] = e.members := by
    simp [← List.flatMap_def]
  have hread : Reads record.read e.json.chars e.logged := by
    refine gives_record.reads_given e.spellsGiven_members ?_
    rw [show record.start = [] from rfl, hfold]
    unfold record
    dsimp only
    rw [ofMembers_members]
  have htext : Surrounds (String.ofList e.json.chars) e.json.chars :=
    ⟨[], [], blank_nil, blank_nil, by simp⟩
  unfold decode
  rw [run_of_reads hread htext]

/-! ### Lines of a journal -/

def journal (es : List Event) : String :=
  String.join (es.map line)

theorem splitOn_journal (es : List Event) :
    Text.splitOn (· == '\n') (journal es).toList = es.map (fun e => e.json.chars) ++ [[]] := by
  induction es with
  | nil => rfl
  | cons e es ih =>
    have hline : ∀ c ∈ e.json.chars, (c == '\n') = false := fun c hc =>
      beq_eq_false_iff_ne.mpr fun heq =>
        Value.freeOf_chars e.json '\n' List.mem_cons_self (heq ▸ hc)
    have hjournal : (journal (e :: es)).toList = e.json.chars ++ '\n' :: (journal es).toList := by
      simp [journal, line, Value.toText]
    rw [hjournal, Text.splitOn_append_cons hline rfl, ih]
    rfl

def IsObject (w : List Char) : Prop :=
  ∃ members, SpellsObject members w ∧ ∀ m ∈ members, IsValue m.2

theorem isObject_chars (e : Event) : IsObject e.json.chars := by
  rw [json_eq]
  exact ⟨_, Value.spellsObject_chars e.members,
    List.forall_mem_map.mpr (Value.isValue_of_mem e.members)⟩

/-! ### Journals -/

variable {σ η ε : Type}

/-- In this world text that is appended to the file is written whole: the file can be opened, and
once it has been flushed it ends with the text. -/
def WritesWhole (files : Files σ η ε) (path : String) (contents : σ → String) : Prop :=
  ∀ text s, ∃ file s₁ s₂ s₃, files.openAppend path s = (.ok file, s₁) ∧
    files.writeAll file text s₁ = (.ok (), s₂) ∧ files.flush file s₂ = (.ok (), s₃) ∧
    contents s₃ = contents s ++ text

def deliverAll (sink : Sink σ ε) (es : List Event) (s : σ) : σ :=
  es.foldl (fun s e => (sink.call e s).2) s

variable {files : Files σ η ε} {path : String} {contents : σ → String}

/-- A delivery succeeds, and the file has one line more. -/
theorem call_journal (h : WritesWhole files path contents) (e : Event) (s : σ) :
    ∃ s', (files.journal path).call e s = (.ok (), s') ∧ contents s' = contents s ++ e.line := by
  obtain ⟨file, s₁, s₂, s₃, hopen, hwrite, hflush, hcontents⟩ := h e.line s
  refine ⟨s₃, ?_, hcontents⟩
  simp only [Files.journal, Files.appendLine, hopen, hwrite, hflush]

theorem contents_deliverAll (h : WritesWhole files path contents) (es : List Event) (s : σ) :
    contents (deliverAll (files.journal path) es s) = contents s ++ journal es := by
  induction es generalizing s with
  | nil => simp [deliverAll, journal]
  | cons e es ih =>
    obtain ⟨s', hcall, hcontents⟩ := call_journal h e s
    have hrest : deliverAll (files.journal path) (e :: es) s =
        deliverAll (files.journal path) es s' := by
      rw [deliverAll, List.foldl_cons, hcall]
      rfl
    rw [hrest, ih, hcontents]
    simp [journal, String.append_assoc]

/-- Events that are delivered to a new file stand there one to a line, in their order, each an
object from which the event is recovered, provided that what is appended is written whole. -/
theorem lines_of_delivered (whole : WritesWhole files path contents) (es : List Event) (s : σ)
    (hnew : contents s = "") :
    ∃ lines,
      Text.splitOn (· == '\n') (contents (deliverAll (files.journal path) es s)).toList =
        lines ++ [[]] ∧
      List.Forall₂ (fun e line => IsObject line ∧ decode line = some e.logged) es lines := by
  refine ⟨es.map fun e => e.json.chars, ?_, ?_⟩
  · rw [contents_deliverAll whole, hnew, String.empty_append, splitOn_journal]
  · exact List.forall₂_map_right_iff.mpr
      (List.forall₂_same.mpr fun e _ => ⟨e.isObject_chars, e.decode_chars⟩)

def oneFile : Files String Unit Empty where
  openAppend _ s := (.ok (), s)
  writeAll _ text s := (.ok (), s ++ text)
  flush _ s := (.ok (), s)

/-- A name with a quote and a line break makes one line like any other. -/
theorem lines_of_quoted_name :
    WritesWhole oneFile "events.jsonl" id ∧
    ∃ lines,
      Text.splitOn (· == '\n')
        (deliverAll (oneFile.journal "events.jsonl")
          [attempt "a\"\n" 1, regionsFailureReplayed] "").toList = lines ++ [[]] ∧
      List.Forall₂ (fun e line => IsObject line ∧ decode line = some e.logged)
        [attempt "a\"\n" 1, regionsFailureReplayed] lines := by
  have whole : WritesWhole oneFile "events.jsonl" id := fun text s =>
    ⟨(), s, s ++ text, s ++ text, rfl, rfl, rfl, rfl⟩
  exact ⟨whole, lines_of_delivered whole _ "" rfl⟩

end CloudReach.Event
