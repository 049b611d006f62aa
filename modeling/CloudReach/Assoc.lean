/-!
# Association lists

Keys with one value each, in the order in which the keys were first put in.
-/

namespace CloudReach

structure Assoc (α β : Type) where
  entries : List (α × β)
  nodup : (entries.map Prod.fst).Nodup

namespace Assoc

variable {α β : Type}

def empty : Assoc α β := ⟨[], List.nodup_nil⟩

instance : Inhabited (Assoc α β) := ⟨empty⟩

instance [DecidableEq α] [DecidableEq β] : DecidableEq (Assoc α β) := fun a b =>
  decidable_of_iff (a.entries = b.entries) (by cases a; cases b; simp)

def keys (m : Assoc α β) : List α :=
  m.entries.map Prod.fst

def values (m : Assoc α β) : List β :=
  m.entries.map Prod.snd

def size (m : Assoc α β) : Nat :=
  m.entries.length

variable [DecidableEq α]

def get? (m : Assoc α β) (a : α) : Option β :=
  m.entries.lookup a

/-- Puts a value in the place of the key's old one, or at the end. -/
def insertEntry (a : α) (b : β) : List (α × β) → List (α × β)
  | [] => [(a, b)]
  | p :: rest => if p.1 = a then (a, b) :: rest else p :: insertEntry a b rest

/-- The keys after an insertion are those before it and the new one. -/
theorem mem_keys_insertEntry {a x : α} {b : β} {l : List (α × β)} :
    x ∈ (insertEntry a b l).map Prod.fst ↔ x = a ∨ x ∈ l.map Prod.fst := by
  induction l with
  | nil => simp [insertEntry]
  | cons p rest ih =>
    by_cases h : p.1 = a
    · subst h
      simp [insertEntry]
    · simp only [insertEntry, if_neg h, List.map_cons, List.mem_cons, ih]
      constructor
      · rintro (h | h | h) <;> simp [h]
      · rintro (h | h | h) <;> simp [h]

/-- Keys stay distinct. -/
theorem nodup_insertEntry {a : α} {b : β} {l : List (α × β)} (h : (l.map Prod.fst).Nodup) :
    ((insertEntry a b l).map Prod.fst).Nodup := by
  induction l with
  | nil => simp [insertEntry]
  | cons p rest ih =>
    simp only [List.map_cons, List.nodup_cons] at h
    by_cases hp : p.1 = a
    · subst hp
      simpa [insertEntry] using h
    · simp only [insertEntry, if_neg hp, List.map_cons, List.nodup_cons, mem_keys_insertEntry]
      exact ⟨by simpa [hp] using h.1, ih h.2⟩

def insert (m : Assoc α β) (a : α) (b : β) : Assoc α β :=
  ⟨insertEntry a b m.entries, nodup_insertEntry m.nodup⟩

/-- The pairs of a list; a later one takes the place of an earlier one with its key. -/
def ofList (l : List (α × β)) : Assoc α β :=
  l.foldl (fun m p => m.insert p.1 p.2) empty

/-- The map from values to keys; of keys with one value the last counts. -/
def swapped [DecidableEq β] (m : Assoc α β) : Assoc β α :=
  ofList (m.entries.map Prod.swap)

/-! ## Look-up -/

theorem lookup_cons (x : α) (p : α × β) (l : List (α × β)) :
    (p :: l).lookup x = if x = p.1 then some p.2 else l.lookup x := by
  rw [List.lookup_cons]
  by_cases h : x = p.1
  · rw [if_pos h, beq_iff_eq.mpr h]
  · rw [if_neg h, beq_eq_false_iff_ne.mpr h]

theorem get?_eq_some_iff {m : Assoc α β} {a : α} {b : β} :
    m.get? a = some b ↔ (a, b) ∈ m.entries := by
  obtain ⟨l, nodup⟩ := m
  change l.lookup a = some b ↔ (a, b) ∈ l
  induction l with
  | nil => simp
  | cons p rest ih =>
    obtain ⟨k, c⟩ := p
    simp only [List.map_cons, List.nodup_cons] at nodup
    rw [lookup_cons]
    by_cases h : a = k
    · subst h
      have absent : (a, b) ∉ rest := fun hd => nodup.1 (List.mem_map_of_mem hd)
      simp [absent, eq_comm]
    · simp [h, ih nodup.2]

theorem mem_keys_iff {m : Assoc α β} {a : α} : a ∈ m.keys ↔ ∃ b, m.get? a = some b := by
  simp only [get?_eq_some_iff, keys, List.mem_map, Prod.exists, exists_and_right, exists_eq_right]

theorem mem_values_iff {m : Assoc α β} {b : β} : b ∈ m.values ↔ ∃ a, m.get? a = some b := by
  simp only [get?_eq_some_iff, values, List.mem_map, Prod.exists, exists_eq_right]

theorem lookup_insertEntry (a x : α) (b : β) (l : List (α × β)) :
    (insertEntry a b l).lookup x = if x = a then some b else l.lookup x := by
  induction l with
  | nil => rw [insertEntry, lookup_cons]
  | cons p rest ih =>
    by_cases hp : p.1 = a
    · subst hp
      rw [insertEntry, if_pos rfl, lookup_cons, lookup_cons]
      by_cases h : x = p.1 <;> simp only [h, if_true, if_false]
    · rw [insertEntry, if_neg hp, lookup_cons, lookup_cons, ih]
      by_cases h : x = p.1
      · rw [if_pos h, if_pos h, if_neg (h ▸ hp)]
      · rw [if_neg h, if_neg h]

@[simp] theorem get?_insert (m : Assoc α β) (a x : α) (b : β) :
    (m.insert a b).get? x = if x = a then some b else m.get? x :=
  lookup_insertEntry a x b m.entries

/-- Of the pairs with one key the last counts. -/
theorem get?_ofList (l : List (α × β)) (a : α) : (ofList l).get? a = l.reverse.lookup a := by
  have folded (m : Assoc α β) :
      (l.foldl (fun m p => m.insert p.1 p.2) m).get? a = (l.reverse.lookup a).or (m.get? a) := by
    induction l generalizing m with
    | nil => rfl
    | cons p rest ih =>
      rw [List.foldl_cons, ih, get?_insert, List.reverse_cons, List.lookup_append, Option.or_assoc,
        lookup_cons]
      by_cases h : a = p.1 <;> simp [h]
  rw [ofList, folded]
  exact Option.or_none

theorem get?_ofList_eq_some_iff {l : List (α × β)} (h : (l.map Prod.fst).Nodup) {a : α} {b : β} :
    (ofList l).get? a = some b ↔ (a, b) ∈ l := by
  have hreverse : (l.reverse.map Prod.fst).Nodup := by
    rw [List.map_reverse]
    exact (List.reverse_perm _).nodup_iff.mpr h
  rw [get?_ofList, ← List.mem_reverse]
  exact get?_eq_some_iff (m := ⟨l.reverse, hreverse⟩)

/-- Where no two keys share a value, the swapped map is the inverse. -/
theorem get?_swapped_eq_some_iff [DecidableEq β] {m : Assoc α β} (h : m.values.Nodup) {a : α}
    {b : β} : m.swapped.get? b = some a ↔ m.get? a = some b := by
  have hkeys : ((m.entries.map Prod.swap).map Prod.fst).Nodup := by
    rw [List.map_map]
    exact h
  rw [swapped, get?_ofList_eq_some_iff hkeys, get?_eq_some_iff, List.mem_map]
  constructor
  · rintro ⟨⟨_, _⟩, hp, hswap⟩
    cases hswap
    exact hp
  · exact fun hp => ⟨_, hp, rfl⟩

/-- A new key goes to the end. -/
theorem entries_insert_of_not_mem {m : Assoc α β} {a : α} (b : β) (h : a ∉ m.keys) :
    (m.insert a b).entries = m.entries ++ [(a, b)] := by
  change insertEntry a b m.entries = _
  change a ∉ m.entries.map Prod.fst at h
  generalize m.entries = l at h ⊢
  induction l with
  | nil => rfl
  | cons p rest ih =>
    rw [List.map_cons, List.mem_cons, not_or] at h
    rw [insertEntry, if_neg (Ne.symm h.1), ih h.2, List.cons_append]

end Assoc

end CloudReach
