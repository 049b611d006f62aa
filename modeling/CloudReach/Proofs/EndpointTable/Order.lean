import CloudReach.Proofs.EndpointTable

/-!
# Maps in another order

A map has no order of its own, but its entries are added to a table one by one. Tables that are made
of the same entries answer alike, whatever the order. A map of which no table can be made has flaws,
and each of them is what the refusal names in some order; so all orders agree if and only if there
is at most one.
-/

namespace CloudReach

namespace EndpointTable

variable {family : ServiceFamily} {map : RegionMap}

/-- What is wrong with a map: a region has a blank name, or two named regions share an endpoint. The
two are told in the order of their identifiers. -/
inductive Flaw (family : ServiceFamily) (map : RegionMap) : ConfigurationError → Prop
  | blank {r : Region} {u : Url} (row : map.get? r = some u) (blank : r.isBlank = true) :
      Flaw family map (.emptyIdentifier .region)
  | shared {r s : Region} {u v : Url} (row : map.get? r = some u) (row' : map.get? s = some v)
      (named : r.isBlank = false) (named' : s.isBlank = false) (distinct : r ≠ s)
      (sorted : r.id ≤ s.id) (same : u.normalized = v.normalized) :
      Flaw family map (.duplicateEndpoint family u.normalized.text r s)

/-- Tables that nobody can tell apart by asking them, down to the words of their errors. -/
structure Alike (t t' : EndpointTable) : Prop where
  family : t.family = t'.family
  endpointFor : ∀ r, t.endpointFor r = t'.endpointFor r
  regionFor : ∀ u, t.regionFor u = t'.regionFor u
  knownRegions : t.knownRegions = t'.knownRegions
  size : t.byRegion.size = t'.byRegion.size

/-- Outcomes that are the same: tables that are alike, or one and the same refusal. -/
inductive Agree : (a b : Except ConfigurationError EndpointTable) → Prop
  | tables {t t' : EndpointTable} (alike : Alike t t') : Agree (.ok t) (.ok t')
  | refusal (e : ConfigurationError) : Agree (.error e) (.error e)

/-! ### What refuses a map -/

theorem ordered_cases (a b : Region) :
    (a.id ≤ b.id ∧ ordered a b = (a, b)) ∨ (b.id ≤ a.id ∧ ordered a b = (b, a)) := by
  unfold ordered
  by_cases h : a.id ≤ b.id
  · exact .inl ⟨h, if_pos h⟩
  · exact .inr ⟨(String.le_total _ _).resolve_left h, if_neg h⟩

theorem add_eq_error {t : EndpointTable} {r : Region} {u : Url} {e : ConfigurationError}
    (h : t.add r u = .error e) :
    (r.isBlank = true ∧ e = .emptyIdentifier .region) ∨
      (r.isBlank = false ∧ ∃ other, t.byEndpoint.get? u.normalized = some other ∧
        e = .duplicateEndpoint t.family u.normalized.text (ordered other r).1
          (ordered other r).2) := by
  unfold add at h
  by_cases hblank : r.isBlank = true
  · rw [if_pos hblank] at h
    exact .inl ⟨hblank, (Except.error.inj h).symm⟩
  · rw [if_neg hblank] at h
    dsimp only at h
    cases howner : t.byEndpoint.get? u.normalized with
    | none =>
      rw [howner] at h
      cases h
    | some other =>
      rw [howner] at h
      exact .inr ⟨Bool.eq_false_iff.mpr hblank, other, rfl, (Except.error.inj h).symm⟩

/-- A refusal comes from one row, after those before it have been added. -/
theorem exists_refused {t : EndpointTable} {rows : List (Region × Url)} {e : ConfigurationError}
    (h : t.addAll rows = .error e) :
    ∃ earlier row later t', rows = earlier ++ row :: later ∧ t.addAll earlier = .ok t' ∧
      t'.add row.1 row.2 = .error e := by
  induction rows generalizing t with
  | nil => cases h
  | cons row rest ih =>
    rw [addAll_cons] at h
    cases hadd : t.add row.1 row.2 with
    | error e' =>
      rw [hadd] at h
      cases h
      exact ⟨[], row, rest, t, rfl, rfl, hadd⟩
    | ok t₁ =>
      rw [hadd] at h
      obtain ⟨earlier, refused, later, t', rfl, hearlier, hrefused⟩ := ih h
      refine ⟨row :: earlier, refused, later, t', rfl, ?_, hrefused⟩
      rw [addAll_cons, hadd]
      exact hearlier

/-- What refuses a map is one of its flaws. -/
theorem flaw_of_ofMap {e : ConfigurationError} (h : ofMap family map = .error e) :
    Flaw family map e := by
  obtain ⟨earlier, ⟨r, u⟩, later, t, hrows, hearlier, hrefused⟩ := exists_refused h
  have hget {s : Region} {v : Url} (hmem : (s, v) ∈ earlier ++ (r, u) :: later) :
      map.get? s = some v := Assoc.get?_eq_some_iff.mpr (hrows ▸ hmem)
  have hnodup : ((earlier ++ (r, u) :: later).map Prod.fst).Nodup := hrows ▸ map.nodup
  rw [List.map_append, List.map_cons] at hnodup
  obtain ⟨hnodup, -, hfresh⟩ := List.nodup_append.mp hnodup
  obtain ⟨hinv, hfamily, hentries⟩ := (invertible_empty family).addAll hnodup hearlier
  obtain ⟨hnamed, -⟩ := ((invertible_empty family).addAll_isOk_iff hnodup).mp ⟨t, hearlier⟩
  have hrow := hget (List.mem_append_right earlier List.mem_cons_self)
  rcases add_eq_error hrefused with ⟨hblank, rfl⟩ | ⟨hname, other, howner, rfl⟩
  · exact .blank hrow hblank
  · have hmem := Assoc.get?_eq_some_iff.mp ((hinv.inverse other u.normalized).mp howner)
    rw [hentries] at hmem
    obtain ⟨⟨s, v⟩, hs, heq⟩ := List.mem_map.mp hmem
    obtain ⟨rfl, hsame⟩ := Prod.mk.inj heq
    have hother := hget (List.mem_append_left _ hs)
    have hdistinct : s ≠ r := hfresh s (List.mem_map_of_mem hs) r List.mem_cons_self
    rw [hfamily]
    rcases ordered_cases s r with ⟨hle, hordered⟩ | ⟨hle, hordered⟩
    · rw [hordered, ← hsame]
      exact .shared hother hrow (hnamed _ hs) hname hdistinct hle hsame
    · rw [hordered]
      exact .shared hrow hother hname (hnamed _ hs) hdistinct.symm hle hsame.symm

/-! ### Orders in which a flaw shows -/

def reordered (map : RegionMap) (rows : List (Region × Url)) (h : rows.Perm map.entries) :
    RegionMap :=
  ⟨rows, (h.map Prod.fst).nodup_iff.mpr map.nodup⟩

theorem perm_cons_erase₂ {α : Type} [DecidableEq α] {l : List α} {a b : α} (ha : a ∈ l) (hb : b ∈ l)
    (h : a ≠ b) : (a :: b :: (l.erase a).erase b).Perm l :=
  ((List.perm_cons_erase ((List.mem_erase_of_ne h.symm).mpr hb)).cons a).symm.trans
    (List.perm_cons_erase ha).symm

theorem addAll_of_blank (t : EndpointTable) {r : Region} (h : r.isBlank = true) (u : Url)
    (rest : List (Region × Url)) :
    t.addAll ((r, u) :: rest) = .error (.emptyIdentifier .region) := by
  have hadd : t.add r u = .error (.emptyIdentifier .region) := if_pos h
  rw [addAll_cons, hadd]
  rfl

/-- A region is refused right after one that has its endpoint. -/
theorem addAll_of_shared {r s : Region} {u v : Url} (named : r.isBlank = false)
    (named' : s.isBlank = false) (sorted : r.id ≤ s.id) (same : u.normalized = v.normalized)
    (rest : List (Region × Url)) :
    (empty family).addAll ((r, u) :: (s, v) :: rest) =
      .error (.duplicateEndpoint family u.normalized.text r s) := by
  obtain ⟨t, hfirst, hfamily, howner⟩ : ∃ t, (empty family).add r u = .ok t ∧ t.family = family ∧
      t.byEndpoint.get? v.normalized = some r :=
    ⟨_, add_eq_ok_iff.mpr ⟨named, rfl, rfl⟩, rfl, by
      dsimp only
      rw [Assoc.get?_insert, if_pos same.symm]⟩
  have hordered : ordered r s = (r, s) := if_pos sorted
  have hsecond : t.add s v = .error (.duplicateEndpoint family u.normalized.text r s) := by
    rw [add, named', if_neg Bool.false_ne_true]
    dsimp only
    rw [howner, same, hfamily]
    dsimp only
    rw [hordered]
  rw [addAll_cons, hfirst]
  change t.addAll ((s, v) :: rest) = _
  rw [addAll_cons, hsecond]
  rfl

/-- Each flaw of a map is what refuses it in some order. -/
theorem exists_order_of_flaw {e : ConfigurationError} (h : Flaw family map e) :
    ∃ order : RegionMap, order.entries.Perm map.entries ∧ ofMap family order = .error e := by
  cases h with
  | @blank r u row blank =>
    have hperm := (List.perm_cons_erase (Assoc.get?_eq_some_iff.mp row)).symm
    exact ⟨reordered map _ hperm, hperm, addAll_of_blank (empty family) blank u _⟩
  | @shared r s u v row row' named named' distinct sorted same =>
    have hperm := perm_cons_erase₂ (Assoc.get?_eq_some_iff.mp row) (Assoc.get?_eq_some_iff.mp row')
      fun h => distinct (congrArg Prod.fst h)
    exact ⟨reordered map _ hperm, hperm, addAll_of_shared named named' sorted same _⟩

/-! ### Tables of the same entries -/

theorem get?_of_perm {map' : RegionMap} (h : map.entries.Perm map'.entries) (r : Region) :
    map.get? r = map'.get? r := by
  refine Option.ext fun u => ?_
  rw [Assoc.get?_eq_some_iff, Assoc.get?_eq_some_iff, h.mem_iff]

/-- The names of regions come out sorted, so only which they are matters. -/
theorem knownRegions_of_perm {t t' : EndpointTable}
    (h : t.byRegion.keys.Perm t'.byRegion.keys) :
    t.knownRegions = t'.knownRegions := by
  have hsorted (names : List String) :
      (names.mergeSort (· ≤ ·)).Pairwise fun a b => decide (a ≤ b) = true := by
    refine List.pairwise_mergeSort (fun a b c hab hbc => ?_) (fun a b => ?_) names
    · exact decide_eq_true (String.le_trans (of_decide_eq_true hab) (of_decide_eq_true hbc))
    · rw [Bool.or_eq_true, decide_eq_true_eq, decide_eq_true_eq]
      exact String.le_total a b
  refine List.Perm.eq_of_pairwise (fun a b _ _ hab hba =>
    String.le_antisymm (of_decide_eq_true hab) (of_decide_eq_true hba)) (hsorted _) (hsorted _) ?_
  exact (List.mergeSort_perm _ _).trans ((h.map Region.id).trans (List.mergeSort_perm _ _).symm)

theorem alike_of_perm {map' : RegionMap} {t t' : EndpointTable}
    (h : map.entries.Perm map'.entries) (ht : ofMap family map = .ok t)
    (ht' : ofMap family map' = .ok t') : Alike t t' := by
  obtain ⟨hinv, rfl, hrows⟩ := of_ofMap ht
  obtain ⟨hinv', hfamily, hrows'⟩ := of_ofMap ht'
  have hentries : t.byRegion.entries.Perm t'.byRegion.entries := by
    rw [hrows, hrows']
    exact h.map _
  have hget := get?_of_perm hentries
  have hknown : t.knownRegions = t'.knownRegions := knownRegions_of_perm (hentries.map Prod.fst)
  have howner (u : Url) : t.byEndpoint.get? u = t'.byEndpoint.get? u := by
    refine Option.ext fun r => ?_
    rw [hinv.inverse, hinv'.inverse, hget]
  refine ⟨hfamily.symm, fun r => ?_, fun u => ?_, hknown, hentries.length_eq⟩
  · rw [endpointFor, endpointFor, hget, hfamily]
  · rw [regionFor, regionFor, howner, hfamily, hknown]

/-! ### All orders -/

theorem Flaw.of_perm {map' : RegionMap} (h : map.entries.Perm map'.entries)
    {e : ConfigurationError} (hflaw : Flaw family map e) : Flaw family map' e := by
  cases hflaw with
  | blank row blank => exact .blank (get?_of_perm h _ ▸ row) blank
  | shared row row' named named' distinct sorted same =>
    exact .shared (get?_of_perm h _ ▸ row) (get?_of_perm h _ ▸ row') named named' distinct sorted same

/-- A map with a flaw makes no table. -/
theorem Flaw.ofMap_ne_ok {e : ConfigurationError} (h : Flaw family map e) (t : EndpointTable) :
    ofMap family map ≠ .ok t := by
  intro ht
  obtain ⟨hnamed, hunshared⟩ := (ofMap_isOk_iff family map).mp ⟨t, ht⟩
  cases h with
  | blank row blank =>
    have hname := hnamed _ (Assoc.mem_keys_iff.mpr ⟨_, row⟩)
    rw [blank] at hname
    cases hname
  | shared row row' _ _ distinct _ same => exact distinct (hunshared _ _ _ _ row row' same)

/-- What the orders of a map come to: an order makes a table if the map has no flaw, and otherwise
is refused for one of its flaws; each flaw refuses some order. So all orders come to the same if and
only if there is at most one flaw. -/
theorem orders_agree_iff (family : ServiceFamily) (map : RegionMap) :
    (∀ order : RegionMap, order.entries.Perm map.entries →
      ((∃ t, ofMap family order = .ok t) ↔ ∀ e, ¬ Flaw family map e) ∧
      ∀ e, ofMap family order = .error e → Flaw family map e) ∧
    (∀ e, Flaw family map e →
      ∃ order : RegionMap, order.entries.Perm map.entries ∧ ofMap family order = .error e) ∧
    ((∀ order order' : RegionMap, order.entries.Perm map.entries →
        order'.entries.Perm map.entries → Agree (ofMap family order) (ofMap family order')) ↔
      ∀ e e', Flaw family map e → Flaw family map e' → e = e') := by
  have hrefused {order : RegionMap} (h : order.entries.Perm map.entries) {e : ConfigurationError}
      (he : ofMap family order = .error e) : Flaw family map e := (flaw_of_ofMap he).of_perm h
  have htable {order : RegionMap} (h : order.entries.Perm map.entries) {t : EndpointTable}
      (ht : ofMap family order = .ok t) (e : ConfigurationError) : ¬ Flaw family map e :=
    fun hflaw => (hflaw.of_perm h.symm).ofMap_ne_ok t ht
  refine ⟨fun order h => ⟨⟨fun ⟨t, ht⟩ => htable h ht, fun hnone => ?_⟩, fun e => hrefused h⟩,
    fun e => exists_order_of_flaw, fun hagree e e' he he' => ?_, fun hone order order' h h' => ?_⟩
  · cases hmap : ofMap family order with
    | ok t => exact ⟨t, rfl⟩
    | error e => exact absurd (hrefused h hmap) (hnone e)
  · obtain ⟨order, h, horder⟩ := exists_order_of_flaw he
    obtain ⟨order', h', horder'⟩ := exists_order_of_flaw he'
    have hsame := hagree order order' h h'
    rw [horder, horder'] at hsame
    cases hsame
    rfl
  · cases hmap : ofMap family order with
    | ok t =>
      cases hmap' : ofMap family order' with
      | ok t' => exact .tables (alike_of_perm (h.trans h'.symm) hmap hmap')
      | error e => exact absurd (hrefused h' hmap') (htable h hmap e)
    | error e =>
      cases hmap' : ofMap family order' with
      | ok t' => exact absurd (hrefused h hmap) (htable h' hmap' e)
      | error e' =>
        rw [hone e e' (hrefused h hmap) (hrefused h' hmap')]
        exact .refusal e'

/-- Of three regions with one endpoint an order tells the first two, so the orders do not agree. -/
theorem claimants_change_with_order :
    let shared := loadBalancerEndpoint "x"
    let map : RegionMap := ⟨[(⟨"a"⟩, shared), (⟨"b"⟩, shared), (⟨"c"⟩, shared)], by decide⟩
    ¬ ∀ order order' : RegionMap, order.entries.Perm map.entries →
      order'.entries.Perm map.entries →
      Agree (ofMap .compute order) (ofMap .compute order') := by
  intro shared map h
  have hone := (orders_agree_iff .compute map).2.2.mp h
  have hfirst : Flaw .compute map (.duplicateEndpoint .compute shared.normalized.text ⟨"a"⟩ ⟨"b"⟩) :=
    .shared rfl rfl (by decide) (by decide) (by decide) (by decide) rfl
  have hlast : Flaw .compute map (.duplicateEndpoint .compute shared.normalized.text ⟨"b"⟩ ⟨"c"⟩) :=
    .shared rfl rfl (by decide) (by decide) (by decide) (by decide) rfl
  exact absurd (hone _ _ hfirst hlast) (by simp)

/-- Where a region is blank and two others share an endpoint, the order decides which of it is
refused. -/
theorem refusal_changes_with_order :
    ¬ ∀ (family : ServiceFamily) (map map' : RegionMap), map.entries.Perm map'.entries →
      Agree (ofMap family map) (ofMap family map') := by
  intro h
  let shared := loadBalancerEndpoint "x"
  let map : RegionMap := ⟨[(⟨" "⟩, shared), (⟨"a"⟩, shared), (⟨"b"⟩, shared)], by decide⟩
  let map' : RegionMap := ⟨[(⟨"a"⟩, shared), (⟨"b"⟩, shared), (⟨" "⟩, shared)], by decide⟩
  have hperm : map.entries.Perm map'.entries := (List.perm_append_singleton _ _).symm
  have hblank : ofMap .compute map = .error (.emptyIdentifier .region) :=
    addAll_of_blank (empty .compute) (by decide) shared _
  have hshared : ofMap .compute map' =
      .error (.duplicateEndpoint .compute shared.normalized.text ⟨"a"⟩ ⟨"b"⟩) :=
    addAll_of_shared (by decide) (by decide) (by decide) rfl _
  have hagree := h .compute map map' hperm
  rw [hblank, hshared] at hagree
  cases hagree

end EndpointTable

end CloudReach
