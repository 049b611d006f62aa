import CloudReach.Endpoint
import CloudReach.Proofs.Outcome
import Mathlib.Data.List.DropRight
import Mathlib.Data.List.Nodup
import Mathlib.Data.PEquiv

/-!
# Tables answer both ways

However a table is made, its two maps are the two directions of one bijection and its endpoints are
in their normal form, so the look-up of a region and the look-up of an endpoint undo each other. A
row that is added keeps this as long as its region is new, and the entries of a map are. A map makes
a table exactly if none of its regions is blank and no endpoint has two of them.
-/

namespace CloudReach

namespace Url

/-- Spaces at the end of a flat path go before an empty one is written as an escape, so the escape
stays what it is. -/
@[simp] theorem normalized_normalized (u : Url) : u.normalized.normalized = u.normalized := by
  obtain ⟨scheme, authority, path, query, fragment⟩ := u
  rcases path with _ | t
  · rename_i segments
    cases segments <;> rfl
  · have trimmed : Text.dropEndWhile (· == ' ') (Text.dropEndWhile (· == ' ') t.toList) =
        Text.dropEndWhile (· == ' ') t.toList := List.rdropWhile_idempotent _ _
    generalize hs : String.ofList (Text.dropEndWhile (· == ' ') t.toList) = s
    have hkept : String.ofList (Text.dropEndWhile (· == ' ') s.toList) = s := by
      rw [← hs, String.toList_ofList, trimmed]
    by_cases hempty : s = ""
    · have hroot : Text.dropEndWhile (· == ' ') ['%', '2', 'F'] = ['%', '2', 'F'] := by decide
      simp [normalized, withoutQuery, hs, hempty, withRoot, hroot]
    · simp [normalized, withoutQuery, hs, hempty, withRoot, hkept]

end Url

namespace EndpointTable

/-- The two maps undo each other, and endpoints are in their normal form. -/
structure Invertible (t : EndpointTable) : Prop where
  inverse : ∀ r u, t.byEndpoint.get? u = some r ↔ t.byRegion.get? r = some u
  normalized : ∀ r u, t.byRegion.get? r = some u → u.normalized = u

variable {t t' : EndpointTable}

def Invertible.bijection (h : t.Invertible) : Region ≃. Url where
  toFun := t.byRegion.get?
  invFun := t.byEndpoint.get?
  inv := h.inverse

theorem endpointFor_eq_ok_iff {r : Region} {u : Url} :
    t.endpointFor r = .ok u ↔ t.byRegion.get? r = some u := by
  unfold endpointFor
  cases t.byRegion.get? r <;> simp

theorem regionFor_eq_ok_iff {u : Url} {r : Region} :
    t.regionFor u = .ok r ↔ t.byEndpoint.get? u.normalized = some r := by
  rw [regionFor]
  cases t.byEndpoint.get? u.normalized <;> simp

theorem regionFor_eq_error_iff {u : Url} {e : ConfigurationError} :
    t.regionFor u = .error e ↔
      t.byEndpoint.get? u.normalized = none ∧
        e = .endpointNotConfigured t.family u.normalized.text
          (", ".intercalate t.knownRegions) := by
  rw [regionFor]
  cases t.byEndpoint.get? u.normalized <;> simp [eq_comm]

theorem Invertible.regionFor_eq_ok_iff (h : t.Invertible) {u : Url} {r : Region} :
    t.regionFor u = .ok r ↔ t.endpointFor r = .ok u.normalized := by
  rw [EndpointTable.regionFor_eq_ok_iff, endpointFor_eq_ok_iff, h.inverse]

/-- The map of endpoints knows those of the map of regions and no others. -/
theorem Invertible.get?_eq_none_iff (h : t.Invertible) {u : Url} :
    t.byEndpoint.get? u = none ↔ u ∉ t.byRegion.values := by
  rw [Option.eq_none_iff_forall_ne_some, Assoc.mem_values_iff, not_exists]
  exact forall_congr' fun r => not_congr (h.inverse r u)

theorem Invertible.unshared (h : t.Invertible) : t.byRegion.values.Nodup := by
  refine List.Nodup.map_on ?_ (List.Nodup.of_map _ t.byRegion.nodup)
  rintro ⟨r, u⟩ hr ⟨s, v⟩ hs (rfl : u = v)
  have hr := (h.inverse r u).mpr (Assoc.get?_eq_some_iff.mpr hr)
  rw [(h.inverse s u).mpr (Assoc.get?_eq_some_iff.mpr hs)] at hr
  cases hr
  rfl

/-! ### Tables of maps -/

theorem invertible_empty (family : ServiceFamily) : (empty family).Invertible where
  inverse r u := by simp [empty, Assoc.empty, Assoc.get?]
  normalized r u h := by cases h

theorem add_eq_ok_iff {region : Region} {endpoint : Url} :
    t.add region endpoint = .ok t' ↔
      region.isBlank = false ∧ t.byEndpoint.get? endpoint.normalized = none ∧
        t' = { t with
          byEndpoint := t.byEndpoint.insert endpoint.normalized region
          byRegion := t.byRegion.insert region endpoint.normalized } := by
  unfold add
  cases region.isBlank
  · dsimp only
    cases t.byEndpoint.get? endpoint.normalized <;> simp [eq_comm]
  · simp

/-- A row of a new region keeps the maps inverse. For a region with a row it would not: the old
endpoint would still lead to the region. -/
theorem Invertible.add (h : t.Invertible) {region : Region} {endpoint : Url}
    (hfresh : region ∉ t.byRegion.keys) (hadd : t.add region endpoint = .ok t') :
    t'.Invertible := by
  obtain ⟨-, hunowned, rfl⟩ := add_eq_ok_iff.mp hadd
  have hnew (u : Url) : t.byRegion.get? region ≠ some u := fun hu =>
    hfresh (Assoc.mem_keys_iff.mpr ⟨u, hu⟩)
  have hunused (r : Region) : t.byRegion.get? r ≠ some endpoint.normalized := fun hr =>
    Option.eq_none_iff_forall_ne_some.mp hunowned r ((h.inverse _ _).mpr hr)
  constructor
  · intro r u
    dsimp only
    rw [Assoc.get?_insert, Assoc.get?_insert]
    by_cases hr : r = region <;> by_cases hu : u = endpoint.normalized
    · simp [hr, hu]
    · simp [hr, hu, Ne.symm hu, h.inverse, hnew]
    · simp [hr, hu, Ne.symm hr, hunused]
    · simp [hr, hu, h.inverse]
  · intro r u hu
    dsimp only at hu
    rw [Assoc.get?_insert] at hu
    by_cases hr : r = region
    · rw [if_pos hr] at hu
      cases hu
      exact endpoint.normalized_normalized
    · rw [if_neg hr] at hu
      exact h.normalized r u hu

theorem family_of_add {region : Region} {endpoint : Url} (hadd : t.add region endpoint = .ok t') :
    t'.family = t.family := by
  obtain ⟨-, -, rfl⟩ := add_eq_ok_iff.mp hadd
  rfl

def normalizedRow (row : Region × Url) : Region × Url :=
  (row.1, row.2.normalized)

theorem entries_of_add {region : Region} {endpoint : Url} (hfresh : region ∉ t.byRegion.keys)
    (hadd : t.add region endpoint = .ok t') :
    t'.byRegion.entries = t.byRegion.entries ++ [normalizedRow (region, endpoint)] := by
  obtain ⟨-, -, rfl⟩ := add_eq_ok_iff.mp hadd
  exact Assoc.entries_insert_of_not_mem _ hfresh

/-- After a row of a new region has been added, the regions of the other rows are still new. -/
theorem nodup_keys_of_add {region : Region} {endpoint : Url} {names : List Region}
    (hnew : (t.byRegion.keys ++ region :: names).Nodup)
    (hadd : t.add region endpoint = .ok t') : (t'.byRegion.keys ++ names).Nodup := by
  have hfresh : region ∉ t.byRegion.keys := fun h =>
    List.disjoint_of_nodup_append hnew h List.mem_cons_self
  have hkeys : t'.byRegion.keys = t.byRegion.keys ++ [region] := by
    rw [Assoc.keys, entries_of_add hfresh hadd, List.map_append]
    rfl
  rw [hkeys, List.append_assoc]
  exact hnew

theorem addAll_cons (t : EndpointTable) (row : Region × Url) (rest : List (Region × Url)) :
    t.addAll (row :: rest) = t.add row.1 row.2 >>= fun t => t.addAll rest :=
  List.foldlM_cons

/-- Rows of new regions, unless one of them is refused, keep the maps inverse and go to the end. -/
theorem Invertible.addAll (h : t.Invertible) {rows : List (Region × Url)}
    (hnew : (t.byRegion.keys ++ rows.map Prod.fst).Nodup) (hadd : t.addAll rows = .ok t') :
    t'.Invertible ∧ t'.family = t.family ∧
      t'.byRegion.entries = t.byRegion.entries ++ rows.map normalizedRow := by
  induction rows generalizing t with
  | nil =>
    cases hadd
    exact ⟨h, rfl, (List.append_nil _).symm⟩
  | cons row rest ih =>
    rw [addAll_cons] at hadd
    obtain ⟨t₁, hrow, hrest⟩ := bind_eq_ok_iff.mp hadd
    have hfresh : row.1 ∉ t.byRegion.keys := fun hr =>
      List.disjoint_of_nodup_append hnew hr List.mem_cons_self
    obtain ⟨hinv, hfamily, hentries⟩ :=
      ih (h.add hfresh hrow) (nodup_keys_of_add hnew hrow) hrest
    refine ⟨hinv, hfamily.trans (family_of_add hrow), ?_⟩
    rw [hentries, entries_of_add hfresh hrow, List.append_assoc]
    rfl

/-- Rows of new regions are added if none of the regions is blank and no two endpoints, old or new,
are the same. -/
theorem Invertible.addAll_isOk_iff (h : t.Invertible) {rows : List (Region × Url)}
    (hnew : (t.byRegion.keys ++ rows.map Prod.fst).Nodup) :
    (∃ t', t.addAll rows = .ok t') ↔
      (∀ row ∈ rows, row.1.isBlank = false) ∧
      (t.byRegion.values ++ rows.map fun row => row.2.normalized).Nodup := by
  induction rows generalizing t with
  | nil =>
    have hnil : ∃ t', t.addAll [] = .ok t' := ⟨t, rfl⟩
    simpa [hnil] using h.unshared
  | cons row rest ih =>
    have hfresh : row.1 ∉ t.byRegion.keys := fun hr =>
      List.disjoint_of_nodup_append hnew hr List.mem_cons_self
    have hstep : (∃ t', t.addAll (row :: rest) = .ok t') ↔
        ∃ t₁, t.add row.1 row.2 = .ok t₁ ∧ ∃ t', t₁.addAll rest = .ok t' := by
      simp only [addAll_cons, bind_eq_ok_iff]
      exact ⟨fun ⟨t', t₁, hrow, hrest⟩ => ⟨t₁, hrow, t', hrest⟩,
        fun ⟨t₁, hrow, t', hrest⟩ => ⟨t', t₁, hrow, hrest⟩⟩
    have hvalues {t₁ : EndpointTable} (hrow : t.add row.1 row.2 = .ok t₁) :
        t₁.byRegion.values ++ rest.map (fun row => row.2.normalized) =
          t.byRegion.values ++ (row :: rest).map fun row => row.2.normalized := by
      rw [Assoc.values, entries_of_add hfresh hrow, List.map_append, List.append_assoc]
      rfl
    rw [hstep]
    constructor
    · rintro ⟨t₁, hrow, hrest⟩
      rw [ih (h.add hfresh hrow) (nodup_keys_of_add hnew hrow), hvalues hrow] at hrest
      exact ⟨List.forall_mem_cons.mpr ⟨(add_eq_ok_iff.mp hrow).1, hrest.1⟩, hrest.2⟩
    · rintro ⟨hnamed, hnodup⟩
      have hunowned : t.byEndpoint.get? row.2.normalized = none :=
        h.get?_eq_none_iff.mpr fun hu =>
          List.disjoint_of_nodup_append hnodup hu List.mem_cons_self
      have hrow := add_eq_ok_iff.mpr ⟨hnamed row List.mem_cons_self, hunowned, rfl⟩
      refine ⟨_, hrow, ?_⟩
      rw [ih (h.add hfresh hrow) (nodup_keys_of_add hnew hrow), hvalues hrow]
      exact ⟨fun r hr => hnamed r (List.mem_cons_of_mem _ hr), hnodup⟩

/-- What a map makes, if it makes a table. -/
theorem of_ofMap {family : ServiceFamily} {map : RegionMap} (h : ofMap family map = .ok t) :
    t.Invertible ∧ t.family = family ∧ t.byRegion.entries = map.entries.map normalizedRow :=
  (invertible_empty family).addAll map.nodup h

theorem lookup_map_normalizedRow (rows : List (Region × Url)) (r : Region) :
    (rows.map normalizedRow).lookup r = (rows.lookup r).map Url.normalized := by
  induction rows with
  | nil => rfl
  | cons row rest ih =>
    rw [List.map_cons, Assoc.lookup_cons, Assoc.lookup_cons, ih]
    by_cases h : r = row.1 <;> simp [normalizedRow, h]

theorem get?_of_ofMap {family : ServiceFamily} {map : RegionMap} (h : ofMap family map = .ok t)
    (r : Region) : t.byRegion.get? r = (map.get? r).map Url.normalized := by
  change t.byRegion.entries.lookup r = _
  rw [(of_ofMap h).2.2, lookup_map_normalizedRow]
  rfl

/-- The endpoints of a map are unshared if equal endpoints have equal regions. -/
theorem nodup_normalized_iff {map : RegionMap} :
    (map.entries.map fun row => row.2.normalized).Nodup ↔
      ∀ r s u v, map.get? r = some u → map.get? s = some v →
        u.normalized = v.normalized → r = s := by
  rw [List.nodup_map_iff_inj_on (List.Nodup.of_map _ map.nodup)]
  simp only [Assoc.get?_eq_some_iff]
  constructor
  · intro h r s u v hr hs huv
    exact congrArg Prod.fst (h _ hr _ hs huv)
  · rintro h ⟨r, u⟩ hr ⟨s, v⟩ hs huv
    obtain rfl := h r s u v hr hs huv
    have hget := Assoc.get?_eq_some_iff.mpr hr
    rw [Assoc.get?_eq_some_iff.mpr hs] at hget
    cases hget
    rfl

theorem ofMap_isOk_iff (family : ServiceFamily) (map : RegionMap) :
    (∃ t, ofMap family map = .ok t) ↔
      (∀ r ∈ map.keys, r.isBlank = false) ∧
      ∀ r s u v, map.get? r = some u → map.get? s = some v →
        u.normalized = v.normalized → r = s := by
  have hkeys : (∀ r ∈ map.keys, r.isBlank = false) ↔
      ∀ row ∈ map.entries, row.1.isBlank = false := List.forall_mem_map
  rw [← nodup_normalized_iff, hkeys]
  exact (invertible_empty family).addAll_isOk_iff map.nodup

/-! ### Tables of pairs of texts -/

def lastEndpoint? (pairs : List (String × String)) (r : Region) : Option Url :=
  (pairs.reverse.lookup r.id).bind fun value => (parseEndpoint value).toOption

def Reads (pair : String × String) (row : Region × Url) : Prop :=
  row.1 = Region.mk pair.1 ∧ parseEndpoint pair.2 = .ok row.2

theorem forall₂_reads {pairs : List (String × String)} {rows : List (Region × Url)}
    (h : (pairs.mapM fun p => do
      let endpoint ← parseEndpoint p.2
      return (Region.mk p.1, endpoint)) = Except.ok rows) :
    List.Forall₂ Reads pairs rows := by
  refine (forall₂_of_mapM_eq_ok h).imp fun p row hrow => ?_
  obtain ⟨endpoint, hendpoint, hrow⟩ := bind_eq_ok_iff.mp hrow
  cases hrow
  exact ⟨rfl, hendpoint⟩

theorem lookup_of_forall₂_reads {pairs : List (String × String)} {rows : List (Region × Url)}
    (h : List.Forall₂ Reads pairs rows) (r : Region) :
    rows.lookup r = (pairs.lookup r.id).bind fun value => (parseEndpoint value).toOption := by
  induction h with
  | nil => rfl
  | @cons p row _ _ hread _ ih =>
    obtain ⟨hregion, hparse⟩ := hread
    rw [Assoc.lookup_cons, Assoc.lookup_cons, ih]
    by_cases hr : r.id = p.1
    · have hrow : r = row.1 := by rw [hregion, ← hr]
      rw [if_pos hr, if_pos hrow, Option.bind_some, hparse]
      rfl
    · have hrow : r ≠ row.1 := by
        rintro rfl
        exact hr (by rw [hregion])
      rw [if_neg hr, if_neg hrow]

/-- The table of pairs is the table of the map to which they have been read. -/
theorem ofMap_of_ofPairs {family : ServiceFamily} {pairs : List (String × String)}
    (h : ofPairs family pairs = .ok t) :
    ∃ map : RegionMap, ofMap family map = .ok t ∧ ∀ r, map.get? r = lastEndpoint? pairs r := by
  unfold ofPairs at h
  generalize hread : (pairs.mapM fun p => do
    let endpoint ← parseEndpoint p.2
    return (Region.mk p.1, endpoint)) = read at h
  cases read with
  | error e => cases h
  | ok rows =>
    refine ⟨.ofList rows, h, fun r => ?_⟩
    rw [Assoc.get?_ofList, lastEndpoint?]
    exact lookup_of_forall₂_reads (List.forall₂_reverse_iff.mpr (forall₂_reads hread)) r

/-! ### The table of load balancers -/

def loadBalancerEndpoint (region : String) : Url :=
  { scheme := "https"
    authority := some
      { username := "", password := ""
        host := some (.name s!"elasticloadbalancing.{region}.amazonaws.com"), port := none }
    path := .rooted [""]
    query := none
    fragment := none }

theorem loadBalancerEndpoint?_of_known :
    ∀ id ∈ Region.known, loadBalancerEndpoint? id = some (loadBalancerEndpoint id) := by
  decide +kernel

/-- All endpoints of the regions known from the start can be read. -/
theorem byRegion_loadBalancerDefaults :
    loadBalancerDefaults.byRegion =
      .ofList (Region.known.map fun id => (Region.mk id, loadBalancerEndpoint id)) := by
  have hrows : (Region.known.filterMap fun id =>
      (loadBalancerEndpoint? id).map fun endpoint => (Region.mk id, endpoint)) =
      Region.known.map fun id => (Region.mk id, loadBalancerEndpoint id) := by
    rw [← List.filterMap_eq_map]
    refine List.filterMap_congr fun id hid => ?_
    rw [loadBalancerEndpoint?_of_known id hid, Option.map_some, Function.comp_apply]
  rw [loadBalancerDefaults, hrows]

theorem get?_loadBalancerDefaults (r : Region) :
    loadBalancerDefaults.byRegion.get? r =
      if r.isKnown then some (loadBalancerEndpoint r.id) else none := by
  have hrows : ∀ known : List String,
      ((known.map fun id => (Region.mk id, loadBalancerEndpoint id)).lookup r) =
        if known.contains r.id then some (loadBalancerEndpoint r.id) else none := by
    intro known
    induction known with
    | nil => rfl
    | cons id rest ih =>
      rw [List.map_cons, Assoc.lookup_cons, ih]
      by_cases h : r.id = id
      · have hr : r = Region.mk id := by rw [← h]
        simp [← h]
      · have hr : r ≠ Region.mk id := by
          rintro rfl
          exact h rfl
        simp [hr, h]
  rw [byRegion_loadBalancerDefaults, Assoc.get?_ofList, ← List.map_reverse, hrows]
  simp [Region.isKnown]

/-- The endpoints of load balancers are all different, which nothing checks when the table is
made. -/
theorem invertible_loadBalancerDefaults : loadBalancerDefaults.Invertible where
  inverse r u := by
    have hunshared : loadBalancerDefaults.byRegion.values.Nodup := by
      rw [byRegion_loadBalancerDefaults]
      decide +kernel
    have hswapped : loadBalancerDefaults.byEndpoint = loadBalancerDefaults.byRegion.swapped := by
      rw [loadBalancerDefaults]
    rw [hswapped, Assoc.get?_swapped_eq_some_iff hunshared]
  normalized r u h := by
    rw [get?_loadBalancerDefaults] at h
    split at h
    · cases h
      rfl
    · cases h

/-! ### All tables -/

inductive Built : ServiceFamily → (Region → Option Url) → EndpointTable → Prop
  | ofMap {family : ServiceFamily} {map : RegionMap} {t : EndpointTable}
      (built : ofMap family map = .ok t) : Built family map.get? t
  | ofPairs {family : ServiceFamily} {pairs : List (String × String)} {t : EndpointTable}
      (built : ofPairs family pairs = .ok t) : Built family (lastEndpoint? pairs) t
  | loadBalancerDefaults :
      Built .loadBalancer (fun r => if r.isKnown then some (loadBalancerEndpoint r.id) else none)
        loadBalancerDefaults

theorem Built.invertible {family : ServiceFamily} {given : Region → Option Url}
    (h : Built family given t) : t.Invertible := by
  cases h with
  | ofMap built => exact (of_ofMap built).1
  | ofPairs built =>
    obtain ⟨map, hmap, -⟩ := ofMap_of_ofPairs built
    exact (of_ofMap hmap).1
  | loadBalancerDefaults => exact invertible_loadBalancerDefaults

theorem Built.family_eq {family : ServiceFamily} {given : Region → Option Url}
    (h : Built family given t) : t.family = family := by
  cases h with
  | ofMap built => exact (of_ofMap built).2.1
  | ofPairs built =>
    obtain ⟨map, hmap, -⟩ := ofMap_of_ofPairs built
    exact (of_ofMap hmap).2.1
  | loadBalancerDefaults => rfl

/-- A table holds what it was given, in normal form. -/
theorem Built.get? {family : ServiceFamily} {given : Region → Option Url}
    (h : Built family given t) (r : Region) : t.byRegion.get? r = (given r).map Url.normalized := by
  cases h with
  | ofMap built => exact get?_of_ofMap built r
  | ofPairs built =>
    obtain ⟨map, hmap, hget⟩ := ofMap_of_ofPairs built
    rw [get?_of_ofMap hmap, hget]
  | loadBalancerDefaults =>
    rw [get?_loadBalancerDefaults]
    dsimp only
    split <;> rfl

/-- A map makes a table exactly if no region is blank and no two share an endpoint. The two maps of
every table are the directions of one bijection, which is what look-ups answer. A table has the
regions it was given, with their endpoints in normal form; an endpoint is that of a region exactly
if the region is that of the endpoint; and what is not in the table is refused by name. -/
theorem table_inverts :
    (∀ family (map : RegionMap),
      (∃ t, ofMap family map = .ok t) ↔
        (∀ r ∈ map.keys, r.isBlank = false) ∧
        ∀ r s u v, map.get? r = some u → map.get? s = some v → r ≠ s →
          u.normalized ≠ v.normalized) ∧
    ∀ family given t, Built family given t →
      (∃ bijection : Region ≃. Url,
        (∀ r, t.byRegion.get? r = bijection r) ∧ ∀ u, t.byEndpoint.get? u = bijection.symm u) ∧
      (∀ r, r ∈ t.byRegion.keys ↔ (given r).isSome) ∧
      (∀ r, t.endpointFor r =
        match given r with
        | some u => .ok u.normalized
        | none => .error (.unknownRegion family r)) ∧
      (∀ r u, t.endpointFor r = .ok u → u.normalized = u ∧ t.regionFor u = .ok r) ∧
      (∀ r v, t.regionFor v = .ok r ↔ t.endpointFor r = .ok v.normalized) ∧
      (∀ v, (∀ r, t.endpointFor r ≠ .ok v.normalized) →
        t.regionFor v = .error
          (.endpointNotConfigured family v.normalized.text (", ".intercalate t.knownRegions))) := by
  constructor
  · intro family map
    rw [ofMap_isOk_iff]
    refine and_congr_right fun _ => ⟨fun h r s u v hr hs hne huv => hne (h r s u v hr hs huv),
      fun h r s u v hr hs huv => ?_⟩
    by_contra hne
    exact h r s u v hr hs hne huv
  · intro family given t h
    have hfamily := h.family_eq
    have hinv := h.invertible
    have hget := h.get?
    refine ⟨⟨hinv.bijection, fun _ => rfl, fun _ => rfl⟩, fun r => ?_, fun r => ?_, fun r u hu => ?_,
      fun r v => hinv.regionFor_eq_ok_iff, fun v hv => ?_⟩
    · rw [Assoc.mem_keys_iff, hget, ← Option.isSome_iff_exists, Option.isSome_map]
    · rw [endpointFor, hget, hfamily]
      cases given r <;> rfl
    · have hnormal := hinv.normalized r u (endpointFor_eq_ok_iff.mp hu)
      exact ⟨hnormal, hinv.regionFor_eq_ok_iff.mpr (hnormal.symm ▸ hu)⟩
    · cases hregion : t.regionFor v with
      | ok r => exact absurd (hinv.regionFor_eq_ok_iff.mp hregion) (hv r)
      | error e => rw [(regionFor_eq_error_iff.mp hregion).2, hfamily]

/-- A flat path that is nothing but a space is an endpoint like any other. -/
theorem table_inverts_flat :
    let blank : Url :=
      { scheme := "data", authority := none, path := .flat " ", query := some "q"
        fragment := none }
    let map : RegionMap := ⟨[(⟨"a"⟩, blank), (⟨"b"⟩, loadBalancerEndpoint "b")], by decide⟩
    ∃ t, ofMap .compute map = .ok t ∧ Built .compute map.get? t ∧
      t.regionFor { blank with path := .flat "%2F" } = .ok ⟨"a"⟩ := by
  intro blank map
  have hnew : ((empty .compute).byRegion.keys ++ map.entries.map Prod.fst).Nodup := map.nodup
  obtain ⟨t, ht⟩ : ∃ t, ofMap .compute map = .ok t :=
    ((invertible_empty .compute).addAll_isOk_iff hnew).mpr ⟨by decide, by decide⟩
  have built : Built .compute map.get? t := .ofMap ht
  obtain ⟨-, -, hrow, -, howner, -⟩ := table_inverts.2 _ _ _ built
  exact ⟨t, ht, built, (howner ⟨"a"⟩ _).mpr (hrow ⟨"a"⟩)⟩

end EndpointTable

end CloudReach
