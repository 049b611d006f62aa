import CloudReach.Proofs.Discovery.Sequence
import Mathlib.Data.List.Find

/-!
# The map of the zones

What comes of asking regions for their zones. Regions that all answer are asked once each, in order,
and their reports make the map (`Mapped`). The first region without a report ends the asking, and
its fault is the outcome (`EndsAt`); those after it are not asked.
-/

namespace CloudReach.Discovery

variable {σ : Type} {api : RegionApi σ} {s s₁ : σ} {reports : List Report}

/-- How a map of the zones follows from reports: its zones are the ones that were reported, each
belongs to the last region that reported it, and nothing in it has a blank name. -/
structure Mapped (reports : List Report) (zones : ZoneMap) : Prop where
  keys : ∀ zone, zone ∈ zones.keys ↔ ∃ r ∈ reports, ∃ info ∈ r.infos, info.zone = zone
  owner : ∀ zone region, zones.get? zone = some region ↔
    ∃ earlier r later, reports = earlier ++ r :: later ∧ r.region = region ∧
      (∃ info ∈ r.infos, info.zone = zone) ∧ ∀ r' ∈ later, ∀ info ∈ r'.infos, info.zone ≠ zone
  named : ∀ zone region, zones.get? zone = some region →
    zone.isBlank = false ∧ region.isBlank = false

/-- How the asking ends at a region that makes no report, the trace so far being `before`. Only a
region with a name is asked. -/
structure EndsAt (api : RegionApi σ) (region : Region) (s : σ) (before : List Effect)
    (run : List Effect × Option (Except ZoneLookupError ZoneMap × σ)) : Prop where
  blankRegion : region.isBlank = true →
    run = (before, some (.error (.configuration (.emptyIdentifier .region)), s))
  cutOff : region.isBlank = false → ∀ own, (api.zones region).run s = (own, none) →
    run = (before ++ .listedZones region :: own, none)
  refused : region.isBlank = false → ∀ own e s₁,
    (api.zones region).run s = (own, some (.error e, s₁)) →
    run = (before ++ .listedZones region :: own, some (.error (.describeZones region e), s₁))
  blankZone : region.isBlank = false → ∀ own infos s₁,
    (api.zones region).run s = (own, some (.ok infos, s₁)) →
    (∃ info ∈ infos, info.zone.isBlank = true) →
    run = (before ++ .listedZones region :: own,
      some (.error (.configuration (.emptyIdentifier .zone)), s₁))

/-! ### Reports -/

theorem Report.mentions_iff {r : Report} {zone : Zone} :
    r.mentions zone = true ↔ ∃ info ∈ r.infos, info.zone = zone := by
  simp only [mentions, List.any_eq_true, decide_eq_true_eq]

theorem Report.not_mentions_iff {r : Report} {zone : Zone} :
    (!r.mentions zone) = true ↔ ∀ info ∈ r.infos, info.zone ≠ zone := by
  rw [Bool.not_eq_true', ← Bool.not_eq_true, mentions_iff]
  simp only [not_exists, not_and, ne_eq]

/-- A zone belongs to the last region that reported it. -/
theorem owner?_eq_some_iff {zone : Zone} {region : Region} :
    owner? reports zone = some region ↔
      ∃ earlier r later, reports = earlier ++ r :: later ∧ r.region = region ∧
        (∃ info ∈ r.infos, info.zone = zone) ∧
        ∀ r' ∈ later, ∀ info ∈ r'.infos, info.zone ≠ zone := by
  rw [owner?, Option.map_eq_some_iff]
  constructor
  · rintro ⟨r, hlast, rfl⟩
    obtain ⟨hmentions, later, earlier, hsplit, hlater⟩ := List.find?_eq_some_iff_append.mp hlast
    refine ⟨earlier.reverse, r, later.reverse, ?_, rfl, Report.mentions_iff.mp hmentions,
      fun r' h => Report.not_mentions_iff.mp (hlater r' (List.mem_reverse.mp h))⟩
    rw [← List.reverse_reverse reports, hsplit]
    simp
  · rintro ⟨earlier, r, later, rfl, rfl, hmentions, hlater⟩
    refine ⟨r, List.find?_eq_some_iff_append.mpr ⟨Report.mentions_iff.mpr hmentions,
      later.reverse, earlier.reverse, by simp, fun r' h => ?_⟩, rfl⟩
    exact Report.not_mentions_iff.mpr (hlater r' (List.mem_reverse.mp h))

theorem exists_owner?_iff {zone : Zone} :
    (∃ region, owner? reports zone = some region) ↔
      ∃ r ∈ reports, ∃ info ∈ r.infos, info.zone = zone := by
  rw [← Option.isSome_iff_exists, owner?, Option.isSome_map, List.find?_isSome]
  simp only [List.mem_reverse, Report.mentions_iff]

theorem Reports.named (h : Reports api s reports s₁) :
    ∀ r ∈ reports, r.region.isBlank = false ∧ ∀ info ∈ r.infos, info.zone.isBlank = false := by
  induction h with
  | none => exact fun _ h => nomatch h
  | asked named answer zonesNamed _ ih => exact List.forall_mem_cons.mpr ⟨⟨named, zonesNamed⟩, ih⟩

theorem Reports.mapped (h : Reports api s reports s₁) :
    Mapped reports (addReports .empty reports) where
  keys zone := by
    simp only [Assoc.mem_keys_iff, get?_addReports_empty, exists_owner?_iff]
  owner zone region := by
    rw [get?_addReports_empty]
    exact owner?_eq_some_iff
  named zone region hget := by
    rw [get?_addReports_empty] at hget
    obtain ⟨earlier, r, later, rfl, rfl, ⟨info, hinfo, rfl⟩, -⟩ := owner?_eq_some_iff.mp hget
    obtain ⟨named, zonesNamed⟩ := h.named r (List.mem_append_right _ List.mem_cons_self)
    exact ⟨zonesNamed info hinfo, named⟩

/-! ### The order of the questions -/

/-- Regions that answer are asked one after the other, and those after them go on with the map and
the world that they leave. -/
theorem Reports.run_mapZonesFrom (h : Reports api s reports s₁) (later : List Region)
    (map : ZoneMap) :
    (mapZonesFrom api (reports.map Report.region ++ later) map).run s =
      let rest := (mapZonesFrom api later (addReports map reports)).run s₁
      (reports.flatMap Report.effects ++ rest.1, rest.2) := by
  induction h generalizing map with
  | none => rfl
  | @asked s s₁ s₂ r rest named answer zonesNamed _ ih =>
    rw [List.map_cons, List.cons_append,
      run_mapZonesFrom_of_answer _ map named answer zonesNamed]
    dsimp only
    rw [ih, List.flatMap_cons, List.append_assoc]
    rfl

theorem Reports.run_mapZones (h : Reports api s reports s₁) :
    (mapZones api (reports.map Report.region)).run s =
      (reports.flatMap Report.effects, some (.ok (addReports .empty reports), s₁)) := by
  have hrun := h.run_mapZonesFrom [] .empty
  rw [List.append_nil] at hrun
  refine hrun.trans ?_
  dsimp only
  rw [mapZonesFrom, Act.run_pure, List.append_nil]

theorem Reports.endsAt (h : Reports api s reports s₁) (region : Region) (later : List Region) :
    EndsAt api region s₁ (reports.flatMap Report.effects)
      ((mapZones api (reports.map Report.region ++ region :: later)).run s) := by
  rw [mapZones, h.run_mapZonesFrom]
  dsimp only
  generalize addReports .empty reports = map
  constructor
  · intro blank
    rw [run_mapZonesFrom_of_blank later map blank, List.append_nil]
  · intro named own answer
    rw [run_mapZonesFrom_of_cutOff later map named answer]
  · intro named own e s₂ answer
    rw [run_mapZonesFrom_of_refused later map named answer]
  · intro named own infos s₂ answer blank
    rw [run_mapZonesFrom_of_blankZone later map named answer blank]

section Discreet

variable (discreet : api.Discreet)
include discreet

/-- Asking a region shows as one question, whatever comes of it. -/
theorem zoneListings_asked {region : Region} {own : List Effect}
    {out : Option (Except ProviderError (List ZoneInfo) × σ)}
    (answer : (api.zones region).run s = (own, out)) :
    Effect.zoneListings (.listedZones region :: own) = [region] := by
  have hown : Effect.zoneListings own = [] := Effect.zoneListings_eq_nil fun e he =>
    (discreet.zones region s e (answer ▸ he)).2
  exact congrArg (region :: ·) hown

/-- Regions that answer are each asked for once. -/
theorem Reports.zoneListings (h : Reports api s reports s₁) :
    Effect.zoneListings (reports.flatMap Report.effects) = reports.map Report.region := by
  induction h with
  | none s => rfl
  | @asked s s₁ s₂ r rest named answer _ _ ih =>
    rw [List.flatMap_cons, Effect.zoneListings_append, Report.effects,
      zoneListings_asked discreet answer, ih]
    rfl

theorem Fault.zoneListings {region : Region} {own : List Effect}
    {out : Option (ZoneLookupError × σ)} (h : Fault api region s own out) :
    Effect.zoneListings own <+: [region] := by
  cases h with
  | blankRegion => exact List.nil_prefix
  | cutOff answer | refused answer | blankZone answer =>
    exact zoneListings_asked discreet answer ▸ List.prefix_rfl

/-- A survey asks for the zones of regions in order, and of all of them if it makes a map. -/
theorem Survey.zoneListings {regions : List Region} {map : ZoneMap}
    {run : List Effect × Option (Except ZoneLookupError ZoneMap × σ)}
    (h : Survey api regions map s run) :
    Effect.zoneListings run.1 <+: regions ∧
      ∀ zones s₁, run.2 = some (.ok zones, s₁) → Effect.zoneListings run.1 = regions := by
  cases h with
  | complete answered all =>
    have hall := (answered.zoneListings discreet).trans all
    exact ⟨hall ▸ List.prefix_rfl, fun _ _ _ => hall⟩
  | @ended reports region later s₁ own out answered before fault =>
    refine ⟨?_, fun zones s₂ hrun => ?_⟩
    · rw [Effect.zoneListings_append, answered.zoneListings discreet, ← before]
      refine (List.prefix_append_right_inj _).mpr ?_
      exact (fault.zoneListings discreet).trans (List.prefix_append [region] later)
    · cases out <;> cases hrun

end Discreet

/-! ### All regions -/

/-- What asking regions for their zones comes to. If all of them report, each is asked once, in
order, and the reports make the map. If those before one of them report and that one does not, the
asking ends there, and the ones after it are not asked. One of the two is always the case. -/
theorem zones_mapped_in_order (api : RegionApi σ) (regions : List Region) (s : σ) :
    let run := (mapZones api regions).run s
    (∀ reports s₁, Reports api s reports s₁ → reports.map Report.region = regions →
      ∃ zones, run = (reports.flatMap Report.effects, some (.ok zones, s₁)) ∧
        Mapped reports zones) ∧
    (∀ reports s₁ region later, Reports api s reports s₁ →
      reports.map Report.region ++ region :: later = regions →
      EndsAt api region s₁ (reports.flatMap Report.effects) run) ∧
    Survey api regions .empty s run ∧
    (api.Discreet → Effect.zoneListings run.1 <+: regions ∧
      ∀ zones s₁, run.2 = some (.ok zones, s₁) → Effect.zoneListings run.1 = regions) := by
  have survey := survey_mapZones api regions s
  refine ⟨?_, ?_, survey, fun discreet => survey.zoneListings discreet⟩
  · rintro reports s₁ answered rfl
    exact ⟨_, answered.run_mapZones, answered.mapped⟩
  · rintro reports s₁ region later answered rfl
    exact answered.endsAt region later

/-- A zone that two regions report goes to the one that is asked last. -/
theorem shared_zone_of_last_region :
    let api : RegionApi Unit :=
      { regions := Act.cutOff, zones := fun region => return .ok [.available ⟨"z"⟩ region] }
    ∃ zones, (mapZones api [⟨"a"⟩, ⟨"b"⟩]).run () =
        ([.listedZones ⟨"a"⟩, .listedZones ⟨"b"⟩], some (.ok zones, ())) ∧
      zones.get? ⟨"z"⟩ = some ⟨"b"⟩ := by
  intro api
  let first : Report := ⟨⟨"a"⟩, [.available ⟨"z"⟩ ⟨"a"⟩], []⟩
  let last : Report := ⟨⟨"b"⟩, [.available ⟨"z"⟩ ⟨"b"⟩], []⟩
  have answered : Reports api () [first, last] () :=
    .asked (by decide) rfl (by decide) (.asked (by decide) rfl (by decide) (.none ()))
  obtain ⟨zones, hrun, hmapped⟩ :=
    (zones_mapped_in_order api [⟨"a"⟩, ⟨"b"⟩] ()).1 [first, last] () answered rfl
  refine ⟨zones, hrun, (hmapped.owner ⟨"z"⟩ ⟨"b"⟩).mpr ⟨[first], last, [], rfl, rfl, ?_, nofun⟩⟩
  exact ⟨_, List.mem_cons_self, rfl⟩

end CloudReach.Discovery
