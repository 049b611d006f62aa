import CloudReach.Discovery.Zones
import CloudReach.Proofs.World

/-!
# What regions report

Asking regions for their zones, one after the other, through any remote operations. `Reports` says
what regions answered that were asked without a fault, `Fault` what ends the asking at a region, and
`Survey` that it goes through all regions, or up to the first fault. The map that comes out is made
of the reports alone, and the last region that reported a zone owns it.
-/

namespace CloudReach.Discovery

variable {σ : Type}

structure Report where
  region : Region
  infos : List ZoneInfo
  own : List Effect

namespace Report

def effects (r : Report) : List Effect :=
  .listedZones r.region :: r.own

def mentions (r : Report) (zone : Zone) : Bool :=
  r.infos.any fun info => info.zone = zone

def addTo (r : Report) (map : ZoneMap) : ZoneMap :=
  r.infos.foldl (fun map info => map.insert info.zone r.region) map

end Report

def addReports (map : ZoneMap) (reports : List Report) : ZoneMap :=
  reports.foldl (fun map r => r.addTo map) map

def owner? (reports : List Report) (zone : Zone) : Option Region :=
  (reports.reverse.find? fun r => r.mentions zone).map Report.region

/-- Regions that were asked one after the other, each in the world that the one before it left, and
answered; nothing that was asked or answered has a blank name. -/
inductive Reports (api : RegionApi σ) : σ → List Report → σ → Prop
  | none (s : σ) : Reports api s [] s
  | asked {s s₁ s₂ : σ} {r : Report} {rest : List Report} (named : r.region.isBlank = false)
      (answer : (api.zones r.region).run s = (r.own, some (.ok r.infos, s₁)))
      (zonesNamed : ∀ info ∈ r.infos, info.zone.isBlank = false) (reports : Reports api s₁ rest s₂) :
      Reports api s (r :: rest) s₂

inductive Fault (api : RegionApi σ) (region : Region) (s : σ) :
    List Effect → Option (ZoneLookupError × σ) → Prop
  | blankRegion (blank : region.isBlank = true) :
      Fault api region s [] (some (.configuration (.emptyIdentifier .region), s))
  | cutOff {own : List Effect} (answer : (api.zones region).run s = (own, none)) :
      Fault api region s (.listedZones region :: own) none
  | refused {own : List Effect} {e : ProviderError} {s₁ : σ}
      (answer : (api.zones region).run s = (own, some (.error e, s₁))) :
      Fault api region s (.listedZones region :: own) (some (.describeZones region e, s₁))
  | blankZone {own : List Effect} {infos : List ZoneInfo} {s₁ : σ}
      (answer : (api.zones region).run s = (own, some (.ok infos, s₁)))
      (blank : ∃ info ∈ infos, info.zone.isBlank = true) :
      Fault api region s (.listedZones region :: own)
        (some (.configuration (.emptyIdentifier .zone), s₁))

/-- How regions are asked in order, their zones being added to a map: all of them answer, or one of
them ends it and those after it are not asked. -/
inductive Survey (api : RegionApi σ) (regions : List Region) (map : ZoneMap) (s : σ) :
    List Effect × Option (Except ZoneLookupError ZoneMap × σ) → Prop
  | complete {reports : List Report} {s₁ : σ} (answered : Reports api s reports s₁)
      (all : reports.map Report.region = regions) :
      Survey api regions map s
        (reports.flatMap Report.effects, some (.ok (addReports map reports), s₁))
  | ended {reports : List Report} {region : Region} {later : List Region} {s₁ : σ}
      {own : List Effect} {out : Option (ZoneLookupError × σ)}
      (answered : Reports api s reports s₁)
      (before : reports.map Report.region ++ region :: later = regions)
      (fault : Fault api region s₁ own out) :
      Survey api regions map s
        (reports.flatMap Report.effects ++ own, out.map fun r => (.error r.1, r.2))

/-! ### The zones of one region -/

theorem ownZones_of_named {region : Region} {infos : List ZoneInfo}
    (h : ∀ info ∈ infos, info.zone.isBlank = false) (map : ZoneMap) :
    ownZones region infos map = .ok ((Report.mk region infos []).addTo map) := by
  induction infos generalizing map with
  | nil => rfl
  | cons info rest ih =>
    have hinfo : info.zone.isBlank = false := h info List.mem_cons_self
    rw [ownZones, hinfo, if_neg Bool.false_ne_true]
    exact ih (fun info hmem => h info (List.mem_cons_of_mem _ hmem)) _

theorem ownZones_of_blank {region : Region} {infos : List ZoneInfo}
    (h : ∃ info ∈ infos, info.zone.isBlank = true) (map : ZoneMap) :
    ownZones region infos map = .error (.emptyIdentifier .zone) := by
  induction infos generalizing map with
  | nil =>
    obtain ⟨info, hmem, -⟩ := h
    cases hmem
  | cons info rest ih =>
    rw [ownZones]
    split
    · rfl
    · rename_i hinfo
      obtain ⟨blank, hmem, hblank⟩ := h
      rcases List.mem_cons.mp hmem with rfl | hmem
      · exact absurd hblank hinfo
      · exact ih ⟨blank, hmem, hblank⟩ _

/-- A zone that a region reports is the region's from then on. -/
theorem Report.get?_addTo (r : Report) (map : ZoneMap) (zone : Zone) :
    (r.addTo map).get? zone = if r.mentions zone then some r.region else map.get? zone := by
  obtain ⟨region, infos, own⟩ := r
  unfold addTo mentions
  dsimp only
  induction infos generalizing map with
  | nil => rfl
  | cons info rest ih =>
    rw [List.foldl_cons, ih, List.any_cons, Assoc.get?_insert]
    by_cases hrest : (rest.any fun info => info.zone = zone) = true
    · simp [hrest]
    · by_cases hzone : zone = info.zone
      · simp [hzone]
      · simp [hrest, hzone, Ne.symm hzone]

/-- The last region that reported a zone owns it, and what nobody reported stays as it was. -/
theorem get?_addReports (map : ZoneMap) (reports : List Report) (zone : Zone) :
    (addReports map reports).get? zone = (owner? reports zone).or (map.get? zone) := by
  unfold addReports
  induction reports generalizing map with
  | nil => rfl
  | cons r rest ih =>
    rw [List.foldl_cons, ih, Report.get?_addTo, owner?, owner?, List.reverse_cons,
      List.find?_append]
    cases rest.reverse.find? fun r => r.mentions zone with
    | some last => rfl
    | none =>
      rw [List.find?_singleton]
      split <;> rfl

theorem get?_addReports_empty (reports : List Report) (zone : Zone) :
    (addReports .empty reports).get? zone = owner? reports zone :=
  (get?_addReports .empty reports zone).trans Option.or_none

/-! ### All regions -/

/-- A region that answers comes before the survey of the others. -/
theorem Survey.asked {api : RegionApi σ} {r : Report} {rest : List Region} {map : ZoneMap}
    {s s₁ : σ} {run : List Effect × Option (Except ZoneLookupError ZoneMap × σ)}
    (named : r.region.isBlank = false)
    (answer : (api.zones r.region).run s = (r.own, some (.ok r.infos, s₁)))
    (zonesNamed : ∀ info ∈ r.infos, info.zone.isBlank = false)
    (h : Survey api rest (r.addTo map) s₁ run) :
    Survey api (r.region :: rest) map s (r.effects ++ run.1, run.2) := by
  cases h with
  | complete answered all =>
    exact .complete (.asked named answer zonesNamed answered) (congrArg (r.region :: ·) all)
  | ended answered before fault =>
    have h : Survey api (r.region :: rest) map s _ :=
      .ended (.asked named answer zonesNamed answered) (congrArg (r.region :: ·) before) fault
    rwa [List.flatMap_cons, List.append_assoc] at h

section Equations

variable {api : RegionApi σ} {region : Region} (later : List Region) (map : ZoneMap) {s s₁ : σ}
  {own : List Effect}

theorem run_mapZonesFrom_of_blank (blank : region.isBlank = true) (s : σ) :
    (mapZonesFrom api (region :: later) map).run s =
      ([], some (.error (.configuration (.emptyIdentifier .region)), s)) := by
  rw [mapZonesFrom, if_pos blank]
  rfl

theorem run_mapZonesFrom_of_cutOff (named : region.isBlank = false)
    (answer : (api.zones region).run s = (own, none)) :
    (mapZonesFrom api (region :: later) map).run s = (.listedZones region :: own, none) := by
  rw [mapZonesFrom, named, if_neg Bool.false_ne_true, Act.run_note_bind,
    Act.run_bind_of_none answer]

theorem run_mapZonesFrom_of_refused {e : ProviderError} (named : region.isBlank = false)
    (answer : (api.zones region).run s = (own, some (.error e, s₁))) :
    (mapZonesFrom api (region :: later) map).run s =
      (.listedZones region :: own, some (.error (.describeZones region e), s₁)) := by
  rw [mapZonesFrom, named, if_neg Bool.false_ne_true, Act.run_note_bind,
    Act.run_bind_of_some answer, Act.run_pure, List.append_nil]

theorem run_mapZonesFrom_of_blankZone {infos : List ZoneInfo} (named : region.isBlank = false)
    (answer : (api.zones region).run s = (own, some (.ok infos, s₁)))
    (blank : ∃ info ∈ infos, info.zone.isBlank = true) :
    (mapZonesFrom api (region :: later) map).run s =
      (.listedZones region :: own, some (.error (.configuration (.emptyIdentifier .zone)), s₁)) := by
  rw [mapZonesFrom, named, if_neg Bool.false_ne_true, Act.run_note_bind,
    Act.run_bind_of_some answer]
  dsimp only
  rw [ownZones_of_blank blank, Act.run_pure, List.append_nil]

theorem run_mapZonesFrom_of_answer {infos : List ZoneInfo} (named : region.isBlank = false)
    (answer : (api.zones region).run s = (own, some (.ok infos, s₁)))
    (zonesNamed : ∀ info ∈ infos, info.zone.isBlank = false) :
    (mapZonesFrom api (region :: later) map).run s =
      let r : Report := ⟨region, infos, own⟩
      let rest := (mapZonesFrom api later (r.addTo map)).run s₁
      (r.effects ++ rest.1, rest.2) := by
  rw [mapZonesFrom, named, if_neg Bool.false_ne_true, Act.run_note_bind,
    Act.run_bind_of_some answer]
  dsimp only
  rw [ownZones_of_named zonesNamed]
  rfl

end Equations

theorem survey_mapZonesFrom (api : RegionApi σ) (regions : List Region) (map : ZoneMap) (s : σ) :
    Survey api regions map s ((mapZonesFrom api regions map).run s) := by
  induction regions generalizing map s with
  | nil => exact .complete (.none s) rfl
  | cons region rest ih =>
    by_cases hblank : region.isBlank = true
    · rw [run_mapZonesFrom_of_blank rest map hblank]
      exact .ended (.none s) rfl (.blankRegion hblank)
    have named : region.isBlank = false := Bool.eq_false_iff.mpr hblank
    rcases answer : (api.zones region).run s with ⟨own, _ | ⟨e | infos, s₁⟩⟩
    · rw [run_mapZonesFrom_of_cutOff rest map named answer]
      exact .ended (.none s) rfl (.cutOff answer)
    · rw [run_mapZonesFrom_of_refused rest map named answer]
      exact .ended (.none s) rfl (.refused answer)
    · by_cases hnamed : ∀ info ∈ infos, info.zone.isBlank = false
      · rw [run_mapZonesFrom_of_answer rest map named answer hnamed]
        exact Survey.asked (r := ⟨region, infos, own⟩) named answer hnamed (ih _ s₁)
      · have hblank : ∃ info ∈ infos, info.zone.isBlank = true := by simpa using hnamed
        rw [run_mapZonesFrom_of_blankZone rest map named answer hblank]
        exact .ended (.none s) rfl (.blankZone answer hblank)

/-- Whatever remote operations answer, asking regions for their zones is a survey of them. -/
theorem survey_mapZones (api : RegionApi σ) (regions : List Region) (s : σ) :
    Survey api regions .empty s ((mapZones api regions).run s) :=
  survey_mapZonesFrom api regions .empty s

/-- A survey never fails with a failure of the listing. -/
theorem Survey.error_ne_regions {api : RegionApi σ} {regions : List Region} {map : ZoneMap}
    {s s₁ : σ} {trace : List Effect} {e : ZoneLookupError}
    (h : Survey api regions map s (trace, some (.error e, s₁))) (cause : RegionLoadError) :
    e ≠ .regions cause := by
  rintro rfl
  generalize hrun : (trace, some (Except.error (ZoneLookupError.regions cause), s₁)) = run at h
  cases h with
  | complete => cases hrun
  | ended answered before fault => cases fault <;> cases hrun

/-! ### What a survey leaves in the trace -/

section Only

variable {api : RegionApi σ} {P : Effect → Prop}

theorem Reports.only (asking : ∀ region, P (.listedZones region))
    (zones : ∀ region, (api.zones region).Only P) {s s₁ : σ} {reports : List Report}
    (h : Reports api s reports s₁) : ∀ e ∈ reports.flatMap Report.effects, P e := by
  induction h with
  | none s => exact fun _ h => nomatch h
  | @asked s s₁ s₂ r rest named answer _ _ ih =>
    have hown := zones r.region s
    rw [answer] at hown
    rw [List.flatMap_cons, List.forall_mem_append]
    exact ⟨List.forall_mem_cons.mpr ⟨asking r.region, hown⟩, ih⟩

theorem Fault.only (asking : ∀ region, P (.listedZones region))
    (zones : ∀ region, (api.zones region).Only P) {region : Region} {s : σ} {own : List Effect}
    {out : Option (ZoneLookupError × σ)} (h : Fault api region s own out) : ∀ e ∈ own, P e := by
  have hown := zones region s
  cases h with
  | blankRegion => exact fun _ h => nomatch h
  | cutOff answer | refused answer | blankZone answer =>
    rw [answer] at hown
    exact List.forall_mem_cons.mpr ⟨asking region, hown⟩

theorem Survey.only (asking : ∀ region, P (.listedZones region))
    (zones : ∀ region, (api.zones region).Only P) {regions : List Region} {map : ZoneMap} {s : σ}
    {run : List Effect × Option (Except ZoneLookupError ZoneMap × σ)}
    (h : Survey api regions map s run) : ∀ e ∈ run.1, P e := by
  cases h with
  | complete answered => exact answered.only asking zones
  | ended answered before fault =>
    exact List.forall_mem_append.mpr ⟨answered.only asking zones, fault.only asking zones⟩

end Only

end CloudReach.Discovery
