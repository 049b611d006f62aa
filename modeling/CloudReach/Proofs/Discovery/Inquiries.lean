import CloudReach.Proofs.Discovery.Sequence
import CloudReach.Proofs.Discovery.Survey

/-!
# Asking for the map of zones

Inquiries for the map of the zones, or for the owner of one zone, one after the other. A survey that
fails is forgotten, and the next inquiry begins a new one with the first region of the listing; the
first survey that succeeds answers its inquiry and all later ones. `Retried` says so for a listing
that is known, and `Inquired` from the first inquiry on.
-/

namespace CloudReach

variable {σ : Type}

namespace Effect

def mappings (trace : List Effect) : List (Nat × Nat) :=
  trace.filterMap fun | emitted (.zonesMapped regions zones) => some (regions, zones) | _ => none

@[simp] theorem mappings_append (l l' : List Effect) :
    mappings (l ++ l') = mappings l ++ mappings l' :=
  List.filterMap_append

theorem mappings_eq_nil {trace : List Effect}
    (h : ∀ e ∈ trace, ∀ regions zones, e ≠ emitted (.zonesMapped regions zones)) :
    mappings trace = [] := by
  refine List.filterMap_eq_nil_iff.mpr fun e he => ?_
  have hmapped := h e he
  split
  · exact absurd rfl (hmapped _ _)
  · rfl

end Effect

namespace Memory

def mapped? (m : Memory) : Option (Nat × Nat) :=
  match m.regions, m.zones with
  | some (.ok map), some zones => some (map.size, zones.size)
  | _, _ => none

end Memory

namespace Discovery

inductive Inquiry
  | zones
  | owner (zone : Zone)
deriving DecidableEq

namespace Inquiry

abbrev Answer : Inquiry → Type
  | zones => ZoneMap
  | owner _ => Option Region

def byMap (map : ZoneMap) : (q : Inquiry) → q.Answer
  | zones => map
  | owner zone => map.get? zone

abbrev Run (σ : Type) :=
  List Effect × Option (List ((q : Inquiry) × Except ZoneLookupError q.Answer) × σ × Memory)

def Run.cons (trace : List Effect) (q : Inquiry) (a : Except ZoneLookupError q.Answer)
    (later : Run σ) : Run σ :=
  (trace ++ later.1, later.2.map fun r => (⟨q, a⟩ :: r.1, r.2))

end Inquiry

open Inquiry (Run)

def inquire (api : RegionApi σ) :
    (q : Inquiry) → Act (σ × Memory) (Except ZoneLookupError q.Answer)
  | .zones => zoneToRegion api
  | .owner zone => regionOf api zone

def inquireEach (api : RegionApi σ) :
    List Inquiry → Act (σ × Memory) (List ((q : Inquiry) × Except ZoneLookupError q.Answer))
  | [] => return []
  | q :: rest => do
    let a ← inquire api q
    let answers ← inquireEach api rest
    return ⟨q, a⟩ :: answers

/-- Inquiries on a listing that is known, as long as there is no map. Each of them has the regions
of the listing asked, from the first one on. If that fails the memory stays as it was; if it
succeeds, the map is remembered and reported, and answers this inquiry and the later ones. -/
inductive Retried (api : RegionApi σ) (map : RegionMap) (m : Memory) :
    σ → List Inquiry → Run σ → Prop
  | done (s : σ) : Retried api map m s [] ([], some ([], s, m))
  | cutOff {s : σ} {q : Inquiry} {qs : List Inquiry} {trace : List Effect}
      (survey : Survey api map.keys .empty s (trace, none)) :
      Retried api map m s (q :: qs) (trace, none)
  | failed {s s₁ : σ} {q : Inquiry} {qs : List Inquiry} {trace : List Effect}
      {e : ZoneLookupError} {later : Run σ}
      (survey : Survey api map.keys .empty s (trace, some (.error e, s₁)))
      (rest : Retried api map m s₁ qs later) :
      Retried api map m s (q :: qs) (Run.cons trace q (.error e) later)
  | built {s s₁ : σ} {q : Inquiry} {qs : List Inquiry} {trace : List Effect} {zones : ZoneMap}
      (survey : Survey api map.keys .empty s (trace, some (.ok zones, s₁))) :
      Retried api map m s (q :: qs)
        (trace ++ [.emitted (.zonesMapped map.size zones.size)],
          some ((q :: qs).map fun q => ⟨q, .ok (q.byMap zones)⟩, s₁, { m with zones := some zones }))

/-- Inquiries from the first one on, which has the regions listed unless they are known. A failure
of the listing answers them all. -/
inductive Inquired (api : RegionApi σ) (m : Memory) (s : σ) : List Inquiry → Run σ → Prop
  | untouched : Inquired api m s [] ([], some ([], s, m))
  | cutOff {q : Inquiry} {qs : List Inquiry} {l : List Effect}
      (listing : (regions api).run (s, m) = (l, none)) :
      Inquired api m s (q :: qs) (l, none)
  | unlisted {q : Inquiry} {qs : List Inquiry} {l : List Effect} {e : RegionLoadError} {s₁ : σ}
      {m₁ : Memory} (listing : (regions api).run (s, m) = (l, some (.error e, s₁, m₁)))
      (known : m₁ = { m with regions := some (.error e) }) :
      Inquired api m s (q :: qs)
        (l ++ List.replicate qs.length (.emitted .regionsFailureReplayed),
          some ((q :: qs).map fun q => ⟨q, .error (.regions e)⟩, s₁, m₁))
  | listed {q : Inquiry} {qs : List Inquiry} {l : List Effect} {map : RegionMap} {s₁ : σ}
      {m₁ : Memory} {run : Run σ}
      (listing : (regions api).run (s, m) = (l, some (.ok map, s₁, m₁)))
      (known : m₁ = { m with regions := some (.ok map) })
      (retried : Retried api map m₁ s₁ (q :: qs) run) :
      Inquired api m s (q :: qs) (l ++ run.1, run.2)

variable {api : RegionApi σ} {m : Memory}

/-! ### One inquiry -/

/-- Every inquiry asks for the map and answers by it. -/
theorem inquire_eq (api : RegionApi σ) (q : Inquiry) :
    inquire api q = zoneToRegion api >>= fun r => pure (r.map q.byMap) := by
  cases q with
  | zones =>
    refine (bind_pure (zoneToRegion api)).symm.trans (bind_congr fun r => ?_)
    cases r <;> rfl
  | owner zone =>
    refine bind_congr fun r => ?_
    cases r <;> rfl

/-! ### One inquiry after the other -/

variable {q : Inquiry} {qs : List Inquiry} {w w₁ : σ × Memory} {trace : List Effect}

theorem run_inquireEach_cons {a : Except ZoneLookupError ZoneMap}
    (h : (zoneToRegion api).run w = (trace, some (a, w₁))) :
    (inquireEach api (q :: qs)).run w =
      Run.cons trace q (a.map q.byMap) ((inquireEach api qs).run w₁) := by
  have hq : (inquire api q).run w = (trace, some (a.map q.byMap, w₁)) := by
    rw [inquire_eq, Act.run_bind_pure, h]
    rfl
  rw [inquireEach, Act.run_bind_of_some hq, Act.run_bind_pure]
  rfl

theorem run_inquireEach_cutOff (h : (zoneToRegion api).run w = (trace, none)) :
    (inquireEach api (q :: qs)).run w = (trace, none) := by
  have hq : (inquire api q).run w = (trace, none) := by
    rw [inquire_eq, Act.run_bind_pure, h]
    rfl
  exact Act.run_bind_of_none hq _

/-- Once there is a map, nothing is asked any more. -/
theorem run_inquireEach_of_built {zones : ZoneMap} (hz : m.zones = some zones)
    (qs : List Inquiry) (s : σ) :
    (inquireEach api qs).run (s, m) =
      ([], some (qs.map fun q => ⟨q, .ok (q.byMap zones)⟩, s, m)) := by
  induction qs with
  | nil => rfl
  | cons q qs ih =>
    rw [run_inquireEach_cons (run_zoneToRegion_of_built api hz s), ih]
    rfl

/-- On a listing that is known to have failed, every inquiry fails with its failure. -/
theorem run_inquireEach_of_error {e : RegionLoadError} (hm : m.regions = some (.error e))
    (hz : m.zones = none) (qs : List Inquiry) (s : σ) :
    (inquireEach api qs).run (s, m) =
      (List.replicate qs.length (.emitted .regionsFailureReplayed),
        some (qs.map fun q => ⟨q, .error (.regions e)⟩, s, m)) := by
  induction qs with
  | nil => rfl
  | cons q qs ih =>
    have hrun := run_zoneToRegion_of_unbuilt api hz s
    rw [run_regions_of_error api hm] at hrun
    rw [run_inquireEach_cons hrun, ih]
    rfl

theorem retried_inquireEach {map : RegionMap} (hm : m.regions = some (.ok map))
    (hz : m.zones = none) (qs : List Inquiry) (s : σ) :
    Retried api map m s qs ((inquireEach api qs).run (s, m)) := by
  induction qs generalizing s with
  | nil => exact .done s
  | cons q qs ih =>
    have survey := survey_mapZones api map.keys s
    have hrun := run_zoneToRegion_of_listed api hm hz s
    rcases hsurvey : (mapZones api map.keys).run s with ⟨trace, _ | ⟨e | zones, s₁⟩⟩
    all_goals rw [hsurvey] at hrun survey
    · rw [run_inquireEach_cutOff hrun]
      exact .cutOff survey
    · rw [run_inquireEach_cons hrun]
      exact .failed survey (ih s₁)
    · have hz₁ : { m with zones := some zones }.zones = some zones := rfl
      rw [run_inquireEach_cons hrun, run_inquireEach_of_built hz₁]
      have h : Retried api map m s (q :: qs) _ := .built survey
      rwa [← List.append_nil (trace ++ _)] at h

theorem inquired_inquireEach (hz : m.zones = none) (qs : List Inquiry) (s : σ) :
    Inquired api m s qs ((inquireEach api qs).run (s, m)) := by
  cases qs with
  | nil => exact .untouched
  | cons q qs =>
    have hrun := run_zoneToRegion_of_unbuilt api hz s
    rcases listing : (regions api).run (s, m) with ⟨l, _ | ⟨e | map, s₁, m₁⟩⟩
    all_goals rw [listing] at hrun
    · rw [run_inquireEach_cutOff hrun]
      exact .cutOff listing
    all_goals
      have known := memory_of_regions listing
      have hz₁ : m₁.zones = none := known ▸ hz
    · have hm₁ : m₁.regions = some (.error e) := by rw [known]
      rw [run_inquireEach_cons hrun, run_inquireEach_of_error hm₁ hz₁]
      exact .unlisted listing known
    · have hm₁ : m₁.regions = some (.ok map) := by rw [known]
      -- The first inquiry goes on as if the listing had been known before.
      have hlater : (inquireEach api (q :: qs)).run (s, m) =
          (l ++ ((inquireEach api (q :: qs)).run (s₁, m₁)).1,
            ((inquireEach api (q :: qs)).run (s₁, m₁)).2) := by
        rw [inquireEach, inquire_eq]
        exact Act.run_bind_of_prefix (Act.run_bind_of_prefix hrun _) _
      rw [hlater]
      exact .listed listing known (retried_inquireEach hm₁ hz₁ (q :: qs) s₁)

/-! ### What is reported of maps -/

/-- What is asked for is the same whoever watches the remote operations. -/
theorem run_inquireEach_silenced (api : RegionApi σ) (qs : List Inquiry) (w : σ × Memory) :
    ((inquireEach api.silenced qs).run w).2 = ((inquireEach api qs).run w).2 := by
  have hzones (w : σ × Memory) :
      ((zoneToRegion api.silenced).run w).2 = ((zoneToRegion api).run w).2 := by
    rw [← Procedure.act_zoneToRegion, ← Procedure.act_zoneToRegion]
    exact Procedure.run_act_silenced api _ w
  induction qs generalizing w with
  | nil => rfl
  | cons q qs ih =>
    refine Act.run_bind_snd_congr (fun w => ?_)
      (fun _ => Act.run_bind_snd_congr ih fun _ _ => rfl) w
    rw [inquire_eq, inquire_eq]
    exact Act.run_bind_snd_congr hzones (fun _ _ => rfl) w

theorem mappings_of_regions (api : RegionApi σ) (m : Memory) (s : σ) :
    Effect.mappings ((regions api.silenced).run (s, m)).1 = [] := by
  refine Effect.mappings_eq_nil fun e he regions zones => ?_
  refine regions_only (P := (· ≠ .emitted (.zonesMapped regions zones))) ?_ (.silenced _) _ e he
  rintro e hlisting rfl
  cases hlisting

theorem mappings_of_survey {regions : List Region} {map : ZoneMap} {s : σ}
    {run : List Effect × Option (Except ZoneLookupError ZoneMap × σ)}
    (h : Survey api.silenced regions map s run) : Effect.mappings run.1 = [] := by
  refine Effect.mappings_eq_nil fun e he regions zones => ?_
  exact h.only (P := (· ≠ .emitted (.zonesMapped regions zones))) (fun _ => nofun)
    (fun _ => .silenced _) e he

/-- A map is reported where one is built. -/
theorem Retried.mappings {map : RegionMap} {s : σ} {run : Run σ}
    (h : Retried api.silenced map m s qs run) (hm : m.regions = some (.ok map))
    (hz : m.zones = none) :
    Effect.mappings run.1 = (run.2.bind fun r => r.2.2.mapped?).toList := by
  induction h with
  | done s =>
    change [] = m.mapped?.toList
    rw [Memory.mapped?, hm, hz]
    rfl
  | cutOff survey => exact mappings_of_survey survey
  | @failed _ _ _ _ _ _ later survey _ ih =>
    obtain ⟨traces, _ | r⟩ := later
    all_goals
      rw [Run.cons, Effect.mappings_append, mappings_of_survey survey, ih]
      rfl
  | @built _ _ _ _ _ zones survey =>
    have hbuilt : Memory.mapped? { m with zones := some zones } = some (map.size, zones.size) := by
      rw [Memory.mapped?, hm]
    rw [Effect.mappings_append, mappings_of_survey survey]
    exact (congrArg Option.toList hbuilt).symm

theorem Inquired.mappings {s : σ} {run : Run σ} (h : Inquired api.silenced m s qs run)
    (hz : m.zones = none) :
    Effect.mappings run.1 = (run.2.bind fun r => r.2.2.mapped?).toList := by
  have hlisting := mappings_of_regions api m s
  cases h with
  | untouched =>
    change [] = m.mapped?.toList
    rw [Memory.mapped?, hz]
    cases m.regions with
    | none => rfl
    | some r => cases r <;> rfl
  | cutOff listing =>
    rw [listing] at hlisting
    exact hlisting
  | unlisted listing known =>
    rw [listing] at hlisting
    rw [Effect.mappings_append, hlisting, known]
    exact List.filterMap_replicate_of_none rfl
  | listed listing known retried =>
    rw [listing] at hlisting
    rw [Effect.mappings_append, hlisting]
    exact retried.mappings (by rw [known]) (known ▸ hz)

/-- Inquiries on a mapper that has no map yet, whatever the remote operations answer and whether the
regions are known or not: a survey that fails is forgotten and begun anew, and the first one that
succeeds answers everything from then on. Its reports alone make the map, and that is the only time
that a map is reported. -/
theorem inquiries_retried_until_built (api : RegionApi σ) (m : Memory) (qs : List Inquiry) (s : σ) :
    let fresh := { m with zones := none }
    let run := (inquireEach api qs).run (s, fresh)
    let own := (inquireEach api.silenced qs).run (s, fresh)
    Inquired api fresh s qs run ∧
    (∀ reports zone, (addReports .empty reports).get? zone = owner? reports zone) ∧
    own.2 = run.2 ∧ Effect.mappings own.1 = (run.2.bind fun r => r.2.2.mapped?).toList := by
  intro fresh run own
  have hrun : own.2 = run.2 := run_inquireEach_silenced api qs (s, fresh)
  have hown : Inquired api.silenced fresh s qs own := inquired_inquireEach rfl qs s
  refine ⟨inquired_inquireEach rfl qs s, get?_addReports_empty, hrun, ?_⟩
  rw [← hrun]
  exact hown.mappings rfl

end Discovery

end CloudReach
