import CloudReach.Proofs.Discovery.Procedure
import CloudReach.Proofs.Discovery.Survey

/-!
# Discovery by one caller

Operations of a context, one after the other, on a memory that is blank at first. The first of them
lists the regions, and what it hears decides for all: a failure is replayed to every operation that
follows, and a map is never asked for again.
-/

namespace CloudReach

variable {σ : Type}

namespace Effect

def ofListing : Effect → Bool
  | listedRegions => true
  | emitted (.regionsLoaded _) => true
  | emitted .regionsLoadFailed => true
  | emitted .regionsFailureReplayed => true
  | _ => false

def listing (trace : List Effect) : List Effect :=
  trace.filter ofListing

def Foreign (e : Effect) : Prop :=
  e.ofListing = false ∧ ∀ region, e ≠ listedZones region

@[simp] theorem listing_append (l l' : List Effect) :
    listing (l ++ l') = listing l ++ listing l' :=
  List.filter_append l l'

theorem listing_eq_nil {trace : List Effect} (h : ∀ e ∈ trace, e.ofListing = false) :
    listing trace = [] :=
  List.filter_eq_nil_iff.mpr fun e he => by simp [h e he]

/-- What the remote operations leave in the trace does not show in a listing. -/
theorem listing_listedRegions {own : List Effect} (h : listing own = []) (l : List Effect) :
    listing (listedRegions :: (own ++ l)) = listedRegions :: listing l := by
  change listedRegions :: listing (own ++ l) = _
  rw [listing_append, h, List.nil_append]

theorem zoneListings_eq_nil {trace : List Effect}
    (h : ∀ e ∈ trace, ∀ region, e ≠ listedZones region) : zoneListings trace = [] := by
  refine List.filterMap_eq_nil_iff.mpr fun e he => ?_
  have hz := h e he
  cases e with
  | listedZones region => exact absurd rfl (hz region)
  | _ => rfl

theorem listing_replayed (n : Nat) :
    listing (List.replicate n (emitted .regionsFailureReplayed)) =
      List.replicate n (emitted .regionsFailureReplayed) :=
  List.filter_replicate_of_pos rfl

theorem zoneListings_replayed (n : Nat) :
    zoneListings (List.replicate n (emitted .regionsFailureReplayed)) = [] :=
  zoneListings_eq_nil fun e he => by
    rw [List.eq_of_mem_replicate he]
    nofun

/-- The listing of a map, whoever asks for it and however often. -/
def loadedListing (map : RegionMap) : List Effect :=
  [listedRegions, emitted (.regionsLoaded map.size)]

/-- A listing that failed, and its failure handed to a number of operations: to the first of them as
it happened, and replayed to the others. -/
def failedListing (operations : Nat) : List Effect :=
  listedRegions :: emitted .regionsLoadFailed ::
    List.replicate (operations - 1) (emitted .regionsFailureReplayed)

/-- Regions are listed as often as the listing shows. -/
theorem regionListings_listing (trace : List Effect) :
    regionListings (listing trace) = regionListings trace := by
  refine (List.countP_filter ..).trans (List.countP_congr fun e _ => ?_)
  cases e <;> simp [ofListing]

theorem regionListings_failedListing (operations : Nat) :
    regionListings (failedListing operations) = 1 := by
  simp [regionListings, failedListing, List.countP_replicate]

end Effect

structure RegionApi.Discreet (api : RegionApi σ) : Prop where
  regions : api.regions.Only Effect.Foreign
  zones : ∀ region, (api.zones region).Only Effect.Foreign

def RegionApi.silenced (api : RegionApi σ) : RegionApi σ where
  regions := api.regions.silenced
  zones region := (api.zones region).silenced

theorem RegionApi.discreet_silenced (api : RegionApi σ) : api.silenced.Discreet :=
  ⟨.silenced _, fun _ => .silenced _⟩

namespace Discovery.Procedure

/-- Nobody's answer depends on who is watching. -/
theorem run_act_silenced {α : Type} (api : RegionApi σ) (p : Procedure α) (s : σ × Memory) :
    ((p.act api.silenced).run s).2 = ((p.act api).run s).2 := by
  induction p generalizing s with
  | finished a => rfl
  | note e next ih => exact Act.run_bind_snd_congr (fun _ => rfl) (fun _ => ih) s
  | hearRegions next ih =>
    exact Act.run_bind_snd_congr (Act.run_onFirst_silenced_snd api.regions) ih s
  | hearZones region next ih =>
    exact Act.run_bind_snd_congr (Act.run_onFirst_silenced_snd (api.zones region)) ih s
  | enter c next ih => exact Act.run_bind_snd_congr (fun _ => rfl) ih s
  | fill c v next ih => exact Act.run_bind_snd_congr (fun _ => rfl) (fun _ => ih) s
  | giveUp c next ih => exact ih s

end Discovery.Procedure

namespace Memory

def failed (e : RegionLoadError) : Memory :=
  { blank with regions := some (.error e) }

def loaded (map : RegionMap) : Memory :=
  { blank with regions := some (.ok map) }

end Memory

namespace Discovery

variable (api : RegionApi σ)

theorem run_consult_bind {α β : Type} (f : Memory → α) (g : α → Act (σ × Memory) β) (s : σ)
    (m : Memory) : (consult f >>= g).run (s, m) = (g (f m)).run (s, m) := rfl

theorem run_regions_of_ok {m : Memory} {map : RegionMap} (h : m.regions = some (.ok map)) (s : σ) :
    (regions api).run (s, m) = ([], some (.ok map, s, m)) := by
  rw [regions, run_consult_bind, h]
  rfl

theorem run_regions_of_error {m : Memory} {e : RegionLoadError}
    (h : m.regions = some (.error e)) (s : σ) :
    (regions api).run (s, m) = ([.emitted .regionsFailureReplayed], some (.error e, s, m)) := by
  rw [regions, run_consult_bind, h]
  rfl

theorem run_regions_of_none {m : Memory} (h : m.regions = none) (s : σ) :
    (regions api).run (s, m) =
      match api.regions.run s with
      | (own, none) => (.listedRegions :: own, none)
      | (own, some (.ok map, s')) =>
        (.listedRegions :: (own ++ [.emitted (.regionsLoaded map.size)]),
          some (.ok map, s', { m with regions := some (.ok map) }))
      | (own, some (.error e, s')) =>
        (.listedRegions :: (own ++ [.emitted .regionsLoadFailed]),
          some (.error ⟨e⟩, s', { m with regions := some (.error ⟨e⟩) })) := by
  rw [regions, run_consult_bind, h]
  dsimp only
  rw [Act.run_note_bind]
  rcases hr : api.regions.run s with ⟨own, _ | ⟨e | map, s'⟩⟩
  · rw [Act.run_bind_of_none (Act.run_onFirst_of_none (s := (s, m)) hr)]
  · rw [Act.run_bind_of_some (Act.run_onFirst_of_some (s := (s, m)) hr)]
    rfl
  · rw [Act.run_bind_of_some (Act.run_onFirst_of_some (s := (s, m)) hr)]
    rfl

/-- Asking for the regions leaves what belongs to the listing, and what the listing itself leaves. -/
theorem regions_only {api : RegionApi σ} {P : Effect → Prop}
    (listing : ∀ e, e.ofListing = true → P e) (own : api.regions.Only P) :
    (regions api).Only P := by
  refine .bind (.step _) fun known => ?_
  rcases known with _ | ⟨e | map⟩
  · refine .bind (.note (listing _ rfl)) fun _ => .bind own.onFirst fun r => ?_
    cases r with
    | error e => exact .bind (.note (listing _ rfl)) fun _ => .bind (.step _) fun _ => .pure _
    | ok map => exact .bind (.note (listing _ rfl)) fun _ => .bind (.step _) fun _ => .pure _
  · exact .bind (.note (listing _ rfl)) fun _ => .pure _
  · exact .pure _

/-- The zones of regions are asked for without the listing being asked again. -/
theorem mapZones_only {api : RegionApi σ} (h : api.Discreet) (regions : List Region) :
    (mapZones api regions).Only fun e => e.ofListing = false :=
  fun s => (survey_mapZones api regions s).only (fun _ => rfl)
    fun region s e he => (h.zones region s e he).1

/-- The map of zones is built in one pass over a listing that is known. -/
theorem run_zoneToRegion_of_listed {m : Memory} {map : RegionMap} (hm : m.regions = some (.ok map))
    (hz : m.zones = none) (s : σ) :
    (zoneToRegion api).run (s, m) =
      match (mapZones api map.keys).run s with
      | (trace, none) => (trace, none)
      | (trace, some (.error e, s₁)) => (trace, some (.error e, s₁, m))
      | (trace, some (.ok zones, s₁)) =>
        (trace ++ [.emitted (.zonesMapped map.size zones.size)],
          some (.ok zones, s₁, { m with zones := some zones })) := by
  rw [zoneToRegion, run_consult_bind, hz]
  dsimp only
  rw [Act.run_bind_of_some (run_regions_of_ok api hm s)]
  dsimp only
  rw [List.nil_append]
  rcases hpass : (mapZones api map.keys).run s with ⟨trace, _ | ⟨e | zones, s₁⟩⟩
  · rw [Act.run_bind_of_none (Act.run_onFirst_of_none (s := (s, m)) hpass)]
  · rw [Act.run_bind_of_some (Act.run_onFirst_of_some (s := (s, m)) hpass)]
    dsimp only
    rw [Act.run_pure, List.append_nil]
  · rw [Act.run_bind_of_some (Act.run_onFirst_of_some (s := (s, m)) hpass)]
    rfl

theorem run_zoneToRegion_of_built {m : Memory} {zones : ZoneMap} (hz : m.zones = some zones)
    (s : σ) :
    (zoneToRegion api).run (s, m) = ([], some (.ok zones, s, m)) := by
  rw [zoneToRegion, run_consult_bind, hz]
  rfl

/-- The listing is all that asking for it changes in the memory. -/
theorem memory_of_regions {api : RegionApi σ} {s s₁ : σ} {m m₁ : Memory} {l : List Effect}
    {r : Except RegionLoadError RegionMap}
    (h : (regions api).run (s, m) = (l, some (r, s₁, m₁))) :
    m₁ = { m with regions := some r } := by
  rcases hm : m.regions with _ | ⟨e | map⟩
  · rw [run_regions_of_none api hm] at h
    rcases hr : api.regions.run s with ⟨own, _ | ⟨e | map, s'⟩⟩
    all_goals
      rw [hr] at h
      cases h
    · rfl
    · rfl
  · rw [run_regions_of_error api hm] at h
    cases h
    rw [← hm]
  · rw [run_regions_of_ok api hm] at h
    cases h
    rw [← hm]

/-- As long as there is no map, the listing is asked for first. -/
theorem zoneToRegion_asks :
    ∃ next : Except RegionLoadError RegionMap → Act (σ × Memory) (Except ZoneLookupError ZoneMap),
      (∀ e w, (next (.error e)).run w = ([], some (.error (.regions e), w))) ∧
      ∀ s m, m.zones = none →
        (zoneToRegion api).run (s, m) = (regions api >>= next).run (s, m) := by
  refine ⟨?_, ?_, fun s m hz => ?_⟩
  rotate_left 2
  · rw [zoneToRegion, run_consult_bind, hz]
  · exact fun e w => rfl

theorem run_zoneToRegion_of_unbuilt {m : Memory} (hz : m.zones = none) (s : σ) :
    (zoneToRegion api).run (s, m) =
      match (regions api).run (s, m) with
      | (l, none) => (l, none)
      | (l, some (.error e, w)) => (l, some (.error (.regions e), w))
      | (l, some (.ok _, w)) => (l ++ ((zoneToRegion api).run w).1, ((zoneToRegion api).run w).2) := by
  obtain ⟨next, hfail, hasks⟩ := zoneToRegion_asks api
  rw [hasks s m hz]
  rcases listing : (regions api).run (s, m) with ⟨l, _ | ⟨e | map, s₁, m₁⟩⟩
  · exact Act.run_bind_of_none listing next
  · rw [Act.run_bind_of_some listing, hfail, List.append_nil]
  · have known := memory_of_regions listing
    have hz₁ : m₁.zones = none := known ▸ hz
    have hm₁ : m₁.regions = some (.ok map) := by rw [known]
    dsimp only
    rw [Act.run_bind_of_some listing, hasks s₁ m₁ hz₁,
      Act.run_bind_of_some (run_regions_of_ok api hm₁ s₁), List.nil_append]

theorem run_computeEndpoints_of_listed {m : Memory} {map : RegionMap}
    (hm : m.regions = some (.ok map)) (s : σ) :
    ∃ a m₁, (computeEndpoints api).run (s, m) = ([], some (a, s, m₁)) ∧
      m₁.regions = m.regions ∧ m₁.zones = m.zones := by
  rw [computeEndpoints, run_consult_bind]
  cases m.compute with
  | some table => exact ⟨.ok table, m, rfl, rfl, rfl⟩
  | none =>
    dsimp only
    rw [Act.run_bind_of_some (run_regions_of_ok api hm s)]
    dsimp only
    cases EndpointTable.ofMap .compute map with
    | error e => exact ⟨_, m, rfl, rfl, rfl⟩
    | ok table => exact ⟨_, { m with compute := some table }, rfl, rfl, rfl⟩

end Discovery

namespace Operation

/-- What an outcome of the listing means for the answer to an operation. -/
def Reflects : Except RegionLoadError RegionMap → (op : Operation) → op.Answer → Prop
  | .error e, op, a => op.failure? a = some e
  | .ok map, regions, a => a = .ok map
  | .ok _, op, a => op.failure? a = none

/-- A run that draws on a listing that is known: it is not asked for again, it stays known, and it
is what the answer goes by. -/
def DrawsOn (map : RegionMap) (op : Operation)
    (run : List Effect × Option (op.Answer × σ × Memory)) : Prop :=
  Effect.listing run.1 = [] ∧
    ∀ a s m, run.2 = some (a, s, m) → m.regions = some (.ok map) ∧ op.Reflects (.ok map) a

theorem DrawsOn.done {map : RegionMap} {op : Operation} {trace : List Effect} {a : op.Answer}
    {s : σ} {m : Memory} (ht : Effect.listing trace = []) (hm : m.regions = some (.ok map))
    (ha : op.Reflects (.ok map) a) : DrawsOn map op (trace, some (a, s, m)) := by
  refine ⟨ht, ?_⟩
  rintro _ _ _ ⟨⟩
  exact ⟨hm, ha⟩

end Operation

namespace Discovery

variable {api : RegionApi σ} {map : RegionMap} {m : Memory}

theorem regions_drawsOn (hm : m.regions = some (.ok map)) (s : σ) :
    Operation.DrawsOn map .regions ((regions api).run (s, m)) := by
  rw [run_regions_of_ok api hm]
  exact .done rfl hm rfl

theorem zoneToRegion_drawsOn (h : api.Discreet) (hm : m.regions = some (.ok map)) (s : σ) :
    Operation.DrawsOn map .zoneToRegion ((zoneToRegion api).run (s, m)) := by
  cases hz : m.zones with
  | some zones =>
    rw [run_zoneToRegion_of_built api hz]
    exact .done rfl hm rfl
  | none =>
    have honly := Effect.listing_eq_nil (mapZones_only h map.keys s)
    have survey := survey_mapZones api map.keys s
    rw [run_zoneToRegion_of_listed api hm hz]
    rcases hpass : (mapZones api map.keys).run s with ⟨trace, _ | ⟨e | zones, s'⟩⟩
    all_goals rw [hpass] at honly survey
    · exact ⟨honly, fun _ _ _ h => nomatch h⟩
    · refine .done honly hm ?_
      cases e with
      | regions e => exact absurd rfl (survey.error_ne_regions e)
      | configuration e => rfl
      | describeZones region e => rfl
    · refine .done ?_ (m := { m with zones := some zones }) hm rfl
      rw [Effect.listing_append, honly]
      rfl

theorem computeEndpoints_drawsOn (hm : m.regions = some (.ok map)) (s : σ) :
    Operation.DrawsOn map .computeEndpoints ((computeEndpoints api).run (s, m)) := by
  rw [computeEndpoints, run_consult_bind]
  cases m.compute with
  | some table => exact .done rfl hm rfl
  | none =>
    dsimp only
    rw [Act.run_bind_of_some (run_regions_of_ok api hm s)]
    dsimp only
    cases EndpointTable.ofMap .compute map with
    | error e => exact .done rfl hm rfl
    | ok table => exact .done rfl hm rfl

end Discovery

namespace Context

variable (c : Context σ)

/-- On a listing that is known, every operation goes by it and leaves it alone. -/
theorem perform_drawsOn (h : c.api.Discreet) {m : Memory} {map : RegionMap}
    (hm : m.regions = some (.ok map)) (op : Operation) (w : σ × RegionMap) :
    op.DrawsOn map ((c.perform op).run (w, m)) := by
  cases op with
  | regions => exact Discovery.regions_drawsOn hm w
  | zoneToRegion => exact Discovery.zoneToRegion_drawsOn h hm w
  | computeEndpoints => exact Discovery.computeEndpoints_drawsOn hm w
  | currentRegion =>
    have hcompute : Operation.DrawsOn map .computeEndpoints
      ((Discovery.computeEndpoints c.api).run (w, m)) := Discovery.computeEndpoints_drawsOn hm w
    obtain ⟨ht, hd⟩ := hcompute
    change Operation.DrawsOn map .currentRegion (c.currentRegion.run (w, m))
    rw [currentRegion, computeEndpoints]
    rcases hr : (Discovery.computeEndpoints c.api).run (w, m) with ⟨trace, _ | ⟨e | table, w', m'⟩⟩
    all_goals rw [hr] at ht hd
    · rw [Act.run_bind_of_none hr]
      exact ⟨ht, fun _ _ _ h => nomatch h⟩
    · obtain ⟨hm', ha⟩ := hd _ _ _ rfl
      rw [Act.run_bind_of_some hr]
      dsimp only
      rw [Act.run_pure, List.append_nil]
      refine .done ht hm' ?_
      cases e with
      | regions e => exact ha
      | _ => rfl
    · obtain ⟨hm', -⟩ := hd _ _ _ rfl
      rw [Act.run_bind_of_some hr]
      dsimp only
      rw [Act.run_pure, List.append_nil]
      refine .done ht hm' ?_
      cases table.regionFor c.properties.computeEndpoint <;> rfl

/-- An operation that finds nothing built on the regions asks for them first, and gives up at once
when it hears that there are none. -/
theorem perform_asks (op : Operation) :
    ∃ next : Except RegionLoadError RegionMap → Act (World σ) op.Answer,
      (∀ e w, ∃ a, (next (.error e)).run w = ([], some (a, w)) ∧ op.failure? a = some e) ∧
      ∀ w m, m.zones = none → m.compute = none →
        (c.perform op).run (w, m) = (Discovery.regions c.api >>= next).run (w, m) := by
  cases op with
  | regions =>
    refine ⟨pure, fun e w => ⟨.error e, rfl, rfl⟩, fun w m _ _ => ?_⟩
    rw [bind_pure]
    rfl
  | zoneToRegion =>
    obtain ⟨next, hfail, hasks⟩ := Discovery.zoneToRegion_asks c.api
    exact ⟨next, fun e w => ⟨.error (.regions e), hfail e w, rfl⟩, fun w m hz _ => hasks w m hz⟩
  | computeEndpoints =>
    refine ⟨?_, ?_, fun w m _ hc => ?_⟩
    rotate_left 2
    · change (Discovery.computeEndpoints c.api).run (w, m) = _
      rw [Discovery.computeEndpoints, Discovery.run_consult_bind, hc]
    · exact fun e w => ⟨.error (.regions e), rfl, rfl⟩
  | currentRegion =>
    refine ⟨?_, ?_, fun w m _ hc => ?_⟩
    rotate_left 2
    · change c.currentRegion.run (w, m) = _
      rw [currentRegion, computeEndpoints, Discovery.computeEndpoints, bind_assoc,
        Discovery.run_consult_bind, hc]
      dsimp only
      rw [bind_assoc]
    · exact fun e w => ⟨.error (.regions e), rfl, rfl⟩

/-- On a listing that is known to have failed, every operation reports and returns the failure. -/
theorem run_perform_failed (op : Operation) (e : RegionLoadError) (w : σ × RegionMap) :
    ∃ a, (c.perform op).run (w, .failed e) =
        ([.emitted .regionsFailureReplayed], some (a, w, .failed e)) ∧ op.failure? a = some e := by
  obtain ⟨next, hfail, hasks⟩ := c.perform_asks op
  obtain ⟨a, hrun, ha⟩ := hfail e (w, .failed e)
  refine ⟨a, ?_, ha⟩
  rw [hasks w (.failed e) rfl rfl,
    Act.run_bind_of_some (Discovery.run_regions_of_error c.api rfl w), hrun]
  rfl

/-- On a blank memory, every operation lists the regions and goes on from there. -/
theorem run_perform_blank (op : Operation) (w : σ × RegionMap) :
    match c.api.regions.run w with
    | (own, none) => (c.perform op).run (w, .blank) = (.listedRegions :: own, none)
    | (own, some (.error e, w')) => ∃ a,
      (c.perform op).run (w, .blank) =
        (.listedRegions :: (own ++ [.emitted .regionsLoadFailed]),
          some (a, w', .failed ⟨e⟩)) ∧ op.failure? a = some ⟨e⟩
    | (own, some (.ok map, w')) =>
      (c.perform op).run (w, .blank) =
        let r := (c.perform op).run (w', .loaded map)
        (.listedRegions :: (own ++ .emitted (.regionsLoaded map.size) :: r.1), r.2) := by
  obtain ⟨next, hfail, hasks⟩ := c.perform_asks op
  have hnone := Discovery.run_regions_of_none c.api (m := .blank) rfl w
  rw [hasks w .blank rfl rfl]
  rcases hr : c.api.regions.run w with ⟨own, _ | ⟨e | map, w'⟩⟩
  all_goals
    rw [hr] at hnone
    dsimp only at hnone ⊢
  · exact Act.run_bind_of_none hnone next
  · obtain ⟨a, hrun, ha⟩ := hfail ⟨e⟩ (w', .failed ⟨e⟩)
    refine ⟨a, ?_, ha⟩
    rw [Act.run_bind_of_some hnone]
    change (_ ++ ((next (.error ⟨e⟩)).run (w', Memory.failed ⟨e⟩)).1,
      ((next (.error ⟨e⟩)).run (w', Memory.failed ⟨e⟩)).2) = _
    rw [hrun, List.append_nil]
  · rw [Act.run_bind_of_some hnone, hasks w' (.loaded map) rfl rfl,
      Act.run_bind_of_some (Discovery.run_regions_of_ok c.api (m := .loaded map) rfl w')]
    simp [Memory.loaded]

def performEach : List Operation → Act (World σ) (List ((op : Operation) × op.Answer))
  | [] => return []
  | op :: rest => do
    let a ← c.perform op
    let answers ← performEach rest
    return ⟨op, a⟩ :: answers

theorem run_performEach_failed (ops : List Operation) (e : RegionLoadError) (w : σ × RegionMap) :
    ∃ answers, (c.performEach ops).run (w, .failed e) =
        (List.replicate ops.length (.emitted .regionsFailureReplayed),
          some (answers, w, .failed e)) ∧
      answers.map Sigma.fst = ops ∧ ∀ a ∈ answers, a.1.failure? a.2 = some e := by
  induction ops with
  | nil => exact ⟨[], rfl, rfl, fun _ h => nomatch h⟩
  | cons op rest ih =>
    obtain ⟨a, hrun, ha⟩ := c.run_perform_failed op e w
    obtain ⟨answers, hruns, hops, hanswers⟩ := ih
    refine ⟨⟨op, a⟩ :: answers, ?_, congrArg (op :: ·) hops, ?_⟩
    · rw [performEach, Act.run_bind_of_some hrun, Act.run_bind_of_some hruns]
      simp [List.replicate_succ]
    · rintro _ (_ | ⟨_, h⟩)
      · exact ha
      · exact hanswers _ h

theorem performEach_drawsOn (h : c.api.Discreet) {m : Memory} {map : RegionMap}
    (hm : m.regions = some (.ok map)) (ops : List Operation) (w : σ × RegionMap) :
    Effect.listing ((c.performEach ops).run (w, m)).1 = [] ∧
      ∀ answers w', ((c.performEach ops).run (w, m)).2 = some (answers, w') →
        answers.map Sigma.fst = ops ∧ ∀ a ∈ answers, a.1.Reflects (.ok map) a.2 := by
  induction ops generalizing w m with
  | nil =>
    refine ⟨rfl, ?_⟩
    rintro _ _ ⟨⟩
    exact ⟨rfl, fun _ h => nomatch h⟩
  | cons op rest ih =>
    obtain ⟨ht, hd⟩ := c.perform_drawsOn h hm op w
    rw [performEach]
    rcases hr : (c.perform op).run (w, m) with ⟨trace, _ | ⟨a, w₁, m₁⟩⟩
    all_goals rw [hr] at ht hd
    · rw [Act.run_bind_of_none hr]
      exact ⟨ht, fun _ _ h => nomatch h⟩
    · obtain ⟨hm₁, ha⟩ := hd a w₁ m₁ rfl
      obtain ⟨hts, hds⟩ := ih hm₁ w₁
      rw [Act.run_bind_of_some hr]
      rcases hrs : (c.performEach rest).run (w₁, m₁) with ⟨traces, _ | ⟨answers, w₂⟩⟩
      all_goals rw [hrs] at hts hds
      · rw [Act.run_bind_of_none hrs]
        refine ⟨?_, fun _ _ h => nomatch h⟩
        rw [Effect.listing_append, ht, hts]
        rfl
      · obtain ⟨hops, hanswers⟩ := hds answers w₂ rfl
        rw [Act.run_bind_of_some hrs, Act.run_pure]
        refine ⟨?_, ?_⟩
        · rw [Effect.listing_append, Effect.listing_append, ht, hts]
          rfl
        · rintro _ _ ⟨⟩
          refine ⟨congrArg (op :: ·) hops, ?_⟩
          rintro _ (_ | ⟨_, h⟩)
          · exact ha
          · exact hanswers _ h

/-- What a run of operations on a blank memory shows, given what the listing was answered: it is made
once, and its outcome is reported once and goes into every answer. After a failure, each further
operation replays it and no zones are asked for. -/
def Lawful (reply : Option (Except ProviderError RegionMap)) (ops : List Operation)
    (run : List Effect × Option (List ((op : Operation) × op.Answer) × World σ)) : Prop :=
  Effect.regionListings run.1 = 1 ∧
  match reply with
  | none =>
    Effect.listing run.1 = [.listedRegions] ∧ Effect.zoneListings run.1 = [] ∧ run.2 = none
  | some (.error e) =>
    Effect.listing run.1 = Effect.failedListing ops.length ∧ Effect.zoneListings run.1 = [] ∧
    ∃ answers w, run.2 = some (answers, w) ∧ answers.map Sigma.fst = ops ∧
      ∀ a ∈ answers, a.1.Reflects (.error ⟨e⟩) a.2
  | some (.ok map) =>
    Effect.listing run.1 = Effect.loadedListing map ∧
    ∀ answers w, run.2 = some (answers, w) →
      answers.map Sigma.fst = ops ∧ ∀ a ∈ answers, a.1.Reflects (.ok map) a.2

def listingReply (s : σ) : Option (Except ProviderError RegionMap) :=
  (c.api.regions.run (s, .empty)).2.map Prod.fst

section Reply

variable {c} {s : σ} {own : List Effect}

theorem run_performEach_cutOff (h : c.api.regions.run (s, .empty) = (own, none)) (op : Operation)
    (rest : List Operation) :
    (c.performEach (op :: rest)).run (start s) = (.listedRegions :: own, none) := by
  have hblank := c.run_perform_blank op (s, .empty)
  rw [h] at hblank
  rw [performEach, start, Act.run_bind_of_none hblank]

theorem run_performEach_error {e : ProviderError} {w : σ × RegionMap}
    (h : c.api.regions.run (s, .empty) = (own, some (.error e, w))) (op : Operation)
    (rest : List Operation) :
    ∃ answers, (c.performEach (op :: rest)).run (start s) =
        (.listedRegions :: (own ++ .emitted .regionsLoadFailed ::
          List.replicate rest.length (.emitted .regionsFailureReplayed)),
          some (answers, w, .failed ⟨e⟩)) ∧
      answers.map Sigma.fst = op :: rest ∧
      ∀ a ∈ answers, a.1.Reflects (.error ⟨e⟩) a.2 := by
  have hblank := c.run_perform_blank op (s, .empty)
  rw [h] at hblank
  obtain ⟨a, hrun, ha⟩ := hblank
  obtain ⟨answers, hruns, hops, hanswers⟩ := c.run_performEach_failed rest ⟨e⟩ w
  refine ⟨⟨op, a⟩ :: answers, ?_, congrArg (op :: ·) hops, ?_⟩
  · rw [performEach, start, Act.run_bind_of_some hrun, Act.run_bind_of_some hruns, Act.run_pure]
    simp
  · rintro _ (_ | ⟨_, h⟩)
    · exact ha
    · exact hanswers _ h

theorem run_performEach_ok {map : RegionMap} {w : σ × RegionMap}
    (h : c.api.regions.run (s, .empty) = (own, some (.ok map, w))) (op : Operation)
    (rest : List Operation) :
    (c.performEach (op :: rest)).run (start s) =
      let later := (c.performEach (op :: rest)).run (w, .loaded map)
      (.listedRegions :: (own ++ .emitted (.regionsLoaded map.size) :: later.1), later.2) := by
  have hblank := c.run_perform_blank op (s, .empty)
  rw [h] at hblank
  have hpre : (c.performEach (op :: rest)).run (start s) = _ :=
    Act.run_bind_of_prefix (t := (w, .loaded map))
      (l := .listedRegions :: (own ++ [.emitted (.regionsLoaded map.size)]))
      (hblank.trans (by simp)) _
  rw [hpre, List.cons_append, List.append_assoc]
  rfl

end Reply

/-- A context whose remote operations are discreet is lawful. -/
theorem performEach_lawful_of_discreet (h : c.api.Discreet) (op : Operation)
    (rest : List Operation) (s : σ) :
    Lawful (c.listingReply s) (op :: rest) ((c.performEach (op :: rest)).run (start s)) := by
  have hown := h.regions (s, .empty)
  have hlisting := Effect.listing_eq_nil fun e he => (hown e he).1
  have hzones := Effect.zoneListings_eq_nil fun e he => (hown e he).2
  rw [listingReply]
  rcases hr : c.api.regions.run (s, .empty) with ⟨own, _ | ⟨e | map, w⟩⟩
  all_goals
    rw [hr] at hlisting hzones
    dsimp only at hlisting hzones
  · have hl := Effect.listing_listedRegions hlisting []
    rw [List.append_nil] at hl
    rw [run_performEach_cutOff hr]
    refine ⟨?_, hl, hzones, rfl⟩
    rw [← Effect.regionListings_listing, hl]
    rfl
  · obtain ⟨answers, hrun, hops, hanswers⟩ := run_performEach_error hr op rest
    have hl := (Effect.listing_listedRegions hlisting (.emitted .regionsLoadFailed ::
      List.replicate rest.length (.emitted .regionsFailureReplayed))).trans
      (congrArg (fun l => Effect.listedRegions :: .emitted .regionsLoadFailed :: l)
        (Effect.listing_replayed rest.length))
    rw [hrun]
    refine ⟨?_, hl, ?_, answers, _, rfl, hops, hanswers⟩
    · rw [← Effect.regionListings_listing, hl]
      exact Effect.regionListings_failedListing (rest.length + 1)
    · change Effect.zoneListings (own ++ ([.emitted .regionsLoadFailed] ++ _)) = []
      rw [Effect.zoneListings_append, Effect.zoneListings_append, hzones,
        Effect.zoneListings_replayed]
      rfl
  · obtain ⟨hlater, hanswers⟩ := c.performEach_drawsOn h (m := .loaded map) rfl (op :: rest) w
    have hl := (Effect.listing_listedRegions hlisting (.emitted (.regionsLoaded map.size) ::
      ((c.performEach (op :: rest)).run (w, .loaded map)).1)).trans
      (congrArg (fun l => Effect.listedRegions :: .emitted (.regionsLoaded map.size) :: l) hlater)
    rw [run_performEach_ok hr]
    refine ⟨?_, hl, hanswers⟩
    rw [← Effect.regionListings_listing, hl]
    rfl

def quiet : Context σ :=
  { c with api := c.api.silenced }

theorem run_perform_quiet (op : Operation) (w : World σ) :
    ((c.quiet.perform op).run w).2 = ((c.perform op).run w).2 := by
  rw [← act_procedure, ← act_procedure]
  exact Discovery.Procedure.run_act_silenced c.api _ w

theorem run_performEach_quiet (ops : List Operation) (w : World σ) :
    ((c.quiet.performEach ops).run w).2 = ((c.performEach ops).run w).2 := by
  induction ops generalizing w with
  | nil => rfl
  | cons op rest ih =>
    exact Act.run_bind_snd_congr (c.run_perform_quiet op)
      (fun _ => Act.run_bind_snd_congr ih fun _ _ => rfl) w

end Context

end CloudReach
