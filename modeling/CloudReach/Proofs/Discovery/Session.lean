import CloudReach.Proofs.Discovery.Passes

/-!
# What a context asks of its transport

All that the operations of a context over a transport ask, one operation after the other. The first
of them lists the regions; only if that succeeds are zones asked for, in passes over the rows of the
listing, until one of them is complete. `Session` says so for every run of operations.
-/

namespace CloudReach

variable {σ : Type}

namespace Memory

def listing (m : Memory) : RegionMap :=
  match m.regions with
  | some (.ok map) => map
  | _ => .empty

end Memory

namespace Context

open Discovery (Query Pass Complete)

variable (c : Context σ)

/-- On a listing that is known, nothing is asked but the zones, and those only until they are known
too. -/
theorem run_perform_idle {m : Memory} {map : RegionMap} (hm : m.regions = some (.ok map))
    {op : Operation} (hidle : op = .zoneToRegion → m.zones ≠ none) (w : σ × RegionMap) :
    ∃ a m₁, (c.perform op).run (w, m) = ([], some (a, w, m₁)) ∧
      m₁.regions = m.regions ∧ m₁.zones = m.zones := by
  cases op with
  | regions => exact ⟨_, m, Discovery.run_regions_of_ok c.api hm w, rfl, rfl⟩
  | zoneToRegion =>
    obtain ⟨zones, hz⟩ := Option.ne_none_iff_exists'.mp (hidle rfl)
    exact ⟨_, m, Discovery.run_zoneToRegion_of_built c.api hz w, rfl, rfl⟩
  | computeEndpoints => exact Discovery.run_computeEndpoints_of_listed c.api hm w
  | currentRegion =>
    obtain ⟨a, m₁, hrun, hregions, hzones⟩ := Discovery.run_computeEndpoints_of_listed c.api hm w
    change ∃ a m₁, c.currentRegion.run (w, m) = ([], some (a, w, m₁)) ∧ _
    rw [currentRegion, computeEndpoints, Act.run_bind_of_some hrun]
    cases a with
    | error e => exact ⟨_, m₁, rfl, hregions, hzones⟩
    | ok table => exact ⟨_, m₁, rfl, hregions, hzones⟩

abbrev Run (σ : Type) := List Effect × Option (List ((op : Operation) × op.Answer) × World σ)

def Run.cons (trace : List Effect) (op : Operation) (a : op.Answer) (later : Run σ) : Run σ :=
  (trace ++ later.1, later.2.map fun r => (⟨op, a⟩ :: r.1, r.2))

theorem run_performEach_cons {op : Operation} {a : op.Answer} {trace : List Effect} {w w₁ : World σ}
    (h : (c.perform op).run w = (trace, some (a, w₁))) (ops : List Operation) :
    (c.performEach (op :: ops)).run w = Run.cons trace op a ((c.performEach ops).run w₁) := by
  rw [performEach, Act.run_bind_of_some h, Act.run_bind_pure]
  rfl

/-- What operations do on a listing that is known: passes over its rows, each from its first row on,
until one is complete. -/
inductive Listed (t : Transport σ) (reader : BodyReader) (map : RegionMap) :
    Memory → σ → List Operation → Run σ → Prop
  | done {m : Memory} (s : σ) (known : m.regions = some (.ok map)) :
      Listed t reader map m s [] ([], some ([], (s, map), m))
  | idle {m m₁ : Memory} {s : σ} {op : Operation} {a : op.Answer} {ops : List Operation}
      {later : Run σ} (quiet : op = .zoneToRegion → m.zones ≠ none) (zones : m₁.zones = m.zones)
      (rest : Listed t reader map m₁ s ops later) :
      Listed t reader map m s (op :: ops) (Run.cons [] op a later)
  | cutOff {m : Memory} {s : σ} {ops : List Operation} {trace : List Effect}
      (unbuilt : m.zones = none) (pass : Pass t reader map.entries .empty s (trace, none)) :
      Listed t reader map m s (.zoneToRegion :: ops) (trace, none)
  | failed {m : Memory} {s s₁ : σ} {ops : List Operation} {trace : List Effect}
      {e : ZoneLookupError} {later : Run σ} (unbuilt : m.zones = none)
      (pass : Pass t reader map.entries .empty s (trace, some (.error e, s₁)))
      (rest : Listed t reader map m s₁ ops later) :
      Listed t reader map m s (.zoneToRegion :: ops) (Run.cons trace .zoneToRegion (.error e) later)
  | built {m : Memory} {s s₁ : σ} {ops : List Operation} {trace : List Effect} {zones : ZoneMap}
      {later : Run σ} (unbuilt : m.zones = none)
      (pass : Pass t reader map.entries .empty s (trace, some (.ok zones, s₁)))
      (complete : Complete map.entries trace)
      (rest : Listed t reader map { m with zones := some zones } s₁ ops later) :
      Listed t reader map m s (.zoneToRegion :: ops)
        (Run.cons (trace ++ [.emitted (.zonesMapped map.size zones.size)]) .zoneToRegion
          (.ok zones) later)

/-- What operations do from the start on. The regions are listed at the given endpoint on behalf of
the first operation; if that fails, nothing is asked any more. -/
inductive Session (t : Transport σ) (reader : BodyReader) (endpoint : Url) (s : σ) :
    List Operation → Run σ → Prop
  | untouched : Session t reader endpoint s [] ([], some ([], start s))
  | cutOff {op : Operation} {ops : List Operation} {own : List Effect}
      (query : Query t RouteTable.describeRegions endpoint s (own, none)) :
      Session t reader endpoint s (op :: ops) (.listedRegions :: own, none)
  | failed {op : Operation} {ops : List Operation} {own : List Effect} {s₁ : σ}
      {r : Except ProviderError String} {e : ProviderError}
      {answers : List ((op : Operation) × op.Answer)}
      (query : Query t RouteTable.describeRegions endpoint s (own, some (r, s₁)))
      (answer : r.bind reader.regions = .error e) :
      Session t reader endpoint s (op :: ops)
        (.listedRegions :: (own ++ .emitted .regionsLoadFailed ::
          List.replicate ops.length (.emitted .regionsFailureReplayed)),
          some (answers, (s₁, .empty), .failed ⟨e⟩))
  | listed {op : Operation} {ops : List Operation} {own : List Effect} {s₁ : σ}
      {r : Except ProviderError String} {map : RegionMap} {later : Run σ}
      (query : Query t RouteTable.describeRegions endpoint s (own, some (r, s₁)))
      (answer : r.bind reader.regions = .ok map)
      (rest : Listed t reader map (.loaded map) s₁ (op :: ops) later) :
      Session t reader endpoint s (op :: ops)
        (.listedRegions :: (own ++ .emitted (.regionsLoaded map.size) :: later.1), later.2)

section Operations

variable {c : Context σ} {p : ResponsePolicy σ} {bound : Nat} {t : Transport σ} {endpoint : Url}
  {reader : BodyReader} {map : RegionMap}

/-- Operations on a listing that is known leave it where it is known. -/
theorem Listed.listing {m : Memory} {s : σ} {ops : List Operation} {run : Run σ}
    (h : Listed t reader map m s ops run) {answers : List ((op : Operation) × op.Answer)}
    {w : World σ} (hrun : run.2 = some (answers, w)) :
    w.1.2 = map ∧ w.2.regions = some (.ok map) := by
  induction h generalizing answers with
  | done s known =>
    cases hrun
    exact ⟨rfl, known⟩
  | cutOff => cases hrun
  | idle _ _ _ ih | failed _ _ _ ih | built _ _ _ _ ih =>
    -- The world that is left is the one that the rest of the operations leaves.
    obtain ⟨r, hlater, heq⟩ := Option.map_eq_some_iff.mp hrun
    cases heq
    exact ih hlater

/-- Up to the end of the listing nobody is asked for zones. -/
theorem listedZones_notMem_of_query {s : σ} {own : List Effect} {action : String}
    {out : Option (Except ProviderError String × σ)} (query : Query t action endpoint s (own, out))
    (region : Region) : .listedZones region ∉ Effect.listedRegions :: own := by
  intro hmem
  rcases List.mem_cons.mp hmem with heq | hmem
  · cases heq
  · exact (query.foreign _ hmem).2 region rfl

/-- What stands in front of an effect that comes later. -/
theorem mem_before_of_append_eq {own later before after : List Effect} {e e' : Effect}
    (h : own ++ e :: later = before ++ e' :: after) (hown : e' ∉ own) (hne : e' ≠ e) :
    e ∈ before := by
  rcases List.append_eq_append_iff.mp h with ⟨l, rfl, hl⟩ | ⟨l, rfl, hl⟩
  · cases l with
    | nil => exact absurd (List.cons.inj hl).1.symm hne
    | cons x l =>
      obtain ⟨rfl, -⟩ := List.cons.inj hl
      exact List.mem_append_right _ List.mem_cons_self
  · cases l with
    | nil => exact absurd (List.cons.inj hl).1 hne
    | cons x l =>
      obtain ⟨rfl, -⟩ := List.cons.inj hl
      exact absurd (List.mem_append_right _ List.mem_cons_self) hown

/-- Nobody is asked for zones before the listing has succeeded. -/
theorem Session.loaded {s : σ} {ops : List Operation} {run : Run σ}
    (h : Session t reader endpoint s ops run) {before after : List Effect} {region : Region}
    (hrun : run.1 = before ++ .listedZones region :: after) :
    ∃ n, .emitted (.regionsLoaded n) ∈ before := by
  have hmem : Effect.listedZones region ∈ run.1 := by
    rw [hrun]
    exact List.mem_append_right _ List.mem_cons_self
  cases h with
  | untouched => cases hmem
  | cutOff query => exact absurd hmem (listedZones_notMem_of_query query region)
  | failed query =>
    rcases List.mem_append.mp (List.cons_append ▸ hmem) with hmem | hmem
    · exact absurd hmem (listedZones_notMem_of_query query region)
    · rcases List.mem_cons.mp hmem with heq | hmem
      · cases heq
      · cases List.eq_of_mem_replicate hmem
  | @listed op ops own s₁ r map later query =>
    refine ⟨map.size, ?_⟩
    exact mem_before_of_append_eq hrun (listedZones_notMem_of_query query region) nofun

/-- Both places hold the same listing. -/
theorem Session.listing {s : σ} {ops : List Operation} {run : Run σ}
    (h : Session t reader endpoint s ops run) {answers : List ((op : Operation) × op.Answer)}
    {w : World σ} (hrun : run.2 = some (answers, w)) : w.1.2 = w.2.listing := by
  cases h with
  | untouched =>
    cases hrun
    rfl
  | cutOff => cases hrun
  | failed =>
    cases hrun
    rfl
  | listed query answer rest =>
    obtain ⟨hknown, hregions⟩ := rest.listing hrun
    rw [hknown, Memory.listing, hregions]

end Operations

/-- A context is what its properties and its source make it, if the properties are valid. -/
theorem build_eq_ok_iff {properties : Properties} {source : DiscoverySource σ}
    {policy : ResponsePolicy σ} {bound : Nat} {loadBalancers : EndpointTable} {watch : Stopwatch}
    {now : Instant} {c : Context σ} :
    build properties (some source) policy bound loadBalancers watch now = .ok c ↔
      ∃ v, properties.validate = .ok v ∧
        c = { properties := v, api := remote policy bound v.computeEndpoint source, loadBalancers
              policy, bound, watch, now } := by
  rw [build, bind_eq_ok_iff]
  apply exists_congr
  intro v
  apply and_congr_right
  intro _
  exact ⟨fun h => (Except.ok.inj h).symm, fun h => congrArg Except.ok h.symm⟩

end Context

end CloudReach
