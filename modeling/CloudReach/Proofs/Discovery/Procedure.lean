import CloudReach.Context
import CloudReach.Proofs.World

/-!
# Discovery as procedures

The operations of discovery, written down step by step, so that the steps of one caller can be made
between those of another: a step leaves an entry in the trace, hears the answer of a remote
operation, or deals with a cell of the memory. A cell is filled at most once and by one caller at a
time; whoever finds it empty enters it, and leaves it filled or not.

A caller that is alone carries out a procedure from its first step to its last. What comes out is
the operation of the context: `act_procedure`.
-/

namespace CloudReach

variable {σ α β : Type}

namespace Discovery

inductive Cell
  | regions
  | zones
  | compute
deriving DecidableEq

namespace Cell

abbrev Value : Cell → Type
  | regions => Except RegionLoadError RegionMap
  | zones => ZoneMap
  | compute => EndpointTable

def read : (c : Cell) → Memory → Option c.Value
  | regions, m => m.regions
  | zones, m => m.zones
  | compute, m => m.compute

def fill : (c : Cell) → c.Value → Memory → Memory
  | regions, v, m => { m with regions := some v }
  | zones, v, m => { m with zones := some v }
  | compute, v, m => { m with compute := some v }

end Cell

/-- The steps that are left to a caller. Who enters a cell is told what it holds; who is told
nothing keeps the others out until the cell is filled or given up. -/
inductive Procedure (α : Type) : Type
  | finished (answer : α)
  | note (e : Effect) (next : Procedure α)
  | hearRegions (next : Except ProviderError RegionMap → Procedure α)
  | hearZones (region : Region) (next : Except ProviderError (List ZoneInfo) → Procedure α)
  | enter (c : Cell) (next : Option c.Value → Procedure α)
  | fill (c : Cell) (v : c.Value) (next : Procedure α)
  | giveUp (c : Cell) (next : Procedure α)

namespace Procedure

def bind : Procedure α → (α → Procedure β) → Procedure β
  | finished a, f => f a
  | note e next, f => note e (next.bind f)
  | hearRegions next, f => hearRegions fun r => (next r).bind f
  | hearZones region next, f => hearZones region fun r => (next r).bind f
  | enter c next, f => enter c fun v => (next v).bind f
  | fill c v next, f => fill c v (next.bind f)
  | giveUp c next, f => giveUp c (next.bind f)

def act (api : RegionApi σ) : Procedure α → Act (σ × Memory) α
  | finished a => return a
  | note e next => do
    Act.note e
    next.act api
  | hearRegions next => do (next (← api.regions.onFirst)).act api
  | hearZones region next => do (next (← (api.zones region).onFirst)).act api
  | enter c next => do (next (← consult c.read)).act api
  | fill c v next => do
    remember (c.fill v)
    next.act api
  | giveUp _ next => next.act api

def regions : Procedure (Except RegionLoadError RegionMap) :=
  enter .regions fun
    | some (.ok map) => finished (.ok map)
    | some (.error e) => note (.emitted .regionsFailureReplayed) <| finished (.error e)
    | none =>
      note .listedRegions <| hearRegions fun
        | .ok map =>
          note (.emitted (.regionsLoaded map.size)) <|
          fill .regions (.ok map) <| finished (.ok map)
        | .error e =>
          note (.emitted .regionsLoadFailed) <|
          fill .regions (.error ⟨e⟩) <| finished (.error ⟨e⟩)

def mapZonesFrom : List Region → ZoneMap → Procedure (Except ZoneLookupError ZoneMap)
  | [], map => finished (.ok map)
  | region :: rest, map =>
    if region.isBlank then finished (.error (.configuration (.emptyIdentifier .region)))
    else
      note (.listedZones region) <| hearZones region fun
        | .error e => finished (.error (.describeZones region e))
        | .ok infos =>
          match ownZones region infos map with
          | .error e => finished (.error (.configuration e))
          | .ok map => mapZonesFrom rest map

def zoneToRegion : Procedure (Except ZoneLookupError ZoneMap) :=
  enter .zones fun
    | some map => finished (.ok map)
    | none => regions.bind fun
      | .error e => giveUp .zones <| finished (.error (.regions e))
      | .ok listing => (mapZonesFrom listing.keys .empty).bind fun
        | .error e => giveUp .zones <| finished (.error e)
        | .ok map =>
          note (.emitted (.zonesMapped listing.size map.size)) <|
          fill .zones map <| finished (.ok map)

def computeEndpoints : Procedure (Except BootstrapError EndpointTable) :=
  enter .compute fun
    | some table => finished (.ok table)
    | none => regions.bind fun
      | .error e => giveUp .compute <| finished (.error (.regions e))
      | .ok map =>
        match EndpointTable.ofMap .compute map with
        | .error e => giveUp .compute <| finished (.error (.configuration e))
        | .ok table => fill .compute table <| finished (.ok table)

def currentRegion (endpoint : Url) : Procedure (Except BootstrapError Region) :=
  computeEndpoints.bind fun
    | .error e => finished (.error e)
    | .ok table => finished ((table.regionFor endpoint).mapError .configuration)

theorem act_bind (api : RegionApi σ) (p : Procedure α) (f : α → Procedure β) :
    (p.bind f).act api = p.act api >>= fun a => (f a).act api := by
  induction p with
  | finished a => rfl
  | note e next ih => simp only [bind, act, ih, bind_assoc]
  | hearRegions next ih => simp only [bind, act, ih, bind_assoc]
  | hearZones region next ih => simp only [bind, act, ih, bind_assoc]
  | enter c next ih => simp only [bind, act, ih, bind_assoc]
  | fill c v next ih => simp only [bind, act, ih, bind_assoc]
  | giveUp c next ih => exact ih

theorem act_regions (api : RegionApi σ) : regions.act api = Discovery.regions api := by
  refine bind_congr fun v => ?_
  rcases v with _ | _ | _
  · refine bind_congr fun _ => bind_congr fun r => ?_
    cases r <;> rfl
  · rfl
  · rfl

theorem act_mapZonesFrom (api : RegionApi σ) (rest : List Region) (map : ZoneMap) :
    (mapZonesFrom rest map).act api = (Discovery.mapZonesFrom api rest map).onFirst := by
  induction rest generalizing map with
  | nil => rfl
  | cons region rest ih =>
    rw [mapZonesFrom, Discovery.mapZonesFrom]
    split
    · rfl
    · rw [Act.onFirst_bind]
      refine bind_congr fun _ => ?_
      rw [Act.onFirst_bind]
      refine bind_congr fun r => ?_
      cases r with
      | error e => rfl
      | ok infos =>
        dsimp only
        cases ownZones region infos map with
        | error e => rfl
        | ok map => exact ih map

theorem act_zoneToRegion (api : RegionApi σ) :
    zoneToRegion.act api = Discovery.zoneToRegion api := by
  refine bind_congr fun v => ?_
  cases v with
  | some map => rfl
  | none =>
    dsimp only
    rw [act_bind, act_regions]
    refine bind_congr fun r => ?_
    cases r with
    | error e => rfl
    | ok listing =>
      dsimp only
      rw [act_bind, act_mapZonesFrom]
      refine bind_congr fun r => ?_
      cases r <;> rfl

theorem act_computeEndpoints (api : RegionApi σ) :
    computeEndpoints.act api = Discovery.computeEndpoints api := by
  refine bind_congr fun v => ?_
  cases v with
  | some table => rfl
  | none =>
    dsimp only
    rw [act_bind, act_regions]
    refine bind_congr fun r => ?_
    cases r with
    | error e => rfl
    | ok map =>
      dsimp only
      cases EndpointTable.ofMap .compute map <;> rfl

end Procedure

end Discovery

inductive Operation
  | regions
  | zoneToRegion
  | computeEndpoints
  | currentRegion
deriving DecidableEq

namespace Operation

abbrev Answer : Operation → Type
  | regions => Except RegionLoadError RegionMap
  | zoneToRegion => Except ZoneLookupError ZoneMap
  | computeEndpoints => Except BootstrapError EndpointTable
  | currentRegion => Except BootstrapError Region

def failure? : (op : Operation) → op.Answer → Option RegionLoadError
  | regions, .error e => some e
  | zoneToRegion, .error (.regions e) => some e
  | computeEndpoints, .error (.regions e) => some e
  | currentRegion, .error (.regions e) => some e
  | _, _ => none

def procedure (endpoint : Url) : (op : Operation) → Discovery.Procedure op.Answer
  | regions => Discovery.Procedure.regions
  | zoneToRegion => Discovery.Procedure.zoneToRegion
  | computeEndpoints => Discovery.Procedure.computeEndpoints
  | currentRegion => Discovery.Procedure.currentRegion endpoint

end Operation

namespace Context

def perform (c : Context σ) : (op : Operation) → Act (World σ) op.Answer
  | .regions => c.regions
  | .zoneToRegion => c.zoneToRegion
  | .computeEndpoints => c.computeEndpoints
  | .currentRegion => c.currentRegion

/-- The steps of an operation, made without a pause, are the operation. -/
theorem act_procedure (c : Context σ) (op : Operation) :
    (op.procedure c.properties.computeEndpoint).act c.api = c.perform op := by
  cases op with
  | regions => exact Discovery.Procedure.act_regions c.api
  | zoneToRegion => exact Discovery.Procedure.act_zoneToRegion c.api
  | computeEndpoints => exact Discovery.Procedure.act_computeEndpoints c.api
  | currentRegion =>
    change (Discovery.Procedure.currentRegion _).act c.api = c.currentRegion
    rw [Discovery.Procedure.currentRegion, Discovery.Procedure.act_bind,
      Discovery.Procedure.act_computeEndpoints]
    refine bind_congr fun r => ?_
    cases r <;> rfl

end Context

end CloudReach
