import CloudReach.Discovery.Basic

/-!
# The listing of regions

The regions are listed once. The outcome is remembered, success or failure, and handed to everyone
who asks later; a failure that is handed out again is reported each time.
-/

namespace CloudReach.Discovery

variable {σ : Type}

/-- The regions: listed at the first call, remembered from then on. -/
def regions (api : RegionApi σ) : Act (σ × Memory) (Except RegionLoadError RegionMap) := do
  match ← consult Memory.regions with
  | some (.ok map) => return .ok map
  | some (.error e) =>
    Act.emit .regionsFailureReplayed
    return .error e
  | none =>
    Act.note .listedRegions
    match ← api.regions.onFirst with
    | .ok map =>
      Act.emit (.regionsLoaded map.size)
      remember fun m => { m with regions := some (.ok map) }
      return .ok map
    | .error e =>
      Act.emit .regionsLoadFailed
      remember fun m => { m with regions := some (.error ⟨e⟩) }
      return .error ⟨e⟩

/-- The table of compute endpoints, built from the listing and remembered once it is built. -/
def computeEndpoints (api : RegionApi σ) :
    Act (σ × Memory) (Except BootstrapError EndpointTable) := do
  match ← consult Memory.compute with
  | some table => return .ok table
  | none =>
    match ← regions api with
    | .error e => return .error (.regions e)
    | .ok map =>
      match EndpointTable.ofMap .compute map with
      | .error e => return .error (.configuration e)
      | .ok table =>
        remember fun m => { m with compute := some table }
        return .ok table

end CloudReach.Discovery
