import CloudReach.Discovery.Regions

/-!
# The map of zones

Which region owns a zone, found by asking every region for its zones. The first fault ends the
round: a blank region, a question that fails, or a blank zone in an answer. A map that was built
is remembered; a round that failed is not, and the next one starts over.
-/

namespace CloudReach.Discovery

variable {σ : Type}

def ownZones (region : Region) : List ZoneInfo → ZoneMap → Except ConfigurationError ZoneMap
  | [], map => .ok map
  | info :: rest, map =>
    if info.zone.isBlank then .error (.emptyIdentifier .zone)
    else ownZones region rest (map.insert info.zone region)

def mapZonesFrom (api : RegionApi σ) :
    List Region → ZoneMap → Act σ (Except ZoneLookupError ZoneMap)
  | [], map => return .ok map
  | region :: rest, map =>
    if region.isBlank then return .error (.configuration (.emptyIdentifier .region))
    else do
      Act.note (.listedZones region)
      match ← api.zones region with
      | .error e => return .error (.describeZones region e)
      | .ok infos =>
        match ownZones region infos map with
        | .error e => return .error (.configuration e)
        | .ok map => mapZonesFrom api rest map

def mapZones (api : RegionApi σ) (regions : List Region) :
    Act σ (Except ZoneLookupError ZoneMap) :=
  mapZonesFrom api regions .empty

/-- The map of all zones: built at the first call that succeeds, remembered from then on. -/
def zoneToRegion (api : RegionApi σ) : Act (σ × Memory) (Except ZoneLookupError ZoneMap) := do
  match ← consult Memory.zones with
  | some map => return .ok map
  | none =>
    match ← regions api with
    | .error e => return .error (.regions e)
    | .ok listing =>
      match ← (mapZones api listing.keys).onFirst with
      | .error e => return .error e
      | .ok map =>
        Act.emit (.zonesMapped listing.size map.size)
        remember fun m => { m with zones := some map }
        return .ok map

def regionOf (api : RegionApi σ) (zone : Zone) :
    Act (σ × Memory) (Except ZoneLookupError (Option Region)) := do
  match ← zoneToRegion api with
  | .error e => return .error e
  | .ok map => return .ok (map.get? zone)

end CloudReach.Discovery
