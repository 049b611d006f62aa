import CloudReach.Discovery.Basic
import CloudReach.Route.Request
import CloudReach.Route.Tables
import CloudReach.Service

/-!
# Discovery by query operations

Listing the regions and their zones with requests to a service. The listing goes to one endpoint;
the zones of a region are asked for at the region's own, as the last listing that was understood
gave it. What the bodies of the answers hold is read by the caller.
-/

namespace CloudReach

structure BodyReader where
  regions : String → Except ProviderError RegionMap
  zones : Region → String → Except ProviderError (List ZoneInfo)

namespace Discovery

variable {σ : Type}

def operationRequest (action : String) (endpoint : Url) : Except RouteError Request := do
  let filled ← RouteTable.compute.fill action []
  filled.request endpoint none

def sendOperation (service : Service σ) (action : String) (endpoint : Url) :
    Act σ (Except ProviderError String) :=
  match operationRequest action endpoint with
  | .error e => return .error (.route e)
  | .ok request => do
    match ← service.send request with
    | .error e => return .error e
    | .ok response => return .ok response.body

/-- Discovery through a service. The second part of the world is the last listing. -/
def queryApi (service : Service σ) (endpoint : Url) (reader : BodyReader) :
    RegionApi (σ × RegionMap) where
  regions := do
    match ← (sendOperation service RouteTable.describeRegions endpoint).onFirst with
    | .error e => return .error e
    | .ok body =>
      match reader.regions body with
      | .error e => return .error e
      | .ok map =>
        Act.step fun s => ((), s.1, map)
        return .ok map
  zones region := do
    let listing : RegionMap ← Act.step fun s => (s.2, s)
    match listing.get? region with
    | none => return .error (.transport s!"no endpoint known for region {region.id}")
    | some regional =>
      match ← (sendOperation service RouteTable.describeZones regional).onFirst with
      | .error e => return .error e
      | .ok body => return reader.zones region body

end Discovery

end CloudReach
