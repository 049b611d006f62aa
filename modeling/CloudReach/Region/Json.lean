import CloudReach.Json.Record
import CloudReach.Json.Value
import CloudReach.Region

/-!
# Regions and zones in JSON

An identifier is a string, a family its name, and a reported zone a record.
-/

namespace CloudReach

open Json

def Region.json (r : Region) : Value :=
  .text r.id

def Region.reader : Reader Region := do
  return ⟨← Reader.text⟩

def Zone.json (z : Zone) : Value :=
  .text z.id

def Zone.reader : Reader Zone := do
  return ⟨← Reader.text⟩

def ServiceFamily.json (f : ServiceFamily) : Value :=
  .text f.text

def ServiceFamily.reader : Reader ServiceFamily :=
  Reader.choice ([.compute, .loadBalancer].map fun f => (text f, f))

namespace ZoneInfo

def json (i : ZoneInfo) : Value :=
  .object [("zone", i.zone.json), ("region", i.region.json), ("state", .text i.state)]

structure Gaps where
  zone : Option Zone
  region : Option Region
  state : Option String

def record : Record Gaps ZoneInfo where
  name := "AvailabilityZoneInfo"
  strict := false
  start := ⟨none, none, none⟩
  fields :=
    [⟨"zone", (·.zone.isSome), do let z ← Zone.reader; return ({ · with zone := some z })⟩,
      ⟨"region", (·.region.isSome), do let r ← Region.reader; return ({ · with region := some r })⟩,
      ⟨"state", (·.state.isSome), do let t ← Reader.text; return ({ · with state := some t })⟩]
  finish g :=
    match g.zone, g.region, g.state with
    | none, _, _ => .error "zone"
    | _, none, _ => .error "region"
    | _, _, none => .error "state"
    | some zone, some region, some state => .ok { zone, region, state }

end ZoneInfo

end CloudReach
