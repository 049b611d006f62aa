import CloudReach.Readiness.Check
import CloudReach.Readiness.Policy
import CloudReach.Region.Json

/-!
# Readiness in JSON

The states of instances by name; instances, sockets and settings of policies as records.
-/

namespace CloudReach

open Json

def InstanceState.json (s : InstanceState) : Value :=
  .text s.text

def InstanceState.reader : Reader InstanceState :=
  Reader.choice (all.map fun s => (text s, s))

namespace Instance

def json (i : Instance) : Value :=
  .object [("id", .text i.id), ("region", i.region.json)]

structure Gaps where
  id : Option String
  region : Option Region

def record : Record Gaps Instance where
  name := "RunningInstance"
  strict := false
  start := ⟨none, none⟩
  fields :=
    [⟨"id", (·.id.isSome), do let t ← Reader.text; return ({ · with id := some t })⟩,
      ⟨"region", (·.region.isSome), do let r ← Region.reader; return ({ · with region := some r })⟩]
  finish g :=
    match g.id, g.region with
    | none, _ => .error "id"
    | _, none => .error "region"
    | some id, some region => .ok { id, region }

end Instance

namespace IpSocket

def json (s : IpSocket) : Value :=
  .object [("address", .text s.address), ("port", .number s.port.toNat)]

structure Gaps where
  address : Option String
  port : Option UInt16

def record : Record Gaps IpSocket where
  name := "IpSocket"
  strict := false
  start := ⟨none, none⟩
  fields :=
    [⟨"address", (·.address.isSome), do let t ← Reader.text; return ({ · with address := some t })⟩,
      ⟨"port", (·.port.isSome), do let n ← Reader.word16; return ({ · with port := some n })⟩]
  finish g :=
    match g.address, g.port with
    | none, _ => .error "address"
    | _, none => .error "port"
    | some address, some port => .ok { address, port }

end IpSocket

namespace PolicySettings

def json (s : PolicySettings) : Value :=
  .object [("max_attempts", .number s.maxAttempts.toNat),
    ("interval_ms", .number s.intervalMillis.toNat)]

structure Gaps where
  maxAttempts : Option UInt64
  intervalMillis : Option UInt64

def record : Record Gaps PolicySettings where
  name := "PolicySettings"
  strict := false
  start := ⟨none, none⟩
  fields :=
    [⟨"max_attempts", (·.maxAttempts.isSome),
        do let n ← Reader.word64 "usize"; return ({ · with maxAttempts := some n })⟩,
      ⟨"interval_ms", (·.intervalMillis.isSome),
        do let n ← Reader.word64 "u64"; return ({ · with intervalMillis := some n })⟩]
  finish g :=
    match g.maxAttempts, g.intervalMillis with
    | none, _ => .error "max_attempts"
    | _, none => .error "interval_ms"
    | some maxAttempts, some intervalMillis => .ok { maxAttempts, intervalMillis }

end PolicySettings

end CloudReach
