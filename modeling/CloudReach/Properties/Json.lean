import CloudReach.Properties
import CloudReach.Readiness.Json

/-!
# Properties in JSON

An object in which every field may be left out, and no other may stand. Written, it has all its
fields; of the readiness settings only those that override something.
-/

namespace CloudReach

open Json

namespace ReadinessOverrides

def entry (name : String) (settings : Option PolicySettings) : List (String × Value) :=
  (settings.map fun s => (name, s.json)).toList

def json (o : ReadinessOverrides) : Value :=
  .object (entry "running" o.running ++ entry "terminated" o.terminated ++
    entry "socket_open" o.socketOpen)

structure Gaps where
  running : Option (Option PolicySettings)
  terminated : Option (Option PolicySettings)
  socketOpen : Option (Option PolicySettings)

def settings : Reader (Option PolicySettings) :=
  Reader.optional PolicySettings.record.read

def record : Record Gaps ReadinessOverrides where
  name := "ReadinessOverrides"
  strict := true
  start := ⟨.none, .none, .none⟩
  fields :=
    [⟨"running", (·.running.isSome), do let s ← settings; return ({ · with running := some s })⟩,
      ⟨"terminated", (·.terminated.isSome),
        do let s ← settings; return ({ · with terminated := some s })⟩,
      ⟨"socket_open", (·.socketOpen.isSome),
        do let s ← settings; return ({ · with socketOpen := some s })⟩]
  finish g :=
    .ok { running := g.running.join, terminated := g.terminated.join
          socketOpen := g.socketOpen.join }

end ReadinessOverrides

namespace Properties

def json (p : Properties) : Value :=
  .object [("compute_endpoint", .text p.computeEndpoint),
    ("load_balancer_endpoint", .text p.loadBalancerEndpoint),
    (expireProperty, .number p.expireSeconds.toNat),
    ("readiness", p.readiness.json)]

structure Gaps where
  computeEndpoint : Option String
  loadBalancerEndpoint : Option String
  expireSeconds : Option UInt64
  readiness : Option ReadinessOverrides

def record : Record Gaps Properties where
  name := "ClientProperties"
  strict := true
  start := ⟨none, none, none, none⟩
  fields :=
    [⟨"compute_endpoint", (·.computeEndpoint.isSome),
        do let t ← Reader.text; return ({ · with computeEndpoint := some t })⟩,
      ⟨"load_balancer_endpoint", (·.loadBalancerEndpoint.isSome),
        do let t ← Reader.text; return ({ · with loadBalancerEndpoint := some t })⟩,
      ⟨expireProperty, (·.expireSeconds.isSome),
        do let n ← Reader.word64 "u64"; return ({ · with expireSeconds := some n })⟩,
      ⟨"readiness", (·.readiness.isSome),
        do let o ← ReadinessOverrides.record.read; return ({ · with readiness := some o })⟩]
  finish g :=
    .ok { computeEndpoint := g.computeEndpoint.getD standard.computeEndpoint
          loadBalancerEndpoint := g.loadBalancerEndpoint.getD standard.loadBalancerEndpoint
          expireSeconds := g.expireSeconds.getD standard.expireSeconds
          readiness := g.readiness.getD standard.readiness }

def ofJson (text : String) : Except ConfigurationError Properties :=
  match Reader.run record.read text with
  | .ok p => .ok p
  | .error f => .error (.invalidProperty "properties" f.message)

end Properties

end CloudReach
