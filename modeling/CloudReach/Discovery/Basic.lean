import CloudReach.Endpoint
import CloudReach.World

/-!
# Discovery

The remote operations that say which regions and zones there are, and what is remembered of their
answers: the listing of the regions whether it succeeded or not, the map of the zones and the
table of compute endpoints only once they have been built.
-/

namespace CloudReach

structure RegionApi (σ : Type) where
  regions : Act σ (Except ProviderError RegionMap)
  zones : Region → Act σ (Except ProviderError (List ZoneInfo))

structure Memory where
  regions : Option (Except RegionLoadError RegionMap)
  zones : Option ZoneMap
  compute : Option EndpointTable

def Memory.blank : Memory :=
  { regions := none, zones := none, compute := none }

def Memory.failure? (m : Memory) : Option RegionLoadError :=
  match m.regions with
  | some (.error e) => some e
  | _ => none

namespace Discovery

variable {σ : Type}

def consult {α : Type} (f : Memory → α) : Act (σ × Memory) α :=
  Act.step fun s => (f s.2, s)

def remember (f : Memory → Memory) : Act (σ × Memory) Unit :=
  Act.step fun s => ((), s.1, f s.2)

end Discovery

end CloudReach
