import CloudReach.Error
import CloudReach.Event
import CloudReach.Http

/-!
# Acting on the world

A computation that deals with the world outside: it goes from one state of the world to the next
and leaves a trace of what an observer sees, in order. It ends with a value, or it is cut off when
a bound on its steps is reached; being cut off is no error and no value.
-/

namespace CloudReach

inductive Effect
  | sent (request : Request)
  | slept (delay : Duration)
  | emitted (event : Event)
  | checked
  | listedRegions
  | listedZones (region : Region)
deriving DecidableEq

namespace Effect

def events (trace : List Effect) : List Event :=
  trace.filterMap fun | emitted e => some e | _ => none

def sleeps (trace : List Effect) : List Duration :=
  trace.filterMap fun | slept d => some d | _ => none

def requests (trace : List Effect) : List Request :=
  trace.filterMap fun | sent r => some r | _ => none

def checks (trace : List Effect) : Nat :=
  trace.countP (· = checked)

def regionListings (trace : List Effect) : Nat :=
  trace.countP (· = listedRegions)

def zoneListings (trace : List Effect) : List Region :=
  trace.filterMap fun | listedZones r => some r | _ => none

end Effect

def Act (σ α : Type) := σ → List Effect × Option (α × σ)

namespace Act

variable {σ τ α β : Type}

def run (a : Act σ α) (s : σ) : List Effect × Option (α × σ) :=
  a s

def pure (a : α) : Act σ α := fun s => ([], some (a, s))

/-- One computation after another; the second is not begun if the first is cut off. -/
def bind (a : Act σ α) (f : α → Act σ β) : Act σ β := fun s =>
  match a s with
  | (trace, none) => (trace, none)
  | (trace, some (x, s)) => let r := f x s; (trace ++ r.1, r.2)

instance : Monad (Act σ) where
  pure := Act.pure
  bind := Act.bind

def note (e : Effect) : Act σ Unit := fun s => ([e], some ((), s))

def emit (e : Event) : Act σ Unit := note (.emitted e)

def sleep (d : Duration) : Act σ Unit := note (.slept d)

def step (f : σ → α × σ) : Act σ α := fun s => ([], some (f s))

def cutOff : Act σ α := fun _ => ([], none)

def onFirst (a : Act σ α) : Act (σ × τ) α := fun s =>
  match a s.1 with
  | (trace, none) => (trace, none)
  | (trace, some (x, t)) => (trace, some (x, t, s.2))

end Act

end CloudReach
