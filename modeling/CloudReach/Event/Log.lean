import CloudReach.Event

/-!
# Bounded logs of events

A log that holds the latest events up to a capacity, at least one, and counts in 64 bits those
that it let go.
-/

namespace CloudReach

structure EventLog where
  capacity : Nat
  events : List Event
  evicted : UInt64
  capacity_pos : 0 < capacity

namespace EventLog

/-- An empty log; a capacity of zero counts as one. -/
def ofCapacity (capacity : Nat) : EventLog :=
  { capacity := max capacity 1, events := [], evicted := 0, capacity_pos := by omega }

def standard : EventLog := ofCapacity 10000

/-- Takes an event in; a full log lets its oldest go first. -/
def push (l : EventLog) (e : Event) : EventLog :=
  if l.capacity ≤ l.events.length then
    { l with events := l.events.drop 1 ++ [e], evicted := l.evicted + 1 }
  else { l with events := l.events ++ [e] }

def pushAll (l : EventLog) (es : List Event) : EventLog :=
  es.foldl push l

def clear (l : EventLog) : EventLog :=
  { l with events := [] }

end EventLog

end CloudReach
