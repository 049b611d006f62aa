import CloudReach.Event.Sink
import Mathlib.Algebra.Ring.Nat
import Mathlib.Data.List.DropRight

/-!
# What a log holds

A log with room for everything would hold its deliveries in stretches, each ended by a clear.
`History` is that log, and `Shows` says what of it the bounded one still has: the end of the last
stretch, and the number of events that did not find room in any of them. A step keeps it, and so
does every run of deliveries and clears, whichever way the events come.
-/

namespace CloudReach

/-- All that was ever delivered: the stretches that a clear has ended, and the one that goes on. -/
structure History where
  ended : List (List Event)
  current : List Event

namespace History

def empty : History := ⟨[], []⟩

def perform (h : History) : EventLog.Step → History
  | .deliver _ e => { h with current := h.current ++ [e] }
  | .clear => { ended := h.ended ++ [h.current], current := [] }

def ofSteps (steps : List EventLog.Step) : History :=
  steps.foldl perform empty

def stretches (h : History) : List (List Event) :=
  h.ended ++ [h.current]

/-- The events that are past the capacity in the stretches, each counted by itself. -/
def overflow (capacity : Nat) (h : History) : Nat :=
  (h.stretches.map fun stretch => stretch.length - capacity).sum

theorem overflow_eq (capacity : Nat) (h : History) :
    h.overflow capacity = (h.ended.map fun stretch => stretch.length - capacity).sum +
      (h.current.length - capacity) := by
  simp [overflow, stretches]

theorem overflow_clear (capacity : Nat) (h : History) :
    (h.perform .clear).overflow capacity = h.overflow capacity := by
  simp [overflow, stretches, perform]

theorem overflow_deliver (capacity : Nat) (h : History) (way : EventLog.Way) (e : Event) :
    (h.perform (.deliver way e)).overflow capacity =
      h.overflow capacity + if capacity ≤ h.current.length then 1 else 0 := by
  simp only [overflow_eq, perform, List.length_append, List.length_singleton]
  split <;> omega

end History

namespace EventLog

/-- The log has what is left of a history: the latest events of its last stretch, as many as there
is room for, and the count of those that found none. -/
structure Shows (l : EventLog) (h : History) : Prop where
  events : l.events = h.current.rtake l.capacity
  evicted : l.evicted = UInt64.ofNat (h.overflow l.capacity)

/-- Every way of delivery ends with the event in the log. -/
theorem perform_deliver (l : EventLog) (way : Way) (e : Event) :
    l.perform (.deliver way e) = l.push e := by
  cases way <;> rfl

@[simp] theorem capacity_push (l : EventLog) (e : Event) : (l.push e).capacity = l.capacity := by
  unfold push
  split <;> rfl

@[simp] theorem capacity_perform (l : EventLog) (x : Step) :
    (l.perform x).capacity = l.capacity := by
  cases x with
  | deliver way e => rw [perform_deliver, capacity_push]
  | clear => rfl

theorem length_rtake (es : List Event) (n : Nat) : (es.rtake n).length = min n es.length := by
  rw [List.rtake, List.length_drop]
  omega

/-- The latest events once there is one more: with no room left, the oldest of them goes. -/
theorem rtake_concat (es : List Event) (e : Event) {n : Nat} (hn : 0 < n) :
    (es ++ [e]).rtake n =
      if n ≤ (es.rtake n).length then (es.rtake n).drop 1 ++ [e] else es.rtake n ++ [e] := by
  obtain ⟨k, rfl⟩ := Nat.exists_eq_add_one_of_ne_zero (Nat.ne_of_gt hn)
  rw [List.rtake_concat_succ, length_rtake]
  simp only [List.rtake, List.drop_drop]
  split
  · rw [show es.length - (k + 1) + 1 = es.length - k by omega]
  · rw [show es.length - k = 0 by omega, show es.length - (k + 1) = 0 by omega]

theorem shows_ofCapacity (capacity : Nat) : (ofCapacity capacity).Shows History.empty where
  events := by simp [ofCapacity, History.empty, List.rtake]
  evicted := by simp [ofCapacity, History.overflow, History.stretches, History.empty]

theorem Shows.push {l : EventLog} {h : History} (hl : l.Shows h) (way : Way) (e : Event) :
    (l.push e).Shows (h.perform (.deliver way e)) := by
  have hfull : l.capacity ≤ l.events.length ↔ l.capacity ≤ h.current.length := by
    rw [hl.events, length_rtake]
    omega
  constructor
  · rw [capacity_push, History.perform, rtake_concat _ _ l.capacity_pos, ← hl.events, EventLog.push]
    split <;> rfl
  · rw [capacity_push, History.overflow_deliver, UInt64.ofNat_add, ← hl.evicted, EventLog.push]
    by_cases hroom : l.capacity ≤ l.events.length
    · rw [if_pos hroom, if_pos (hfull.mp hroom)]
      rfl
    · rw [if_neg hroom, if_neg (mt hfull.mpr hroom)]
      exact (UInt64.add_zero _).symm

theorem Shows.perform {l : EventLog} {h : History} (hl : l.Shows h) (x : Step) :
    (l.perform x).Shows (h.perform x) := by
  cases x with
  | deliver way e =>
    rw [perform_deliver]
    exact hl.push way e
  | clear =>
    constructor
    · simp [EventLog.perform, EventLog.clear, History.perform, List.rtake]
    · rw [capacity_perform, History.overflow_clear]
      exact hl.evicted

/-- What one step keeps, a run keeps. -/
theorem Shows.performAll {l : EventLog} {h : History} (hl : l.Shows h) (steps : List Step) :
    (l.performAll steps).Shows (steps.foldl History.perform h) := by
  induction steps generalizing l h with
  | nil => exact hl
  | cons x steps ih => exact ih (hl.perform x)

@[simp] theorem capacity_performAll (l : EventLog) (steps : List Step) :
    (l.performAll steps).capacity = l.capacity := by
  induction steps generalizing l with
  | nil => rfl
  | cons x steps ih => exact (ih (l.perform x)).trans (capacity_perform l x)

/-- After any deliveries and clears a log holds the latest events since the last clear, in the order
in which they came and never more than its capacity. Its count of evictions is what each stretch
between clears had past the capacity, in 64 bits, and a clear leaves it as it is. -/
theorem latest_events_kept (capacity : Nat) (steps : List Step) :
    let room := max capacity 1
    let l := (ofCapacity capacity).performAll steps
    let history := History.ofSteps steps
    l.capacity = room ∧
    l.events = history.current.rtake (min room history.current.length) ∧
    l.events.length = min room history.current.length ∧
    l.events.length ≤ room ∧
    l.evicted.toNat =
      (history.stretches.map fun stretch => stretch.length - room).sum % UInt64.size ∧
    l.clear.evicted = l.evicted := by
  intro room l history
  have hroom : l.capacity = room := capacity_performAll ..
  have hl : l.Shows history := (shows_ofCapacity capacity).performAll steps
  have hlength : l.events.length = min room history.current.length := by
    rw [hl.events, length_rtake, hroom]
  have hevents : l.events = history.current.rtake (min room history.current.length) := by
    rw [hl.events, hroom, List.rtake, List.rtake]
    congr 1
    omega
  refine ⟨hroom, hevents, hlength, by omega, ?_, rfl⟩
  rw [hl.evicted, hroom, UInt64.toNat_ofNat']
  rfl

end EventLog

end CloudReach
