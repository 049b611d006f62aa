import CloudReach.Event.Log

/-!
# Sinks

Where events are delivered. A sink may not be ready for an event, and may fail to take it in. What
is reported must not fail because of that, so events are delivered as far as possible; only a caller
that holds the sink itself sees how it went. All clones of a sink lead to the same place.
-/

namespace CloudReach

variable {σ ε : Type}

structure Sink (σ ε : Type) where
  ready : σ → Except ε Unit × σ
  call : Event → σ → Except ε Unit × σ

abbrev SharedSink (σ : Type) := Event → σ → σ

namespace Sink

/-- Delivers an event as far as possible: a sink that is not ready, or fails, loses it. -/
def bestEffort (sink : Sink σ ε) (e : Event) (s : σ) : σ :=
  match sink.ready s with
  | (.error _, s) => s
  | (.ok (), s) => (sink.call e s).2

def shared (sink : Sink σ ε) : SharedSink σ :=
  fun e s => sink.bestEffort e s

end Sink

namespace EventLog

def sink : Sink EventLog Empty where
  ready l := (.ok (), l)
  call e l := (.ok (), l.push e)

inductive Way
  | direct
  | shared
  | bestEffort
deriving DecidableEq

inductive Step
  | deliver (way : Way) (e : Event)
  | clear

def perform (l : EventLog) : Step → EventLog
  | .deliver .direct e => (sink.call e l).2
  | .deliver .shared e => sink.shared e l
  | .deliver .bestEffort e => sink.bestEffort e l
  | .clear => l.clear

def performAll (l : EventLog) (steps : List Step) : EventLog :=
  steps.foldl perform l

end EventLog

end CloudReach
