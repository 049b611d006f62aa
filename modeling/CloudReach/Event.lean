import CloudReach.Category
import CloudReach.Duration

/-!
# Events

What the parts of the library report as they work: attempts and outcomes of polls, how regions and
zones were resolved, and what became of failed responses.
-/

namespace CloudReach

inductive Event
  | attempt (policy : String) (attempt : Nat)
  | ready (policy : String) (attempts : Nat) (elapsed : Duration)
  | exhausted (policy : String) (attempts : Nat) (elapsed : Duration)
  | checkFailed (policy : String) (attempt : Nat)
  | regionsLoaded (regions : Nat)
  | regionsLoadFailed
  | regionsFailureReplayed
  | zonesMapped (regions zones : Nat)
  | retryScheduled (category : Category) (status attempt : Nat) (delay : Duration)
  | gaveUp (category : Category) (status : Nat)
  | interpreted (category : Category) (status : Nat)
deriving DecidableEq

def Event.text : Event → String
  | attempt policy n => s!"Poll::Attempt({policy}#{n})"
  | ready policy n elapsed => s!"Poll::Ready({policy}, attempts={n}, elapsed={elapsed.text})"
  | exhausted policy n elapsed =>
    s!"Poll::Exhausted({policy}, attempts={n}, elapsed={elapsed.text})"
  | checkFailed policy n => s!"Poll::CheckFailed({policy}#{n})"
  | regionsLoaded n => s!"Regions::Loaded(regions={n})"
  | regionsLoadFailed => "Regions::LoadFailed"
  | regionsFailureReplayed => "Regions::FailureReplayed"
  | zonesMapped regions zones => s!"Regions::ZonesMapped(regions={regions}, zones={zones})"
  | retryScheduled category status n delay =>
    s!"Response::RetryScheduled({category.text} {status}, attempt={n}, delay={delay.text})"
  | gaveUp category status => s!"Response::GaveUp({category.text} {status})"
  | interpreted category status => s!"Response::Interpreted({category.text} {status})"

end CloudReach
