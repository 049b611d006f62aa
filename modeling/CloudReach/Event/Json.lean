import CloudReach.Category.Json
import CloudReach.Event

/-!
# Events in JSON

Every event is an object that says its kind, its members ordered by their keys. Durations are
whole milliseconds, of which the low 64 bits are kept. An event makes one line.
-/

namespace CloudReach.Event

open Json

def loggedMillis (d : Duration) : Nat :=
  d.millis % UInt64.size

def json : Event → Value
  | attempt policy n =>
    .object [("attempt", .number n), ("kind", .text "poll_attempt"), ("policy", .text policy)]
  | ready policy n elapsed =>
    .object [("attempts", .number n), ("elapsed_ms", .number (loggedMillis elapsed)),
      ("kind", .text "poll_ready"), ("policy", .text policy)]
  | exhausted policy n elapsed =>
    .object [("attempts", .number n), ("elapsed_ms", .number (loggedMillis elapsed)),
      ("kind", .text "poll_exhausted"), ("policy", .text policy)]
  | checkFailed policy n =>
    .object [("attempt", .number n), ("kind", .text "poll_check_failed"),
      ("policy", .text policy)]
  | regionsLoaded n => .object [("kind", .text "regions_loaded"), ("regions", .number n)]
  | regionsLoadFailed => .object [("kind", .text "regions_load_failed")]
  | regionsFailureReplayed => .object [("kind", .text "regions_failure_replayed")]
  | zonesMapped regions zones =>
    .object [("kind", .text "zones_mapped"), ("regions", .number regions),
      ("zones", .number zones)]
  | retryScheduled category status n delay =>
    .object [("attempt", .number n), ("category", category.json),
      ("delay_ms", .number (loggedMillis delay)), ("kind", .text "response_retry"),
      ("status", .number status)]
  | gaveUp category status =>
    .object [("category", category.json), ("kind", .text "response_gave_up"),
      ("status", .number status)]
  | interpreted category status =>
    .object [("category", category.json), ("kind", .text "response_interpreted"),
      ("status", .number status)]

def line (e : Event) : String :=
  e.json.toText ++ "\n"

end CloudReach.Event
