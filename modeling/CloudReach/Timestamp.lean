import CloudReach.Calendar
import CloudReach.Duration

/-!
# Timestamps

Instants in the years -262143 to 262142, the window for which a signed request stays fresh, and
the ISO 8601 text of its end, in universal time with milliseconds.
-/

namespace CloudReach

def dayNanos : Int := 86400 * Duration.second

def firstNanos : Int := -8334601228800000000000

def lastNanos : Int := 8210266876799999999999

def maxStep : Nat := 9223372036854775807 * Duration.milli

structure Instant where
  nanos : Int
  first_le : firstNanos ≤ nanos
  le_last : nanos ≤ lastNanos

namespace Instant

def epoch : Instant := ⟨0, by decide, by decide⟩

def ofNanos? (n : Int) : Option Instant :=
  if h : firstNanos ≤ n ∧ n ≤ lastNanos then some ⟨n, h.1, h.2⟩ else none

/-- The instant at a number of milliseconds; outside the calendar it is the epoch. -/
def ofMillis (ms : Int) : Instant :=
  (ofNanos? (ms * Duration.milli)).getD epoch

/-- The whole milliseconds since the epoch, rounded down. -/
def millis (t : Instant) : Int :=
  t.nanos / Duration.milli

/-- The instant a duration later, if that is a step in time and the calendar has its end. -/
def add? (t : Instant) (d : Duration) : Option Instant :=
  if d.nanos ≤ maxStep then ofNanos? (t.nanos + d.nanos) else none

def date (t : Instant) : Date :=
  Date.ofDays (t.nanos / dayNanos)

def timeOfDay (t : Instant) : Nat :=
  ((t.nanos % dayNanos) / Duration.milli).toNat

/-- A year in four digits; one that needs more, or lies before year zero, carries a sign. -/
def yearText (y : Int) : List Char :=
  if 0 ≤ y ∧ y ≤ 9999 then Text.padded 4 y.toNat
  else (if y < 0 then '-' else '+') :: Text.padded 4 y.natAbs

/-- The instant as `YYYY-MM-DDThh:mm:ss.mmmZ`. -/
def text (t : Instant) : String :=
  let d := t.date
  let ms := t.timeOfDay
  String.ofList <|
    yearText d.year ++ '-' :: Text.padded 2 d.month ++ '-' :: Text.padded 2 d.day ++
      'T' :: Text.padded 2 (ms / 3600000) ++ ':' :: Text.padded 2 (ms / 60000 % 60) ++
      ':' :: Text.padded 2 (ms / 1000 % 60) ++ '.' :: Text.padded 3 (ms % 1000) ++ ['Z']

end Instant

structure Freshness where
  now : Instant
  interval : Duration

namespace Freshness

/-- The end of the window, or the current instant if the calendar does not reach it. -/
def expiry (f : Freshness) : Instant :=
  (f.now.add? f.interval).getD f.now

def stamp (f : Freshness) : String :=
  f.expiry.text

end Freshness

end CloudReach
