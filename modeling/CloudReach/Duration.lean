import CloudReach.Text.Blank
import CloudReach.Text.Digits

/-!
# Durations

Spans of time in whole nanoseconds, up to as many seconds as 64 bits count and a second less a
nanosecond. What does not fit is either refused (`mul?`) or cut to the maximum (`clamp`).
-/

namespace CloudReach

namespace Duration

def micro : Nat := 1000

def milli : Nat := 1000000

def second : Nat := 1000000000

def maxNanos : Nat := (UInt64.size - 1) * second + (second - 1)

end Duration

structure Duration where
  nanos : Nat
  nanos_le : nanos ≤ Duration.maxNanos
deriving DecidableEq

namespace Duration

def max : Duration := ⟨maxNanos, Nat.le_refl _⟩

def zero : Duration := ⟨0, Nat.zero_le _⟩

instance : Inhabited Duration := ⟨zero⟩

instance : LE Duration := ⟨fun d e => d.nanos ≤ e.nanos⟩

instance : DecidableLE Duration := fun d e => inferInstanceAs (Decidable (d.nanos ≤ e.nanos))

instance : Min Duration := minOfLe

theorem nanos_min (d e : Duration) : (min d e).nanos = min d.nanos e.nanos := by
  by_cases h : d.nanos ≤ e.nanos
  · rw [Nat.min_eq_left h]
    exact congrArg nanos (if_pos h)
  · rw [Nat.min_eq_right (Nat.le_of_not_le h)]
    exact congrArg nanos (if_neg h)

def ofNanos? (n : Nat) : Option Duration :=
  if h : n ≤ maxNanos then some ⟨n, h⟩ else none

def clamp (n : Nat) : Duration :=
  ⟨min n maxNanos, Nat.min_le_right _ _⟩

/-- Any 64-bit count of seconds makes a duration. -/
theorem seconds_le_maxNanos (s : UInt64) : s.toNat * second ≤ maxNanos := by
  have h := s.toNat_lt_size
  simp only [maxNanos, second, UInt64.size] at *
  omega

/-- Any 64-bit count of milliseconds makes a duration. -/
theorem millis_le_maxNanos (m : UInt64) : m.toNat * milli ≤ maxNanos := by
  have h := m.toNat_lt_size
  simp only [maxNanos, milli, second, UInt64.size] at *
  omega

def ofNanos (n : UInt64) : Duration :=
  ⟨n.toNat, Nat.le_trans (Nat.le_mul_of_pos_right _ (by decide)) (seconds_le_maxNanos n)⟩

def ofSeconds (s : UInt64) : Duration :=
  ⟨s.toNat * second, seconds_le_maxNanos s⟩

def ofMillis (m : UInt64) : Duration :=
  ⟨m.toNat * milli, millis_le_maxNanos m⟩

def millis (d : Duration) : Nat :=
  d.nanos / milli

def isZero (d : Duration) : Bool :=
  d.nanos == 0

def mul? (d : Duration) (k : Nat) : Option Duration :=
  ofNanos? (d.nanos * k)

def add (d e : Duration) : Duration :=
  clamp (d.nanos + e.nanos)

/-- The sum of a list of durations, cut to the maximum. -/
def total (ds : List Duration) : Duration :=
  clamp (ds.foldr (fun d n => d.nanos + n) 0)

def decimal (whole part width : Nat) (unit : String) : String :=
  let fraction := Text.dropEndWhile (· == '0') (Text.padded width part)
  let tail := if part == 0 then [] else '.' :: fraction
  String.ofList (Text.digits whole ++ tail) ++ unit

/-- The duration in the largest unit of which it holds at least one: `1.5s`, `20ms`, `7µs`,
`0ns`. -/
def text (d : Duration) : String :=
  let n := d.nanos
  if second ≤ n then decimal (n / second) (n % second) 9 "s"
  else if milli ≤ n then decimal (n / milli) (n % milli) 6 "ms"
  else if micro ≤ n then decimal (n / micro) (n % micro) 3 "µs"
  else decimal n 0 0 "ns"

end Duration

end CloudReach
