import CloudReach.Duration

/-!
# Jitter

Waits drawn at random so that clients which failed together do not come back together: anywhere
up to the scheduled delay, or between half of it and all of it. The draws are 64-bit words from a
source that is stepped; a range of words is sampled by a widening multiplication, with a second
draw for the carry.
-/

namespace CloudReach

abbrev Draw (σ : Type) := σ → UInt64 × σ

inductive Jitter
  | none
  | full
  | equal
deriving DecidableEq

namespace Jitter

variable {σ : Type}

def mulHigh (a b : UInt64) : UInt64 :=
  .ofNat (a.toNat * b.toNat / UInt64.size)

/-- A word between two bounds, both included. The full range takes one draw as it comes. Otherwise
the high half of draw times range is the offset; when the low half is so large that a finer draw
could carry into it, a second draw decides. -/
def sample (draw : Draw σ) (low high : UInt64) (s : σ) : UInt64 × σ :=
  let range := high - low + 1
  let (v, s) := draw s
  if range = 0 then (v, s)
  else
    let offset := mulHigh v range
    let rest := v * range
    if -range < rest then
      let (w, s) := draw s
      let carry := if UInt64.size ≤ rest.toNat + (mulHigh w range).toNat then 1 else 0
      (low + (offset + carry), s)
    else (low + offset, s)

def wholeMillis (delay : Duration) : UInt64 :=
  .ofNat (min delay.millis (UInt64.size - 1))

def ofSample (r : UInt64 × σ) : Duration × σ :=
  (Duration.ofMillis r.1, r.2)

/-- The delay to wait. A delay below a millisecond becomes none, without a draw. -/
def apply (j : Jitter) (draw : Draw σ) (delay : Duration) (s : σ) : Duration × σ :=
  let ms := wholeMillis delay
  match j with
  | none => (delay, s)
  | full => if ms = 0 then (Duration.zero, s) else ofSample (sample draw 0 ms s)
  | equal => if ms = 0 then (Duration.zero, s) else ofSample (sample draw (ms / 2) ms s)

end Jitter

end CloudReach
