/-!
# Punycode

Text beyond ASCII written in ASCII letters and digits: first the ASCII characters, then for every
other one, in ascending order, how far to move in the space of code points and places. The
distances are numbers of variable length in base 36, whose digits adapt to those before them.
-/

namespace CloudReach.Url.Punycode

def digit? (c : Char) : Option Nat :=
  let n := c.toNat
  if 0x61 ≤ n ∧ n ≤ 0x7A then some (n - 0x61)
  else if 0x41 ≤ n ∧ n ≤ 0x5A then some (n - 0x41)
  else if 0x30 ≤ n ∧ n ≤ 0x39 then some (n - 0x30 + 26)
  else none

def digitChar (d : Nat) : Char :=
  if d < 26 then Char.ofNat (0x61 + d) else Char.ofNat (0x30 + d - 26)

/-- The value from which the digit at a place is not the last. -/
def threshold (place bias : Nat) : Nat :=
  if place ≤ bias then 1 else if bias + 26 ≤ place then 26 else place - bias

/-- A threshold of zero would never end a number. -/
theorem threshold_pos (place bias : Nat) : 1 ≤ threshold place bias := by
  unfold threshold
  split
  · omega
  · split <;> omega

def spread (delta place : Nat) : Nat :=
  if 455 < delta then spread (delta / 35) (place + 36) else place + 36 * delta / (delta + 38)
termination_by delta
decreasing_by omega

def adapt (delta length : Nat) (first : Bool) : Nat :=
  let d := if first then delta / 700 else delta / 2
  spread (d + d / length) 0

structure Decoding where
  out : List Nat
  code : Nat
  bias : Nat
  start : Nat
  distance : Nat
  weight : Nat
  place : Nat

def Decoding.settle (s : Decoding) (distance : Nat) : Option Decoding :=
  let length := s.out.length + 1
  let code := s.code + distance / length
  let at_ := distance % length
  if code < 0xD800 ∨ (0xDFFF < code ∧ code < 0x110000) then
    some
      { out := s.out.take at_ ++ code :: s.out.drop at_
        code
        bias := adapt (distance - s.start) length (s.start == 0)
        start := at_ + 1
        distance := at_ + 1
        weight := 1
        place := 36 }
  else none

def Decoding.step (s : Decoding) (c : Char) : Option Decoding := do
  let d ← digit? c
  let t := threshold s.place s.bias
  let distance := s.distance + d * s.weight
  if d < t then s.settle distance
  else some { s with distance, weight := s.weight * (36 - t), place := s.place + 36 }

/-- The text that an ASCII one stands for. The ASCII characters end with the last hyphen, unless it
comes first; no distance may break off. -/
def decode (s : List Char) : Option (List Nat) := do
  let tail := (s.reverse.takeWhile (· != '-')).reverse
  let basic := s.take (s.length - tail.length - 1)
  let digits := if basic.isEmpty then s else tail
  let start : Decoding :=
    { out := basic.map Char.toNat, code := 128, bias := 72, start := 0, distance := 0, weight := 1
      place := 36 }
  let s ← digits.foldlM Decoding.step start
  if s.place = 36 then some s.out else none

def distanceDigits (bias place n : Nat) : List Char :=
  let t := threshold place bias
  if n < t then [digitChar n]
  else digitChar (t + (n - t) % (36 - t)) :: distanceDigits bias (place + 36) ((n - t) / (36 - t))
termination_by n
decreasing_by
  have := threshold_pos place bias
  have := Nat.div_le_self (n - threshold place bias) (36 - threshold place bias)
  omega

structure Encoding where
  out : List Char
  distance : Nat
  bias : Nat
  handled : Nat

def Encoding.pass (basic code : Nat) (e : Encoding) (n : Nat) : Encoding :=
  if n < code then { e with distance := e.distance + 1 }
  else if n = code then
    { out := e.out ++ distanceDigits e.bias 36 e.distance
      distance := 0
      bias := adapt e.distance (e.handled + 1) (e.handled == basic)
      handled := e.handled + 1 }
  else e

def encode (s : List Nat) : List Char :=
  let basic := s.filter (· < 128)
  let codes := ((s.filter (128 ≤ ·)).mergeSort (· ≤ ·)).eraseDups
  let start : Encoding := { out := [], distance := 0, bias := 72, handled := basic.length }
  let (e, _) := codes.foldl (fun (e, next) code =>
    let e := { e with distance := e.distance + (code - next) * (e.handled + 1) }
    let e := s.foldl (Encoding.pass basic.length code) e
    ({ e with distance := e.distance + 1 }, code + 1)) (start, 128)
  basic.map Char.ofNat ++ (if basic.isEmpty then [] else ['-']) ++ e.out

end CloudReach.Url.Punycode
