/-!
# Shortest decimals

The decimal that stands for a binary number: of all decimals that round to it the one with the
fewest digits, and of those the nearest.
-/

namespace CloudReach.Decimal

structure Ratio where
  num : Nat
  den : Nat

namespace Ratio

def scaled (n b : Nat) (e : Int) : Ratio :=
  if 0 ≤ e then ⟨n * Nat.pow b e.toNat, 1⟩ else ⟨n, Nat.pow b (-e).toNat⟩

def le (x y : Ratio) : Bool :=
  x.num * y.den ≤ y.num * x.den

/-- The greatest power of ten that does not exceed a positive fraction, by its exponent. -/
def log10 (x : Ratio) : Int :=
  let length (n : Nat) : Nat := (Nat.toDigits 10 n).length
  if x.den ≤ x.num then (length (x.num / x.den) : Int) - 1
  else -(length ((x.den - 1) / x.num) : Int)

end Ratio

/-- A binary number `m * 2 ^ q` between its neighbours. The lower neighbour is nearer where the
exponent changes. -/
structure Binary where
  m : Nat
  q : Int
  lowerIsNear : Bool

namespace Binary

def quarters (b : Binary) (n : Nat) : Ratio :=
  .scaled n 2 (b.q - 2)

def value (b : Binary) : Ratio :=
  b.quarters (4 * b.m)

def admits (b : Binary) (x : Ratio) : Bool :=
  let low := b.quarters (4 * b.m - if b.lowerIsNear then 1 else 2)
  let high := b.quarters (4 * b.m + 2)
  if b.m % 2 = 0 then low.le x && x.le high else !x.le low && !high.le x

def onGrid? (b : Binary) (e : Int) : Option (Nat × Int) :=
  let v := b.value
  let step := Ratio.scaled 1 10 e
  let d := v.num * step.den / (v.den * step.num)
  let below := b.admits (.scaled d 10 e)
  let above := b.admits (.scaled (d + 1) 10 e)
  -- twice the number lies above the middle of the two neighbours, or on it
  let middle : Ratio := .scaled (2 * d + 1) 10 e
  let twice : Ratio := ⟨2 * v.num, v.den⟩
  let upper := if twice.le middle then middle.le twice && d % 2 == 1 else true
  match below, above with
  | true, true => some (if upper then d + 1 else d, e)
  | true, false => some (d, e)
  | false, true => some (d + 1, e)
  | false, false => none

def strip (d : Nat) (e : Int) : Nat × Int :=
  if h : 0 < d ∧ d % 10 = 0 then strip (d / 10) (e + 1) else (d, e)
termination_by d
decreasing_by omega

/-- The shortest decimal of a positive number: the grids of one to seventeen digits are tried in
turn. -/
def shortest (b : Binary) : Nat × Int :=
  let top := b.value.log10
  let hit := (List.range 17).findSome? fun (k : Nat) => b.onGrid? (top - k)
  let (d, e) := hit.getD (0, 0)
  strip d e

end Binary

end CloudReach.Decimal
