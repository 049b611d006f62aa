import CloudReach.Decimal.Shortest
import CloudReach.Json.Reader
import CloudReach.Text.Digits

/-!
# JSON numbers

Whole numbers of 64 bits are read exactly. Every other number, and minus zero, is read as a
floating one: its first digits, as many as 64 bits hold, times a power of ten.
-/

namespace CloudReach.Json

inductive Number
  | natural (n : Nat)
  | negative (magnitude : Nat)
  | floating (x : Float)

namespace Number

def isPositional (e : Int) : Bool :=
  -5 ≤ e && e < 16

/-- The decimal `d * 10 ^ e` as it is written. It always has a point or an exponent; an exponent
has a sign and at least two digits. -/
def decimalText (d : Nat) (e : Int) : List Char :=
  let ds := Text.digits d
  let first := e + ds.length - 1
  if isPositional first then
    if 0 ≤ e then ds ++ List.replicate e.toNat '0' ++ ['.', '0']
    else if 0 ≤ first then ds.take (first.toNat + 1) ++ '.' :: ds.drop (first.toNat + 1)
    else '0' :: '.' :: List.replicate (-first - 1).toNat '0' ++ ds
  else
    let tail := if ds.length ≤ 1 then [] else '.' :: ds.drop 1
    ds.take 1 ++ tail ++ 'e' :: (if first < 0 then '-' else '+') :: Text.padded 2 first.natAbs

def fractions : Nat := 0x10000000000000

def exponents : Nat := 0x800

def signBit : Nat := 0x8000000000000000

def exponentBits (x : Float) : Nat :=
  x.toBits.toNat / fractions % exponents

def binary (x : Float) : Decimal.Binary :=
  let fraction := x.toBits.toNat % fractions
  let e := exponentBits x
  if e = 0 then { m := fraction, q := -1074, lowerIsNear := false }
  else
    { m := fractions + fraction, q := (e : Int) - 1075, lowerIsNear := fraction == 0 && 1 < e }

def floatText (x : Float) : String :=
  let sign := if signBit ≤ x.toBits.toNat then ['-'] else []
  let b := binary x
  let body := if b.m = 0 then ['0', '.', '0'] else
    let (d, e) := b.shortest
    decimalText d e
  String.ofList (sign ++ body)

def found : Number → Found
  | natural n => .integer n
  | negative m => .integer (-m)
  | floating x => .floating (floatText x)

def tenTo (n : Nat) : Float :=
  Float.ofScientific 1 false n

/-- A floating number over a power of ten, by way of the greatest power that there is. -/
def scaleDown (x : Float) (n : Nat) : Float :=
  if n ≤ 308 then x / tenTo n
  else if x == 0.0 then x
  else scaleDown (x / tenTo 308) (n - 308)
termination_by n

def assemble (positive : Bool) (digits : Nat) (e : Int) (rest : List Char) :
    Except Failure (Number × List Char) :=
  let x := (UInt64.ofNat digits).toFloat
  let scaled : Except Failure Float :=
    if e < 0 then .ok (scaleDown x (-e).toNat)
    else if digits = 0 then .ok x
    else if 308 < e then .error ⟨.numberTooLarge, rest, 0⟩
    else
      let y := x * tenTo e.toNat
      if y.isInf then .error ⟨.numberTooLarge, rest, 0⟩ else .ok y
  scaled.map fun y => (.floating (if positive then y else -y), rest)

def fill (limit n count : Nat) : List Char → (Nat × Nat) × List Char
  | [] => ((n, count), [])
  | c :: rest =>
    match Text.digit? c with
    | none => ((n, count), c :: rest)
    | some d =>
      if 10 * n + d < limit then fill limit (10 * n + d) (count + 1) rest
      else ((n, count), c :: rest)

def startsWithDigit (s : List Char) : Bool :=
  s.head?.any fun c => (Text.digit? c).isSome

def spanDigits (s : List Char) : List Char × List Char :=
  s.span fun c => (Text.digit? c).isSome

structure Mantissa where
  positive : Bool
  digits : Nat
  exponent : Int

def startsExponent (s : List Char) : Bool :=
  s.head? = some 'e' || s.head? = some 'E'

/-- The exponent after its letter. One beyond 32 bits makes the number zero, or too large by the
digit with which it gets there. -/
def readExponent (m : Mantissa) (s : List Char) : Except Failure (Number × List Char) :=
  let (up, s) := match s with
    | '+' :: s => (true, s)
    | '-' :: s => (false, s)
    | s => (true, s)
  let ((e, count), rest) := fill 0x80000000 0 0 s
  if count = 0 then .error (if s.isEmpty then ⟨.endOfValue, s, 0⟩ else ⟨.badNumber, s, 1⟩)
  else if startsWithDigit rest then
    if up ∧ m.digits ≠ 0 then .error ⟨.numberTooLarge, rest, 1⟩
    else .ok (.floating (if m.positive then 0.0 else -0.0), (spanDigits rest).2)
  else assemble m.positive m.digits (if up then m.exponent + e else m.exponent - e) rest

def readTail (m : Mantissa) (s : List Char) : Except Failure (Number × List Char) :=
  if startsExponent s then readExponent m (s.drop 1)
  else assemble m.positive m.digits m.exponent s

/-- The digits after the point. Those that 64 bits do not hold are passed over. -/
def readFraction (m : Mantissa) (s : List Char) : Except Failure (Number × List Char) :=
  let ((n, count), rest) := fill UInt64.size m.digits 0 s
  if startsWithDigit rest then
    readTail { m with digits := n, exponent := m.exponent - count } (spanDigits rest).2
  else if count = 0 then
    .error (if rest.isEmpty then ⟨.endOfValue, rest, 0⟩ else ⟨.badNumber, rest, 1⟩)
  else readTail { m with digits := n, exponent := m.exponent - count } rest

def readRest (positive : Bool) (n : Nat) (s : List Char) : Except Failure (Number × List Char) :=
  let (more, rest) := spanDigits s
  let m : Mantissa := { positive, digits := n, exponent := more.length }
  if rest.head? = some '.' then readFraction m (rest.drop 1)
  else if startsExponent rest ∨ !more.isEmpty then readTail m rest
  else if positive then .ok (.natural n, rest)
  else if 0 < n ∧ n ≤ signBit then .ok (.negative n, rest)
  else .ok (.floating (-(UInt64.ofNat n).toFloat), rest)

def read (positive : Bool) (s : List Char) : Except Failure (Number × List Char) :=
  match s with
  | [] => .error ⟨.endOfValue, [], 0⟩
  | '0' :: rest =>
    if startsWithDigit rest then .error ⟨.badNumber, rest, 1⟩ else readRest positive 0 rest
  | s =>
    if startsWithDigit s then
      let ((n, _), rest) := fill UInt64.size 0 0 s
      readRest positive n rest
    else .error ⟨.badNumber, s, 1⟩

def skipExponent (s : List Char) : Except Failure (List Char) :=
  let s := if s.head? = some '+' ∨ s.head? = some '-' then s.drop 1 else s
  if startsWithDigit s then .ok (spanDigits s).2 else .error ⟨.badNumber, s, 1⟩

def skipTail (s : List Char) : Except Failure (List Char) :=
  if startsExponent s then skipExponent (s.drop 1) else .ok s

def skip (s : List Char) : Except Failure (List Char) :=
  let (ds, rest) := spanDigits s
  if ds.isEmpty then .error ⟨.badNumber, s, 1⟩
  else if ds.head? = some '0' ∧ 1 < ds.length then .error ⟨.badNumber, s.drop 1, 1⟩
  else if rest.head? = some '.' then
    let (fraction, rest) := spanDigits (rest.drop 1)
    if fraction.isEmpty then .error ⟨.badNumber, rest, 1⟩ else skipTail rest
  else skipTail rest

end Number

namespace Reader

def number (positive : Bool) : Reader Number :=
  Number.read positive

def skipNumber : Reader Unit := fun s =>
  (Number.skip s).map fun rest => ((), rest)

end Reader

end CloudReach.Json
