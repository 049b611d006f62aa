import CloudReach.Text.Canonical.Table

/-!
# Canonical composition

Text in its composed normal form: taken apart, its marks put into the order of their classes, and
put together again as far as nothing stands between a character and its mark. Hangul syllables are
taken apart and put together by arithmetic. Code points that are composed but never put together
have to be replaced beforehand.
-/

namespace CloudReach.Text

/-- The class of a mark; zero for everything that starts a new group. -/
def combiningClass (n : Nat) : Nat :=
  (combiningClasses.get? n).getD 0

def hangulParts (n : Nat) : List Nat :=
  let s := n - 0xAC00
  let tail := s % 28
  [0x1100 + s / 588, 0x1161 + s % 588 / 28] ++ if tail = 0 then [] else [0x11A7 + tail]

def apart : Nat → Nat → List Nat
  | 0, n => [n]
  | depth + 1, n =>
    if 0xAC00 ≤ n ∧ n ≤ 0xD7A3 then hangulParts n
    else
      match composites.get? n with
      | some (a, b) => apart depth a ++ apart depth b
      | none => [n]

def insertMark (n : Nat) : List Nat → List Nat
  | [] => [n]
  | m :: rest =>
    if 0 < combiningClass m ∧ combiningClass m < combiningClass n then m :: insertMark n rest
    else n :: m :: rest

def orderMarks (s : List Nat) : List Nat :=
  s.foldr (fun n rest => if combiningClass n = 0 then n :: rest else insertMark n rest) []

def compose? (a b : Nat) : Option Nat :=
  if 0x1100 ≤ a ∧ a ≤ 0x1112 ∧ 0x1161 ≤ b ∧ b ≤ 0x1175 then
    some (0xAC00 + ((a - 0x1100) * 21 + (b - 0x1161)) * 28)
  else if 0xAC00 ≤ a ∧ a ≤ 0xD7A3 ∧ (a - 0xAC00) % 28 = 0 ∧ 0x11A8 ≤ b ∧ b ≤ 0x11C2 then
    some (a + (b - 0x11A7))
  else (Array.find? (fun r : Run (Nat × Nat) => r.value = (a, b)) composites).map Run.first

/-- Puts together what follows a starter. The marks that stay apart are kept in reverse; the last of
them blocks what is not of a higher class. -/
def together (starter : Nat) (marks : List Nat) : List Nat → List Nat
  | [] => starter :: marks.reverse
  | n :: rest =>
    let k := combiningClass n
    let isOpen := match marks with
      | [] => true
      | m :: _ => combiningClass m < k
    match if isOpen then compose? starter n else none with
    | some c => together c marks rest
    | none =>
      if k = 0 then starter :: marks.reverse ++ together n [] rest
      else together starter (n :: marks) rest

def canonical (s : List Nat) : List Nat :=
  let ordered := orderMarks (s.flatMap (apart 8))
  let marks := ordered.takeWhile fun n => combiningClass n ≠ 0
  match ordered.drop marks.length with
  | [] => marks
  | n :: rest => marks ++ together n [] rest

end CloudReach.Text
