import CloudReach.Text.Digits

/-!
# Tables of code points

An ascending table of runs of code points, each with a value. Tables are written as text: a run is
`first-last` or a single code point in hexadecimal, its value follows after a colon, and runs
stand apart by blanks.
-/

namespace CloudReach.Text

structure Run (α : Type) where
  first : Nat
  last : Nat
  value : α

namespace Run

def ofHex (s : List Char) : Nat :=
  s.foldl (fun n c => 16 * n + (hexDigit? c).getD 0) 0

def ofText {α : Type} (value : List Char → α) (s : List Char) : Run α :=
  let codes := s.takeWhile (· != ':')
  let first := codes.takeWhile (· != '-')
  let last := (codes.dropWhile (· != '-')).drop 1
  { first := ofHex first
    last := if last.isEmpty then ofHex first else ofHex last
    value := value ((s.dropWhile (· != ':')).drop 1) }

end Run

abbrev Runs (α : Type) := Array (Run α)

namespace Runs

variable {α : Type}

def pieces (s : List Char) : List (List Char) :=
  let (piece, done) := s.foldl (fun (piece, done) c =>
    if c != ' ' && c != '\n' then (c :: piece, done)
    else if piece.isEmpty then (piece, done)
    else ([], piece.reverse :: done)) (([], []) : List Char × List (List Char))
  (if piece.isEmpty then done else piece.reverse :: done).reverse

def ofText (value : List Char → α) (table : String) : Runs α :=
  ((pieces table.toList).map (Run.ofText value)).toArray

def ofSet (table : String) : Runs Unit :=
  ofText (fun _ => ()) table

/-- Halves the interval `[lo, hi)` until the run that may hold a code point is found. -/
def search (runs : Runs α) (n : Nat) : Nat → Nat → Nat → Option (Run α)
  | 0, _, _ => none
  | fuel + 1, lo, hi =>
    if lo < hi then
      let mid := (lo + hi) / 2
      match runs[mid]? with
      | none => none
      | some run =>
        if n < run.first then search runs n fuel lo mid
        else if run.last < n then search runs n fuel (mid + 1) hi
        else some run
    else none

def find? (runs : Runs α) (n : Nat) : Option (Run α) :=
  search runs n (runs.size + 1) 0 runs.size

def get? (runs : Runs α) (n : Nat) : Option α :=
  (runs.find? n).map Run.value

def contains (runs : Runs α) (n : Nat) : Bool :=
  (runs.find? n).isSome

end Runs

end CloudReach.Text
