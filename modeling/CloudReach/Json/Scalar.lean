import CloudReach.Json.Number
import CloudReach.Json.Text

/-!
# Strings and whole numbers

Readers of the simplest values, and the refusal of a value of another kind. A value that is refused
is read as far as its kind asks, so that a fault inside it comes first.
-/

namespace CloudReach.Json.Reader

variable {α : Type}

def refuseKind (expected : String) : Option Char → Reader α
  | none => refuse .endOfValue
  | some 'n' => do advance; word ['u', 'l', 'l']; refuse (.wrongKind .null expected)
  | some 't' => do advance; word ['r', 'u', 'e']; refuse (.wrongKind (.bool true) expected)
  | some 'f' => do advance; word ['a', 'l', 's', 'e']; refuse (.wrongKind (.bool false) expected)
  | some '-' => do advance; let n ← number false; refuse (.wrongKind n.found expected)
  | some '"' => do advance; let s ← chars; refuse (.wrongKind (.text s) expected)
  | some '[' => refuse (.wrongKind .list expected)
  | some '\x7b' => refuse (.wrongKind .object expected)
  | some c =>
    if (Text.digit? c).isSome then do
      let n ← number true
      refuse (.wrongKind n.found expected)
    else refuseNext .expectedValue

def textAs (expected : String) : Reader String := do
  match ← peek with
  | some '"' => do advance; chars
  | c => refuseKind expected c

def text : Reader String :=
  textAs "a string"

def bounded (greatest : Nat) (expected : String) : Number → Reader Nat
  | .natural n => if n ≤ greatest then return n else refuse (.outOfRange n expected)
  | .negative m => refuse (.outOfRange (-m) expected)
  | .floating x => refuse (.wrongKind (Number.floating x).found expected)

def natural (greatest : Nat) (expected : String) : Reader Nat := do
  match ← peek with
  | some '-' => do advance; bounded greatest expected (← number false)
  | some c =>
    if (Text.digit? c).isSome then do bounded greatest expected (← number true)
    else refuseKind expected (some c)
  | none => refuse .endOfValue

def word16 : Reader UInt16 := do
  return UInt16.ofNat (← natural (UInt16.size - 1) "u16")

def word64 (expected : String) : Reader UInt64 := do
  return UInt64.ofNat (← natural (UInt64.size - 1) expected)

def null (expected : String) : Reader Unit := do
  match ← peek with
  | some 'n' => do advance; word ['u', 'l', 'l']
  | c => refuseKind expected c

def optional (r : Reader α) : Reader (Option α) := do
  match ← peek with
  | some 'n' => do
    advance
    word ['u', 'l', 'l']
    return none
  | _ => return some (← r)

def colon : Reader Unit := do
  match ← peek with
  | some ':' => advance
  | some _ => refuseNext .expectedColon
  | none => refuse .endOfObject

end CloudReach.Json.Reader
