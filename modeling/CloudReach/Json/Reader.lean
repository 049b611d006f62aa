import CloudReach.Json.Fault

/-!
# Readers of JSON text

A reader takes a value from the front of a text and leaves the rest, or refuses the text. Readers
look past blanks at the next character and take what they have seen. A step may be repeated as long
as it takes something from the text. A refusal names a place: the end of what has been taken, or one
byte further if it is the next character that does not fit.
-/

namespace CloudReach.Json

def bytes (s : List Char) : List UInt8 :=
  s.flatMap String.utf8EncodeChar

/-- Why and where reading stops: what is left of the text, and how many bytes of that have been
looked at. -/
structure Failure where
  fault : Fault
  rest : List Char
  seen : Nat

/-- A fault and its place in a text. Lines are counted from one and columns in bytes. -/
structure Refusal where
  fault : Fault
  line : Nat
  column : Nat

def Refusal.message (r : Refusal) : String :=
  s!"{r.fault.message} at line {r.line} column {r.column}"

def Failure.within (f : Failure) (text : String) : Refusal :=
  let all := bytes text.toList
  let read := all.take (all.length - (bytes f.rest).length + f.seen)
  let lineFeed := '\n'.toUInt8
  { fault := f.fault, line := read.count lineFeed + 1
    column := (read.reverse.takeWhile (· != lineFeed)).length }

abbrev Reader := StateT (List Char) (Except Failure)

def isBlank (c : Char) : Bool :=
  c == ' ' || c == '\n' || c == '\t' || c == '\r'

namespace Reader

variable {α σ : Type}

def refuse (f : Fault) : Reader α := fun s => .error ⟨f, s, 0⟩

def refuseNext (f : Fault) : Reader α := fun s => .error ⟨f, s, 1⟩

def next? : Reader (Option Char) := fun s => .ok (s.head?, s)

/-- The next character that is not blank; the blanks are taken. -/
def peek : Reader (Option Char) := fun s =>
  let rest := s.dropWhile isBlank
  .ok (rest.head?, rest)

def advance : Reader Unit := fun s => .ok ((), s.drop 1)

/-- Refuses what has been taken of a list or an object, with its last character if that is next. -/
def refuseUpTo (close : Char) (f : Fault) : Reader α := do
  if (← peek) = some close then advance
  refuse f

def word : List Char → Reader Unit
  | [] => return ()
  | c :: rest => do
    match ← next? with
    | none => refuse .endOfValue
    | some d => if c = d then do advance; word rest else refuseNext .expectedWord

/-- Repeats a step until it says that it was the last. A step that takes nothing is the last. -/
def loop (step : σ → Reader (Bool × σ)) (s : σ) : Reader σ := fun text =>
  match step s text with
  | .error f => .error f
  | .ok ((done, s), rest) =>
    if _h : done = false ∧ rest.length < text.length then loop step s rest else .ok (s, rest)
termination_by text => text.length
decreasing_by omega

/-- Reads a whole text; nothing but blanks may follow the value. -/
def run (r : Reader α) (text : String) : Except Refusal α :=
  match whole text.toList with
  | .error f => .error (f.within text)
  | .ok (a, _) => .ok a
where
  /-- The value and the blanks after it. -/
  whole : Reader α := do
    let a ← r
    match ← peek with
    | none => return a
    | some _ => refuseNext .trailing

end Reader

end CloudReach.Json
