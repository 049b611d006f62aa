import CloudReach.Json.Scalar

/-!
# Values passed over

A value of any kind that nobody asks for. Lists and objects may be nested to any depth: what is
open is kept as a stack of frames.
-/

namespace CloudReach.Json.Reader

inductive Frame
  | list
  | object

def skipKey : Reader Unit := do
  match ← peek with
  | some '"' => do advance; skipChars; colon
  | some _ => refuseNext .keyNotText
  | none => refuse .endOfObject

/-- After a value: closes what ends here, up to a comma. It is the last step if nothing stays
open. -/
def closeFrames : List Frame → Reader (Bool × List Frame)
  | [] => return (true, [])
  | .list :: outer => do
    match ← peek with
    | some ',' => do advance; return (false, .list :: outer)
    | some ']' => do advance; closeFrames outer
    | some _ => refuseNext .expectedListEnd
    | none => refuse .endOfList
  | .object :: outer => do
    match ← peek with
    | some ',' => do advance; skipKey; return (false, .object :: outer)
    | some '\x7d' => do advance; closeFrames outer
    | some _ => refuseNext .expectedObjectEnd
    | none => refuse .endOfObject

def skipScalar : Option Char → Reader Unit
  | none => refuse .endOfValue
  | some 'n' => do advance; word ['u', 'l', 'l']
  | some 't' => do advance; word ['r', 'u', 'e']
  | some 'f' => do advance; word ['a', 'l', 's', 'e']
  | some '-' => do advance; skipNumber
  | some '"' => do advance; skipChars
  | some c => if (Text.digit? c).isSome then skipNumber else refuseNext .expectedValue

def skipStep (frames : List Frame) : Reader (Bool × List Frame) := do
  match ← peek with
  | some '[' =>
    advance
    match ← peek with
    | some ']' => do advance; closeFrames frames
    | some _ => return (false, .list :: frames)
    | none => refuse .endOfList
  | some '\x7b' =>
    advance
    match ← peek with
    | some '\x7d' => do advance; closeFrames frames
    | some _ => do skipKey; return (false, .object :: frames)
    | none => refuse .endOfObject
  | c => do skipScalar c; closeFrames frames

def skip : Reader Unit := do
  let _ ← loop skipStep []

end CloudReach.Json.Reader
