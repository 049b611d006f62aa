import CloudReach.Json.Skip

/-!
# Records

A record is read from an object, its fields in any order, or from a list, its fields in theirs.
What has been read so far is a record of gaps that are filled one after the other. A field may be
given once; what is missing at the end is an error unless the record has something to put there.
-/

namespace CloudReach.Json

/-- A field: whether its gap in `σ` is filled, and how its value is read into it. -/
structure Field (σ : Type) where
  name : String
  isFilled : σ → Bool
  read : Reader (σ → σ)

/-- How a record is read: its fields, whether there may be others, the gaps at the start, and the
record at the end or the name of the first field that is missing. -/
structure Record (σ α : Type) where
  name : String
  fields : List (Field σ)
  strict : Bool
  start : σ
  finish : σ → Except String α

namespace Record

variable {σ α : Type}

def names (r : Record σ α) : List String :=
  r.fields.map Field.name

open Reader

def member (r : Record σ α) (key : String) (s : σ) : Reader σ :=
  match r.fields.find? (·.name == key) with
  | none =>
    if r.strict then refuseUpTo '\x7d' (.unknownField key r.names)
    else do
      colon
      skip
      return s
  | some field =>
    if field.isFilled s then refuseUpTo '\x7d' (.duplicateField key)
    else do
      colon
      let fill ← field.read
      return fill s

def objectStep (r : Record σ α) (s : Bool × σ) : Reader (Bool × Bool × σ) := do
  match ← peek with
  | none => refuse .endOfObject
  | some '\x7d' => return (true, s)
  | some c =>
    if s.1 then
      if c = '"' then keyed else refuseNext .keyNotText
    else if c = ',' then do
      advance
      match ← peek with
      | some '"' => keyed
      | some '\x7d' => refuseNext .trailingComma
      | some _ => refuseNext .keyNotText
      | none => refuse .endOfValue
    else refuseNext .expectedObjectEnd
where
  /-- Reads the member whose key comes next. -/
  keyed : Reader (Bool × Bool × σ) := do
    advance
    let key ← chars
    return (false, false, ← r.member key s.2)

def ofObject (r : Record σ α) : Reader α := do
  let (_, s) ← loop r.objectStep (true, r.start)
  match r.finish s with
  | .error name => refuseUpTo '\x7d' (.missingField name)
  | .ok a => do advance; return a

def element (field : Field σ) (first : Bool) (s : σ) : Reader (Option σ) := do
  match ← peek with
  | none => refuse .endOfList
  | some ']' => return none
  | some c =>
    if first then do
      let fill ← field.read
      return some (fill s)
    else if c = ',' then do
      advance
      match ← peek with
      | some ']' => refuseNext .trailingComma
      | none => refuse .endOfValue
      | some _ =>
        let fill ← field.read
        return some (fill s)
    else refuseNext .expectedListEnd

def elements (first : Bool) (s : σ) : List (Field σ) → Reader σ
  | [] => return s
  | field :: rest => do
    match ← element field first s with
    | none => return s
    | some s => elements false s rest

def endOfElements : Reader Unit := do
  match ← peek with
  | some ']' => advance
  | some ',' =>
    advance
    match ← peek with
    | some ']' => refuseNext .trailingComma
    | _ => refuseNext .trailing
  | some _ => refuseNext .trailing
  | none => refuse .endOfList

def ofList (r : Record σ α) : Reader α := do
  let s ← elements true r.start r.fields
  match r.finish s with
  | .error name =>
    refuseUpTo ']' (.wrongLength (r.names.idxOf name) r.name r.fields.length)
  | .ok a => do endOfElements; return a

def read (r : Record σ α) : Reader α := do
  match ← peek with
  | some '[' => do advance; r.ofList
  | some '\x7b' => do advance; r.ofObject
  | c => refuseKind s!"struct {r.name}" c

end Record

namespace Reader

/-- The value that goes by a name, given as a string or as an object with null under that name. -/
def choice {α : Type} (choices : List (String × α)) : Reader α := do
  match ← peek with
  | some '"' => named "a string"
  | some '\x7b' => do
    advance
    let a ← named "variant identifier"
    colon
    null "unit"
    match ← peek with
    | some '\x7d' => do advance; return a
    | some _ => refuse .expectedValue
    | none => refuse .endOfObject
  | some _ => refuseNext .expectedValue
  | none => refuse .endOfValue
where
  /-- The value whose name comes next. -/
  named (expected : String) : Reader α := do
    let name ← textAs expected
    match choices.lookup name with
    | some a => return a
    | none => refuse (.unknownVariant name (choices.map Prod.fst))

end Reader

end CloudReach.Json
