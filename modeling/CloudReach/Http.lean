import CloudReach.Target

/-!
# Requests and responses

Headers keep the order in which they were added; a name may occur more than once and is held in
lower case.
-/

namespace CloudReach

structure Headers where
  fields : List (String × String)
deriving DecidableEq

namespace Headers

def empty : Headers := ⟨[]⟩

def nameOf (name : String) : String :=
  String.ofList (Target.lower name)

def ofList (fields : List (String × String)) : Headers :=
  ⟨fields.map fun f => (nameOf f.1, f.2)⟩

def isValue (value : String) : Bool :=
  value.toList.all fun c => c == '\t' || 0x20 ≤ c.toNat && c.toNat ≠ 0x7F

def contains (h : Headers) (name : String) : Bool :=
  h.fields.any (·.1 == name)

def values (h : Headers) (name : String) : List String :=
  (h.fields.filter (·.1 == name)).map Prod.snd

def get? (h : Headers) (name : String) : Option String :=
  (h.values name).head?

def add (h : Headers) (name value : String) : Headers :=
  ⟨h.fields ++ [(name, value)]⟩

/-- Makes a value the only one of its name: the first field of the name keeps its place, the
others go. -/
def setFields (name value : String) : List (String × String) → List (String × String)
  | [] => [(name, value)]
  | f :: rest =>
    if f.1 = name then (name, value) :: rest.filter (fun g => g.1 ≠ name)
    else f :: setFields name value rest

def set (h : Headers) (name value : String) : Headers :=
  ⟨setFields name value h.fields⟩

end Headers

inductive Version
  | http09
  | http10
  | http11
  | http2
  | http3
deriving DecidableEq

structure Request where
  method : String
  target : Target
  version : Version
  headers : Headers
  body : String
deriving DecidableEq

structure Response where
  status : Nat
  headers : Headers
  body : String
deriving DecidableEq

end CloudReach
