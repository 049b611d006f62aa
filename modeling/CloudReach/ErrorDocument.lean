import CloudReach.Error

/-!
# Error documents

What a failed response says of itself in XML. Each field is the trimmed text of its first
well-formed element, wherever that stands; what surrounds it does not matter, and text that is no
document has no fields.
-/

namespace CloudReach.ErrorDocument

def afterTag? (tags : List (List Char)) (s : List Char) : Option (List Char) :=
  (tags.find? (·.isPrefixOf s)).map fun tag => s.drop tag.length

def elementHere? (opening closing : List (List Char)) (s : List Char) : Option (List Char) := do
  let rest ← afterTag? opening s
  let inner := rest.takeWhile (· != '<')
  let _ ← afterTag? closing (rest.drop inner.length)
  return inner

def element? (opening closing : List (List Char)) : List Char → Option (List Char)
  | [] => none
  | c :: rest => (elementHere? opening closing (c :: rest)).or (element? opening closing rest)

/-- The trimmed text of the first element with one of several names, unless it is blank. -/
def field? (names : List String) (body : String) : Option String := do
  let opening := names.map fun n => '<' :: n.toList ++ ['>']
  let closing := names.map fun n => '<' :: '/' :: n.toList ++ ['>']
  let inner ← element? opening closing body.toList
  let value := Text.trim inner
  if value.isEmpty then none else some (String.ofList value)

def parse (body : String) : ErrorBody :=
  { code := field? ["Code"] body
    message := field? ["Message"] body
    requestId := field? ["RequestId", "RequestID"] body
    endpoint := field? ["Endpoint"] body }

end CloudReach.ErrorDocument
