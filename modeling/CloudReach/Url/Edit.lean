import CloudReach.Form
import CloudReach.Url.Parse

/-!
# Changing URLs

Leaving out the query and fragment, adding segments to a path and adding pairs to a query. A
segment to be added may hold any text: slashes and percent signs in it are escaped. One that goes
nowhere or up is left out, and one added to the root takes the place of the root's empty segment.
-/

namespace CloudReach.Url

/-- The URL without query and fragment. Spaces at the end of a flat path do not stay. -/
def withoutQuery (u : Url) : Url :=
  let path := match u.path with
    | .flat t => .flat (String.ofList (Text.dropEndWhile (· == ' ') t.toList))
    | path => path
  { u with path, query := none, fragment := none }

/-- The URL with a root in the place of an empty path; in a flat path it is written as an
escape. -/
def withRoot (u : Url) : Url :=
  match u.path with
  | .rooted [] => { u with path := .rooted [""] }
  | .flat "" => { u with path := .flat "%2F" }
  | _ => u

def dropEmptyEnd (segments : List String) : List String :=
  if 2 ≤ segments.length ∧ segments.getLast? = some "" then segments.dropLast else segments

def addSegment (kind : SchemeKind) (segments : List String) (s : String) : List String :=
  if s = "." ∨ s = ".." then segments
  else
    let done := if segments = [""] then [] else segments
    let raw := Percent.encode (segmentSet kind) (s.toList.filter fun c => !isIgnored c)
    withoutLeadingSlashes kind (resolveSegments kind done [raw])

def addSegments (kind : SchemeKind) (segments added : List String) : List String :=
  added.foldl (addSegment kind) (dropEmptyEnd segments)

def withEndSlash (segments : List String) : List String :=
  if segments.getLast? = some "" then segments else segments ++ [""]

def addQuery (u : Url) (pairs : List (String × String)) : Url :=
  { u with query := some (String.ofList (Form.append ((u.query.map (·.toList)).getD []) pairs)) }

end CloudReach.Url
