import CloudReach.Url.Scheme

/-!
# Paths

Reading a path segment by segment. A segment of one dot is passed over, one of two dots takes the
segment before it away, and in the last place either leaves an empty segment. A drive letter is
never taken away. Paths of local files start with no empty segment, and with a drive letter that
is written with a colon.
-/

namespace CloudReach.Url

def isSingleDot (s : List Char) : Bool :=
  s ∈ [['.'], ['%', '2', 'e'], ['%', '2', 'E']]

def isDoubleDot (s : List Char) : Bool :=
  s ∈ [['.', '.'], ['%', '2', 'e', '%', '2', 'e'], ['%', '2', 'e', '%', '2', 'E'],
    ['%', '2', 'E', '%', '2', 'e'], ['%', '2', 'E', '%', '2', 'E'], ['%', '2', 'e', '.'],
    ['%', '2', 'E', '.'], ['.', '%', '2', 'e'], ['.', '%', '2', 'E']]

def isDriveLetter : List Char → Bool
  | [a, b] => a.isAlpha && (b == ':' || b == '|')
  | _ => false

def goUp (done : List String) : List String :=
  match done.getLast? with
  | some s => if isDriveLetter s.toList then done else done.dropLast
  | none => []

/-- A segment as it is kept; at the start of a file path a drive letter gets its colon. -/
def keptSegment (kind : SchemeKind) (done : List String) (s : List Char) : String :=
  match kind, done, s with
  | .file, [], [a, b] => if isDriveLetter [a, b] then String.ofList [a, ':'] else String.ofList s
  | _, _, _ => String.ofList s

def resolveSegments (kind : SchemeKind) : List String → List (List Char) → List String
  | done, [] => done
  | done, [s] =>
    if isDoubleDot s then goUp done ++ [""]
    else if isSingleDot s then done ++ [""]
    else done ++ [keptSegment kind done s]
  | done, s :: rest =>
    if isDoubleDot s then resolveSegments kind (goUp done) rest
    else if isSingleDot s then resolveSegments kind done rest
    else resolveSegments kind (done ++ [keptSegment kind done s]) rest

/-- File paths lose the empty segments at their start. -/
def withoutLeadingSlashes (kind : SchemeKind) (segments : List String) : List String :=
  match kind with
  | .file =>
    match segments.dropWhile (· == "") with
    | [] => [""]
    | rest => rest
  | _ => segments

def isSlash (kind : SchemeKind) (c : Char) : Bool :=
  c == '/' || (kind.isSpecial && c == '\\')

def splitPath (kind : SchemeKind) (s : List Char) : List (List Char) :=
  (Text.splitOn (isSlash kind) s).map (Percent.encode pathSet)

def resolvePath (kind : SchemeKind) (done : List String) (s : List Char) : List String :=
  withoutLeadingSlashes kind (resolveSegments kind done (splitPath kind s))

/-- A path that follows an authority. A special scheme always has a path; another has none where
the text ends, and otherwise starts at the first slash, which is added if it is not there. -/
def startPath (kind : SchemeKind) (s : List Char) : List String :=
  match s with
  | [] => if kind.isSpecial then [""] else []
  | c :: rest => if isSlash kind c then resolvePath kind [] rest else resolvePath kind [] s

end CloudReach.Url
