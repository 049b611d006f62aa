import CloudReach.Url.Domain
import CloudReach.Url.Number
import CloudReach.Url.Path

/-!
# Reading URLs

From text to a URL, alone or resolved on a base. What follows the scheme is read as an authority
and a path, as a reference to be resolved, or as a flat path; a query and a fragment may follow
each of them. Text that is no URL is refused with the reason.
-/

namespace CloudReach.Url

def splitScheme? (s : List Char) : Option (String × List Char) :=
  let isSchemeChar (c : Char) := c.isAlphanum || c == '+' || c == '-' || c == '.'
  match s with
  | [] => none
  | c :: _ =>
    if c.isAlpha then
      match s.dropWhile isSchemeChar with
      | ':' :: rest => some (String.ofList ((s.takeWhile isSchemeChar).map Char.toLower), rest)
      | _ => none
    else none

def endsPath (c : Char) : Bool :=
  c == '?' || c == '#'

def endsAuthority (kind : SchemeKind) (c : Char) : Bool :=
  c == '/' || endsPath c || (kind.isSpecial && c == '\\')

def readFragment : List Char → Option String
  | '#' :: rest => some (String.ofList (Percent.encode fragmentSet rest))
  | _ => none

def readTail (kind : SchemeKind) (s : List Char) : Option String × Option String :=
  match s with
  | '?' :: rest =>
    (some (String.ofList (Percent.encode (querySet kind) (rest.takeWhile (· != '#')))),
      readFragment (rest.dropWhile (· != '#')))
  | s => (none, readFragment s)

/-- User name and password, and what follows the last sign of them before the host. A sign with
nothing before it must be followed by a host. -/
def readUserinfo (kind : SchemeKind) (s : List Char) :
    Except Error (String × String × List Char) :=
  let front := s.takeWhile (fun c => !endsAuthority kind c)
  if front.contains '@' then
    let info := ((front.reverse.dropWhile (· != '@')).drop 1).reverse
    let rest := s.drop (info.length + 1)
    if info.isEmpty then
      match rest with
      | c :: _ => if endsAuthority kind c then .error .emptyHost else .ok ("", "", rest)
      | [] => .ok ("", "", rest)
    else
      let encode (part : List Char) := String.ofList (Percent.encode userinfoSet part)
      .ok (encode (info.takeWhile (· != ':')), encode ((info.dropWhile (· != ':')).drop 1), rest)
  else .ok ("", "", s)

/-- The text of a host, up to a port or the end of the authority; a colon between brackets belongs
to the host. -/
def splitHost (kind : SchemeKind) : Bool → List Char → List Char × List Char
  | _, [] => ([], [])
  | inBrackets, c :: rest =>
    if (c == ':' && !inBrackets) || endsAuthority kind c then ([], c :: rest)
    else
      let (host, after) := splitHost kind (c == '[' || (inBrackets && c != ']')) rest
      (c :: host, after)

def readBracketed (s : List Char) : Except Error Host :=
  if s.getLast? = some ']' then (parseIpv6 ((s.drop 1).dropLast)).map Host.v6
  else .error .invalidIpv6

def readDomainHost (s : List Char) : Except Error Host :=
  if s.head? = some '[' then readBracketed s
  else
    match domainToAscii (Percent.decode s) with
    | none => .error .invalidDomainName
    | some [] => .error .emptyHost
    | some name =>
      if endsInNumber name then (parseIpv4 name).map Host.v4
      else .ok (Host.name (String.ofList name))

def readPlainHost (s : List Char) : Except Error (Option Host) :=
  if s.head? = some '[' then (readBracketed s).map some
  else if s.any (fun c => c ∈ ['\x00', '\t', '\n', '\r', ' ', '#', '/', ':', '<', '>', '?', '@',
      '[', '\\', ']', '^', '|']) then .error .invalidDomainCharacter
  else if s.isEmpty then .ok none
  else .ok (some (Host.name (String.ofList (Percent.encode controlSet s))))

/-- The host of a special or plain scheme; only a special one must not be empty. -/
def readHost (kind : SchemeKind) (s : List Char) : Except Error (Option Host) :=
  match kind with
  | .plain => readPlainHost s
  | _ => if s.isEmpty then .error .emptyHost else (readDomainHost s).map some

/-- A port in decimal, none if it is empty or the default, and what follows it. -/
def readPort (scheme : String) (s : List Char) : Except Error (Option Nat × List Char) :=
  let digits := s.takeWhile (fun c => '0' ≤ c && c ≤ '9')
  let rest := s.dropWhile (fun c => '0' ≤ c && c ≤ '9')
  let port := Text.ofDigits digits
  if 65535 < port then .error .invalidPort
  else
    match rest with
    | c :: _ =>
      if endsAuthority .special c then
        .ok (if digits.isEmpty || defaultPort scheme = some port then none else some port, rest)
      else .error .invalidPort
    | [] => .ok (if digits.isEmpty || defaultPort scheme = some port then none else some port, [])

/-- The authority after two slashes, and what follows it. A URL that names a user or a port has a
host. -/
def readAuthority (scheme : String) (kind : SchemeKind) (s : List Char) :
    Except Error (Authority × List Char) := do
  let (username, password, s) ← readUserinfo kind s
  let (hostText, s) := splitHost kind false s
  let host ← readHost kind hostText
  if host.isNone && s.head? == some ':' then .error .emptyHost
  else do
    let (port, s) ← match s with
      | ':' :: rest => readPort scheme rest
      | s => pure (none, s)
    if host.isNone && !(username.isEmpty && password.isEmpty) then .error .emptyHost
    else .ok ({ username, password, host, port }, s)

def readAfterSlashes (scheme : String) (kind : SchemeKind) (s : List Char) : Except Error Url := do
  let (authority, s) ← readAuthority scheme kind s
  let path := startPath kind (s.takeWhile (fun c => !endsPath c))
  let (query, fragment) := readTail kind (s.dropWhile (fun c => !endsPath c))
  .ok { scheme, authority := some authority, path := .rooted path, query, fragment }

def readPlain (scheme : String) (s : List Char) : Except Error Url :=
  match s with
  | '/' :: '/' :: rest => readAfterSlashes scheme .plain rest
  | _ =>
    let pathText := s.takeWhile (fun c => !endsPath c)
    let tail := readTail .plain (s.dropWhile (fun c => !endsPath c))
    let path := match pathText with
      | '/' :: rest => Path.rooted (resolvePath .plain [] rest)
      | _ => Path.flat (String.ofList (Percent.encode controlSet pathText))
    .ok { scheme, authority := none, path, query := tail.1, fragment := tail.2 }

def Path.segments : Path → List String
  | rooted segments => segments
  | flat _ => []

/-- The segments on which a relative path is resolved: all but the last. In a file path a drive
letter stays. -/
def baseSegments (kind : SchemeKind) (base : Url) : List String :=
  let segments := base.path.segments
  match kind, segments.getLast? with
  | .file, some last =>
    if isDriveLetter last.toList && last.toList.getLast? == some ':' then segments
    else segments.dropLast
  | _, _ => segments.dropLast

def withPath (kind : SchemeKind) (base : Url) (done : List String) (s : List Char) : Url :=
  let (query, fragment) := readTail kind (s.dropWhile (fun c => !endsPath c))
  { base with
    path := .rooted (resolvePath kind done (s.takeWhile (fun c => !endsPath c)))
    query, fragment }

def withoutPath (kind : SchemeKind) (base : Url) (s : List Char) : Url :=
  match s with
  | '?' :: _ =>
    let (query, fragment) := readTail kind s
    { base with query, fragment }
  | s => { base with fragment := readFragment s }

def readRelative (kind : SchemeKind) (base : Url) (s : List Char) : Except Error Url :=
  let isAnySlash (c : Char) := c == '/' || c == '\\'
  match s with
  | '/' :: '/' :: rest => readAfterSlashes base.scheme kind rest
  | c :: rest =>
    if isAnySlash c then
      match rest with
      | d :: _ =>
        if isAnySlash d then readAfterSlashes base.scheme kind (s.dropWhile isAnySlash)
        else .ok (withPath kind base [] rest)
      | [] => .ok (withPath kind base [] rest)
    else if endsPath c then .ok (withoutPath kind base s)
    else .ok (withPath kind base (baseSegments kind base) s)
  | [] => .ok (withoutPath kind base s)

def localFile (segments : List String) (s : List Char) : Url :=
  let (query, fragment) := readTail .file (s.dropWhile (fun c => !endsPath c))
  { scheme := "file"
    authority := some { username := "", password := "", host := none, port := none }
    path := .rooted (resolvePath .file segments (s.takeWhile (fun c => !endsPath c)))
    query, fragment }

def startsWithDrive : List Char → Bool
  | a :: b :: rest =>
    isDriveLetter [a, b] &&
      match rest with
      | [] => true
      | c :: _ => c == '/' || c == '\\' || endsPath c
  | _ => false

def readFileHost (s : List Char) : Except Error (Option Host) :=
  if s.isEmpty then .ok none
  else (readDomainHost s).map fun h => if h = .name "localhost" then none else some h

def dropSlash : List Char → List Char
  | c :: rest => if isSlash .file c then rest else c :: rest
  | [] => []

/-- The rest of a file URL after two slashes. A path that starts with a drive letter is local. -/
def readFileAuthority (s : List Char) : Except Error Url := do
  let hostText := s.takeWhile (fun c => !endsAuthority .file c)
  if isDriveLetter hostText then .ok (localFile [] s)
  else do
    let rest := s.drop hostText.length
    match ← readFileHost hostText with
    | none => .ok (localFile [] (dropSlash rest))
    | some host =>
      let pathText := rest.takeWhile (fun c => !endsPath c)
      let raw := resolveSegments .file [] (splitPath .file (dropSlash pathText))
      let isLocal := (raw.head?.map fun s => isDriveLetter s.toList).getD false
      let url := localFile [] rest
      .ok { url with
        authority := some
          { username := "", password := "", host := if isLocal then none else some host,
            port := none }
        path := .rooted (withoutLeadingSlashes .file raw) }

def readFile (base : Option Url) (s : List Char) : Except Error Url :=
  let isAnySlash (c : Char) := c == '/' || c == '\\'
  match s with
  | c :: rest =>
    if isAnySlash c then
      match rest with
      | d :: after =>
        if isAnySlash d then readFileAuthority after else .ok (oneSlash rest)
      | [] => .ok (oneSlash rest)
    else
      match base with
      | none => .ok (localFile [] s)
      | some base =>
        if endsPath c then .ok (withoutPath .file base s)
        else if startsWithDrive s then .ok (localFile [] s)
        else .ok (withPath .file base (baseSegments .file base) s)
  | [] =>
    match base with
    | none => .ok (localFile [] s)
    | some base => .ok (withoutPath .file base s)
where
  /-- One slash: the path starts over, on the drive or the host of the base. -/
  oneSlash (rest : List Char) : Url :=
    match base with
    | none => localFile [] rest
    | some base =>
      if startsWithDrive rest then localFile [] rest
      else
        match base.path.segments with
        | first :: _ =>
          if isDriveLetter first.toList && first.toList.getLast? == some ':' then
            localFile [first] rest
          else withPath .file base [] rest
        | [] => withPath .file base [] rest

def read (base : Option Url) (s : List Char) : Except Error Url :=
  match splitScheme? s with
  | some (scheme, rest) =>
    match schemeKind scheme with
    | .file => readFile (base.filter (·.scheme == "file")) rest
    | .special =>
      let isAnySlash (c : Char) := c == '/' || c == '\\'
      match base with
      | some base =>
        if (rest.takeWhile isAnySlash).length < 2 && base.scheme == scheme then
          readRelative .special base rest
        else readAfterSlashes scheme .special (rest.dropWhile isAnySlash)
      | none => readAfterSlashes scheme .special (rest.dropWhile isAnySlash)
    | .plain => readPlain scheme rest
  | none =>
    match base with
    | none => .error .relativeWithoutBase
    | some base =>
      if s.head? = some '#' then .ok (withoutPath .plain base s)
      else if base.isFlat then .error .relativeWithFlatBase
      else
        match schemeKind base.scheme with
        | .file => readFile (some base) s
        | kind => readRelative kind base s

def parse (text : String) : Except Error Url :=
  read none (clean text.toList)

def join (base : Url) (reference : String) : Except Error Url :=
  read (some base) (clean reference.toList)

end CloudReach.Url
