import CloudReach.Text.Blank

/-!
# Request targets

What a request is addressed to: an absolute target with scheme and authority, a path alone, an
authority alone, or an asterisk. A scheme and an authority are the same in either case of their
letters, a path and a query only as written.
-/

namespace CloudReach

inductive Target.Scheme
  | http
  | https
  | other (name : String)
deriving DecidableEq

structure Target.Authority where
  text : String
deriving DecidableEq

/-- A request target. An empty path is kept apart from a single slash, though both are shown as
one after an authority. -/
structure Target where
  scheme : Option Target.Scheme
  authority : Option Target.Authority
  path : String
  query : Option String
deriving DecidableEq

namespace Target

inductive Error
  | invalidCharacter
  | invalidAuthority
  | invalidFormat
  | tooLong
  | empty
  | schemeTooLong
deriving DecidableEq

def Error.message : Error → String
  | invalidCharacter => "invalid uri character"
  | invalidAuthority => "invalid authority"
  | invalidFormat => "invalid format"
  | tooLong => "uri too long"
  | empty => "empty string"
  | schemeTooLong => "scheme too long"

def Scheme.text : Scheme → String
  | http => "http"
  | https => "https"
  | other name => name

def lower (s : String) : List Char :=
  s.toList.map Char.toLower

def Authority.host (a : Authority) : String :=
  let cs := a.text.toList
  let hostPort := if cs.contains '@' then (cs.reverse.takeWhile (· != '@')).reverse else cs
  if hostPort.head? = some '[' then
    String.ofList (hostPort.takeWhile (· != ']') ++ [']'])
  else String.ofList (hostPort.takeWhile (· != ':'))

/-! ## Authorities -/

/-- Characters that an authority may hold; the percent sign is allowed only in front of the
host. -/
def isAuthorityChar (c : Char) : Bool :=
  c.isAlphanum || c ∈ ['!', '$', '&', '\'', '(', ')', '*', '+', ',', '-', '.', ':', ';', '=', '@',
    '[', ']', '_', '~']

def endsAuthority (c : Char) : Bool :=
  c == '/' || c == '?' || c == '#'

structure Scan where
  colons : Nat
  opened : Bool
  closed : Bool
  percent : Bool
  atEnd : Bool

/-- One more character of an authority. User information ends at an at sign and a bracketed
address at its bracket: colons and percent signs before either are forgotten. -/
def Scan.step (s : Scan) (c : Char) : Except Error Scan :=
  let s := { s with atEnd := c == '@' }
  if c == ':' then
    if 8 ≤ s.colons then .error .invalidAuthority else .ok { s with colons := s.colons + 1 }
  else if c == '[' then
    if s.percent || s.opened then .error .invalidAuthority else .ok { s with opened := true }
  else if c == ']' then
    if !s.opened || s.closed then .error .invalidAuthority
    else .ok { s with closed := true, colons := 0, percent := false }
  else if c == '@' then .ok { s with colons := 0, percent := false }
  else if c == '%' then .ok { s with percent := true }
  else if isAuthorityChar c then .ok s
  else .error .invalidCharacter

/-- Whether the characters make up an authority: brackets are closed, at most one colon stands
before a port, and something follows the user information. -/
def checkAuthority (cs : List Char) : Except Error Unit := do
  let s ← cs.foldlM Scan.step ⟨0, false, false, false, false⟩
  if s.opened != s.closed || 1 < s.colons || s.atEnd || s.percent then .error .invalidAuthority
  else .ok ()

def splitAuthority (cs : List Char) : Except Error (List Char × List Char) := do
  let front := cs.takeWhile (fun c => !endsAuthority c)
  checkAuthority front
  .ok (front, cs.drop front.length)

def Authority.parse (text : String) : Except Error Authority := do
  if text.isEmpty then .error .empty
  else do
    let (_, rest) ← splitAuthority text.toList
    if rest.isEmpty then .ok ⟨text⟩ else .error .invalidCharacter

/-! ## Paths and queries -/

def isPathChar (c : Char) : Bool :=
  let n := c.toNat
  n == 0x21 || n == 0x22 || (0x24 ≤ n && n ≤ 0x3B) || n == 0x3D || (0x40 ≤ n && n ≤ 0x5F) ||
    0x61 ≤ n

def isQueryChar (c : Char) : Bool :=
  let n := c.toNat
  n == 0x21 || (0x24 ≤ n && n ≤ 0x3B) || n == 0x3D || 0x3F ≤ n

/-- The path and query at the end of a target; a fragment is dropped. -/
def readPath (cs : List Char) : Except Error (String × Option String) :=
  let path := cs.takeWhile (fun c => c != '?' && c != '#')
  if path.all isPathChar then
    match cs.drop path.length with
    | '?' :: rest =>
      let query := rest.takeWhile (· != '#')
      if query.all isQueryChar then .ok (String.ofList path, some (String.ofList query))
      else .error .invalidCharacter
    | _ => .ok (String.ofList path, none)
  else .error .invalidCharacter

/-! ## Targets -/

def isSchemeChar (c : Char) : Bool :=
  c.isAlphanum || c == '+' || c == '-' || c == '.' || c == '~'

def splitScheme (cs : List Char) : Except Error (Option (Scheme × List Char)) :=
  let front := cs.takeWhile isSchemeChar
  match cs.drop front.length with
  | ':' :: '/' :: '/' :: rest =>
    let name := String.ofList front
    if lower name = "http".toList then .ok (some (.http, rest))
    else if lower name = "https".toList then .ok (some (.https, rest))
    else if 64 < front.length then .error .schemeTooLong
    else .ok (some (.other name, rest))
  | _ => .ok none

def parse (text : String) : Except Error Target := do
  let cs := text.toList
  if 65534 < text.utf8ByteSize then .error .tooLong
  else
    match cs with
    | [] => .error .empty
    | '/' :: _ =>
      let (path, query) ← readPath cs
      .ok { scheme := none, authority := none, path, query }
    | ['*'] => .ok { scheme := none, authority := none, path := "*", query := none }
    | [_] =>
      let authority ← Authority.parse text
      .ok { scheme := none, authority := some authority, path := "", query := none }
    | _ =>
      match ← splitScheme cs with
      | none =>
        let (_, rest) ← splitAuthority cs
        if rest.isEmpty then
          .ok { scheme := none, authority := some ⟨text⟩, path := "", query := none }
        else .error .invalidFormat
      | some (scheme, afterScheme) =>
        let (authority, rest) ← splitAuthority afterScheme
        if authority.isEmpty then .error .invalidFormat
        else do
          let (path, query) ← readPath rest
          .ok { scheme := some scheme, authority := some ⟨String.ofList authority⟩, path, query }

/-- Whether the target has a path at all; an authority alone has none. -/
def hasPath (t : Target) : Bool :=
  t.scheme.isSome || !t.path.isEmpty || t.query.isSome

/-! ## Parts -/

structure Parts where
  scheme : Option Scheme
  authority : Option Authority
  pathAndQuery : Option (String × Option String)

inductive PartsError
  | schemeMissing
  | authorityMissing
  | pathMissing
deriving DecidableEq

def PartsError.message : PartsError → String
  | schemeMissing => "scheme missing"
  | authorityMissing => "authority missing"
  | pathMissing => "path missing"

def parts (t : Target) : Parts :=
  { scheme := t.scheme
    authority := t.authority
    pathAndQuery := if t.hasPath then some (t.path, t.query) else none }

/-- Puts parts together. A scheme needs an authority and a path after it, and an authority that has
a path needs a scheme before it. -/
def ofParts (p : Parts) : Except PartsError Target :=
  if p.scheme.isSome && p.authority.isNone then .error .authorityMissing
  else if p.scheme.isSome && p.pathAndQuery.isNone then .error .pathMissing
  else if p.scheme.isNone && p.authority.isSome && p.pathAndQuery.isSome then
    .error .schemeMissing
  else
    .ok
      { scheme := p.scheme
        authority := p.authority
        path := (p.pathAndQuery.map Prod.fst).getD ""
        query := p.pathAndQuery.bind Prod.snd }

/-! ## Text -/

def shownPath (t : Target) : String :=
  if t.hasPath then (if t.path.isEmpty then "/" else t.path) else ""

def text (t : Target) : String :=
  (t.scheme.map fun s => s.text ++ "://").getD "" ++ (t.authority.map (·.text)).getD "" ++
    t.shownPath ++ (t.query.map ("?" ++ ·)).getD ""

def host? (t : Target) : Option String :=
  t.authority.map Authority.host

def same (t u : Target) : Bool :=
  t.scheme.map (lower ·.text) == u.scheme.map (lower ·.text) &&
    t.authority.map (lower ·.text) == u.authority.map (lower ·.text) &&
    t.shownPath == u.shownPath && t.query == u.query

end Target

end CloudReach
