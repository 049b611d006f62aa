import CloudReach.Percent
import CloudReach.Text.Digits

/-!
# URLs

A URL by its parts, and its text. A path is a list of segments, or one flat piece of text in a URL
such as `mailto:a@b` on which nothing can be resolved. All parts are held in their written,
percent-encoded form; hosts that are numbers are held as numbers.
-/

namespace CloudReach

structure Ipv6 where
  groups : List UInt16
  length_eq : groups.length = 8
deriving DecidableEq

inductive Host
  | name (text : String)
  | v4 (address : UInt32)
  | v6 (address : Ipv6)
deriving DecidableEq

namespace Ipv6

def groupText (g : UInt16) : List Char :=
  Nat.toDigits 16 g.toNat

def groupsText (gs : List UInt16) : List Char :=
  [':'].intercalate (gs.map groupText)

def zeros (gs : List UInt16) : Nat :=
  (gs.takeWhile (· == 0)).length

def longestZeros (gs : List UInt16) : Nat × Nat :=
  (List.range gs.length).foldl
    (fun best i => if best.2 < zeros (gs.drop i) then (i, zeros (gs.drop i)) else best) (0, 0)

/-- The address with its first longest run of at least two zero groups left out. -/
def text (a : Ipv6) : List Char :=
  let (start, count) := longestZeros a.groups
  if 2 ≤ count then
    groupsText (a.groups.take start) ++ [':', ':'] ++ groupsText (a.groups.drop (start + count))
  else groupsText a.groups

end Ipv6

namespace Host

def dotted (address : UInt32) : List Char :=
  let n := address.toNat
  ['.'].intercalate
    ([n / 0x1000000, n / 0x10000 % 256, n / 0x100 % 256, n % 256].map Text.digits)

def text : Host → List Char
  | name s => s.toList
  | v4 a => dotted a
  | v6 a => '[' :: a.text ++ [']']

end Host

/-- What stands between the scheme and the path. The host may be missing from schemes that do not
require one; an empty password is not written. -/
structure Url.Authority where
  username : String
  password : String
  host : Option Host
  port : Option Nat
deriving DecidableEq

inductive Url.Path
  | rooted (segments : List String)
  | flat (text : String)
deriving DecidableEq

structure Url where
  scheme : String
  authority : Option Url.Authority
  path : Url.Path
  query : Option String
  fragment : Option String
deriving DecidableEq

namespace Url

inductive Error
  | emptyHost
  | invalidDomainName
  | invalidPort
  | invalidIpv4
  | invalidIpv6
  | invalidDomainCharacter
  | relativeWithoutBase
  | relativeWithFlatBase
deriving DecidableEq

def Error.message : Error → String
  | emptyHost => "empty host"
  | invalidDomainName => "invalid international domain name"
  | invalidPort => "invalid port number"
  | invalidIpv4 => "invalid IPv4 address"
  | invalidIpv6 => "invalid IPv6 address"
  | invalidDomainCharacter => "invalid domain character"
  | relativeWithoutBase => "relative URL without a base"
  | relativeWithFlatBase => "relative URL with a cannot-be-a-base base"

def Authority.userinfo (a : Authority) : List Char :=
  if a.username.isEmpty && a.password.isEmpty then []
  else
    a.username.toList ++ (if a.password.isEmpty then [] else ':' :: a.password.toList) ++ ['@']

def Authority.text (a : Authority) : List Char :=
  a.userinfo ++ (a.host.map Host.text).getD [] ++
    (a.port.map fun p => ':' :: Text.digits p).getD []

def Path.text : Path → List Char
  | rooted segments => segments.flatMap fun s => '/' :: s.toList
  | flat t => t.toList

/-- A path that starts with two slashes would read as an authority where there is none, so a dot
is put in front of it. -/
def pathChars (u : Url) : List Char :=
  match u.authority, u.path with
  | none, .rooted ("" :: _ :: _) => '/' :: '.' :: u.path.text
  | _, _ => u.path.text

def chars (u : Url) : List Char :=
  u.scheme.toList ++ ':' ::
    ((u.authority.map fun a => '/' :: '/' :: a.text).getD [] ++ u.pathChars ++
      (u.query.map fun q => '?' :: q.toList).getD [] ++
      (u.fragment.map fun f => '#' :: f.toList).getD [])

def text (u : Url) : String :=
  String.ofList u.chars

def host? (u : Url) : Option Host :=
  u.authority.bind Authority.host

def isFlat (u : Url) : Bool :=
  match u.path with
  | .flat _ => true
  | .rooted _ => false

end Url

end CloudReach
