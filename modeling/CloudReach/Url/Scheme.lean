import CloudReach.Url.Basic
import CloudReach.Text.Blank

/-!
# Schemes and escapes

The kinds of scheme that reading a URL tells apart, their default ports, and the sets of
characters that each part of a URL escapes.
-/

namespace CloudReach.Url

/-- A local file, one of the other schemes that always have a host, or any scheme besides. -/
inductive SchemeKind
  | file
  | special
  | plain
deriving DecidableEq

def schemeKind (scheme : String) : SchemeKind :=
  if scheme = "file" then .file
  else if scheme ∈ ["http", "https", "ws", "wss", "ftp"] then .special
  else .plain

/-- Whether backslashes separate segments and a host is required or assumed. -/
def SchemeKind.isSpecial : SchemeKind → Bool
  | plain => false
  | _ => true

def defaultPort (scheme : String) : Option Nat :=
  if scheme ∈ ["http", "ws"] then some 80
  else if scheme ∈ ["https", "wss"] then some 443
  else if scheme = "ftp" then some 21
  else none

def controlSet (c : Char) : Bool :=
  c.toNat < 0x20 || c.toNat == 0x7F

def fragmentSet (c : Char) : Bool :=
  controlSet c || c ∈ [' ', '"', '<', '>', '\x60']

def pathSet (c : Char) : Bool :=
  fragmentSet c || c ∈ ['#', '?', '\x7b', '\x7d']

def userinfoSet (c : Char) : Bool :=
  pathSet c || c ∈ ['/', ':', ';', '=', '@', '[', '\\', ']', '^', '|']

def segmentSet (kind : SchemeKind) (c : Char) : Bool :=
  pathSet c || c == '/' || c == '%' || (kind.isSpecial && c == '\\')

def querySet (kind : SchemeKind) (c : Char) : Bool :=
  controlSet c || c ∈ [' ', '"', '#', '<', '>'] || (kind.isSpecial && c == '\'')

def isIgnored (c : Char) : Bool :=
  c == '\t' || c == '\n' || c == '\r'

def clean (s : List Char) : List Char :=
  (Text.trimWhile (fun c => c.toNat ≤ 0x20) s).filter (fun c => !isIgnored c)

end CloudReach.Url
