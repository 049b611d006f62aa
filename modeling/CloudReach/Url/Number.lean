import CloudReach.Url.Basic
import CloudReach.Text.Blank

/-!
# Hosts that are numbers

IPv4 addresses, whose parts may be decimal, octal or hexadecimal and of which the last fills all
bytes that are left, and IPv6 addresses with an IPv4 tail.
-/

namespace CloudReach.Url

def digitBelow? (base : Nat) (c : Char) : Option Nat :=
  (Text.hexDigit? c).filter (· < base)

def numberIn? (base : Nat) (s : List Char) : Option Nat :=
  s.foldlM (fun n c => (digitBelow? base c).map (base * n + ·)) 0

def ipv4Part? : List Char → Option Nat
  | [] => none
  | '0' :: 'x' :: rest => numberIn? 16 rest
  | '0' :: 'X' :: rest => numberIn? 16 rest
  | '0' :: d :: rest => numberIn? 8 (d :: rest)
  | s => numberIn? 10 s

def labels (s : List Char) : List (List Char) :=
  let parts := Text.splitOn (· == '.') s
  if parts.getLast? = some [] then parts.dropLast else parts

def endsInNumber (s : List Char) : Bool :=
  match (labels s).getLast? with
  | some last =>
    (!last.isEmpty && last.all (fun c => '0' ≤ c && c ≤ '9')) || (ipv4Part? last).isSome
  | none => false

def leadingBytes : List Nat → Nat → Nat
  | [], _ => 0
  | n :: rest, place => n * Nat.pow 256 place + leadingBytes rest (place - 1)

def parseIpv4 (s : List Char) : Except Error UInt32 :=
  match (labels s).mapM ipv4Part? with
  | none => .error .invalidIpv4
  | some parts =>
    match parts.getLast? with
    | none => .error .invalidIpv4
    | some last =>
      let front := parts.dropLast
      if 3 < front.length ∨ Nat.pow 256 (4 - front.length) ≤ last ∨ front.any (255 < ·) then
        .error .invalidIpv4
      else .ok (UInt32.ofNat (leadingBytes front 3 + last))

def ipv4Byte? (s : List Char) : Option Nat :=
  match s with
  | [] => none
  | '0' :: _ :: _ => none
  | s => (numberIn? 10 s).filter (· ≤ 255)

def dottedGroups? (s : List Char) : Option (List Nat) := do
  match ← (Text.splitOn (· == '.') s).mapM ipv4Byte? with
  | [a, b, c, d] => some [256 * a + b, 256 * c + d]
  | _ => none

def group? (s : List Char) : Option Nat :=
  if s.isEmpty || 4 < s.length then none else numberIn? 16 s

def groups? : List (List Char) → Option (List Nat)
  | [] => some []
  | [s] => if s.contains '.' then dottedGroups? s else (group? s).map ([·])
  | s :: rest => do
    let g ← group? s
    let gs ← groups? rest
    some (g :: gs)

def splitDoubleColon : List Char → List Char × Option (List Char)
  | ':' :: ':' :: rest => ([], some rest)
  | c :: rest =>
    let (head, tail) := splitDoubleColon rest
    (c :: head, tail)
  | [] => ([], none)

def sideGroups? (s : List Char) : Option (List Nat) :=
  if s.isEmpty then some [] else groups? (Text.splitOn (· == ':') s)

/-- The eight groups of an address, the double colon filled with at least one zero. -/
def ipv6Groups? (s : List Char) : Option (List Nat) :=
  match splitDoubleColon s with
  | (head, none) => sideGroups? head
  | (head, some tail) => do
    let front ← sideGroups? head
    let back ← sideGroups? tail
    if front.length + back.length < 8 ∧ !head.contains '.' then
      some (front ++ List.replicate (8 - (front.length + back.length)) 0 ++ back)
    else none

def parseIpv6 (s : List Char) : Except Error Ipv6 :=
  match ipv6Groups? s with
  | none => .error .invalidIpv6
  | some gs =>
    let groups := gs.map UInt16.ofNat
    if h : groups.length = 8 then .ok ⟨groups, h⟩ else .error .invalidIpv6

end CloudReach.Url
