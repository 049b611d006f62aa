import CloudReach.Percent
import CloudReach.Text.Blank
import CloudReach.Url.Domain.Direction
import CloudReach.Url.Domain.Label
import CloudReach.Url.Domain.Mapping
import CloudReach.Url.Punycode

/-!
# Domain names

The ASCII form of a domain name. A name in ASCII is written in lower case. Any other is mapped,
composed and cut into labels, and a label beyond ASCII is encoded behind `xn--`. A label that comes
encoded has to be the encoding of such a label.
-/

namespace CloudReach.Url

def isForbiddenInDomain (c : Char) : Bool :=
  c.toNat ≤ 0x20 || c.toNat == 0x7F ||
    c ∈ ['#', '/', ':', '<', '>', '?', '@', '[', '\\', ']', '^', '|', '%']

namespace Domain

def mark : List Char := ['x', 'n', '-', '-']

def isEncoded (label : List Nat) : Bool :=
  (mark.map Char.toNat).isPrefixOf label

def isAscii (s : List Nat) : Bool :=
  s.all (· < 0x80)

def longestEncoded : Nat := 2000

def longestDecoded : Nat := 1000

def isNormal (label : List Nat) : Bool :=
  (label.all fun n => map? n = some [n]) && Text.canonical label == label

/-- The label that a label of a mapped name stands for, and its ASCII form. -/
def readLabel (label : List Nat) : Option (List Nat × List Char) :=
  if isEncoded label then
    if isAscii label ∧ label.length ≤ longestEncoded + mark.length then do
      let ascii := label.map Char.ofNat
      let decoded ← Punycode.decode (ascii.drop mark.length)
      if !isAscii decoded && isNormal decoded && isValidLabel decoded then some (decoded, ascii)
      else none
    else none
  else if isAscii label then some (label, label.map Char.ofNat)
  else if label.length ≤ longestDecoded ∧ isValidLabel label then
    some (label, mark ++ Punycode.encode label)
  else none

def toAscii (s : List Char) : Option (List Char) := do
  let mapped ← s.mapM fun c => map? c.toNat
  let labels ← (Text.splitOn (· == '.'.toNat) (Text.canonical mapped.flatten)).mapM readLabel
  if directionsAgree (labels.map Prod.fst) then
    some (['.'].intercalate (labels.map Prod.snd))
  else none

end Domain

/-- The ASCII form of a domain name that is given by its bytes. A name in ASCII without encoded
labels needs no tables. -/
def domainToAscii (bytes : List UInt8) : Option (List Char) := do
  let s ← Percent.text? bytes
  let lower := s.toList.map Char.toLower
  let plain := lower.all (·.toNat < 0x80) &&
    (Text.splitOn (· == '.') lower).all fun label => !Domain.mark.isPrefixOf label
  let ascii ← if plain then some lower else Domain.toAscii s.toList
  if ascii.any isForbiddenInDomain then none else some ascii

end CloudReach.Url
