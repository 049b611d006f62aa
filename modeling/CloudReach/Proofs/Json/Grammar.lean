import CloudReach.Json.Value
import CloudReach.Json.Reader
import Mathlib.Data.List.Forall2

/-!
# The grammar of JSON

Which texts spell strings, numbers, lists, objects and values, said without a reader: blanks may
stand between the parts, characters may be escaped, and members may come in any order. `IsValue`
are the texts of all values. What the library writes is spelled in this sense.
-/

namespace CloudReach.Json

def Blank (s : List Char) : Prop :=
  ∀ c ∈ s, isBlank c = true

/-! ### Strings -/

def SpellsUnit (unit : Nat) (w : List Char) : Prop :=
  ∃ a b c d x y z t, w = [a, b, c, d] ∧ Text.hexDigit? a = some x ∧ Text.hexDigit? b = some y ∧
    Text.hexDigit? c = some z ∧ Text.hexDigit? d = some t ∧
    unit = ((x * 16 + y) * 16 + z) * 16 + t

/-- A character of a string: as it is, or escaped by a letter, one unit or two. -/
inductive SpellsChar (c : Char) : List Char → Prop
  | plain : c ≠ '"' → c ≠ '\\' → ¬ c < ' ' → SpellsChar c [c]
  | letter {l : Char} : (c, l) ∈ ('/', '/') :: shortEscapes → SpellsChar c ['\\', l]
  | unit {w : List Char} : SpellsUnit c.toNat w → SpellsChar c ('\\' :: 'u' :: w)
  | pair {high low : Nat} {v w : List Char} : 0xD800 ≤ high → high ≤ 0xDBFF → 0xDC00 ≤ low →
      low ≤ 0xDFFF → SpellsUnit high v → SpellsUnit low w →
      c.toNat = 0x10000 + (high - 0xD800) * 0x400 + (low - 0xDC00) →
      SpellsChar c ('\\' :: 'u' :: v ++ '\\' :: 'u' :: w)

inductive SpellsChars : List Char → List Char → Prop
  | nil : SpellsChars [] []
  | cons {c : Char} {s w rest : List Char} :
      SpellsChar c w → SpellsChars s rest → SpellsChars (c :: s) (w ++ rest)

def SpellsText (s : String) (w : List Char) : Prop :=
  ∃ body, SpellsChars s.toList body ∧ w = '"' :: (body ++ ['"'])

/-! ### Numbers -/

def isDigit (c : Char) : Bool :=
  (Text.digit? c).isSome

def Digits (ds : List Char) : Prop :=
  ds ≠ [] ∧ ∀ c ∈ ds, isDigit c = true

def IsFraction (w : List Char) : Prop :=
  w = [] ∨ ∃ ds, Digits ds ∧ w = '.' :: ds

def IsExponent (w : List Char) : Prop :=
  w = [] ∨ ∃ e sign ds, (e = 'e' ∨ e = 'E') ∧ (sign = [] ∨ sign = ['+'] ∨ sign = ['-']) ∧
    Digits ds ∧ w = e :: (sign ++ ds)

def IsMagnitude (w : List Char) : Prop :=
  ∃ whole fraction exponent, Digits whole ∧ (whole.head? = some '0' → whole = ['0']) ∧
    IsFraction fraction ∧ IsExponent exponent ∧ w = whole ++ (fraction ++ exponent)

/-! ### Lists, objects and values -/

inductive Separated : List (List Char) → List Char → Prop
  | one {b v b' : List Char} : Blank b → Blank b' → Separated [v] (b ++ (v ++ b'))
  | more {b v b' w : List Char} {vs : List (List Char)} :
      Blank b → Blank b' → Separated vs w → Separated (v :: vs) (b ++ (v ++ (b' ++ ',' :: w)))

def SpellsParts (parts : List (List Char)) (w : List Char) : Prop :=
  parts = [] ∧ Blank w ∨ Separated parts w

def SpellsList (items : List (List Char)) (w : List Char) : Prop :=
  ∃ body, SpellsParts items body ∧ w = '[' :: (body ++ [']'])

def SpellsMember (m : String × List Char) (w : List Char) : Prop :=
  ∃ k b b', SpellsText m.1 k ∧ Blank b ∧ Blank b' ∧ w = k ++ (b ++ ':' :: (b' ++ m.2))

def SpellsObject (members : List (String × List Char)) (w : List Char) : Prop :=
  ∃ parts body, List.Forall₂ SpellsMember members parts ∧ SpellsParts parts body ∧
    w = '\x7b' :: (body ++ ['\x7d'])

/-- An object in which these parts are given, once each and in this order. -/
def SpellsGiven {δ : Type} (key : δ → String) (spells : δ → List Char → Prop) (given : List δ)
    (w : List Char) : Prop :=
  (given.map key).Nodup ∧ ∃ members,
    List.Forall₂ (fun x m => m.1 = key x ∧ spells x m.2) given members ∧ SpellsObject members w

/-- Members of which one has a key that is not in the list, or two have the same key. -/
def Misnamed (names : List String) (members : List (String × List Char)) : Prop :=
  (∃ m ∈ members, m.1 ∉ names) ∨ ¬ (members.map Prod.fst).Nodup

def Surrounds (text : String) (w : List Char) : Prop :=
  ∃ b b', Blank b ∧ Blank b' ∧ text.toList = b ++ (w ++ b')

def words : List (List Char) :=
  [['n', 'u', 'l', 'l'], ['t', 'r', 'u', 'e'], ['f', 'a', 'l', 's', 'e']]

inductive IsValue : List Char → Prop
  | word {w : List Char} : w ∈ words → IsValue w
  | magnitude {w : List Char} : IsMagnitude w → IsValue w
  | negative {w : List Char} : IsMagnitude w → IsValue ('-' :: w)
  | text {s : String} {w : List Char} : SpellsText s w → IsValue w
  | list {items : List (List Char)} {w : List Char} :
      SpellsList items w → (∀ v ∈ items, IsValue v) → IsValue w
  | object {members : List (String × List Char)} {w : List Char} :
      SpellsObject members w → (∀ m ∈ members, IsValue m.2) → IsValue w

end CloudReach.Json
