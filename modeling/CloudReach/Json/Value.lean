import CloudReach.Json.Text
import CloudReach.Text.Digits

/-!
# JSON values

The values that are written: strings, natural numbers and objects, without blanks between their
parts. An object writes its members in their order.
-/

namespace CloudReach.Json

inductive Value
  | text (s : String)
  | number (n : Nat)
  | object (members : List (String × Value))

namespace Value

mutual

def chars : Value → List Char
  | text s => writeText s
  | number n => Text.digits n
  | object members => '\x7b' :: memberChars members ++ ['\x7d']

def memberChars : List (String × Value) → List Char
  | [] => []
  | [(key, value)] => writeText key ++ ':' :: chars value
  | (key, value) :: rest => writeText key ++ ':' :: chars value ++ ',' :: memberChars rest

end

def toText (v : Value) : String :=
  String.ofList v.chars

end Value

end CloudReach.Json
