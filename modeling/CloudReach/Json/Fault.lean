import CloudReach.Text.Digits
import CloudReach.Text.Quoted

/-!
# Faults of JSON text

Why a text is not the JSON form of what it is read as: it breaks off, it is not JSON, or it is the
form of something else.
-/

namespace CloudReach.Json

inductive Found
  | null
  | bool (b : Bool)
  | integer (i : Int)
  | floating (digits : String)
  | text (s : String)
  | list
  | object
deriving DecidableEq

def Found.describe : Found → String
  | null => "null"
  | bool b => s!"boolean \x60{b}\x60"
  | integer i => s!"integer \x60{String.ofList (Text.signed i)}\x60"
  | floating digits => s!"floating point \x60{digits}\x60"
  | text s => s!"string {Text.quote s}"
  | list => "sequence"
  | object => "map"

inductive Fault
  | endOfValue
  | endOfText
  | endOfList
  | endOfObject
  | expectedValue
  | expectedWord
  | expectedColon
  | expectedListEnd
  | expectedObjectEnd
  | keyNotText
  | trailingComma
  | trailing
  | badEscape
  | controlCharacter
  | loneSurrogate
  | missingSurrogate
  | badNumber
  | numberTooLarge
  | wrongKind (found : Found) (expected : String)
  | outOfRange (i : Int) (expected : String)
  | wrongLength (length : Nat) (record : String) (fields : Nat)
  | unknownField (name : String) (fields : List String)
  | unknownVariant (name : String) (variants : List String)
  | duplicateField (name : String)
  | missingField (name : String)
deriving DecidableEq

def shown (name : String) : String :=
  s!"\x60{name}\x60"

def oneOf : List String → String
  | [a] => shown a
  | [a, b] => s!"{shown a} or {shown b}"
  | names => "one of " ++ ", ".intercalate (names.map shown)

def Fault.message : Fault → String
  | endOfValue => "EOF while parsing a value"
  | endOfText => "EOF while parsing a string"
  | endOfList => "EOF while parsing a list"
  | endOfObject => "EOF while parsing an object"
  | expectedValue => "expected value"
  | expectedWord => "expected ident"
  | expectedColon => "expected " ++ shown ":"
  | expectedListEnd => "expected " ++ oneOf [",", "]"]
  | expectedObjectEnd => "expected " ++ oneOf [",", "\x7d"]
  | keyNotText => "key must be a string"
  | trailingComma => "trailing comma"
  | trailing => "trailing characters"
  | badEscape => "invalid escape"
  | controlCharacter => "control character (\\u0000-\\u001F) found while parsing a string"
  | loneSurrogate => "lone leading surrogate in hex escape"
  | missingSurrogate => "unexpected end of hex escape"
  | badNumber => "invalid number"
  | numberTooLarge => "number out of range"
  | wrongKind found expected => s!"invalid type: {found.describe}, expected {expected}"
  | outOfRange i expected =>
    s!"invalid value: {(Found.integer i).describe}, expected {expected}"
  | wrongLength length record fields =>
    s!"invalid length {length}, expected struct {record} with {fields} elements"
  | unknownField name fields => s!"unknown field {shown name}, expected {oneOf fields}"
  | unknownVariant name variants => s!"unknown variant {shown name}, expected {oneOf variants}"
  | duplicateField name => s!"duplicate field {shown name}"
  | missingField name => s!"missing field {shown name}"

end CloudReach.Json
