import CloudReach.Json.Reader
import CloudReach.Text.Digits

/-!
# JSON strings

Strings between double quotes. Written, the quote, the backslash and the control characters are
escaped; read, every character may be, also as one or two units of sixteen bits in hexadecimal.
-/

namespace CloudReach.Json

def shortEscapes : List (Char × Char) :=
  [('"', '"'), ('\\', '\\'), ('\x08', 'b'), ('\x0c', 'f'), ('\n', 'n'), ('\r', 'r'), ('\t', 't')]

def writeChar (c : Char) : List Char :=
  match shortEscapes.lookup c with
  | some letter => ['\\', letter]
  | none =>
    if c < ' ' then
      ['\\', 'u', '0', '0', Nat.digitChar (c.toNat / 16), Nat.digitChar (c.toNat % 16)]
    else [c]

def writeText (s : String) : List Char :=
  '"' :: s.toList.flatMap writeChar ++ ['"']

/-- A unit of sixteen bits in four hexadecimal digits. A text of fewer than four bytes has
ended. -/
def readUnit (s : List Char) : Except Failure (Nat × List Char) :=
  match s with
  | a :: b :: c :: d :: rest =>
    match Text.hexDigit? a, Text.hexDigit? b, Text.hexDigit? c, Text.hexDigit? d with
    | some a, some b, some c, some d => .ok (((a * 16 + b) * 16 + c) * 16 + d, rest)
    | _, _, _, _ => .error ⟨.badEscape, s, 4⟩
  | s => .error (if (bytes s).length < 4 then ⟨.endOfText, [], 0⟩ else ⟨.badEscape, s, 4⟩)

def readLowUnit : List Char → Except Failure (Nat × List Char)
  | [] => .error ⟨.endOfText, [], 0⟩
  | ['\\'] => .error ⟨.endOfText, [], 0⟩
  | '\\' :: 'u' :: rest => do
    let (low, rest) ← readUnit rest
    if 0xDC00 ≤ low ∧ low ≤ 0xDFFF then .ok (low, rest) else .error ⟨.loneSurrogate, rest, 0⟩
  | '\\' :: rest => .error ⟨.missingSurrogate, rest, 1⟩
  | s => .error ⟨.missingSurrogate, s, 1⟩

def readUnits (s : List Char) : Except Failure (Char × List Char) := do
  let (unit, rest) ← readUnit s
  if 0xDC00 ≤ unit ∧ unit ≤ 0xDFFF then .error ⟨.loneSurrogate, rest, 0⟩
  else if 0xD800 ≤ unit ∧ unit ≤ 0xDBFF then
    let (low, rest) ← readLowUnit rest
    .ok (Char.ofNat (0x10000 + (unit - 0xD800) * 0x400 + (low - 0xDC00)), rest)
  else .ok (Char.ofNat unit, rest)

def readEscape : List Char → Except Failure (Char × List Char)
  | [] => .error ⟨.endOfText, [], 0⟩
  | 'u' :: rest => readUnits rest
  | '/' :: rest => .ok ('/', rest)
  | letter :: rest =>
    match shortEscapes.find? (·.2 == letter) with
    | some (c, _) => .ok (c, rest)
    | none => .error ⟨.badEscape, letter :: rest, 1⟩

def skipEscape : List Char → Except Failure (Char × List Char)
  | 'u' :: rest => (readUnit rest).map fun u => ('u', u.2)
  | s => readEscape s

/-- The characters up to the closing quote, and how many bytes are looked at of a character that
must be escaped. An escape that takes nothing ends the text. -/
def readChars (escape : List Char → Except Failure (Char × List Char)) (seen : Nat) :
    List Char → Except Failure (List Char × List Char)
  | [] => .error ⟨.endOfText, [], 0⟩
  | c :: rest =>
    if c = '"' then .ok ([], rest)
    else if c = '\\' then
      match escape rest with
      | .error f => .error f
      | .ok (d, rest') =>
        if rest'.length < rest.length then
          (readChars escape seen rest').map fun r => (d :: r.1, r.2)
        else .error ⟨.endOfText, [], 0⟩
    else if c < ' ' then .error ⟨.controlCharacter, c :: rest, seen⟩
    else (readChars escape seen rest).map fun r => (c :: r.1, r.2)
termination_by s => s.length

namespace Reader

def chars : Reader String := fun s =>
  (readChars readEscape 1 s).map fun r => (String.ofList r.1, r.2)

def skipChars : Reader Unit := fun s =>
  (readChars skipEscape 0 s).map fun r => ((), r.2)

end Reader

end CloudReach.Json
