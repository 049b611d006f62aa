import CloudReach.Text.Digits

/-!
# Percent-encoding

A byte written as a percent sign and two hexadecimal digits. Encoding takes the set of ASCII
characters that may not stand for themselves; characters beyond ASCII never do, and are written as
the bytes of their UTF-8 form. Decoding reads every well-formed escape and leaves all else alone.
-/

namespace CloudReach.Percent

def hexDigit (n : Nat) : Char :=
  if n < 10 then Char.ofNat (0x30 + n) else Char.ofNat (0x41 + (n - 10))

def escape (b : UInt8) : List Char :=
  ['%', hexDigit (b.toNat / 16), hexDigit (b.toNat % 16)]

/-- One character: itself if it is ASCII outside the set, its escaped bytes otherwise. -/
def encodeChar (escaped : Char → Bool) (c : Char) : List Char :=
  if c.toNat < 0x80 && !escaped c then [c] else (String.utf8EncodeChar c).flatMap escape

def encode (escaped : Char → Bool) (s : List Char) : List Char :=
  s.flatMap (encodeChar escaped)

/-- The bytes that a text stands for. A percent sign without two digits stands for itself. -/
def decode : List Char → List UInt8
  | '%' :: a :: b :: rest =>
    match Text.hexDigit? a, Text.hexDigit? b with
    | some x, some y => UInt8.ofNat (16 * x + y) :: decode rest
    | _, _ => 0x25 :: decode (a :: b :: rest)
  | c :: rest => String.utf8EncodeChar c ++ decode rest
  | [] => []

def text? (bytes : List UInt8) : Option String :=
  String.fromUTF8? ⟨bytes.toArray⟩

end CloudReach.Percent
