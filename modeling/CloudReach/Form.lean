import CloudReach.Percent
import CloudReach.Text.Blank
import CloudReach.Text.Utf8

/-!
# Form encoding

Lists of name and value pairs as `application/x-www-form-urlencoded` text: letters, digits and
`*-._` stand for themselves, a space is written as a plus sign, and every other byte is escaped.
Decoding reads any text: bytes that are no UTF-8 are read as replacement characters.
-/

namespace CloudReach.Form

def isPlain (c : Char) : Bool :=
  c.isAlphanum || c == '*' || c == '-' || c == '.' || c == '_'

def encodeChar (c : Char) : List Char :=
  if c == ' ' then ['+'] else Percent.encodeChar (fun d => !isPlain d) c

def encodeText (s : String) : List Char :=
  s.toList.flatMap encodeChar

def encodePair (pair : String × String) : List Char :=
  encodeText pair.1 ++ '=' :: encodeText pair.2

def append (start : List Char) (pairs : List (String × String)) : List Char :=
  pairs.foldl (fun acc pair => (if acc.isEmpty then acc else acc ++ ['&']) ++ encodePair pair) start

def encode (pairs : List (String × String)) : List Char :=
  append [] pairs

def plusToSpace (c : Char) : Char :=
  if c == '+' then ' ' else c

def decodeText (s : List Char) : String :=
  String.ofList (Text.ofUtf8 (Percent.decode (s.map plusToSpace)))

def decodePair (s : List Char) : String × String :=
  (decodeText (s.takeWhile (· != '=')), decodeText ((s.dropWhile (· != '=')).drop 1))

/-- The pairs of a form; empty pieces between ampersands are passed over. -/
def decode (s : List Char) : List (String × String) :=
  ((Text.splitOn (· == '&') s).filter (fun piece => !piece.isEmpty)).map decodePair

end CloudReach.Form
