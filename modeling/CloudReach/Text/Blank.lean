/-!
# Blank text

The characters with the Unicode property `White_Space`, and text trimmed of them at both ends.
An identifier is blank when trimming leaves nothing of it.
-/

namespace CloudReach.Text

/-- The code points with the property `White_Space`. -/
def isSpace (c : Char) : Bool :=
  let n := c.toNat
  (9 ≤ n && n ≤ 13) || n == 0x20 || n == 0x85 || n == 0xA0 || n == 0x1680 ||
    (0x2000 ≤ n && n ≤ 0x200A) || n == 0x2028 || n == 0x2029 || n == 0x202F || n == 0x205F ||
    n == 0x3000

def dropEndWhile {α : Type} (p : α → Bool) (l : List α) : List α :=
  (l.reverse.dropWhile p).reverse

def trimWhile {α : Type} (p : α → Bool) (l : List α) : List α :=
  dropEndWhile p (l.dropWhile p)

def trim (s : List Char) : List Char :=
  trimWhile isSpace s

def isBlank (s : String) : Bool :=
  s.toList.all isSpace

def splitOn {α : Type} (p : α → Bool) : List α → List (List α)
  | [] => [[]]
  | a :: l =>
    if p a then [] :: splitOn p l
    else
      match splitOn p l with
      | [] => [[a]]
      | first :: rest => (a :: first) :: rest

def words (s : List Char) : List (List Char) :=
  (splitOn isSpace s).filter (fun w => !w.isEmpty)

end CloudReach.Text
