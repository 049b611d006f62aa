/-!
# Text from bytes

Bytes read as UTF-8. A start of a character that breaks off is read as one replacement character,
and so is each byte that starts none.
-/

namespace CloudReach.Text

def isContinuation (b : UInt8) : Bool :=
  0x80 ≤ b && b ≤ 0xBF

def canFollow (first second : UInt8) : Bool :=
  isContinuation second && 0xC2 ≤ first && first ≤ 0xF4 && (first != 0xE0 || 0xA0 ≤ second) &&
    (first != 0xED || second ≤ 0x9F) && (first != 0xF0 || 0x90 ≤ second) &&
    (first != 0xF4 || second ≤ 0x8F)

def brokenLength : List UInt8 → Nat
  | first :: second :: rest =>
    if 0xE0 ≤ first && canFollow first second then
      if 0xF0 ≤ first && (rest.head?.map isContinuation).getD false then 3 else 2
    else 1
  | _ => 1

def ofUtf8 (bytes : List UInt8) : List Char :=
  match bytes with
  | [] => []
  | b :: rest =>
    match (b :: rest).toByteArray.utf8DecodeChar? 0 with
    | some c => c :: ofUtf8 (rest.drop (c.utf8Size - 1))
    | none => '\uFFFD' :: ofUtf8 (rest.drop (brokenLength (b :: rest) - 1))
termination_by bytes.length
decreasing_by all_goals simp only [List.length_drop, List.length_cons]; omega

end CloudReach.Text
