import CloudReach.Discovery.Query
import CloudReach.Url.Parse

/-!
# Plain listings

A reader of discovery bodies in plain text: a line for each region, its identifier and its
endpoint with a space between them, and zones as words. A body of zones that starts with an
exclamation mark is refused.
-/

namespace CloudReach.Discovery

/-- The lines of a text. A carriage return before a line's end is no part of it, and what follows
the last end is a line only if it is not empty. -/
def lines (s : List Char) : List (List Char) :=
  let pieces := Text.splitOn (· == '\n') s
  let last := pieces.getLast?.getD []
  let ended := pieces.dropLast.map fun l => if l.getLast? = some '\r' then l.dropLast else l
  if last.isEmpty then ended else ended ++ [last]

def regionLine (line : List Char) : Except ProviderError (Region × Url) :=
  if line.contains ' ' then
    let id := line.takeWhile (· != ' ')
    match Url.parse (String.ofList (line.drop (id.length + 1))) with
    | .error e => .error (.unreadable e.message)
    | .ok url => .ok (⟨String.ofList id⟩, url)
  else .error (.unreadable s!"malformed region line {Text.quote (String.ofList line)}")

def plainReader : BodyReader where
  regions body := do
    let rows ← (lines body.toList).mapM regionLine
    return .ofList rows
  zones region body :=
    if body.toList.head? = some '!' then
      .error (.unreadable s!"bad zones for {region.id}")
    else
      .ok ((Text.words body.toList).map fun w => .available ⟨String.ofList w⟩ region)

end CloudReach.Discovery
