import CloudReach.Category
import CloudReach.Json.Record
import CloudReach.Json.Value

/-!
# Kinds of failed responses in JSON

A kind is written as one word.
-/

namespace CloudReach.Category

open Json

def json (c : Category) : Value :=
  .text c.key

def reader : Reader Category :=
  Reader.choice ([redirection, clientError, serverError].map fun c => (c.key, c))

end CloudReach.Category
