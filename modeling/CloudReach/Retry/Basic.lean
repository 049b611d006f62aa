import CloudReach.Command
import CloudReach.ErrorDocument

/-!
# What to do with failed responses

An interpreter turns a failed response into an error. A retry handler decides before that whether
the command is sent again, possibly changed, and after what delay; it may draw on the state of the
world.
-/

namespace CloudReach

inductive Decision
  | retry (delay : Duration)
  | giveUp
deriving DecidableEq

def Decision.isRetry : Decision → Bool
  | retry _ => true
  | giveUp => false

abbrev Interpreter := Command → Response → ProviderError

abbrev RetryHandler (σ : Type) := Command → Response → σ → (Decision × Command) × σ

abbrev ErrorReader := String → ErrorBody

/-- The interpreter of all categories. A 401 is a lack of authority, a 404 a missing resource
unless only its head was asked for. -/
def interpretWith (reader : ErrorReader) : Interpreter := fun command response =>
  match Category.ofStatus response.status with
  | none => .unreadable s!"status {response.status} is not a failure"
  | some category =>
    let body := reader response.body
    let r : ErrorResponse :=
      { category, status := response.status, code := body.code, message := body.message
        requestId := body.requestId }
    if response.status = 401 then .unauthorized r
    else if response.status = 404 ∧ command.request.method ≠ "HEAD" then .notFound r
    else .response r

def interpret : Interpreter :=
  interpretWith ErrorDocument.parse

def defaultRetryLimit : Nat := 5

end CloudReach
