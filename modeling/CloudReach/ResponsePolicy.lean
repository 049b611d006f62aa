import CloudReach.Retry.ClientError
import CloudReach.Retry.Redirect
import CloudReach.Service

/-!
# Response policies

For each category of failed response an interpreter and, for some, a retry handler. A policy lays
itself around a service: a failed response goes to the handler of its category, which may have the
command sent again, and what is not sent again is interpreted. Responses without a category and
failures of the service pass unchanged.
-/

namespace CloudReach

variable {σ : Type}

structure HandlerPair (σ : Type) where
  interpret : Interpreter
  retry : Option (RetryHandler σ)

structure ResponsePolicy (σ : Type) where
  redirection : HandlerPair σ
  clientError : HandlerPair σ
  serverError : HandlerPair σ

namespace ResponsePolicy

def handlers (p : ResponsePolicy σ) : Category → HandlerPair σ
  | .redirection => p.redirection
  | .clientError => p.clientError
  | .serverError => p.serverError

def withHandlers (p : ResponsePolicy σ) (category : Category) (pair : HandlerPair σ) :
    ResponsePolicy σ :=
  match category with
  | .redirection => { p with redirection := pair }
  | .clientError => { p with clientError := pair }
  | .serverError => { p with serverError := pair }

def interpretOnly (interpreter : Interpreter) : ResponsePolicy σ :=
  let pair := { interpret := interpreter, retry := none }
  { redirection := pair, clientError := pair, serverError := pair }

/-- The policy of providers: redirects are followed, refused requests are sent again, and failures
of the server are interpreted. -/
def standard (draw : Draw σ) : ResponsePolicy σ :=
  { redirection :=
      { interpret := interpret
        retry := some (Redirect.handler defaultRetryLimit ErrorDocument.parse) }
    clientError :=
      { interpret := interpret
        retry := some (ClientError.handler .standard ErrorDocument.parse draw) }
    serverError := { interpret := interpret, retry := none } }

def surface (pair : HandlerPair σ) (category : Category) (command : Command)
    (response : Response) : Act σ (Except ProviderError Response) := do
  Act.emit (.interpreted category response.status)
  return .error (pair.interpret command response)

/-- Sends a command until it is answered or given up, from an attempt on. Before each attempt but
the first the service has to be ready. The bound counts the attempts that are left. -/
def resend (p : ResponsePolicy σ) (inner : Service σ) :
    Nat → Nat → Command → Act σ (Except ProviderError Response)
  | 0, _, _ => Act.cutOff
  | bound + 1, attempt, command => do
    let ready ← if 1 < attempt then inner.ready else pure (.ok ())
    match ready with
    | .error e => return .error e
    | .ok () =>
      match ← inner.call command.request with
      | .error e => return .error e
      | .ok response =>
        match Category.ofStatus response.status with
        | none => return .ok response
        | some category =>
          let pair := p.handlers category
          match pair.retry with
          | none => surface pair category command response
          | some handler =>
            let (decision, command) ← Act.step (handler command response)
            match decision with
            | .retry delay =>
              Act.emit (.retryScheduled category response.status attempt delay)
              if delay.isZero then pure () else Act.sleep delay
              resend p inner bound (attempt + 1) command
            | .giveUp =>
              Act.emit (.gaveUp category response.status)
              surface pair category command response

def layer (p : ResponsePolicy σ) (bound : Nat) (inner : Service σ) : Service σ where
  ready := inner.ready
  call request := resend p inner bound 1 (.ofRequest request)

end ResponsePolicy

end CloudReach
