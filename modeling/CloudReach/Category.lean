/-!
# Failed responses

The three kinds of failed response, by status. A 304 is no failure.
-/

namespace CloudReach

inductive Category
  | redirection
  | clientError
  | serverError
deriving DecidableEq

namespace Category

def ofStatus (status : Nat) : Option Category :=
  if status = 304 then none
  else if 300 ≤ status ∧ status ≤ 399 then some redirection
  else if 400 ≤ status ∧ status ≤ 499 then some clientError
  else if 500 ≤ status ∧ status ≤ 599 then some serverError
  else none

def text : Category → String
  | redirection => "redirection"
  | clientError => "client error"
  | serverError => "server error"

def key : Category → String
  | redirection => "redirection"
  | clientError => "client_error"
  | serverError => "server_error"

end Category

end CloudReach
