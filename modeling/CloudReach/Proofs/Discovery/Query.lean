import CloudReach.Proofs.Discovery.Sequence
import CloudReach.Proofs.ResponsePolicy.Course

/-!
# Discovery over a transport

Query operations send requests through the response policy. What they leave in the trace belongs to
the policy, never to discovery.
-/

namespace CloudReach

variable {σ : Type}

namespace ResponsePolicy

theorem Round.foreign_effects (n : Nat) (r : Round) : ∀ e ∈ r.effects n, e.Foreign := by
  unfold Round.effects
  split <;> simp [Effect.Foreign, Effect.ofListing]

theorem foreign_course (n : Nat) (rounds : List Round) : ∀ e ∈ course n rounds, e.Foreign := by
  induction rounds generalizing n with
  | nil => exact fun _ h => nomatch h
  | cons r rest ih =>
    rw [course, List.forall_mem_append]
    exact ⟨r.foreign_effects n, ih (n + 1)⟩

theorem Ending.foreign_effects (ending : Ending) : ∀ e ∈ ending.effects, e.Foreign := by
  cases ending <;>
    simp [Ending.effects, Ending.requests, Ending.events, Effect.Foreign, Effect.ofListing]

theorem call_only_foreign (p : ResponsePolicy σ) (bound : Nat) (t : Transport σ)
    (request : Request) : ((p.layer bound t.service).call request).Only Effect.Foreign := by
  intro s
  obtain ⟨rounds, c, s₁, ending, -, -, ht⟩ :=
    resend_course p t (Nat.add_comm 1 bound) (.ofRequest request) s
  change ∀ e ∈ ((p.resend t.service bound 1 (.ofRequest request)).run s).1, e.Foreign
  rw [ht, List.forall_mem_append]
  exact ⟨foreign_course 1 rounds, ending.foreign_effects⟩

end ResponsePolicy

namespace Discovery

theorem sendOperation_only_foreign (p : ResponsePolicy σ) (bound : Nat) (t : Transport σ)
    (action : String) (endpoint : Url) :
    (sendOperation (p.layer bound t.service) action endpoint).Only Effect.Foreign := by
  rw [sendOperation]
  cases operationRequest action endpoint with
  | error e => exact .pure _
  | ok request =>
    refine .bind (.bind (.step t.ready) fun r => ?_) fun r => ?_
    · cases r with
      | error e => exact .pure _
      | ok _ => exact p.call_only_foreign bound t request
    · cases r <;> exact .pure _

/-- Query operations over a transport leave nothing in the trace that belongs to discovery. -/
theorem discreet_queryApi (p : ResponsePolicy σ) (bound : Nat) (t : Transport σ) (endpoint : Url)
    (reader : BodyReader) : (queryApi (p.layer bound t.service) endpoint reader).Discreet where
  regions := by
    refine .bind (.onFirst (sendOperation_only_foreign p bound t _ _)) fun r => ?_
    cases r with
    | error e => exact .pure _
    | ok body =>
      dsimp only
      cases reader.regions body with
      | error e => exact .pure _
      | ok map => exact .bind (.step _) fun _ => .pure _
  zones region := by
    refine .bind (.step _) fun listing => ?_
    cases listing.get? region with
    | none => exact .pure _
    | some regional =>
      refine .bind (.onFirst (sendOperation_only_foreign p bound t _ _)) fun r => ?_
      cases r <;> exact .pure _

end Discovery

end CloudReach
