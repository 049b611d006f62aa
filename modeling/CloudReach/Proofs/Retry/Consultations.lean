import CloudReach.Proofs.Backoff
import CloudReach.Proofs.Retry

/-!
# Handlers asked about one command

A handler for client errors, with redirect handlers in between, is asked about one response to a
command after the other. Only refusals that may help to be sent again count, and the waits that are
granted are the first ones of the schedule, in order.
-/

namespace CloudReach.ClientError

/-- A refusal that may help to be sent again: of too many requests, or with the code of a failure
that passes. -/
def Retryable (reader : ErrorReader) (r : Response) : Prop :=
  r.status = 429 ∨
    (r.status = 400 ∨ r.status = 403 ∨ r.status = 409) ∧
      ∃ code ∈ ["RequestTimeout", "OperationAborted", "Throttling", "RequestLimitExceeded"],
        (reader r.body).code = some code

theorem isRetryable_iff {reader : ErrorReader} {r : Response} :
    isRetryable reader r = true ↔ Retryable reader r := by
  unfold isRetryable Retryable
  by_cases h429 : r.status = 429
  · rw [if_pos h429]
    exact iff_of_true rfl (.inl h429)
  · have hcode : ((reader r.body).code.map retryableCodes.contains).getD false = true ↔
        ∃ code ∈ retryableCodes, (reader r.body).code = some code := by
      cases (reader r.body).code <;> simp
    rw [if_neg h429, or_iff_right h429]
    by_cases hstatus : r.status ∈ [400, 403, 409]
    · rw [if_pos hstatus, hcode, and_iff_right (by simpa using hstatus)]
      rfl
    · rw [if_neg hstatus]
      exact iff_of_false nofun fun h => hstatus (by simpa using h.1)

instance (reader : ErrorReader) (r : Response) : Decidable (Retryable reader r) :=
  decidable_of_iff (isRetryable reader r = true) isRetryable_iff

inductive Consultation
  | refusal (r : Response)
  | redirect (limit : Nat) (reader : ErrorReader) (r : Response)

def Consultation.Counts (reader : ErrorReader) : Consultation → Prop
  | refusal r => Retryable reader r
  | redirect _ _ _ => False

instance (reader : ErrorReader) : DecidablePred (Consultation.Counts reader)
  | .refusal r => inferInstanceAs (Decidable (Retryable reader r))
  | .redirect _ _ _ => inferInstanceAs (Decidable False)

section Run

variable {σ : Type} (policy : Policy) (reader : ErrorReader) (draw : Draw σ)

def Consultation.decide : Consultation → Command → σ → (Decision × Command) × σ
  | refusal r, c, s => handler policy reader draw c r s
  | redirect limit reader' r, c, s => Redirect.handler limit reader' c r s

def decisions : Command → σ → List Consultation → List Decision
  | _, _, [] => []
  | c, s, k :: rest =>
    let ((decision, c), s) := k.decide policy reader draw c s
    decision :: decisions c s rest

end Run

def granted : List Consultation → List Decision → List Duration
  | .refusal _ :: ks, .retry d :: ds => d :: granted ks ds
  | _ :: ks, _ :: ds => granted ks ds
  | _, _ => []

variable {σ : Type} {limit : Nat} {backoff : Backoff} {reader : ErrorReader} {draw : Draw σ}

/-- The schedule of a handler that leaves nothing to chance. -/
def Policy.withoutJitter (limit : Nat) (backoff : Backoff) : Policy :=
  { limit, backoff, jitter := .none }

def decisionAt (limit : Nat) (backoff : Backoff) (n : Nat) : Decision :=
  if n ≤ limit then .retry (backoff.delay n) else .giveUp

theorem handler_withoutJitter (c : Command) (r : Response) (s : σ) :
    handler (.withoutJitter limit backoff) reader draw c r s =
      if Retryable reader r then ((decisionAt limit backoff (c.failures + 1), c.addFailure), s)
      else ((.giveUp, c), s) := by
  unfold handler decisionAt
  by_cases hr : Retryable reader r
  · rw [if_pos (isRetryable_iff.mpr hr), if_pos hr]
    dsimp only
    by_cases hlimit : c.failures + 1 ≤ limit
    · have hwithin : ¬ (Policy.withoutJitter limit backoff).limit < c.addFailure.failures :=
        Nat.not_lt_of_le hlimit
      rw [if_neg hwithin, if_pos hlimit]
      rfl
    · have hover : (Policy.withoutJitter limit backoff).limit < c.addFailure.failures :=
        Nat.lt_of_not_le hlimit
      rw [if_pos hover, if_neg hlimit]
  · rw [if_neg (mt isRetryable_iff.mp hr), if_neg hr]

/-- A redirect is no failure, however it ends. -/
theorem failures_redirect (limit : Nat) (reader : ErrorReader) (c : Command) (r : Response) :
    (Redirect.decide limit reader c r).2.failures = c.failures := by
  have hdecide : Redirect.decide limit reader c r =
      ((Redirect.decide limit reader c r).1, (Redirect.decide limit reader c r).2) := rfl
  rcases Redirect.decide_cases hdecide with
    ⟨-, hmoved⟩ | ⟨target, -, ⟨-, hmoved⟩ | ⟨-, -, hmoved | ⟨-, hmoved⟩⟩⟩
  all_goals
    rw [hmoved]
    rfl

/-! ### One consultation -/

variable {rest : List Consultation} {c : Command} {r : Response} {s : σ}

theorem decisions_of_retryable (hr : Retryable reader r) :
    decisions (.withoutJitter limit backoff) reader draw c s (.refusal r :: rest) =
      decisionAt limit backoff (c.failures + 1) ::
        decisions (.withoutJitter limit backoff) reader draw c.addFailure s rest := by
  rw [decisions, Consultation.decide, handler_withoutJitter, if_pos hr]

theorem decisions_of_not_retryable (hr : ¬ Retryable reader r) :
    decisions (.withoutJitter limit backoff) reader draw c s (.refusal r :: rest) =
      .giveUp :: decisions (.withoutJitter limit backoff) reader draw c s rest := by
  rw [decisions, Consultation.decide, handler_withoutJitter, if_neg hr]

theorem decisions_of_redirect (policy : Policy) (reader : ErrorReader) (draw : Draw σ) (c : Command)
    (s : σ) (limit : Nat) (reader' : ErrorReader) (r : Response) (rest : List Consultation) :
    ∃ decision c', c'.failures = c.failures ∧
      decisions policy reader draw c s (.redirect limit reader' r :: rest) =
        decision :: decisions policy reader draw c' s rest :=
  ⟨_, _, failures_redirect limit reader' c r, rfl⟩

theorem countP_of_retryable (hr : Retryable reader r) :
    (Consultation.refusal r :: rest).countP (·.Counts reader) =
      rest.countP (·.Counts reader) + 1 :=
  List.countP_cons_of_pos (decide_eq_true hr)

theorem countP_of_not_retryable (hr : ¬ Retryable reader r) :
    (Consultation.refusal r :: rest).countP (·.Counts reader) = rest.countP (·.Counts reader) :=
  List.countP_cons_of_neg fun h => hr (of_decide_eq_true h)

theorem countP_of_redirect (limit' : Nat) (reader' : ErrorReader) :
    (Consultation.redirect limit' reader' r :: rest).countP (·.Counts reader) =
      rest.countP (·.Counts reader) :=
  List.countP_cons_of_neg fun h => (of_decide_eq_true h : False)

/-! ### Runs -/

/-- A refusal is decided by how many have counted with it, and not by what came in between. -/
theorem decisions_getElem? {ks : List Consultation} {i : Nat} {r : Response}
    (hk : ks[i]? = some (.refusal r)) :
    (decisions (.withoutJitter limit backoff) reader draw c s ks)[i]? =
      some (if Retryable reader r then
        decisionAt limit backoff (c.failures + (ks.take (i + 1)).countP (·.Counts reader))
      else .giveUp) := by
  induction ks generalizing c s i with
  | nil => cases hk
  | cons k rest ih =>
    cases i with
    | zero =>
      cases hk
      rw [List.take_succ_cons, List.take_zero]
      by_cases hr : Retryable reader r
      · rw [decisions_of_retryable hr, if_pos hr, countP_of_retryable hr]
        rfl
      · rw [decisions_of_not_retryable hr, if_neg hr]
        rfl
    | succ i =>
      rw [List.take_succ_cons]
      cases k with
      | redirect limit' reader' r' =>
        obtain ⟨decision, c', hfailures, hrun⟩ :=
          decisions_of_redirect (.withoutJitter limit backoff) reader draw c s limit' reader' r' rest
        rw [hrun, List.getElem?_cons_succ, ih hk, hfailures, countP_of_redirect]
      | refusal r' =>
        by_cases hr' : Retryable reader r'
        · have hcount : c.addFailure.failures + (rest.take (i + 1)).countP (·.Counts reader) =
              c.failures + ((rest.take (i + 1)).countP (·.Counts reader) + 1) :=
            Nat.add_right_comm ..
          rw [decisions_of_retryable hr', List.getElem?_cons_succ, ih hk, countP_of_retryable hr',
            hcount]
        · rw [decisions_of_not_retryable hr', List.getElem?_cons_succ, ih hk,
            countP_of_not_retryable hr']

theorem granted_giveUp (k : Consultation) (ks : List Consultation) (ds : List Decision) :
    granted (k :: ks) (.giveUp :: ds) = granted ks ds := by
  cases k <;> rfl

theorem granted_redirect (limit : Nat) (reader : ErrorReader) (r : Response)
    (ks : List Consultation) (d : Decision) (ds : List Decision) :
    granted (.redirect limit reader r :: ks) (d :: ds) = granted ks ds := by
  cases d <;> rfl

/-- The waits that are granted are the first ones of the schedule. -/
theorem granted_decisions (ks : List Consultation) (c : Command) (s : σ) :
    granted ks (decisions (.withoutJitter limit backoff) reader draw c s ks) =
      (List.range' (c.failures + 1)
        (min (limit - c.failures) (ks.countP (·.Counts reader)))).map backoff.delay := by
  induction ks generalizing c s with
  | nil =>
    rw [List.countP_nil, Nat.min_zero]
    rfl
  | cons k rest ih =>
    cases k with
    | redirect limit' reader' r =>
      obtain ⟨decision, c', hfailures, hrun⟩ :=
        decisions_of_redirect (.withoutJitter limit backoff) reader draw c s limit' reader' r rest
      rw [hrun, granted_redirect, ih, hfailures, countP_of_redirect]
    | refusal r =>
      by_cases hr : Retryable reader r
      · have hadd : c.addFailure.failures = c.failures + 1 := rfl
        rw [decisions_of_retryable hr, countP_of_retryable hr, decisionAt]
        by_cases hlimit : c.failures + 1 ≤ limit
        · have hmin : min (limit - c.failures) (rest.countP (·.Counts reader) + 1) =
              min (limit - (c.failures + 1)) (rest.countP (·.Counts reader)) + 1 := by omega
          rw [if_pos hlimit, granted, ih, hadd, hmin, List.range'_succ, List.map_cons]
        · -- Past the limit nothing is granted any more, however many refusals follow.
          have hnone : limit - c.failures = 0 := by omega
          have hnone' : limit - (c.failures + 1) = 0 := by omega
          rw [if_neg hlimit, granted_giveUp, ih, hadd, hnone, hnone', Nat.zero_min, Nat.zero_min]
          rfl
      · rw [decisions_of_not_retryable hr, granted_giveUp, ih, countP_of_not_retryable hr]

/-- On a command that is new, the refusal that is the `j`-th to count is sent again after the `j`-th
wait of the schedule, up to the limit; every other one is given up. So the waits that are granted are
the first ones of the schedule, none is shorter than one before it, and on an exponential schedule
none is longer than an hour. -/
theorem waits_by_counted_refusals (limit : Nat) (backoff : Backoff) (reader : ErrorReader)
    (draw : Draw σ) (request : Request) (s : σ) (ks : List Consultation) :
    let run := decisions (.withoutJitter limit backoff) reader draw (.ofRequest request) s ks
    (∀ (i : Nat) (r : Response), ks[i]? = some (.refusal r) →
      let j := (ks.take (i + 1)).countP (·.Counts reader)
      run[i]? = some (if Retryable reader r ∧ j ≤ limit then .retry (backoff.delay j) else .giveUp)) ∧
    granted ks run = (List.range' 1 (min limit (ks.countP (·.Counts reader)))).map backoff.delay ∧
    (granted ks run).Pairwise (· ≤ ·) ∧
    ∀ base cap, backoff = .exponential base cap → ∀ d ∈ granted ks run, d ≤ Backoff.longest := by
  intro run
  have hgranted : granted ks run =
      (List.range' 1 (min limit (ks.countP (·.Counts reader)))).map backoff.delay :=
    granted_decisions ks (.ofRequest request) s
  refine ⟨fun i r hk => ?_, hgranted, ?_, ?_⟩
  · intro j
    have hdecision : run[i]? = some (if Retryable reader r then
        decisionAt limit backoff ((Command.ofRequest request).failures + j) else .giveUp) :=
      decisions_getElem? hk
    have hnew : (Command.ofRequest request).failures + j = j := Nat.zero_add j
    rw [hdecision, hnew]
    by_cases hr : Retryable reader r
    · rw [if_pos hr, decisionAt]
      simp only [hr, true_and]
    · rw [if_neg hr, if_neg fun h => hr h.1]
  · rw [hgranted, List.pairwise_map]
    exact (List.pairwise_lt_range' 1).imp fun h => backoff.delay_mono (Nat.le_of_lt h)
  · rintro base cap rfl d hd
    rw [hgranted] at hd
    obtain ⟨j, -, rfl⟩ := List.mem_map.mp hd
    exact Backoff.delay_le_longest base cap j

end CloudReach.ClientError
