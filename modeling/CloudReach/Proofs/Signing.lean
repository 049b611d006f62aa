import CloudReach.Proofs.ResponsePolicy.Frame
import CloudReach.Signing

/-!
# Signed calls

A call under a response policy whose requests are signed on their way out. Every attempt signs a
copy of the command afresh; the handlers see the command and the response, never what was signed.
So a signed call goes the way of a call to a transport that does the signing itself, and what is
sent is what the signer makes of the copies, each with the stamp of its own instant.
-/

namespace CloudReach

variable {σ : Type}

/-! ### Stamps -/

def Text.isPlain (c : Char) : Bool :=
  0x20 ≤ c.toNat && c.toNat < 0x7F

theorem Text.all_isPlain_padded (width n : Nat) : (padded width n).all isPlain = true := by
  have hdigits : (digits n).all isPlain = true := by
    refine List.all_eq_true.mpr fun c hc => ?_
    have hdigit : c.isDigit = true := Nat.isDigit_of_mem_toDigits (by decide) (by decide) hc
    simp only [Char.isDigit, Bool.and_eq_true, decide_eq_true_eq, UInt32.le_iff_toNat_le] at hdigit
    have hlow : 0x30 ≤ c.toNat := hdigit.1
    have hhigh : c.toNat ≤ 0x39 := hdigit.2
    simp only [isPlain, Bool.and_eq_true, decide_eq_true_eq]
    omega
  rw [padded, List.all_append, List.all_replicate, hdigits]
  split <;> rfl

namespace Instant

theorem all_isPlain_yearText (y : Int) : (yearText y).all Text.isPlain = true := by
  unfold yearText
  split
  · exact Text.all_isPlain_padded ..
  · rw [List.all_cons, Text.all_isPlain_padded]
    split <;> rfl

theorem all_isPlain_text (t : Instant) : t.text.toList.all Text.isPlain = true := by
  rw [text, String.toList_ofList]
  simp only [List.all_append, List.all_cons, List.all_nil, all_isPlain_yearText,
    Text.all_isPlain_padded]
  rfl

end Instant

theorem Headers.isValue_of_isPlain {s : String} (h : s.toList.all Text.isPlain = true) :
    isValue s = true := by
  refine List.all_eq_true.mpr fun c hc => ?_
  have hplain := List.all_eq_true.mp h c hc
  simp only [Text.isPlain, Bool.and_eq_true, decide_eq_true_eq] at hplain
  have hrange : (decide (0x20 ≤ c.toNat) && decide (c.toNat ≠ 0x7F)) = true := by
    simp only [Bool.and_eq_true, decide_eq_true_eq]
    omega
  rw [hrange, Bool.or_true]

/-- What a stamp makes of a request: it is the only expiry, and all else is as it was. -/
structure Request.StampedWith (stamp : String) (a b : Request) : Prop where
  expiry : b.headers.values "expires" = [stamp]
  others : b.headers.fields.filter (·.1 ≠ "expires") = a.headers.fields.filter (·.1 ≠ "expires")
  rest : { b with headers := a.headers } = a

namespace Signing

theorem stampedWith_stamped (freshness : Freshness) (request : Request) :
    request.StampedWith freshness.stamp (stamped freshness request) where
  expiry := Headers.values_set ..
  others := Headers.filter_ne_setFields ..
  rest := rfl

/-- Every stamp is a value that a header can hold. -/
theorem stamp_eq_ok (freshness : Freshness) (request : Request) :
    stamp freshness request = .ok (stamped freshness request) :=
  if_pos (Headers.isValue_of_isPlain freshness.expiry.all_isPlain_text)

theorem prepare_eq {clock : Clock σ} {s s₁ : σ} {now : Instant} (time : clock s = (now, s₁))
    (signer : Signer σ) (interval : Duration) (request : Request) :
    prepare signer clock interval request s = signer (stamped { now, interval } request) s₁ := by
  rw [prepare, time]
  dsimp only
  rw [stamp_eq_ok]

end Signing

/-! ### Calls -/

def Transport.signing (t : Transport σ) (signer : Signer σ) (clock : Clock σ)
    (interval : Duration) : Transport σ where
  ready := t.ready
  reply request s :=
    match Signing.prepare signer clock interval request s with
    | (.error e, s) => (.error e, s)
    | (.ok signed, s) => t.reply signed s

namespace Signing

open ResponsePolicy (Round Binding Carries arrive course scheduled requests_rounds events_rounds
  ofBindings)

/-- A round of a signed call: the request of the round is the copy of the command, which was stamped
for an instant and signed. -/
structure Sending where
  round : Round
  now : Instant
  signed : Request

def Sending.seen (x : Sending) : Round :=
  { x.round with request := x.signed }

section Course

variable (signer : Signer σ) (clock : Clock σ) (interval : Duration) (p : ResponsePolicy σ)
  (t : Transport σ)

/-- The rounds of a signed call that lead from a command to another. The signer is given a copy of
the command with the stamp of the instant, the transport what the signer makes of it, and the
handler the command itself. -/
inductive Resends : Nat → Command → σ → List Sending → Command → σ → Prop
  | stay (n : Nat) (c : Command) (s : σ) : Resends n c s [] c s
  | again {n : Nat} {c c₁ c₂ : Command} {s s₁ s₂ s₃ s₄ s₅ s₆ : σ} {now : Instant}
      {signed : Request} {r : Response} {k : Category} {handler : RetryHandler σ} {d : Duration}
      {sendings : List Sending}
      (ready : arrive t n s = (.ok (), s₁))
      (time : clock s₁ = (now, s₂))
      (signature : signer (stamped { now, interval } c.request) s₂ = (.ok signed, s₃))
      (reply : t.reply signed s₃ = (.ok r, s₄))
      (category : Category.ofStatus r.status = some k)
      (bound : (p.handlers k).retry = some handler)
      (decision : handler c r s₄ = ((.retry d, c₁), s₅))
      (rest : Resends (n + 1) c₁ s₅ sendings c₂ s₆) :
      Resends n c s (⟨⟨c.request, r, k, d⟩, now, signed⟩ :: sendings) c₂ s₆

/-- The attempt that ends a signed call, with what it leaves in the trace and the result. A signer
that refuses ends the call before anything is sent. What is sent is signed, and its answer ends the
call as it does when the transport signs by itself. -/
inductive Closes (bound n : Nat) (c : Command) (s : σ) :
    List Effect × Option (Except ProviderError Response × σ) → Prop
  | unready {e : ProviderError} {s₁ : σ} (within : n ≤ bound)
      (ready : arrive t n s = (.error e, s₁)) :
      Closes bound n c s ([], some (.error e, s₁))
  | unsigned {e : ProviderError} {s₁ s₂ s₃ : σ} {now : Instant} (within : n ≤ bound)
      (ready : arrive t n s = (.ok (), s₁))
      (time : clock s₁ = (now, s₂))
      (refusal : signer (stamped { now, interval } c.request) s₂ = (.error e, s₃)) :
      Closes bound n c s ([], some (.error e, s₃))
  | sent {s₁ s₂ s₃ : σ} {now : Instant} {signed : Request} {ending : ResponsePolicy.Ending}
      {out : Option (Except ProviderError Response × σ)} (within : n ≤ bound)
      (ready : arrive t n s = (.ok (), s₁))
      (time : clock s₁ = (now, s₂))
      (signature : signer (stamped { now, interval } c.request) s₂ = (.ok signed, s₃))
      (closes : ResponsePolicy.Closes p (t.signing signer clock interval) bound n c s ending out) :
      Closes bound n c s (.sent signed :: ending.events.map .emitted, out)
  | cutOff (beyond : bound < n) : Closes bound n c s ([], none)

/-- What a call of the layer leaves in the trace: the signed request, if the signer signs. -/
def departure (request : Request) (s : σ) : List Effect :=
  match (prepare signer clock interval request s).1 with
  | .ok signed => [.sent signed]
  | .error _ => []

theorem carries_layer :
    Carries (layer signer clock interval t.service) (t.signing signer clock interval)
      (departure signer clock interval) where
  ready _ := rfl
  call request s := by
    unfold departure layer Transport.signing
    dsimp only
    rw [Act.run_step_bind]
    rcases prepare signer clock interval request s with ⟨e | signed, s₁⟩ <;> rfl

theorem arrive_signing (n : Nat) (s : σ) :
    arrive (t.signing signer clock interval) n s = arrive t n s := by
  unfold arrive
  rfl

variable {signer clock interval p t} {n : Nat} {c c₁ : Command} {s s₁ : σ}

/-- What a transport that signs answers: the refusal of the signer, or what the transport answers to
the request that was signed. -/
theorem reply_signing {request : Request} {answer : Except ProviderError Response}
    (h : (t.signing signer clock interval).reply request s = (answer, s₁)) :
    ∃ now s₂, clock s = (now, s₂) ∧
      ((∃ e, signer (stamped { now, interval } request) s₂ = (.error e, s₁) ∧ answer = .error e ∧
          departure signer clock interval request s = []) ∨
        ∃ signed s₃, signer (stamped { now, interval } request) s₂ = (.ok signed, s₃) ∧
          t.reply signed s₃ = (answer, s₁) ∧
          departure signer clock interval request s = [.sent signed]) := by
  rcases time : clock s with ⟨now, s₂⟩
  refine ⟨now, s₂, rfl, ?_⟩
  have hprepare := prepare_eq time signer interval request
  rcases signature : signer (stamped { now, interval } request) s₂ with ⟨e | signed, s₃⟩
  all_goals
    rw [signature] at hprepare
    simp only [Transport.signing, hprepare] at h
  · cases h
    exact .inl ⟨e, rfl, rfl, by rw [departure, hprepare]⟩
  · exact .inr ⟨signed, s₃, rfl, h, by rw [departure, hprepare]⟩

theorem reply_signing_ok {request : Request} {r : Response}
    (h : (t.signing signer clock interval).reply request s = (.ok r, s₁)) :
    ∃ now s₂ signed s₃, clock s = (now, s₂) ∧
      signer (stamped { now, interval } request) s₂ = (.ok signed, s₃) ∧
      t.reply signed s₃ = (.ok r, s₁) ∧
      departure signer clock interval request s = [.sent signed] := by
  obtain ⟨now, s₂, time, ⟨e, -, hanswer, -⟩ | ⟨signed, s₃, hsigned⟩⟩ := reply_signing h
  · cases hanswer
  · exact ⟨now, s₂, signed, s₃, time, hsigned⟩

/-- A round with a transport that signs is a round of the signed call. -/
theorem resends_of_signing {rounds : List Round}
    (h : ResponsePolicy.Resends p (t.signing signer clock interval) n c s rounds c₁ s₁) :
    ∃ sendings, sendings.map Sending.round = rounds ∧
      Resends signer clock interval p t n c s sendings c₁ s₁ ∧
      ∀ left, (p.resend (layer signer clock interval t.service) (rounds.length + left) n c).run s =
        let next := (p.resend (layer signer clock interval t.service) left
          (n + rounds.length) c₁).run s₁
        (course n (sendings.map Sending.seen) ++ next.1, next.2) := by
  induction h with
  | stay n c s =>
    refine ⟨[], rfl, .stay n c s, fun left => ?_⟩
    rw [List.length_nil, Nat.zero_add]
    rfl
  | @again n c c₁ c₂ s s₁ s₂ s₃ s₄ r k handler d rounds ready reply category bound decision _ ih =>
    obtain ⟨sendings, hrounds, hrest, hrun⟩ := ih
    obtain ⟨now, s', signed, s'', time, signature, hreply, hdeparture⟩ := reply_signing_ok reply
    have hready : arrive t n s = (.ok (), s₁) := arrive_signing signer clock interval t n s ▸ ready
    refine ⟨⟨⟨c.request, r, k, d⟩, now, signed⟩ :: sendings, congrArg (_ :: ·) hrounds,
      .again hready time signature hreply category bound decision hrest, fun left => ?_⟩
    rw [List.length_cons, Nat.add_right_comm, (carries_layer ..).run_resend_succ]
    simp only [ready, reply, category, bound, decision, hdeparture, hrun, List.map_cons, course]
    rw [Nat.add_right_comm n 1, ← Nat.add_assoc, List.append_assoc]
    rfl

/-- The end of a call with a transport that signs is the end of the signed call. -/
theorem closes_of_signing {bound left : Nat} {ending : ResponsePolicy.Ending}
    {out : Option (Except ProviderError Response × σ)}
    (h : ResponsePolicy.Closes p (t.signing signer clock interval) bound n c s ending out)
    (hleft : n + left = bound + 1) :
    Closes signer clock interval p t bound n c s
      ((p.resend (layer signer clock interval t.service) left n c).run s) := by
  have hready := arrive_signing signer clock interval t n s
  cases left with
  | zero => exact .cutOff (by omega)
  | succ left =>
    have within : n ≤ bound := by omega
    rw [(carries_layer ..).run_resend_succ]
    have closes := h
    cases h with
    | unready _ ready =>
      simp only [ready]
      exact .unready within (hready ▸ ready)
    | failed _ ready reply =>
      simp only [ready, reply]
      obtain ⟨now, s', time, ⟨e, refusal, hanswer, hdeparture⟩ | ⟨signed, s'', signature, -,
        hdeparture⟩⟩ := reply_signing reply
      · rw [hdeparture, hanswer]
        exact .unsigned within (hready ▸ ready) time refusal
      · rw [hdeparture]
        exact .sent within (hready ▸ ready) time signature closes
    | answered _ ready reply category =>
      obtain ⟨now, s', signed, s'', time, signature, -, hdeparture⟩ := reply_signing_ok reply
      simp only [ready, reply, category, hdeparture]
      exact .sent within (hready ▸ ready) time signature closes
    | unhandled _ ready reply category unbound =>
      obtain ⟨now, s', signed, s'', time, signature, -, hdeparture⟩ := reply_signing_ok reply
      simp only [ready, reply, category, unbound, hdeparture]
      exact .sent within (hready ▸ ready) time signature closes
    | refused _ ready reply category handled decision =>
      obtain ⟨now, s', signed, s'', time, signature, -, hdeparture⟩ := reply_signing_ok reply
      simp only [ready, reply, category, handled, decision, hdeparture]
      exact .sent within (hready ▸ ready) time signature closes
    | cutOff beyond => exact absurd beyond (by omega)

/-- A signer that refuses ends the call with its error, and nothing is left in the trace. -/
theorem Closes.eq_of_refusal {bound : Nat} {s₂ s₃ : σ} {now : Instant} {e : ProviderError}
    {last : List Effect × Option (Except ProviderError Response × σ)}
    (h : Closes signer clock interval p t bound n c s last) (within : n ≤ bound)
    (ready : arrive t n s = (.ok (), s₁)) (time : clock s₁ = (now, s₂))
    (refusal : signer (stamped { now, interval } c.request) s₂ = (.error e, s₃)) :
    last = ([], some (.error e, s₃)) := by
  cases h with
  | unready _ ready' =>
    rw [ready] at ready'
    cases ready'
  | unsigned _ ready' time' refusal' =>
    rw [ready] at ready'
    cases ready'
    rw [time] at time'
    cases time'
    rw [refusal] at refusal'
    cases refusal'
    rfl
  | sent _ ready' time' signature =>
    rw [ready] at ready'
    cases ready'
    rw [time] at time'
    cases time'
    rw [refusal] at signature
    cases signature
  | cutOff beyond => exact absurd within (Nat.not_le_of_lt beyond)

end Course

/-- One call of a policy around a signing layer around a transport. What reaches the transport is
what the signer makes of the copies of the command, each with the stamp of the instant as its only
expiry, and a stamp can always be made. The copies are those of a call to a transport that does the
signing itself: handlers make each from the one before it and the response, so that under the
library's own handlers it has nothing that the first had not, but for the value of a `Host` header.
A signer that refuses ends the call with its error; the copies before have been sent, and nothing
more is sent or reported. -/
theorem signed_call_course (p : ResponsePolicy σ) (t : Transport σ) (signer : Signer σ)
    (clock : Clock σ) (interval : Duration) (bound : Nat) (request : Request) (s : σ) :
    let run := ((p.layer bound (layer signer clock interval t.service)).call request).run s
    (∃ sendings c s₁ last,
      Resends signer clock interval p t 1 (.ofRequest request) s sendings c s₁ ∧
      Closes signer clock interval p t bound (1 + sendings.length) c s₁ last ∧
      run = (course 1 (sendings.map Sending.seen) ++ last.1, last.2) ∧
      Effect.requests run.1 = sendings.map Sending.signed ++ Effect.requests last.1 ∧
      Effect.events run.1 = scheduled 1 (sendings.map Sending.seen) ++ Effect.events last.1 ∧
      (∀ now e s₂ s₃ s₄, 1 + sendings.length ≤ bound →
        arrive t (1 + sendings.length) s₁ = (.ok (), s₂) → clock s₂ = (now, s₃) →
        signer (stamped { now, interval } c.request) s₃ = (.error e, s₄) →
        run.2 = some (.error e, s₄) ∧ (Effect.requests run.1).length = sendings.length ∧
          Effect.events run.1 = scheduled 1 (sendings.map Sending.seen)) ∧
      ResponsePolicy.Resends p (t.signing signer clock interval) 1 (.ofRequest request) s
        (sendings.map Sending.round) c s₁ ∧
      ∀ R C interpreters (b : Category → Binding σ R C), p = ofBindings interpreters b →
        ∀ copy ∈ sendings.map (·.round.request) ++ [c.request], request.Keeps copy) ∧
    ∀ freshness copy, stamp freshness copy = .ok (stamped freshness copy) ∧
      copy.StampedWith freshness.stamp (stamped freshness copy) := by
  intro run
  refine ⟨?_, fun freshness copy =>
    ⟨stamp_eq_ok freshness copy, stampedWith_stamped freshness copy⟩⟩
  -- The commands, the worlds and the ending are those of the call to the transport that signs.
  obtain ⟨rounds, c, s₁, ending, hr, hc, -, hle⟩ := ResponsePolicy.resend_course_within p
    (t.signing signer clock interval) (Nat.add_comm 1 bound) (.ofRequest request) s
  obtain ⟨sendings, rfl, hsendings, hrun⟩ := resends_of_signing hr
  rw [List.length_map] at hrun hc hle
  obtain ⟨left, hleft⟩ := Nat.exists_eq_add_of_le hle
  have hattempts : 1 + sendings.length + left = bound + 1 := by omega
  have hlast := closes_of_signing hc hattempts
  set last := (p.resend (layer signer clock interval t.service) left (1 + sendings.length) c).run s₁
  have hrun : run = (course 1 (sendings.map Sending.seen) ++ last.1, last.2) := by
    rw [← hrun left, ← hleft]
    rfl
  have hrequests : Effect.requests (course 1 (sendings.map Sending.seen)) =
      sendings.map Sending.signed := by
    rw [requests_rounds, List.map_map]
    rfl
  refine ⟨sendings, c, s₁, last, hsendings, hlast, hrun, ?_, ?_, ?_, hr, ?_⟩
  · rw [hrun, Effect.requests_append, hrequests]
  · rw [hrun, Effect.events_append, events_rounds]
  · intro now e s₂ s₃ s₄ within ready time refusal
    rw [hrun, hlast.eq_of_refusal within ready time refusal]
    dsimp only
    rw [List.append_nil, hrequests, events_rounds]
    exact ⟨rfl, List.length_map .., rfl⟩
  · rintro R C interpreters b rfl copy hcopy
    have h := hr.keeps.1 copy
    rw [List.map_map] at h
    exact h hcopy

end Signing

end CloudReach
