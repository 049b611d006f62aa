import CloudReach.Proofs.Discovery.Coherent
import CloudReach.Proofs.Discovery.Query
import Mathlib.Data.DFinsupp.WellFounded

/-!
# The law of discovery

A step of a caller leaves it fewer steps than before, so turns come to an end. They do not end
before all callers have their answers: who waits for a cell waits for a caller that can go on.
With that, one law holds of all that a context is asked for, by one caller or by many.
-/

namespace CloudReach

namespace Discovery

theorem acc_move {α : Type} (p : Procedure α) :
    Acc (fun p' p : Procedure α => ∃ h h', Move h p h' p') p := by
  induction p with
  | finished a =>
    refine ⟨_, ?_⟩
    rintro _ ⟨_, _, ⟨⟩⟩
  | note e next ih =>
    refine ⟨_, ?_⟩
    rintro _ ⟨_, _, ⟨⟩⟩
    exact ih
  | hearRegions next ih =>
    refine ⟨_, ?_⟩
    rintro _ ⟨_, _, ⟨⟩⟩
    exact ih _
  | hearZones region next ih =>
    refine ⟨_, ?_⟩
    rintro _ ⟨_, _, ⟨⟩⟩
    exact ih _
  | enter c next ih =>
    refine ⟨_, ?_⟩
    rintro _ ⟨_, _, ⟨⟩⟩ <;> exact ih _
  | fill c v next ih =>
    refine ⟨_, ?_⟩
    rintro _ ⟨_, _, ⟨⟩⟩
    exact ih
  | giveUp c next ih =>
    refine ⟨_, ?_⟩
    rintro _ ⟨_, _, ⟨⟩⟩
    exact ih

/-- A caller has its answer, or can take a step, or waits for a cell. -/
theorem moves_or_waits {α : Type} (h : Shared) (p : Procedure α) :
    (∃ a, p = .finished a) ∨ (∃ h' p', Move h p h' p') ∨
      ∃ c next, p = .enter c next ∧ h.held c = true := by
  cases p with
  | finished a => exact .inl ⟨a, rfl⟩
  | note e next => exact .inr (.inl ⟨_, _, .note h e next⟩)
  | hearRegions next => exact .inr (.inl ⟨_, _, .hearRegions h next (.ok .empty)⟩)
  | hearZones region next => exact .inr (.inl ⟨_, _, .hearZones h region next (.ok [])⟩)
  | enter c next =>
    cases full : c.read h.memory with
    | some v => exact .inr (.inl ⟨_, _, .find next v full⟩)
    | none =>
      cases free : h.held c with
      | false => exact .inr (.inl ⟨_, _, .enter next full free⟩)
      | true => exact .inr (.inr ⟨c, next, rfl, free⟩)
  | fill c v next => exact .inr (.inl ⟨_, _, .fill h c v next⟩)
  | giveUp c next => exact .inr (.inl ⟨_, _, .giveUp h c next⟩)

/-- The caller that makes the listing waits for nobody. -/
theorem Follows.moves_of_leads {α : Type}
    {good : Option Cell → Except RegionLoadError RegionMap → α → Prop} {o : Option Cell}
    {stage : Stage} {h : Shared} {p : Procedure α} (hf : Follows good o stage p)
    (leads : Leads h stage) : ∃ h' p', Move h p h' p' := by
  cases hf with
  | list => exact ⟨_, _, .note ..⟩
  | hear => exact ⟨_, _, .hearRegions _ _ (.ok .empty)⟩
  | report => exact ⟨_, _, .note ..⟩
  | settle => exact ⟨_, _, .fill ..⟩
  | _ => exact leads.elim

namespace Callers

variable {n : Nat} {ops : Fin n → Operation}

/-- Turns come to an end. -/
theorem wellFounded_step : WellFounded fun st' st : Callers ops => Step st st' := by
  refine Subrelation.wf ?_ (InvImage.wf Callers.left
    (Pi.Lex.wellFounded (· < ·) fun i => WellFounded.intro (acc_move (α := (ops i).Answer))))
  rintro _ st ⟨i, move⟩
  rename_i shared p
  refine ⟨i, fun j hj => Function.update_of_ne hj.ne _ _, st.shared, shared, ?_⟩
  dsimp only
  rwa [Function.update_self]

namespace Consistent

variable {st : Callers ops} {outer : Fin n → Option Cell} {stage : Fin n → Stage}

theorem moves_of_held (hc : Consistent st outer stage) (held : st.shared.held .regions = true) :
    ∃ st', Step st st' := by
  cases hc.coherent with
  | led leader leads =>
    obtain ⟨_, _, move⟩ := (hc.follows leader).moves_of_leads leads
    exact ⟨_, .turn leader move⟩
  | untouched _ _ free => simp [free] at held
  | failed _ _ _ _ _ _ _ free => simp [free] at held
  | succeeded _ _ _ free => simp [free] at held

/-- A caller inside an outer cell does not wait for another. -/
theorem moves_of_outer (hc : Consistent st outer stage) {i : Fin n} {c : Cell}
    (ho : outer i = some c) : ∃ st', Step st st' := by
  have hf := hc.follows i
  rw [ho] at hf
  rcases moves_or_waits st.shared (st.left i) with ⟨a, ha⟩ | ⟨_, _, move⟩ | ⟨d, next, hd, held⟩
  · rw [ha] at hf
    generalize stage i = s at hf
    cases hf with
    | finished good => cases good.1
  · exact ⟨_, .turn i move⟩
  · rw [hd] at hf
    generalize stage i = s at hf
    cases hf with
    | enter => exact hc.moves_of_held held

/-- As long as a caller has no answer, somebody can take a turn. -/
theorem progress (hc : Consistent st outer stage) :
    (∀ i, (st.answer? i).isSome) ∨ ∃ st', Step st st' := by
  refine or_iff_not_imp_left.mpr fun h => ?_
  obtain ⟨i, hi⟩ := not_forall.mp h
  rcases moves_or_waits st.shared (st.left i) with ⟨a, ha⟩ | ⟨_, _, move⟩ | ⟨c, next, -, held⟩
  · exact absurd (by rw [answer?, ha]; rfl) hi
  · exact ⟨_, .turn i move⟩
  · by_cases hr : c = .regions
    · rw [hr] at held
      exact hc.moves_of_held held
    · obtain ⟨j, hj⟩ := hc.occupied c hr held
      exact hc.moves_of_outer hj

end Consistent

end Callers

end Discovery

namespace Context

open Discovery

variable {σ : Type}

/-- Whatever a context is asked for, by one caller or by many, its regions are listed once, and what
becomes of the listing decides every answer. One caller is watched without what remote operations
leave in the trace themselves, which over a transport makes no difference. Many callers make the
steps of the same operations, and each of them is answered in the end. -/
theorem discovery_lawful (c : Context σ) :
    (∀ (op : Operation) (rest : List Operation) (s : σ),
      let ops := op :: rest
      Lawful (c.listingReply s) ops ((c.quiet.performEach ops).run (start s)) ∧
      ((c.quiet.performEach ops).run (start s)).2 = ((c.performEach ops).run (start s)).2 ∧
      ∀ (p : ResponsePolicy σ) (bound : Nat) (t : Transport σ) (endpoint : Url)
        (reader : BodyReader),
        let queried := { c with api := queryApi (p.layer bound t.service) endpoint reader }
        Lawful (queried.listingReply s) ops ((queried.performEach ops).run (start s))) ∧
    ∀ (n : Nat) (ops : Fin n → Operation),
      (∀ i, ((ops i).procedure c.properties.computeEndpoint).act c.api = c.perform (ops i)) ∧
      (WellFounded fun st' st : Callers ops => Callers.Step st st') ∧
      ∀ st, Relation.ReflTransGen Callers.Step (Callers.start c.properties.computeEndpoint ops) st →
        st.Lawful ∧ ((∀ i, (st.answer? i).isSome) ∨ ∃ st', Callers.Step st st') := by
  refine ⟨fun op rest s => ⟨?_, c.run_performEach_quiet _ _, fun p bound t endpoint reader => ?_⟩,
    fun n ops => ⟨fun i => c.act_procedure (ops i), Callers.wellFounded_step, fun st reaches => ?_⟩⟩
  · exact c.quiet.performEach_lawful_of_discreet c.api.discreet_silenced op rest s
  · exact performEach_lawful_of_discreet _ (discreet_queryApi p bound t endpoint reader) op rest s
  · obtain ⟨outer, stage, hc⟩ := Callers.consistent_of_reaches reaches
    exact ⟨hc.lawful, hc.progress⟩

end Context

end CloudReach
