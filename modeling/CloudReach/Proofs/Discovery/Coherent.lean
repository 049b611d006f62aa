import CloudReach.Proofs.Discovery.Interleaving
import Mathlib.Data.Fintype.Card
import Mathlib.Logic.Relation

/-!
# What callers share

A turn of a caller that follows the stages changes what is shared as its stage says: `Turn`. So what
is shared depends on the stages of the callers alone, `Coherent`, and whatever order they take their
turns in, `Lawful` holds.
-/

namespace CloudReach.Discovery

/-- A turn in terms of stages: what a caller at a stage does to what is shared, and the stage he
comes to. -/
inductive Turn (h : Shared) : Option Cell → Stage → Shared → Option Cell → Stage → Prop
  | find {o : Option Cell} {map : RegionMap} (full : h.memory.regions = some (.ok map)) :
      Turn h o .fresh h o (.told (.ok map))
  | findFailure {o : Option Cell} {e : RegionLoadError}
      (full : h.memory.regions = some (.error e)) : Turn h o .fresh h o (.replaying e)
  | enter {o : Option Cell} (empty : h.memory.regions = none) (free : h.held .regions = false) :
      Turn h o .fresh (h.hold .regions true) o .entered
  | list (o : Option Cell) : Turn h o .entered (h.note .listedRegions) o .asked
  | hear (o : Option Cell) (r : Except ProviderError RegionMap) :
      Turn h o .asked (h.hear r) o (.heard r)
  | report (o : Option Cell) (r : Except ProviderError RegionMap) :
      Turn h o (.heard r) (h.note (report r)) o (.reported r)
  | settle (o : Option Cell) (r : Except ProviderError RegionMap) :
      Turn h o (.reported r) ((h.fill .regions (outcome r)).hold .regions false) o
        (.told (outcome r))
  | replay (o : Option Cell) (e : RegionLoadError) :
      Turn h o (.replaying e) (h.note (.emitted .regionsFailureReplayed)) o (.told (.error e))
  | work (o : Option Cell) (map : RegionMap) {e : Effect} (he : e.ofListing = false) :
      Turn h o (.told (.ok map)) (h.note e) o (.told (.ok map))
  | hearZones (o : Option Cell) (map : RegionMap) :
      Turn h o (.told (.ok map)) h o (.told (.ok map))
  | enterOuter {c : Cell} (hc : c ≠ .regions) :
      Turn h none .fresh (h.hold c true) (some c) .fresh
  | fillOuter {c : Cell} (hc : c ≠ .regions) (map : RegionMap) (v : c.Value) :
      Turn h (some c) (.told (.ok map)) ((h.fill c v).hold c false) none (.told (.ok map))
  | giveUpOuter {c : Cell} (hc : c ≠ .regions) (r : Except RegionLoadError RegionMap) :
      Turn h (some c) (.told r) (h.hold c false) none (.told r)

/-- An outer cell that is held after a turn is held by the caller whose turn it was, or it was held
before by another. -/
theorem Turn.occupied {h h' : Shared} {o o' : Option Cell} {s s' : Stage}
    (turn : Turn h o s h' o' s') {c : Cell} (hc : c ≠ .regions) (held : h'.held c = true) :
    o' = some c ∨ h.held c = true ∧ o ≠ some c := by
  cases turn with
  | enter =>
    rw [h.held_hold_of_ne hc] at held
    exact (em _).imp_right fun h => ⟨held, h⟩
  | settle =>
    rw [Shared.held_hold_of_ne _ hc] at held
    exact (em _).imp_right fun h => ⟨held, h⟩
  | @enterOuter d _ =>
    by_cases hd : c = d
    · exact .inl (congrArg some hd.symm)
    · rw [h.held_hold_of_ne hd] at held
      exact .inr ⟨held, nofun⟩
  | fillOuter =>
    obtain ⟨hne, held⟩ := Shared.held_of_released held
    exact .inr ⟨held, fun h => hne (Option.some.inj h).symm⟩
  | giveUpOuter =>
    obtain ⟨hne, held⟩ := Shared.held_of_released held
    exact .inr ⟨held, fun h => hne (Option.some.inj h).symm⟩
  | _ => exact (em _).imp_right fun h => ⟨held, h⟩

/-- A caller that follows the stages takes a turn that they know of, and goes on following them. What
has been built on the regions shows that they are known. -/
theorem Follows.turn {α : Type} {good : Option Cell → Except RegionLoadError RegionMap → α → Prop}
    {o : Option Cell} {stage : Stage} {h h' : Shared} {p p' : Procedure α}
    (hf : Follows good o stage p) (move : Move h p h' p')
    (built : ∀ c : Cell, c ≠ .regions → c.read h.memory ≠ none →
      ∃ map, h.memory.regions = some (.ok map)) :
    ∃ o' stage', Turn h o stage h' o' stage' ∧ Follows good o' stage' p' := by
  cases hf with
  | finished => cases move
  | enter full failed empty =>
    cases move with
    | find _ v hfull =>
      rcases v with e | map
      · exact ⟨o, _, .findFailure hfull, failed e⟩
      · exact ⟨o, _, .find hfull, full map⟩
    | enter _ hempty hfree => exact ⟨o, _, .enter hempty hfree, empty⟩
  | list hp =>
    cases move
    exact ⟨o, _, .list o, hp⟩
  | hear hp =>
    cases move with
    | hearRegions _ r => exact ⟨o, _, .hear o r, hp r⟩
  | @report _ r _ hp =>
    cases move
    exact ⟨o, _, .report o r, hp⟩
  | @settle _ r _ hp =>
    cases move
    exact ⟨o, _, .settle o r, hp⟩
  | @replay _ e _ hp =>
    cases move
    exact ⟨o, _, .replay o e, hp⟩
  | @work _ map _ _ he hp =>
    cases move
    exact ⟨o, _, .work o map he, hp⟩
  | @hearZones _ map _ _ hp =>
    cases move with
    | hearZones _ _ r => exact ⟨o, _, .hearZones o map, hp r⟩
  | @enterOuter c _ hc full empty =>
    cases move with
    | find _ v hfull =>
      obtain ⟨map, hmap⟩ := built c hc (by rw [hfull]; exact Option.some_ne_none v)
      exact ⟨none, _, .find hmap, full v map⟩
    | enter _ hempty hfree => exact ⟨some c, _, .enterOuter hc, empty⟩
  | @fillOuter c map v _ hc hp =>
    cases move
    exact ⟨none, _, .fillOuter hc map v, hp⟩
  | @giveUpOuter c r _ hc hp =>
    cases move
    exact ⟨none, _, .giveUpOuter hc r, hp⟩

/-! ### What is shared agrees with the stages -/

theorem Cell.regions_fill_of_ne {c : Cell} (hc : c ≠ .regions) (v : c.Value) (m : Memory) :
    (c.fill v m).regions = m.regions := by
  cases c with
  | regions => exact absurd rfl hc
  | zones => rfl
  | compute => rfl

theorem ofListing_report (r : Except ProviderError RegionMap) : (report r).ofListing = true := by
  cases r <;> rfl

/-- What the caller that makes the listing has done to what is shared. -/
def Leads (h : Shared) : Stage → Prop
  | .entered => Effect.listing h.trace = [] ∧ h.replies = []
  | .asked => Effect.listing h.trace = [.listedRegions] ∧ h.replies = []
  | .heard r => Effect.listing h.trace = [.listedRegions] ∧ h.replies = [r]
  | .reported r => Effect.listing h.trace = [.listedRegions, report r] ∧ h.replies = [r]
  | _ => False

/-- What is shared and the stages of all callers. Either nobody has come to the listing yet, or one
caller is making it, or it has failed, or it has succeeded. After a failure, all who have been told
of it but one have replayed it. -/
inductive Coherent {n : Nat} (h : Shared) (stage : Fin n → Stage) : Prop
  | untouched (stages : ∀ i, stage i = .fresh) (memory : h.memory = .blank)
      (free : h.held .regions = false) (listing : Effect.listing h.trace = [])
      (zones : Effect.zoneListings h.trace = []) (replies : h.replies = [])
  | led (leader : Fin n) (leads : Leads h (stage leader))
      (others : ∀ i, i ≠ leader → stage i = .fresh) (memory : h.memory = .blank)
      (held : h.held .regions = true) (zones : Effect.zoneListings h.trace = [])
  | failed (e : ProviderError) (told : Finset (Fin n)) (replays : Nat)
      (stages : ∀ i, stage i = .fresh ∨ stage i = .replaying ⟨e⟩ ∨ stage i = .told (.error ⟨e⟩))
      (mem_told : ∀ i, stage i = .told (.error ⟨e⟩) ↔ i ∈ told) (card : told.card = replays + 1)
      (memory : h.memory = .failed ⟨e⟩) (free : h.held .regions = false)
      (listing : Effect.listing h.trace = .listedRegions :: .emitted .regionsLoadFailed ::
        List.replicate replays (.emitted .regionsFailureReplayed))
      (zones : Effect.zoneListings h.trace = []) (replies : h.replies = [.error e])
  | succeeded (map : RegionMap) (stages : ∀ i, stage i = .fresh ∨ stage i = .told (.ok map))
      (memory : h.memory.regions = some (.ok map)) (free : h.held .regions = false)
      (listing : Effect.listing h.trace = [.listedRegions, .emitted (.regionsLoaded map.size)])
      (replies : h.replies = [.ok map])

namespace Coherent

variable {n : Nat} {h h' : Shared} {stage : Fin n → Stage} {i : Fin n} {o o' : Option Cell}
  {s s' : Stage}

theorem turn_of_untouched (stages : ∀ i, stage i = .fresh) (memory : h.memory = .blank)
    (free : h.held .regions = false) (listing : Effect.listing h.trace = [])
    (zones : Effect.zoneListings h.trace = []) (replies : h.replies = [])
    (turn : Turn h o .fresh h' o' s') : Coherent h' (Function.update stage i s') := by
  cases turn with
  | find full => simp [memory, Memory.blank] at full
  | findFailure full => simp [memory, Memory.blank] at full
  | enter =>
    refine .led i ?_ (fun j hj => ?_) memory (h.held_hold ..) zones
    · rw [Function.update_self]
      exact ⟨listing, replies⟩
    · rw [Function.update_of_ne hj]
      exact stages j
  | enterOuter hc =>
    refine .untouched ?_ memory ?_ listing zones replies
    · rw [Function.forall_update_iff stage fun _ s => s = .fresh]
      exact ⟨rfl, fun j _ => stages j⟩
    · rw [h.held_hold_of_ne hc.symm]
      exact free

theorem turn_of_leader (leads : Leads h s) (others : ∀ j, j ≠ i → stage j = .fresh)
    (memory : h.memory = .blank) (held : h.held .regions = true)
    (zones : Effect.zoneListings h.trace = []) (turn : Turn h o s h' o' s') :
    Coherent h' (Function.update stage i s') := by
  have hothers (j : Fin n) (hj : j ≠ i) : Function.update stage i s' j = .fresh := by
    rw [Function.update_of_ne hj]
    exact others j hj
  have hself : Function.update stage i s' i = s' := Function.update_self ..
  cases turn with
  | list =>
    refine .led i ?_ hothers memory held (by rwa [h.zoneListings_note rfl])
    rw [hself]
    exact ⟨by rw [h.listing_note rfl, leads.1]; rfl, leads.2⟩
  | hear o r =>
    refine .led i ?_ hothers memory held zones
    rw [hself]
    exact ⟨leads.1, congrArg (· ++ [r]) leads.2⟩
  | report o r =>
    refine .led i ?_ hothers memory held (by rwa [h.zoneListings_note (ofListing_report r)])
    rw [hself]
    exact ⟨by rw [h.listing_note (ofListing_report r), leads.1]; rfl, leads.2⟩
  | settle o r =>
    cases r with
    | ok map =>
      refine .succeeded map (fun j => ?_) rfl (Shared.held_hold ..) leads.1 leads.2
      by_cases hj : j = i
      · exact .inr (hj ▸ hself)
      · exact .inl (hothers j hj)
    | error e =>
      refine .failed e {i} 0 (fun j => ?_) (fun j => ?_) rfl ?_ (Shared.held_hold ..) leads.1 zones
        leads.2
      · by_cases hj : j = i
        · exact .inr (.inr (hj ▸ hself))
        · exact .inl (hothers j hj)
      · by_cases hj : j = i
        · simp [hj, outcome]
        · simp [hj, others j hj]
      · change Cell.fill .regions (outcome (.error e)) h.memory = _
        rw [memory]
        rfl
  | _ => exact leads.elim

theorem turn_of_bystander {leader : Fin n} (hne : i ≠ leader) (leads : Leads h (stage leader))
    (others : ∀ j, j ≠ leader → stage j = .fresh) (memory : h.memory = .blank)
    (held : h.held .regions = true) (zones : Effect.zoneListings h.trace = [])
    (turn : Turn h o .fresh h' o' s') : Coherent h' (Function.update stage i s') := by
  cases turn with
  | find full => simp [memory, Memory.blank] at full
  | findFailure full => simp [memory, Memory.blank] at full
  | enter _ free => simp [held] at free
  | enterOuter hc =>
    rw [← others i hne, Function.update_eq_self]
    exact .led leader leads others memory ((h.held_hold_of_ne hc.symm _).trans held) zones

theorem turn_of_failed {e : ProviderError} {told : Finset (Fin n)} {replays : Nat}
    (stages : ∀ j, stage j = .fresh ∨ stage j = .replaying ⟨e⟩ ∨ stage j = .told (.error ⟨e⟩))
    (mem_told : ∀ j, stage j = .told (.error ⟨e⟩) ↔ j ∈ told) (card : told.card = replays + 1)
    (memory : h.memory = .failed ⟨e⟩) (free : h.held .regions = false)
    (listing : Effect.listing h.trace = .listedRegions :: .emitted .regionsLoadFailed ::
      List.replicate replays (.emitted .regionsFailureReplayed))
    (zones : Effect.zoneListings h.trace = []) (replies : h.replies = [.error e])
    (hs : stage i = s) (turn : Turn h o s h' o' s') :
    Coherent h' (Function.update stage i s') := by
  cases turn with
  | find full => simp [memory, Memory.failed] at full
  | enter empty => simp [memory, Memory.failed] at empty
  | @findFailure _ f full =>
    have hf : f = ⟨e⟩ := by simpa [memory, Memory.failed] using full.symm
    subst hf
    refine .failed e told replays ?_ (fun j => ?_) card memory free listing zones replies
    · rw [Function.forall_update_iff stage
        fun _ s => s = .fresh ∨ s = .replaying ⟨e⟩ ∨ s = .told (.error ⟨e⟩)]
      exact ⟨.inr (.inl rfl), fun j _ => stages j⟩
    · by_cases hj : j = i
      · subst hj
        simp [← mem_told, hs]
      · rw [Function.update_of_ne hj]
        exact mem_told j
  | replay o f =>
    have hf : f = ⟨e⟩ := by simpa [hs] using stages i
    subst hf
    have hi : i ∉ told := by simp [← mem_told, hs]
    refine .failed e (insert i told) (replays + 1) ?_ (fun j => ?_)
      (by rw [Finset.card_insert_of_notMem hi, card]) memory free ?_
      (by rwa [h.zoneListings_note rfl]) replies
    · rw [Function.forall_update_iff stage
        fun _ s => s = .fresh ∨ s = .replaying ⟨e⟩ ∨ s = .told (.error ⟨e⟩)]
      exact ⟨.inr (.inr rfl), fun j _ => stages j⟩
    · by_cases hj : j = i
      · simp [hj]
      · rw [Function.update_of_ne hj, mem_told, Finset.mem_insert, or_iff_right hj]
    · rw [h.listing_note rfl, listing, List.replicate_succ']
      rfl
  | enterOuter hc =>
    rw [← hs, Function.update_eq_self]
    exact .failed e told replays stages mem_told card memory
      ((h.held_hold_of_ne hc.symm _).trans free) listing zones replies
  | giveUpOuter hc r =>
    rw [← hs, Function.update_eq_self]
    exact .failed e told replays stages mem_told card memory
      ((h.held_hold_of_ne hc.symm _).trans free) listing zones replies
  | _ => simpa [hs] using stages i

theorem turn_of_succeeded {map : RegionMap}
    (stages : ∀ j, stage j = .fresh ∨ stage j = .told (.ok map))
    (memory : h.memory.regions = some (.ok map)) (free : h.held .regions = false)
    (listing : Effect.listing h.trace = [.listedRegions, .emitted (.regionsLoaded map.size)])
    (replies : h.replies = [.ok map]) (hs : stage i = s) (turn : Turn h o s h' o' s') :
    Coherent h' (Function.update stage i s') := by
  cases turn with
  | findFailure full => simp [memory] at full
  | enter empty => simp [memory] at empty
  | @find _ m full =>
    have hm : m = map := by simpa [memory] using full.symm
    subst hm
    refine .succeeded m ?_ memory free listing replies
    rw [Function.forall_update_iff stage fun _ s => s = .fresh ∨ s = .told (.ok m)]
    exact ⟨.inr rfl, fun j _ => stages j⟩
  | work o m he =>
    rw [← hs, Function.update_eq_self]
    exact .succeeded map stages memory free ((h.listing_note_of_not he).trans listing) replies
  | hearZones o m =>
    rw [← hs, Function.update_eq_self]
    exact .succeeded map stages memory free listing replies
  | enterOuter hc =>
    rw [← hs, Function.update_eq_self]
    exact .succeeded map stages memory ((h.held_hold_of_ne hc.symm _).trans free) listing replies
  | fillOuter hc m v =>
    rw [← hs, Function.update_eq_self]
    exact .succeeded map stages ((Cell.regions_fill_of_ne hc v h.memory).trans memory)
      ((Shared.held_hold_of_ne _ hc.symm _).trans free) listing replies
  | giveUpOuter hc r =>
    rw [← hs, Function.update_eq_self]
    exact .succeeded map stages memory ((h.held_hold_of_ne hc.symm _).trans free) listing replies
  | _ => simpa [hs] using stages i

/-- A turn keeps what is shared and the stages in agreement. -/
theorem turn (hc : Coherent h stage) (turn : Turn h o (stage i) h' o' s') :
    Coherent h' (Function.update stage i s') := by
  cases hc with
  | untouched stages memory free listing zones replies =>
    rw [stages i] at turn
    exact turn_of_untouched stages memory free listing zones replies turn
  | led leader leads others memory held zones =>
    by_cases hi : i = leader
    · subst hi
      exact turn_of_leader leads others memory held zones turn
    · rw [others i hi] at turn
      exact turn_of_bystander hi leads others memory held zones turn
  | failed e told replays stages mem_told card memory free listing zones replies =>
    exact turn_of_failed stages mem_told card memory free listing zones replies rfl turn
  | succeeded map stages memory free listing replies =>
    exact turn_of_succeeded stages memory free listing replies rfl turn

/-- What is built shows that the regions are known. -/
theorem regions_of_built (hc : Coherent h stage) (c : Cell) (hne : c ≠ .regions)
    (full : c.read h.memory ≠ none) : ∃ map, h.memory.regions = some (.ok map) := by
  cases hc with
  | untouched _ memory =>
    rw [memory] at full
    cases c <;> exact absurd rfl full
  | led _ _ _ memory =>
    rw [memory] at full
    cases c <;> exact absurd rfl full
  | failed _ _ _ _ _ _ memory =>
    rw [memory] at full
    cases c <;> first | exact absurd rfl hne | exact absurd rfl full
  | succeeded map _ memory => exact ⟨map, memory⟩

end Coherent

namespace Callers

variable {n : Nat} {ops : Fin n → Operation}

/-- Each caller is at a stage and follows it, what is shared agrees with the stages, and an outer
cell that is held is held by a caller. -/
structure Consistent (st : Callers ops) (outer : Fin n → Option Cell) (stage : Fin n → Stage) :
    Prop where
  follows : ∀ i, Follows (Answers (ops i)) (outer i) (stage i) (st.left i)
  coherent : Coherent st.shared stage
  occupied : ∀ c, c ≠ .regions → st.shared.held c = true → ∃ i, outer i = some c

theorem consistent_start (endpoint : Url) :
    Consistent (start endpoint ops) (fun _ => none) (fun _ => .fresh) where
  follows i := follows_procedure endpoint (ops i)
  coherent := .untouched (fun _ => rfl) rfl rfl rfl rfl rfl
  occupied _ _ h := nomatch h

theorem Step.consistent {st st' : Callers ops} (step : Step st st') {outer : Fin n → Option Cell}
    {stage : Fin n → Stage} (hc : Consistent st outer stage) :
    ∃ outer' stage', Consistent st' outer' stage' := by
  obtain ⟨i, move⟩ := step
  obtain ⟨o', s', turn, follows⟩ := (hc.follows i).turn move hc.coherent.regions_of_built
  refine ⟨Function.update outer i o', Function.update stage i s', ?_, hc.coherent.turn turn, ?_⟩
  · intro j
    by_cases hj : j = i
    · subst hj
      simpa using follows
    · simpa [hj] using hc.follows j
  · intro c hne held
    rcases turn.occupied hne held with ho | ⟨held, ho⟩
    · exact ⟨i, by rwa [Function.update_self]⟩
    · obtain ⟨j, hj⟩ := hc.occupied c hne held
      refine ⟨j, ?_⟩
      rwa [Function.update_of_ne]
      rintro rfl
      exact ho hj

/-- However callers take their turns, they stay consistent. -/
theorem consistent_of_reaches {endpoint : Url} {st : Callers ops}
    (reaches : Relation.ReflTransGen Step (start endpoint ops) st) :
    ∃ outer stage, Consistent st outer stage := by
  induction reaches with
  | refl => exact ⟨_, _, consistent_start endpoint⟩
  | tail _ step ih =>
    obtain ⟨outer, stage, hc⟩ := ih
    exact step.consistent hc

theorem regionListings_le_one {trace l : List Effect} (h : Effect.listing trace <+: l)
    (hl : Effect.regionListings l ≤ 1) : Effect.regionListings trace ≤ 1 := by
  rw [← Effect.regionListings_listing]
  exact h.sublist.countP_le.trans hl

/-- What holds whoever has had how many turns: the regions are listed at most once, and what the
listing was answered is reported once and goes into every answer. After a failure, no zones are
asked for, and once all callers have their answers all of them but one have replayed it. -/
def Lawful (st : Callers ops) : Prop :=
  Effect.regionListings st.shared.trace ≤ 1 ∧
  match st.shared.replies with
  | [] =>
    Effect.listing st.shared.trace <+: [.listedRegions] ∧
    Effect.zoneListings st.shared.trace = [] ∧ ∀ i, st.answer? i = none
  | [.error e] =>
    Effect.listing st.shared.trace <+: Effect.failedListing n ∧
    Effect.zoneListings st.shared.trace = [] ∧
    (∀ i a, st.answer? i = some a → (ops i).Reflects (.error ⟨e⟩) a) ∧
    ((∀ i, (st.answer? i).isSome) → Effect.listing st.shared.trace = Effect.failedListing n)
  | [.ok map] =>
    Effect.listing st.shared.trace <+: Effect.loadedListing map ∧
    ∀ i a, st.answer? i = some a → (ops i).Reflects (.ok map) a ∧
      Effect.listing st.shared.trace = Effect.loadedListing map
  | _ => False

namespace Consistent

variable {st : Callers ops} {outer : Fin n → Option Cell} {stage : Fin n → Stage}

theorem told_of_answer (hc : Consistent st outer stage) {i : Fin n} {a : (ops i).Answer}
    (h : st.answer? i = some a) : ∃ r, stage i = .told r ∧ (ops i).Reflects r a := by
  have hf := hc.follows i
  unfold answer? at h
  split at h
  · rename_i b hb
    cases h
    rw [hb] at hf
    generalize outer i = o, hs : stage i = s at hf
    cases hf with
    | @finished _ r _ good => exact ⟨r, rfl, good.2⟩
  · cases h

theorem answer_eq_none (hc : Consistent st outer stage) {i : Fin n}
    (h : ∀ r, stage i ≠ .told r) : st.answer? i = none := by
  cases ha : st.answer? i with
  | none => rfl
  | some a =>
    obtain ⟨r, hr, -⟩ := hc.told_of_answer ha
    exact absurd hr (h r)

theorem lawful_of_untold (hc : Consistent st outer stage) (untold : ∀ i r, stage i ≠ .told r)
    (zones : Effect.zoneListings st.shared.trace = [])
    (h : st.shared.replies = [] ∧ Effect.listing st.shared.trace <+: [.listedRegions] ∨
      Nonempty (Fin n) ∧ ∃ r, st.shared.replies = [r] ∧
        Effect.listing st.shared.trace <+: [.listedRegions, report r]) :
    st.Lawful := by
  have hnone (i : Fin n) : st.answer? i = none := hc.answer_eq_none (untold i)
  rcases h with ⟨replies, listing⟩ | ⟨⟨leader⟩, e | map, replies, listing⟩
  all_goals
    refine ⟨regionListings_le_one listing (Nat.le_refl 1), ?_⟩
    rw [replies]
  · exact ⟨listing, zones, hnone⟩
  · refine ⟨listing.trans ⟨_, rfl⟩, zones, fun i a ha => ?_, fun hall => ?_⟩
    · rw [hnone] at ha
      cases ha
    · have hleader := hall leader
      rw [hnone] at hleader
      cases hleader
  · refine ⟨listing, fun i a ha => ?_⟩
    rw [hnone] at ha
    cases ha

theorem lawful (hc : Consistent st outer stage) : st.Lawful := by
  cases hc.coherent with
  | untouched stages memory free listing zones replies =>
    refine hc.lawful_of_untold (fun i r => ?_) zones (.inl ⟨replies, ?_⟩)
    · rw [stages i]
      nofun
    · rw [listing]
      exact List.nil_prefix
  | led leader leads others memory held zones =>
    have untold (i : Fin n) (r : Except RegionLoadError RegionMap) : stage i ≠ .told r := by
      by_cases hi : i = leader
      · rintro hs
        rw [← hi, hs] at leads
        exact leads
      · rw [others i hi]
        nofun
    refine hc.lawful_of_untold untold zones ?_
    generalize stage leader = s at leads
    cases s with
    | entered =>
      refine .inl ⟨leads.2, ?_⟩
      rw [leads.1]
      exact List.nil_prefix
    | asked =>
      refine .inl ⟨leads.2, ?_⟩
      rw [leads.1]
    | heard r =>
      refine .inr ⟨⟨leader⟩, r, leads.2, ?_⟩
      rw [leads.1]
      exact ⟨_, rfl⟩
    | reported r =>
      refine .inr ⟨⟨leader⟩, r, leads.2, ?_⟩
      rw [leads.1]
    | _ => exact leads.elim
  | failed e told replays stages mem_told card memory free listing zones replies =>
    have hle : told.card ≤ n := by simpa using told.card_le_univ
    have hpre : Effect.listing st.shared.trace <+: Effect.failedListing n := by
      refine ⟨List.replicate (n - 1 - replays) (.emitted .regionsFailureReplayed), ?_⟩
      rw [listing, Effect.failedListing, List.cons_append, List.cons_append,
        List.replicate_append_replicate]
      congr 3
      omega
    refine ⟨regionListings_le_one hpre (Effect.regionListings_failedListing n).le, ?_⟩
    rw [replies]
    refine ⟨hpre, zones, fun i a ha => ?_, fun hall => ?_⟩
    · obtain ⟨r, hr, hreflects⟩ := hc.told_of_answer ha
      have hre : r = .error ⟨e⟩ := by simpa [hr] using stages i
      rwa [hre] at hreflects
    · have huniv : told = Finset.univ := by
        refine Finset.eq_univ_of_forall fun i => ?_
        obtain ⟨a, ha⟩ := Option.isSome_iff_exists.mp (hall i)
        obtain ⟨r, hr, -⟩ := hc.told_of_answer ha
        have hre : r = .error ⟨e⟩ := by simpa [hr] using stages i
        rw [← mem_told, hr, hre]
      have hn : n = replays + 1 := by rw [← card, huniv, Finset.card_univ, Fintype.card_fin]
      rw [listing, hn]
      rfl
  | succeeded map stages memory free listing replies =>
    refine ⟨regionListings_le_one ⟨[], (List.append_nil _).trans listing⟩ (Nat.le_refl 1), ?_⟩
    rw [replies]
    refine ⟨⟨[], (List.append_nil _).trans listing⟩, fun i a ha => ⟨?_, listing⟩⟩
    obtain ⟨r, hr, hreflects⟩ := hc.told_of_answer ha
    have hre : r = .ok map := by simpa [hr] using stages i
    rwa [hre] at hreflects

end Consistent

end Callers

end CloudReach.Discovery
