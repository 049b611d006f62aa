import CloudReach.Proofs.Discovery.Sequence
import Mathlib.Logic.Function.Basic

/-!
# Discovery by many callers

Callers of operations that take turns, each making one step of a procedure at a time. What a remote
operation answers is left open, and so is whose turn it is; a caller that needs a cell which another
one has entered waits.

`Follows` says what a caller may do next, given the stage it has reached in dealing with the listing
of the regions. All operations follow the stages.
-/

namespace CloudReach.Discovery

structure Shared where
  memory : Memory
  held : Cell → Bool
  trace : List Effect
  replies : List (Except ProviderError RegionMap)

namespace Shared

def start : Shared :=
  { memory := .blank, held := fun _ => false, trace := [], replies := [] }

def note (h : Shared) (e : Effect) : Shared :=
  { h with trace := h.trace ++ [e] }

def hear (h : Shared) (r : Except ProviderError RegionMap) : Shared :=
  { h with replies := h.replies ++ [r] }

def hold (h : Shared) (c : Cell) (held : Bool) : Shared :=
  { h with held := Function.update h.held c held }

def fill (h : Shared) (c : Cell) (v : c.Value) : Shared :=
  { h with memory := c.fill v h.memory }

theorem listing_note (h : Shared) {e : Effect} (he : e.ofListing = true) :
    Effect.listing (h.note e).trace = Effect.listing h.trace ++ [e] := by
  have hs : Effect.listing [e] = [e] := by simp [Effect.listing, he]
  exact (Effect.listing_append h.trace [e]).trans (by rw [hs])

theorem listing_note_of_not (h : Shared) {e : Effect} (he : e.ofListing = false) :
    Effect.listing (h.note e).trace = Effect.listing h.trace := by
  have hs : Effect.listing [e] = [] := by simp [Effect.listing, he]
  exact (Effect.listing_append h.trace [e]).trans (by rw [hs, List.append_nil])

theorem zoneListings_note (h : Shared) {e : Effect} (he : e.ofListing = true) :
    Effect.zoneListings (h.note e).trace = Effect.zoneListings h.trace := by
  have hs : Effect.zoneListings [e] = [] := by
    cases e with
    | listedZones region => cases he
    | _ => rfl
  exact (Effect.zoneListings_append h.trace [e]).trans (by rw [hs, List.append_nil])

theorem held_hold (h : Shared) (c : Cell) (held : Bool) : (h.hold c held).held c = held :=
  Function.update_self ..

theorem held_hold_of_ne (h : Shared) {c c' : Cell} (hne : c' ≠ c) (held : Bool) :
    (h.hold c held).held c' = h.held c' :=
  Function.update_of_ne hne ..

theorem held_of_released {h : Shared} {c d : Cell} (held : (h.hold d false).held c = true) :
    c ≠ d ∧ h.held c = true := by
  have hne : c ≠ d := by
    rintro rfl
    rw [held_hold] at held
    cases held
  exact ⟨hne, by rwa [held_hold_of_ne h hne] at held⟩

end Shared

inductive Move {α : Type} : Shared → Procedure α → Shared → Procedure α → Prop
  | note (h : Shared) (e : Effect) (p : Procedure α) : Move h (.note e p) (h.note e) p
  | hearRegions (h : Shared) (next : Except ProviderError RegionMap → Procedure α)
      (r : Except ProviderError RegionMap) : Move h (.hearRegions next) (h.hear r) (next r)
  | hearZones (h : Shared) (region : Region)
      (next : Except ProviderError (List ZoneInfo) → Procedure α)
      (r : Except ProviderError (List ZoneInfo)) : Move h (.hearZones region next) h (next r)
  | find {h : Shared} {c : Cell} (next : Option c.Value → Procedure α) (v : c.Value)
      (full : c.read h.memory = some v) : Move h (.enter c next) h (next (some v))
  | enter {h : Shared} {c : Cell} (next : Option c.Value → Procedure α)
      (empty : c.read h.memory = none) (free : h.held c = false) :
      Move h (.enter c next) (h.hold c true) (next none)
  | fill (h : Shared) (c : Cell) (v : c.Value) (p : Procedure α) :
      Move h (.fill c v p) ((h.fill c v).hold c false) p
  | giveUp (h : Shared) (c : Cell) (p : Procedure α) : Move h (.giveUp c p) (h.hold c false) p

structure Callers {n : Nat} (ops : Fin n → Operation) where
  shared : Shared
  left : (i : Fin n) → Procedure (ops i).Answer

namespace Callers

variable {n : Nat} {ops : Fin n → Operation}

def start (endpoint : Url) (ops : Fin n → Operation) : Callers ops :=
  { shared := .start, left := fun i => (ops i).procedure endpoint }

def answer? (st : Callers ops) (i : Fin n) : Option (ops i).Answer :=
  match st.left i with
  | .finished a => some a
  | _ => none

inductive Step (st : Callers ops) : Callers ops → Prop
  | turn (i : Fin n) {shared : Shared} {p : Procedure (ops i).Answer}
      (move : Move st.shared (st.left i) shared p) :
      Step st { shared, left := Function.update st.left i p }

end Callers

def outcome : Except ProviderError RegionMap → Except RegionLoadError RegionMap
  | .ok map => .ok map
  | .error e => .error ⟨e⟩

def report : Except ProviderError RegionMap → Effect
  | .ok map => .emitted (.regionsLoaded map.size)
  | .error _ => .emitted .regionsLoadFailed

/-- How far a caller has come in dealing with the listing of the regions. -/
inductive Stage
  | fresh
  | entered
  | asked
  | heard (r : Except ProviderError RegionMap)
  | reported (r : Except ProviderError RegionMap)
  | replaying (e : RegionLoadError)
  | told (r : Except RegionLoadError RegionMap)

/-- The steps that a caller may have before it, at a stage and inside an outer cell. An answer is
good in view of both. -/
inductive Follows {α : Type} (good : Option Cell → Except RegionLoadError RegionMap → α → Prop) :
    Option Cell → Stage → Procedure α → Prop
  | finished {o : Option Cell} {r : Except RegionLoadError RegionMap} {a : α} (h : good o r a) :
      Follows good o (.told r) (.finished a)
  | enter {o : Option Cell} {next : Option (Cell.Value .regions) → Procedure α}
      (full : ∀ map, Follows good o (.told (.ok map)) (next (some (.ok map))))
      (failed : ∀ e, Follows good o (.replaying e) (next (some (.error e))))
      (empty : Follows good o .entered (next none)) :
      Follows good o .fresh (.enter .regions next)
  | list {o : Option Cell} {p : Procedure α} (h : Follows good o .asked p) :
      Follows good o .entered (.note .listedRegions p)
  | hear {o : Option Cell} {next : Except ProviderError RegionMap → Procedure α}
      (h : ∀ r, Follows good o (.heard r) (next r)) : Follows good o .asked (.hearRegions next)
  | report {o : Option Cell} {r : Except ProviderError RegionMap} {p : Procedure α}
      (h : Follows good o (.reported r) p) : Follows good o (.heard r) (.note (report r) p)
  | settle {o : Option Cell} {r : Except ProviderError RegionMap} {p : Procedure α}
      (h : Follows good o (.told (outcome r)) p) :
      Follows good o (.reported r) (.fill .regions (outcome r) p)
  | replay {o : Option Cell} {e : RegionLoadError} {p : Procedure α}
      (h : Follows good o (.told (.error e)) p) :
      Follows good o (.replaying e) (.note (.emitted .regionsFailureReplayed) p)
  | work {o : Option Cell} {map : RegionMap} {e : Effect} {p : Procedure α}
      (he : e.ofListing = false) (h : Follows good o (.told (.ok map)) p) :
      Follows good o (.told (.ok map)) (.note e p)
  | hearZones {o : Option Cell} {map : RegionMap} {region : Region}
      {next : Except ProviderError (List ZoneInfo) → Procedure α}
      (h : ∀ r, Follows good o (.told (.ok map)) (next r)) :
      Follows good o (.told (.ok map)) (.hearZones region next)
  | enterOuter {c : Cell} {next : Option c.Value → Procedure α} (hc : c ≠ .regions)
      (full : ∀ v map, Follows good none (.told (.ok map)) (next (some v)))
      (empty : Follows good (some c) .fresh (next none)) : Follows good none .fresh (.enter c next)
  | fillOuter {c : Cell} {map : RegionMap} {v : c.Value} {p : Procedure α} (hc : c ≠ .regions)
      (h : Follows good none (.told (.ok map)) p) :
      Follows good (some c) (.told (.ok map)) (.fill c v p)
  | giveUpOuter {c : Cell} {r : Except RegionLoadError RegionMap} {p : Procedure α}
      (hc : c ≠ .regions) (h : Follows good none (.told r) p) :
      Follows good (some c) (.told r) (.giveUp c p)

/-! ### The operations follow the stages -/

theorem Follows.bind {α β : Type} {good : Option Cell → Except RegionLoadError RegionMap → α → Prop}
    {good' : Option Cell → Except RegionLoadError RegionMap → β → Prop} {o : Option Cell}
    {stage : Stage} {p : Procedure α} {f : α → Procedure β} (h : Follows good o stage p)
    (hf : ∀ o r a, good o r a → Follows good' o (.told r) (f a)) :
    Follows good' o stage (p.bind f) := by
  induction h with
  | finished h => exact hf _ _ _ h
  | enter _ _ _ full failed empty => exact .enter full failed empty
  | list _ ih => exact .list ih
  | hear _ ih => exact .hear ih
  | report _ ih => exact .report ih
  | settle _ ih => exact .settle ih
  | replay _ ih => exact .replay ih
  | work he _ ih => exact .work he ih
  | hearZones _ ih => exact .hearZones ih
  | enterOuter hc _ _ full empty => exact .enterOuter hc full empty
  | fillOuter hc _ ih => exact .fillOuter hc ih
  | giveUpOuter hc _ ih => exact .giveUpOuter hc ih

theorem follows_regions {o : Option Cell}
    (good : Option Cell → Except RegionLoadError RegionMap →
      Except RegionLoadError RegionMap → Prop) (h : ∀ r, good o r r) :
    Follows good o .fresh Procedure.regions := by
  refine .enter (fun map => .finished (h _)) (fun e => .replay (.finished (h _))) ?_
  refine .list (.hear fun r => ?_)
  cases r with
  | ok map => exact .report (r := .ok map) (.settle (r := .ok map) (.finished (h _)))
  | error e => exact .report (r := .error e) (.settle (r := .error e) (.finished (h _)))

theorem follows_mapZonesFrom (o : Option Cell) (listing : RegionMap) (rest : List Region)
    (map : ZoneMap) :
    Follows (fun o' r a => o' = o ∧ r = .ok listing ∧ ∀ e, a ≠ .error (.regions e)) o
      (.told (.ok listing)) (Procedure.mapZonesFrom rest map) := by
  induction rest generalizing map with
  | nil => exact .finished ⟨rfl, rfl, by simp⟩
  | cons region rest ih =>
    rw [Procedure.mapZonesFrom]
    split
    · exact .finished ⟨rfl, rfl, by simp⟩
    · refine .work rfl (.hearZones fun r => ?_)
      cases r with
      | error e => exact .finished ⟨rfl, rfl, by simp⟩
      | ok infos =>
        dsimp only
        cases ownZones region infos map with
        | error e => exact .finished ⟨rfl, rfl, by simp⟩
        | ok map => exact ih map

/-- The answer to an operation that is over reflects what became of the listing. -/
def Answers (op : Operation) (o : Option Cell) (r : Except RegionLoadError RegionMap)
    (a : op.Answer) : Prop :=
  o = none ∧ op.Reflects r a

def Hands (outer o : Option Cell) (r a : Except RegionLoadError RegionMap) : Prop :=
  o = outer ∧ a = r

theorem follows_zoneToRegion :
    Follows (Answers .zoneToRegion) none .fresh Procedure.zoneToRegion := by
  refine .enterOuter (by decide) (fun zones map => .finished ⟨rfl, rfl⟩) ?_
  refine (follows_regions (Hands (some .zones)) fun r => ⟨rfl, rfl⟩).bind fun o r a h => ?_
  obtain ⟨rfl, rfl⟩ := h
  cases a with
  | error e => exact .giveUpOuter (by decide) (.finished ⟨rfl, rfl⟩)
  | ok listing =>
    refine (follows_mapZonesFrom (some .zones) listing listing.keys .empty).bind fun o r a h => ?_
    obtain ⟨rfl, rfl, hne⟩ := h
    cases a with
    | error e =>
      refine .giveUpOuter (by decide) (.finished ⟨rfl, ?_⟩)
      cases e with
      | regions e => exact absurd rfl (hne e)
      | configuration e => rfl
      | describeZones region e => rfl
    | ok zones => exact .work rfl (.fillOuter (by decide) (.finished ⟨rfl, rfl⟩))

theorem follows_computeEndpoints :
    Follows (Answers .computeEndpoints) none .fresh Procedure.computeEndpoints := by
  refine .enterOuter (by decide) (fun table map => .finished ⟨rfl, rfl⟩) ?_
  refine (follows_regions (Hands (some .compute)) fun r => ⟨rfl, rfl⟩).bind fun o r a h => ?_
  obtain ⟨rfl, rfl⟩ := h
  cases a with
  | error e => exact .giveUpOuter (by decide) (.finished ⟨rfl, rfl⟩)
  | ok map =>
    dsimp only
    cases EndpointTable.ofMap .compute map with
    | error e => exact .giveUpOuter (by decide) (.finished ⟨rfl, rfl⟩)
    | ok table => exact .fillOuter (by decide) (.finished ⟨rfl, rfl⟩)

theorem follows_currentRegion (endpoint : Url) :
    Follows (Answers .currentRegion) none .fresh (Procedure.currentRegion endpoint) := by
  refine follows_computeEndpoints.bind fun o r a h => ?_
  obtain ⟨ho, ha⟩ := h
  cases a with
  | error e =>
    refine .finished ⟨ho, ?_⟩
    cases r <;> cases e <;> exact ha
  | ok table =>
    refine .finished ⟨ho, ?_⟩
    cases r with
    | error e => cases ha
    | ok map => cases table.regionFor endpoint <;> rfl

theorem follows_procedure (endpoint : Url) (op : Operation) :
    Follows (Answers op) none .fresh (op.procedure endpoint) := by
  cases op with
  | regions =>
    refine follows_regions _ fun r => ⟨rfl, ?_⟩
    cases r <;> rfl
  | zoneToRegion => exact follows_zoneToRegion
  | computeEndpoints => exact follows_computeEndpoints
  | currentRegion => exact follows_currentRegion endpoint

end CloudReach.Discovery
