import CloudReach.Proofs.Discovery.Session
import CloudReach.Proofs.Discovery.ZoneMap

/-!
# The traffic of discovery

What a context sends for discovery over its whole life. Every send is made on behalf of a question
that was announced before it, and a question costs no more than one call of the response policy.
The regions are asked for once, and each pass over them asks for the zones of each at most once; a
listing that failed and a map that was built leave nothing to be asked.
-/

namespace CloudReach

variable {σ τ α β : Type}

/-! ### Sends on behalf of questions -/

namespace Effect

open Discovery (Question)

def question? : Effect → Option Question
  | listedRegions => some .regions
  | listedZones region => some (.zones region)
  | _ => none

def questions (trace : List Effect) : List Question :=
  trace.filterMap question?

/-- The sends of a trace on behalf of some questions: what is sent after one of them is announced
and before the next question is. The flag tells whether one of them has been announced before. -/
def sendsFor (q : Question → Bool) : Bool → List Effect → Nat
  | _, [] => 0
  | due, .sent _ :: rest => (if due then 1 else 0) + sendsFor q due rest
  | _, .listedRegions :: rest => sendsFor q (q .regions) rest
  | _, .listedZones region :: rest => sendsFor q (q (.zones region)) rest
  | due, _ :: rest => sendsFor q due rest

def dueAfter (q : Question → Bool) (due : Bool) (trace : List Effect) : Bool :=
  (questions trace).foldl (fun _ question => q question) due

theorem questions_append (l l' : List Effect) :
    questions (l ++ l') = questions l ++ questions l' :=
  List.filterMap_append

theorem sendsFor_append (q : Question → Bool) (due : Bool) (l l' : List Effect) :
    sendsFor q due (l ++ l') = sendsFor q due l + sendsFor q (dueAfter q due l) l' := by
  induction l generalizing due with
  | nil => exact (Nat.zero_add _).symm
  | cons e rest ih =>
    rw [List.cons_append]
    cases e with
    | sent request =>
      rw [sendsFor, sendsFor, ih, Nat.add_assoc]
      rfl
    | _ => exact ih _

theorem sendsFor_le (q : Question → Bool) (due : Bool) (trace : List Effect) :
    sendsFor q due trace ≤ (requests trace).length := by
  induction trace generalizing due with
  | nil => exact Nat.le_refl 0
  | cons e rest ih =>
    cases e with
    | sent request =>
      have hsent : requests (.sent request :: rest) = request :: requests rest := rfl
      rw [sendsFor, hsent, List.length_cons, Nat.add_comm]
      exact Nat.add_le_add (ih due) (by split <;> decide)
    | _ => exact ih _

/-- Every send is on behalf of the questions of some kind or else of the others. -/
theorem sendsFor_add_sendsFor_not (q : Question → Bool) (due : Bool) (trace : List Effect) :
    sendsFor q due trace + sendsFor (fun question => !q question) (!due) trace =
      (requests trace).length := by
  induction trace generalizing due with
  | nil => rfl
  | cons e rest ih =>
    cases e with
    | sent request =>
      have hsent : requests (.sent request :: rest) = request :: requests rest := rfl
      rw [sendsFor, sendsFor, hsent, List.length_cons, ← ih due]
      cases due
      · change 0 + _ + (1 + _) = _
        omega
      · change 1 + _ + (0 + _) = _
        omega
    | _ => exact ih _

theorem Foreign.question? {e : Effect} (h : e.Foreign) : e.question? = none := by
  obtain ⟨hlisting, hzones⟩ := h
  cases e with
  | listedRegions => cases hlisting
  | listedZones region => exact absurd rfl (hzones region)
  | _ => rfl

/-- Where no question is announced, nothing is sent on behalf of one. -/
theorem sendsFor_foreign (q : Question → Bool) {trace : List Effect}
    (h : ∀ e ∈ trace, e.Foreign) : sendsFor q false trace = 0 := by
  induction trace with
  | nil => rfl
  | cons e rest ih =>
    have hnone := (h e List.mem_cons_self).question?
    have hrest := ih fun e he => h e (List.mem_cons_of_mem _ he)
    cases e with
    | listedRegions | listedZones => cases hnone
    | sent request => exact (Nat.zero_add _).trans hrest
    | _ => exact hrest

/-- Nothing is sent in a trace but on behalf of the questions it announces, and for each of them not
more than some requests. -/
def Paid (k : Nat) (trace : List Effect) : Prop :=
  ∀ q due, sendsFor q due trace ≤ k * (questions trace).countP q

variable {k : Nat}

theorem Paid.sendsFor_eq {trace : List Effect} (h : Paid k trace) :
    sendsFor (fun _ => true) false trace = (requests trace).length := by
  have hnone : sendsFor (fun _ => false) true trace = 0 := by
    have hle := h (fun _ => false) true
    rw [List.countP_false, Function.const_apply, Nat.mul_zero] at hle
    exact Nat.le_zero.mp hle
  rw [← sendsFor_add_sendsFor_not (fun _ => true) false trace]
  exact (Nat.add_eq_left.mpr hnone).symm

theorem Paid.of_requests_eq_nil {trace : List Effect} (h : requests trace = []) :
    Paid k trace := by
  intro q due
  have hle := sendsFor_le q due trace
  rw [h, List.length_nil] at hle
  exact Nat.le_trans hle (Nat.zero_le _)

theorem Paid.append {l l' : List Effect} (h : Paid k l) (h' : Paid k l') : Paid k (l ++ l') := by
  intro q due
  rw [sendsFor_append, questions_append, List.countP_append, Nat.mul_add]
  exact Nat.add_le_add (h q due) (h' q _)

/-- A question, and what is sent to have it answered. -/
theorem Paid.of_question {e : Effect} {question : Question} {own : List Effect}
    (he : e.question? = some question) (foreign : ∀ e ∈ own, e.Foreign)
    (hown : (requests own).length ≤ k) : Paid k (e :: own) := by
  intro q due
  have hquestions : questions (e :: own) = [question] := by
    have hnone : questions own = [] :=
      List.filterMap_eq_nil_iff.mpr fun e h => (foreign e h).question?
    rw [questions, List.filterMap_cons_some he]
    exact congrArg (question :: ·) hnone
  have hsends : sendsFor q due (e :: own) = sendsFor q (q question) own := by
    cases e with
    | listedRegions | listedZones =>
      cases he
      rfl
    | _ => cases he
  rw [hsends, hquestions, List.countP_singleton]
  cases hq : q question with
  | true =>
    change _ ≤ k * 1
    rw [Nat.mul_one]
    exact Nat.le_trans (sendsFor_le q true own) hown
  | false =>
    rw [sendsFor_foreign q foreign]
    exact Nat.zero_le _

end Effect

namespace Act

open Effect (Paid)

variable {k : Nat}

def Thrifty (k : Nat) (a : Act σ α) : Prop :=
  ∀ s, (a.run s).2 ≠ none ∧ (Effect.requests (a.run s).1).length ≤ k

def Costs (k : Nat) (a : Act σ α) : Prop :=
  ∀ s, (a.run s).2 ≠ none ∧ Paid k (a.run s).1

theorem Thrifty.onFirst {a : Act σ α} (h : Thrifty k a) : Thrifty k (a.onFirst (τ := τ)) := by
  intro s
  rw [run_onFirst]
  exact ⟨mt Option.map_eq_none_iff.mp (h s.1).1, (h s.1).2⟩

namespace Costs

theorem pure (x : α) : Costs k (Pure.pure x : Act σ α) :=
  fun _ => ⟨Option.some_ne_none _, .of_requests_eq_nil rfl⟩

theorem step (f : σ → α × σ) : Costs k (Act.step f) :=
  fun _ => ⟨Option.some_ne_none _, .of_requests_eq_nil rfl⟩

theorem emit (e : Event) : Costs k (Act.emit e : Act σ Unit) :=
  fun _ => ⟨Option.some_ne_none _, .of_requests_eq_nil rfl⟩

theorem bind {a : Act σ α} {f : α → Act σ β} (ha : Costs k a) (hf : ∀ x, Costs k (f x)) :
    Costs k (a >>= f) := by
  intro s
  obtain ⟨hends, hpaid⟩ := ha s
  rcases hr : a.run s with ⟨trace, _ | ⟨x, s'⟩⟩
  · exact absurd (congrArg Prod.snd hr) hends
  · rw [hr] at hpaid
    rw [run_bind_of_some hr]
    exact ⟨(hf x s').1, hpaid.append (hf x s').2⟩

theorem onFirst {a : Act σ α} (h : Costs k a) : Costs k (a.onFirst (τ := τ)) := by
  intro s
  rw [run_onFirst]
  exact ⟨mt Option.map_eq_none_iff.mp (h s.1).1, (h s.1).2⟩

/-- Asking a question, and going on with the answer. -/
theorem ask {e : Effect} {question : Discovery.Question} (he : e.question? = some question)
    {a : Act σ α} (only : a.Only Effect.Foreign) (thrifty : a.Thrifty k) {f : α → Act σ β}
    (hf : ∀ x, Costs k (f x)) : Costs k (Act.note e >>= fun _ => a >>= f) := by
  rw [← bind_assoc]
  refine bind (fun s => ?_) hf
  rw [run_note_bind]
  exact ⟨(thrifty s).1, .of_question he (only s) (thrifty s).2⟩

end Costs

end Act

structure RegionApi.Thrifty (k : Nat) (api : RegionApi σ) : Prop where
  regions : api.regions.Thrifty k
  zones : ∀ region, (api.zones region).Thrifty k

theorem Memory.listing_of_ok {m : Memory} {map : RegionMap} (h : m.regions = some (.ok map)) :
    m.listing = map := by
  rw [listing, h]

namespace Discovery

/-! ### Every operation pays -/

section Costs

variable {api : RegionApi σ} {k : Nat} (discreet : api.Discreet) (thrifty : api.Thrifty k)
include discreet thrifty

theorem costs_regions : (regions api).Costs k := by
  refine .bind (.step _) fun known => ?_
  rcases known with _ | ⟨e | map⟩
  · refine .ask rfl discreet.regions.onFirst thrifty.regions.onFirst fun r => ?_
    cases r with
    | error e => exact .bind (.emit _) fun _ => .bind (.step _) fun _ => .pure _
    | ok map => exact .bind (.emit _) fun _ => .bind (.step _) fun _ => .pure _
  · exact .bind (.emit _) fun _ => .pure _
  · exact .pure _

theorem costs_mapZonesFrom (regions : List Region) (map : ZoneMap) :
    (mapZonesFrom api regions map).Costs k := by
  induction regions generalizing map with
  | nil => exact .pure _
  | cons region rest ih =>
    rw [mapZonesFrom]
    split
    · exact .pure _
    · refine .ask rfl (discreet.zones region) (thrifty.zones region) fun r => ?_
      cases r with
      | error e => exact .pure _
      | ok infos =>
        dsimp only
        cases ownZones region infos map with
        | error e => exact .pure _
        | ok map => exact ih map

theorem costs_zoneToRegion : (zoneToRegion api).Costs k := by
  refine .bind (.step _) fun known => ?_
  cases known with
  | some map => exact .pure _
  | none =>
    refine .bind (costs_regions discreet thrifty) fun r => ?_
    cases r with
    | error e => exact .pure _
    | ok listing =>
      refine .bind (costs_mapZonesFrom discreet thrifty listing.keys .empty).onFirst fun r => ?_
      cases r with
      | error e => exact .pure _
      | ok map => exact .bind (.emit _) fun _ => .bind (.step _) fun _ => .pure _

theorem costs_computeEndpoints : (computeEndpoints api).Costs k := by
  refine .bind (.step _) fun known => ?_
  cases known with
  | some table => exact .pure _
  | none =>
    refine .bind (costs_regions discreet thrifty) fun r => ?_
    cases r with
    | error e => exact .pure _
    | ok map =>
      dsimp only
      cases EndpointTable.ofMap .compute map with
      | error e => exact .pure _
      | ok table => exact .bind (.step _) fun _ => .pure _

end Costs

end Discovery

namespace Context

variable {c : Context σ} {k : Nat}

theorem costs_perform (discreet : c.api.Discreet) (thrifty : c.api.Thrifty k) (op : Operation) :
    (c.perform op).Costs k := by
  cases op with
  | regions => exact Discovery.costs_regions discreet thrifty
  | zoneToRegion => exact Discovery.costs_zoneToRegion discreet thrifty
  | computeEndpoints => exact Discovery.costs_computeEndpoints discreet thrifty
  | currentRegion =>
    refine .bind (Discovery.costs_computeEndpoints discreet thrifty) fun r => ?_
    cases r <;> exact .pure _

theorem costs_performEach (discreet : c.api.Discreet) (thrifty : c.api.Thrifty k)
    (ops : List Operation) : (c.performEach ops).Costs k := by
  induction ops with
  | nil => exact .pure _
  | cons op rest ih =>
    exact .bind (costs_perform discreet thrifty op) fun _ => .bind ih fun _ => .pure _

end Context

/-! ### What a question costs -/

namespace Discovery

variable {R C : Nat}

theorem thrifty_sendOperation {action : String} (h : IsOperation action)
    (interpreters : Category → Interpreter) (b : Category → ResponsePolicy.Binding σ R C)
    (t : Transport σ) (more : Nat) (endpoint : Url) :
    (sendOperation ((ResponsePolicy.ofBindings interpreters b).layer (1 + R + C + more) t.service)
      action endpoint).Thrifty (1 + R + C) := by
  intro s
  rcases run_sendOperation_cases h ((ResponsePolicy.ofBindings interpreters b).layer
    (1 + R + C + more) t.service) endpoint s with ⟨e, -, hrun⟩ | ⟨request, -, hrun⟩
  all_goals rw [hrun]
  · exact ⟨Option.some_ne_none _, Nat.zero_le _⟩
  · rw [ResponsePolicy.run_send]
    rcases t.ready s with ⟨e | ⟨⟨⟩⟩, s₁⟩
    · exact ⟨Option.some_ne_none _, Nat.zero_le _⟩
    · obtain ⟨hends, haffordable⟩ :=
        ResponsePolicy.call_affordable interpreters b t more request s₁
      exact ⟨mt Option.map_eq_none_iff.mp hends, haffordable.sends⟩

/-- A question that is asked by a query operation costs a call of the policy. -/
theorem thrifty_queryApi (interpreters : Category → Interpreter)
    (b : Category → ResponsePolicy.Binding σ R C) (t : Transport σ) (more : Nat) (endpoint : Url)
    (reader : BodyReader) :
    (queryApi ((ResponsePolicy.ofBindings interpreters b).layer (1 + R + C + more) t.service)
      endpoint reader).Thrifty (1 + R + C) where
  regions w := by
    obtain ⟨hends, hle⟩ :=
      thrifty_sendOperation isOperation_describeRegions interpreters b t more endpoint w.1
    rw [run_queryApi_regions]
    exact ⟨mt Option.map_eq_none_iff.mp hends, hle⟩
  zones region w := by
    cases hlisted : w.2.get? region with
    | none =>
      rw [run_queryApi_zones_of_unlisted hlisted]
      exact ⟨Option.some_ne_none _, Nat.zero_le _⟩
    | some regional =>
      obtain ⟨hends, hle⟩ :=
        thrifty_sendOperation isOperation_describeZones interpreters b t more regional w.1
      rw [run_queryApi_zones_of_listed hlisted]
      exact ⟨mt Option.map_eq_none_iff.mp hends, hle⟩

/-! ### How many questions there are -/

def Question.isRegions : Question → Bool
  | regions => true
  | zones _ => false

theorem countP_isRegions (trace : List Effect) :
    (Effect.questions trace).countP Question.isRegions = Effect.regionListings trace := by
  refine (List.countP_filterMap ..).trans (List.countP_congr fun e _ => ?_)
  cases e <;> simp [Effect.question?, Question.isRegions]

theorem countP_not_isRegions (trace : List Effect) :
    (Effect.questions trace).countP (fun question => !question.isRegions) =
      (Effect.zoneListings trace).length := by
  rw [Effect.zoneListings, List.length_filterMap_eq_countP]
  refine (List.countP_filterMap ..).trans (List.countP_congr fun e _ => ?_)
  cases e <;> simp [Effect.question?, Question.isRegions]

section Zones

variable {api : RegionApi σ} (discreet : api.Discreet)
include discreet

theorem zoneListings_regions (m : Memory) (s : σ) :
    Effect.zoneListings ((regions api).run (s, m)).1 = [] := by
  refine Effect.zoneListings_eq_nil fun e he region => ?_
  refine regions_only (P := (· ≠ .listedZones region)) ?_ (fun w e he => ?_) _ e he
  · rintro e hlisting rfl
    cases hlisting
  · exact (discreet.regions w e he).2 region

theorem zoneListings_of_listed {s s₁ : σ} {m m₁ : Memory} {map : RegionMap} {trace : List Effect}
    {a : Except ZoneLookupError ZoneMap} (hm : m.regions = some (.ok map)) (hz : m.zones = none)
    (h : (zoneToRegion api).run (s, m) = (trace, some (a, s₁, m₁))) :
    (Effect.zoneListings trace).length ≤ m₁.listing.size := by
  have hsurvey := ((survey_mapZones api map.keys s).zoneListings discreet).1.length_le
  have hkeys : map.keys.length = map.size := List.length_map ..
  rw [run_zoneToRegion_of_listed api hm hz] at h
  rcases hpass : (mapZones api map.keys).run s with ⟨own, _ | ⟨e | zones, s'⟩⟩
  all_goals
    rw [hpass, hkeys] at hsurvey
    rw [hpass] at h
    cases h
  · rwa [Memory.listing_of_ok hm]
  · have hlisting : { m with zones := some zones }.listing = map := Memory.listing_of_ok hm
    have hmapped : Effect.zoneListings [.emitted (.zonesMapped map.size zones.size)] = [] := rfl
    rwa [hlisting, Effect.zoneListings_append, hmapped, List.append_nil]

/-- Asking for the map asks for the zones of the listed regions, each at most once. -/
theorem zoneListings_zoneToRegion {s s₁ : σ} {m m₁ : Memory} {trace : List Effect}
    {a : Except ZoneLookupError ZoneMap}
    (h : (zoneToRegion api).run (s, m) = (trace, some (a, s₁, m₁))) :
    (Effect.zoneListings trace).length ≤ m₁.listing.size := by
  cases hz : m.zones with
  | some zones =>
    rw [run_zoneToRegion_of_built api hz] at h
    cases h
    exact Nat.zero_le _
  | none =>
    have hnone := zoneListings_regions discreet m s
    rw [run_zoneToRegion_of_unbuilt api hz] at h
    rcases hlisting : (regions api).run (s, m) with ⟨l, _ | ⟨e | map, s', m'⟩⟩
    all_goals rw [hlisting] at h hnone
    · cases h
    · cases h
      rw [hnone]
      exact Nat.zero_le _
    · have known := memory_of_regions hlisting
      have hm' : m'.regions = some (.ok map) := by rw [known]
      rcases hrun : (zoneToRegion api).run (s', m') with ⟨later, out⟩
      dsimp only at h
      rw [hrun] at h
      cases h
      rw [Effect.zoneListings_append, hnone]
      exact zoneListings_of_listed discreet hm' (known ▸ hz) hrun

end Zones

end Discovery

/-! ### When nothing is left to be asked -/

namespace Operation

def zoneMap? : (op : Operation) → op.Answer → Option ZoneMap
  | zoneToRegion, .ok zones => some zones
  | _, _ => none

theorem failure?_eq_none {map : RegionMap} {op : Operation} {a : op.Answer}
    (h : op.Reflects (.ok map) a) : op.failure? a = none := by
  cases op with
  | regions =>
    obtain rfl : a = .ok map := h
    rfl
  | _ => exact h

end Operation

namespace Context

variable {c : Context σ} {m : Memory} {map : RegionMap} {w : σ × RegionMap}

/-- A map that was built or returned is remembered. -/
theorem zones_of_perform (hm : m.regions = some (.ok map)) {op : Operation} {a : op.Answer}
    {w₁ : σ × RegionMap} {m₁ : Memory}
    (h : ((c.perform op).run (w, m)).2 = some (a, w₁, m₁)) :
    m₁.regions = some (.ok map) ∧
      (m.zones ≠ none ∨ op.zoneMap? a ≠ none → m₁.zones ≠ none) := by
  by_cases hidle : op = .zoneToRegion → m.zones ≠ none
  · obtain ⟨a', m', hrun, hregions, hzones⟩ := c.run_perform_idle hm hidle w
    rw [hrun] at h
    cases h
    refine ⟨hregions.trans hm, fun hmap => hzones ▸ ?_⟩
    rcases hmap with hbuilt | hmap
    · exact hbuilt
    · cases op with
      | zoneToRegion => exact hidle rfl
      | _ => exact absurd rfl hmap
  · obtain ⟨rfl, hbuilt⟩ := Classical.not_imp.mp hidle
    have hz : m.zones = none := Classical.not_not.mp hbuilt
    have hrun : (c.perform .zoneToRegion).run (w, m) = _ :=
      Discovery.run_zoneToRegion_of_listed c.api hm hz w
    rw [hrun] at h
    rcases hpass : (Discovery.mapZones c.api map.keys).run w with ⟨trace, _ | ⟨e | zones, s₁⟩⟩
    all_goals
      rw [hpass] at h
      cases h
    · exact ⟨hm, fun hmap => hmap.resolve_right (absurd rfl)⟩
    · exact ⟨hm, fun _ => Option.some_ne_none zones⟩

theorem zones_of_performEach (hm : m.regions = some (.ok map)) {ops : List Operation}
    {answers : List ((op : Operation) × op.Answer)} {w₁ : σ × RegionMap} {m₁ : Memory}
    (h : ((c.performEach ops).run (w, m)).2 = some (answers, w₁, m₁)) :
    m₁.regions = some (.ok map) ∧
      (m.zones ≠ none ∨ (∃ a ∈ answers, a.1.zoneMap? a.2 ≠ none) → m₁.zones ≠ none) := by
  induction ops generalizing w m answers with
  | nil =>
    cases h
    refine ⟨hm, ?_⟩
    rintro (hbuilt | ⟨a, ha, -⟩)
    · exact hbuilt
    · cases ha
  | cons op rest ih =>
    rcases hrun : (c.perform op).run (w, m) with ⟨trace, _ | ⟨a, w', m'⟩⟩
    · rw [performEach, Act.run_bind_of_none hrun] at h
      cases h
    · obtain ⟨hm', hstep⟩ := zones_of_perform hm (congrArg Prod.snd hrun)
      rw [c.run_performEach_cons hrun] at h
      obtain ⟨⟨later, w₂⟩, hlater, heq⟩ := Option.map_eq_some_iff.mp h
      cases heq
      obtain ⟨hm₁, hrest⟩ := ih hm' hlater
      refine ⟨hm₁, fun hmap => hrest ?_⟩
      rcases hmap with hbuilt | ⟨a', ha', hmap⟩
      · exact .inl (hstep (.inl hbuilt))
      · rcases List.mem_cons.mp ha' with rfl | ha'
        · exact .inl (hstep (.inr hmap))
        · exact .inr ⟨a', ha', hmap⟩

/-- Once the zones are known, nothing is left to be asked. -/
theorem run_performEach_settled (hm : m.regions = some (.ok map)) (hz : m.zones ≠ none)
    (ops : List Operation) (w : σ × RegionMap) : ((c.performEach ops).run (w, m)).1 = [] := by
  induction ops generalizing m with
  | nil => rfl
  | cons op rest ih =>
    obtain ⟨a, m₁, hrun, hregions, hzones⟩ := c.run_perform_idle hm (fun _ => hz) w
    rw [c.run_performEach_cons hrun]
    exact ih (hregions.trans hm) (hzones ▸ hz)

/-- After a failure of the listing or a map of the zones, nothing is sent any more. -/
theorem requests_eq_nil_of_settled (discreet : c.api.Discreet) {ops : List Operation} {s : σ}
    {answers : List ((op : Operation) × op.Answer)} {w : World σ}
    (h : ((c.performEach ops).run (start s)).2 = some (answers, w))
    (settled : ∃ a ∈ answers, a.1.failure? a.2 ≠ none ∨ a.1.zoneMap? a.2 ≠ none)
    (later : List Operation) : Effect.requests ((c.performEach later).run w).1 = [] := by
  cases ops with
  | nil =>
    cases h
    obtain ⟨a, ha, -⟩ := settled
    cases ha
  | cons op rest =>
    rcases hr : c.api.regions.run (s, .empty) with ⟨own, _ | ⟨e | map, w₁⟩⟩
    · rw [run_performEach_cutOff hr] at h
      cases h
    · obtain ⟨answers', hrun, -⟩ := run_performEach_error hr op rest
      rw [hrun] at h
      cases h
      obtain ⟨answers'', hlater, -⟩ := c.run_performEach_failed later ⟨e⟩ w₁
      rw [hlater]
      exact List.filterMap_replicate_of_none rfl
    · rw [run_performEach_ok hr] at h
      have hloaded : (Memory.loaded map).regions = some (.ok map) := rfl
      obtain ⟨-, hanswers⟩ := c.performEach_drawsOn discreet hloaded (op :: rest) w₁
      obtain ⟨a, ha, hsettled⟩ := settled
      have hfailure := Operation.failure?_eq_none ((hanswers _ _ h).2 a ha)
      obtain ⟨w', m'⟩ := w
      obtain ⟨hm, hzones⟩ := zones_of_performEach hloaded h
      have hz : m'.zones ≠ none :=
        hzones (.inr ⟨a, ha, hsettled.resolve_left (absurd hfailure)⟩)
      rw [run_performEach_settled hm hz]
      rfl

theorem map_fst_of_performEach {ops : List Operation}
    {answers : List ((op : Operation) × op.Answer)} {w w₁ : World σ}
    (h : ((c.performEach ops).run w).2 = some (answers, w₁)) : answers.map Sigma.fst = ops := by
  induction ops generalizing w answers with
  | nil =>
    cases h
    rfl
  | cons op rest ih =>
    rcases hrun : (c.perform op).run w with ⟨trace, _ | ⟨a, w'⟩⟩
    · rw [performEach, Act.run_bind_of_none hrun] at h
      cases h
    · rw [c.run_performEach_cons hrun] at h
      obtain ⟨⟨later, w₂⟩, hlater, heq⟩ := Option.map_eq_some_iff.mp h
      cases heq
      exact congrArg (op :: ·) (ih hlater)

theorem regionListings_performEach_le (discreet : c.api.Discreet) (ops : List Operation) (s : σ) :
    Effect.regionListings ((c.performEach ops).run (start s)).1 ≤ 1 := by
  cases ops with
  | nil => exact Nat.zero_le 1
  | cons op rest => exact Nat.le_of_eq (c.performEach_lawful_of_discreet discreet op rest s).1

open Discovery (Question)

/-- A context over a transport, under handlers for redirects and refused requests that are bound in
any way. Whatever is asked of it, it answers, and everything it sends is sent on behalf of a
question. Over its whole life the listing costs no more than one call of the policy; asking for the
map of the zones once costs no more than a call for each region that is listed; and after a listing
that failed or a map of the zones nothing is sent. -/
theorem discovery_traffic_bounded {R C more : Nat} {properties : Properties} {t : Transport σ}
    {reader : BodyReader} {interpreters : Category → Interpreter}
    {b : Category → ResponsePolicy.Binding σ R C} {loadBalancers : EndpointTable}
    {watch : Stopwatch} {now : Instant} {c : Context σ}
    (h : build properties (some (.transport t reader)) (.ofBindings interpreters b)
      (1 + R + C + more) loadBalancers watch now = .ok c) (ops : List Operation) (s : σ) :
    let run := (c.performEach ops).run (start s)
    ∃ answers w, run.2 = some (answers, w) ∧ answers.map Sigma.fst = ops ∧
      Effect.sendsFor (fun _ => true) false run.1 = (Effect.requests run.1).length ∧
      Effect.sendsFor Question.isRegions false run.1 ≤ 1 + R + C ∧
      (∃ trace a w₁, c.zoneToRegion.run w = (trace, some (a, w₁)) ∧
        Effect.sendsFor (fun question => !question.isRegions) false trace ≤
          w₁.2.listing.size * (1 + R + C)) ∧
      ((∃ a ∈ answers, a.1.failure? a.2 ≠ none ∨ a.1.zoneMap? a.2 ≠ none) →
        ∀ later, Effect.requests ((c.performEach later).run w).1 = []) := by
  intro run
  obtain ⟨discreet, thrifty⟩ : c.api.Discreet ∧ c.api.Thrifty (1 + R + C) := by
    obtain ⟨v, -, rfl⟩ := build_eq_ok_iff.mp h
    exact ⟨Discovery.discreet_queryApi .., Discovery.thrifty_queryApi ..⟩
  obtain ⟨hends, hpaid⟩ := costs_performEach discreet thrifty ops (start s)
  obtain ⟨⟨answers, w⟩, hrun⟩ := Option.ne_none_iff_exists'.mp hends
  refine ⟨answers, w, hrun, map_fst_of_performEach hrun, ?_, ?_, ?_,
    requests_eq_nil_of_settled discreet hrun⟩
  · exact hpaid.sendsFor_eq
  · have hlisted := regionListings_performEach_le discreet ops s
    rw [← Discovery.countP_isRegions] at hlisted
    refine Nat.le_trans (hpaid Question.isRegions false) ?_
    exact Nat.le_trans (Nat.mul_le_mul_left _ hlisted) (Nat.le_of_eq (Nat.mul_one _))
  · obtain ⟨hanswered, hzones⟩ := Discovery.costs_zoneToRegion discreet thrifty w
    rcases hmap : (Discovery.zoneToRegion c.api).run w with ⟨trace, _ | ⟨a, w₁⟩⟩
    · exact absurd (congrArg Prod.snd hmap) hanswered
    · rw [hmap] at hzones
      refine ⟨trace, a, w₁, hmap, Nat.le_trans (hzones _ false) ?_⟩
      rw [Discovery.countP_not_isRegions, Nat.mul_comm]
      exact Nat.mul_le_mul_right _ (Discovery.zoneListings_zoneToRegion discreet hmap)

/-- A provider with two regions that refuses every request twice before it answers. The world counts
the requests. -/
def busyProvider : Transport Nat where
  ready n := (.ok (), n)
  reply _ n :=
    (.ok
      { status := if n % 3 < 2 then 429 else 200
        headers := ⟨[]⟩
        body := if n < 3 then "a https://ec2.a.x/\nb https://ec2.b.x/\n" else "zone" }, n + 1)

def patientBinding : Category → ResponsePolicy.Binding Nat 0 2
  | .clientError =>
    .clientError { limit := 2, backoff := .constant .zero, jitter := .none } ErrorDocument.parse
      (fun n => (0, n)) (Nat.le_refl 2)
  | _ => .none

def busyContext : Except BootstrapError (Context Nat) :=
  build .standard (some (.transport busyProvider Discovery.plainReader))
    (.ofBindings (fun _ => interpret) patientBinding) (1 + 0 + 2 + 0) .loadBalancerDefaults .clock
    .epoch

/-- The bounds are reached: three sends for the listing, three for each of the two regions. Then
there is a map, and nothing is sent any more. -/
theorem traffic_of_busy_provider :
    ∃ c, busyContext = .ok c ∧
      let run := (c.performEach [.regions, .zoneToRegion]).run (start 0)
      Effect.sendsFor Question.isRegions false run.1 = 1 + 0 + 2 ∧
      Effect.sendsFor (fun question => !question.isRegions) false run.1 = 2 * (1 + 0 + 2) ∧
      ∃ answers w, run.2 = some (answers, w) ∧
        ∀ later, Effect.requests ((c.performEach later).run w).1 = [] := by
  have hrun : (busyContext.toOption.map fun c =>
      let run := (c.performEach [.regions, .zoneToRegion]).run (start 0)
      (Effect.sendsFor Question.isRegions false run.1,
        Effect.sendsFor (fun question => !question.isRegions) false run.1,
        run.2.map fun r => r.1.any fun a => (a.1.zoneMap? a.2).isSome)) =
      some (1 + 0 + 2, 2 * (1 + 0 + 2), some true) := by decide +kernel
  cases hbuild : busyContext with
  | error e =>
    rw [hbuild] at hrun
    cases hrun
  | ok c =>
    rw [hbuild] at hrun
    obtain ⟨answers, w, hanswers, -, -, -, -, hsettled⟩ :=
      discovery_traffic_bounded hbuild [.regions, .zoneToRegion] 0
    simp only [Except.toOption, Option.map_some, Option.some.injEq, Prod.mk.injEq, hanswers,
      List.any_eq_true] at hrun
    obtain ⟨hlisting, hzones, a, ha, hmap⟩ := hrun
    refine ⟨c, rfl, hlisting, hzones, answers, w, hanswers, hsettled ⟨a, ha, .inr ?_⟩⟩
    exact Option.isSome_iff_ne_none.mp hmap

end Context

end CloudReach
