import CloudReach.Proofs.Discovery.Query
import CloudReach.Proofs.Discovery.Questions
import CloudReach.Proofs.ResponsePolicy.Frame

/-!
# Zones by the listing

A context over a transport remembers the listing of the regions twice: the loader remembers it for
the context, and the query operations to know whom to ask. Both copies are made by the one listing
that succeeds, so a pass over the regions of the one never misses an endpoint in the other. `Pass`
says how a pass goes if each region is asked at the endpoint of its own row; every pass of a context
is one.
-/

namespace CloudReach

variable {σ : Type}

namespace ResponsePolicy

end ResponsePolicy

namespace Discovery

/-- How an operation is asked of an endpoint through a response policy. If the endpoint carries the
request and the transport is ready, it is sent there; the policy may send more afterwards. -/
inductive Query (t : Transport σ) (action : String) (endpoint : Url) (s : σ) :
    List Effect × Option (Except ProviderError String × σ) → Prop
  | unroutable {e : RouteError} (refused : Refuses action endpoint e) :
      Query t action endpoint s ([], some (.error (.route e), s))
  | unready {request : Request} {e : ProviderError} {s₁ : σ} (asks : Asks action endpoint request)
      (ready : t.ready s = (.error e, s₁)) : Query t action endpoint s ([], some (.error e, s₁))
  | sent {request : Request} {s₁ : σ} {more : List Effect}
      {out : Option (Except ProviderError String × σ)} (asks : Asks action endpoint request)
      (ready : t.ready s = (.ok (), s₁)) (foreign : ∀ e ∈ more, e.Foreign) :
      Query t action endpoint s (.sent request :: more, out)

/-- A pass over rows of a listing, with what is known of the zones so far. Each region is asked at
the endpoint of its row, and the first fault ends the pass. -/
inductive Pass (t : Transport σ) (reader : BodyReader) :
    List (Region × Url) → ZoneMap → σ →
      List Effect × Option (Except ZoneLookupError ZoneMap × σ) → Prop
  | done (map : ZoneMap) (s : σ) : Pass t reader [] map s ([], some (.ok map, s))
  | blank {row : Region × Url} {rest : List (Region × Url)} {map : ZoneMap} {s : σ}
      (blank : row.1.isBlank = true) :
      Pass t reader (row :: rest) map s
        ([], some (.error (.configuration (.emptyIdentifier .region)), s))
  | cutOff {row : Region × Url} {rest : List (Region × Url)} {map : ZoneMap} {s : σ}
      {own : List Effect} (query : Query t RouteTable.describeZones row.2 s (own, none)) :
      Pass t reader (row :: rest) map s (.listedZones row.1 :: own, none)
  | failed {row : Region × Url} {rest : List (Region × Url)} {map : ZoneMap} {s s₁ : σ}
      {own : List Effect} {r : Except ProviderError String} {e : ProviderError}
      (query : Query t RouteTable.describeZones row.2 s (own, some (r, s₁)))
      (answer : r.bind (reader.zones row.1) = .error e) :
      Pass t reader (row :: rest) map s
        (.listedZones row.1 :: own, some (.error (.describeZones row.1 e), s₁))
  | faulty {row : Region × Url} {rest : List (Region × Url)} {map : ZoneMap} {s s₁ : σ}
      {own : List Effect} {r : Except ProviderError String} {infos : List ZoneInfo}
      {e : ConfigurationError}
      (query : Query t RouteTable.describeZones row.2 s (own, some (r, s₁)))
      (answer : r.bind (reader.zones row.1) = .ok infos)
      (fault : ownZones row.1 infos map = .error e) :
      Pass t reader (row :: rest) map s
        (.listedZones row.1 :: own, some (.error (.configuration e), s₁))
  | asked {row : Region × Url} {rest : List (Region × Url)} {map map₁ : ZoneMap} {s s₁ : σ}
      {own : List Effect} {r : Except ProviderError String} {infos : List ZoneInfo}
      {later : List Effect × Option (Except ZoneLookupError ZoneMap × σ)}
      (query : Query t RouteTable.describeZones row.2 s (own, some (r, s₁)))
      (answer : r.bind (reader.zones row.1) = .ok infos)
      (added : ownZones row.1 infos map = .ok map₁)
      (pass : Pass t reader rest map₁ s₁ later) :
      Pass t reader (row :: rest) map s (.listedZones row.1 :: (own ++ later.1), later.2)

/-- What a pass leaves that has asked for the zones of every row: one query for each, in order,
whose first send goes to the endpoint of the row. -/
inductive Complete : List (Region × Url) → List Effect → Prop
  | done : Complete [] []
  | asked {row : Region × Url} {rest : List (Region × Url)} {request : Request}
      {more later : List Effect} (asks : Asks RouteTable.describeZones row.2 request)
      (foreign : ∀ e ∈ more, e.Foreign) (complete : Complete rest later) :
      Complete (row :: rest) (.listedZones row.1 :: .sent request :: (more ++ later))

variable {t : Transport σ} {reader : BodyReader} {action : String} {endpoint : Url} {s s₁ : σ}
  {own : List Effect}

/-- A query that is answered has been sent. -/
theorem Query.sent_of_ok {body : String}
    (h : Query t action endpoint s (own, some (.ok body, s₁))) :
    ∃ request more, own = .sent request :: more ∧ Asks action endpoint request ∧
      ∀ e ∈ more, e.Foreign := by
  cases h with
  | sent asks ready foreign => exact ⟨_, _, rfl, asks, foreign⟩

theorem Query.foreign {run : List Effect × Option (Except ProviderError String × σ)}
    (h : Query t action endpoint s run) : ∀ e ∈ run.1, e.Foreign := by
  cases h with
  | unroutable => exact fun _ he => nomatch he
  | unready => exact fun _ he => nomatch he
  | sent asks ready foreign =>
    intro e he
    rcases List.mem_cons.mp he with rfl | he
    · exact ⟨rfl, nofun⟩
    · exact foreign e he

theorem Pass.complete {rows : List (Region × Url)} {map zones : ZoneMap} {trace : List Effect}
    (h : Pass t reader rows map s (trace, some (.ok zones, s₁))) : Complete rows trace := by
  generalize hrun : (trace, some (Except.ok zones, s₁)) = run at h
  induction h generalizing trace with
  | done =>
    cases hrun
    exact .done
  | @asked row rest map map₁ s s₂ own r infos later query answer added pass ih =>
    obtain ⟨body, rfl⟩ : ∃ body, r = .ok body := by
      cases r with
      | error e => cases answer
      | ok body => exact ⟨body, rfl⟩
    obtain ⟨request, more, rfl, asks, foreign⟩ := query.sent_of_ok
    obtain ⟨rfl, hout⟩ := Prod.mk.inj hrun
    exact .asked asks foreign (ih (by rw [hout]))
  | _ => cases hrun

end Discovery

end CloudReach
