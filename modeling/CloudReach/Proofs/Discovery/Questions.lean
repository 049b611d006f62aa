import CloudReach.Discovery.Listing
import CloudReach.Proofs.Discovery.Operation
import CloudReach.Proofs.World

/-!
# Whom query operations ask

Discovery by query operations keeps the last listing that was understood and asks the regions of
that listing, each at its own endpoint. `Asked` says what one question hands to the service, and
what it makes of the listing. Which listing is kept depends on the answers alone: it is
`lastListing` of them.
-/

namespace CloudReach

variable {σ : Type}

/-- The service as one sees it who hands requests to it: a request is seen, and nothing else. -/
def Service.watched (service : Service σ) : Service σ where
  ready := service.ready.silenced
  call request := do
    Act.note (.sent request)
    (service.call request).silenced

namespace Discovery

inductive Question
  | regions
  | zones (region : Region)
deriving DecidableEq

abbrev Question.Answer : Question → Type
  | regions => Except ProviderError RegionMap
  | zones _ => Except ProviderError (List ZoneInfo)

def ask (api : RegionApi σ) : (q : Question) → Act σ q.Answer
  | .regions => api.regions
  | .zones region => api.zones region

def askEach (api : RegionApi σ) : List Question → Act σ (List ((q : Question) × q.Answer))
  | [] => return []
  | q :: rest => do
    let a ← ask api q
    let answers ← askEach api rest
    return ⟨q, a⟩ :: answers

def relist (known : RegionMap) : (q : Question) → q.Answer → RegionMap
  | .regions, .ok map => map
  | _, _ => known

def lastListing (answers : List ((q : Question) × q.Answer)) : RegionMap :=
  answers.foldl (fun known a => relist known a.1 a.2) .empty

/-- How an operation is asked of an endpoint. A request that the endpoint does not carry is not
handed over, nor one that the service is not ready for; any other is handed over once, and the body
of the response is the answer. -/
inductive Sends (service : Service σ) (action : String) (endpoint : Url) (s : σ) :
    List Effect × Option (Except ProviderError String × σ) → Prop
  | unroutable {e : RouteError} (refused : Refuses action endpoint e) :
      Sends service action endpoint s ([], some (.error (.route e), s))
  | unready {request : Request} {e : ProviderError} {s₁ : σ} (asks : Asks action endpoint request)
      (ready : (service.ready.run s).2 = some (.error e, s₁)) :
      Sends service action endpoint s ([], some (.error e, s₁))
  | waiting {request : Request} (asks : Asks action endpoint request)
      (ready : (service.ready.run s).2 = none) : Sends service action endpoint s ([], none)
  | handed {request : Request} {s₁ : σ} (asks : Asks action endpoint request)
      (ready : (service.ready.run s).2 = some (.ok (), s₁)) :
      Sends service action endpoint s ([.sent request],
        ((service.call request).run s₁).2.map fun r => (r.1.map Response.body, r.2))

/-- What a question hands to the service, the answer, and the listing that is known afterwards. The
regions are asked of the one endpoint, the zones of a region of the endpoint that the known listing
has for it; for a region that is not in it nobody is asked. -/
def Asked (service : Service σ) (endpoint : Url) (reader : BodyReader) (s : σ)
    (known : RegionMap) : (q : Question) → List Effect × Option (q.Answer × σ × RegionMap) → Prop
  | .regions, run => ∃ handed out,
    Sends service RouteTable.describeRegions endpoint s (handed, out) ∧
    run = (handed, out.map fun r =>
      let answer := r.1.bind reader.regions
      (answer, r.2, relist known .regions answer))
  | .zones region, run =>
    match known.get? region with
    | none =>
      run = ([], some (.error (.transport s!"no endpoint known for region {region.id}"), s, known))
    | some regional => ∃ handed out,
      Sends service RouteTable.describeZones regional s (handed, out) ∧
      run = (handed, out.map fun r => (r.1.bind (reader.zones region), r.2, known))

/-! ### One question -/

variable {action : String}

theorem run_send_watched (service : Service σ) (request : Request) (s : σ) :
    (service.watched.send request).run s =
      match (service.ready.run s).2 with
      | none => ([], none)
      | some (.error e, s₁) => ([], some (.error e, s₁))
      | some (.ok (), s₁) => ([.sent request], ((service.call request).run s₁).2) := by
  have hready : service.watched.ready.run s = ([], (service.ready.run s).2) := rfl
  rw [Service.send]
  rcases hr : (service.ready.run s).2 with _ | ⟨e | ⟨⟨⟩⟩, s₁⟩
  all_goals rw [hr] at hready
  · exact Act.run_bind_of_none hready _
  · exact Act.run_bind_of_some hready _
  · exact Act.run_bind_of_some hready _

theorem sends_sendOperation (h : IsOperation action) (service : Service σ) (endpoint : Url)
    (s : σ) :
    Sends service action endpoint s ((sendOperation service.watched action endpoint).run s) := by
  rcases run_sendOperation_cases h service.watched endpoint s with
    ⟨e, refused, hrun⟩ | ⟨request, asks, hrun⟩
  · rw [hrun]
    exact .unroutable refused
  · rw [hrun, run_send_watched]
    rcases hready : (service.ready.run s).2 with _ | ⟨e | ⟨⟨⟩⟩, s₁⟩
    · exact .waiting asks hready
    · exact .unready asks hready
    · exact .handed asks hready

theorem run_queryApi_regions (service : Service σ) (endpoint : Url) (reader : BodyReader)
    (w : σ × RegionMap) :
    (queryApi service endpoint reader).regions.run w =
      let sent := (sendOperation service RouteTable.describeRegions endpoint).run w.1
      (sent.1, sent.2.map fun r =>
        let answer := r.1.bind reader.regions
        (answer, r.2, relist w.2 .regions answer)) := by
  refine Act.run_onFirst_bind_of_quiet (g := fun (r : Except ProviderError String) w =>
    (r.bind reader.regions, w.1, relist w.2 .regions (r.bind reader.regions))) ?_ _ w
  intro r w
  cases r with
  | error e => rfl
  | ok body =>
    change _ = ([], some (reader.regions body, w.1, relist w.2 .regions (reader.regions body)))
    dsimp only
    cases reader.regions body <;> rfl

theorem run_queryApi_zones_of_unlisted {region : Region} {w : σ × RegionMap}
    (h : w.2.get? region = none) (service : Service σ) (endpoint : Url) (reader : BodyReader) :
    ((queryApi service endpoint reader).zones region).run w =
      ([], some (.error (.transport s!"no endpoint known for region {region.id}"), w)) := by
  refine (Act.run_step_bind _ _ w).trans ?_
  dsimp only
  rw [h]
  rfl

theorem run_queryApi_zones_of_listed {region : Region} {regional : Url} {w : σ × RegionMap}
    (h : w.2.get? region = some regional) (service : Service σ) (endpoint : Url)
    (reader : BodyReader) :
    ((queryApi service endpoint reader).zones region).run w =
      let sent := (sendOperation service RouteTable.describeZones regional).run w.1
      (sent.1, sent.2.map fun r => (r.1.bind (reader.zones region), r.2, w.2)) := by
  refine (Act.run_step_bind _ _ w).trans ?_
  dsimp only
  rw [h]
  dsimp only
  refine Act.run_onFirst_bind_of_quiet
    (g := fun (r : Except ProviderError String) w => (r.bind (reader.zones region), w)) ?_ _ w
  intro r w
  cases r <;> rfl

theorem asked_ask (service : Service σ) (endpoint : Url) (reader : BodyReader) (s : σ)
    (known : RegionMap) (q : Question) :
    Asked service endpoint reader s known q
      ((ask (queryApi service.watched endpoint reader) q).run (s, known)) := by
  cases q with
  | regions =>
    refine ⟨_, _, sends_sendOperation isOperation_describeRegions service endpoint s, ?_⟩
    exact run_queryApi_regions service.watched endpoint reader (s, known)
  | zones region =>
    rw [Asked]
    cases hlisted : known.get? region with
    | none =>
      exact run_queryApi_zones_of_unlisted (w := (s, known)) hlisted service.watched endpoint reader
    | some regional =>
      refine ⟨_, _, sends_sendOperation isOperation_describeZones service regional s, ?_⟩
      exact run_queryApi_zones_of_listed (w := (s, known)) hlisted service.watched endpoint reader

/-! ### Any number of questions -/

theorem run_sendOperation_watched (service : Service σ) (action : String) (endpoint : Url) (s : σ) :
    ((sendOperation service.watched action endpoint).run s).2 =
      ((sendOperation service action endpoint).run s).2 := by
  rw [sendOperation, sendOperation]
  cases operationRequest action endpoint with
  | error e => rfl
  | ok request =>
    apply Act.run_bind_snd_congr
    · apply Act.run_bind_snd_congr
      · exact fun _ => rfl
      · intro ready s
        cases ready <;> rfl
    · exact fun _ _ => rfl

/-- What a question is answered does not depend on whether the service is watched. -/
theorem run_ask_watched (service : Service σ) (endpoint : Url) (reader : BodyReader)
    (q : Question) (w : σ × RegionMap) :
    ((ask (queryApi service endpoint reader) q).run w).2 =
      ((ask (queryApi service.watched endpoint reader) q).run w).2 := by
  cases q with
  | regions =>
    change ((queryApi service endpoint reader).regions.run w).2 =
      ((queryApi service.watched endpoint reader).regions.run w).2
    rw [run_queryApi_regions, run_queryApi_regions]
    dsimp only
    rw [run_sendOperation_watched]
  | zones region =>
    change ((queryApi service endpoint reader).zones region |>.run w).2 =
      ((queryApi service.watched endpoint reader).zones region |>.run w).2
    cases hlisted : w.2.get? region with
    | none => rw [run_queryApi_zones_of_unlisted hlisted, run_queryApi_zones_of_unlisted hlisted]
    | some regional =>
      rw [run_queryApi_zones_of_listed hlisted, run_queryApi_zones_of_listed hlisted]
      dsimp only
      rw [run_sendOperation_watched]

variable {service : Service σ} {endpoint : Url} {reader : BodyReader}

theorem listing_of_ask {q : Question} {a : q.Answer} {w w' : σ × RegionMap}
    (h : ((ask (queryApi service endpoint reader) q).run w).2 = some (a, w')) :
    w'.2 = relist w.2 q a := by
  cases q with
  | regions =>
    change ((queryApi service endpoint reader).regions.run w).2 = some (a, w') at h
    rw [run_queryApi_regions] at h
    obtain ⟨r, -, heq⟩ := Option.map_eq_some_iff.mp h
    cases heq
    rfl
  | zones region =>
    change (((queryApi service endpoint reader).zones region).run w).2 = some (a, w') at h
    cases hlisted : w.2.get? region with
    | none =>
      rw [run_queryApi_zones_of_unlisted hlisted] at h
      cases h
      rfl
    | some regional =>
      rw [run_queryApi_zones_of_listed hlisted] at h
      obtain ⟨r, -, heq⟩ := Option.map_eq_some_iff.mp h
      cases heq
      rfl

/-- The listing that is known after questions is made of their answers, one after the other. -/
theorem listing_of_askEach {qs : List Question} {answers : List ((q : Question) × q.Answer)}
    {w w' : σ × RegionMap}
    (h : ((askEach (queryApi service endpoint reader) qs).run w).2 = some (answers, w')) :
    answers.map Sigma.fst = qs ∧
      w'.2 = answers.foldl (fun known a => relist known a.1 a.2) w.2 := by
  induction qs generalizing w answers with
  | nil =>
    cases h
    exact ⟨rfl, rfl⟩
  | cons q rest ih =>
    rw [askEach] at h
    rcases hask : (ask (queryApi service endpoint reader) q).run w with ⟨trace, _ | ⟨a, w₁⟩⟩
    · rw [Act.run_bind_of_none hask] at h
      cases h
    · rw [Act.run_bind_of_some hask] at h
      have hlisting := listing_of_ask (congrArg Prod.snd hask)
      rcases hrest : (askEach (queryApi service endpoint reader) rest).run w₁ with
        ⟨traces, _ | ⟨others, w₂⟩⟩
      · rw [Act.run_bind_of_none hrest] at h
        cases h
      · rw [Act.run_bind_of_some hrest] at h
        cases h
        obtain ⟨hquestions, hknown⟩ := ih (congrArg Prod.snd hrest)
        rw [hlisting] at hknown
        exact ⟨congrArg (q :: ·) hquestions, hknown⟩

/-- After any questions, the listing that is known is the last one that was given for an answer, and
the next question is asked by it. -/
theorem asked_by_last_listing (service : Service σ) (endpoint : Url) (reader : BodyReader)
    {qs : List Question} {s s₁ : σ} {answers : List ((q : Question) × q.Answer)} {known : RegionMap}
    (h : ((askEach (queryApi service endpoint reader) qs).run (s, .empty)).2 =
      some (answers, s₁, known)) (q : Question) :
    let watched := (ask (queryApi service.watched endpoint reader) q).run (s₁, known)
    answers.map Sigma.fst = qs ∧ known = lastListing answers ∧
      ((ask (queryApi service endpoint reader) q).run (s₁, known)).2 = watched.2 ∧
      Asked service endpoint reader s₁ (lastListing answers) q watched := by
  intro watched
  obtain ⟨hquestions, hknown⟩ := listing_of_askEach h
  have hknown : known = lastListing answers := hknown
  have hasked := asked_ask service endpoint reader s₁ known q
  rw [← hknown]
  exact ⟨hquestions, rfl, run_ask_watched service endpoint reader q (s₁, known), hasked⟩

def provider : Transport Unit where
  ready s := (.ok (), s)
  reply _ s :=
    (.ok { status := 200, headers := ⟨[]⟩, body := "us-west-1 https://ec2.us-west-1.x/" }, s)

def providerUrl (host : String) : Url :=
  { scheme := "https"
    authority := some
      { username := "", password := "", host := some (.name host), port := none }
    path := .rooted [""]
    query := none
    fragment := none }

def providerTarget (host : String) : Target :=
  { scheme := some .https, authority := some ⟨host⟩, path := "/", query := none }

def providerListing : RegionMap :=
  .ofList [(⟨"us-west-1"⟩, providerUrl "ec2.us-west-1.x")]

def providerApi : RegionApi (Unit × RegionMap) :=
  queryApi provider.service (providerUrl "ec2.us-east-1.x") plainReader

theorem run_regions_provider :
    providerApi.regions.run ((), .empty) =
      ([.sent (.operation RouteTable.describeRegions (providerTarget "ec2.us-east-1.x"))],
        some (.ok providerListing, (), providerListing)) := by
  have hsend : (sendOperation provider.service RouteTable.describeRegions
      (providerUrl "ec2.us-east-1.x")).run () =
        ([.sent (.operation RouteTable.describeRegions (providerTarget "ec2.us-east-1.x"))],
          some (.ok "us-west-1 https://ec2.us-west-1.x/", ())) := by decide +kernel
  have hread : plainReader.regions "us-west-1 https://ec2.us-west-1.x/" = .ok providerListing := by
    decide +kernel
  rw [providerApi, run_queryApi_regions]
  dsimp only
  rw [hsend]
  dsimp only [Option.map_some, Except.bind]
  rw [hread]
  rfl

/-- The zones of the provider's region are asked of the endpoint that its listing gave. -/
theorem zones_asked_of_provider :
    let watched := (ask (queryApi provider.service.watched (providerUrl "ec2.us-east-1.x")
      plainReader) (.zones ⟨"us-west-1"⟩)).run ((), providerListing)
    ((askEach providerApi [.regions]).run ((), .empty)).2 =
        some ([⟨.regions, .ok providerListing⟩], (), providerListing) ∧
      watched.1 =
        [.sent (.operation RouteTable.describeZones (providerTarget "ec2.us-west-1.x"))] ∧
      Asked provider.service (providerUrl "ec2.us-east-1.x") plainReader () providerListing
        (.zones ⟨"us-west-1"⟩) watched := by
  intro watched
  have h : ((askEach providerApi [.regions]).run ((), .empty)).2 =
      some ([⟨.regions, .ok providerListing⟩], (), providerListing) := by
    rw [askEach, ask, Act.run_bind_of_some run_regions_provider]
    rfl
  obtain ⟨-, -, -, hasked⟩ := asked_by_last_listing provider.service
    (providerUrl "ec2.us-east-1.x") plainReader h (.zones ⟨"us-west-1"⟩)
  have hsent : watched.1 =
      [.sent (.operation RouteTable.describeZones (providerTarget "ec2.us-west-1.x"))] := by
    decide +kernel
  exact ⟨h, hsent, hasked⟩

end Discovery

end CloudReach
