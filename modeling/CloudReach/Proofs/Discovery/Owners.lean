import CloudReach.Proofs.Discovery.Survey
import Mathlib.Data.List.Find

/-!
# Which region owns a zone

The owners of zones when the answer of a region depends on nothing but the region. Whether there is
a map does not depend on the order in which the regions are asked. Who owns a zone does as soon as
two regions report it: the one that is asked later.
-/

namespace CloudReach

variable {σ : Type}

abbrev ZoneReplies := Region → Except ProviderError (List ZoneInfo)

namespace ZoneReplies

variable (reply : ZoneReplies)

def isSound (region : Region) : Bool :=
  match reply region with
  | .ok infos => !region.isBlank && infos.all fun info => !info.zone.isBlank
  | .error _ => false

def reports (zone : Zone) (region : Region) : Bool :=
  match reply region with
  | .ok infos => infos.any fun info => info.zone = zone
  | .error _ => false

end ZoneReplies

def RegionApi.Steady (api : RegionApi σ) (reply : ZoneReplies) : Prop :=
  ∀ region s, ((api.zones region).run s).2.map Prod.fst = some (reply region)

namespace Discovery

def Maps (api : RegionApi σ) (order : List Region) (s : σ) (zones : ZoneMap) : Prop :=
  ∃ s', ((mapZones api order).run s).2 = some (.ok zones, s')

section Steady

variable {api : RegionApi σ} {reply : ZoneReplies} (steady : api.Steady reply)
include steady

theorem reply_eq_of_answer {region : Region} {s s' : σ} {own : List Effect}
    {answer : Except ProviderError (List ZoneInfo)}
    (h : (api.zones region).run s = (own, some (answer, s'))) : reply region = answer := by
  have hreply := steady region s
  rw [h] at hreply
  exact (Option.some.inj hreply).symm

/-- Regions that answered are sound, and their reports hold what they reply. -/
theorem Reports.replied {s s' : σ} {reports : List Report} (h : Reports api s reports s') :
    ∀ r ∈ reports, reply.isSound r.region = true ∧
      ∀ zone, r.mentions zone = reply.reports zone r.region := by
  induction h with
  | none => exact fun _ h => nomatch h
  | @asked s s₁ s₂ r rest named answer zonesNamed _ ih =>
    have hreply := reply_eq_of_answer steady answer
    refine List.forall_mem_cons.mpr ⟨⟨?_, fun zone => ?_⟩, ih⟩
    · have hzones : (r.infos.all fun info => !info.zone.isBlank) = true :=
        List.all_eq_true.mpr fun info hinfo => Bool.not_eq_true' _ ▸ zonesNamed info hinfo
      simp only [ZoneReplies.isSound, hreply, named, hzones, Bool.not_false, Bool.and_self]
    · simp only [Report.mentions, ZoneReplies.reports, hreply]

/-- A region that ends a survey is not sound, and the survey fails. -/
theorem Fault.unsound {region : Region} {s : σ} {own : List Effect}
    {out : Option (ZoneLookupError × σ)} (h : Fault api region s own out) :
    reply.isSound region = false ∧ ∃ failure, out = some failure := by
  cases h with
  | blankRegion blank =>
    refine ⟨?_, _, rfl⟩
    unfold ZoneReplies.isSound
    split
    · rw [blank, Bool.not_true, Bool.false_and]
    · rfl
  | cutOff answer =>
    have hreply := steady region s
    rw [answer] at hreply
    cases hreply
  | refused answer =>
    refine ⟨?_, _, rfl⟩
    rw [ZoneReplies.isSound, reply_eq_of_answer steady answer]
  | blankZone answer blank =>
    refine ⟨?_, _, rfl⟩
    obtain ⟨info, hinfo, hblank⟩ := blank
    have hzones : (List.all _ fun info : ZoneInfo => !info.zone.isBlank) = false :=
      List.all_eq_false.mpr ⟨info, hinfo, by rw [hblank]; exact Bool.false_ne_true⟩
    rw [ZoneReplies.isSound, reply_eq_of_answer steady answer]
    dsimp only
    rw [hzones, Bool.and_false]

/-- There is a map if all regions are sound, and only then; the last region that reports a zone owns
it. -/
theorem maps_steady (order : List Region) (s : σ) :
    ((∃ zones, Maps api order s zones) ↔ ∀ region ∈ order, reply.isSound region = true) ∧
    ∀ zones, Maps api order s zones →
      ∀ zone, zones.get? zone = order.reverse.find? (reply.reports zone) := by
  have survey := survey_mapZones api order s
  unfold Maps
  generalize (mapZones api order).run s = run at survey
  cases survey with
  | @complete reports s' answered all =>
    have hreplied := answered.replied steady
    refine ⟨⟨fun _ region hregion => ?_, fun _ => ⟨_, s', rfl⟩⟩, ?_⟩
    · obtain ⟨r, hr, rfl⟩ := List.mem_map.mp (all ▸ hregion)
      exact (hreplied r hr).1
    · rintro zones ⟨_, h⟩ zone
      obtain rfl : addReports .empty reports = zones := by cases h; rfl
      rw [get?_addReports_empty, owner?, ← all, ← List.map_reverse, List.find?_map]
      refine congrArg (Option.map Report.region) (List.find?_congr fun r hr => ?_)
      exact (hreplied r (List.mem_reverse.mp hr)).2 zone
  | @ended reports region later s' own out answered before fault =>
    obtain ⟨hunsound, failure, rfl⟩ := fault.unsound steady
    have hno (zones : ZoneMap) :
        ¬ ∃ s', (some failure).map (fun r => ((Except.error r.1 : Except _ ZoneMap), r.2)) =
          some (.ok zones, s') := by
      rintro ⟨s', h⟩
      cases h
    refine ⟨⟨fun h => absurd h.choose_spec (hno _), fun h => ?_⟩, fun zones h => absurd h (hno _)⟩
    have hmem : region ∈ order :=
      before ▸ List.mem_append_right _ List.mem_cons_self
    rw [h region hmem] at hunsound
    cases hunsound

end Steady

/-- When the answers depend on the region alone, all orders of the regions give a map or none does,
and the last region of the order that reports a zone owns it. So all orders agree on the owner of a
zone if and only if no two regions report it. -/
theorem owners_agree_iff_unshared {api : RegionApi σ} {reply : ZoneReplies}
    (steady : api.Steady reply) (regions : List Region) (s₁ s₂ : σ) :
    (∀ order s, order.Perm regions →
      ((∃ zones, Maps api order s zones) ↔ ∀ region ∈ regions, reply.isSound region = true)) ∧
    (∀ order s zones, Maps api order s zones →
      ∀ zone, zones.get? zone = order.reverse.find? (reply.reports zone)) ∧
    ((∀ region ∈ regions, reply.isSound region = true) → ∀ zone,
      ((∀ order₁ order₂ zones₁ zones₂, order₁.Perm regions → order₂.Perm regions →
          Maps api order₁ s₁ zones₁ → Maps api order₂ s₂ zones₂ →
          zones₁.get? zone = zones₂.get? zone) ↔
        ∀ r₁ ∈ regions, ∀ r₂ ∈ regions,
          reply.reports zone r₁ = true → reply.reports zone r₂ = true → r₁ = r₂)) := by
  have hexists {order : List Region} (s : σ) (hperm : order.Perm regions) :
      (∃ zones, Maps api order s zones) ↔ ∀ region ∈ regions, reply.isSound region = true :=
    (maps_steady steady order s).1.trans (forall_congr' fun _ => imp_congr_left hperm.mem_iff)
  have howner (order : List Region) (s : σ) := (maps_steady steady order s).2
  refine ⟨fun order s => hexists s, howner, fun hsound zone => ⟨fun hagree => ?_, fun hunique => ?_⟩⟩
  · -- A region that is asked last owns what it reports.
    intro r₁ h₁ r₂ h₂ hr₁ hr₂
    have hlast {r : Region} (hmem : r ∈ regions) (hr : reply.reports zone r = true) (s : σ) :
        ∃ order zones, order.Perm regions ∧ Maps api order s zones ∧ zones.get? zone = some r := by
      have hperm : (regions.erase r ++ [r]).Perm regions :=
        (List.perm_append_singleton r _).trans (List.perm_cons_erase hmem).symm
      obtain ⟨zones, hmaps⟩ := (hexists s hperm).mpr hsound
      refine ⟨_, zones, hperm, hmaps, ?_⟩
      rw [howner _ s zones hmaps, List.reverse_append, List.reverse_singleton,
        List.singleton_append, List.find?_cons_of_pos hr]
    obtain ⟨order₁, zones₁, hperm₁, hmaps₁, hown₁⟩ := hlast h₁ hr₁ s₁
    obtain ⟨order₂, zones₂, hperm₂, hmaps₂, hown₂⟩ := hlast h₂ hr₂ s₂
    have h := hagree order₁ order₂ zones₁ zones₂ hperm₁ hperm₂ hmaps₁ hmaps₂
    rw [hown₁, hown₂] at h
    exact Option.some.inj h
  · intro order₁ order₂ zones₁ zones₂ hperm₁ hperm₂ hmaps₁ hmaps₂
    have hperm : order₁.reverse.Perm order₂.reverse :=
      (List.reverse_perm _).trans
        ((hperm₁.trans hperm₂.symm).trans (List.reverse_perm _).symm)
    have hmem {r : Region} (h : r ∈ order₁.reverse) : r ∈ regions :=
      hperm₁.mem_iff.mp (List.mem_reverse.mp h)
    rw [howner order₁ s₁ zones₁ hmaps₁, howner order₂ s₂ zones₂ hmaps₂]
    exact List.find?_eq_find?_of_perm hperm fun r₁ h₁ r₂ h₂ =>
      hunique r₁ (hmem h₁.1) r₂ (hmem h₂.1) h₁.2 h₂.2

def sharingReply : ZoneReplies := fun region =>
  .ok [.available ⟨region.id ++ "-own"⟩ region, .available ⟨"shared"⟩ region]

/-- Remote operations that answer by replies. The world is the row of the regions that were asked. -/
def replying (reply : ZoneReplies) : RegionApi (List Region) where
  regions := return .ok .empty
  zones region := Act.step fun asked => (reply region, asked ++ [region])

theorem steady_replying (reply : ZoneReplies) : (replying reply).Steady reply :=
  fun _ _ => rfl

/-- In every order the own zone of a region has the same owner, while the shared zone has not. -/
theorem owners_of_two_regions :
    (replying sharingReply).Steady sharingReply ∧
    (∀ order₁ order₂ zones₁ zones₂, order₁.Perm [⟨"a"⟩, ⟨"b"⟩] → order₂.Perm [⟨"a"⟩, ⟨"b"⟩] →
      Maps (replying sharingReply) order₁ [] zones₁ →
      Maps (replying sharingReply) order₂ [] zones₂ →
      zones₁.get? ⟨"a-own"⟩ = zones₂.get? ⟨"a-own"⟩) ∧
    ¬ ∀ order₁ order₂ zones₁ zones₂, order₁.Perm [⟨"a"⟩, ⟨"b"⟩] → order₂.Perm [⟨"a"⟩, ⟨"b"⟩] →
      Maps (replying sharingReply) order₁ [] zones₁ →
      Maps (replying sharingReply) order₂ [] zones₂ →
      zones₁.get? ⟨"shared"⟩ = zones₂.get? ⟨"shared"⟩ := by
  have steady := steady_replying sharingReply
  have hagree :=
    (owners_agree_iff_unshared steady [⟨"a"⟩, ⟨"b"⟩] [] []).2.2 (by decide +kernel)
  exact ⟨steady, (hagree ⟨"a-own"⟩).mpr (by decide +kernel),
    fun h => absurd ((hagree ⟨"shared"⟩).mp h) (by decide +kernel)⟩

/-- Two orders of the same regions give a zone to different owners, though every region answers the
same whenever it is asked. -/
theorem owner_changes_with_order :
    ¬ ∀ (api : RegionApi (List Region)) (reply : ZoneReplies), api.Steady reply →
      ∀ order₁ order₂ s₁ s₂ zones₁ zones₂, order₁.Perm order₂ →
        Maps api order₁ s₁ zones₁ → Maps api order₂ s₂ zones₂ →
        ∀ zone, zones₁.get? zone = zones₂.get? zone := by
  intro h
  have hperm : List.Perm [⟨"a"⟩, ⟨"b"⟩] [⟨"b"⟩, (⟨"a"⟩ : Region)] := .swap _ _ _
  have hshared := h (replying sharingReply) sharingReply (steady_replying _) _ _ [] [] _ _ hperm
    ⟨_, rfl⟩ ⟨_, rfl⟩ ⟨"shared"⟩
  exact absurd hshared (by decide +kernel)

end Discovery

end CloudReach
