import CloudReach.Proofs.Route.Fill
import CloudReach.Proofs.Url.PathText
import CloudReach.Proofs.Url.Target
import CloudReach.Route.Request

/-!
# The paths of requests

The path of a request is that of its base, less one slash at its end, followed by the segments of
the route, each of which is escaped so that decoding gives it back. That is so exactly if the
segments can be added to the base as they are.
-/

namespace CloudReach

namespace Route

variable {f : Filled} {base : WellFormedUrl} {body : Option String} {q : Request}
  {segments : List String}

/-- What a path keeps when a segment is added or a slash at its end, it keeps in the URL of a
route. -/
theorem Filled.located_invariant (f : Filled) {P : List String → Prop}
    (hpath : base.path = .rooted segments) (hstart : P (Url.dropEmptyEnd segments))
    (hadd : ∀ l s, P l → P (Url.addSegment (Url.schemeKind base.scheme) l s))
    (hslash : ∀ l, P l → P (Url.withEndSlash l)) :
    ∃ l, (f.located base).path = .rooted l ∧ P l := by
  have hadded : P (Url.addSegments (Url.schemeKind base.scheme) segments f.segments) := by
    unfold Url.addSegments
    generalize Url.dropEmptyEnd segments = start at hstart
    generalize f.segments = added
    induction added generalizing start with
    | nil => exact hstart
    | cons s rest ih => exact ih _ (hadd start s hstart)
  refine ⟨_, rfl, ?_⟩
  rw [hpath]
  split
  · exact hslash _ hadded
  · exact hadded

theorem Filled.wellFormed_located (f : Filled) (hpath : base.path = .rooted segments) :
    (f.located base).WellFormed := by
  have h := base.wellFormed
  refine ⟨h.scheme_ne, h.scheme, h.authority, ?_, by rintro ⟨⟩, fun hnone hnil => ?_,
    fun hfile s rest heq => ?_⟩
  · obtain ⟨l, hl, hwell⟩ := f.located_invariant (P := fun l => (Url.Path.rooted l).WellFormed)
      hpath (Url.wellFormed_dropEmptyEnd (hpath ▸ h.path))
      (fun _ s hs => Url.wellFormed_addSegment hs s) fun _ hs => Url.wellFormed_withEndSlash hs
    rw [hl]
    exact hwell
  · have hne : segments ≠ [] := by
      rintro rfl
      exact h.root hnone hpath
    obtain ⟨l, hl, hl'⟩ := f.located_invariant (P := (· ≠ [])) hpath (Url.dropEmptyEnd_ne_nil hne)
      (fun _ s hs => Url.addSegment_ne_nil hs s) fun _ _ => Url.withEndSlash_ne_nil
    exact hl' (Url.Path.rooted.inj (hl.symm.trans hnil))
  · obtain ⟨l, hl, hsettled⟩ := f.located_invariant
      (P := Url.Settled (Url.schemeKind base.scheme)) hpath
      (Url.settled_dropEmptyEnd (Url.settled_of_wellFormed base hpath))
      (fun _ s hs => Url.settled_addSegment hs s) fun _ hs => Url.settled_withEndSlash hs
    exact hsettled hfile s rest (Url.Path.rooted.inj (hl.symm.trans heq))

/-- A request has the target that the text of its URL is, and a base on which segments can be
put. -/
theorem Filled.request_eq_ok (hrequest : f.request base body = .ok q) :
    (∃ segments, base.path = .rooted segments) ∧
      Target.parse (f.parts base body).1.text = .ok q.target := by
  unfold request at hrequest
  split at hrequest
  · cases hrequest
  · rename_i hflat
    dsimp only at hrequest
    split at hrequest
    · cases hrequest
    · rename_i target htarget
      cases hrequest
      refine ⟨?_, htarget⟩
      cases hpath : base.path with
      | rooted segments => exact ⟨segments, rfl⟩
      | flat t => exact absurd (by rw [Url.isFlat, hpath]) hflat

theorem Filled.parts_url (f : Filled) (base : Url) (body : Option String) :
    ∃ query, (f.parts base body).1 = { f.located base with query } := by
  unfold parts
  dsimp only
  split
  · exact ⟨(f.located base).query, rfl⟩
  · split
    · exact ⟨(f.located base).query, rfl⟩
    · exact ⟨_, rfl⟩

def Filled.url (hrequest : f.request base body = .ok q) : WellFormedUrl where
  toUrl := (f.parts base body).1
  wellFormed := by
    obtain ⟨⟨segments, hpath⟩, -⟩ := request_eq_ok hrequest
    obtain ⟨query, hurl⟩ := f.parts_url base body
    rw [hurl]
    exact (f.wellFormed_located hpath).withTail _ _

theorem authority_of_request (hrequest : f.request base body = .ok q) :
    ∃ a, (f.parts base body).1.authority = some a := by
  obtain ⟨-, htarget⟩ := Filled.request_eq_ok hrequest
  obtain ⟨query, hurl⟩ := f.parts_url base body
  cases hauthority : (f.parts base body).1.authority with
  | none =>
    have hrooted : (f.parts base body).1.isFlat = false := by
      rw [hurl]
      rfl
    exact absurd htarget ((Filled.url hrequest).not_target hauthority hrooted)
  | some a => exact ⟨a, rfl⟩

theorem path_of_request (hrequest : f.request base body = .ok q) :
    q.target.path = String.ofList (f.located base).path.text := by
  obtain ⟨a, hauthority⟩ := authority_of_request hrequest
  obtain ⟨query, hurl⟩ := f.parts_url base body
  obtain ⟨-, -, -, htext⟩ :=
    (Filled.url hrequest).target_of_authority hauthority (Filled.request_eq_ok hrequest).2
  have hpath : (f.parts base body).1.path = (f.located base).path := by rw [hurl]
  rw [htext, Filled.url, hpath]

/-! ### The segments of a request -/

def Fills (given : List (String × String)) : Segment → String → Prop
  | .literal text, s => s = text
  | .param name, s => given.lookup name = some s

theorem fills_of_fill {r : Route} {given : List (String × String)} (h : r.fill given = .ok f) :
    ∃ template, segments? r.path = some template ∧
      List.Forall₂ (Fills given) template f.segments := by
  obtain ⟨template, filled, htemplate, hfilled, rfl⟩ := fill_eq_ok h
  refine ⟨template, htemplate, hfilled.imp fun part s hpart => ?_⟩
  cases part with
  | literal text => exact hpart
  | param name => exact lookup_eq_some_iff.mpr hpart

/-- The path goes on where that of the base ends, less one slash, with segments that stand for the
texts. -/
def Extends (base : Url) (added : List String) (path : String) : Prop :=
  ∃ written : List String, (Url.Path.rooted written).WellFormed ∧
    List.Forall₂ Url.StandsFor written added ∧
    path = String.ofList (Url.dropEndSlash base.path.text ++ (Url.Path.rooted written).text)

/-- The texts can be added to the path of the base as they are. -/
def Carries (base : Url) (added : List String) : Prop :=
  base.path ≠ .rooted ["", ""] ∧
    Url.Addable (Url.schemeKind base.scheme) (Url.frontSegments base.path.segments) added

theorem carries_iff {added : List String} (hpath : base.path = .rooted segments) :
    Carries base added ↔ segments ≠ ["", ""] ∧
      Url.Addable (Url.schemeKind base.scheme) (Url.frontSegments segments) added := by
  rw [Carries, hpath, Url.Path.segments, Ne, Url.Path.rooted.injEq]

theorem located_path (hpath : base.path = .rooted segments) (hne : f.segments ≠ []) :
    (f.located base).path =
      .rooted (Url.addSegments (Url.schemeKind base.scheme) segments f.segments) := by
  have hempty : f.segments.isEmpty = false := by simpa using hne
  rw [Filled.located, hpath, hempty]
  rfl

/-- The path of a request goes on with certain segments exactly if they are what was added. -/
theorem path_eq_iff (hpath : base.path = .rooted segments) (hrequest : f.request base body = .ok q) (hne : f.segments ≠ []) {written : List String}
    (hwritten : (Url.Path.rooted written).WellFormed) :
    q.target.path = String.ofList
        (Url.dropEndSlash base.path.text ++ (Url.Path.rooted written).text) ↔
      Url.addSegments (Url.schemeKind base.scheme) segments f.segments =
        Url.frontSegments segments ++ written := by
  have hlocated := located_path hpath hne
  have hsegments : (Url.Path.rooted segments).WellFormed := hpath ▸ base.wellFormed.path
  have hadded := hlocated ▸ (f.wellFormed_located hpath).path
  have hfront := Url.wellFormed_frontSegments hsegments
  rw [path_of_request hrequest, hlocated, hpath, Url.dropEndSlash_text hsegments,
    ← Url.text_rooted_append, String.ofList_inj]
  constructor
  · intro htext
    refine Url.text_rooted_injective hadded (fun s hs => ?_) htext
    rcases List.mem_append.mp hs with hs | hs
    · exact hfront s hs
    · exact hwritten s hs
  · intro heq
    rw [heq]

theorem extends_iff_carries (hrequest : f.request base body = .ok q) (hne : f.segments ≠ []) :
    Extends base f.segments q.target.path ↔ Carries base f.segments := by
  obtain ⟨⟨segments, hpath⟩, -⟩ := Filled.request_eq_ok hrequest
  rw [carries_iff hpath,
    ← Url.addSegments_standFor_iff (Url.settled_of_wellFormed base hpath) hne]
  constructor
  · rintro ⟨written, hwritten, hstands, htext⟩
    exact ⟨written, (path_eq_iff hpath hrequest hne hwritten).mp htext, hstands⟩
  · rintro ⟨written, hadded, hstands⟩
    -- What is at the end of a well-formed path is well-formed.
    have hwell := located_path hpath hne ▸ (f.wellFormed_located hpath).path
    have hwritten : (Url.Path.rooted written).WellFormed := fun s hs =>
      hwell s (hadded ▸ List.mem_append_right _ hs)
    exact ⟨written, hwritten, hstands, (path_eq_iff hpath hrequest hne hwritten).mpr hadded⟩

/-- The path of a request tells what the route was filled with. -/
theorem Extends.injective {added added' : List String} {path : String}
    (h : Extends base added path) (h' : Extends base added' path) : added' = added := by
  obtain ⟨written, hwell, hstands, htext⟩ := h
  obtain ⟨written', hwell', hstands', htext'⟩ := h'
  have hsame := List.append_cancel_left (String.ofList_inj.mp (htext'.symm.trans htext))
  obtain rfl := Url.text_rooted_injective hwell' hwell hsame
  exact Url.rightUnique_standsFor.forall₂ hstands' hstands

theorem path_of_no_segments (hrequest : f.request base body = .ok q) (hnil : f.segments = []) :
    q.target.path = String.ofList
      (Url.dropEndSlash (Url.dropEndSlash base.path.text) ++ ['/']) := by
  obtain ⟨⟨segments, hpath⟩, -⟩ := Filled.request_eq_ok hrequest
  have hsegments : (Url.Path.rooted segments).WellFormed := hpath ▸ base.wellFormed.path
  have hlocated : (f.located base).path =
      .rooted (Url.withEndSlash (Url.dropEmptyEnd segments)) := by
    rw [Filled.located, hpath, hnil]
    rfl
  have hdrop : Url.dropEndSlash (Url.Path.rooted (Url.dropEmptyEnd segments)).text =
      Url.dropEndSlash (Url.Path.rooted (Url.frontSegments segments)).text := by
    by_cases hroot : segments = [""]
    · rw [hroot]
      rfl
    · rw [Url.dropEmptyEnd_eq_frontSegments hroot]
  rw [path_of_request hrequest, hlocated,
    Url.text_withEndSlash (Url.wellFormed_dropEmptyEnd hsegments), hdrop, hpath,
    Url.dropEndSlash_text hsegments]

/-- The path of a request goes on from its base with the segments of the route, each to be had by
decoding, exactly if the base carries them; then no two sets of parameters have one path. A route
without segments has the path of its base with one slash at its end. -/
theorem request_path (r : Route) (given : List (String × String)) (f : Filled)
    (base : WellFormedUrl) (body : Option String) (q : Request) (hfill : r.fill given = .ok f)
    (hrequest : f.request base body = .ok q) :
    (∃ template, segments? r.path = some template ∧
      List.Forall₂ (Fills given) template f.segments) ∧
    (f.segments = [] → q.target.path = String.ofList
      (Url.dropEndSlash (Url.dropEndSlash base.path.text) ++ ['/'])) ∧
    (f.segments ≠ [] → (Extends base f.segments q.target.path ↔ Carries base f.segments)) ∧
    ∀ given' f' body' q', r.fill given' = .ok f' → f'.request base body' = .ok q' →
      Carries base f.segments → Carries base f'.segments →
      q'.target.path = q.target.path → f'.segments = f.segments := by
  obtain ⟨template, htemplate, hfills⟩ := fills_of_fill hfill
  refine ⟨⟨template, htemplate, hfills⟩, path_of_no_segments hrequest,
    extends_iff_carries hrequest, ?_⟩
  intro given' f' body' q' hfill' hrequest' hcarries hcarries' hpath
  obtain ⟨template', htemplate', hfills'⟩ := fills_of_fill hfill'
  -- Both were filled from one template, so neither has more segments than the other.
  obtain rfl := Option.some.inj (htemplate.symm.trans htemplate')
  have hlength : f'.segments.length = f.segments.length :=
    hfills'.length_eq.symm.trans hfills.length_eq
  by_cases hnil : f.segments = []
  · rw [hnil] at hlength ⊢
    exact List.length_eq_zero_iff.mp hlength
  · have hne' : f'.segments ≠ [] := by
      intro hnil'
      rw [hnil'] at hlength
      exact hnil (List.length_eq_zero_iff.mp hlength.symm)
    have hextends := (extends_iff_carries hrequest hnil).mpr hcarries
    have hextends' := (extends_iff_carries hrequest' hne').mpr hcarries'
    exact hextends.injective (hpath ▸ hextends')

def getUser : Route :=
  (Route.resource "get_user" "GET" RouteTable.userPath .userFromJson).withNotFound .returnNone

def showUser (username : String) : Filled :=
  { name := "get_user", method := "GET", segments := ["users", username], params := []
    style := .resource }

def versionedUrl : Url :=
  { scheme := "https"
    authority := some
      { username := "", password := "", host := some (.name "api.x"), port := none }
    path := .rooted ["v1"]
    query := none
    fragment := none }

def requestOf (path : String) : Request :=
  { method := "GET"
    target := { scheme := some .https, authority := some ⟨"api.x"⟩, path, query := none }
    version := .http11
    headers := ⟨[("accept", jsonType)]⟩
    body := "" }

theorem parse_versioned : Url.parse "https://api.x/v1" = .ok versionedUrl := by decide +kernel

def versioned : WellFormedUrl :=
  .ofParse parse_versioned

theorem request_path_of_user :
    (showUser "a/b%c").request versioned none = .ok (requestOf "/v1/users/a%2Fb%25c") ∧
      Extends versioned ["users", "a/b%c"] "/v1/users/a%2Fb%25c" := by
  have hrequest : (showUser "a/b%c").request versioned none =
      .ok (requestOf "/v1/users/a%2Fb%25c") := by decide +kernel
  obtain ⟨-, -, hiff, -⟩ := request_path getUser [("username", "a/b%c")] (showUser "a/b%c")
    versioned none (requestOf "/v1/users/a%2Fb%25c") (by decide +kernel) hrequest
  refine ⟨hrequest, (hiff (by decide)).mpr ⟨by decide, ?_, fun hnil => by cases hnil⟩⟩
  intro s hs
  rcases List.mem_cons.mp hs with rfl | hs
  · decide
  · obtain rfl := List.mem_singleton.mp hs
    decide

/-- A tab and a line feed go missing from a name, which then stands for another. -/
theorem request_path_of_tab :
    getUser.fill [("username", "a\tb\nc")] = .ok (showUser "a\tb\nc") ∧
      (showUser "a\tb\nc").request versioned none = .ok (requestOf "/v1/users/abc") ∧
      (showUser "abc").request versioned none = .ok (requestOf "/v1/users/abc") ∧
      ¬ Extends versioned ["users", "a\tb\nc"] "/v1/users/abc" := by
  have hrequest : (showUser "a\tb\nc").request versioned none =
      .ok (requestOf "/v1/users/abc") := by decide +kernel
  refine ⟨by decide +kernel, hrequest, by decide +kernel, fun hextends => ?_⟩
  have hcarries := (extends_iff_carries hrequest (by decide)).mp hextends
  have htab := (hcarries.2.plain "a\tb\nc" (by decide)).kept '\t' (by decide)
  exact absurd htab (by decide)

end Route

end CloudReach
