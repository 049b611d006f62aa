import CloudReach.Proofs.Percent
import CloudReach.Proofs.Text
import CloudReach.Proofs.Url.Reading

/-!
# Well-formed URLs

What holds of every URL that has been read: each part is free of the characters that would end it,
so that its place in the text of the URL can be found again. Reading text, alone or on a well-formed
base, gives a well-formed URL.
-/

namespace CloudReach

open Text (FreeOf)

theorem Percent.freeOf_encode {escaped : Char → Bool} {marks s : List Char}
    (hmarks : ∀ c ∈ marks, ¬ IsEscapeChar c) (hs : ∀ c ∈ marks, c ∈ s → escaped c = true) :
    FreeOf marks (encode escaped s) := by
  intro c hc hmem
  rcases mem_encode hmem with ⟨hcs, hplain⟩ | hescape
  · rw [hs c hc hcs] at hplain
    cases hplain
  · exact hmarks c hc hescape

namespace Url

def isSchemeChar (c : Char) : Bool :=
  c.isAlphanum || c == '+' || c == '-' || c == '.'

def segmentMarks : List Char := ['/', '?', '#']

def nameMarks : List Char := ['/', '?', '#', '@', ':', '[', ']']

end Url

def Host.WellFormed : Host → Prop
  | name s => s ≠ "" ∧ FreeOf Url.nameMarks s.toList
  | v4 _ | v6 _ => True

/-- Only an authority with a host has a user or a port. -/
structure Url.Authority.WellFormed (a : Url.Authority) : Prop where
  username : FreeOf nameMarks a.username.toList
  password : FreeOf nameMarks a.password.toList
  host : ∀ h, a.host = some h → h.WellFormed
  port : ∀ p, a.port = some p → p ≤ 65535
  hosted : a.host = none → a.username = "" ∧ a.password = "" ∧ a.port = none

def Url.Path.WellFormed : Url.Path → Prop
  | rooted segments => ∀ s ∈ segments, FreeOf segmentMarks s.toList
  | flat text => FreeOf ['?', '#'] text.toList ∧ text.toList.head? ≠ some '/'

/-- A URL whose parts can be told apart in its text. Without an authority the path is flat, or it
has a segment. The path of a file starts with no empty segment that another follows. -/
structure Url.WellFormed (u : Url) : Prop where
  scheme_ne : u.scheme ≠ ""
  scheme : ∀ c ∈ u.scheme.toList, isSchemeChar c = true
  authority : ∀ a, u.authority = some a → a.WellFormed
  path : u.path.WellFormed
  flat : u.isFlat = true → u.authority = none
  root : u.authority = none → u.path ≠ .rooted []
  file : schemeKind u.scheme = .file → ∀ s rest, u.path ≠ .rooted ("" :: s :: rest)

namespace Url

/-! ### Paths -/

theorem wellFormed_rooted_nil : (Path.rooted []).WellFormed :=
  fun _ hs => absurd hs List.not_mem_nil

theorem Path.WellFormed.segments {p : Path} (h : p.WellFormed) :
    (rooted p.segments).WellFormed := by
  cases p with
  | rooted segments => exact h
  | flat => exact wellFormed_rooted_nil

theorem freeOf_splitPath {kind : SchemeKind} {s piece : List Char} (h : piece ∈ splitPath kind s) :
    FreeOf segmentMarks piece := by
  obtain ⟨raw, hraw, rfl⟩ := List.mem_map.mp h
  refine Percent.freeOf_encode (Text.forall_mem_of_all (by decide)) fun c hc hmem => ?_
  have hslash := (Text.of_mem_splitOn hraw c hmem).2
  simp only [segmentMarks, List.mem_cons, List.not_mem_nil, or_false] at hc
  rcases hc with rfl | rfl | rfl
  · simp [isSlash] at hslash
  · rfl
  · rfl

theorem freeOf_keptSegment {kind : SchemeKind} {done : List String} {s : List Char}
    (h : FreeOf segmentMarks s) : FreeOf segmentMarks (keptSegment kind done s).toList := by
  unfold keptSegment
  split
  · split
    · rename_i a b _
      rw [String.toList_ofList]
      simp only [Text.freeOf_cons, Text.freeOf_nil, and_true] at h ⊢
      exact ⟨h.1, by decide⟩
    · rwa [String.toList_ofList]
  · rwa [String.toList_ofList]

theorem goUp_subset (done : List String) : goUp done ⊆ done := by
  unfold goUp
  split
  · split
    · exact List.Subset.refl _
    · exact List.dropLast_subset _
  · exact List.nil_subset _

theorem freeOf_resolveSegments {kind : SchemeKind} {done : List String} {raw : List (List Char)}
    (hdone : ∀ s ∈ done, FreeOf segmentMarks s.toList) (hraw : ∀ s ∈ raw, FreeOf segmentMarks s) :
    ∀ s ∈ resolveSegments kind done raw, FreeOf segmentMarks s.toList := by
  have up (done : List String) (h : ∀ s ∈ done, FreeOf segmentMarks s.toList) :
      ∀ s ∈ goUp done, FreeOf segmentMarks s.toList := fun s hs => h s (goUp_subset done hs)
  have snoc (done : List String) (last : String) (h : ∀ s ∈ done, FreeOf segmentMarks s.toList)
      (hlast : FreeOf segmentMarks last.toList) :
      ∀ s ∈ done ++ [last], FreeOf segmentMarks s.toList := by
    intro s hs
    rcases List.mem_append.mp hs with hs | hs
    · exact h s hs
    · exact List.mem_singleton.mp hs ▸ hlast
  have kept (done : List String) (s : List Char) (h : FreeOf segmentMarks s) :
      FreeOf segmentMarks (keptSegment kind done s).toList := freeOf_keptSegment h
  have empty : FreeOf segmentMarks ("" : String).toList := Text.freeOf_nil
  fun_induction resolveSegments kind done raw with
  | case1 done => exact hdone
  | case2 done s _ => exact snoc _ _ (up done hdone) empty
  | case3 done s _ _ => exact snoc _ _ hdone empty
  | case4 done s _ _ => exact snoc _ _ hdone (kept done s (hraw s List.mem_cons_self))
  | case5 done s rest _ _ ih =>
    exact ih (up done hdone) fun t ht => hraw t (List.mem_cons_of_mem _ ht)
  | case6 done s rest _ _ _ ih => exact ih hdone fun t ht => hraw t (List.mem_cons_of_mem _ ht)
  | case7 done s rest _ _ _ ih =>
    exact ih (snoc _ _ hdone (kept done s (hraw s List.mem_cons_self)))
      fun t ht => hraw t (List.mem_cons_of_mem _ ht)

/-- The last segment leaves one behind, whatever it is. -/
theorem resolveSegments_ne_nil {kind : SchemeKind} {done : List String} {raw : List (List Char)}
    (h : raw ≠ []) : resolveSegments kind done raw ≠ [] := by
  fun_induction resolveSegments kind done raw with
  | case1 done => exact absurd rfl h
  | case2 | case3 | case4 => simp
  | case5 done s rest hrest _ ih => exact ih fun hnil => hrest hnil
  | case6 done s rest hrest _ _ ih => exact ih fun hnil => hrest hnil
  | case7 done s rest hrest _ _ ih => exact ih fun hnil => hrest hnil

theorem mem_withoutLeadingSlashes {kind : SchemeKind} {segments : List String} {s : String}
    (h : s ∈ withoutLeadingSlashes kind segments) : s ∈ segments ∨ s = "" := by
  unfold withoutLeadingSlashes at h
  split at h
  · split at h
    · exact .inr (List.mem_singleton.mp h)
    · exact .inl ((List.dropWhile_sublist _).subset h)
  · exact .inl h

theorem withoutLeadingSlashes_ne_nil {kind : SchemeKind} {segments : List String}
    (h : segments ≠ []) : withoutLeadingSlashes kind segments ≠ [] := by
  unfold withoutLeadingSlashes
  split
  · split
    · exact List.cons_ne_nil _ _
    · assumption
  · exact h

theorem wellFormed_withoutLeadingSlashes {kind : SchemeKind} {segments : List String}
    (h : (Path.rooted segments).WellFormed) :
    (Path.rooted (withoutLeadingSlashes kind segments)).WellFormed := by
  intro s hs
  rcases mem_withoutLeadingSlashes hs with hs | rfl
  · exact h s hs
  · exact Text.freeOf_nil

theorem wellFormed_resolvePath {kind : SchemeKind} {done : List String} (s : List Char)
    (h : (Path.rooted done).WellFormed) : (Path.rooted (resolvePath kind done s)).WellFormed :=
  wellFormed_withoutLeadingSlashes
    (freeOf_resolveSegments h fun _ hpiece => freeOf_splitPath hpiece)

theorem splitPath_ne_nil (kind : SchemeKind) (s : List Char) : splitPath kind s ≠ [] := by
  simp [splitPath, Text.splitOn_ne_nil]

theorem resolvePath_ne_nil {kind : SchemeKind} {done : List String} {s : List Char} :
    resolvePath kind done s ≠ [] :=
  withoutLeadingSlashes_ne_nil (resolveSegments_ne_nil (splitPath_ne_nil kind s))

theorem withoutLeadingSlashes_file (segments : List String) (s : String) (rest : List String) :
    withoutLeadingSlashes .file segments ≠ "" :: s :: rest := by
  unfold withoutLeadingSlashes
  dsimp only
  split
  · simp
  · intro hdrop
    have hhead := List.head?_dropWhile_not (· == "") segments
    rw [hdrop] at hhead
    cases hhead

theorem resolvePath_file {kind : SchemeKind} (hkind : kind = .file) (done : List String)
    (text : List Char) (s : String) (rest : List String) :
    Path.rooted (resolvePath kind done text) ≠ .rooted ("" :: s :: rest) := by
  rw [hkind]
  exact fun h => withoutLeadingSlashes_file _ s rest (Path.rooted.inj h)

theorem startPath_file {kind : SchemeKind} (hkind : kind = .file) (text : List Char) (s : String)
    (rest : List String) : Path.rooted (startPath kind text) ≠ .rooted ("" :: s :: rest) := by
  unfold startPath
  split
  · rw [hkind]
    simp [SchemeKind.isSpecial]
  · split <;> exact resolvePath_file hkind _ _ s rest

theorem wellFormed_startPath (kind : SchemeKind) (s : List Char) :
    (Path.rooted (startPath kind s)).WellFormed := by
  unfold startPath
  split
  · split
    · intro s hs
      exact List.mem_singleton.mp hs ▸ Text.freeOf_nil
    · exact wellFormed_rooted_nil
  · split <;> exact wellFormed_resolvePath _ wellFormed_rooted_nil

/-! ### Hosts -/

theorem isForbidden_of_domainToAscii {bytes : List UInt8} {name : List Char}
    (h : domainToAscii bytes = some name) : ∀ c ∈ name, isForbiddenInDomain c = false := by
  obtain ⟨s, -, hrest⟩ := Option.bind_eq_some_iff.mp h
  have hchecked : ∃ ascii,
      (if ascii.any isForbiddenInDomain then none else some ascii) = some name := by
    dsimp only at hrest
    split at hrest
    all_goals
      obtain ⟨ascii, -, hname⟩ := Option.bind_eq_some_iff.mp hrest
      exact ⟨ascii, hname⟩
  obtain ⟨ascii, hname⟩ := hchecked
  split at hname
  · cases hname
  · rename_i hallowed
    cases hname
    simpa using hallowed

theorem wellFormed_of_readBracketed {s : List Char} {h : Host} (hs : readBracketed s = .ok h) :
    h.WellFormed := by
  unfold readBracketed at hs
  split at hs
  · obtain ⟨a, -, rfl⟩ := map_eq_ok_iff.mp hs
    trivial
  · cases hs

theorem wellFormed_of_readDomainHost {s : List Char} {h : Host} (hs : readDomainHost s = .ok h) :
    h.WellFormed := by
  unfold readDomainHost at hs
  split at hs
  · exact wellFormed_of_readBracketed hs
  · split at hs
    · cases hs
    · cases hs
    · rename_i name hne hname
      split at hs
      · obtain ⟨a, -, rfl⟩ := map_eq_ok_iff.mp hs
        trivial
      · cases hs
        refine ⟨fun hempty => hne (by simpa using hempty), ?_⟩
        rw [String.toList_ofList]
        intro c hc hmem
        have hallowed := isForbidden_of_domainToAscii hname c hmem
        have hforbidden : ∀ c ∈ nameMarks, isForbiddenInDomain c = true :=
          Text.forall_mem_of_all (by decide)
        rw [hforbidden c hc] at hallowed
        cases hallowed

theorem wellFormed_of_readPlainHost {s : List Char} {h : Host}
    (hs : readPlainHost s = .ok (some h)) : h.WellFormed := by
  unfold readPlainHost at hs
  split at hs
  · obtain ⟨a, ha, heq⟩ := map_eq_ok_iff.mp hs
    cases heq
    exact wellFormed_of_readBracketed ha
  · split at hs
    · cases hs
    · rename_i hallowed
      split at hs
      · cases hs
      · rename_i hne
        cases hs
        refine ⟨fun hempty => hne ?_, ?_⟩
        · rw [String.ofList_eq_empty_iff, Percent.encode_eq_nil_iff] at hempty
          simp [hempty]
        · rw [String.toList_ofList]
          refine Percent.freeOf_encode (Text.forall_mem_of_all (by decide)) fun c hc hmem => ?_
          have hforbidden : ∀ c ∈ nameMarks, c ∈ ['\x00', '\t', '\n', '\r', ' ', '#', '/', ':', '<',
              '>', '?', '@', '[', '\\', ']', '^', '|'] := Text.forall_mem_of_all (by decide)
          exact absurd (List.any_eq_true.mpr ⟨c, hmem, by simpa using hforbidden c hc⟩) hallowed

theorem wellFormed_of_readHost {kind : SchemeKind} {s : List Char} {host : Option Host}
    (hs : readHost kind s = .ok host) : ∀ h, host = some h → h.WellFormed := by
  rintro h rfl
  have special (hd : (if s.isEmpty then .error .emptyHost else (readDomainHost s).map some) =
      Except.ok (some h)) : h.WellFormed := by
    split at hd
    · cases hd
    · obtain ⟨h', hd, heq⟩ := map_eq_ok_iff.mp hd
      cases heq
      exact wellFormed_of_readDomainHost hd
  cases kind with
  | plain => exact wellFormed_of_readPlainHost hs
  | file => exact special hs
  | special => exact special hs

/-! ### Authorities -/

theorem freeOf_encode_userinfoSet (s : List Char) :
    FreeOf nameMarks (String.ofList (Percent.encode userinfoSet s)).toList := by
  rw [String.toList_ofList]
  have hescaped : ∀ c ∈ nameMarks, userinfoSet c = true := Text.forall_mem_of_all (by decide)
  exact Percent.freeOf_encode (Text.forall_mem_of_all (by decide)) fun c hc _ => hescaped c hc

theorem freeOf_of_readUserinfo {kind : SchemeKind} {s rest : List Char} {username password : String}
    (hs : readUserinfo kind s = .ok (username, password, rest)) :
    FreeOf nameMarks username.toList ∧ FreeOf nameMarks password.toList := by
  have empty : FreeOf nameMarks ("" : String).toList := Text.freeOf_nil
  unfold readUserinfo at hs
  dsimp only at hs
  split at hs
  · split at hs
    · split at hs
      · split at hs
        · cases hs
        · cases hs
          exact ⟨empty, empty⟩
      · cases hs
        exact ⟨empty, empty⟩
    · cases hs
      exact ⟨freeOf_encode_userinfoSet _, freeOf_encode_userinfoSet _⟩
  · cases hs
    exact ⟨empty, empty⟩

theorem port_le_of_readPort {scheme : String} {s rest : List Char} {port : Option Nat}
    (hs : readPort scheme s = .ok (port, rest)) : ∀ p, port = some p → p ≤ 65535 := by
  rintro p rfl
  unfold readPort at hs
  dsimp only at hs
  split at hs
  · cases hs
  · rename_i hle
    generalize s.takeWhile (fun c => '0' ≤ c && c ≤ '9') = digits at hs hle
    have kept (h : (if digits.isEmpty || defaultPort scheme = some (Text.ofDigits digits) then none
        else some (Text.ofDigits digits)) = some p) : p ≤ 65535 := by
      split at h
      · cases h
      · cases h
        exact Nat.le_of_not_lt hle
    split at hs
    · split at hs
      · exact kept (congrArg Prod.fst (Except.ok.inj hs))
      · cases hs
    · exact kept (congrArg Prod.fst (Except.ok.inj hs))

theorem wellFormed_of_readAuthority {scheme : String} {kind : SchemeKind} {s rest : List Char}
    {a : Authority} (hs : readAuthority scheme kind s = .ok (a, rest)) : a.WellFormed := by
  obtain ⟨⟨username, password, s₁⟩, hinfo, hs⟩ := bind_eq_ok_iff.mp hs
  obtain ⟨host, hhost, hs⟩ := bind_eq_ok_iff.mp hs
  obtain ⟨husername, hpassword⟩ := freeOf_of_readUserinfo hinfo
  have hwell := wellFormed_of_readHost hhost
  dsimp only at hs
  generalize (splitHost kind false s₁).2 = s₂ at hs
  -- Whether or not there is a colon, the user is looked at last.
  have finish {port : Option Nat} {s₃ : List Char} (hport : ∀ p, port = some p → p ≤ 65535)
      (hnone : host = none → port = none)
      (h : (if host.isNone && !(username.isEmpty && password.isEmpty) then .error Error.emptyHost
        else .ok ({ username, password, host, port : Authority }, s₃)) = Except.ok (a, rest)) :
      a.WellFormed := by
    split at h
    · cases h
    · rename_i hnamed
      cases h
      refine ⟨husername, hpassword, hwell, hport, fun hhost => ?_⟩
      dsimp only at hhost
      rw [hhost] at hnamed
      have hempty : username.isEmpty ∧ password.isEmpty := by simpa using hnamed
      exact ⟨String.isEmpty_iff.mp hempty.1, String.isEmpty_iff.mp hempty.2, hnone hhost⟩
  split at hs
  · cases hs
  · rename_i hcolon
    split at hs
    · obtain ⟨⟨port, s₃⟩, hport, hs⟩ := bind_eq_ok_iff.mp hs
      refine finish (port_le_of_readPort hport) (fun hnone => ?_) hs
      rw [hnone] at hcolon
      exact absurd rfl hcolon
    · obtain ⟨_, hport, hs⟩ := bind_eq_ok_iff.mp hs
      cases hport
      exact finish (fun p hp => by cases hp) (fun _ => rfl) hs

/-! ### URLs -/

theorem wellFormed_of_readAfterSlashes {scheme : String} {kind : SchemeKind} {s : List Char}
    {u : Url} (hkind : schemeKind scheme = kind) (hne : scheme ≠ "")
    (hscheme : ∀ c ∈ scheme.toList, isSchemeChar c = true)
    (hs : readAfterSlashes scheme kind s = .ok u) : u.WellFormed := by
  obtain ⟨⟨a, rest⟩, ha, hs⟩ := bind_eq_ok_iff.mp hs
  cases hs
  exact
    { scheme_ne := hne
      scheme := hscheme
      authority := by
        rintro _ ⟨⟩
        exact wellFormed_of_readAuthority ha
      path := wellFormed_startPath _ _
      flat := by rintro ⟨⟩
      root := by rintro ⟨⟩
      file := fun hfile => startPath_file (hkind.symm.trans hfile) _ }

theorem wellFormed_flat {s : List Char} (hends : ∀ c ∈ s, endsPath c = false)
    (hslash : ∀ rest, s ≠ '/' :: rest) :
    (Path.flat (String.ofList (Percent.encode controlSet s))).WellFormed := by
  constructor
  · rw [String.toList_ofList]
    refine Percent.freeOf_encode (Text.forall_mem_of_all (by decide)) fun c hc hmem => ?_
    have hmarks : ∀ c ∈ ['?', '#'], endsPath c = true := Text.forall_mem_of_all (by decide)
    exact absurd (hends c hmem) (by rw [hmarks c hc]; exact Bool.noConfusion)
  · rw [String.toList_ofList]
    intro h
    obtain ⟨rest, hrest⟩ := List.head?_eq_some_iff.mp (Percent.head?_of_head?_encode (by decide) h)
    exact hslash rest hrest

theorem wellFormed_of_readPlain {scheme : String} {s : List Char} {u : Url}
    (hkind : schemeKind scheme = .plain) (hne : scheme ≠ "")
    (hscheme : ∀ c ∈ scheme.toList, isSchemeChar c = true)
    (hs : readPlain scheme s = .ok u) : u.WellFormed := by
  unfold readPlain at hs
  split at hs
  · exact wellFormed_of_readAfterSlashes hkind hne hscheme hs
  · cases hs
    refine ⟨hne, hscheme, by rintro _ ⟨⟩, ?_, fun _ => rfl, fun _ => ?_, fun hfile => ?_⟩
    · dsimp only
      split
      · exact wellFormed_resolvePath _ wellFormed_rooted_nil
      · rename_i hslash
        exact wellFormed_flat
          (fun c hc => by simpa using List.all_eq_true.mp List.all_takeWhile c hc) hslash
    · dsimp only
      split
      · exact fun h => resolvePath_ne_nil (Path.rooted.inj h)
      · rintro ⟨⟩
    · cases hkind.symm.trans hfile

/-- A base with another path, query and fragment. -/
theorem WellFormed.withPath {kind : SchemeKind} {base : Url} (h : base.WellFormed)
    (hkind : schemeKind base.scheme = kind) {done : List String}
    (hdone : (Path.rooted done).WellFormed) (s : List Char) :
    (Url.withPath kind base done s).WellFormed where
  scheme_ne := h.scheme_ne
  scheme := h.scheme
  authority := h.authority
  path := wellFormed_resolvePath _ hdone
  flat := by rintro ⟨⟩
  root := fun _ hnil => resolvePath_ne_nil (Path.rooted.inj hnil)
  file := fun hfile => resolvePath_file (hkind.symm.trans hfile) _ _

/-- What follows the path does not matter. -/
theorem WellFormed.withTail {u : Url} (h : u.WellFormed) (query fragment : Option String) :
    { u with query, fragment }.WellFormed :=
  ⟨h.scheme_ne, h.scheme, h.authority, h.path, h.flat, h.root, h.file⟩

theorem WellFormed.withoutPath {kind : SchemeKind} {base : Url} (h : base.WellFormed)
    (s : List Char) : (Url.withoutPath kind base s).WellFormed := by
  unfold Url.withoutPath
  split
  · exact h.withTail _ _
  · exact h.withTail _ _

theorem wellFormed_baseSegments {kind : SchemeKind} {base : Url} (h : base.WellFormed) :
    (Path.rooted (baseSegments kind base)).WellFormed := by
  have hall := h.path.segments
  have hfront : (Path.rooted base.path.segments.dropLast).WellFormed :=
    fun s hs => hall s (List.dropLast_subset _ hs)
  unfold baseSegments
  dsimp only
  split
  · split
    · exact hall
    · exact hfront
  · exact hfront

/-! ### Local files -/

theorem wellFormed_localFile {segments : List String} (h : (Path.rooted segments).WellFormed)
    (s : List Char) : (localFile segments s).WellFormed where
  scheme_ne := show "file" ≠ "" by decide
  scheme := by
    have hfile : ∀ c ∈ "file".toList, isSchemeChar c = true := Text.forall_mem_of_all (by decide)
    exact hfile
  authority := by
    rintro _ ⟨⟩
    exact ⟨Text.freeOf_nil, Text.freeOf_nil, by rintro _ ⟨⟩, by rintro _ ⟨⟩,
      fun _ => ⟨rfl, rfl, rfl⟩⟩
  path := wellFormed_resolvePath _ h
  flat := by rintro ⟨⟩
  root := by rintro ⟨⟩
  file := fun _ => resolvePath_file rfl _ _

theorem wellFormed_of_readFileHost {s : List Char} {host : Option Host}
    (hs : readFileHost s = .ok host) : ∀ h, host = some h → h.WellFormed := by
  rintro h rfl
  unfold readFileHost at hs
  split at hs
  · cases hs
  · obtain ⟨h', hd, heq⟩ := map_eq_ok_iff.mp hs
    split at heq
    · cases heq
    · cases heq
      exact wellFormed_of_readDomainHost hd

theorem wellFormed_of_readFileAuthority {s : List Char} {u : Url}
    (hs : readFileAuthority s = .ok u) : u.WellFormed := by
  unfold readFileAuthority at hs
  dsimp only at hs
  split at hs
  · cases hs
    exact wellFormed_localFile wellFormed_rooted_nil _
  · generalize s.takeWhile (fun c => !endsAuthority .file c) = hostText at hs
    obtain ⟨host, hhost, hs⟩ := bind_eq_ok_iff.mp hs
    split at hs
    · cases hs
      exact wellFormed_localFile wellFormed_rooted_nil _
    · rename_i h
      cases hs
      have hlocal := wellFormed_localFile wellFormed_rooted_nil (s.drop hostText.length)
      refine ⟨hlocal.scheme_ne, hlocal.scheme, ?_, ?_, by rintro ⟨⟩, by rintro ⟨⟩, fun _ => ?_⟩
      · have kept (isLocal : Bool) (h' : Host) (hh : (if isLocal then none else some h) = some h') :
            h'.WellFormed := by
          cases isLocal <;> cases hh
          exact wellFormed_of_readFileHost hhost h rfl
        rintro _ ⟨⟩
        exact ⟨Text.freeOf_nil, Text.freeOf_nil, fun h' => kept _ h', by rintro _ ⟨⟩,
          fun _ => ⟨rfl, rfl, rfl⟩⟩
      · exact wellFormed_withoutLeadingSlashes (freeOf_resolveSegments wellFormed_rooted_nil
          fun _ hpiece => freeOf_splitPath hpiece)
      · exact fun s rest hpath => withoutLeadingSlashes_file _ s rest (Path.rooted.inj hpath)

/-! ### Reading -/

theorem isSchemeChar_toLower {c : Char} (h : isSchemeChar c = true) :
    isSchemeChar c.toLower = true := by
  by_cases hupper : c.isUpper = true
  · have hascii : c.toNat < 128 :=
      Text.toNat_lt_of_isAlpha ((Bool.or_eq_true _ _).mpr (.inl hupper))
    exact Text.forall_ascii (P := fun c => c.isUpper = true → isSchemeChar c.toLower = true)
      (by decide) hascii hupper
  · have hsame : c.toLower = c := dif_neg fun hrange => hupper (decide_eq_true hrange)
    rwa [hsame]

theorem scheme_of_splitScheme? {s rest : List Char} {scheme : String}
    (hs : splitScheme? s = some (scheme, rest)) :
    scheme ≠ "" ∧ ∀ c ∈ scheme.toList, isSchemeChar c = true := by
  unfold splitScheme? at hs
  dsimp only at hs
  split at hs
  · cases hs
  · rename_i c s
    split at hs
    · rename_i halpha
      have hc : isSchemeChar c = true := by simp [isSchemeChar, Char.isAlphanum, halpha]
      split at hs
      · cases hs
        constructor
        · have hc' : (c.isAlphanum || c == '+' || c == '-' || c == '.') = true := hc
          simp [hc']
        · rw [String.toList_ofList]
          intro d hd
          obtain ⟨e, he, rfl⟩ := List.mem_map.mp hd
          exact isSchemeChar_toLower (List.all_eq_true.mp List.all_takeWhile e he)
      · cases hs
    · cases hs

theorem SchemeOn.chars {base : Option Url} {scheme : String} (h : SchemeOn base scheme)
    (hbase : ∀ b, base = some b → b.WellFormed) :
    scheme ≠ "" ∧ ∀ c ∈ scheme.toList, isSchemeChar c = true := by
  rcases h with ⟨text, rest, hsplit⟩ | ⟨b, hb, rfl⟩
  · exact scheme_of_splitScheme? hsplit
  · exact ⟨(hbase b hb).scheme_ne, (hbase b hb).scheme⟩

/-- Reading gives a well-formed URL, on a base that is one. -/
theorem wellFormed_of_read {base : Option Url} (hbase : ∀ b, base = some b → b.WellFormed)
    {s : List Char} {u : Url} (hs : read base s = .ok u) : u.WellFormed := by
  cases readOn_of_read hs with
  | afterSlashes hscheme hu =>
    obtain ⟨hne, hchars⟩ := hscheme.chars hbase
    exact wellFormed_of_readAfterSlashes rfl hne hchars hu
  | plain hscheme hkind hu =>
    obtain ⟨hne, hchars⟩ := hscheme.chars hbase
    exact wellFormed_of_readPlain hkind hne hchars hu
  | @withPath b done hb hdone s =>
    have hwell := hbase b hb
    refine hwell.withPath rfl ?_ s
    rcases hdone with rfl | rfl
    · exact wellFormed_rooted_nil
    · exact wellFormed_baseSegments hwell
  | withoutPath hb kind s => exact (hbase _ hb).withoutPath s
  | localFile hsegments s =>
    refine wellFormed_localFile (fun segment hsegment => ?_) s
    obtain ⟨b, hb, hmem⟩ := hsegments segment hsegment
    exact (hbase b hb).path.segments segment hmem
  | fileAuthority hu => exact wellFormed_of_readFileAuthority hu

theorem wellFormed_of_parse {text : String} {u : Url} (h : parse text = .ok u) : u.WellFormed :=
  wellFormed_of_read (by rintro _ ⟨⟩) h

theorem WellFormed.join {base u : Url} {reference : String} (hbase : base.WellFormed)
    (h : base.join reference = .ok u) : u.WellFormed :=
  wellFormed_of_read (by rintro _ ⟨⟩; exact hbase) h

end Url

structure WellFormedUrl extends Url where
  wellFormed : toUrl.WellFormed

namespace WellFormedUrl

instance : CoeOut WellFormedUrl Url := ⟨toUrl⟩

def ofParse {text : String} {u : Url} (h : Url.parse text = .ok u) : WellFormedUrl :=
  ⟨u, Url.wellFormed_of_parse h⟩

def joined (base : WellFormedUrl) {reference : String} {u : Url}
    (h : base.toUrl.join reference = .ok u) : WellFormedUrl :=
  ⟨u, base.wellFormed.join h⟩

end WellFormedUrl

end CloudReach
