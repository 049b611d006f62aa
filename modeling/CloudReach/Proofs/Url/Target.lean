import CloudReach.Proofs.Url.WellFormed
import CloudReach.Target

/-!
# URLs as targets

The text of a well-formed URL, read as a target. With an authority it is an absolute target with the
same authority and path. With a flat path it may be taken for an authority, and never is absolute;
with another path and no authority it is no target.
-/

namespace CloudReach

open Text (FreeOf)

/-! ### The text of an authority -/

namespace Text

variable {marks : List Char}

theorem freeOf_intercalate {sep : List Char} {pieces : List (List Char)} (hsep : FreeOf marks sep)
    (h : ∀ piece ∈ pieces, FreeOf marks piece) : FreeOf marks (sep.intercalate pieces) := by
  induction pieces with
  | nil => exact freeOf_nil
  | cons piece rest ih =>
    cases rest with
    | nil => simpa using h
    | cons next rest =>
      rw [List.intercalate_cons_cons, freeOf_append, freeOf_append]
      exact ⟨⟨h _ List.mem_cons_self, hsep⟩, ih fun p hp => h p (List.mem_cons_of_mem _ hp)⟩

theorem freeOf_toDigits {b : Nat} (hb : 1 < b) (h : ∀ d < b, d.digitChar ∉ marks) (n : Nat) :
    FreeOf marks (Nat.toDigits b n) := by
  induction n using Nat.base_induction b hb with
  | single m hm =>
    rw [Nat.toDigits_of_lt_base hm, freeOf_cons]
    exact ⟨h m hm, freeOf_nil⟩
  | digit m k hk hm ih =>
    rw [← Nat.toDigits_append_toDigits hb hm hk, freeOf_append, Nat.toDigits_of_lt_base hk,
      freeOf_cons]
    exact ⟨ih, h k hk, freeOf_nil⟩

end Text

theorem Ipv6.freeOf_text (a : Ipv6) : FreeOf ['/', '?', '#', '@', '[', ']'] a.text := by
  have groups (gs : List UInt16) : FreeOf ['/', '?', '#', '@', '[', ']'] (groupsText gs) := by
    refine Text.freeOf_intercalate (by decide) fun piece hpiece => ?_
    obtain ⟨g, -, rfl⟩ := List.mem_map.mp hpiece
    exact Text.freeOf_toDigits (by decide) (by decide) _
  unfold text
  dsimp only
  split
  · rw [Text.freeOf_append, Text.freeOf_append]
    exact ⟨⟨groups _, by decide⟩, groups _⟩
  · exact groups _

theorem Host.freeOf_dotted (address : UInt32) : FreeOf Url.nameMarks (dotted address) := by
  refine Text.freeOf_intercalate (by decide) fun piece hpiece => ?_
  obtain ⟨n, -, rfl⟩ := List.mem_map.mp hpiece
  exact Text.freeOf_toDigits (by decide) (by decide) _

theorem Host.WellFormed.freeOf_text {h : Host} (hh : h.WellFormed) :
    FreeOf ['/', '?', '#', '@'] h.text := by
  cases h with
  | name s => exact hh.2.subset (by decide)
  | v4 a => exact (freeOf_dotted a).subset (by decide)
  | v6 a =>
    have ha : FreeOf ['/', '?', '#', '@'] a.text := a.freeOf_text.subset (by decide)
    simpa [text] using ha

/-- The text of an authority has no place where a path, a query or a fragment could start. -/
theorem Url.Authority.WellFormed.freeOf_text {a : Url.Authority} (ha : a.WellFormed) :
    FreeOf segmentMarks a.text := by
  have husername : FreeOf segmentMarks a.username.toList := ha.username.subset (by decide)
  have hpassword : FreeOf segmentMarks a.password.toList := ha.password.subset (by decide)
  have hport (p : Nat) : FreeOf segmentMarks (Text.digits p) :=
    Text.freeOf_toDigits (by decide) (by decide) p
  rw [text, Text.freeOf_append, Text.freeOf_append]
  refine ⟨⟨?_, ?_⟩, ?_⟩
  · unfold userinfo
    split
    · exact Text.freeOf_nil
    · have hcolon : ':' ∉ segmentMarks := by decide
      have hat : '@' ∉ segmentMarks := by decide
      split <;> simp [husername, hpassword, hcolon, hat]
  · cases hhost : a.host with
    | none => exact Text.freeOf_nil
    | some h => exact (ha.host h hhost).freeOf_text.subset (by decide)
  · cases a.port with
    | none => exact Text.freeOf_nil
    | some p => exact Text.freeOf_cons.mpr ⟨by decide, hport p⟩

namespace Target

theorem isSchemeChar_of_url {c : Char} (h : Url.isSchemeChar c = true) : isSchemeChar c = true := by
  unfold Url.isSchemeChar at h
  unfold isSchemeChar
  rw [h, Bool.true_or]

theorem splitAuthority_append {front rest : List Char} (hfront : FreeOf Url.segmentMarks front)
    (hrest : ∀ c, rest.head? = some c → endsAuthority c = true) :
    splitAuthority (front ++ rest) = (checkAuthority front).map fun _ => (front, rest) := by
  have hchars : ∀ c ∈ front, (!endsAuthority c) = true := by
    intro c hc
    have hslash : c ≠ '/' := fun h => hfront '/' (by decide) (h ▸ hc)
    have hquery : c ≠ '?' := fun h => hfront '?' (by decide) (h ▸ hc)
    have hfragment : c ≠ '#' := fun h => hfront '#' (by decide) (h ▸ hc)
    simp [endsAuthority, hslash, hquery, hfragment]
  have htake : (front ++ rest).takeWhile (fun c => !endsAuthority c) = front :=
    Text.takeWhile_append_stop hchars fun c hc => by simp [hrest c hc]
  unfold splitAuthority
  rw [htake]
  dsimp only
  rw [List.drop_left]
  cases checkAuthority front <;> rfl

theorem takeWhile_path {path tail : List Char} (hpath : FreeOf ['?', '#'] path)
    (htail : ∀ c, tail.head? = some c → c = '?' ∨ c = '#') :
    (path ++ tail).takeWhile (fun c => c != '?' && c != '#') = path := by
  refine Text.takeWhile_append_stop (fun c hc => ?_) fun c hc => ?_
  · have hquery : c ≠ '?' := fun heq => hpath '?' (by decide) (heq ▸ hc)
    have hfragment : c ≠ '#' := fun heq => hpath '#' (by decide) (heq ▸ hc)
    simp [hquery, hfragment]
  · rcases htail c hc with rfl | rfl <;> rfl

theorem readPath_append {path tail : List Char} (hpath : FreeOf ['?', '#'] path)
    (htail : ∀ c, tail.head? = some c → c = '?' ∨ c = '#') {p : String} {q : Option String}
    (h : readPath (path ++ tail) = .ok (p, q)) : p = String.ofList path := by
  unfold readPath at h
  rw [takeWhile_path hpath htail] at h
  dsimp only at h
  split at h
  · split at h
    · split at h
      · cases h
        rfl
      · cases h
    · cases h
      rfl
  · cases h

/-- Text after a scheme starts with two slashes if it is found to have one. -/
theorem splitScheme_eq_ok {scheme rest : List Char} {found : Option (Scheme × List Char)}
    (hscheme : ∀ c ∈ scheme, Url.isSchemeChar c = true)
    (h : splitScheme (scheme ++ ':' :: rest) = .ok found) :
    (∃ kind after, rest = '/' :: '/' :: after ∧ found = some (kind, after)) ∨
      (∀ after, rest ≠ '/' :: '/' :: after) ∧ found = none := by
  have htake : (scheme ++ ':' :: rest).takeWhile isSchemeChar = scheme := by
    refine Text.takeWhile_append_stop (fun c hc => isSchemeChar_of_url (hscheme c hc))
      fun c hc => ?_
    obtain rfl := Option.some.inj hc
    decide
  unfold splitScheme at h
  rw [htake] at h
  dsimp only at h
  rw [List.drop_left] at h
  split at h
  · rename_i after heq
    have hrest : rest = '/' :: '/' :: after := (List.cons.inj heq).2
    split at h
    · exact .inl ⟨_, _, hrest, (Except.ok.inj h).symm⟩
    · split at h
      · exact .inl ⟨_, _, hrest, (Except.ok.inj h).symm⟩
      · split at h
        · cases h
        · exact .inl ⟨_, _, hrest, (Except.ok.inj h).symm⟩
  · rename_i hslashes
    exact .inr ⟨fun after heq => hslashes after (heq ▸ rfl), (Except.ok.inj h).symm⟩

/-- A text with a scheme is an absolute target if two slashes follow it, and otherwise an authority
as a whole. -/
theorem parse_of_scheme {text : String} {scheme rest : List Char} {t : Target} (hne : scheme ≠ [])
    (hscheme : ∀ c ∈ scheme, Url.isSchemeChar c = true)
    (htext : text.toList = scheme ++ ':' :: rest)
    (h : parse text = .ok t) :
    (∃ after authority path, rest = '/' :: '/' :: after ∧
      splitAuthority after = .ok (authority, path) ∧ authority ≠ [] ∧
      readPath path = .ok (t.path, t.query) ∧ t.scheme.isSome ∧
      t.authority = some ⟨String.ofList authority⟩) ∨
    (∀ after, rest ≠ '/' :: '/' :: after) ∧ (splitAuthority text.toList).map Prod.snd = .ok [] ∧
      t = { scheme := none, authority := some ⟨text⟩, path := "", query := none } := by
  obtain ⟨c, scheme', rfl⟩ := List.exists_cons_of_ne_nil hne
  have hc : c ≠ '/' := by
    rintro rfl
    exact absurd (hscheme '/' List.mem_cons_self) (by decide)
  unfold parse at h
  dsimp only at h
  split at h
  · cases h
  · split at h
    · rename_i heq
      rw [htext] at heq
      cases heq
    · rename_i heq
      rw [htext] at heq
      exact absurd (List.cons.inj heq).1 hc
    · rename_i heq
      rw [htext] at heq
      cases scheme' <;> cases heq
    · rename_i heq
      rw [htext] at heq
      cases scheme' <;> cases heq
    · obtain ⟨found, hfound, h⟩ := bind_eq_ok_iff.mp h
      rw [htext] at hfound
      rcases splitScheme_eq_ok hscheme hfound with ⟨kind, after, rfl, rfl⟩ | ⟨hslashes, rfl⟩
      · obtain ⟨⟨authority, path⟩, hauthority, h⟩ := bind_eq_ok_iff.mp h
        dsimp only at h
        split at h
        · cases h
        · rename_i hempty
          obtain ⟨⟨p, q⟩, hpath, h⟩ := bind_eq_ok_iff.mp h
          cases h
          exact .inl
            ⟨after, authority, path, rfl, hauthority, by simpa using hempty, hpath, rfl, rfl⟩
      · obtain ⟨⟨authority, path⟩, hauthority, h⟩ := bind_eq_ok_iff.mp h
        dsimp only at h
        split at h
        · rename_i hempty
          cases h
          refine .inr ⟨hslashes, map_eq_ok_iff.mpr ⟨_, hauthority, ?_⟩, rfl⟩
          simpa using hempty
        · cases h

end Target

/-! ### URLs -/

namespace Url

def tailChars (u : Url) : List Char :=
  (u.query.map fun q => '?' :: q.toList).getD [] ++
    (u.fragment.map fun f => '#' :: f.toList).getD []

theorem head?_tailChars (u : Url) {c : Char} (h : u.tailChars.head? = some c) :
    c = '?' ∨ c = '#' := by
  unfold tailChars at h
  cases hquery : u.query with
  | some q =>
    rw [hquery] at h
    exact .inl (Option.some.inj h).symm
  | none =>
    cases hfragment : u.fragment with
    | some f =>
      rw [hquery, hfragment] at h
      exact .inr (Option.some.inj h).symm
    | none =>
      rw [hquery, hfragment] at h
      cases h

theorem toList_text (u : Url) :
    u.text.toList = u.scheme.toList ++ ':' ::
      ((u.authority.map fun a => '/' :: '/' :: a.text).getD [] ++
        (u.pathChars ++ u.tailChars)) := by
  rw [text, String.toList_ofList, chars, tailChars, List.append_assoc, List.append_assoc]

theorem freeOf_rooted_text {segments : List String} (h : (Path.rooted segments).WellFormed) :
    FreeOf ['?', '#'] (Path.rooted segments).text := by
  intro c hc hmem
  obtain ⟨s, hs, hcs⟩ := List.mem_flatMap.mp hmem
  rcases List.mem_cons.mp hcs with rfl | hcs
  · exact absurd hc (by decide)
  · have hfree : FreeOf ['?', '#'] s.toList := (h s hs).subset (by decide)
    exact hfree c hc hcs

end Url

namespace WellFormedUrl

open Url

variable (u : WellFormedUrl) {t : Target} {a : Authority}

/-- Only a rooted path follows an authority. -/
theorem rooted_of_authority (ha : u.authority = some a) :
    ∃ segments, u.path = .rooted segments := by
  cases hpath : u.path with
  | rooted segments => exact ⟨segments, rfl⟩
  | flat t =>
    have hnone := u.wellFormed.flat (by rw [isFlat, hpath])
    rw [ha] at hnone
    cases hnone

/-- The path and query of a URL with an authority are read after it. -/
theorem readPath_of_authority (ha : u.authority = some a) (h : Target.parse u.text = .ok t) :
    t.scheme.isSome ∧ t.authority = some ⟨String.ofList a.text⟩ ∧ a.text ≠ [] ∧
      Target.readPath (u.path.text ++ u.tailChars) = .ok (t.path, t.query) := by
  have hchars : u.pathChars = u.path.text := by rw [pathChars, ha]
  have htext := u.toList_text
  rw [ha, hchars] at htext
  have hne : u.scheme.toList ≠ [] := by simpa using u.wellFormed.scheme_ne
  rcases Target.parse_of_scheme hne u.wellFormed.scheme htext h with
    ⟨after, authority, path, hafter, hsplit, hauthority, hread, hscheme, ht⟩ | ⟨hslashes, -⟩
  · have hends : ∀ c, (u.path.text ++ u.tailChars).head? = some c →
        Target.endsAuthority c = true := by
      intro c hc
      obtain ⟨segments, hpath⟩ := u.rooted_of_authority ha
      rw [hpath] at hc
      cases segments with
      | nil => rcases u.head?_tailChars hc with rfl | rfl <;> rfl
      | cons s segments =>
        obtain rfl := Option.some.inj hc
        rfl
    have heq : a.text ++ (u.path.text ++ u.tailChars) = after :=
      (List.cons.inj (List.cons.inj hafter).2).2
    rw [← heq, Target.splitAuthority_append (u.wellFormed.authority a ha).freeOf_text hends] at hsplit
    obtain ⟨_, -, heq⟩ := map_eq_ok_iff.mp hsplit
    cases heq
    exact ⟨hscheme, ht, hauthority, hread⟩
  · exact absurd rfl (hslashes _)

theorem freeOf_path_of_authority (ha : u.authority = some a) : FreeOf ['?', '#'] u.path.text := by
  obtain ⟨segments, hpath⟩ := u.rooted_of_authority ha
  have hrooted : (Path.rooted segments).WellFormed := hpath ▸ u.wellFormed.path
  exact hpath ▸ freeOf_rooted_text hrooted

/-- A URL with an authority is an absolute target with that authority and the same path. -/
theorem target_of_authority (ha : u.authority = some a) (h : Target.parse u.text = .ok t) :
    t.scheme.isSome ∧ t.authority = some ⟨String.ofList a.text⟩ ∧ a.text ≠ [] ∧
      t.path = String.ofList u.path.text := by
  obtain ⟨hscheme, hauthority, hne, hread⟩ := u.readPath_of_authority ha h
  exact ⟨hscheme, hauthority, hne,
    Target.readPath_append (u.freeOf_path_of_authority ha) (fun c hc => u.head?_tailChars hc) hread⟩

/-- A flat URL is at most an authority. -/
theorem target_of_flat (hflat : u.isFlat = true) (h : Target.parse u.text = .ok t) :
    t = { scheme := none, authority := some ⟨u.text⟩, path := "", query := none } := by
  have hnone := u.wellFormed.flat hflat
  obtain ⟨flat, hpath⟩ : ∃ flat, u.path = .flat flat := by
    cases hpath : u.path with
    | rooted segments =>
      rw [isFlat, hpath] at hflat
      cases hflat
    | flat flat => exact ⟨flat, rfl⟩
  have hslash : (flat.toList ++ u.tailChars).head? ≠ some '/' := by
    intro hhead
    have hstart := (hpath ▸ u.wellFormed.path : (Path.flat flat).WellFormed).2
    cases hchars : flat.toList with
    | nil =>
      rw [hchars] at hhead
      rcases u.head?_tailChars hhead with hc | hc <;> cases hc
    | cons c rest =>
      rw [hchars] at hhead hstart
      exact hstart hhead
  have htext := u.toList_text
  rw [hnone, pathChars, hnone, hpath] at htext
  have hne : u.scheme.toList ≠ [] := by simpa using u.wellFormed.scheme_ne
  rcases Target.parse_of_scheme hne u.wellFormed.scheme htext h with ⟨after, _, _, hafter, -⟩ | ⟨-, -, ht⟩
  · exact absurd (congrArg List.head? hafter) hslash
  · exact ht

/-- Without an authority the first slash of a path stands alone: a dot is put in front of a second
one. -/
theorem slash_of_no_authority (hnone : u.authority = none) (hflat : u.isFlat = false) :
    ∃ rest, u.pathChars ++ u.tailChars = '/' :: rest ∧ rest.head? ≠ some '/' := by
  obtain ⟨s, segments, hpath⟩ : ∃ s segments, u.path = .rooted (s :: segments) := by
    cases hpath : u.path with
    | rooted segments =>
      cases segments with
      | nil => exact absurd hpath (u.wellFormed.root hnone)
      | cons s segments => exact ⟨s, segments, rfl⟩
    | flat flat =>
      rw [isFlat, hpath] at hflat
      cases hflat
  have htext : u.path.text ++ u.tailChars =
      '/' :: (s.toList ++ ((Path.rooted segments).text ++ u.tailChars)) := by
    simp [hpath, Path.text]
  unfold pathChars
  split
  · exact ⟨_, rfl, by rintro ⟨⟩⟩
  · rename_i hdot
    refine ⟨_, htext, fun hhead => ?_⟩
    cases hs : s.toList with
    | cons c s' =>
      rw [hs] at hhead
      obtain rfl := Option.some.inj hhead
      have hwell : (Path.rooted (s :: segments)).WellFormed := hpath ▸ u.wellFormed.path
      have hfree := hwell s List.mem_cons_self
      exact hfree '/' (by decide) (hs ▸ List.mem_cons_self)
    | nil =>
      obtain rfl : s = "" := by simpa using hs
      cases segments with
      | cons next segments => exact hdot next segments hnone hpath
      | nil =>
        rw [hs] at hhead
        rcases u.head?_tailChars hhead with hc | hc <;> cases hc

/-- A path without an authority leads nowhere. -/
theorem not_target (hnone : u.authority = none) (hflat : u.isFlat = false) :
    Target.parse u.text ≠ .ok t := by
  intro h
  obtain ⟨rest, hchars, hrest⟩ := u.slash_of_no_authority hnone hflat
  have htext := u.toList_text
  rw [hnone, hchars] at htext
  have hne : u.scheme.toList ≠ [] := by simpa using u.wellFormed.scheme_ne
  rcases Target.parse_of_scheme hne u.wellFormed.scheme htext h with ⟨after, _, _, hafter, -⟩ | ⟨-, hsplit, -⟩
  · have hhead : rest = '/' :: after := (List.cons.inj hafter).2
    exact hrest (hhead ▸ rfl)
  · -- As an authority the text would have to end where the path starts.
    have hfront : FreeOf segmentMarks (u.scheme.toList ++ [':']) := by
      refine Text.freeOf_append.mpr ⟨fun c hc hmem => ?_, by decide⟩
      have hmarks : ∀ c ∈ segmentMarks, isSchemeChar c = false :=
        Text.forall_mem_of_all (by decide)
      have hscheme := u.wellFormed.scheme c hmem
      rw [hmarks c hc] at hscheme
      cases hscheme
    have hsplits : u.text.toList = (u.scheme.toList ++ [':']) ++ '/' :: rest := by
      rw [htext, List.append_assoc]
      rfl
    rw [hsplits, Target.splitAuthority_append hfront (by rintro c ⟨⟩; rfl)] at hsplit
    obtain ⟨_, hsplit, hnil⟩ := map_eq_ok_iff.mp hsplit
    obtain ⟨_, -, rfl⟩ := map_eq_ok_iff.mp hsplit
    cases hnil

end WellFormedUrl

end CloudReach
