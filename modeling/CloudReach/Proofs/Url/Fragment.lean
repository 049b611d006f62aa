import CloudReach.Proofs.Url.Target

/-!
# Targets and fragments

What follows a number sign in a text is no part of the target that is read from it, so a text with a
fragment is no other target than the text in front of it.
-/

namespace CloudReach

namespace Target

variable {s f : List Char} {t : Target}

theorem takeWhile_fragment {p : Char → Bool} (hp : p '#' = false) :
    (s ++ '#' :: f).takeWhile p = s.takeWhile p := by
  induction s with
  | nil => rw [List.nil_append, List.takeWhile_cons_of_neg (by simp [hp]), List.takeWhile_nil]
  | cons c s ih => rw [List.cons_append, List.takeWhile_cons, List.takeWhile_cons, ih]

theorem drop_fragment (p : Char → Bool) :
    (s ++ '#' :: f).drop (s.takeWhile p).length = s.drop (s.takeWhile p).length ++ '#' :: f :=
  List.drop_append_of_le_length (List.takeWhile_sublist p).length_le

theorem splitAuthority_fragment :
    splitAuthority (s ++ '#' :: f) = (splitAuthority s).map fun p => (p.1, p.2 ++ '#' :: f) := by
  unfold splitAuthority
  rw [takeWhile_fragment rfl]
  dsimp only
  rw [drop_fragment]
  cases checkAuthority (s.takeWhile fun c => !endsAuthority c) <;> rfl

theorem readPath_fragment : readPath (s ++ '#' :: f) = readPath s := by
  unfold readPath
  rw [takeWhile_fragment rfl]
  dsimp only
  rw [drop_fragment]
  cases hrest : s.drop (s.takeWhile fun c => c != '?' && c != '#').length with
  | nil => rfl
  | cons c rest =>
    rw [List.cons_append]
    by_cases hc : c = '?'
    · subst hc
      have hquery : (rest ++ '#' :: f).takeWhile (· != '#') = rest.takeWhile (· != '#') :=
        takeWhile_fragment rfl
      simp only [hquery]
    · split
      · split
        · rename_i heq
          exact absurd (List.cons.inj heq).1 hc
        · split
          · rename_i heq
            exact absurd (List.cons.inj heq).1 hc
          · rfl
      · rfl

/-- No part of the colon and the slashes after a scheme is a number sign. -/
theorem slashes_fragment {r : List Char} (h : s ++ '#' :: f = ':' :: '/' :: '/' :: r) :
    ∃ r', s = ':' :: '/' :: '/' :: r' ∧ r = r' ++ '#' :: f := by
  rcases List.append_eq_append_iff.mp (show s ++ '#' :: f = [':', '/', '/'] ++ r from h) with
    ⟨l, hslashes, hf⟩ | ⟨r', hs, hr⟩
  · cases l with
    | nil =>
      rw [List.append_nil] at hslashes
      exact ⟨[], hslashes.symm, hf.symm⟩
    | cons c l =>
      obtain rfl := (List.cons.inj hf).1
      have hmem : '#' ∈ [':', '/', '/'] := hslashes ▸ List.mem_append_right s List.mem_cons_self
      exact absurd hmem (by decide)
  · exact ⟨r', hs, hr⟩

theorem splitScheme_fragment :
    splitScheme (s ++ '#' :: f) =
      (splitScheme s).map (Option.map fun p => (p.1, p.2 ++ '#' :: f)) := by
  unfold splitScheme
  rw [takeWhile_fragment rfl]
  dsimp only
  rw [drop_fragment]
  generalize s.drop (s.takeWhile isSchemeChar).length = rest
  split
  · rename_i r heq
    obtain ⟨r', rfl, rfl⟩ := slashes_fragment heq
    split
    · rfl
    · split
      · rfl
      · split <;> rfl
  · rename_i hslashes
    split
    · exact absurd rfl (hslashes _)
    · rfl

def readLong (text : String) (cs : List Char) : Except Error Target := do
  match ← splitScheme cs with
  | none =>
    let (_, rest) ← splitAuthority cs
    if rest.isEmpty then
      .ok { scheme := none, authority := some ⟨text⟩, path := "", query := none }
    else .error .invalidFormat
  | some (scheme, afterScheme) =>
    let (authority, rest) ← splitAuthority afterScheme
    if authority.isEmpty then .error .invalidFormat
    else do
      let (path, query) ← readPath rest
      .ok { scheme := some scheme, authority := some ⟨String.ofList authority⟩, path, query }

theorem parse_eq_readLong {text : String} {c d : Char} (hc : c ≠ '/')
    (htext : text.toList = c :: d :: s) :
    parse text = if 65534 < text.utf8ByteSize then .error .tooLong
      else readLong text text.toList := by
  unfold parse
  dsimp only
  split
  · rfl
  · rw [htext]
    split
    · rename_i heq
      cases heq
    · rename_i heq
      exact absurd (List.cons.inj heq).1 hc
    · rename_i heq
      cases heq
    · rename_i heq
      cases heq
    · rfl

theorem readLong_of_fragment {text front : String}
    (h : readLong text (s ++ '#' :: f) = .ok t) : readLong front s = .ok t := by
  unfold readLong at h ⊢
  rw [splitScheme_fragment] at h
  obtain ⟨_, hfound, hread⟩ := bind_eq_ok_iff.mp h
  obtain ⟨found, hscheme, rfl⟩ := map_eq_ok_iff.mp hfound
  refine bind_eq_ok_iff.mpr ⟨found, hscheme, ?_⟩
  cases found with
  | none =>
    -- An authority alone does not end where a fragment starts.
    obtain ⟨_, hauthority, hrest⟩ := bind_eq_ok_iff.mp hread
    rw [splitAuthority_fragment] at hauthority
    obtain ⟨_, -, rfl⟩ := map_eq_ok_iff.mp hauthority
    dsimp only at hrest
    rw [if_neg (by simp)] at hrest
    cases hrest
  | some found =>
    obtain ⟨_, hauthority, hpath⟩ := bind_eq_ok_iff.mp hread
    rw [splitAuthority_fragment] at hauthority
    obtain ⟨p, hsplit, rfl⟩ := map_eq_ok_iff.mp hauthority
    dsimp only at hpath
    rw [readPath_fragment] at hpath
    exact bind_eq_ok_iff.mpr ⟨p, hsplit, hpath⟩

/-- A target that is read from a text with a fragment is read from the text in front of it. -/
theorem parse_of_fragment {text front : String} {c d : Char} (hc : c ≠ '/')
    (hfront : front.toList = c :: d :: s) (htext : text.toList = front.toList ++ '#' :: f)
    (h : parse text = .ok t) : parse front = .ok t := by
  have hshorter : front.utf8ByteSize ≤ text.utf8ByteSize := by
    have happend : text = front ++ String.ofList ('#' :: f) := String.toList_inj.mp (by simp [htext])
    rw [happend, String.utf8ByteSize_append]
    exact Nat.le_add_right _ _
  have hlong : text.toList = c :: d :: (s ++ '#' :: f) := by rw [htext, hfront]; rfl
  rw [parse_eq_readLong hc hlong, htext] at h
  rw [parse_eq_readLong hc hfront]
  split at h
  · cases h
  · rename_i hsize
    rw [if_neg (by omega)]
    exact readLong_of_fragment h

end Target

namespace Url

def dropFragment (u : Url) : Url :=
  { u with fragment := none }

theorem toList_text_fragment {u : Url} {f : String} (h : u.fragment = some f) :
    u.text.toList = u.dropFragment.text.toList ++ '#' :: f.toList := by
  have hpath : u.dropFragment.pathChars = u.pathChars := rfl
  rw [toList_text, toList_text, hpath]
  simp [tailChars, dropFragment, h]

end Url

namespace WellFormedUrl

variable (u : WellFormedUrl)

/-- The scheme stands in front, with the fragment or without it. -/
theorem head_of_dropFragment :
    ∃ c d s, u.dropFragment.text.toList = c :: d :: s ∧ c ≠ '/' := by
  have hne : u.scheme.toList ≠ [] := by simpa using u.wellFormed.scheme_ne
  obtain ⟨c, scheme, hscheme⟩ := List.exists_cons_of_ne_nil hne
  have hc : c ≠ '/' := by
    rintro rfl
    exact absurd (u.wellFormed.scheme '/' (hscheme ▸ List.mem_cons_self)) (by decide)
  have hsame : u.dropFragment.scheme = u.scheme := rfl
  rw [Url.toList_text, hsame, hscheme]
  cases scheme with
  | nil => exact ⟨_, _, _, rfl, hc⟩
  | cons d scheme => exact ⟨_, _, _, rfl, hc⟩

/-- A URL is no other target than it is without its fragment. -/
theorem target_of_dropFragment {t : Target} (h : Target.parse u.text = .ok t) :
    Target.parse u.dropFragment.text = .ok t := by
  cases hfragment : u.fragment with
  | none =>
    have hsame : u.dropFragment = u.toUrl := by rw [Url.dropFragment, ← hfragment]
    rwa [hsame]
  | some f =>
    obtain ⟨c, d, s, hfront, hc⟩ := u.head_of_dropFragment
    exact Target.parse_of_fragment hc hfront (Url.toList_text_fragment hfragment) h

end WellFormedUrl

end CloudReach
