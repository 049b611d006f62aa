import Mathlib.Data.List.TakeWhile
import CloudReach.Proofs.Url.Fragment

/-!
# Queries of URLs

No number sign stands in the query of a URL that has been read, so it ends where the fragment starts
and a target that is read from the text of the URL has the same query.
-/

namespace CloudReach

open Text (FreeOf)

namespace Url

/-! ### Reading -/

def ClearQuery (u : Url) : Prop :=
  ∀ query, u.query = some query → FreeOf ['#'] query.toList

theorem ClearQuery.of_query_eq {u v : Url} (hv : v.ClearQuery) (h : u.query = v.query) :
    u.ClearQuery :=
  fun query hquery => hv query (h ▸ hquery)

theorem clearQuery_of_readTail {u : Url} {kind : SchemeKind} {s : List Char}
    (h : u.query = (readTail kind s).1) : u.ClearQuery := by
  intro query hquery
  rw [h] at hquery
  unfold readTail at hquery
  split at hquery
  · cases hquery
    rw [String.toList_ofList]
    refine Percent.freeOf_encode (Text.forall_mem_of_all (by decide)) fun c hc _ => ?_
    obtain rfl := List.mem_singleton.mp hc
    rfl
  · cases hquery

theorem clearQuery_of_readAfterSlashes {scheme : String} {kind : SchemeKind} {s : List Char}
    {u : Url} (hs : readAfterSlashes scheme kind s = .ok u) : u.ClearQuery := by
  obtain ⟨_, -, hs⟩ := bind_eq_ok_iff.mp hs
  cases hs
  exact clearQuery_of_readTail rfl

theorem clearQuery_of_readPlain {scheme : String} {s : List Char} {u : Url}
    (hs : readPlain scheme s = .ok u) : u.ClearQuery := by
  unfold readPlain at hs
  split at hs
  · exact clearQuery_of_readAfterSlashes hs
  · cases hs
    exact clearQuery_of_readTail rfl

theorem clearQuery_of_readFileAuthority {s : List Char} {u : Url}
    (hs : readFileAuthority s = .ok u) : u.ClearQuery := by
  unfold readFileAuthority at hs
  dsimp only at hs
  split at hs
  · cases hs
    exact clearQuery_of_readTail rfl
  · obtain ⟨_, -, hs⟩ := bind_eq_ok_iff.mp hs
    split at hs
    · cases hs
      exact clearQuery_of_readTail rfl
    · cases hs
      exact clearQuery_of_readTail rfl

/-- Reading gives a URL with a clear query, on a base that has one. -/
theorem clearQuery_of_read {base : Option Url} (hbase : ∀ b, base = some b → b.ClearQuery)
    {s : List Char} {u : Url} (hs : read base s = .ok u) : u.ClearQuery := by
  cases readOn_of_read hs with
  | afterSlashes _ hu => exact clearQuery_of_readAfterSlashes hu
  | plain _ _ hu => exact clearQuery_of_readPlain hu
  | withPath | localFile => exact clearQuery_of_readTail rfl
  | withoutPath hb kind s =>
    unfold Url.withoutPath
    split
    · exact clearQuery_of_readTail rfl
    · exact (hbase _ hb).of_query_eq rfl
  | fileAuthority hu => exact clearQuery_of_readFileAuthority hu

theorem clearQuery_of_parse {text : String} {u : Url} (h : parse text = .ok u) : u.ClearQuery :=
  clearQuery_of_read (by rintro _ ⟨⟩) h

theorem ClearQuery.join {base u : Url} {reference : String} (hbase : base.ClearQuery)
    (h : base.join reference = .ok u) : u.ClearQuery :=
  clearQuery_of_read (by rintro _ ⟨⟩; exact hbase) h

end Url

/-- A URL that has been read: where each part ends can be told, that of the query too. -/
structure ReadUrl extends WellFormedUrl where
  clearQuery : toUrl.ClearQuery

namespace ReadUrl

instance : CoeOut ReadUrl WellFormedUrl := ⟨toWellFormedUrl⟩

def ofParse {text : String} {u : Url} (h : Url.parse text = .ok u) : ReadUrl :=
  { WellFormedUrl.ofParse h with clearQuery := Url.clearQuery_of_parse h }

def joined (base : ReadUrl) {reference : String} {u : Url}
    (h : base.toUrl.join reference = .ok u) : ReadUrl :=
  { base.toWellFormedUrl.joined h with clearQuery := base.clearQuery.join h }

end ReadUrl

/-! ### Targets -/

theorem Target.query_of_readPath {path : List Char} {query q : Option String} {p : String}
    (hpath : FreeOf ['?', '#'] path)
    (hquery : ∀ text, query = some text → FreeOf ['#'] text.toList)
    (h : readPath (path ++ (query.map fun text => '?' :: text.toList).getD []) = .ok (p, q)) :
    q = query := by
  have htail : ∀ c, ((query.map fun text => '?' :: text.toList).getD []).head? = some c →
      c = '?' ∨ c = '#' := by
    intro c hc
    cases query with
    | none => cases hc
    | some text => exact .inl (Option.some.inj hc).symm
  unfold readPath at h
  rw [takeWhile_path hpath htail] at h
  dsimp only at h
  rw [List.drop_left] at h
  cases query with
  | none =>
    split at h
    · cases h
      rfl
    · cases h
  | some text =>
    have hall : text.toList.takeWhile (· != '#') = text.toList := by
      refine List.takeWhile_eq_self_iff.mpr fun c hc => ?_
      have hne : c ≠ '#' := fun heq => hquery text rfl '#' (by decide) (heq ▸ hc)
      simpa using hne
    split at h
    · change (if (text.toList.takeWhile (· != '#')).all isQueryChar then _ else _) = _ at h
      rw [hall] at h
      split at h
      · cases h
        rw [String.ofList_toList]
      · cases h
    · cases h

/-- A URL with an authority is a target with the same query. -/
theorem ReadUrl.query_of_authority (u : ReadUrl) {t : Target} {a : Url.Authority}
    (ha : u.authority = some a) (h : Target.parse u.text = .ok t) : t.query = u.query := by
  obtain ⟨-, -, -, hread⟩ := u.readPath_of_authority ha h
  refine Target.query_of_readPath (u.freeOf_path_of_authority ha) u.clearQuery (p := t.path) ?_
  unfold Url.tailChars at hread
  cases hfragment : u.fragment with
  | none =>
    rw [hfragment] at hread
    simpa using hread
  | some f =>
    rw [hfragment, ← List.append_assoc] at hread
    exact Target.readPath_fragment.symm.trans hread

end CloudReach
