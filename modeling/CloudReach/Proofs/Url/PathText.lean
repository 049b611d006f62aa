import CloudReach.Proofs.Url.Segments

/-!
# The text of a path

A slash stands before each segment of a path and nowhere else, so the text tells the segments, and a
slash at its end is an empty segment there.
-/

namespace CloudReach.Url

open Text (FreeOf)

variable {segments : List String}

theorem text_rooted_append (front new : List String) :
    (Path.rooted (front ++ new)).text = (Path.rooted front).text ++ (Path.rooted new).text := by
  simp only [Path.text, List.flatMap_append]

theorem head?_text_rooted {c : Char} (h : (Path.rooted segments).text.head? = some c) :
    c = '/' := by
  cases segments with
  | nil => cases h
  | cons s rest => exact (Option.some.inj h).symm

/-- The first segment ends where the next slash stands. -/
theorem takeWhile_text_rooted {s : String} (hs : (Path.rooted (s :: segments)).WellFormed) :
    (s.toList ++ (Path.rooted segments).text).takeWhile (· != '/') = s.toList := by
  refine Text.takeWhile_append_stop (fun c hc => ?_) fun c hc => ?_
  · have hne : c ≠ '/' := fun heq => hs s List.mem_cons_self '/' (by decide) (heq ▸ hc)
    simpa using hne
  · rw [head?_text_rooted hc]
    rfl

/-- A slash starts a segment and stands nowhere else, so the text tells the segments. -/
theorem text_rooted_injective {other : List String} (hs : (Path.rooted segments).WellFormed)
    (ho : (Path.rooted other).WellFormed)
    (h : (Path.rooted segments).text = (Path.rooted other).text) : segments = other := by
  induction segments generalizing other with
  | nil =>
    cases other with
    | nil => rfl
    | cons t rest' => cases h
  | cons s rest ih =>
    cases other with
    | nil => cases h
    | cons t rest' =>
      have htext : s.toList ++ (Path.rooted rest).text = t.toList ++ (Path.rooted rest').text :=
        (List.cons.inj h).2
      have hfirst : s.toList = t.toList := by
        rw [← takeWhile_text_rooted hs, htext, takeWhile_text_rooted ho]
      obtain rfl : s = t := String.toList_inj.mp hfirst
      have hrest := List.append_cancel_left htext
      rw [ih (fun u hu => hs u (List.mem_cons_of_mem _ hu))
        (fun u hu => ho u (List.mem_cons_of_mem _ hu)) hrest]

def dropEndSlash (s : List Char) : List Char :=
  if s.getLast? = some '/' then s.dropLast else s

theorem getLast?_text_rooted (hs : (Path.rooted segments).WellFormed) :
    (Path.rooted segments).text.getLast? = some '/' ↔ segments.getLast? = some "" := by
  rcases List.eq_nil_or_concat segments with rfl | ⟨front, last, rfl⟩
  · simp [Path.text]
  · rw [List.concat_eq_append] at hs ⊢
    rw [text_rooted_append, List.getLast?_concat]
    have hlast : (Path.rooted [last]).text = '/' :: last.toList := by simp [Path.text]
    rw [hlast]
    by_cases hempty : last = ""
    · simp [hempty]
    · obtain ⟨chars, c, hchars⟩ : ∃ chars c, last.toList = chars ++ [c] := by
        rcases List.eq_nil_or_concat last.toList with hnil | ⟨chars, c, hchars⟩
        · exact absurd (String.toList_eq_nil_iff.mp hnil) hempty
        · exact ⟨chars, c, by rw [hchars, List.concat_eq_append]⟩
      have hc : c ≠ '/' := by
        rintro rfl
        refine hs last (by simp) '/' (by decide) ?_
        rw [hchars]
        simp
      have hend : (Path.rooted front).text ++ '/' :: (chars ++ [c]) =
          ((Path.rooted front).text ++ '/' :: chars) ++ [c] := by simp
      rw [hchars, hend, List.getLast?_concat]
      simp [hempty, hc]

theorem dropEndSlash_text (hs : (Path.rooted segments).WellFormed) :
    dropEndSlash (Path.rooted segments).text = (Path.rooted (frontSegments segments)).text := by
  unfold dropEndSlash frontSegments
  by_cases hlast : segments.getLast? = some ""
  · rw [if_pos hlast, if_pos ((getLast?_text_rooted hs).mpr hlast)]
    obtain ⟨front, rfl⟩ := List.getLast?_eq_some_iff.mp hlast
    have hslash : (Path.rooted [""]).text = ['/'] := rfl
    rw [List.dropLast_concat, text_rooted_append, hslash, List.dropLast_concat]
  · rw [if_neg hlast, if_neg fun h => hlast ((getLast?_text_rooted hs).mp h)]

theorem text_withEndSlash (hs : (Path.rooted segments).WellFormed) :
    (Path.rooted (withEndSlash segments)).text =
      dropEndSlash (Path.rooted segments).text ++ ['/'] := by
  have hslash : (Path.rooted [""]).text = ['/'] := rfl
  unfold withEndSlash dropEndSlash
  by_cases hlast : segments.getLast? = some ""
  · have hend := (getLast?_text_rooted hs).mpr hlast
    rw [if_pos hlast, if_pos hend]
    obtain ⟨front, hfront⟩ := List.getLast?_eq_some_iff.mp hend
    rw [hfront, List.dropLast_concat]
  · rw [if_neg hlast, if_neg fun h => hlast ((getLast?_text_rooted hs).mp h), text_rooted_append,
      hslash]

/-! ### Segments added to a well-formed path -/

theorem settled_of_wellFormed (u : WellFormedUrl) (hpath : u.path = .rooted segments) :
    Settled (schemeKind u.scheme) segments := fun hfile s rest heq =>
  u.wellFormed.file hfile s rest (hpath.trans (congrArg Path.rooted heq))

variable {kind : SchemeKind}

theorem wellFormed_addSegment (h : (Path.rooted segments).WellFormed) (s : String) :
    (Path.rooted (addSegment kind segments s)).WellFormed := by
  by_cases hdots : s = "." ∨ s = ".."
  · rw [addSegment, if_pos hdots]
    exact h
  · have hown : ∀ t ∈ ownSegments segments, FreeOf segmentMarks t.toList := by
      unfold ownSegments
      split
      · exact wellFormed_rooted_nil
      · exact h
    rw [addSegment_eq hdots]
    refine wellFormed_withoutLeadingSlashes (freeOf_resolveSegments hown fun raw hraw => ?_)
    obtain rfl := List.mem_singleton.mp hraw
    exact freeOf_encode_segmentSet kind _

theorem addSegment_ne_nil (h : segments ≠ []) (s : String) : addSegment kind segments s ≠ [] := by
  by_cases hdots : s = "." ∨ s = ".."
  · rw [addSegment, if_pos hdots]
    exact h
  · rw [addSegment_eq hdots]
    exact withoutLeadingSlashes_ne_nil (resolveSegments_ne_nil (List.cons_ne_nil _ _))

theorem wellFormed_dropEmptyEnd (h : (Path.rooted segments).WellFormed) :
    (Path.rooted (dropEmptyEnd segments)).WellFormed := by
  unfold dropEmptyEnd
  split
  · exact fun s hs => h s (List.dropLast_subset _ hs)
  · exact h

theorem wellFormed_frontSegments (h : (Path.rooted segments).WellFormed) :
    (Path.rooted (frontSegments segments)).WellFormed := by
  unfold frontSegments
  split
  · exact fun s hs => h s (List.dropLast_subset _ hs)
  · exact h

theorem dropEmptyEnd_ne_nil (h : segments ≠ []) : dropEmptyEnd segments ≠ [] := by
  unfold dropEmptyEnd
  split
  · rename_i hlong
    intro hnil
    have hlength := congrArg List.length hnil
    rw [List.length_dropLast, List.length_nil] at hlength
    omega
  · exact h

theorem wellFormed_withEndSlash (h : (Path.rooted segments).WellFormed) :
    (Path.rooted (withEndSlash segments)).WellFormed := by
  unfold withEndSlash
  split
  · exact h
  · intro s hs
    rcases List.mem_append.mp hs with hs | hs
    · exact h s hs
    · exact List.mem_singleton.mp hs ▸ Text.freeOf_nil

theorem withEndSlash_ne_nil : withEndSlash segments ≠ [] := by
  unfold withEndSlash
  split
  · rename_i hlast
    rintro rfl
    cases hlast
  · simp

theorem settled_withEndSlash (h : Settled kind segments) :
    Settled kind (withEndSlash segments) := by
  unfold withEndSlash
  split
  · exact h
  · rename_i hlast
    have hown : ownSegments segments = segments := by
      refine ownSegments_eq_self ?_
      rintro rfl
      exact hlast rfl
    have hsnoc := settled_snoc h ""
    rwa [hown] at hsnoc

end CloudReach.Url
