import Mathlib.Data.List.Forall2
import CloudReach.Proofs.Url.WellFormed
import CloudReach.Url.Edit

/-!
# Segments added to paths

A path that is given more segments is longer by one for each of them at most. It is longer by as
many, and the new segments stand for the texts that were added, exactly if no text is a dot segment,
none holds a character that is passed over, and the first is one that a path can start with.
-/

namespace CloudReach.Url

open Text (FreeOf)

/-- Decoded, a segment of a path is the text. -/
def StandsFor (written text : String) : Prop :=
  Percent.text? (Percent.decode written.toList) = some text

theorem rightUnique_standsFor : Relator.RightUnique StandsFor := fun _ _ _ h h' =>
  Option.some.inj (h.symm.trans h')

variable {kind : SchemeKind} {segments : List String} {s : String}

/-! ### Written segments -/

def writtenSegment (kind : SchemeKind) (s : String) : String :=
  String.ofList (Percent.encode (segmentSet kind) s.toList)

theorem text?_decode_encode_segmentSet (kind : SchemeKind) (s : List Char) :
    Percent.text? (Percent.decode (Percent.encode (segmentSet kind) s)) =
      some (String.ofList s) := by
  have hpercent : segmentSet kind '%' = true := by cases kind <;> rfl
  exact Percent.text?_decode_encode hpercent s

theorem standsFor_writtenSegment (kind : SchemeKind) (s : String) :
    StandsFor (writtenSegment kind s) s := by
  rw [StandsFor, writtenSegment, String.toList_ofList, text?_decode_encode_segmentSet,
    String.ofList_toList]

theorem freeOf_encode_segmentSet (kind : SchemeKind) (s : List Char) :
    FreeOf segmentMarks (Percent.encode (segmentSet kind) s) := by
  have hescaped : ∀ c ∈ segmentMarks, segmentSet kind c = true := by
    cases kind <;> exact Text.forall_mem_of_all (by decide)
  exact Percent.freeOf_encode (Text.forall_mem_of_all (by decide)) fun c hc _ => hescaped c hc

theorem text_of_isSingleDot {raw : List Char} (h : isSingleDot raw = true) :
    Percent.text? (Percent.decode raw) = some "." := by
  simp only [isSingleDot, List.mem_cons, List.not_mem_nil, or_false, decide_eq_true_eq] at h
  rcases h with rfl | rfl | rfl <;> decide +kernel

theorem text_of_isDoubleDot {raw : List Char} (h : isDoubleDot raw = true) :
    Percent.text? (Percent.decode raw) = some ".." := by
  simp only [isDoubleDot, List.mem_cons, List.not_mem_nil, or_false, decide_eq_true_eq] at h
  rcases h with rfl | rfl | rfl | rfl | rfl | rfl | rfl | rfl | rfl <;> decide +kernel

theorem isSingleDot_encode {s : List Char} (h : String.ofList s ≠ ".") :
    isSingleDot (Percent.encode (segmentSet kind) s) = false := by
  refine eq_false_of_ne_true fun hdot => h ?_
  have htext := text_of_isSingleDot hdot
  rw [text?_decode_encode_segmentSet] at htext
  exact Option.some.inj htext

theorem isDoubleDot_encode {s : List Char} (h : String.ofList s ≠ "..") :
    isDoubleDot (Percent.encode (segmentSet kind) s) = false := by
  refine eq_false_of_ne_true fun hdot => h ?_
  have htext := text_of_isDoubleDot hdot
  rw [text?_decode_encode_segmentSet] at htext
  exact Option.some.inj htext

/-! ### Drive letters -/

def isBarDrive (s : String) : Bool :=
  isDriveLetter s.toList && s.toList.getLast? == some '|'

theorem isDriveLetter_iff {s : List Char} :
    isDriveLetter s = true ↔ ∃ a b, s = [a, b] ∧ a.isAlpha = true ∧ (b = ':' ∨ b = '|') := by
  constructor
  · intro h
    unfold isDriveLetter at h
    split at h
    · rename_i a b
      simp only [Bool.and_eq_true, Bool.or_eq_true, beq_iff_eq] at h
      exact ⟨a, b, rfl, h⟩
    · cases h
  · rintro ⟨a, b, rfl, ha, hb⟩
    rcases hb with rfl | rfl <;> simp [isDriveLetter, ha]

theorem isBarDrive_iff : isBarDrive s = true ↔ ∃ a, s.toList = [a, '|'] ∧ a.isAlpha = true := by
  unfold isBarDrive
  rw [Bool.and_eq_true, isDriveLetter_iff]
  constructor
  · rintro ⟨⟨a, b, hs, ha, -⟩, hlast⟩
    rw [hs] at hlast ⊢
    obtain rfl : b = '|' := by simpa using hlast
    exact ⟨a, rfl, ha⟩
  · rintro ⟨a, hs, ha⟩
    exact ⟨⟨a, '|', hs, ha, .inr rfl⟩, by rw [hs]; rfl⟩

theorem encode_drive {a b : Char} (ha : a.isAlpha = true) (hb : b = ':' ∨ b = '|') :
    Percent.encode (segmentSet kind) [a, b] = [a, b] := by
  have hascii := Text.toNat_lt_of_isAlpha ha
  have hplain : segmentSet kind a = false :=
    Text.forall_ascii (P := fun c => c.isAlpha = true → segmentSet kind c = false)
      (by cases kind <;> decide) hascii ha
  have hfirst : Percent.encodeChar (segmentSet kind) a = [a] :=
    Percent.encodeChar_of_plain hascii hplain
  have hsecond : Percent.encodeChar (segmentSet kind) b = [b] := by
    rcases hb with rfl | rfl
    · exact Percent.encodeChar_of_plain (by decide) (by cases kind <;> decide)
    · exact Percent.encodeChar_of_plain (by decide) (by cases kind <;> decide)
  rw [Percent.encode, List.flatMap_cons, List.flatMap_singleton, hfirst, hsecond,
    List.singleton_append]

/-- Only a drive letter is written as one. -/
theorem eq_of_isDriveLetter_encode {s : List Char}
    (h : isDriveLetter (Percent.encode (segmentSet kind) s) = true) :
    Percent.encode (segmentSet kind) s = s := by
  obtain ⟨a, b, hraw, ha, hb⟩ := isDriveLetter_iff.mp h
  refine Percent.encode_of_percent_notMem fun hmem => ?_
  rw [hraw] at hmem
  rcases List.mem_cons.mp hmem with rfl | hmem
  · exact absurd ha (by decide)
  · obtain rfl := List.mem_singleton.mp hmem
    rcases hb with hb | hb <;> cases hb

theorem isBarDrive_of_encode {s : List Char}
    (h : isBarDrive (String.ofList (Percent.encode (segmentSet kind) s)) = true) :
    Percent.encode (segmentSet kind) s = s := by
  have hdrive := (Bool.and_eq_true_iff.mp h).1
  rw [String.toList_ofList] at hdrive
  exact eq_of_isDriveLetter_encode hdrive

theorem keptSegment_eq {done : List String} {raw : List Char}
    (h : kind = .file → done = [] → isBarDrive (String.ofList raw) = false) :
    keptSegment kind done raw = String.ofList raw := by
  unfold keptSegment
  split
  · rename_i a b
    split
    · rename_i hdrive
      have hbar := h rfl rfl
      obtain ⟨a, b, hraw, -, rfl | rfl⟩ := isDriveLetter_iff.mp hdrive
      · rw [hraw] at hbar ⊢
        rw [(List.cons.inj hraw).1]
      · rw [isBarDrive, String.toList_ofList, hdrive, hraw] at hbar
        cases hbar
    · rfl
  · rfl

/-! ### One more segment -/

def ownSegments (segments : List String) : List String :=
  if segments = [""] then [] else segments

theorem ownSegments_eq_self (h : segments ≠ [""]) : ownSegments segments = segments :=
  if_neg h

theorem ownSegments_ne_root : ownSegments segments ≠ [""] := by
  unfold ownSegments
  split
  · simp
  · assumption

theorem length_ownSegments_le : (ownSegments segments).length ≤ segments.length := by
  unfold ownSegments
  split <;> simp

def Settled (kind : SchemeKind) (segments : List String) : Prop :=
  kind = .file → ∀ s rest, segments ≠ "" :: s :: rest

theorem withoutLeadingSlashes_of_settled (h : Settled kind segments) (hne : segments ≠ []) :
    withoutLeadingSlashes kind segments = segments := by
  cases kind with
  | plain => rfl
  | special => rfl
  | file =>
    obtain ⟨first, rest, rfl⟩ := List.exists_cons_of_ne_nil hne
    unfold withoutLeadingSlashes
    by_cases hfirst : first = ""
    · subst hfirst
      cases rest with
      | nil => rfl
      | cons s rest => exact absurd rfl (h rfl s rest)
    · have hdrop : (first :: rest).dropWhile (· == "") = first :: rest :=
        List.dropWhile_cons_of_neg (by simpa using hfirst)
      simp only [hdrop]

theorem settled_withoutLeadingSlashes : Settled kind (withoutLeadingSlashes kind segments) := by
  rintro rfl s rest
  exact withoutLeadingSlashes_file segments s rest

theorem settled_snoc (h : Settled kind segments) (last : String) :
    Settled kind (ownSegments segments ++ [last]) := by
  intro hfile s rest heq
  have hown : ownSegments segments = segments ∨ ownSegments segments = [] := by
    unfold ownSegments
    split
    · exact .inr rfl
    · exact .inl rfl
  cases hfront : ownSegments segments with
  | nil =>
    rw [hfront] at heq
    cases heq
  | cons first front =>
    rw [hfront] at heq
    obtain rfl : first = "" := (List.cons.inj heq).1
    cases front with
    | nil => exact ownSegments_ne_root hfront
    | cons next front =>
      rcases hown with hown | hown
      · exact h hfile next front (hown.symm.trans hfront)
      · rw [hown] at hfront
        cases hfront

theorem length_withoutLeadingSlashes_le (hne : segments ≠ []) :
    (withoutLeadingSlashes kind segments).length ≤ segments.length := by
  unfold withoutLeadingSlashes
  split
  · split
    · exact List.length_pos_iff.mpr hne
    · exact (List.dropWhile_sublist _).length_le
  · exact Nat.le_refl _

theorem goUp_eq_or_length_lt (done : List String) :
    goUp done = done ∨ (goUp done).length < done.length := by
  unfold goUp
  cases hlast : done.getLast? with
  | none =>
    rw [List.getLast?_eq_none_iff] at hlast
    exact .inl hlast.symm
  | some s =>
    dsimp only
    split
    · exact .inl rfl
    · have hne : done ≠ [] := by
        rintro rfl
        cases hlast
      have hpos := List.length_pos_iff.mpr hne
      rw [List.length_dropLast]
      exact .inr (by omega)

def rawSegment (kind : SchemeKind) (s : String) : List Char :=
  Percent.encode (segmentSet kind) (s.toList.filter fun c => !isIgnored c)

theorem addSegment_eq (hdots : ¬ (s = "." ∨ s = "..")) :
    addSegment kind segments s = withoutLeadingSlashes kind
      (resolveSegments kind (ownSegments segments) [rawSegment kind s]) := by
  rw [addSegment, if_neg hdots]
  rfl

theorem addSegment_of_resolveSegments {last : String} (hsettled : Settled kind segments)
    (hdots : ¬ (s = "." ∨ s = ".."))
    (hresolve : resolveSegments kind (ownSegments segments) [rawSegment kind s] =
      ownSegments segments ++ [last]) :
    addSegment kind segments s = ownSegments segments ++ [last] := by
  rw [addSegment_eq hdots, hresolve,
    withoutLeadingSlashes_of_settled (settled_snoc hsettled last) (by simp)]

theorem settled_addSegment (hsettled : Settled kind segments) (s : String) :
    Settled kind (addSegment kind segments s) := by
  by_cases hdots : s = "." ∨ s = ".."
  · rw [addSegment, if_pos hdots]
    exact hsettled
  · rw [addSegment_eq hdots]
    exact settled_withoutLeadingSlashes

/-- The text is no dot segment, and nothing in it is passed over. -/
structure IsPlain (s : String) : Prop where
  dot : s ≠ "."
  dots : s ≠ ".."
  kept : ∀ c ∈ s.toList, isIgnored c = false

instance (s : String) : Decidable (IsPlain s) :=
  decidable_of_iff (s ≠ "." ∧ s ≠ ".." ∧ (s.toList.all fun c => !isIgnored c) = true)
    ⟨fun h => ⟨h.1, h.2.1, by simpa using h.2.2⟩, fun h => ⟨h.dot, h.dots, by simpa using h.kept⟩⟩

def KeepsDrive (kind : SchemeKind) (front : List String) (s : String) : Prop :=
  kind = .file → front = [] → isBarDrive s = false

theorem addSegment_of_plain (hsettled : Settled kind segments) (h : IsPlain s)
    (hdrive : KeepsDrive kind (ownSegments segments) s) :
    addSegment kind segments s = ownSegments segments ++ [writtenSegment kind s] := by
  have hraw : rawSegment kind s = Percent.encode (segmentSet kind) s.toList := by
    rw [rawSegment, List.filter_eq_self.mpr fun c hc => by simp [h.kept c hc]]
  have hdouble : isDoubleDot (Percent.encode (segmentSet kind) s.toList) = false :=
    isDoubleDot_encode (by simpa using h.dots)
  have hsingle : isSingleDot (Percent.encode (segmentSet kind) s.toList) = false :=
    isSingleDot_encode (by simpa using h.dot)
  have hkept : keptSegment kind (ownSegments segments) (Percent.encode (segmentSet kind) s.toList) =
      writtenSegment kind s := by
    refine keptSegment_eq fun hfile hfront => ?_
    refine eq_false_of_ne_true fun hbar => ?_
    rw [isBarDrive_of_encode hbar, String.ofList_toList, hdrive hfile hfront] at hbar
    cases hbar
  refine addSegment_of_resolveSegments hsettled (not_or.mpr ⟨h.dot, h.dots⟩) ?_
  simp only [hraw, resolveSegments, hdouble, hsingle, hkept]
  rfl

/-- A drive letter that was written with a bar has got a colon, so what it was written for cannot
hold a bar. -/
theorem bar_notMem_of_standsFor {raw : List Char} (hbar : isBarDrive (String.ofList raw) = true)
    (h : StandsFor (keptSegment .file [] raw) s) : '|' ∉ s.toList := by
  obtain ⟨a, hraw, ha⟩ := isBarDrive_iff.mp hbar
  rw [String.toList_ofList] at hraw
  have hcolon : keptSegment .file [] [a, '|'] = String.ofList [a, ':'] := by
    simp [keptSegment, isDriveLetter, ha]
  have hdecode : Percent.text? (Percent.decode [a, ':']) = some (String.ofList [a, ':']) := by
    have hwritten := text?_decode_encode_segmentSet .file [a, ':']
    rwa [encode_drive ha (.inl rfl)] at hwritten
  rw [hraw, hcolon, StandsFor, String.toList_ofList, hdecode] at h
  have hs : s.toList = [a, ':'] := by rw [← Option.some.inj h, String.toList_ofList]
  rw [hs]
  intro hmem
  rcases List.mem_cons.mp hmem with rfl | hmem
  · exact absurd ha (by decide)
  · cases List.mem_singleton.mp hmem

/-- What is kept of a text can only stand for it if nothing had to be changed. -/
theorem plain_of_standsFor {front : List String} (hdots : ¬ (s = "." ∨ s = ".."))
    (h : StandsFor (keptSegment kind front (rawSegment kind s)) s) :
    IsPlain s ∧ KeepsDrive kind front s := by
  unfold rawSegment at h
  generalize hkept : s.toList.filter (fun c => !isIgnored c) = kept at h
  have hsub : kept ⊆ s.toList := by
    rw [← hkept]
    exact List.filter_sublist.subset
  by_cases hbar : kind = .file ∧ front = [] ∧
      isBarDrive (String.ofList (Percent.encode (segmentSet kind) kept)) = true
  · -- The bar would have become a colon, though it is in the text.
    obtain ⟨rfl, rfl, hbar⟩ := hbar
    obtain ⟨a, hraw, -⟩ := isBarDrive_iff.mp hbar
    rw [String.toList_ofList, isBarDrive_of_encode hbar] at hraw
    have hmem : '|' ∈ s.toList := hsub (by rw [hraw]; simp)
    exact absurd hmem (bar_notMem_of_standsFor hbar h)
  · have hraw : kind = .file → front = [] →
        isBarDrive (String.ofList (Percent.encode (segmentSet kind) kept)) = false :=
      fun hfile hfront => eq_false_of_ne_true fun h => hbar ⟨hfile, hfront, h⟩
    rw [keptSegment_eq hraw, StandsFor, String.toList_ofList, text?_decode_encode_segmentSet] at h
    have hsame : kept = s.toList := by rw [← Option.some.inj h, String.toList_ofList]
    have hall := List.filter_eq_self.mp (hkept.trans hsame)
    obtain ⟨hdot, hdots⟩ := not_or.mp hdots
    refine ⟨⟨hdot, hdots, fun c hc => by simpa using hall c hc⟩, fun hfile hfront => ?_⟩
    refine eq_false_of_ne_true fun hdrive => ?_
    obtain ⟨a, hs, ha⟩ := isBarDrive_iff.mp hdrive
    have hfree := hraw hfile hfront
    rw [hsame, hs, encode_drive ha (.inr rfl), ← hs, String.ofList_toList, hdrive] at hfree
    cases hfree

theorem eq_empty_of_standsFor (h : StandsFor "" s) : s = "" := by
  have hempty : Percent.text? (Percent.decode "".toList) = some "" := by decide +kernel
  exact Option.some.inj (h.symm.trans hempty)

theorem not_standsFor_empty
    (hdot : isSingleDot (rawSegment kind s) = true ∨ isDoubleDot (rawSegment kind s) = true) :
    ¬ StandsFor "" s := by
  intro h
  obtain rfl := eq_empty_of_standsFor h
  rcases hdot with hdot | hdot <;> exact absurd hdot (by cases kind <;> decide)

/-- A text goes up, or it becomes the last segment. -/
theorem resolveSegments_singleton_cases (hdots : ¬ (s = "." ∨ s = "..")) (front : List String) :
    (goUp front).length < front.length ∧
        resolveSegments kind front [rawSegment kind s] = goUp front ++ [""] ∨
      ∃ last, resolveSegments kind front [rawSegment kind s] = front ++ [last] ∧
        (StandsFor last s → IsPlain s ∧ KeepsDrive kind front s) ∧ (s = "" → last = "") := by
  by_cases hdouble : isDoubleDot (rawSegment kind s) = true
  · have hresolve : resolveSegments kind front [rawSegment kind s] = goUp front ++ [""] := by
      simp only [resolveSegments, hdouble, if_true]
    rcases goUp_eq_or_length_lt front with hstays | hshorter
    · rw [hstays] at hresolve
      have hstands := not_standsFor_empty (.inr hdouble)
      exact .inr ⟨"", hresolve, fun h => absurd h hstands, fun _ => rfl⟩
    · exact .inl ⟨hshorter, hresolve⟩
  · by_cases hsingle : isSingleDot (rawSegment kind s) = true
    · have hresolve : resolveSegments kind front [rawSegment kind s] = front ++ [""] := by
        simp only [resolveSegments, hsingle, if_true, if_neg hdouble]
      have hstands := not_standsFor_empty (.inl hsingle)
      exact .inr ⟨"", hresolve, fun h => absurd h hstands, fun _ => rfl⟩
    · refine .inr ⟨keptSegment kind front (rawSegment kind s), ?_, plain_of_standsFor hdots, ?_⟩
      · simp only [resolveSegments, if_neg hsingle, if_neg hdouble]
      · rintro rfl
        cases kind <;> cases front <;> rfl

/-- One more text makes a path longer by one segment at most, and then the segment stands for the
text only if it is added as it is. -/
theorem addSegment_cases (hsettled : Settled kind segments) (s : String) :
    (ownSegments (addSegment kind segments s)).length ≤ (ownSegments segments).length ∨
      ∃ last, addSegment kind segments s = ownSegments segments ++ [last] ∧
        ownSegments segments ++ [last] ≠ [""] ∧
        (StandsFor last s → IsPlain s ∧ KeepsDrive kind (ownSegments segments) s) ∧
        (ownSegments segments = [] → s ≠ "") := by
  by_cases hdots : s = "." ∨ s = ".."
  · rw [addSegment, if_pos hdots]
    exact .inl (Nat.le_refl _)
  · rcases resolveSegments_singleton_cases hdots (ownSegments segments) with
      ⟨hshorter, hresolve⟩ | ⟨last, hresolve, hplain, hempty⟩
    · refine .inl ?_
      rw [addSegment_eq hdots, hresolve]
      calc (ownSegments (withoutLeadingSlashes kind (goUp (ownSegments segments) ++ [""]))).length
        _ ≤ (withoutLeadingSlashes kind (goUp (ownSegments segments) ++ [""])).length :=
          length_ownSegments_le
        _ ≤ (goUp (ownSegments segments) ++ [""]).length :=
          length_withoutLeadingSlashes_le (by simp)
        _ ≤ (ownSegments segments).length := by
          rw [List.length_append, List.length_singleton]
          exact hshorter
    · have hadd := addSegment_of_resolveSegments hsettled hdots hresolve
      by_cases hroot : ownSegments segments ++ [last] = [""]
      · refine .inl ?_
        rw [hadd, hroot]
        exact Nat.zero_le _
      · refine .inr ⟨last, hadd, hroot, hplain, fun hfront hs => hroot ?_⟩
        rw [hfront, hempty hs]
        rfl

/-! ### More segments -/

/-- The texts are added as they are, and the first of them does not get lost. -/
structure Addable (kind : SchemeKind) (front added : List String) : Prop where
  plain : ∀ s ∈ added, IsPlain s
  first : front = [] → ∀ s rest, added = s :: rest →
    (s = "" → rest = []) ∧ (kind = .file → isBarDrive s = false)

variable {added : List String}

theorem Addable.keepsDrive {front : List String} {s : String} {rest : List String}
    (h : Addable kind front (s :: rest)) : KeepsDrive kind front s :=
  fun hfile hfront => (h.first hfront s rest rfl).2 hfile

theorem addable_cons {front : List String} {s : String} {rest : List String} {last : String}
    (hplain : IsPlain s) (hdrive : KeepsDrive kind front s) (hempty : front = [] → s ≠ "")
    (hrest : Addable kind (front ++ [last]) rest) : Addable kind front (s :: rest) where
  plain t ht := by
    rcases List.mem_cons.mp ht with rfl | ht
    · exact hplain
    · exact hrest.plain t ht
  first hfront t rest' heq := by
    obtain ⟨rfl, rfl⟩ := List.cons.inj heq
    exact ⟨fun hs => absurd hs (hempty hfront), fun hfile => hdrive hfile hfront⟩

theorem writtenSegment_eq_empty_iff : writtenSegment kind s = "" ↔ s = "" := by
  rw [writtenSegment, String.ofList_eq_empty_iff, Percent.encode_eq_nil_iff,
    String.toList_eq_nil_iff]

/-- Texts that are added as they are become the segments after those of the path. -/
theorem foldl_addSegment_of_addable (hsettled : Settled kind segments) (hne : added ≠ [])
    (h : Addable kind (ownSegments segments) added) :
    added.foldl (addSegment kind) segments =
      ownSegments segments ++ added.map (writtenSegment kind) := by
  induction added generalizing segments with
  | nil => exact absurd rfl hne
  | cons s rest ih =>
    have hadd := addSegment_of_plain hsettled (h.plain s List.mem_cons_self) h.keepsDrive
    rw [List.foldl_cons]
    cases rest with
    | nil => exact hadd
    | cons t rest =>
      -- A root would not keep the first text as a segment of its own.
      have hroot : addSegment kind segments s ≠ [""] := by
        rw [hadd]
        cases hfront : ownSegments segments with
        | nil =>
          intro hs
          have hempty := writtenSegment_eq_empty_iff.mp (List.cons.inj hs).1
          cases (h.first hfront s _ rfl).1 hempty
        | cons first front => simp
      have hown := (ownSegments_eq_self hroot).trans hadd
      have hrest : Addable kind (ownSegments (addSegment kind segments s)) (t :: rest) := by
        refine ⟨fun u hu => h.plain u (List.mem_cons_of_mem _ hu), fun hnil => ?_⟩
        rw [hown] at hnil
        exact absurd hnil (by simp)
      rw [ih (settled_addSegment hsettled s) (by simp) hrest, hown, List.append_assoc]
      rfl

theorem length_foldl_addSegment_le (hsettled : Settled kind segments) (added : List String) :
    (ownSegments (added.foldl (addSegment kind) segments)).length ≤
      (ownSegments segments).length + added.length := by
  induction added generalizing segments with
  | nil => exact Nat.le_refl _
  | cons s rest ih =>
    have hrest := ih (settled_addSegment hsettled s)
    have hstep : (ownSegments (addSegment kind segments s)).length ≤
        (ownSegments segments).length + 1 := by
      rcases addSegment_cases hsettled s with hle | ⟨last, hadd, hroot, -⟩
      · omega
      · have hlength := congrArg List.length hadd
        rw [List.length_append, List.length_singleton] at hlength
        rw [ownSegments_eq_self (hadd ▸ hroot)]
        omega
    rw [List.foldl_cons, List.length_cons]
    omega

/-- A path that has become longer by as many segments as texts were added has kept its own, and the
new ones stand for the texts only if they were added as they are. -/
theorem addable_of_length (hsettled : Settled kind segments)
    (hlength : (ownSegments (added.foldl (addSegment kind) segments)).length =
      (ownSegments segments).length + added.length) :
    ∃ new : List String, new.length = added.length ∧
      (added ≠ [] → added.foldl (addSegment kind) segments = ownSegments segments ++ new) ∧
      (List.Forall₂ StandsFor new added → Addable kind (ownSegments segments) added) := by
  -- Each text adds one segment at most, so a path that has grown by as many texts as there are has
  -- grown with each of them, the first included.
  induction added generalizing segments with
  | nil => exact ⟨[], rfl, fun h => absurd rfl h, fun _ => ⟨by simp, by simp⟩⟩
  | cons s rest ih =>
    have hsettled' := settled_addSegment hsettled s
    have hbound := length_foldl_addSegment_le hsettled' rest
    rw [List.foldl_cons, List.length_cons] at hlength
    rcases addSegment_cases hsettled s with hle | ⟨last, hadd, hroot, hplain, hempty⟩
    · omega
    · have hown := (ownSegments_eq_self (hadd ▸ hroot)).trans hadd
      have hgrown : (ownSegments (addSegment kind segments s)).length =
          (ownSegments segments).length + 1 := by
        rw [hown, List.length_append, List.length_singleton]
      obtain ⟨new, hnew, hfold, haddable⟩ := ih hsettled' (by omega)
      refine ⟨last :: new, by simp [hnew], fun _ => ?_, fun hstands => ?_⟩
      · rw [List.foldl_cons]
        cases rest with
        | nil =>
          obtain rfl := List.length_eq_zero_iff.mp hnew
          exact hadd
        | cons t rest =>
          rw [hfold (by simp), hown, List.append_assoc]
          rfl
      · obtain ⟨hlast, hstands⟩ := List.forall₂_cons.mp hstands
        obtain ⟨hs, hdrive⟩ := hplain hlast
        exact addable_cons hs hdrive hempty (hown ▸ haddable hstands)

def frontSegments (segments : List String) : List String :=
  if segments.getLast? = some "" then segments.dropLast else segments

theorem dropEmptyEnd_eq_frontSegments (h : segments ≠ [""]) :
    dropEmptyEnd segments = frontSegments segments := by
  unfold dropEmptyEnd frontSegments
  by_cases hlast : segments.getLast? = some ""
  · obtain ⟨front, rfl⟩ := List.getLast?_eq_some_iff.mp hlast
    have hlong : 2 ≤ (front ++ [""]).length := by
      cases front with
      | nil => exact absurd rfl h
      | cons first front => simp
    rw [if_pos ⟨hlong, hlast⟩, if_pos hlast]
  · rw [if_neg fun h => hlast h.2, if_neg hlast]

theorem ownSegments_dropEmptyEnd (h : segments ≠ ["", ""]) :
    ownSegments (dropEmptyEnd segments) = frontSegments segments := by
  by_cases hroot : segments = [""]
  · rw [hroot]
    rfl
  · rw [dropEmptyEnd_eq_frontSegments hroot]
    refine ownSegments_eq_self fun hfront => ?_
    unfold frontSegments at hfront
    split at hfront
    · rename_i hlast
      obtain ⟨front, rfl⟩ := List.getLast?_eq_some_iff.mp hlast
      rw [List.dropLast_concat] at hfront
      exact h (by rw [hfront]; rfl)
    · exact hroot hfront

theorem settled_dropEmptyEnd (h : Settled kind segments) :
    Settled kind (dropEmptyEnd segments) := by
  intro hfile s rest heq
  have hsplit : ∃ last, segments = dropEmptyEnd segments ++ last := by
    unfold dropEmptyEnd
    split
    · rename_i hlast
      obtain ⟨front, rfl⟩ := List.getLast?_eq_some_iff.mp hlast.2
      exact ⟨[""], by rw [List.dropLast_concat]⟩
    · exact ⟨[], (List.append_nil _).symm⟩
  obtain ⟨last, hsplit⟩ := hsplit
  rw [heq] at hsplit
  exact h hfile s (rest ++ last) hsplit

/-- Of a path of two empty segments only the root is kept. -/
theorem ne_double_of_addSegments {new : List String} (hne : added ≠ [])
    (hnew : new.length = added.length)
    (hadd : addSegments kind segments added = frontSegments segments ++ new) :
    segments ≠ ["", ""] := by
  rintro rfl
  have hpos : 0 < added.length := List.length_pos_iff.mpr hne
  have hsettled : Settled kind [""] := by
    intro _ s rest heq
    cases heq
  have hbound := length_foldl_addSegment_le hsettled added
  have hown : ownSegments ("" :: new) = "" :: new := by
    refine ownSegments_eq_self fun heq => ?_
    rw [(List.cons.inj heq).2] at hnew
    exact absurd hnew.symm (Nat.ne_of_gt hpos)
  have hfold : added.foldl (addSegment kind) [""] = "" :: new := hadd
  have hnone : (ownSegments [""]).length = 0 := rfl
  rw [hfold, hown, hnone, List.length_cons] at hbound
  omega

theorem addable_of_root {new : List String} (hstands : List.Forall₂ StandsFor new added)
    (hne : added ≠ []) (hroot : frontSegments segments ++ new = [""]) :
    Addable kind (frontSegments segments) added := by
  obtain ⟨s, rest, rfl⟩ := List.exists_cons_of_ne_nil hne
  obtain ⟨written, new, hs, hrest, rfl⟩ := List.forall₂_cons_right_iff.mp hstands
  have hlength := congrArg List.length hroot
  simp only [List.length_append, List.length_cons, List.length_nil] at hlength
  have hfront : frontSegments segments = [] := List.length_eq_zero_iff.mp (by omega)
  obtain rfl : new = [] := List.length_eq_zero_iff.mp (by omega)
  obtain rfl := List.forall₂_nil_left_iff.mp hrest
  rw [hfront] at hroot
  rw [(List.cons.inj hroot).1] at hs
  obtain rfl := eq_empty_of_standsFor hs
  refine ⟨fun t ht => ?_, fun _ t rest heq => ?_⟩
  · obtain rfl := List.mem_singleton.mp ht
    exact ⟨by decide, by decide, by simp⟩
  · obtain ⟨rfl, rfl⟩ := List.cons.inj heq
    exact ⟨fun _ => rfl, fun _ => rfl⟩

/-- The added segments stand for the texts exactly if these are added as they are. A path of two
empty segments is taken for a root. -/
theorem addSegments_standFor_iff (hsettled : Settled kind segments) (hne : added ≠ []) :
    (∃ new, addSegments kind segments added = frontSegments segments ++ new ∧
      List.Forall₂ StandsFor new added) ↔
      segments ≠ ["", ""] ∧ Addable kind (frontSegments segments) added := by
  have hsettled' := settled_dropEmptyEnd hsettled
  constructor
  · rintro ⟨new, hadd, hstands⟩
    have hnew : new.length = added.length := hstands.length_eq
    have hdouble := ne_double_of_addSegments hne hnew hadd
    have hown := ownSegments_dropEmptyEnd hdouble
    refine ⟨hdouble, ?_⟩
    by_cases hroot : frontSegments segments ++ new = [""]
    · exact addable_of_root hstands hne hroot
    · have hlength : (ownSegments (added.foldl (addSegment kind) (dropEmptyEnd segments))).length =
          (ownSegments (dropEmptyEnd segments)).length + added.length := by
        rw [← addSegments, hadd, ownSegments_eq_self hroot, hown, List.length_append, hnew]
      obtain ⟨new', -, hfold, haddable⟩ := addable_of_length hsettled' hlength
      have hsame : new = new' := by
        have heq := hadd.symm.trans (hfold hne)
        rw [hown] at heq
        exact List.append_cancel_left heq
      rw [hown, ← hsame] at haddable
      exact haddable hstands
  · rintro ⟨hdouble, haddable⟩
    have hown := ownSegments_dropEmptyEnd hdouble
    rw [← hown] at haddable
    refine ⟨added.map (writtenSegment kind), ?_, ?_⟩
    · rw [← hown]
      exact foldl_addSegment_of_addable hsettled' hne haddable
    · exact List.forall₂_map_left_iff.mpr
        (List.forall₂_same.mpr fun s _ => standsFor_writtenSegment kind s)

end CloudReach.Url
