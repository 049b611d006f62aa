import CloudReach.Form
import CloudReach.Proofs.Percent
import CloudReach.Proofs.Text

/-!
# Forms

Decoding undoes encoding, for pairs of any texts. Pairs that are written after a text are read after
the pairs of that text, whatever it holds.
-/

namespace CloudReach

open Text (FreeOf)

namespace Text

theorem ofUtf8_utf8EncodeChar_append (c : Char) (rest : List UInt8) :
    ofUtf8 (String.utf8EncodeChar c ++ rest) = c :: ofUtf8 rest := by
  have hdecode : (String.utf8EncodeChar c ++ rest).toByteArray.utf8DecodeChar? 0 = some c := by
    rw [List.toByteArray_append]
    exact ByteArray.utf8DecodeChar?_utf8EncodeChar_append
  have hlength := String.length_utf8EncodeChar c
  obtain ⟨b, bytes, hbytes⟩ := List.exists_cons_of_ne_nil (Percent.utf8EncodeChar_ne_nil c)
  rw [hbytes, List.cons_append] at hdecode
  rw [hbytes, List.length_cons] at hlength
  rw [hbytes, List.cons_append, ofUtf8, hdecode]
  dsimp only
  rw [List.drop_left' (by omega)]

/-- The bytes of a text are read as that text. -/
theorem ofUtf8_flatMap_utf8EncodeChar (s : List Char) :
    ofUtf8 (s.flatMap String.utf8EncodeChar) = s := by
  induction s with
  | nil => rw [List.flatMap_nil, ofUtf8]
  | cons c s ih => rw [List.flatMap_cons, ofUtf8_utf8EncodeChar_append, ih]

end Text

namespace Form

/-! ### Names and values -/

def isEscaped (c : Char) : Bool :=
  !isPlain c && c != ' '

/-- With its plus signs read as spaces, a form escapes all but plain characters and spaces. -/
theorem map_plusToSpace_encodeChar (c : Char) :
    (encodeChar c).map plusToSpace = Percent.encodeChar isEscaped c := by
  by_cases hspace : c = ' '
  · subst hspace
    rfl
  · have hescaped : isEscaped c = !isPlain c := by simp [isEscaped, hspace]
    rw [encodeChar, if_neg (by simpa using hspace), Percent.encodeChar, Percent.encodeChar, hescaped]
    split
    · rename_i hplain
      have hplus : c ≠ '+' := by
        rintro rfl
        exact absurd hplain (by decide)
      rw [List.map_singleton, plusToSpace, if_neg (by simpa using hplus)]
    · -- No plus sign is written in an escape.
      refine (List.map_congr_left fun d hd => ?_).trans (List.map_id _)
      obtain ⟨b, -, hb⟩ := List.mem_flatMap.mp hd
      have hplus : d ≠ '+' := by
        rintro rfl
        exact absurd (Percent.isEscapeChar_of_mem_escape hb) (by decide)
      rw [plusToSpace, if_neg (by simpa using hplus)]
      rfl

theorem decodeText_encodeText (s : String) : decodeText (encodeText s) = s := by
  have hplain : (encodeText s).map plusToSpace = Percent.encode isEscaped s.toList := by
    rw [encodeText, List.map_flatMap, funext map_plusToSpace_encodeChar, Percent.encode]
  rw [decodeText, hplain, Percent.decode_encode rfl, Text.ofUtf8_flatMap_utf8EncodeChar,
    String.ofList_toList]

def marks : List Char := ['&', '=', '#']

theorem freeOf_encodeText (s : String) : FreeOf marks (encodeText s) := by
  intro c hc hmem
  obtain ⟨d, -, hd⟩ := List.mem_flatMap.mp hmem
  have hmarks : ∀ c ∈ marks, c ≠ '+' ∧ isPlain c = false ∧ ¬ Percent.IsEscapeChar c :=
    Text.forall_mem_of_all (by decide)
  obtain ⟨hplus, hplain, hescape⟩ := hmarks c hc
  unfold encodeChar at hd
  split at hd
  · exact hplus (List.mem_singleton.mp hd)
  · have hencoded : c ∈ Percent.encode (fun d => !isPlain d) [d] := by
      rwa [Percent.encode, List.flatMap_singleton]
    rcases Percent.mem_encode hencoded with ⟨-, hkept⟩ | hc
    · rw [hplain] at hkept
      cases hkept
    · exact hescape hc

/-! ### Pairs -/

theorem freeOf_encodePair (pair : String × String) : FreeOf ['&', '#'] (encodePair pair) := by
  have htext (s : String) : FreeOf ['&', '#'] (encodeText s) :=
    (freeOf_encodeText s).subset (by decide)
  rw [encodePair, Text.freeOf_append, Text.freeOf_cons]
  exact ⟨htext _, by decide, htext _⟩

theorem decodePair_encodePair (pair : String × String) : decodePair (encodePair pair) = pair := by
  have hname : ∀ c ∈ encodeText pair.1, (c != '=') = true := by
    intro c hc
    have hne : c ≠ '=' := fun heq => freeOf_encodeText pair.1 '=' (by decide) (heq ▸ hc)
    simpa using hne
  have hstop : ∀ c, ('=' :: encodeText pair.2).head? = some c → (c != '=') = false := by
    rintro c ⟨⟩
    rfl
  rw [decodePair, encodePair, Text.takeWhile_append_stop hname hstop,
    Text.dropWhile_append_stop hname hstop, List.drop_one, List.tail_cons, decodeText_encodeText,
    decodeText_encodeText]

theorem decode_encodePair (pair : String × String) : decode (encodePair pair) = [pair] := by
  have hfree : ∀ c ∈ encodePair pair, (c == '&') = false := by
    intro c hc
    have hne : c ≠ '&' := fun heq => freeOf_encodePair pair '&' (by decide) (heq ▸ hc)
    simpa using hne
  have hkept : [encodePair pair].filter (fun piece => !piece.isEmpty) = [encodePair pair] := by
    simp [encodePair]
  rw [decode, Text.splitOn_of_free hfree, hkept, List.map_singleton, decodePair_encodePair]

/-! ### Lists of pairs -/

theorem decode_append_ampersand (s t : List Char) :
    decode (s ++ '&' :: t) = decode s ++ decode t := by
  rw [decode, Text.splitOn_append_sep rfl, List.filter_append, List.map_append]
  rfl

/-- What is written after a text is read after what that text stands for. -/
theorem decode_append (start : List Char) (pairs : List (String × String)) :
    decode (append start pairs) = decode start ++ pairs := by
  induction pairs generalizing start with
  | nil => exact (List.append_nil _).symm
  | cons pair pairs ih =>
    have hpair : decode ((if start.isEmpty then start else start ++ ['&']) ++ encodePair pair) =
        decode start ++ [pair] := by
      cases start with
      | nil => exact decode_encodePair pair
      | cons c start =>
        rw [if_neg (by simp), List.append_assoc, List.singleton_append, decode_append_ampersand,
          decode_encodePair]
    change decode (append _ pairs) = _
    rw [ih, hpair, List.append_assoc, List.singleton_append]

theorem decode_encode (pairs : List (String × String)) : decode (encode pairs) = pairs :=
  decode_append [] pairs

theorem freeOf_append {start : List Char} (h : FreeOf ['#'] start)
    (pairs : List (String × String)) : FreeOf ['#'] (append start pairs) := by
  induction pairs generalizing start with
  | nil => exact h
  | cons pair pairs ih =>
    refine ih (Text.freeOf_append.mpr ⟨?_, (freeOf_encodePair pair).subset (by decide)⟩)
    split
    · exact h
    · exact Text.freeOf_append.mpr ⟨h, by decide⟩

end Form

end CloudReach
