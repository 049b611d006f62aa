import CloudReach.Proofs.Json.Number

/-!
# Values passed over

Every value is passed over, whatever is nested in it. A value is over when the loop goes on as the
frames around it say, which is what `resume` is.
-/

namespace CloudReach.Json

variable {α β : Type} {c : Char} {b s t v w rest : List Char}

/-! ### Readers take from the front -/

theorem readChars_length_le {escape : List Char → Except Failure (Char × List Char)} {seen : Nat}
    {l : List Char} (h : readChars escape seen s = .ok (l, t)) : t.length ≤ s.length := by
  induction hn : s.length using Nat.strong_induction_on generalizing s l with
  | _ n ih =>
    subst hn
    cases s with
    | nil => rw [readChars] at h; cases h
    | cons c s =>
      rw [readChars] at h
      split at h
      · cases h
        simp
      · split at h
        · split at h
          · cases h
          · rename_i d rest _
            split at h
            · rename_i hlt
              obtain ⟨r, hr, heq⟩ := map_eq_ok_iff.mp h
              cases heq
              have hle := ih rest.length (by simp; omega) hr rfl
              simp
              omega
            · cases h
        · split at h
          · cases h
          · obtain ⟨r, hr, heq⟩ := map_eq_ok_iff.mp h
            cases heq
            have hle := ih s.length (by simp) hr rfl
            simp
            omega

namespace Reader

def Shrinks (r : Reader α) : Prop :=
  ∀ s a t, r s = .ok (a, t) → t.length ≤ s.length

theorem shrinks_pure (a : α) : Shrinks (pure a : Reader α) := by
  rintro s _ _ ⟨⟩
  exact Nat.le_refl _

theorem Refuses.shrinks {r : Reader α} (h : Refuses r) : Shrinks r :=
  fun _ _ _ hok => absurd hok (h _ _)

theorem Shrinks.bind {r : Reader α} {f : α → Reader β} (hr : Shrinks r)
    (hf : ∀ a, Shrinks (f a)) : Shrinks (r >>= f) := by
  intro s p t hok
  obtain ⟨a, t', ha, hok⟩ := bind_apply_eq_ok.mp hok
  exact Nat.le_trans (hf a t' p t hok) (hr s a t' ha)

theorem shrinks_advance : Shrinks advance := by
  rintro s _ _ ⟨⟩
  simp

theorem shrinks_peek : Shrinks peek := by
  rintro s _ _ ⟨⟩
  exact (List.dropWhile_sublist _).length_le

theorem shrinks_skipChars : Shrinks skipChars := by
  intro s _ t hok
  obtain ⟨_, hr, heq⟩ := map_eq_ok_iff.mp hok
  cases heq
  exact readChars_length_le hr

theorem shrinks_colon : Shrinks colon := by
  refine shrinks_peek.bind fun c => ?_
  split
  · exact shrinks_advance
  · exact (refuses_refuseNext _).shrinks
  · exact (refuses_refuse _).shrinks

theorem shrinks_skipKey : Shrinks skipKey := by
  refine shrinks_peek.bind fun c => ?_
  split
  · exact shrinks_advance.bind fun _ => shrinks_skipChars.bind fun _ => shrinks_colon
  · exact (refuses_refuseNext _).shrinks
  · exact (refuses_refuse _).shrinks

theorem shrinks_closeFrames (frames : List Frame) : Shrinks (closeFrames frames) := by
  induction frames with
  | nil => exact shrinks_pure _
  | cons frame outer ih =>
    cases frame with
    | list =>
      refine shrinks_peek.bind fun c => ?_
      split
      · exact shrinks_advance.bind fun _ => shrinks_pure _
      · exact shrinks_advance.bind fun _ => ih
      · exact (refuses_refuseNext _).shrinks
      · exact (refuses_refuse _).shrinks
    | object =>
      refine shrinks_peek.bind fun c => ?_
      split
      · exact shrinks_advance.bind fun _ => shrinks_skipKey.bind fun _ => shrinks_pure _
      · exact shrinks_advance.bind fun _ => ih
      · exact (refuses_refuseNext _).shrinks
      · exact (refuses_refuse _).shrinks

/-! ### After a value -/

def resume (frames : List Frame) (s : List Char) : Except Failure (List Frame × List Char) :=
  match closeFrames frames s with
  | .error f => .error f
  | .ok ((done, frames), t) => if done = false then loop skipStep frames t else .ok (frames, t)

theorem loop_of_close {frames frames' : List Frame}
    (h : skipStep frames s = closeFrames frames' rest) (hlt : rest.length < s.length) :
    loop skipStep frames s = resume frames' rest := by
  rw [loop, h]
  unfold resume
  cases hclose : closeFrames frames' rest with
  | error f => rfl
  | ok p =>
    obtain ⟨⟨done, frames''⟩, t⟩ := p
    have hle := shrinks_closeFrames frames' rest _ t hclose
    have hiff : (done = false ∧ t.length < s.length) ↔ done = false :=
      and_iff_left (Nat.lt_of_le_of_lt hle hlt)
    simp only [hiff]
    split <;> rfl

theorem resume_comma {outer : List Frame} (hb : Blank b) :
    resume (.list :: outer) (b ++ ',' :: s) = loop skipStep (.list :: outer) s := by
  have hclose : closeFrames (.list :: outer) (b ++ ',' :: s) = .ok ((false, .list :: outer), s) :=
    bind_peek _ hb rfl
  unfold resume
  rw [hclose]
  rfl

theorem resume_bracket {outer : List Frame} (hb : Blank b) :
    resume (.list :: outer) (b ++ ']' :: s) = resume outer s := by
  have hclose : closeFrames (.list :: outer) (b ++ ']' :: s) = closeFrames outer s :=
    bind_peek _ hb rfl
  unfold resume
  rw [hclose]

theorem resume_brace {outer : List Frame} (hb : Blank b) :
    resume (.object :: outer) (b ++ '\x7d' :: s) = resume outer s := by
  have hclose : closeFrames (.object :: outer) (b ++ '\x7d' :: s) = closeFrames outer s :=
    bind_peek _ hb rfl
  unfold resume
  rw [hclose]

theorem resume_key {outer : List Frame} (hb : Blank b) (hkey : skipKey s = .ok ((), t)) :
    resume (.object :: outer) (b ++ ',' :: s) = loop skipStep (.object :: outer) t := by
  have hclose : closeFrames (.object :: outer) (b ++ ',' :: s) =
      .ok ((false, .object :: outer), t) :=
    (bind_peek _ hb rfl).trans ((bind_advance _).trans (bind_apply_of_ok hkey))
  unfold resume
  rw [hclose]
  rfl

/-! ### Values -/

theorem skipScalar_append (h : ValueFrom c t) (hlist : c ≠ '[') (hobject : c ≠ '\x7b')
    (hrest : Boundary rest) : skipScalar (some c) (c :: (t ++ rest)) = .ok ((), rest) := by
  unfold ValueFrom at h
  split at h
  case h_1 | h_2 | h_3 =>
    subst h
    exact (bind_advance _).trans (word_append _)
  case h_4 =>
    refine (bind_advance _).trans ?_
    unfold skipNumber
    rw [Number.skip_append h hrest]
    rfl
  case h_5 =>
    obtain ⟨text, body, hbody, heq⟩ := h
    cases heq
    rw [List.append_assoc]
    exact (bind_advance _).trans (skipChars_append hbody)
  case h_6 => exact absurd rfl hlist
  case h_7 => exact absurd rfl hobject
  case h_8 =>
    obtain ⟨hdigit, hmagnitude⟩ := h
    have hskip : skipNumber (c :: (t ++ rest)) = .ok ((), rest) := by
      unfold skipNumber
      rw [← List.cons_append, Number.skip_append hmagnitude hrest]
      rfl
    unfold skipScalar
    generalize hx : some c = x
    split
    case h_7 =>
      cases hx
      have hsome : (Text.digit? c).isSome = true := hdigit
      rw [if_pos hsome]
      exact hskip
    case h_1 => cases hx
    all_goals
      obtain rfl := Option.some.inj hx
      cases hdigit

theorem skipStep_scalar {frames : List Frame} (h : ValueFrom c t) (hlist : c ≠ '[')
    (hobject : c ≠ '\x7b') (hb : Blank b) (hrest : Boundary rest) :
    skipStep frames (b ++ (c :: t ++ rest)) = closeFrames frames rest := by
  unfold skipStep
  rw [List.cons_append, bind_peek _ hb h.not_blank]
  generalize hx : some c = x
  split
  · exact absurd (Option.some.inj hx) hlist
  · exact absurd (Option.some.inj hx) hobject
  · exact hx ▸ bind_apply_of_ok (skipScalar_append h hlist hobject hrest)

/-- In any frames the text is passed over, and then the loop goes on. -/
def Skipped (v : List Char) : Prop :=
  ∀ frames b rest, Blank b → Boundary rest →
    loop skipStep frames (b ++ (v ++ rest)) = resume frames rest

/-- Items are passed over to the bracket behind them. -/
theorem loop_items {items : List (List Char)} {outer : List Frame} (h : Separated items w)
    (hitems : ∀ v ∈ items, Skipped v) :
    loop skipStep (.list :: outer) (w ++ ']' :: rest) = resume outer rest := by
  induction h with
  | @one b v b' hb hb' =>
    have hv := hitems v List.mem_cons_self (.list :: outer) b (b' ++ ']' :: rest) hb
      (boundary_append hb' (boundary_cons (by decide)))
    simp only [List.append_assoc] at hv ⊢
    exact hv.trans (resume_bracket hb')
  | @more b v b' w vs hb hb' _ ih =>
    have hv := hitems v List.mem_cons_self (.list :: outer) b (b' ++ ',' :: (w ++ ']' :: rest)) hb
      (boundary_append hb' (boundary_cons (by decide)))
    simp only [List.append_assoc, List.cons_append] at hv ⊢
    exact (hv.trans (resume_comma hb')).trans
      (ih fun v hv => hitems v (List.mem_cons_of_mem _ hv))

theorem skipKey_append {key : String} {k b' : List Char} (hkey : SpellsText key k) (hb : Blank b)
    (hb' : Blank b') : skipKey (b ++ (k ++ (b' ++ ':' :: s))) = .ok ((), s) := by
  obtain ⟨body, hbody, rfl⟩ := hkey
  have hchars : skipChars (body ++ '"' :: (b' ++ ':' :: s)) = .ok ((), b' ++ ':' :: s) :=
    skipChars_append hbody
  have hcolon : colon (b' ++ ':' :: s) = .ok ((), s) := bind_peek _ hb' rfl
  rw [List.cons_append, List.append_assoc]
  exact (bind_peek _ hb rfl).trans ((bind_advance _).trans
    ((bind_apply_of_ok hchars).trans hcolon))

/-- Members are passed over to the brace behind them. -/
theorem loop_members {members : List (String × List Char)} {parts : List (List Char)}
    {outer : List Frame} (h : Separated parts w) (hparts : List.Forall₂ SpellsMember members parts)
    (hmembers : ∀ m ∈ members, Skipped m.2) :
    ∃ t, skipKey (w ++ '\x7d' :: rest) = .ok ((), t) ∧
      loop skipStep (.object :: outer) t = resume outer rest := by
  induction h generalizing members with
  | @one b part b' hb hb' =>
    obtain _ | ⟨⟨k, d, d', hk, hd, hd', rfl⟩, hrest⟩ := hparts
    cases hrest
    rename_i m
    have hv := hmembers m List.mem_cons_self (.object :: outer) d' (b' ++ '\x7d' :: rest) hd'
      (boundary_append hb' (boundary_cons (by decide)))
    refine ⟨d' ++ (m.2 ++ (b' ++ '\x7d' :: rest)), ?_, hv.trans (resume_brace hb')⟩
    simp only [List.append_assoc, List.cons_append]
    exact skipKey_append hk hb hd
  | @more b part b' w parts hb hb' _ ih =>
    obtain _ | ⟨⟨k, d, d', hk, hd, hd', rfl⟩, hrest⟩ := hparts
    rename_i m ms
    obtain ⟨t, hkey, hloop⟩ := ih hrest fun m hm => hmembers m (List.mem_cons_of_mem _ hm)
    have hv := hmembers m List.mem_cons_self (.object :: outer) d'
      (b' ++ ',' :: (w ++ '\x7d' :: rest)) hd' (boundary_append hb' (boundary_cons (by decide)))
    refine ⟨d' ++ (m.2 ++ (b' ++ ',' :: (w ++ '\x7d' :: rest))), ?_,
      hv.trans ((resume_key hb' hkey).trans hloop)⟩
    simp only [List.append_assoc, List.cons_append]
    exact skipKey_append hk hb hd

theorem skipped_scalar (h : ValueFrom c t) (hlist : c ≠ '[') (hobject : c ≠ '\x7b') :
    Skipped (c :: t) := by
  intro frames b rest hb hrest
  refine loop_of_close (skipStep_scalar h hlist hobject hb hrest) ?_
  simp
  omega

theorem skipped_list {items : List (List Char)} (h : SpellsList items v)
    (hvalues : ∀ v ∈ items, IsValue v) (hitems : ∀ v ∈ items, Skipped v) : Skipped v := by
  obtain ⟨body, hbody, rfl⟩ := h
  intro frames b rest hb hrest
  simp only [List.cons_append, List.append_assoc, List.nil_append]
  rcases hbody with ⟨-, hblank⟩ | hbody
  · refine loop_of_close ((bind_peek _ hb rfl).trans ((bind_advance _).trans
      ((bind_peek _ hblank rfl).trans (bind_advance _)))) ?_
    simp
    omega
  · obtain ⟨b', w, hb', rfl, hw, v, hv, tail, rfl⟩ := hbody.strip
    obtain ⟨c, t, rfl, hfrom⟩ := (hvalues v hv).exists_valueFrom
    have henter : skipStep frames (b ++ '[' :: (b' ++ (c :: t ++ tail) ++ ']' :: rest)) =
        .ok ((false, .list :: frames), c :: t ++ tail ++ ']' :: rest) := by
      refine (bind_peek _ hb rfl).trans ((bind_advance _).trans ?_)
      simp only [List.append_assoc, List.cons_append]
      refine (bind_peek _ hb' hfrom.not_blank).trans ?_
      generalize hx : some c = x
      split
      · obtain rfl := Option.some.inj hx
        cases hfrom.1
      · rfl
      · cases hx
    refine (loop_of_continue henter ?_).trans (loop_items hw hitems)
    simp
    omega

theorem skipped_object {members : List (String × List Char)} (h : SpellsObject members v)
    (hmembers : ∀ m ∈ members, Skipped m.2) : Skipped v := by
  obtain ⟨parts, body, hparts, hbody, rfl⟩ := h
  intro frames b rest hb hrest
  simp only [List.cons_append, List.append_assoc, List.nil_append]
  rcases hbody with ⟨-, hblank⟩ | hbody
  · refine loop_of_close ((bind_peek _ hb rfl).trans ((bind_advance _).trans
      ((bind_peek _ hblank rfl).trans (bind_advance _)))) ?_
    simp
    omega
  · obtain ⟨b', w, hb', rfl, hw, part, hpart, tail, rfl⟩ := hbody.strip
    obtain ⟨t, hkey, hloop⟩ : ∃ t, skipKey (part ++ tail ++ '\x7d' :: rest) = .ok ((), t) ∧
        loop skipStep (.object :: frames) t = resume frames rest :=
      loop_members hw hparts hmembers
    obtain ⟨part', rfl⟩ := head_of_members hparts part hpart
    have henter : skipStep frames (b ++ '\x7b' :: (b' ++ ('"' :: part' ++ tail) ++ '\x7d' :: rest)) =
        .ok ((false, .object :: frames), t) := by
      refine (bind_peek _ hb rfl).trans ((bind_advance _).trans ?_)
      simp only [List.append_assoc, List.cons_append] at hkey ⊢
      exact (bind_peek _ hb' rfl).trans (bind_apply_of_ok hkey)
    refine (loop_of_continue henter ?_).trans hloop
    have hle := shrinks_skipKey _ _ _ hkey
    simp at hle ⊢
    omega

theorem skipped_of_isValue (h : IsValue v) : Skipped v := by
  induction h with
  | word h =>
    simp only [words, List.mem_cons, List.not_mem_nil, or_false] at h
    rcases h with rfl | rfl | rfl <;> exact skipped_scalar rfl (by decide) (by decide)
  | magnitude h =>
    obtain ⟨c, t, rfl, hc⟩ := h.head
    refine skipped_scalar (IsValue.magnitude h).valueFrom ?_ ?_ <;> rintro rfl <;> cases hc
  | negative h => exact skipped_scalar h (by decide) (by decide)
  | @text text _ h =>
    obtain ⟨body, hbody, rfl⟩ := h
    exact skipped_scalar ⟨text, body, hbody, rfl⟩ (by decide) (by decide)
  | list h hvalues hitems => exact skipped_list h hvalues hitems
  | object h _ hmembers => exact skipped_object h hmembers

/-- Every value is passed over. -/
theorem reads_skip (h : IsValue v) : Reads skip v () := by
  intro b rest hb hrest
  have hloop : loop skipStep [] (b ++ (v ++ rest)) = .ok ([], rest) :=
    skipped_of_isValue h [] b rest hb hrest
  exact bind_apply_of_ok hloop

end Reader

end CloudReach.Json
