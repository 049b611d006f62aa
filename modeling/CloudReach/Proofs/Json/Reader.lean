import CloudReach.Json.Skip
import CloudReach.Proofs.Json.Grammar
import CloudReach.Proofs.Outcome
import CloudReach.Proofs.Text

/-!
# Readers on the text of a value

A reader reads a text as a value if it does so wherever the text stands: behind blanks, and in front
of what can follow a value. It passes a text if it takes no more and no less of it wherever it takes
a value from it at all. The readers of strings, whole numbers and null pass the text of every value.
-/

namespace CloudReach.Json

variable {α β : Type} {c : Char} {b s t v w rest : List Char}

/-! ### The start of a value -/

theorem Digits.head (h : Digits v) : ∃ c t, v = c :: t ∧ isDigit c = true := by
  obtain ⟨c, t, rfl⟩ := List.exists_cons_of_ne_nil h.1
  exact ⟨c, t, rfl, h.2 c List.mem_cons_self⟩

theorem IsMagnitude.head (h : IsMagnitude v) : ∃ c t, v = c :: t ∧ isDigit c = true := by
  obtain ⟨whole, fraction, exponent, hwhole, -, -, -, rfl⟩ := h
  obtain ⟨c, t, rfl, hc⟩ := hwhole.head
  exact ⟨c, t ++ (fraction ++ exponent), rfl, hc⟩

def ValueFrom (c : Char) (t : List Char) : Prop :=
  match c with
  | 'n' => t = ['u', 'l', 'l']
  | 't' => t = ['r', 'u', 'e']
  | 'f' => t = ['a', 'l', 's', 'e']
  | '-' => IsMagnitude t
  | '"' => ∃ s, SpellsText s (c :: t)
  | '[' => ∃ items, SpellsList items (c :: t) ∧ ∀ v ∈ items, IsValue v
  | '\x7b' => ∃ members, SpellsObject members (c :: t) ∧ ∀ m ∈ members, IsValue m.2
  | c => isDigit c = true ∧ IsMagnitude (c :: t)

theorem IsValue.exists_valueFrom (h : IsValue v) : ∃ c t, v = c :: t ∧ ValueFrom c t := by
  cases h with
  | word h =>
    simp only [words, List.mem_cons, List.not_mem_nil, or_false] at h
    rcases h with rfl | rfl | rfl <;> exact ⟨_, _, rfl, rfl⟩
  | magnitude h =>
    obtain ⟨c, t, rfl, hc⟩ := h.head
    refine ⟨c, t, rfl, ?_⟩
    unfold ValueFrom
    split <;> first | exact absurd hc (by decide) | exact ⟨hc, h⟩
  | negative h => exact ⟨_, _, rfl, h⟩
  | @text s _ h =>
    obtain ⟨body, -, rfl⟩ := id h
    exact ⟨_, _, rfl, s, h⟩
  | @list items _ h hitems =>
    obtain ⟨body, -, rfl⟩ := id h
    exact ⟨_, _, rfl, items, h, hitems⟩
  | @object members _ h hmembers =>
    obtain ⟨parts, body, -, -, rfl⟩ := id h
    exact ⟨_, _, rfl, members, h, hmembers⟩

theorem IsValue.valueFrom (h : IsValue (c :: t)) : ValueFrom c t := by
  obtain ⟨c', t', heq, hfrom⟩ := h.exists_valueFrom
  cases heq
  exact hfrom

theorem isDigit_eq_false_of_isBlank (h : isBlank c = true) : isDigit c = false := by
  simp only [isBlank, Bool.or_eq_true, beq_iff_eq] at h
  obtain ((rfl | rfl) | rfl) | rfl := h <;> rfl

theorem ValueFrom.not_blank (h : ValueFrom c t) : isBlank c = false := by
  unfold ValueFrom at h
  split at h
  case h_8 =>
    refine eq_false_of_ne_true fun hblank => ?_
    rw [isDigit_eq_false_of_isBlank hblank] at h
    cases h.1
  all_goals rfl

/-! ### Readers -/

/-- What can follow a value: the end, a blank, a comma or the end of a list or an object. -/
def Boundary (rest : List Char) : Prop :=
  ∀ c, rest.head? = some c → isBlank c = true ∨ c ∈ [',', ']', '\x7d']

theorem boundary_cons (hc : c ∈ [',', ']', '\x7d']) : Boundary (c :: s) :=
  fun _ h => .inr (Option.some.inj h ▸ hc)

theorem boundary_append (hb : Blank b) (hs : Boundary s) : Boundary (b ++ s) := by
  cases b with
  | nil => exact hs
  | cons c b => exact fun d hd => .inl (Option.some.inj hd ▸ hb c List.mem_cons_self)

/-! ### Parts between commas -/

theorem blank_nil : Blank [] := fun _ h => absurd h List.not_mem_nil

theorem blank_singleton (hc : isBlank c = true) : Blank [c] :=
  fun _ hd => (List.mem_singleton.mp hd).symm ▸ hc

/-- The blanks in front can be taken away. -/
theorem Separated.strip {parts : List (List Char)} (h : Separated parts w) :
    ∃ b w', Blank b ∧ w = b ++ w' ∧ Separated parts w' ∧ ∃ v ∈ parts, ∃ t, w' = v ++ t := by
  cases h with
  | one hb hb' => exact ⟨_, _, hb, rfl, .one blank_nil hb', _, List.mem_cons_self, _, rfl⟩
  | more hb hb' h => exact ⟨_, _, hb, rfl, .more blank_nil hb' h, _, List.mem_cons_self, _, rfl⟩

theorem head_of_members {members : List (String × List Char)} {parts : List (List Char)}
    (h : List.Forall₂ SpellsMember members parts) : ∀ part ∈ parts, ∃ t, part = '"' :: t := by
  induction h with
  | nil => exact fun _ hpart => absurd hpart List.not_mem_nil
  | cons hm _ ih =>
    intro part hpart
    rcases List.mem_cons.mp hpart with rfl | hpart
    · obtain ⟨_, _, _, ⟨body, -, rfl⟩, -, -, rfl⟩ := hm
      exact ⟨_, rfl⟩
    · exact ih part hpart

namespace Reader

variable {r : Reader α} {a : α}

/-- Wherever a value is read from the text, it is the text that is taken. -/
def Passes (r : Reader α) (v : List Char) : Prop :=
  ∀ b rest a t, Blank b → Boundary rest → r (b ++ (v ++ rest)) = .ok (a, t) → t = rest

/-- The text is read as a value wherever it stands. -/
def Reads (r : Reader α) (v : List Char) (a : α) : Prop :=
  ∀ b rest, Blank b → Boundary rest → r (b ++ (v ++ rest)) = .ok (a, rest)

theorem Reads.passes (h : Reads r v a) : Passes r v := by
  intro b rest a' t hb hrest hok
  rw [h b rest hb hrest] at hok
  cases hok
  rfl

theorem bind_apply_of_ok {f : α → Reader β} (h : r s = .ok (a, t)) : (r >>= f) s = f a t := by
  have hbind : (r >>= f) s = (r s >>= fun p => f p.1 p.2) := rfl
  rw [hbind, h]
  rfl

theorem bind_apply_eq_ok {f : α → Reader β} {p : β × List Char} :
    (r >>= f) s = .ok p ↔ ∃ a t, r s = .ok (a, t) ∧ f a t = .ok p := by
  have hbind : (r >>= f) s = (r s >>= fun p => f p.1 p.2) := rfl
  rw [hbind, bind_eq_ok_iff]
  exact Prod.exists

theorem bind_advance (f : Unit → Reader α) : (advance >>= f) (c :: s) = f () s := rfl

theorem Reads.map {f : α → β} (h : Reads r v a) :
    Reads (do let a ← r; return f a) v (f a) := by
  intro b rest hb hrest
  exact bind_apply_of_ok (h b rest hb hrest)

theorem Passes.map {f : α → β} (h : Passes r v) : Passes (do let a ← r; return f a) v := by
  intro b rest c t hb hrest hok
  obtain ⟨a, t', hr, hok⟩ := bind_apply_eq_ok.mp hok
  cases hok
  exact h b rest a t hb hrest hr

/-- Behind blanks stands the next character. -/
theorem peek_append (hb : Blank b) (hc : isBlank c = false) :
    peek (b ++ c :: s) = .ok (some c, c :: s) := by
  have hdrop : (b ++ c :: s).dropWhile isBlank = c :: s :=
    Text.dropWhile_append_stop hb fun d hd => Option.some.inj hd ▸ hc
  unfold peek
  rw [hdrop]
  rfl

theorem bind_peek (f : Option Char → Reader α) (hb : Blank b) (hc : isBlank c = false) :
    (peek >>= f) (b ++ c :: s) = f (some c) (c :: s) :=
  bind_apply_of_ok (peek_append hb hc)

/-- What is read from a text with blanks around it. -/
theorem run_of_reads {text : String} (h : Reads r v a) (htext : Surrounds text v) :
    run r text = .ok a := by
  obtain ⟨b, s, hb, hs, htext⟩ := htext
  have hboundary : Boundary s := fun c hc => .inl (hs c (List.mem_of_mem_head? hc))
  have hend : (s ++ []).dropWhile isBlank = [] := Text.dropWhile_append_stop hs nofun
  rw [List.append_nil] at hend
  have hpeek : peek s = .ok (none, []) := by
    unfold peek
    rw [hend]
    rfl
  have hwhole : run.whole r text.toList = .ok (a, []) := by
    rw [run.whole, htext, bind_apply_of_ok (h b s hb hboundary), bind_apply_of_ok hpeek]
    rfl
  rw [run, hwhole]

theorem run_eq_ok {text : String} (h : run r text = .ok a) : ∃ t, r text.toList = .ok (a, t) := by
  unfold run at h
  split at h
  · cases h
  · rename_i hwhole
    cases h
    obtain ⟨a', t, hr, hend⟩ := bind_apply_eq_ok.mp hwhole
    obtain ⟨next, t', -, hend⟩ := bind_apply_eq_ok.mp hend
    cases next with
    | some => cases hend
    | none =>
      cases hend
      exact ⟨t, hr⟩

def Refuses (r : Reader α) : Prop :=
  ∀ s p, r s ≠ .ok p

theorem refuses_refuse (f : Fault) : Refuses (refuse f : Reader α) := fun _ _ h => nomatch h

theorem refuses_refuseNext (f : Fault) : Refuses (refuseNext f : Reader α) :=
  fun _ _ h => nomatch h

theorem Refuses.bind {f : α → Reader β} (h : ∀ a, Refuses (f a)) : Refuses (r >>= f) := by
  intro s p hok
  obtain ⟨a, t, -, hok⟩ := bind_apply_eq_ok.mp hok
  exact h a t p hok

theorem refuses_refuseUpTo (close : Char) (f : Fault) :
    Refuses (refuseUpTo close f : Reader α) := by
  refine .bind fun next => ?_
  split
  · exact .bind fun _ => refuses_refuse f
  · exact refuses_refuse f

theorem refuses_refuseKind (expected : String) (c : Option Char) :
    Refuses (refuseKind expected c : Reader α) := by
  unfold refuseKind
  split
  case h_2 | h_3 | h_4 => exact .bind fun _ => .bind fun _ => refuses_refuse _
  case h_5 | h_6 => exact .bind fun _ => .bind fun _ => refuses_refuse _
  case h_9 =>
    split
    · exact .bind fun _ => refuses_refuse _
    · exact refuses_refuseNext _
  all_goals exact refuses_refuse _

/-- A reader that looks at the first character passes a value if what it does then passes it. -/
theorem Passes.peek {f : Option Char → Reader α} (h : ValueFrom c t)
    (hf : ∀ rest a s, Boundary rest → f (some c) (c :: (t ++ rest)) = .ok (a, s) → s = rest) :
    Passes (Reader.peek >>= f) (c :: t) := by
  intro b rest a s hb hrest hok
  rw [List.cons_append, bind_peek f hb h.not_blank] at hok
  exact hf rest a s hrest hok

theorem Reads.peek {f : Option Char → Reader α} (hc : isBlank c = false)
    (hf : ∀ rest, Boundary rest → f (some c) (c :: (t ++ rest)) = .ok (a, rest)) :
    Reads (Reader.peek >>= f) (c :: t) a := by
  intro b rest hb hrest
  rw [List.cons_append, bind_peek f hb hc]
  exact hf rest hrest

/-! ### Loops -/

section Loop

variable {σ : Type} {step : σ → Reader (Bool × σ)} {x y : σ}

theorem loop_of_continue (h : step x s = .ok ((false, y), t)) (hlt : t.length < s.length) :
    loop step x s = loop step y t := by
  rw [loop, h]
  exact dif_pos ⟨rfl, hlt⟩

theorem loop_of_done (h : step x s = .ok ((true, y), t)) : loop step x s = .ok (y, t) := by
  rw [loop, h]
  rfl

/-- A loop that ends well has taken a first step. -/
theorem exists_step_of_loop {p : σ × List Char} (h : loop step x s = .ok p) :
    ∃ done y t, step x s = .ok ((done, y), t) := by
  rw [loop] at h
  split at h
  · cases h
  · rename_i hstep
    exact ⟨_, _, _, hstep⟩

end Loop

/-! ### Words -/

theorem word_append (w : List Char) : word w (w ++ rest) = .ok ((), rest) := by
  induction w with
  | nil => rfl
  | cons c w ih =>
    have hnext : next? (c :: (w ++ rest)) = .ok (some c, c :: (w ++ rest)) := rfl
    rw [word, List.cons_append, bind_apply_of_ok hnext]
    dsimp only
    rw [if_pos rfl]
    exact (bind_advance _).trans ih

theorem bind_word (w : List Char) (f : Unit → Reader α) :
    (word w >>= f) (w ++ rest) = f () rest :=
  bind_apply_of_ok (word_append w)

theorem passes_optional (hr : Passes r v) (hv : IsValue v) : Passes (optional r) v := by
  obtain ⟨c, t, rfl, hfrom⟩ := hv.exists_valueFrom
  refine .peek hfrom fun rest a s hrest hok => ?_
  generalize hx : some c = x at hok
  split at hok
  · obtain rfl : c = 'n' := Option.some.inj hx
    obtain rfl : t = ['u', 'l', 'l'] := hfrom
    rw [bind_advance, bind_word] at hok
    cases hok
    rfl
  · obtain ⟨a', t', hok, hend⟩ := bind_apply_eq_ok.mp hok
    cases hend
    exact hr [] rest a' s blank_nil hrest hok

theorem reads_optional_null : Reads (optional r) ['n', 'u', 'l', 'l'] none :=
  .peek rfl fun _ _ => (bind_advance _).trans (bind_word ['u', 'l', 'l'] _)

theorem reads_optional (hr : Reads r (c :: t) a) (hc : isBlank c = false) (hn : c ≠ 'n') :
    Reads (optional r) (c :: t) (some a) := by
  refine .peek hc fun rest hrest => ?_
  generalize hx : some c = x
  split
  · exact absurd (Option.some.inj hx) hn
  · exact bind_apply_of_ok (hr [] rest blank_nil hrest)

end Reader

end CloudReach.Json
