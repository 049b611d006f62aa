import CloudReach.Proofs.Url.Target

/-!
# Hosts and ports

The host and the port of an authority, and when they are all there is to it. The authority of a
well-formed URL is its host and port exactly if it has no user.
-/

namespace CloudReach

open Text (FreeOf)

namespace Target.Authority

/-- An authority that is read is the whole text. -/
theorem eq_of_parse {text : String} {a : Authority} (h : Authority.parse text = .ok a) :
    Authority.mk text = a := by
  unfold Authority.parse at h
  split at h
  · cases h
  · obtain ⟨⟨front, rest⟩, -, h⟩ := bind_eq_ok_iff.mp h
    dsimp only at h
    split at h
    · exact Except.ok.inj h
    · cases h

/-- Whether a text is a number that a port can have. A plus sign may stand before its digits. -/
def isPortText (s : List Char) : Bool :=
  let digits := if s.head? = some '+' then s.drop 1 else s
  !digits.isEmpty && digits.all Char.isDigit && Text.ofDigits digits ≤ 65535

def port? (a : Authority) : Option String :=
  let cs := a.text.toList
  let last := (cs.reverse.takeWhile (· != ':')).reverse
  if cs.contains ':' && isPortText last then some (String.ofList last) else none

def hostPort (a : Authority) : String :=
  a.host ++ (a.port?.map (":" ++ ·)).getD ""

def IsBare (a : Authority) : Prop :=
  a.text = a.hostPort

instance (a : Authority) : Decidable a.IsBare :=
  inferInstanceAs (Decidable (_ = _))

theorem of_isPortText {s : List Char} (h : isPortText s = true) :
    ∀ c ∈ s, c = '+' ∨ c.isDigit = true := by
  intro c hc
  unfold isPortText at h
  simp only [Bool.and_eq_true, List.all_eq_true] at h
  obtain ⟨⟨-, hdigits⟩, -⟩ := h
  split at hdigits
  · rename_i hplus
    obtain ⟨rest, rfl⟩ := List.head?_eq_some_iff.mp hplus
    rcases List.mem_cons.mp hc with rfl | hc
    · exact .inl rfl
    · exact .inr (hdigits c hc)
  · exact .inr (hdigits c hc)

theorem isPortText_digits {p : Nat} (hp : p ≤ 65535) : isPortText (Text.digits p) = true := by
  have hdigit : ∀ c ∈ Text.digits p, c.isDigit = true := fun c hc =>
    Nat.isDigit_of_mem_toDigits (by decide) (by decide) hc
  have hplus : (Text.digits p).head? ≠ some '+' := by
    intro h
    exact absurd (hdigit '+' (List.mem_of_mem_head? h)) (by decide)
  have hvalue : Text.ofDigits (Text.digits p) = p :=
    Nat.ofDigitChars_toDigits (by decide) (by decide)
  have hne : Text.digits p ≠ [] := Nat.toDigits_ne_nil
  unfold isPortText
  simp only [if_neg hplus, hvalue]
  simp [hne, hp, List.all_eq_true.mpr hdigit]

def afterUser (a : Authority) : List Char :=
  let cs := a.text.toList
  if cs.contains '@' then (cs.reverse.takeWhile (· != '@')).reverse else cs

theorem host_eq (a : Authority) :
    a.host = if a.afterUser.head? = some '[' then
        String.ofList (a.afterUser.takeWhile (· != ']') ++ [']'])
      else String.ofList (a.afterUser.takeWhile (· != ':')) := rfl

theorem at_notMem_afterUser (a : Authority) : '@' ∉ a.afterUser := by
  unfold afterUser
  dsimp only
  split
  · intro hmem
    have hne := List.all_eq_true.mp List.all_takeWhile '@' (List.mem_reverse.mp hmem)
    simp at hne
  · rename_i hnot
    simpa using hnot

theorem at_notMem_host (a : Authority) : '@' ∉ a.host.toList := by
  have hafter := a.at_notMem_afterUser
  have htake (p : Char → Bool) : '@' ∉ a.afterUser.takeWhile p := fun hmem =>
    hafter ((List.takeWhile_sublist _).subset hmem)
  rw [host_eq]
  split
  · rw [String.toList_ofList, List.mem_append, not_or]
    exact ⟨htake _, by decide⟩
  · rw [String.toList_ofList]
    exact htake _

theorem of_port?_eq_some {a : Authority} {port : String} (h : a.port? = some port) :
    ∀ c ∈ port.toList, c = '+' ∨ c.isDigit = true := by
  unfold port? at h
  dsimp only at h
  split at h
  · rename_i hport
    cases h
    rw [String.toList_ofList]
    exact of_isPortText (Bool.and_eq_true_iff.mp hport).2
  · cases h

/-- No user is shown in a host and a port. -/
theorem at_notMem_hostPort (a : Authority) : '@' ∉ a.hostPort.toList := by
  rw [hostPort, String.toList_append, List.mem_append, not_or]
  refine ⟨a.at_notMem_host, ?_⟩
  cases hport : a.port? with
  | none => simp
  | some port =>
    rw [Option.map_some, Option.getD_some, String.toList_append, List.mem_append, not_or]
    refine ⟨by decide, fun hmem => ?_⟩
    rcases of_port?_eq_some hport '@' hmem with heq | hdigit
    · exact absurd heq (by decide)
    · exact absurd hdigit (by decide)

section Text

variable {front : List Char}

theorem port?_of_colon {p : List Char} (hcolon : ':' ∉ p) (hport : isPortText p = true) :
    (Authority.mk (String.ofList (front ++ ':' :: p))).port? = some (String.ofList p) := by
  have hlast : ((front ++ ':' :: p).reverse.takeWhile (· != ':')).reverse = p := by
    rw [List.reverse_append, List.reverse_cons, List.append_assoc,
      Text.takeWhile_append_stop (fun c hc => ?_) (by rintro c ⟨⟩; rfl), List.reverse_reverse]
    have hne : c ≠ ':' := fun heq => hcolon (heq ▸ List.mem_reverse.mp hc)
    simpa using hne
  unfold port?
  simp only [String.toList_ofList, hlast, hport]
  simp

theorem port?_of_bracket :
    (Authority.mk (String.ofList (front ++ [']']))).port? = none := by
  have hlast : ']' ∈ ((front ++ [']']).reverse.takeWhile (· != ':')).reverse := by
    simp
  have hport : isPortText ((front ++ [']']).reverse.takeWhile (· != ':')).reverse = false := by
    refine eq_false_of_ne_true fun htext => ?_
    rcases of_isPortText htext ']' hlast with heq | hdigit
    · exact absurd heq (by decide)
    · exact absurd hdigit (by decide)
  unfold port?
  simp only [String.toList_ofList, hport, Bool.and_false]
  rfl

theorem port?_of_no_colon (hcolon : ':' ∉ front) :
    (Authority.mk (String.ofList front)).port? = none := by
  unfold port?
  simp [hcolon]

theorem host_of_name {rest : List Char} (hname : FreeOf ['@', ':', '['] front)
    (hrest : ∀ c, rest.head? = some c → c = ':') (hat : '@' ∉ rest) :
    (Authority.mk (String.ofList (front ++ rest))).host = String.ofList front := by
  have hno : '@' ∉ front ++ rest := by
    rw [List.mem_append, not_or]
    exact ⟨hname '@' (by decide), hat⟩
  have hafter : (Authority.mk (String.ofList (front ++ rest))).afterUser = front ++ rest := by
    simp [afterUser, hno]
  have hbracket : (front ++ rest).head? ≠ some '[' := by
    cases front with
    | nil =>
      intro hhead
      exact absurd (hrest _ hhead) (by decide)
    | cons c front =>
      intro hhead
      exact hname '[' (by decide) (Option.some.inj hhead ▸ List.mem_cons_self)
  rw [host_eq, hafter, if_neg hbracket,
    Text.takeWhile_append_stop (fun c hc => ?_) fun c hc => by simp [hrest c hc]]
  have hne : c ≠ ':' := fun heq => hname ':' (by decide) (heq ▸ hc)
  simpa using hne

theorem host_of_bracket {rest : List Char} (hfree : FreeOf ['@', ']'] front) (hat : '@' ∉ rest) :
    (Authority.mk (String.ofList ('[' :: front ++ ']' :: rest))).host =
      String.ofList ('[' :: front ++ [']']) := by
  have hno : '@' ∉ '[' :: front ++ ']' :: rest := by
    have hfront := hfree '@' (by decide)
    simp [hfront, hat]
  have hafter : (Authority.mk (String.ofList ('[' :: front ++ ']' :: rest))).afterUser =
      '[' :: front ++ ']' :: rest := by
    simp only [afterUser, String.toList_ofList, List.contains_iff_mem, if_neg hno]
  have htake : ('[' :: front ++ ']' :: rest).takeWhile (· != ']') = '[' :: front := by
    refine Text.takeWhile_append_stop (fun c hc => ?_) (by rintro c ⟨⟩; rfl)
    rcases List.mem_cons.mp hc with rfl | hc
    · rfl
    · have hne : c ≠ ']' := fun heq => hfree ']' (by decide) (heq ▸ hc)
      simpa using hne
  have hbracket : ('[' :: front ++ ']' :: rest).head? = some '[' := rfl
  rw [host_eq, hafter, if_pos hbracket, htake]

def portChars (port : Option Nat) : List Char :=
  (port.map fun p => ':' :: Text.digits p).getD []

theorem at_notMem_portChars (port : Option Nat) : '@' ∉ portChars port := by
  intro hmem
  cases port with
  | none => exact absurd hmem List.not_mem_nil
  | some p =>
    rcases List.mem_cons.mp hmem with heq | hmem
    · exact absurd heq (by decide)
    · have hdigit := Nat.isDigit_of_mem_toDigits (by decide) (by decide) hmem
      exact absurd hdigit (by decide)

variable {port : Option Nat}

theorem port?_of_portChars {p : Nat} (hp : p ≤ 65535) :
    (Authority.mk (String.ofList (front ++ portChars (some p)))).port? =
      some (String.ofList (Text.digits p)) := by
  refine port?_of_colon (fun hmem => ?_) (isPortText_digits hp)
  exact absurd (Nat.isDigit_of_mem_toDigits (by decide) (by decide) hmem) (by decide)

theorem isBare_of_host (hport : ∀ p, port = some p → p ≤ 65535)
    (hhost : (Authority.mk (String.ofList (front ++ portChars port))).host = String.ofList front)
    (hnone : port = none → (Authority.mk (String.ofList front)).port? = none) :
    (Authority.mk (String.ofList (front ++ portChars port))).IsBare := by
  rw [IsBare, hostPort, hhost]
  cases port with
  | none =>
    have hnil : front ++ portChars none = front := List.append_nil front
    rw [hnil, hnone rfl]
    simp
  | some p =>
    rw [port?_of_portChars (hport p rfl)]
    simp [portChars]

theorem isBare_of_name (hname : FreeOf ['@', ':', '['] front)
    (hport : ∀ p, port = some p → p ≤ 65535) :
    (Authority.mk (String.ofList (front ++ portChars port))).IsBare := by
  refine isBare_of_host hport ?_ fun _ => port?_of_no_colon (hname ':' (by decide))
  refine host_of_name hname (fun c hc => ?_) ?_
  · cases port with
    | none => cases hc
    | some p => exact (Option.some.inj hc).symm
  · exact at_notMem_portChars port

theorem isBare_of_bracket (hfree : FreeOf ['@', ']'] front)
    (hport : ∀ p, port = some p → p ≤ 65535) :
    (Authority.mk (String.ofList ('[' :: front ++ [']'] ++ portChars port))).IsBare := by
  refine isBare_of_host hport ?_ fun _ => port?_of_bracket
  rw [List.append_assoc]
  exact host_of_bracket hfree (at_notMem_portChars port)

end Text

end Target.Authority

/-! ### The authority of a URL -/

namespace Url.Authority

variable {a : Url.Authority}

theorem at_mem_text (h : ¬ (a.username = "" ∧ a.password = "")) : '@' ∈ a.text := by
  have hinfo : '@' ∈ a.userinfo := by
    have hnot : ¬ (a.username.isEmpty && a.password.isEmpty) = true := by simpa using h
    rw [userinfo, if_neg hnot]
    simp
  rw [text, List.append_assoc, List.mem_append]
  exact .inl hinfo

/-- The text of an authority is its host and port exactly if it has no user. -/
theorem WellFormed.isBare_iff (ha : a.WellFormed) (hne : a.text ≠ []) :
    (Target.Authority.mk (String.ofList a.text)).IsBare ↔ a.username = "" ∧ a.password = "" := by
  by_cases huser : a.username = "" ∧ a.password = ""
  · refine ⟨fun _ => huser, fun _ => ?_⟩
    have htext : a.text =
        (a.host.map Host.text).getD [] ++ Target.Authority.portChars a.port := by
      rw [text, userinfo, huser.1, huser.2]
      rfl
    cases hhost : a.host with
    | none =>
      rw [hhost, (ha.hosted hhost).2.2] at htext
      exact absurd htext hne
    | some h =>
      rw [htext, hhost, Option.map_some, Option.getD_some]
      have hwell := ha.host h hhost
      cases h with
      | name s => exact Target.Authority.isBare_of_name (hwell.2.subset (by decide)) ha.port
      | v4 address =>
        have hfree : FreeOf ['@', ':', '['] (Host.dotted address) :=
          (Host.freeOf_dotted address).subset (by decide)
        exact Target.Authority.isBare_of_name hfree ha.port
      | v6 address =>
        exact Target.Authority.isBare_of_bracket (address.freeOf_text.subset (by decide)) ha.port
  · -- A user leaves an at sign in the text, which a host and a port do not show.
    refine ⟨fun hbare => ?_, fun h => absurd h huser⟩
    have htext : String.ofList a.text = (Target.Authority.mk (String.ofList a.text)).hostPort :=
      hbare
    have hat := (Target.Authority.mk (String.ofList a.text)).at_notMem_hostPort
    rw [← htext, String.toList_ofList] at hat
    exact absurd (at_mem_text huser) hat

end Url.Authority

end CloudReach
