import CloudReach.Proofs.HostPort
import CloudReach.Proofs.ResponsePolicy.Frame

/-!
# Moving a command to another host

A text that is no authority leaves a command where it is. Any other moves it, whatever the form of
its target: the parts that a target with this authority still needs are supplied, so that they can
always be put together. Of the headers only `Host` changes, and only where there is one; the text of
an authority can always be its value.
-/

namespace CloudReach

/-! ### The characters of an authority -/

namespace Target

theorem char_of_step {s s' : Scan} {c : Char} (h : Scan.step s c = .ok s') :
    c = '%' ∨ isAuthorityChar c = true := by
  by_cases hpercent : c = '%'
  · exact .inl hpercent
  · right
    by_cases hmark : c ∈ [':', '[', ']', '@']
    · have hmarks : ∀ c ∈ [':', '[', ']', '@'], isAuthorityChar c = true :=
        Text.forall_mem_of_all (by decide)
      exact hmarks c hmark
    · -- Any other character is looked up.
      simp only [List.mem_cons, List.not_mem_nil, or_false, not_or] at hmark
      obtain ⟨hcolon, hopen, hclose, hat⟩ := hmark
      unfold Scan.step at h
      simp only [beq_iff_eq, hcolon, hopen, hclose, hat, hpercent, if_false] at h
      split at h
      · assumption
      · cases h

theorem chars_of_foldlM_step {cs : List Char} {s s' : Scan}
    (h : cs.foldlM Scan.step s = .ok s') : ∀ c ∈ cs, c = '%' ∨ isAuthorityChar c = true := by
  induction cs generalizing s with
  | nil => exact fun c hc => absurd hc List.not_mem_nil
  | cons c cs ih =>
    rw [List.foldlM_cons] at h
    obtain ⟨s₁, hstep, hrest⟩ := bind_eq_ok_iff.mp h
    intro d hd
    rcases List.mem_cons.mp hd with rfl | hd
    · exact char_of_step hstep
    · exact ih hrest d hd

theorem chars_of_parse {text : String} {a : Authority} (h : Authority.parse text = .ok a) :
    ∀ c ∈ a.text.toList, c = '%' ∨ isAuthorityChar c = true := by
  obtain rfl : Authority.mk text = a := Authority.eq_of_parse h
  unfold Authority.parse at h
  split at h
  · cases h
  · obtain ⟨⟨front, rest⟩, hsplit, h⟩ := bind_eq_ok_iff.mp h
    obtain ⟨⟨⟩, hcheck, hfront⟩ := bind_eq_ok_iff.mp hsplit
    obtain ⟨s, hscan, -⟩ := bind_eq_ok_iff.mp hcheck
    cases hfront
    dsimp only at h
    split at h
    · -- Nothing is left behind the authority, so it is the whole text.
      rename_i hnil
      have hwhole : text.toList.takeWhile (fun c => !endsAuthority c) = text.toList := by
        have hfull := List.prefix_iff_eq_append.mp
          (List.takeWhile_prefix (l := text.toList) fun c => !endsAuthority c)
        rwa [List.isEmpty_iff.mp hnil, List.append_nil] at hfull
      have hchars := chars_of_foldlM_step hscan
      rwa [hwhole] at hchars
    · cases h

theorem isValue_of_parse {text : String} {a : Authority} (h : Authority.parse text = .ok a) :
    Headers.isValue a.text = true := by
  refine List.all_eq_true.mpr fun c hc => ?_
  by_cases hascii : c.toNat < 128
  · exact Text.forall_ascii
      (P := fun c => c = '%' ∨ isAuthorityChar c = true →
        (c == '\t' || 0x20 ≤ c.toNat && c.toNat ≠ 0x7F) = true)
      (by decide) hascii (chars_of_parse h c hc)
  · have hrange : 0x20 ≤ c.toNat ∧ c.toNat ≠ 0x7F := by omega
    simp [hrange]

end Target

/-! ### Commands -/

namespace Command

open Target (Authority)

structure MovedTo (c : Command) (a : Authority) (moved : Command) : Prop where
  scheme : moved.request.target.scheme = some (c.request.target.scheme.getD .https)
  authority : moved.request.target.authority = some a
  path : moved.request.target.path =
    if c.request.target.hasPath then c.request.target.path else "/"
  query : moved.request.target.query = c.request.target.query
  hosts : moved.request.headers.values hostHeader =
    if c.request.headers.contains hostHeader then [a.text] else []
  others : moved.request.headers.fields.filter (·.1 ≠ hostHeader) =
    c.request.headers.fields.filter (·.1 ≠ hostHeader)
  rest : { moved with
    request := { moved.request with
      target := c.request.target, headers := c.request.headers } } = c

theorem movedTo_setTarget (c : Command) (a : Authority) :
    c.MovedTo a (c.setTarget (rehost c.request.target a)) where
  scheme := rfl
  authority := rfl
  path := rfl
  query := rfl
  hosts := by
    cases hhost : c.request.headers.contains hostHeader with
    | true =>
      rw [values_setTarget c rfl hhost]
      rfl
    | false =>
      rw [headers_setTarget c rfl, if_neg (by simp [hhost])]
      exact (Headers.contains_eq_false_iff _ _).mp hhost
  others := by
    rw [headers_setTarget c rfl]
    split
    · exact Headers.filter_ne_setFields ..
    · rfl
  rest := rfl

/-- A text that is no authority is refused and moves nothing. Every authority moves the command, so
parts that cannot be put together never come up: scheme, path and query are kept, `https` and the
root stand for a scheme and a path that are missing, and the `Host` headers, where there are any,
are replaced by one with the authority, which is a value that a header can hold. Nothing else
changes. -/
theorem host_change_course (c : Command) (host : String) :
    (∀ e, Authority.parse host = .error e →
      c.changeHost host =
          .error (.unreadable s!"bad endpoint host {Text.quote host}: {e.message}") ∧
        (c.changeHost host).toOption.getD c = c) ∧
    ∀ a, Authority.parse host = .ok a →
      a.text = host ∧ Headers.isValue a.text = true ∧
        ∃ moved, c.changeHost host = .ok moved ∧ c.MovedTo a moved := by
  rw [changeHost_eq]
  constructor
  · intro e he
    rw [he]
    exact ⟨rfl, rfl⟩
  · intro a ha
    rw [ha]
    obtain rfl : Authority.mk host = a := Authority.eq_of_parse ha
    exact ⟨rfl, Target.isValue_of_parse ha, _, rfl, c.movedTo_setTarget _⟩

def inquiry : Command :=
  .ofRequest
    { method := "OPTIONS"
      target := { scheme := none, authority := none, path := "*", query := none }
      version := .http11
      headers := ⟨[(hostHeader, "a.example"), ("accept", "text/xml"), (hostHeader, "b.example")]⟩
      body := "" }

theorem inquiry_moved_to_port :
    Authority.parse "u@h.x:8443" = .ok ⟨"u@h.x:8443"⟩ ∧
      ∃ moved, inquiry.changeHost "u@h.x:8443" = .ok moved ∧
        moved.request.target.scheme = some .https ∧ moved.request.target.path = "*" ∧
        moved.request.headers.values hostHeader = ["u@h.x:8443"] := by
  have hparse : Authority.parse "u@h.x:8443" = .ok ⟨"u@h.x:8443"⟩ := by decide +kernel
  obtain ⟨-, -, moved, hmoved, h⟩ := (host_change_course inquiry "u@h.x:8443").2 _ hparse
  exact ⟨hparse, moved, hmoved, h.scheme, h.path, h.hosts⟩

end Command

end CloudReach
