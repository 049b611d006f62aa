import CloudReach.Proofs.Outcome
import CloudReach.Url.Parse

/-!
# What reading can give

Every URL that is read has come about in one of six ways. What holds of all URLs that are read is
shown once for each of them.
-/

namespace CloudReach.Url

def SchemeOn (base : Option Url) (scheme : String) : Prop :=
  (∃ text rest, splitScheme? text = some (scheme, rest)) ∨ ∃ b, base = some b ∧ b.scheme = scheme

/-- The ways in which a URL can be read on a base, or on none. -/
inductive ReadOn (base : Option Url) : Url → Prop
  | afterSlashes {scheme : String} {s : List Char} {u : Url} (hscheme : SchemeOn base scheme)
      (hu : readAfterSlashes scheme (schemeKind scheme) s = .ok u) : ReadOn base u
  | plain {scheme : String} {s : List Char} {u : Url} (hscheme : SchemeOn base scheme)
      (hkind : schemeKind scheme = .plain) (hu : readPlain scheme s = .ok u) : ReadOn base u
  /-- With a path of its own, which starts over or goes on where that of the base ends. -/
  | withPath {b : Url} {done : List String} (hbase : base = some b)
      (hdone : done = [] ∨ done = baseSegments (schemeKind b.scheme) b) (s : List Char) :
      ReadOn base (withPath (schemeKind b.scheme) b done s)
  | withoutPath {b : Url} (hbase : base = some b) (kind : SchemeKind) (s : List Char) :
      ReadOn base (withoutPath kind b s)
  /-- A local file, perhaps on the drive of the base. -/
  | localFile {segments : List String}
      (hsegments : ∀ s ∈ segments, ∃ b, base = some b ∧ s ∈ b.path.segments) (s : List Char) :
      ReadOn base (localFile segments s)
  | fileAuthority {s : List Char} {u : Url} (hu : readFileAuthority s = .ok u) : ReadOn base u

variable {base : Option Url} {s : List Char} {u : Url}

theorem ReadOn.startedOver {b : Url} (hbase : base = some b) (s : List Char) :
    ReadOn base (Url.withPath (schemeKind b.scheme) b [] s) :=
  .withPath hbase (.inl rfl) s

theorem ReadOn.nowhere (s : List Char) : ReadOn base (Url.localFile [] s) :=
  .localFile (fun _ hs => absurd hs List.not_mem_nil) s

theorem readOn_of_readRelative {b : Url} (hbase : base = some b)
    (hs : readRelative (schemeKind b.scheme) b s = .ok u) : ReadOn base u := by
  have hscheme : SchemeOn base b.scheme := .inr ⟨b, hbase, rfl⟩
  unfold readRelative at hs
  dsimp only at hs
  split at hs
  · exact .afterSlashes hscheme hs
  · split at hs
    · split at hs
      · split at hs
        · exact .afterSlashes hscheme hs
        · cases hs
          exact .startedOver hbase _
      · cases hs
        exact .startedOver hbase _
    · split at hs
      · cases hs
        exact .withoutPath hbase _ _
      · cases hs
        exact .withPath hbase (.inr rfl) _
  · cases hs
    exact .withoutPath hbase _ _

/-- A file is read on a base only if that is a file. -/
theorem readOn_of_readFile {fileBase : Option Url}
    (hfile : ∀ b, fileBase = some b → base = some b ∧ schemeKind b.scheme = .file)
    (hs : readFile fileBase s = .ok u) : ReadOn base u := by
  have withPath (b : Url) (hb : fileBase = some b) (done : List String)
      (hdone : done = [] ∨ done = baseSegments .file b) (s : List Char) :
      ReadOn base (Url.withPath .file b done s) := by
    obtain ⟨hbase, hkind⟩ := hfile b hb
    rw [← hkind] at hdone ⊢
    exact .withPath hbase hdone s
  have oneSlash (rest : List Char) : ReadOn base (readFile.oneSlash fileBase rest) := by
    unfold readFile.oneSlash
    split
    · exact .nowhere _
    · rename_i b
      split
      · exact .nowhere _
      · split
        · rename_i first segments hsegments
          split
          · refine .localFile (fun s hs => ⟨b, (hfile b rfl).1, ?_⟩) _
            exact List.mem_singleton.mp hs ▸ hsegments ▸ List.mem_cons_self
          · exact withPath b rfl [] (.inl rfl) _
        · exact withPath b rfl [] (.inl rfl) _
  unfold readFile at hs
  dsimp only at hs
  split at hs
  · split at hs
    · split at hs
      · split at hs
        · exact .fileAuthority hs
        · cases hs
          exact oneSlash _
      · cases hs
        exact oneSlash _
    · split at hs
      · cases hs
        exact .nowhere _
      · rename_i b
        split at hs
        · cases hs
          exact .withoutPath (hfile b rfl).1 _ _
        · split at hs
          · cases hs
            exact .nowhere _
          · cases hs
            exact withPath b rfl _ (.inr rfl) _
  · split at hs
    · cases hs
      exact .nowhere _
    · rename_i b
      cases hs
      exact .withoutPath (hfile b rfl).1 _ _

theorem readOn_of_read (hs : read base s = .ok u) : ReadOn base u := by
  unfold read at hs
  split at hs
  · rename_i scheme rest hsplit
    have hscheme : SchemeOn base scheme := .inl ⟨s, rest, hsplit⟩
    split at hs
    · refine readOn_of_readFile (fun b hb => ?_) hs
      obtain ⟨hbase, hfile⟩ := Option.filter_eq_some_iff.mp hb
      exact ⟨hbase, by rw [beq_iff_eq.mp hfile]; rfl⟩
    · rename_i hkind
      dsimp only at hs
      split at hs
      · rename_i b
        split at hs
        · rename_i hsame
          have hsame : b.scheme = scheme := beq_iff_eq.mp (Bool.and_eq_true_iff.mp hsame).2
          rw [← hkind, ← hsame] at hs
          exact readOn_of_readRelative rfl hs
        · exact .afterSlashes hscheme (hkind ▸ hs)
      · exact .afterSlashes hscheme (hkind ▸ hs)
    · rename_i hkind
      exact .plain hscheme hkind hs
  · split at hs
    · cases hs
    · rename_i b
      split at hs
      · cases hs
        exact .withoutPath rfl _ _
      · split at hs
        · cases hs
        · split at hs
          · rename_i hkind
            exact readOn_of_readFile (by rintro _ ⟨⟩; exact ⟨rfl, hkind⟩) hs
          · exact readOn_of_readRelative rfl hs

end CloudReach.Url
