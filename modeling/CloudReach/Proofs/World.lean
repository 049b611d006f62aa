import CloudReach.World

/-!
# Computations step by step

What each building block of a computation leaves in the trace, and how traces are read piece by
piece. `Only` says that a computation leaves nothing but effects of one kind, in whatever world it
is carried out.
-/

namespace CloudReach

namespace Effect

variable (l l' : List Effect)

@[simp] theorem events_append : events (l ++ l') = events l ++ events l' :=
  List.filterMap_append

@[simp] theorem sleeps_append : sleeps (l ++ l') = sleeps l ++ sleeps l' :=
  List.filterMap_append

@[simp] theorem requests_append : requests (l ++ l') = requests l ++ requests l' :=
  List.filterMap_append

@[simp] theorem zoneListings_append :
    zoneListings (l ++ l') = zoneListings l ++ zoneListings l' :=
  List.filterMap_append

@[simp] theorem checks_append : checks (l ++ l') = checks l + checks l' :=
  List.countP_append

end Effect

namespace Act

variable {σ τ α β : Type}

@[simp] theorem run_pure (x : α) (s : σ) : (Pure.pure x : Act σ α).run s = ([], some (x, s)) :=
  rfl

theorem run_bind_of_some {a : Act σ α} {s s' : σ} {trace : List Effect} {x : α}
    (h : a.run s = (trace, some (x, s'))) (f : α → Act σ β) :
    (a >>= f).run s = (trace ++ ((f x).run s').1, ((f x).run s').2) := by
  change Act.bind a f s = _
  rw [Act.bind, show a s = _ from h]
  rfl

theorem run_bind_of_none {a : Act σ α} {s : σ} {trace : List Effect}
    (h : a.run s = (trace, none)) (f : α → Act σ β) : (a >>= f).run s = (trace, none) := by
  change Act.bind a f s = _
  rw [Act.bind, show a s = _ from h]

/-- What precedes the run of a computation precedes that of whatever begins with it. -/
theorem run_bind_of_prefix {a : Act σ α} {s t : σ} {l : List Effect}
    (h : a.run s = (l ++ (a.run t).1, (a.run t).2)) (f : α → Act σ β) :
    (a >>= f).run s = (l ++ ((a >>= f).run t).1, ((a >>= f).run t).2) := by
  rcases hr : a.run t with ⟨trace, _ | ⟨x, t'⟩⟩
  all_goals rw [hr] at h
  · rw [run_bind_of_none h, run_bind_of_none hr]
  · rw [run_bind_of_some h, run_bind_of_some hr, List.append_assoc]

@[simp] theorem run_note_bind (e : Effect) (f : Unit → Act σ β) (s : σ) :
    (note e >>= f).run s = (e :: ((f ()).run s).1, ((f ()).run s).2) := rfl

@[simp] theorem run_emit_bind (e : Event) (f : Unit → Act σ β) (s : σ) :
    (emit e >>= f).run s = (.emitted e :: ((f ()).run s).1, ((f ()).run s).2) := rfl

@[simp] theorem run_sleep_bind (d : Duration) (f : Unit → Act σ β) (s : σ) :
    (sleep d >>= f).run s = (.slept d :: ((f ()).run s).1, ((f ()).run s).2) := rfl

@[simp] theorem run_step_bind (g : σ → α × σ) (f : α → Act σ β) (s : σ) :
    (step g >>= f).run s = (f (g s).1).run (g s).2 := rfl

theorem run_onFirst (a : Act σ α) (s : σ × τ) :
    a.onFirst.run s = ((a.run s.1).1, (a.run s.1).2.map fun r => (r.1, r.2, s.2)) := by
  change onFirst a s = _
  rw [onFirst]
  rcases h : a s.1 with ⟨trace, _ | ⟨x, t⟩⟩ <;> rw [run, h] <;> rfl

theorem run_onFirst_of_some {a : Act σ α} {s : σ × τ} {t : σ} {trace : List Effect} {x : α}
    (h : a.run s.1 = (trace, some (x, t))) : a.onFirst.run s = (trace, some (x, t, s.2)) := by
  rw [run_onFirst, h]
  rfl

theorem run_onFirst_of_none {a : Act σ α} {s : σ × τ} {trace : List Effect}
    (h : a.run s.1 = (trace, none)) : a.onFirst.run s = (trace, none) := by
  rw [run_onFirst, h]
  rfl

/-- A computation whose value is made into another one. -/
theorem run_bind_pure (a : Act σ α) (f : α → β) (s : σ) :
    (a >>= fun x => Pure.pure (f x)).run s =
      ((a.run s).1, (a.run s).2.map fun r => (f r.1, r.2)) := by
  rcases h : a.run s with ⟨trace, _ | ⟨x, s'⟩⟩
  · exact run_bind_of_none h _
  · rw [run_bind_of_some h, run_pure, List.append_nil]
    rfl

/-- A computation in a part of the world, followed by one that leaves no trace and ends. -/
theorem run_onFirst_bind_of_quiet {f : α → Act (σ × τ) β} {g : α → σ × τ → β × σ × τ}
    (hf : ∀ x w, (f x).run w = ([], some (g x w))) (a : Act σ α) (w : σ × τ) :
    (a.onFirst >>= f).run w = ((a.run w.1).1, (a.run w.1).2.map fun r => g r.1 (r.2, w.2)) := by
  rcases h : a.run w.1 with ⟨trace, _ | ⟨x, s⟩⟩
  · exact run_bind_of_none (run_onFirst_of_none h) f
  · rw [run_bind_of_some (run_onFirst_of_some h), hf, List.append_nil]
    rfl

theorem ext {a b : Act σ α} (h : ∀ s, a.run s = b.run s) : a = b :=
  funext h

theorem bind_pure_self (a : Act σ α) : a >>= Pure.pure = a := by
  refine Act.ext fun s => ?_
  rcases h : a.run s with ⟨trace, _ | ⟨x, s'⟩⟩
  · rw [run_bind_of_none h]
  · rw [run_bind_of_some h, run_pure, List.append_nil]

theorem bind_bind {γ : Type} (a : Act σ α) (f : α → Act σ β) (g : β → Act σ γ) :
    a >>= f >>= g = a >>= fun x => f x >>= g := by
  refine Act.ext fun s => ?_
  rcases h : a.run s with ⟨trace, _ | ⟨x, s'⟩⟩
  · rw [run_bind_of_none h, run_bind_of_none (run_bind_of_none h f)]
  · rw [run_bind_of_some h]
    rcases hf : (f x).run s' with ⟨trace', _ | ⟨y, s''⟩⟩
    · rw [run_bind_of_none hf, run_bind_of_none (by rw [run_bind_of_some h, hf])]
    · rw [run_bind_of_some hf, run_bind_of_some (by rw [run_bind_of_some h, hf]),
        List.append_assoc]

instance : LawfulMonad (Act σ) :=
  LawfulMonad.mk' _ bind_pure_self (fun _ _ => rfl) bind_bind

theorem onFirst_bind (a : Act σ α) (f : α → Act σ β) :
    (a >>= f).onFirst (τ := τ) = a.onFirst >>= fun x => (f x).onFirst := by
  refine Act.ext fun s => ?_
  rcases h : a.run s.1 with ⟨trace, _ | ⟨x, t⟩⟩
  · rw [run_bind_of_none (run_onFirst_of_none h), run_onFirst_of_none (run_bind_of_none h f)]
  · rw [run_bind_of_some (run_onFirst_of_some h)]
    rcases hf : (f x).run t with ⟨trace', _ | ⟨y, t'⟩⟩
    · rw [run_onFirst_of_none (by rw [run_bind_of_some h, hf]),
        run_onFirst_of_none (s := (t, s.2)) hf]
    · rw [run_onFirst_of_some (by rw [run_bind_of_some h, hf]),
        run_onFirst_of_some (s := (t, s.2)) hf]

/-- The computation with nobody watching: it does what it does and leaves no trace. -/
def silenced (a : Act σ α) : Act σ α := fun s => ([], (a.run s).2)

theorem run_silenced (a : Act σ α) (s : σ) : a.silenced.run s = ([], (a.run s).2) := rfl

theorem run_bind_snd_congr {a b : Act σ α} {f g : α → Act σ β}
    (h : ∀ s, (a.run s).2 = (b.run s).2) (hf : ∀ x s, ((f x).run s).2 = ((g x).run s).2) (s : σ) :
    ((a >>= f).run s).2 = ((b >>= g).run s).2 := by
  have hs := h s
  rcases ha : a.run s with ⟨l, _ | ⟨x, s'⟩⟩ <;> rcases hb : b.run s with ⟨l', _ | ⟨x', t⟩⟩
  all_goals
    rw [ha, hb] at hs
    cases hs
  · rw [run_bind_of_none ha, run_bind_of_none hb]
  · rw [run_bind_of_some ha, run_bind_of_some hb]
    exact hf x s'

theorem run_onFirst_silenced_snd (a : Act σ α) (s : σ × τ) :
    (a.silenced.onFirst.run s).2 = (a.onFirst.run s).2 := by
  rw [run_onFirst, run_onFirst, run_silenced]

/-- The computation leaves no effects but those of one kind. -/
def Only (P : Effect → Prop) (a : Act σ α) : Prop :=
  ∀ s, ∀ e ∈ (a.run s).1, P e

namespace Only

variable {P : Effect → Prop}

theorem pure (x : α) : Only P (Pure.pure x : Act σ α) :=
  fun _ _ h => nomatch h

theorem step (f : σ → α × σ) : Only P (Act.step f) :=
  fun _ _ h => nomatch h

theorem silenced (a : Act σ α) : Only P a.silenced :=
  fun _ _ h => nomatch h

theorem note {e : Effect} (h : P e) : Only P (Act.note e : Act σ Unit) := by
  intro s e' he
  rwa [List.mem_singleton.mp he]

theorem bind {a : Act σ α} {f : α → Act σ β} (ha : Only P a) (hf : ∀ x, Only P (f x)) :
    Only P (a >>= f) := by
  intro s e he
  rcases h : a.run s with ⟨trace, _ | ⟨x, s'⟩⟩
  · rw [run_bind_of_none h] at he
    exact ha s e (by rwa [h])
  · rw [run_bind_of_some h] at he
    rcases List.mem_append.mp he with he | he
    · exact ha s e (by rwa [h])
    · exact hf x s' e he

theorem onFirst {a : Act σ α} (ha : Only P a) : Only P (a.onFirst (τ := τ)) := by
  intro s e he
  rw [run_onFirst] at he
  exact ha s.1 e he

end Only

end Act

end CloudReach
