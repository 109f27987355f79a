import Mathlib.Data.List.Forall2

/-! Computations with a state that stays changed when they fail: what a run of each comes to. -/
namespace Scaffold

variable {ε ε' σ α β : Type} {b : ExceptT ε (StateM σ) α}

theorem run_pure (a : α) (s : σ) : (pure a : ExceptT ε (StateM σ) α).run s = (.ok a, s) := rfl

theorem run_liftM (a : Except ε α) (s : σ) :
    (liftM a : ExceptT ε (StateM σ) α).run s = (a, s) := rfl

theorem run_getThe (s : σ) : (getThe σ : ExceptT ε (StateM σ) σ).run s = (.ok s, s) := rfl

theorem run_bind (f : α → ExceptT ε (StateM σ) β) (s : σ) :
    (b >>= f).run s = match b.run s with
      | (.ok a, s') => (f a).run s'
      | (.error e, s') => (.error e, s') := by
  change (ExceptT.bindCont f (b.run s).1) (b.run s).2 = _
  generalize b.run s = r
  obtain ⟨r | r, s'⟩ := r <;> rfl

theorem run_bind_of_ok {a : α} {s s' : σ} (h : b.run s = (.ok a, s'))
    (f : α → ExceptT ε (StateM σ) β) : (b >>= f).run s = (f a).run s' := by
  rw [run_bind, h]

theorem run_tryCatch (h : ε → ExceptT ε (StateM σ) α) (s : σ) :
    (tryCatch b h).run s = match b.run s with
      | (.ok a, s') => (.ok a, s')
      | (.error e, s') => (h e).run s' := by
  change (match (b.run s).1 with
    | Except.ok a => (Pure.pure (Except.ok a) : StateM σ (Except ε α))
    | Except.error e => (h e).run) (b.run s).2 = _
  generalize b.run s = r
  obtain ⟨r | r, s'⟩ := r <;> rfl

theorem run_adapt (f : ε → ε') (s : σ) :
    (ExceptT.adapt f b).run s = ((b.run s).1.mapError f, (b.run s).2) := rfl

theorem mapM_congr {m : Type → Type} [Monad m] [LawfulMonad m] {f g : α → m β} {xs : List α}
    (h : ∀ x ∈ xs, f x = g x) : xs.mapM f = xs.mapM g := by
  induction xs with
  | nil => rfl
  | cons x xs ih =>
    obtain ⟨hx, hxs⟩ := List.forall_mem_cons.mp h
    rw [List.mapM_cons, List.mapM_cons, hx, ih hxs]

theorem bind_eq_ok_iff {x : Except ε α} {f : α → Except ε β} {b : β} :
    x >>= f = .ok b ↔ ∃ a, x = .ok a ∧ f a = .ok b := by
  cases x with
  | error e =>
    change Except.error e = .ok b ↔ _
    simp
  | ok a =>
    change f a = .ok b ↔ _
    simp

theorem mapError_id (x : Except ε α) : x.mapError id = x := by
  cases x <;> rfl

/-- Where all failures are taken for the same, computations are alike if they give the same
results. -/
theorem mapError_const_eq_iff {x : Except ε α} {y : Except ε' α} (c : β) :
    x.mapError (fun _ => c) = y.mapError (fun _ => c) ↔ ∀ a, x = .ok a ↔ y = .ok a := by
  cases x <;> cases y <;> simp [Except.mapError]

theorem mapError_bind (g : ε → ε') (x : Except ε α) (f : α → Except ε β) :
    (x >>= f).mapError g = x.mapError g >>= fun a => (f a).mapError g := by
  cases x <;> rfl

theorem mapError_bind_congr {g : ε → ε'} {x y : Except ε α} {f h : α → Except ε β}
    (hx : x.mapError g = y.mapError g) (hf : ∀ a, (f a).mapError g = (h a).mapError g) :
    (x >>= f).mapError g = (y >>= h).mapError g := by
  rw [mapError_bind, mapError_bind, hx]
  simp only [hf]

theorem mapError_mapM (g : ε → ε') (f : α → Except ε β) (xs : List α) :
    (xs.mapM f).mapError g = xs.mapM fun x => (f x).mapError g := by
  induction xs with
  | nil => rfl
  | cons x xs ih =>
    rw [List.mapM_cons, List.mapM_cons, mapError_bind, ← ih]
    congr 1
    funext y
    rw [mapError_bind]
    rfl

/-- A sequence of two computations fails where the first one does, or where the second one does. -/
theorem bind_eq_error_iff {x : Except ε α} {f : α → Except ε β} {e : ε} :
    x >>= f = .error e ↔ x = .error e ∨ ∃ a, x = .ok a ∧ f a = .error e := by
  cases x with
  | error e' =>
    change Except.error e' = .error e ↔ _
    simp
  | ok a =>
    change f a = .error e ↔ _
    simp

theorem map_eq_error_iff {x : Except ε α} {f : α → β} {e : ε} :
    x.map f = .error e ↔ x = .error e := by
  cases x <;> simp [Except.map]

theorem mapError_eq_error_iff {g : ε → ε'} {x : Except ε α} {e : ε'} :
    x.mapError g = .error e ↔ ∃ e', x = .error e' ∧ g e' = e := by
  cases x <;> simp [Except.mapError]

/-- A computation over a list succeeds at every element, or it fails at the first element at which
it can. -/
theorem mapM_except_cases (f : α → Except ε β) (xs : List α) :
    (∃ ys, xs.mapM f = .ok ys ∧ List.Forall₂ (fun x y => f x = .ok y) xs ys) ∨
      ∃ before x after e, xs = before ++ x :: after ∧ (∀ y ∈ before, ∃ z, f y = .ok z) ∧
        f x = .error e ∧ xs.mapM f = .error e := by
  induction xs with
  | nil => exact .inl ⟨[], rfl, .nil⟩
  | cons x xs ih =>
    rw [List.mapM_cons]
    cases hx : f x with
    | error e => exact .inr ⟨[], x, xs, e, rfl, by simp, hx, rfl⟩
    | ok y =>
      rcases ih with ⟨ys, hxs, hall⟩ | ⟨before, x', after, e, rfl, hbefore, hx', hxs⟩
      · exact .inl ⟨y :: ys, by rw [hxs]; rfl, .cons hx hall⟩
      · exact .inr ⟨x :: before, x', after, e, rfl, List.forall_mem_cons.mpr ⟨⟨y, hx⟩, hbefore⟩,
          hx', by rw [hxs]; rfl⟩

/-- A computation over a list succeeds if it does at every element. -/
theorem exists_mapM_eq_ok_iff {f : α → Except ε β} {xs : List α} :
    (∃ ys, xs.mapM f = .ok ys) ↔ ∀ x ∈ xs, ∃ y, f x = .ok y := by
  rcases mapM_except_cases f xs with ⟨ys, hys, hall⟩ | ⟨before, x, after, e, rfl, -, hx, herror⟩
  · refine ⟨fun _ x hx => ?_, fun _ => ⟨ys, hys⟩⟩
    obtain ⟨i, hi, rfl⟩ := List.mem_iff_getElem.mp hx
    exact ⟨_, (List.forall₂_iff_get.mp hall).2 i hi ((List.forall₂_iff_get.mp hall).1 ▸ hi)⟩
  · simp only [herror, reduceCtorEq, exists_false, false_iff, not_forall]
    exact ⟨x, by simp, by simp [hx]⟩

end Scaffold
