import Mathlib.Data.List.Forall2

/-!
# Steps that can fail

A list of steps that can fail succeeds exactly if every step does, and then has one result for
each. Where a step fails or not whatever came before it, the same holds of a fold.
-/

namespace TagAudit.Failure

variable {ε α β σ : Type}

/-- What is left of a step that succeeds is its result. -/
theorem toOption_eq_some_iff {e : Except ε α} {a : α} : e.toOption = some a ↔ e = .ok a := by
  cases e <;> simp [Except.toOption]

/-- A mapped result comes from a result. -/
theorem map_eq_ok_iff {f : α → β} {e : Except ε α} {b : β} :
    e.map f = .ok b ↔ ∃ a, e = .ok a ∧ f a = b := by
  cases e <;> simp [Except.map]

/-- A sequence of two steps has a result through a result of the first. -/
theorem bind_eq_ok_iff {f : α → Except ε β} {e : Except ε α} {b : β} :
    e.bind f = .ok b ↔ ∃ a, e = .ok a ∧ f a = .ok b := by
  cases e <;> simp [Except.bind]

/-- A sequence of two steps fails in the first, or in the second with a result of the first. -/
theorem bind_eq_error_iff {f : α → Except ε β} {e : Except ε α} {fault : ε} :
    e.bind f = .error fault ↔ e = .error fault ∨ ∃ a, e = .ok a ∧ f a = .error fault := by
  cases e <;> simp [Except.bind]

/-- The results of steps belong to the steps one by one. -/
theorem mapM_eq_ok_iff {f : α → Except ε β} {xs : List α} {ys : List β} :
    xs.mapM f = .ok ys ↔ List.Forall₂ (fun x y => f x = .ok y) xs ys := by
  induction xs generalizing ys with
  | nil => cases ys <;> simp [pure, Except.pure]
  | cons x xs ih =>
    rw [List.mapM_cons]
    cases hx : f x with
    | error e => cases ys <;> simp [bind, Except.bind, hx]
    | ok y =>
      cases hxs : xs.mapM f with
      | error e => cases ys <;> simp [bind, Except.bind, hx, ← ih, hxs]
      | ok rest => cases ys <;> simp [bind, Except.bind, pure, Except.pure, hx, ← ih, hxs]

/-- Every result is the result of some step. -/
theorem exists_of_mem_mapM {f : α → Except ε β} {xs : List α} {ys : List β} {y : β}
    (h : xs.mapM f = .ok ys) (hy : y ∈ ys) : ∃ x ∈ xs, f x = .ok y := by
  have hf := mapM_eq_ok_iff.mp h
  induction hf with
  | nil => simp at hy
  | cons hxy hrest ih =>
    rcases List.mem_cons.mp hy with rfl | hy
    · exact ⟨_, List.mem_cons_self .., hxy⟩
    · obtain ⟨x, hx, he⟩ := ih (mapM_eq_ok_iff.mpr hrest) hy
      exact ⟨x, List.mem_cons_of_mem _ hx, he⟩

/-- Steps fail together only for the fault of one of them. -/
theorem exists_of_mapM_eq_error {f : α → Except ε β} {xs : List α} {fault : ε}
    (h : xs.mapM f = .error fault) : ∃ x ∈ xs, f x = .error fault := by
  induction xs with
  | nil => cases h
  | cons x xs ih =>
    rw [List.mapM_cons] at h
    rcases bind_eq_error_iff.mp h with hx | ⟨y, -, hrest⟩
    · exact ⟨x, List.mem_cons_self .., hx⟩
    · rcases bind_eq_error_iff.mp hrest with hxs | ⟨ys, -, hys⟩
      · obtain ⟨z, hz, hfault⟩ := ih hxs
        exact ⟨z, List.mem_cons_of_mem _ hz, hfault⟩
      · cases hys

/-- A fold of steps fails only for the fault of one of them. -/
theorem exists_of_foldlM_eq_error {f : σ → α → Except ε σ} {xs : List α} {s : σ} {fault : ε}
    (h : xs.foldlM f s = .error fault) : ∃ t, ∃ x ∈ xs, f t x = .error fault := by
  induction xs generalizing s with
  | nil => cases h
  | cons x xs ih =>
    rw [List.foldlM_cons] at h
    rcases bind_eq_error_iff.mp h with hx | ⟨next, -, hrest⟩
    · exact ⟨s, x, List.mem_cons_self .., hx⟩
    · obtain ⟨t, y, hy, hfault⟩ := ih hrest
      exact ⟨t, y, List.mem_cons_of_mem _ hy, hfault⟩

/-- Steps that keep what they are taken for give a list of the same things in the same order. -/
theorem map_eq_of_mapM {f : α → Except ε β} {g : β → α} {xs : List α} {ys : List β}
    (h : xs.mapM f = .ok ys) (hg : ∀ x y, f x = .ok y → g y = x) : ys.map g = xs := by
  induction mapM_eq_ok_iff.mp h with
  | nil => rfl
  | cons hxy hrest ih =>
    rw [List.map_cons, hg _ _ hxy, ih (mapM_eq_ok_iff.mpr hrest)]

@[simp] theorem isOk_ok (a : α) : (.ok a : Except ε α).isOk = true := rfl

@[simp] theorem isOk_error (e : ε) : (.error e : Except ε α).isOk = false := rfl

/-- A step that succeeds has a result. -/
theorem exists_of_isOk {e : Except ε α} (h : e.isOk = true) : ∃ a, e = .ok a := by
  cases e with
  | error _ => cases h
  | ok a => exact ⟨a, rfl⟩

/-- Something is left of a step exactly if it succeeds. -/
theorem isSome_toOption (e : Except ε α) : e.toOption.isSome = e.isOk := by
  cases e <;> rfl

@[simp] theorem isOk_map (f : α → β) (e : Except ε α) : (e.map f).isOk = e.isOk := by
  cases e <;> rfl

/-- Two steps, the second of which never fails, succeed if the first does. -/
theorem isOk_bind_of_forall {f : α → Except ε β} (hf : ∀ a, (f a).isOk = true)
    (e : Except ε α) : (e.bind f).isOk = e.isOk := by
  cases e with
  | error _ => rfl
  | ok a => exact hf a

/-- Steps succeed together exactly if each of them does. -/
theorem isOk_mapM (f : α → Except ε β) (xs : List α) :
    (xs.mapM f).isOk = xs.all fun x => (f x).isOk := by
  induction xs with
  | nil => rfl
  | cons x xs ih =>
    rw [List.mapM_cons, List.all_cons, ← ih]
    cases f x with
    | error _ => rfl
    | ok y => cases xs.mapM f <;> rfl

/-- A fold of steps whose success does not depend on the state succeeds exactly if each does. -/
theorem isOk_foldlM {f : σ → α → Except ε σ} {succeeds : α → Bool}
    (hf : ∀ s x, (f s x).isOk = succeeds x) (xs : List α) (s : σ) :
    (xs.foldlM f s).isOk = xs.all succeeds := by
  induction xs generalizing s with
  | nil => rfl
  | cons x xs ih =>
    rw [List.foldlM_cons, List.all_cons, ← hf s x]
    cases f s x with
    | error _ => rfl
    | ok next => exact ih next

/-- A search that stops at the first hit meets nothing bad: no element up to the first hit, the hit
included, is bad. -/
def SoundUntil (bad hit : α → Prop) (xs : List α) : Prop :=
  ∀ before x after, xs = before ++ x :: after → (∀ y ∈ before, ¬ hit y) → ¬ bad x

theorem soundUntil_nil (bad hit : α → Prop) : SoundUntil bad hit [] := by
  intro before x after h
  simp at h

/-- A search meets nothing bad if its first element is sound and, unless that is a hit, the rest of
the search meets nothing bad. -/
theorem soundUntil_cons_iff {bad hit : α → Prop} {x : α} {xs : List α} :
    SoundUntil bad hit (x :: xs) ↔ ¬ bad x ∧ (¬ hit x → SoundUntil bad hit xs) := by
  constructor
  · intro h
    refine ⟨h [] x xs rfl (by simp), fun hx before y after hs hb => ?_⟩
    refine h (x :: before) y after (by rw [hs, List.cons_append]) fun z hz => ?_
    rcases List.mem_cons.mp hz with rfl | hz
    · exact hx
    · exact hb z hz
  · rintro ⟨hx, hrest⟩ before y after hs hb
    cases before with
    | nil =>
      obtain ⟨rfl, rfl⟩ := List.cons.inj hs
      exact hx
    | cons z before =>
      obtain ⟨rfl, ht⟩ := List.cons.inj hs
      exact hrest (hb x (List.mem_cons_self ..)) before y after ht
        fun w hw => hb w (List.mem_cons_of_mem _ hw)

end TagAudit.Failure
