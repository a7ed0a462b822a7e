import Mathlib.Data.List.Perm.Basic
import TagAudit.Proofs.Failure

/-!
# Steps that agree

Two steps agree in a relation if both fail, or both succeed and their results are related. Steps
that are taken in another order agree: all of them succeed or not, and the results are the same in
another order.
-/

namespace TagAudit.Failure

variable {ε α β γ δ : Type} {R : α → β → Prop}

/-- Agreement is kept by functions that keep the relation. -/
theorem rel_map {S : γ → δ → Prop} {f : α → γ} {g : β → δ} {x : Option α} {y : Option β}
    (h : Option.Rel R x y) (hfg : ∀ a b, R a b → S (f a) (g b)) :
    Option.Rel S (x.map f) (y.map g) := by
  cases h with
  | none => exact .none
  | some hab => exact .some (hfg _ _ hab)

/-- Functions of one result agree where their values are related. -/
theorem rel_map_self {S : γ → δ → Prop} {f : α → γ} {g : α → δ} (hfg : ∀ a, S (f a) (g a))
    (x : Option α) : Option.Rel S (x.map f) (x.map g) := by
  cases x with
  | none => exact .none
  | some a => exact .some (hfg a)

/-- Agreement is kept by sequences of steps that agree. -/
theorem rel_bind {S : γ → δ → Prop} {f : α → Option γ} {g : β → Option δ} {x : Option α}
    {y : Option β} (h : Option.Rel R x y) (hfg : ∀ a b, R a b → Option.Rel S (f a) (g b)) :
    Option.Rel S (x.bind f) (y.bind g) := by
  cases h with
  | none => exact .none
  | some hab => exact hfg _ _ hab

/-- What related results have in common. -/
theorem map_eq_of_rel {f : α → γ} {g : β → γ} {x : Option α} {y : Option β}
    (h : Option.Rel R x y) (hfg : ∀ a b, R a b → f a = g b) : x.map f = y.map g := by
  cases h with
  | none => rfl
  | some hab => exact congrArg some (hfg _ _ hab)

/-- Both have a result or neither has. -/
theorem isNone_eq_of_rel {x : Option α} {y : Option β} (h : Option.Rel R x y) :
    x.isNone = y.isNone := by
  cases h <;> rfl

theorem toOption_map (f : α → β) (e : Except ε α) : (e.map f).toOption = e.toOption.map f := by
  cases e <;> rfl

theorem toOption_bind (e : Except ε α) (f : α → Except ε β) :
    (e.bind f).toOption = e.toOption.bind fun a => (f a).toOption := by
  cases e <;> rfl

/-- The results of steps are those of the steps that succeed, where all do. -/
theorem eq_filterMap_of_mapM {f : α → Except ε β} {xs : List α} {ys : List β}
    (h : xs.mapM f = .ok ys) : ys = xs.filterMap fun x => (f x).toOption := by
  induction mapM_eq_ok_iff.mp h with
  | nil => rfl
  | cons hxy hrest ih =>
    rw [List.filterMap_cons, toOption_eq_some_iff.mpr hxy, ← ih (mapM_eq_ok_iff.mpr hrest)]

/-- Steps in another order agree. -/
theorem rel_mapM_of_perm (f : α → Except ε β) {xs ys : List α} (h : xs.Perm ys) :
    Option.Rel List.Perm (xs.mapM f).toOption (ys.mapM f).toOption := by
  have hok : (xs.mapM f).isOk = (ys.mapM f).isOk := by rw [isOk_mapM, isOk_mapM, h.all_eq]
  cases hx : xs.mapM f with
  | error fault =>
    cases hy : ys.mapM f with
    | error other => exact .none
    | ok results => simp [hx, hy] at hok
  | ok results =>
    cases hy : ys.mapM f with
    | error fault => simp [hx, hy] at hok
    | ok others =>
      refine .some ?_
      rw [eq_filterMap_of_mapM hx, eq_filterMap_of_mapM hy]
      exact h.filterMap _

end TagAudit.Failure
