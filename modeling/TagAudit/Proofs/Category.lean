import Mathlib.Data.List.Nodup
import TagAudit.Audit.Helper
import TagAudit.Issue

/-!
# Categories and the helpers that find them

Every category has a name of its own, so counting names counts categories. Each category is found
by one helper alone; the issues of the others do not count for it.
-/

namespace TagAudit

namespace Category

/-- All categories. -/
def all : List Category :=
  [paused, uaObsolete, naming, noTrigger, danglingTrigger, doublePageview, consentMissing,
    triggerAllPages, triggerTiming, triggerUnused, triggerDuplicate, triggerBlocking] ++
    VariableFault.all.map variableFault ++ [variableUnused, variableDuplicate] ++
    Severity.ascending.map htmlSecurity ++ [unresolvedReference]

theorem mem_all (category : Category) : category ∈ all := by
  cases category with
  | variableFault fault => cases fault <;> decide
  | htmlSecurity severity => cases severity <;> decide
  | _ => decide

/-- The name of a category belongs to no other. -/
theorem name_injective : Function.Injective name := by
  have hn : (all.map name).Nodup := by decide
  intro a b h
  exact List.inj_on_of_nodup_map hn (mem_all a) (mem_all b) h

/-- The helper that finds the problems of a category. -/
def finder : Category → Helper
  | paused | uaObsolete | naming | noTrigger | danglingTrigger | doublePageview => .tagRules
  | consentMissing => .consentMode
  | triggerAllPages | triggerTiming | triggerUnused | triggerDuplicate | triggerBlocking =>
    .triggerQuality
  | variableFault _ | variableUnused | variableDuplicate => .variableQuality
  | htmlSecurity _ => .htmlSecurity
  | unresolvedReference => .unresolvedReferences

end Category

namespace Issue

/-- The number of issues of a category. -/
def countOf (category : Category) (issues : List Issue) : Nat :=
  issues.countP (·.category == category)

variable {α : Type} (category : Category)

@[simp] theorem countOf_append (xs ys : List Issue) :
    countOf category (xs ++ ys) = countOf category xs + countOf category ys :=
  List.countP_append

/-- An issue that is there if a test says so. -/
@[simp] theorem countOf_ite_singleton (p : Bool) (issue : Issue) :
    countOf category (if p then [issue] else []) =
      (p && decide (issue.category = category)).toNat := by
  cases p <;> by_cases h : issue.category = category <;> simp [countOf, h]

/-- An issue that is there unless a test says so. -/
@[simp] theorem countOf_ite_nil (p : Bool) (issue : Issue) :
    countOf category (if p then [] else [issue]) =
      (!p && decide (issue.category = category)).toNat := by
  cases p <;> by_cases h : issue.category = category <;> simp [countOf, h]

/-- An issue that is there if there is something to make it of. -/
theorem countOf_toList_map (o : Option α) {f : α → Issue} {own : Category}
    (h : ∀ a, (f a).category = own) :
    countOf category (o.map f).toList = (o.isSome && decide (own = category)).toNat := by
  cases o with
  | none => rfl
  | some a => by_cases hc : own = category <;> simp [countOf, h, hc]

/-- Where each source gives one issue of a category or none, as a test says, the issues are as many
as the sources that pass. -/
theorem countOf_flatMap_eq_countP {xs : List α} {f : α → List Issue} {p : α → Bool}
    (h : ∀ x ∈ xs, countOf category (f x) = (p x).toNat) :
    countOf category (xs.flatMap f) = xs.countP p := by
  induction xs with
  | nil => rfl
  | cons x xs ih =>
    have hx := h x (List.mem_cons_self ..)
    have ht := ih fun y hy => h y (List.mem_cons_of_mem _ hy)
    rw [List.flatMap_cons, countOf_append, hx, ht, List.countP_cons]
    cases p x
    · simp
    · exact Nat.add_comm ..

/-- Where each source gives one issue of a category unless a test says so, the issues of the
category are those of the sources that fail, in order. -/
theorem filter_flatMap_eq_map {xs : List α} {f : α → List Issue} {p : α → Bool} {own : α → Issue}
    (h : ∀ x, (f x).filter (·.category == category) = if p x then [] else [own x]) :
    (xs.flatMap f).filter (·.category == category) = (xs.filter (!p ·)).map own := by
  induction xs with
  | nil => rfl
  | cons x xs ih =>
    rw [List.flatMap_cons, List.filter_append, h, ih, List.filter_cons]
    cases p x <;> rfl

/-- Issues that are all found by one helper have no category of another. -/
theorem countOf_eq_zero {issues : List Issue} {helper : Helper}
    (h : ∀ issue ∈ issues, issue.category.finder = helper) (hne : category.finder ≠ helper) :
    countOf category issues = 0 := by
  rw [countOf, List.countP_eq_zero]
  intro issue hi hc
  have he : issue.category = category := by simpa using hc
  exact hne (he ▸ h issue hi)

/-- The categories that the records of some issues name are the names of their categories. -/
theorem flatMap_categories_toRecord (issues : List Issue) :
    (issues.map toRecord).flatMap (·.categories) = issues.map (·.category.name) := by
  induction issues with
  | nil => rfl
  | cons issue issues ih => simpa [toRecord] using ih

/-- Counting the name of a category among the records counts the category. -/
theorem count_categories_toRecord (issues : List Issue) :
    ((issues.map toRecord).flatMap (·.categories)).count category.name =
      countOf category issues := by
  rw [flatMap_categories_toRecord, List.count, List.countP_map, countOf]
  congr 1
  funext issue
  by_cases h : issue.category = category
  · simp [h]
  · have hn : issue.category.name ≠ category.name := fun hn => h (Category.name_injective hn)
    simp [h, hn]

end Issue

end TagAudit
