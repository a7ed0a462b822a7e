import Mathlib
import TagAudit.Duplicate

/-!
# Groups and classes

Groups by keys are the classes of the values of one key: the first value of each class opens its
group, and the others follow in their order.
-/

namespace TagAudit

variable {α β κ : Type}

/-- The classes of a relation in a list: each with its members in order, the classes in the order of
their first members. -/
def classesOf (r : α → α → Prop) [DecidableRel r] (xs : List α) : List (List α) :=
  (xs.eraseDupsBy fun x y => decide (r y x)).map fun x => xs.filter fun y => decide (r x y)

/-- What is left without duplicates was there before. -/
theorem mem_of_mem_eraseDupsBy {r : α → α → Bool} {x : α} (xs : List α)
    (h : x ∈ xs.eraseDupsBy r) : x ∈ xs := by
  match xs with
  | [] => cases h
  | y :: ys =>
    rw [List.eraseDupsBy_cons] at h
    rcases List.mem_cons.mp h with rfl | h
    · exact List.mem_cons_self ..
    · exact List.mem_cons_of_mem _ (List.mem_of_mem_filter (mem_of_mem_eraseDupsBy _ h))
termination_by xs.length
decreasing_by exact Nat.lt_succ_of_le (List.length_filter_le ..)

/-- Relations that agree on a list have the same duplicates in it. -/
theorem eraseDupsBy_congr {r s : α → α → Bool} (xs : List α)
    (h : ∀ x ∈ xs, ∀ y ∈ xs, r x y = s x y) : xs.eraseDupsBy r = xs.eraseDupsBy s := by
  match xs with
  | [] => rfl
  | x :: xs =>
    have hfilter : (xs.filter fun y => r y x = false) = xs.filter fun y => s y x = false := by
      refine List.filter_congr fun y hy => ?_
      rw [h y (List.mem_cons_of_mem _ hy) x (List.mem_cons_self ..)]
    rw [List.eraseDupsBy_cons, List.eraseDupsBy_cons, hfilter, eraseDupsBy_congr]
    intro y hy z hz
    exact h y (List.mem_cons_of_mem _ (List.mem_of_mem_filter hy)) z
      (List.mem_cons_of_mem _ (List.mem_of_mem_filter hz))
termination_by xs.length
decreasing_by exact Nat.lt_succ_of_le (List.length_filter_le ..)

/-- Relations that agree on a list have the same classes in it. -/
theorem classesOf_congr {r s : α → α → Prop} [DecidableRel r] [DecidableRel s] {xs : List α}
    (h : ∀ x ∈ xs, ∀ y ∈ xs, (r x y ↔ s x y)) : classesOf r xs = classesOf s xs := by
  unfold classesOf
  rw [eraseDupsBy_congr xs fun x hx y hy => decide_eq_decide.mpr (h y hy x hx)]
  refine List.map_congr_left fun x hx => List.filter_congr fun y hy => ?_
  exact decide_eq_decide.mpr (h x (mem_of_mem_eraseDupsBy xs hx) y hy)

/-- The first of an equivalence opens its class, and the others are classed without it. -/
theorem classesOf_cons {r : α → α → Prop} [DecidableRel r] (hr : Equivalence r) (x : α)
    (xs : List α) :
    classesOf r (x :: xs) =
      (x :: xs.filter fun y => decide (r x y)) :: classesOf r (xs.filter fun y => ¬ r x y) := by
  unfold classesOf
  have hself : ((x :: xs).filter fun y => decide (r x y)) =
      x :: xs.filter fun y => decide (r x y) :=
    List.filter_cons_of_pos (decide_eq_true (hr.refl x))
  have hrest : (xs.filter fun y => decide (r x y) = false) = xs.filter fun y => ¬ r x y := by
    refine List.filter_congr fun y _ => ?_
    simp
  rw [List.eraseDupsBy_cons, List.map_cons, hself, hrest]
  refine congrArg _ (List.map_congr_left fun y hy => ?_)
  have hxy : ¬ r x y := by simpa using (List.mem_filter.mp (mem_of_mem_eraseDupsBy _ hy)).2
  have hyx : ¬ r y x := fun h => hxy (hr.symm h)
  rw [List.filter_cons_of_neg (by simpa using hyx), List.filter_filter]
  refine List.filter_congr fun z _ => ?_
  by_cases hz : r y z
  · have hxz : ¬ r x z := fun h => hxy (hr.trans h (hr.symm hz))
    simp [hz, hxz]
  · simp [hz]

variable [DecidableEq κ]

/-- The first group takes the values of its key, and the others are put into the other groups. -/
theorem foldl_putIntoGroup_cons (key : κ) (values : List β) (groups : List (κ × List β))
    (pairs : List (κ × β)) :
    pairs.foldl (fun groups (key, value) => putIntoGroup key value groups)
        ((key, values) :: groups) =
      (key, values ++ (pairs.filter (·.1 = key)).map (·.2)) ::
        (pairs.filter (¬ ·.1 = key)).foldl
          (fun groups (key, value) => putIntoGroup key value groups) groups := by
  induction pairs generalizing values groups with
  | nil => simp
  | cons pair pairs ih =>
    obtain ⟨k, v⟩ := pair
    by_cases hk : k = key
    · subst hk
      simp [putIntoGroup, ih]
    · have hk' : ¬ key = k := fun h => hk h.symm
      simp [putIntoGroup, hk, hk', ih]

/-- Groups by a key are the classes of values of one key. -/
theorem groupBy_map (key : α → κ) (value : α → β) (xs : List α) :
    (groupBy (xs.map fun x => (key x, value x))).map (·.2) =
      (classesOf (fun x y => key x = key y) xs).map (List.map value) := by
  match xs with
  | [] => rfl
  | x :: xs =>
    have hequiv : Equivalence fun x y => key x = key y := ⟨fun _ => rfl, Eq.symm, Eq.trans⟩
    have hsame : ((xs.map fun y => (key y, value y)).filter (·.1 = key x)).map (·.2) =
        (xs.filter fun y => key x = key y).map value := by
      rw [List.filter_map, List.map_map]
      refine congrArg _ (List.filter_congr fun y _ => ?_)
      exact decide_eq_decide.mpr eq_comm
    have hother : ((xs.map fun y => (key y, value y)).filter (¬ ·.1 = key x)) =
        (xs.filter fun y => ¬ key x = key y).map fun y => (key y, value y) := by
      rw [List.filter_map]
      refine congrArg _ (List.filter_congr fun y _ => ?_)
      exact decide_eq_decide.mpr (not_congr eq_comm)
    have ih := groupBy_map key value (xs.filter fun y => ¬ key x = key y)
    have hstart : groupBy ((x :: xs).map fun x => (key x, value x)) =
        (xs.map fun y => (key y, value y)).foldl
          (fun groups (key, value) => putIntoGroup key value groups) [(key x, [value x])] := rfl
    rw [hstart, foldl_putIntoGroup_cons, List.map_cons, hsame, hother,
      classesOf_cons hequiv x xs, List.map_cons, ← ih]
    rfl
termination_by xs.length
decreasing_by exact Nat.lt_succ_of_le (List.length_filter_le ..)

end TagAudit
