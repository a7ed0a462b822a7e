import TagAudit.Proofs.Distinct
import TagAudit.Proofs.Duplicate

/-!
# Counting duplicates

The duplicates among some things are the members of classes other than the first ones. They are
kept by their identifiers, so duplicates with one identifier are counted once, and whatever has the
identifier of a duplicate is taken for one. Both counts are right exactly if no duplicate shares its
identifier.
-/

namespace TagAudit

variable {α : Type}

/-- The first members of the classes of a relation. -/
def firstsOf (r : α → α → Prop) [DecidableRel r] (xs : List α) : List α :=
  (classesOf r xs).filterMap List.head?

/-- The members of the classes of a relation other than the first ones. -/
def excessOf (r : α → α → Prop) [DecidableRel r] (xs : List α) : List α :=
  (classesOf r xs).flatMap List.tail

/-- The identifiers of the excess members, each with that of the first of its class. -/
def duplicatePairs (r : α → α → Prop) [DecidableRel r] (id : α → String) (xs : List α) :
    List (String × String) :=
  ((classesOf r xs).map (List.map id)).flatMap duplicatesIn

/-- No excess member shares its identifier. -/
def IdentifiesExcess (r : α → α → Prop) [DecidableRel r] (id : α → String) (xs : List α) : Prop :=
  ∀ x ∈ excessOf r xs, (xs.map id).count (id x) = 1

/-- Something counts as the duplicate of a first exactly if it is kept with one. -/
theorem isSome_firstOf?_iff {pairs : List (String × String)} {id : String} :
    (firstOf? pairs id).isSome = true ↔ id ∈ pairs.map (·.1) := by
  rw [firstOf?, List.lookup_isSome_iff, List.mem_map]
  simp only [List.mem_reverse, beq_iff_eq]
  exact exists_congr fun pair => and_congr_right fun _ => eq_comm

/-- The duplicates in groups by a key are those in excess in the classes of one key. -/
theorem flatMap_duplicatesIn_groupBy {κ : Type} [DecidableEq κ] (key : α → κ) (id : α → String)
    (xs : List α) :
    ((groupBy (xs.map fun x => (key x, id x))).map (·.2)).flatMap duplicatesIn =
      duplicatePairs (fun x y => key x = key y) id xs := by
  rw [groupBy_map, duplicatePairs]

section Classes

variable {r : α → α → Prop} [DecidableRel r] {id : α → String} {xs : List α}

instance : Decidable (IdentifiesExcess r id xs) := inferInstanceAs (Decidable (∀ _ ∈ _, _))

/-- Each class has one excess member less than it has members. -/
theorem length_excessOf (r : α → α → Prop) [DecidableRel r] (xs : List α) :
    (excessOf r xs).length = ((classesOf r xs).map fun members => members.length - 1).sum := by
  simp [excessOf, List.length_flatMap]

/-- The first of some things is the first of its class. -/
theorem firstsOf_cons (hr : Equivalence r) (x : α) (xs : List α) :
    firstsOf r (x :: xs) = x :: firstsOf r (xs.filter fun y => ¬ r x y) := by
  rw [firstsOf, classesOf_cons hr]
  rfl

/-- The others of its class are in excess. -/
theorem excessOf_cons (hr : Equivalence r) (x : α) (xs : List α) :
    excessOf r (x :: xs) =
      (xs.filter fun y => decide (r x y)) ++ excessOf r (xs.filter fun y => ¬ r x y) := by
  rw [excessOf, classesOf_cons hr]
  rfl

/-- Every member is the first of its class or in excess. -/
theorem firstsOf_append_excessOf_perm (hr : Equivalence r) (xs : List α) :
    (firstsOf r xs ++ excessOf r xs).Perm xs := by
  match xs with
  | [] => exact .nil
  | x :: xs =>
    let same := xs.filter fun y => decide (r x y)
    let others := xs.filter fun y => ¬ r x y
    have ih : (firstsOf r others ++ excessOf r others).Perm others :=
      firstsOf_append_excessOf_perm hr others
    have hmove : (firstsOf r others ++ (same ++ excessOf r others)).Perm
        (same ++ (firstsOf r others ++ excessOf r others)) := List.perm_append_comm_assoc ..
    have hsplit : (same ++ others).Perm xs := by
      simpa [same, others] using List.filter_append_perm (fun y => decide (r x y)) xs
    rw [firstsOf_cons hr, excessOf_cons hr, List.cons_append]
    exact .cons x (hmove.trans ((ih.append_left same).trans hsplit))
termination_by xs.length
decreasing_by exact Nat.lt_succ_of_le (List.length_filter_le ..)

/-- The excess members are kept by their identifiers. -/
theorem map_fst_duplicatePairs (r : α → α → Prop) [DecidableRel r] (id : α → String)
    (xs : List α) : (duplicatePairs r id xs).map (·.1) = (excessOf r xs).map id := by
  have hclass : ∀ members : List α, (duplicatesIn (members.map id)).map (·.1) =
      members.tail.map id := by
    intro members
    cases members <;> simp [duplicatesIn, Function.comp_def]
  simp only [duplicatePairs, excessOf, List.flatMap_map, List.map_flatMap, hclass]

/-- Duplicates are duplicates of the first of some class. -/
theorem exists_of_firstOf?_eq_some {i first : String}
    (h : firstOf? (duplicatePairs r id xs) i = some first) : ∃ x ∈ firstsOf r xs, id x = first := by
  have hpair : (i, first) ∈ duplicatePairs r id xs := by
    obtain ⟨before, after, hsplit, -⟩ := List.lookup_eq_some_iff.mp h
    exact List.mem_reverse.mp (hsplit ▸ List.mem_append_right _ (List.mem_cons_self ..))
  obtain ⟨ids, hids, hin⟩ := List.mem_flatMap.mp hpair
  obtain ⟨members, hmembers, rfl⟩ := List.mem_map.mp hids
  cases members with
  | nil => cases hin
  | cons x rest =>
    obtain ⟨_, -, he⟩ := List.mem_map.mp hin
    exact ⟨x, List.mem_filterMap.mpr ⟨_, hmembers, rfl⟩, (Prod.mk.inj he).2⟩

/-- No excess member shares its identifier exactly if neither do two excess members have one nor
does a first member have that of an excess member. -/
theorem identifiesExcess_iff (hr : Equivalence r) : IdentifiesExcess r id xs ↔
    ((excessOf r xs).map id).Nodup ∧ ∀ x ∈ firstsOf r xs, id x ∉ (excessOf r xs).map id := by
  let firstIds := (firstsOf r xs).map id
  let excessIds := (excessOf r xs).map id
  have hcount : ∀ i, (xs.map id).count i = firstIds.count i + excessIds.count i := by
    intro i
    rw [← ((firstsOf_append_excessOf_perm hr xs).map id).count_eq, List.map_append,
      List.count_append]
  constructor
  · intro h
    have hone : ∀ i ∈ excessIds, firstIds.count i + excessIds.count i = 1 := by
      intro i hi
      obtain ⟨x, hx, rfl⟩ := List.mem_map.mp hi
      rw [← hcount, h x hx]
    have hpos : ∀ i ∈ excessIds, 0 < excessIds.count i := fun i => List.count_pos_iff.mpr
    refine ⟨List.nodup_iff_count_eq_one.mpr fun i hi => ?_, fun x hx hi => ?_⟩
    · have htotal := hone i hi
      have hexcess := hpos i hi
      change excessIds.count i = 1
      omega
    · have htotal := hone _ hi
      have hexcess := hpos _ hi
      have hfirst : 0 < firstIds.count (id x) := List.count_pos_iff.mpr (List.mem_map_of_mem hx)
      omega
  · rintro ⟨hnodup, hfirst⟩ x hx
    have hi : id x ∈ excessIds := List.mem_map_of_mem hx
    have hnone : firstIds.count (id x) = 0 := by
      refine List.count_eq_zero.mpr fun hmem => ?_
      obtain ⟨y, hy, he⟩ := List.mem_map.mp hmem
      exact hfirst y hy (he ▸ hi)
    rw [hcount, hnone, List.count_eq_one_of_mem hnodup hi]

/-- What is taken for a duplicate are the excess members and the first members that share an
identifier with one. -/
theorem countP_isSome_firstOf? (hr : Equivalence r) (id : α → String) (xs : List α) :
    (xs.countP fun x => (firstOf? (duplicatePairs r id xs) (id x)).isSome) =
      ((firstsOf r xs).countP fun x => decide (id x ∈ (excessOf r xs).map id)) +
        (excessOf r xs).length := by
  have htest : ∀ x, (firstOf? (duplicatePairs r id xs) (id x)).isSome =
      decide (id x ∈ (excessOf r xs).map id) := by
    intro x
    rw [Bool.eq_iff_iff, isSome_firstOf?_iff, map_fst_duplicatePairs, decide_eq_true_iff]
  simp only [htest]
  rw [← (firstsOf_append_excessOf_perm hr xs).countP_eq, List.countP_append]
  congr 1
  exact List.countP_eq_length.mpr fun x hx => decide_eq_true (List.mem_map_of_mem hx)

/-- Excess members with one identifier are counted once. -/
theorem duplicateCount_le (r : α → α → Prop) [DecidableRel r] (id : α → String) (xs : List α) :
    duplicateCount (duplicatePairs r id xs) ≤ (excessOf r xs).length := by
  rw [duplicateCount, map_fst_duplicatePairs, ← List.length_map id]
  exact length_eraseDups_le _

/-- No more are counted than are taken for duplicates. -/
theorem duplicateCount_le_countP (hr : Equivalence r) (id : α → String) (xs : List α) :
    duplicateCount (duplicatePairs r id xs) ≤
      xs.countP fun x => (firstOf? (duplicatePairs r id xs) (id x)).isSome := by
  rw [countP_isSome_firstOf? hr]
  exact (duplicateCount_le r id xs).trans (Nat.le_add_left ..)

/-- All excess members are counted exactly if no two have one identifier. -/
theorem duplicateCount_eq_length_iff :
    duplicateCount (duplicatePairs r id xs) = (excessOf r xs).length ↔
      ((excessOf r xs).map id).Nodup := by
  rw [duplicateCount, map_fst_duplicatePairs, ← List.length_map id, length_eraseDups_eq_iff]

/-- As many are counted as are taken for duplicates exactly if no excess member shares its
identifier. -/
theorem duplicateCount_eq_countP_iff (hr : Equivalence r) :
    (duplicateCount (duplicatePairs r id xs) =
      xs.countP fun x => (firstOf? (duplicatePairs r id xs) (id x)).isSome) ↔
        IdentifiesExcess r id xs := by
  have hle := duplicateCount_le r id xs
  have hfirsts : ((firstsOf r xs).countP fun x => decide (id x ∈ (excessOf r xs).map id)) = 0 ↔
      ∀ x ∈ firstsOf r xs, id x ∉ (excessOf r xs).map id := by
    simp [List.countP_eq_zero]
  rw [countP_isSome_firstOf? hr, identifiesExcess_iff hr, ← hfirsts,
    ← duplicateCount_eq_length_iff]
  omega

end Classes

end TagAudit
