import Mathlib.Data.List.Basic
import Mathlib.Data.List.Induction
import TagAudit.IssueIndex

/-!
# What an issue index counts

The index of a list of records loses none of them and counts every category as often as the
records name it. Both follow from what one insertion does to the groups and to the counters.
-/

namespace TagAudit

/-- Putting a value into its group adds it to the grouped values and moves no other. -/
theorem flatMap_putIntoGroup_perm {κ β : Type} [DecidableEq κ] (key : κ) (value : β)
    (groups : List (κ × List β)) :
    ((putIntoGroup key value groups).flatMap (·.2)).Perm (value :: groups.flatMap (·.2)) := by
  induction groups with
  | nil => simp [putIntoGroup]
  | cons group rest ih =>
    obtain ⟨other, values⟩ := group
    by_cases h : other = key
    · simp only [putIntoGroup, h, ite_true, List.flatMap_cons, List.append_assoc,
        List.singleton_append]
      exact List.perm_middle
    · simp only [putIntoGroup, h, ite_false, List.flatMap_cons]
      exact (ih.append_left values).trans List.perm_middle

namespace IssueIndex

/-- How often a category occurs among counters, zero where it has none. -/
def occurrences (category : String) (counters : List (String × Nat)) : Nat :=
  (counters.lookup category).getD 0

/-- The counter of a category, zero where the index has none. -/
def counter (index : IssueIndex) (category : String) : Nat :=
  occurrences category index.counters

/-- The sum of all counters. -/
def counterSum (index : IssueIndex) : Nat :=
  index.counters.foldr (fun entry total => entry.2 + total) 0

/-- Counting a key raises its own counter by one and no other. -/
theorem occurrences_countOne (category key : String) (counters : List (String × Nat)) :
    occurrences category (countOne key counters) =
      occurrences category counters + if key = category then 1 else 0 := by
  induction counters with
  | nil =>
    by_cases h : key = category
    · simp [countOne, occurrences, h]
    · have hb : (category == key) = false := by simpa using Ne.symm h
      simp [countOne, occurrences, List.lookup_cons, h, hb]
  | cons entry rest ih =>
    obtain ⟨other, count⟩ := entry
    unfold occurrences at ih ⊢
    by_cases ho : other = key
    · subst ho
      by_cases h : other = category
      · simp [countOne, h]
      · have hb : (category == other) = false := by simpa using Ne.symm h
        simp [countOne, List.lookup_cons, h, hb]
    · simp only [countOne, ho, ite_false]
      by_cases h : category = other
      · have hk : key ≠ category := fun hk => ho (h.symm.trans hk.symm)
        simp [h, h ▸ hk]
      · have hb : (category == other) = false := by simpa using h
        simpa only [List.lookup_cons, hb] using ih

/-- Counting a key raises the sum of the counters by one. -/
theorem foldr_countOne (key : String) (counters : List (String × Nat)) :
    (countOne key counters).foldr (fun entry total => entry.2 + total) 0 =
      counters.foldr (fun entry total => entry.2 + total) 0 + 1 := by
  induction counters with
  | nil => rfl
  | cons entry rest ih =>
    obtain ⟨other, count⟩ := entry
    by_cases h : other = key
    · simp only [countOne, h, ite_true, List.foldr_cons]
      omega
    · simp only [countOne, h, ite_false, List.foldr_cons, ih]
      omega

/-- Entering categories counts each of them and leaves the groups alone. -/
theorem foldl_enter (id : String) (categories : List String) (index : IssueIndex) :
    (categories.foldl (enter id) index).byId = index.byId ∧
      (∀ category, (categories.foldl (enter id) index).counter category =
        index.counter category + categories.count category) ∧
      (categories.foldl (enter id) index).counterSum = index.counterSum + categories.length := by
  induction categories generalizing index with
  | nil => simp
  | cons first rest ih =>
    obtain ⟨hid, hcount, hsum⟩ := ih (enter id index first)
    refine ⟨hid, fun category => ?_, ?_⟩
    · rw [List.foldl_cons, hcount, List.count_cons]
      simp only [counter, enter, occurrences_countOne, beq_iff_eq]
      omega
    · rw [List.foldl_cons, hsum, List.length_cons]
      simp only [counterSum, enter, foldr_countOne]
      omega

/-- The counter of a category after one more record. -/
theorem counter_insert (index : IssueIndex) (record : IssueRecord) (category : String) :
    (index.insert record).counter category =
      index.counter category + record.categories.count category :=
  (foldl_enter record.entityId record.categories _).2.1 category

/-- The sum of the counters after one more record. -/
theorem counterSum_insert (index : IssueIndex) (record : IssueRecord) :
    (index.insert record).counterSum = index.counterSum + record.categories.length :=
  (foldl_enter record.entityId record.categories _).2.2

/-- One more record joins the records of the index. -/
theorem records_insert_perm (index : IssueIndex) (record : IssueRecord) :
    (index.insert record).records.Perm (record :: index.records) := by
  rw [records, insert, (foldl_enter record.entityId record.categories _).1]
  exact flatMap_putIntoGroup_perm record.entityId record index.byId

/-- The counter of a category is the number of times that the records name it. -/
theorem counter_ofRecords (records : List IssueRecord) (category : String) :
    (ofRecords records).counter category = (records.flatMap (·.categories)).count category := by
  induction records using List.reverseRecOn with
  | nil => rfl
  | append_singleton records record ih =>
    rw [ofRecords, List.foldl_concat, counter_insert]
    simpa [ofRecords] using ih

/-- The counters add up to the number of categories that the records name. -/
theorem counterSum_ofRecords (records : List IssueRecord) :
    (ofRecords records).counterSum = (records.flatMap (·.categories)).length := by
  induction records using List.reverseRecOn with
  | nil => rfl
  | append_singleton records record ih =>
    rw [ofRecords, List.foldl_concat, counterSum_insert]
    simpa [ofRecords] using ih

/-- The index holds exactly the records that it was made of. -/
theorem records_ofRecords_perm (records : List IssueRecord) :
    (ofRecords records).records.Perm records := by
  induction records using List.reverseRecOn with
  | nil => exact List.Perm.refl _
  | append_singleton records record ih =>
    rw [ofRecords, List.foldl_concat]
    exact (records_insert_perm _ record).trans
      ((ih.cons record).trans (List.perm_append_singleton record records).symm)

end IssueIndex

end TagAudit
