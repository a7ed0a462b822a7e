import TagAudit.Proofs.IssueIndex.Lookup
import TagAudit.Proofs.Sorting

/-!
# What an issue index shows

An index groups its records by entity and its entities by category, both in the order of first
occurrences. It loses no record and invents none: whatever can be asked of it is told by the list of
records that it was made of. A category that a record names twice counts twice, but lists the entity
once.
-/

namespace TagAudit

namespace IssueIndex

/-- A table with distinct keys holds for each key what is looked up under it. -/
theorem eq_map_lookup {β : Type} (default : β) {table : List (String × β)}
    (h : (table.map (·.1)).Nodup) :
    table = (table.map (·.1)).map fun key => (key, (table.lookup key).getD default) := by
  induction table with
  | nil => rfl
  | cons entry rest ih =>
    obtain ⟨key, value⟩ := entry
    obtain ⟨hnew, hrest⟩ := List.nodup_cons.mp h
    have hlookup : ∀ other ∈ rest.map (·.1),
        ((key, value) :: rest).lookup other = rest.lookup other := by
      intro other hother
      have hne : (other == key) = false := by
        rw [beq_eq_false_iff_ne]
        rintro rfl
        exact hnew hother
      rw [List.lookup_cons, hne]
    rw [List.map_cons, List.map_cons, List.lookup_cons_self, Option.getD_some]
    refine congrArg _ ((ih hrest).trans (List.map_congr_left fun other hother => ?_))
    rw [hlookup other hother]

/-- The identifiers of an index are those of its records. -/
theorem keys_byId (records : List IssueRecord) :
    (ofRecords records).byId.map (·.1) = (records.map (·.entityId)).eraseDups := by
  rw [byId_ofRecords]
  exact keys_foldl_alter ..

/-- The groups of an index are the records of each identifier. -/
theorem byId_eq_map (records : List IssueRecord) :
    (ofRecords records).byId = (records.map (·.entityId)).eraseDups.map fun id =>
      (id, records.filter (·.entityId == id)) := by
  have hnodup : ((ofRecords records).byId.map (·.1)).Nodup := by
    rw [keys_byId]
    exact nodup_eraseDups _
  rw [eq_map_lookup [] hnodup, keys_byId]
  simp only [lookup_byId]

/-- The categories of the entries are those that the records name. -/
theorem map_fst_entries (records : List IssueRecord) :
    (entries records).map (·.1) = records.flatMap (·.categories) := by
  simp [entries, List.map_flatMap, Function.comp_def]

/-- The categories of an index are those that its records name. -/
theorem keys_byCategory (records : List IssueRecord) :
    (ofRecords records).byCategory.map (·.1) = (records.flatMap (·.categories)).eraseDups := by
  simp only [(tables_ofRecords records).1, addMember_eq_alter]
  rw [← map_fst_entries]
  exact keys_foldl_alter Prod.fst (fun pair found =>
    if (found.getD []).contains pair.2 then found.getD [] else found.getD [] ++ [pair.2]) _

/-- The counters of an index are for the categories that its records name. -/
theorem keys_counters (records : List IssueRecord) :
    (ofRecords records).counters.map (·.1) = (records.flatMap (·.categories)).eraseDups := by
  simp only [(tables_ofRecords records).2, countOne_eq_alter]
  rw [← map_fst_entries]
  exact keys_foldl_alter Prod.fst (fun _ count => count.getD 0 + 1) _

/-- An identifier is entered under a category if a record of it names the category. -/
theorem mem_paired_entries_iff {records : List IssueRecord} {category id : String} :
    id ∈ paired category (entries records) ↔
      ∃ record ∈ records, record.entityId = id ∧ category ∈ record.categories := by
  simp only [paired, entries, List.mem_map, List.mem_filter, List.mem_flatMap, beq_iff_eq]
  constructor
  · rintro ⟨_, ⟨⟨record, hrecord, named, hnamed, rfl⟩, rfl⟩, rfl⟩
    exact ⟨record, hrecord, rfl, hnamed⟩
  · rintro ⟨record, hrecord, rfl, hnamed⟩
    exact ⟨(category, record.entityId), ⟨⟨record, hrecord, category, hnamed, rfl⟩, rfl⟩, rfl⟩

/-- An entity has a category exactly if a record of it names the category. -/
theorem has_ofRecords_iff {records : List IssueRecord} {category id : String} :
    (ofRecords records).has category id = true ↔
      ∃ record ∈ records, record.entityId = id ∧ category ∈ record.categories := by
  have hmembers : ((ofRecords records).byCategory.lookup category).getD [] =
      (paired category (entries records)).eraseDups := by
    rw [lookup_byCategory]
    split
    next h => rw [List.isEmpty_iff.mp h]; rfl
    next => rfl
  rw [has, hmembers, List.contains_iff_mem, List.mem_eraseDups, mem_paired_entries_iff]

/-- A category of an index is shown with the entities that have it, in ascending order. -/
theorem exists_shown {records : List IssueRecord} {category : String}
    (h : category ∈ (ofRecords records).byCategory.map (·.1)) :
    ∃ ids, ((ofRecords records).toJson.get "by_category").get category = .strings ids ∧
      ids.Pairwise (· < ·) ∧ ∀ id, id ∈ ids ↔ (ofRecords records).has category id = true := by
  have hnamed : ∃ id, id ∈ paired category (entries records) := by
    rw [keys_byCategory, List.mem_eraseDups, List.mem_flatMap] at h
    obtain ⟨record, hrecord, hcategory⟩ := h
    exact ⟨record.entityId, mem_paired_entries_iff.mpr ⟨record, hrecord, rfl, hcategory⟩⟩
  obtain ⟨id, hid⟩ := hnamed
  have hsome : (paired category (entries records)).isEmpty = false := by
    rw [List.isEmpty_eq_false_iff]
    exact List.ne_nil_of_mem hid
  rw [byCategory_toJson, lookup_byCategory, hsome]
  refine ⟨_, rfl, pairwise_lt_mergeSort (nodup_eraseDups _), fun id => ?_⟩
  rw [List.mem_mergeSort, List.mem_eraseDups, mem_paired_entries_iff, has_ofRecords_iff]

/-- An index tells of a list of records exactly what the list tells. -/
structure IsIndexOf (index : IssueIndex) (records : List IssueRecord) : Prop where
  /-- All records stand together by entity: the entities in the order of their first records, the
  records of each in their order. -/
  grouped : ∃ ids, FirstOccurrences (records.map (·.entityId)) ids ∧
    index.records = ids.flatMap fun id => records.filter (·.entityId == id)
  complete : index.records.Perm records
  /-- The records of an entity are those of its identifier and, if one is asked for, of its type. -/
  recordsOf : ∀ id entityType, index.recordsOf id entityType = records.filter fun record =>
    record.entityId == id && entityType.all (record.entityType == ·)
  has : ∀ category id, index.has category id = true ↔
    ∃ record ∈ records, record.entityId = id ∧ category ∈ record.categories
  /-- Every mention of a category counts. -/
  counter : ∀ category,
    index.counter category = (records.map fun record => record.categories.count category).sum
  categories : FirstOccurrences (records.flatMap (·.categories)) (index.byCategory.map (·.1))
  counted : index.counters.map (·.1) = index.byCategory.map (·.1)
  /-- The entities of a category are shown in ascending order, each once. -/
  shown : ∀ category ∈ index.byCategory.map (·.1), ∃ ids,
    (index.toJson.get "by_category").get category = .strings ids ∧ ids.Pairwise (· < ·) ∧
      ∀ id, id ∈ ids ↔ index.has category id = true

/-- Whatever records an index is made of, it loses none and invents none. -/
theorem isIndexOf_ofRecords (records : List IssueRecord) :
    (ofRecords records).IsIndexOf records where
  grouped := by
    refine ⟨_, firstOccurrences_eraseDups _, ?_⟩
    rw [IssueIndex.records, byId_eq_map, List.flatMap_map]
  complete := records_ofRecords_perm records
  recordsOf := recordsOf_ofRecords records
  has _ _ := has_ofRecords_iff
  counter category := by rw [counter_ofRecords, List.count_flatMap]; rfl
  categories := by
    rw [keys_byCategory]
    exact firstOccurrences_eraseDups _
  counted := by rw [keys_counters, keys_byCategory]
  shown _ := exists_shown

end IssueIndex

end TagAudit
