import TagAudit.Proofs.Distinct
import TagAudit.Proofs.IssueIndex

/-!
# Looking up categories in an index

An index enters each category of each record with the identifier of its entity. What it then has
under a category follows from these entries alone: how many there are, and their identifiers, each
once. So an index of records in another order has the same under every category.
-/

namespace TagAudit

/-- Looking up a key among values that a function is applied to. -/
theorem lookup_map_snd {α β : Type} (f : α → β) (key : String) (pairs : List (String × α)) :
    (pairs.map fun (k, value) => (k, f value)).lookup key = (pairs.lookup key).map f := by
  induction pairs with
  | nil => rfl
  | cons pair rest ih =>
    obtain ⟨k, value⟩ := pair
    rw [List.map_cons, List.lookup_cons, List.lookup_cons, ih]
    cases key == k <;> rfl

namespace IssueIndex

section Alter

variable {β γ : Type}

/-- A table with the value of a key changed; a new key comes last. -/
def alter (key : String) (change : Option β → β) : List (String × β) → List (String × β)
  | [] => [(key, change none)]
  | (other, value) :: rest =>
    if other = key then (other, change (some value)) :: rest
    else (other, value) :: alter key change rest

/-- A change of a key is seen under that key alone. -/
theorem lookup_alter (key category : String) (change : Option β → β)
    (table : List (String × β)) : (alter key change table).lookup category =
      if category = key then some (change (table.lookup key)) else table.lookup category := by
  induction table with
  | nil =>
    by_cases h : category = key
    · simp [alter, h]
    · have hc : (category == key) = false := by simpa using h
      simp [alter, List.lookup_cons, h, hc]
  | cons entry rest ih =>
    obtain ⟨other, value⟩ := entry
    by_cases ho : other = key
    · subst ho
      by_cases h : category = other
      · simp [alter, h]
      · have hc : (category == other) = false := by simpa using h
        simp [alter, List.lookup_cons, h, hc]
    · have hk : (key == other) = false := by simpa using Ne.symm ho
      by_cases h : category = other
      · simp [alter, ho, h]
      · have hc : (category == other) = false := by simpa using h
        simpa [alter, List.lookup_cons, ho, hc, hk] using ih

theorem addMember_eq_alter (key member : String) (sets : List (String × List String)) :
    addMember key member sets = alter key (fun members =>
      if (members.getD []).contains member then members.getD []
      else members.getD [] ++ [member]) sets := by
  induction sets with
  | nil => rfl
  | cons entry rest ih => rw [addMember, alter, ih]; rfl

theorem countOne_eq_alter (key : String) (counters : List (String × Nat)) :
    countOne key counters = alter key (fun count => count.getD 0 + 1) counters := by
  induction counters with
  | nil => rfl
  | cons entry rest ih => rw [countOne, alter, ih]; rfl

/-- A key that is changed is a key of the table, the last one if it is new. -/
theorem keys_alter (key : String) (change : Option β → β) (table : List (String × β)) :
    (alter key change table).map (·.1) =
      if key ∈ table.map (·.1) then table.map (·.1) else table.map (·.1) ++ [key] := by
  induction table with
  | nil => rfl
  | cons entry rest ih =>
    obtain ⟨other, value⟩ := entry
    by_cases ho : other = key
    · simp [alter, ho]
    · rw [alter, if_neg ho, List.map_cons, ih, List.map_cons]
      by_cases hk : key ∈ rest.map (·.1)
      · rw [if_pos hk, if_pos (List.mem_cons_of_mem _ hk)]
      · have hnew : key ∉ other :: rest.map (·.1) := by
          rw [List.mem_cons, not_or]
          exact ⟨Ne.symm ho, hk⟩
        rw [if_neg hk, if_neg hnew, List.cons_append]

/-- After changes for each element of a list, a key has the changes for the elements of that key. -/
theorem lookup_foldl_alter (key : γ → String) (change : γ → Option β → β) (xs : List γ)
    (table : List (String × β)) (category : String) :
    (xs.foldl (fun table x => alter (key x) (change x) table) table).lookup category =
      (xs.filter (key · == category)).foldl (fun value x => some (change x value))
        (table.lookup category) := by
  induction xs generalizing table with
  | nil => rfl
  | cons x rest ih =>
    rw [List.foldl_cons, ih, lookup_alter]
    by_cases h : category = key x
    · simp [h]
    · have hc : (key x == category) = false := by simpa using Ne.symm h
      simp [h, hc]

/-- The keys of such a table are those of the elements, in the order of their first occurrences. -/
theorem keys_foldl_alter (key : γ → String) (change : γ → Option β → β) (xs : List γ) :
    (xs.foldl (fun table x => alter (key x) (change x) table) []).map (·.1) =
      (xs.map key).eraseDups := by
  induction xs using List.reverseRecOn with
  | nil => rfl
  | append_singleton xs x ih =>
    rw [List.foldl_concat, keys_alter, ih, List.map_append, List.map_singleton, eraseDups_concat]
    simp only [List.mem_eraseDups]

end Alter

/-- The values that are paired with a key. -/
def paired (key : String) (pairs : List (String × String)) : List String :=
  (pairs.filter (·.1 == key)).map (·.2)

/-- Adding members one by one gives each once. -/
private theorem foldl_members (members : List String) :
    members.foldl (fun found member =>
        some (if (found.getD []).contains member then found.getD []
          else found.getD [] ++ [member])) none =
      if members.isEmpty then none else some members.eraseDups := by
  -- from the end: the last member is checked against what all others left
  induction members using List.reverseRecOn with
  | nil => rfl
  | append_singleton members member ih =>
    have hfound : (if members.isEmpty then none else some members.eraseDups).getD [] =
        members.eraseDups := by
      cases members <;> rfl
    rw [List.foldl_concat, ih, hfound, eraseDups_concat]
    by_cases hm : member ∈ members <;> simp [hm]

/-- Counting one by one gives the number. -/
private theorem foldl_count (members : List String) :
    members.foldl (fun (count : Option Nat) _ => some (count.getD 0 + 1)) none =
      if members.isEmpty then none else some members.length := by
  induction members using List.reverseRecOn with
  | nil => rfl
  | append_singleton members member ih =>
    rw [List.foldl_concat, ih]
    cases members <;> simp

/-- The categories of records with the identifiers of their entities. -/
def entries (records : List IssueRecord) : List (String × String) :=
  records.flatMap fun record => record.categories.map (·, record.entityId)

/-- Entering the categories of an entity enters them in both tables. -/
private theorem foldl_enter_tables (id : String) (categories : List String) (index : IssueIndex) :
    (categories.foldl (enter id) index).byCategory =
        (categories.map (·, id)).foldl (fun sets pair => addMember pair.1 pair.2 sets)
          index.byCategory ∧
      (categories.foldl (enter id) index).counters =
        (categories.map (·, id)).foldl (fun counters pair => countOne pair.1 counters)
          index.counters := by
  induction categories generalizing index with
  | nil => exact ⟨rfl, rfl⟩
  | cons category rest ih => exact ih _

/-- The tables of an index by category are those of its entries. -/
theorem tables_ofRecords (records : List IssueRecord) :
    (ofRecords records).byCategory =
        (entries records).foldl (fun sets pair => addMember pair.1 pair.2 sets) [] ∧
      (ofRecords records).counters =
        (entries records).foldl (fun counters pair => countOne pair.1 counters) [] := by
  induction records using List.reverseRecOn with
  | nil => exact ⟨rfl, rfl⟩
  | append_singleton records record ih =>
    obtain ⟨hsets, hcounters⟩ := ih
    have htables := foldl_enter_tables record.entityId record.categories
      ⟨(ofRecords records).byCategory,
        putIntoGroup record.entityId record (ofRecords records).byId, (ofRecords records).counters⟩
    rw [ofRecords, List.foldl_concat, entries, List.flatMap_append, List.flatMap_singleton,
      List.foldl_append, List.foldl_append]
    exact ⟨htables.1.trans (by rw [hsets]; rfl), htables.2.trans (by rw [hcounters]; rfl)⟩

/-- Under a category, an index has the identifiers that were entered, each once. -/
theorem lookup_byCategory (records : List IssueRecord) (category : String) :
    (ofRecords records).byCategory.lookup category =
      if (paired category (entries records)).isEmpty then none
      else some (paired category (entries records)).eraseDups := by
  simp only [(tables_ofRecords records).1, addMember_eq_alter]
  rw [lookup_foldl_alter Prod.fst fun pair found =>
    if (found.getD []).contains pair.2 then found.getD [] else found.getD [] ++ [pair.2]]
  exact List.foldl_map.symm.trans (foldl_members _)

/-- Under a category, an index has the number of entries. -/
theorem lookup_counters (records : List IssueRecord) (category : String) :
    (ofRecords records).counters.lookup category =
      if (paired category (entries records)).isEmpty then none
      else some (paired category (entries records)).length := by
  simp only [(tables_ofRecords records).2, countOne_eq_alter]
  rw [lookup_foldl_alter Prod.fst fun _ count => count.getD 0 + 1]
  exact List.foldl_map.symm.trans (foldl_count (paired category (entries records)))

/-- The counter that a report has for a category. -/
theorem counters_toJson (index : IssueIndex) (category : String) :
    (index.toJson.get "counters").get category =
      ((index.counters.lookup category).map Json.nat).getD .null := by
  rw [← lookup_map_snd]
  rfl

/-- The identifiers that a report has for a category. -/
theorem byCategory_toJson (index : IssueIndex) (category : String) :
    (index.toJson.get "by_category").get category =
      ((index.byCategory.lookup category).map fun ids =>
        Json.strings (ids.mergeSort fun a b => a ≤ b)).getD .null := by
  rw [← lookup_map_snd]
  rfl

/-- Putting a record into its group changes the group of its identifier alone. -/
private theorem putIntoGroup_eq_alter (id : String) (record : IssueRecord)
    (groups : List (String × List IssueRecord)) : putIntoGroup id record groups =
      alter id (fun records => records.getD [] ++ [record]) groups := by
  induction groups with
  | nil => rfl
  | cons group rest ih => rw [putIntoGroup, alter, ih]; rfl

/-- Collecting records one by one gives them in their order. -/
private theorem foldl_records (records : List IssueRecord) :
    (records.foldl (fun (found : Option (List IssueRecord)) record =>
      some (found.getD [] ++ [record])) none).getD [] = records := by
  induction records using List.reverseRecOn with
  | nil => rfl
  | append_singleton records record ih => rw [List.foldl_concat, ih, Option.getD_some]

/-- The groups of an index are those of its records by their identifiers. -/
theorem byId_ofRecords (records : List IssueRecord) :
    (ofRecords records).byId = records.foldl (fun groups record =>
      alter record.entityId (fun found => found.getD [] ++ [record]) groups) [] := by
  induction records using List.reverseRecOn with
  | nil => rfl
  | append_singleton records record ih =>
    rw [ofRecords, List.foldl_concat, List.foldl_concat, insert, (foldl_enter ..).1, ← ih]
    exact putIntoGroup_eq_alter ..

/-- Under an identifier, an index has the records of that identifier in their order. -/
theorem lookup_byId (records : List IssueRecord) (id : String) :
    ((ofRecords records).byId.lookup id).getD [] = records.filter (·.entityId == id) := by
  rw [byId_ofRecords,
    lookup_foldl_alter IssueRecord.entityId fun record found => found.getD [] ++ [record]]
  exact foldl_records _

/-- The records of an entity are those of its identifier and, if one is asked for, of its type, in
their order. -/
theorem recordsOf_ofRecords (records : List IssueRecord) (id : String)
    (entityType : Option String) : (ofRecords records).recordsOf id entityType =
      records.filter fun record =>
        record.entityId == id && entityType.all (record.entityType == ·) := by
  unfold recordsOf
  rw [lookup_byId]
  cases entityType with
  | none => simp
  | some type => simp [List.filter_filter, Bool.and_comm]

section Entries

variable {records others : List IssueRecord}

/-- The same entries in another order give a report the same under every category. -/
theorem toJson_eq_of_perm (h : (entries records).Perm (entries others)) (category : String) :
    ((ofRecords records).toJson.get "counters").get category =
        ((ofRecords others).toJson.get "counters").get category ∧
      ((ofRecords records).toJson.get "by_category").get category =
        ((ofRecords others).toJson.get "by_category").get category := by
  have hpaired : (paired category (entries records)).Perm (paired category (entries others)) :=
    (h.filter _).map _
  have hsorted := mergeSort_eq_of_perm id (fun _ _ _ _ he => he)
    (eraseDups_perm_of_mem_iff fun id => hpaired.mem_iff (a := id))
  rw [counters_toJson, counters_toJson, byCategory_toJson, byCategory_toJson, lookup_counters,
    lookup_counters, lookup_byCategory, lookup_byCategory, hpaired.isEmpty_eq, hpaired.length_eq]
  refine ⟨rfl, ?_⟩
  split
  · rfl
  · exact congrArg Json.strings hsorted

end Entries

end IssueIndex

end TagAudit
