import Mathlib
import TagAudit.Json.Reader

/-!
# Distinct keys

The objects of an export have every key once: the reader assigns the members it reads, so a key
that is repeated replaces its value.
-/

namespace TagAudit.Json

mutual

/-- Does every object in the value have its keys once? -/
def hasDistinctKeys : Json → Bool
  | array xs => itemsHaveDistinctKeys xs
  | object ms => decide (ms.map (·.1)).Nodup && membersHaveDistinctKeys ms
  | _ => true

/-- Does every object in the items have its keys once? -/
def itemsHaveDistinctKeys : List Json → Bool
  | [] => true
  | x :: xs => hasDistinctKeys x && itemsHaveDistinctKeys xs

/-- Does every object in the values of the members have its keys once? -/
def membersHaveDistinctKeys : List (String × Json) → Bool
  | [] => true
  | (_, value) :: rest => hasDistinctKeys value && membersHaveDistinctKeys rest

end

@[simp] theorem hasDistinctKeys_array {xs : List Json} :
    (array xs).hasDistinctKeys = true ↔ ∀ x ∈ xs, x.hasDistinctKeys = true := by
  rw [hasDistinctKeys]
  induction xs with
  | nil => simp [itemsHaveDistinctKeys]
  | cons x xs ih => simp [itemsHaveDistinctKeys, ih]

@[simp] theorem hasDistinctKeys_object {ms : List (String × Json)} :
    (object ms).hasDistinctKeys = true ↔
      (ms.map (·.1)).Nodup ∧ ∀ m ∈ ms, m.2.hasDistinctKeys = true := by
  have hmembers : membersHaveDistinctKeys ms = true ↔ ∀ m ∈ ms, m.2.hasDistinctKeys = true := by
    induction ms with
    | nil => simp [membersHaveDistinctKeys]
    | cons m ms ih =>
      simp only [membersHaveDistinctKeys, Bool.and_eq_true, ih, List.forall_mem_cons]
  rw [hasDistinctKeys, Bool.and_eq_true, decide_eq_true_iff, hmembers]

/-- Lists of texts have no objects in them. -/
theorem hasDistinctKeys_strings (texts : List String) : (strings texts).hasDistinctKeys = true := by
  refine hasDistinctKeys_array.mpr fun x hx => ?_
  obtain ⟨s, -, rfl⟩ := List.mem_map.mp hx
  rfl

/-- What a key of a value holds has its keys once where the value does. -/
theorem hasDistinctKeys_get {value : Json} (h : value.hasDistinctKeys = true) (key : String) :
    (value.get key).hasDistinctKeys = true := by
  unfold get get?
  cases value with
  | object ms =>
    cases hl : ms.lookup key with
    | none => simp [hl, hasDistinctKeys]
    | some v =>
      obtain ⟨before, after, rfl, -⟩ := List.lookup_eq_some_iff.mp hl
      simpa [hl] using (hasDistinctKeys_object.mp h).2 (key, v) (by simp)
  | _ => rfl

/-- The items of a value have their keys once where the value does. -/
theorem hasDistinctKeys_of_mem_items {value x : Json} (h : value.hasDistinctKeys = true)
    (hx : x ∈ value.items) : x.hasDistinctKeys = true := by
  cases value with
  | array xs => exact hasDistinctKeys_array.mp h x hx
  | _ => cases hx

/-- An assignment adds its key or leaves the keys as they are. -/
theorem keys_assign (key : String) (value : Json) (ms : List (String × Json)) :
    (assign key value ms).map (·.1) =
      if key ∈ ms.map (·.1) then ms.map (·.1) else ms.map (·.1) ++ [key] := by
  induction ms with
  | nil => rfl
  | cons m ms ih =>
    obtain ⟨k, v⟩ := m
    rw [assign]
    by_cases hk : k = key
    · simp [hk]
    · rw [if_neg hk, List.map_cons, ih, List.map_cons]
      by_cases hmem : key ∈ ms.map (·.1)
      · rw [if_pos hmem, if_pos (List.mem_cons_of_mem _ hmem)]
      · rw [if_neg hmem, if_neg (by simpa [hmem] using Ne.symm hk), List.cons_append]

/-- A member after an assignment is the assigned one or was there before. -/
theorem eq_or_mem_of_mem_assign {key : String} {value : Json} {ms : List (String × Json)}
    {m : String × Json} (h : m ∈ assign key value ms) : m = (key, value) ∨ m ∈ ms := by
  induction ms with
  | nil => exact Or.inl (List.mem_singleton.mp h)
  | cons n ms ih =>
    obtain ⟨k, v⟩ := n
    rw [assign] at h
    split at h
    · rename_i hk
      rcases List.mem_cons.mp h with rfl | h
      · exact Or.inl (by rw [hk])
      · exact Or.inr (List.mem_cons_of_mem _ h)
    · rcases List.mem_cons.mp h with rfl | h
      · exact Or.inr (List.mem_cons_self ..)
      · exact (ih h).imp_right (List.mem_cons_of_mem _)

/-- An assignment keeps keys distinct. -/
theorem nodup_keys_assign {ms : List (String × Json)} (h : (ms.map (·.1)).Nodup) (key : String)
    (value : Json) : ((assign key value ms).map (·.1)).Nodup := by
  rw [keys_assign]
  split
  · exact h
  · rename_i hk
    refine List.nodup_append.mpr ⟨h, List.nodup_singleton _, ?_⟩
    rintro k hmem _ hs rfl
    rw [List.mem_singleton.mp hs] at hmem
    exact hk hmem

/-- An assignment of a value with distinct keys keeps keys distinct at every depth. -/
theorem hasDistinctKeys_assign {value : Json} {ms : List (String × Json)}
    (hms : (object ms).hasDistinctKeys = true) (hvalue : value.hasDistinctKeys = true)
    (key : String) :
    (object (assign key value ms)).hasDistinctKeys = true := by
  obtain ⟨hkeys, hvalues⟩ := hasDistinctKeys_object.mp hms
  refine hasDistinctKeys_object.mpr ⟨nodup_keys_assign hkeys key value, ?_⟩
  intro m hm
  rcases eq_or_mem_of_mem_assign hm with rfl | hm
  · exact hvalue
  · exact hvalues m hm

/-- Only numbers are read where a number is. -/
theorem exists_eq_number_of_readNumber {s rest : List Char} {value : Json}
    (h : readNumber s = .ok (value, rest)) : ∃ n, value = number n := by
  have hlast : ∀ (simple long : Prop) [Decidable simple] [Decidable long] (n m : Number)
      (a b : List Char), (if simple then if long then .error .integerTooLong else .ok (number n, a)
        else .ok (number m, b) : Except ReadError (Json × List Char)) = .ok (value, rest) →
      ∃ n, value = number n := by
    intro simple long _ _ n m a b h
    split at h
    · split at h
      · cases h
      · cases h
        exact ⟨n, rfl⟩
    · cases h
      exact ⟨m, rfl⟩
  unfold readNumber at h
  dsimp only at h
  split at h
  · cases h
  · split at h
    · cases h
    · exact hlast _ _ _ _ _ _ h
/-- A word or number is no object and no array. -/
theorem hasDistinctKeys_of_readScalar {s rest : List Char} {value : Json}
    (h : readScalar s = .ok (value, rest)) : value.hasDistinctKeys = true := by
  have hwords : ∀ w ∈ words, w.2.hasDistinctKeys = true := by
    simp [words, hasDistinctKeys]
  unfold readScalar at h
  split at h
  · rename_i word v hfind
    cases h
    exact hwords _ (List.mem_of_find?_eq_some hfind)
  · obtain ⟨n, rfl⟩ := exists_eq_number_of_readNumber h
    rfl

/-- The readers of values, of items and of members read, with some fuel, values that have their
keys once. -/
structure ReadsDistinctKeys (fuel : ℕ) : Prop where
  value : ∀ {s v rest}, readValue fuel s = .ok (v, rest) → v.hasDistinctKeys = true
  items : ∀ {read s v rest}, (∀ x ∈ read, x.hasDistinctKeys = true) →
    readItems fuel read s = .ok (v, rest) → v.hasDistinctKeys = true
  members : ∀ {read s v rest}, (object read).hasDistinctKeys = true →
    readMembers fuel read s = .ok (v, rest) → v.hasDistinctKeys = true

namespace ReadsDistinctKeys

variable {fuel : ℕ}

/-- A value is a string, an array, an object, a word or a number. -/
theorem value_succ (ih : ReadsDistinctKeys fuel) {s rest : List Char} {v : Json}
    (h : readValue (fuel + 1) s = .ok (v, rest)) : v.hasDistinctKeys = true := by
  cases s with
  | nil => cases h
  | cons c s =>
    rw [readValue] at h
    split at h
    · cases hs : readString (s.length + 1) [] s with
      | error e =>
        rw [hs] at h
        cases h
      | ok text =>
        rw [hs] at h
        cases h
        rfl
    split at h
    · split at h
      · cases h
        rfl
      · exact ih.items (List.forall_mem_nil _) h
    split at h
    · split at h
      · cases h
        rfl
      · exact ih.members (by decide) h
    · exact hasDistinctKeys_of_readScalar h

/-- One more item joins the ones that are read. -/
theorem items_succ (ih : ReadsDistinctKeys fuel) {read : List Json} {s rest : List Char} {v : Json}
    (hread : ∀ x ∈ read, x.hasDistinctKeys = true)
    (h : readItems (fuel + 1) read s = .ok (v, rest)) : v.hasDistinctKeys = true := by
  rw [readItems] at h
  split at h
  · cases h
  · rename_i item after hitem
    have hall : ∀ x ∈ item :: read, x.hasDistinctKeys = true :=
      List.forall_mem_cons.mpr ⟨ih.value hitem, hread⟩
    split at h
    · cases h
      exact hasDistinctKeys_array.mpr fun x hx => hall x (List.mem_reverse.mp hx)
    · exact ih.items hall h
    · cases h

/-- One more member is assigned to the ones that are read. -/
theorem members_succ (ih : ReadsDistinctKeys fuel) {read : List (String × Json)}
    {s rest : List Char} {v : Json} (hread : (object read).hasDistinctKeys = true)
    (h : readMembers (fuel + 1) read s = .ok (v, rest)) : v.hasDistinctKeys = true := by
  rw [readMembers.eq_def] at h
  dsimp only at h
  split at h
  · split at h
    · cases h
    rename_i key afterKey hkey
    split at h
    · split at h
      · cases h
      rename_i member after hmember
      have hassign := hasDistinctKeys_assign hread (ih.value hmember) key
      split at h
      · cases h
        exact hassign
      · exact ih.members hassign h
      · cases h
    · cases h
  · cases h

end ReadsDistinctKeys

/-- The readers read values that have their keys once, whatever the fuel. -/
theorem readsDistinctKeys (fuel : ℕ) : ReadsDistinctKeys fuel := by
  induction fuel with
  | zero => exact ⟨nofun, fun _ => nofun, fun _ => nofun⟩
  | succ fuel ih => exact ⟨ih.value_succ, ih.items_succ, ih.members_succ⟩

/-- Every exported value has its keys once. -/
theorem hasDistinctKeys_of_read {source : List Char} {value : Json}
    (h : read source = .ok value) : value.hasDistinctKeys = true := by
  unfold read at h
  split at h
  · cases h
  · split at h
    · cases h
    · rename_i value' rest hread
      split at h
      · cases h
        exact (readsDistinctKeys _).value hread
      · cases h

end TagAudit.Json
