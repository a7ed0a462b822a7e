import Mathlib
import TagAudit.Json.Basic

/-!
# Values up to the order of members

The order of the members of an object says nothing about it, at any depth. Everything else about a
value counts: the places of items, the kind of a value and the form of a number.
-/

namespace TagAudit.Json

/-- Two values differ in the order of members only, at every depth. Items keep their places. -/
inductive Rearranged : Json → Json → Prop
  | null : Rearranged null null
  | bool (b : Bool) : Rearranged (bool b) (bool b)
  | number (n : Number) : Rearranged (number n) (number n)
  | string (s : String) : Rearranged (string s) (string s)
  | array {xs ys : List Json} (items : List.Forall₂ Rearranged xs ys) :
      Rearranged (array xs) (array ys)
  | object {ms zs ns : List (String × Json)} (keys : ms.map (·.1) = zs.map (·.1))
      (values : List.Forall₂ Rearranged (ms.map (·.2)) (zs.map (·.2))) (order : zs.Perm ns) :
      Rearranged (object ms) (object ns)

/-- Induction on a value through the items of its arrays and the members of its objects. -/
@[elab_as_elim]
theorem induction {motive : Json → Prop} (null : motive null) (bool : ∀ b, motive (bool b))
    (number : ∀ n, motive (number n)) (string : ∀ s, motive (string s))
    (array : ∀ xs, (∀ x ∈ xs, motive x) → motive (array xs))
    (object : ∀ ms, (∀ m ∈ ms, motive m.2) → motive (object ms)) (value : Json) :
    motive value :=
  @Json.rec motive (fun xs => ∀ x ∈ xs, motive x) (fun ms => ∀ m ∈ ms, motive m.2)
    (fun m => motive m.2) null bool number string array object
    (List.forall_mem_nil _) (fun _ _ hx hxs => List.forall_mem_cons.mpr ⟨hx, hxs⟩)
    (List.forall_mem_nil _) (fun _ _ hm hms => List.forall_mem_cons.mpr ⟨hm, hms⟩)
    (fun _ _ hv => hv) value

/-- Members that agree one by one in keys and values. -/
theorem forall₂_members {R : Json → Json → Prop} {ms ns : List (String × Json)} :
    List.Forall₂ (fun m n => m.1 = n.1 ∧ R m.2 n.2) ms ns ↔
      ms.map (·.1) = ns.map (·.1) ∧ List.Forall₂ R (ms.map (·.2)) (ns.map (·.2)) := by
  induction ms generalizing ns with
  | nil => cases ns <;> simp
  | cons m ms ih =>
    cases ns with
    | nil => simp
    | cons n ns =>
      simp only [List.forall₂_cons, List.map_cons, List.cons.injEq, ih]
      tauto

/-- A value is a rearrangement of itself. -/
theorem Rearranged.refl (value : Json) : Rearranged value value := by
  induction value using Json.induction with
  | null => exact .null
  | bool b => exact .bool b
  | number n => exact .number n
  | string s => exact .string s
  | array xs ih => exact .array (List.forall₂_same.mpr ih)
  | object ms ih =>
    refine .object rfl (List.forall₂_same.mpr ?_) (List.Perm.refl ms)
    intro v hv
    obtain ⟨m, hm, rfl⟩ := List.mem_map.mp hv
    exact ih m hm

/-- The order of members with distinct keys does not matter to looking a key up. -/
theorem lookup_eq_of_perm {ms ns : List (String × Json)} (hkeys : (ms.map (·.1)).Nodup)
    (h : ms.Perm ns) (key : String) : ms.lookup key = ns.lookup key := by
  induction h with
  | nil => rfl
  | cons m _ ih =>
    obtain ⟨k, v⟩ := m
    rw [List.lookup_cons, List.lookup_cons, ih (List.nodup_cons.mp hkeys).2]
  | swap m n ms =>
    obtain ⟨j, v⟩ := m
    obtain ⟨k, w⟩ := n
    have hne : ¬ k = j := fun he => (List.nodup_cons.mp hkeys).1 (he ▸ List.mem_cons_self ..)
    simp only [List.lookup_cons]
    by_cases hj : key = j
    · have hk : (key == k) = false := by simpa using fun he : key = k => hne (he.symm.trans hj)
      have hj : (key == j) = true := by simpa using hj
      rw [hk, hj]
    · have hj : (key == j) = false := by simpa using hj
      rw [hj]
  | trans h _ ih ih' => rw [ih hkeys, ih' ((h.map _).nodup_iff.mp hkeys)]

/-- A key holds rearrangements in rearrangements. -/
theorem Rearranged.get {a b : Json} (h : Rearranged a b) (hb : (b.members.map (·.1)).Nodup)
    (key : String) : Rearranged (a.get key) (b.get key) := by
  cases h with
  | @object ms zs ns hkeys hvalues hperm =>
    have hlookup : zs.lookup key = ns.lookup key :=
      lookup_eq_of_perm ((hperm.map _).nodup_iff.mpr hb) hperm key
    change Rearranged ((ms.lookup key).getD .null) ((ns.lookup key).getD .null)
    rw [← hlookup]
    have hmembers := forall₂_members.mpr ⟨hkeys, hvalues⟩
    clear hkeys hvalues hperm hlookup
    induction hmembers with
    | nil => exact .null
    | @cons m n ms zs hmn _ ih =>
      obtain ⟨k, v⟩ := m
      obtain ⟨k', w⟩ := n
      obtain ⟨rfl, hvw⟩ := hmn
      rw [List.lookup_cons, List.lookup_cons]
      cases key == k
      · exact ih
      · exact hvw
  | null => exact .null
  | bool b => exact .null
  | number n => exact .null
  | string s => exact .null
  | array _ => exact .null

/-- Strings are rearrangements of themselves only. -/
theorem Rearranged.eq_of_string {s t : String} (h : Rearranged (.string s) (.string t)) :
    s = t := by
  cases h
  rfl

/-- Lists of texts are rearrangements of themselves only. -/
theorem Rearranged.eq_of_strings {s t : List String}
    (h : Rearranged (strings s) (strings t)) : s = t := by
  cases h with
  | array hitems =>
    rw [List.forall₂_map_left_iff, List.forall₂_map_right_iff] at hitems
    rw [← List.forall₂_eq_eq_eq]
    exact hitems.imp fun _ _ hst => hst.eq_of_string

end TagAudit.Json
