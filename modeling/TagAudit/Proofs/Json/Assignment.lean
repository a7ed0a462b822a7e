import TagAudit.Proofs.Json.DistinctKeys

/-!
# Assigning members

What an object holds under a key after assignments: the last one of that key, or else what it held
before. Assigning all members of an object that grew out of another one, to that one, gives the
grown object again.
-/

namespace TagAudit

/-- A value with a member replaced or added; only objects have members. -/
def Json.replace (value : Json) (key : String) (member : Json) : Json :=
  match value with
  | .object members => .object (assign key member members)
  | _ => value

theorem Json.get?_replace_self {key : String} {member value : Json} (h : value.isObject = true) :
    (value.replace key member).get? key = some member := by
  cases value with
  | object members => exact lookup_assign_self ..
  | _ => cases h

theorem Json.get_replace_self {key : String} {member value : Json} (h : value.isObject = true) :
    (value.replace key member).get key = member :=
  congrArg (·.getD null) (get?_replace_self h)

theorem Json.get?_replace_of_ne {key other : String} (ne : other ≠ key) (member value : Json) :
    (value.replace key member).get? other = value.get? other := by
  cases value with
  | object members => exact lookup_assign_of_ne ne ..
  | _ => rfl

theorem Json.get_replace_of_ne {key other : String} (ne : other ≠ key) (member value : Json) :
    (value.replace key member).get other = value.get other :=
  congrArg (·.getD null) (get?_replace_of_ne ne member value)

@[simp] theorem Json.isObject_replace (value : Json) (key : String) (member : Json) :
    (value.replace key member).isObject = value.isObject := by
  cases value <;> rfl

namespace Json

/-- A key has the value of its last assignment, or else the value that it had. -/
theorem lookup_assignAll (members assignments : List (String × Json)) (key : String) :
    (assignAll members assignments).lookup key =
      (assignments.reverse.lookup key).or (members.lookup key) := by
  induction assignments generalizing members with
  | nil => rfl
  | cons assignment rest ih =>
    obtain ⟨k, v⟩ := assignment
    have hstep : assignAll members ((k, v) :: rest) = assignAll (assign k v members) rest := rfl
    rw [hstep, ih, List.reverse_cons, List.lookup_append, Option.or_assoc]
    congr 1
    by_cases hk : key = k
    · rw [hk, lookup_assign_self, List.lookup_cons_self, Option.some_or]
    · have hne : (key == k) = false := by simpa using hk
      rw [lookup_assign_of_ne hk, List.lookup_cons, hne, List.lookup_nil, Option.none_or]

/-- A new key comes after the others. -/
theorem assign_of_not_mem {key : String} {members : List (String × Json)}
    (h : key ∉ members.map (·.1)) (value : Json) :
    assign key value members = members ++ [(key, value)] := by
  induction members with
  | nil => rfl
  | cons member rest ih =>
    obtain ⟨k, v⟩ := member
    have hk : key ≠ k := List.ne_of_not_mem_cons h
    rw [assign, if_neg hk.symm, ih (List.not_mem_of_not_mem_cons h), List.cons_append]

/-- A key keeps its place. -/
theorem assign_append_cons {key : String} {before : List (String × Json)}
    (h : key ∉ before.map (·.1)) (old value : Json) (after : List (String × Json)) :
    assign key value (before ++ (key, old) :: after) = before ++ (key, value) :: after := by
  induction before with
  | nil => simp [assign]
  | cons member rest ih =>
    obtain ⟨k, v⟩ := member
    have hk : key ≠ k := List.ne_of_not_mem_cons h
    rw [List.cons_append, assign, if_neg hk.symm, ih (List.not_mem_of_not_mem_cons h),
      List.cons_append]

/-- Assignments of distinct keys that begin with the keys present, in their order, replace all
members. -/
theorem assignAll_eq_self {members assignments : List (String × Json)}
    (hkeys : (assignments.map (·.1)).Nodup)
    (hgrown : members.map (·.1) <+: assignments.map (·.1)) :
    assignAll members assignments = assignments := by
  -- what was assigned already stands before the members that are still to be replaced
  suffices h : ∀ before : List (String × Json), ((before ++ assignments).map (·.1)).Nodup →
      assignAll (before ++ members) assignments = before ++ assignments from
    h [] hkeys
  clear hkeys
  induction assignments generalizing members with
  | nil =>
    intro before _
    have hnil : members = [] := by simpa using hgrown
    rw [hnil]
    rfl
  | cons assignment rest ih =>
    intro before hdistinct
    obtain ⟨k, v⟩ := assignment
    have hmoved : before ++ (k, v) :: rest = (before ++ [(k, v)]) ++ rest := by simp
    have hfresh : k ∉ before.map (·.1) := by
      rw [List.map_append, List.map_cons] at hdistinct
      exact fun hk => (List.nodup_append.mp hdistinct).2.2 k hk k (List.mem_cons_self ..) rfl
    have hstep (ms : List (String × Json)) :
        assignAll ms ((k, v) :: rest) = assignAll (assign k v ms) rest := rfl
    rw [hstep, hmoved]
    cases members with
    | nil =>
      rw [List.append_nil, assign_of_not_mem hfresh]
      have hrest := @ih [] List.nil_prefix (before ++ [(k, v)]) (hmoved ▸ hdistinct)
      rwa [List.append_nil] at hrest
    | cons member others =>
      obtain ⟨j, old⟩ := member
      obtain ⟨hj, hothers⟩ := List.cons_prefix_cons.mp hgrown
      cases hj
      rw [assign_append_cons hfresh, List.append_cons]
      exact ih hothers (before ++ [(k, v)]) (hmoved ▸ hdistinct)

/-- Assignments keep the keys present, in their order, before the new ones. -/
theorem prefix_keys_assignAll (members assignments : List (String × Json)) :
    members.map (·.1) <+: (assignAll members assignments).map (·.1) := by
  induction assignments generalizing members with
  | nil => exact List.prefix_rfl
  | cons assignment rest ih =>
    obtain ⟨k, v⟩ := assignment
    refine List.IsPrefix.trans ?_ (ih (assign k v members))
    rw [keys_assign]
    split
    · exact List.prefix_rfl
    · exact List.prefix_append ..

/-- Assignments keep keys distinct. -/
theorem nodup_keys_assignAll {members : List (String × Json)} (h : (members.map (·.1)).Nodup)
    (assignments : List (String × Json)) :
    ((assignAll members assignments).map (·.1)).Nodup := by
  induction assignments generalizing members with
  | nil => exact h
  | cons assignment rest ih =>
    obtain ⟨k, v⟩ := assignment
    exact ih (nodup_keys_assign h k v)

end Json

end TagAudit
