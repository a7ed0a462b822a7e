import Mathlib.Data.List.TakeWhile
import TagAudit.Regex.Check

/-!
# Escaped backslashes in spelled expressions

An escape is a backslash with the character that it takes along. A text whose escapes are all
complete is spelled on its own, whatever follows it after a backslash. The spelling of references to
groups is the one step that does not read escapes as such: it takes the second backslash of an
escaped backslash for the beginning of a reference. So an escaped backslash is kept apart from the
text after it exactly if that text would not complete a reference.
-/

namespace TagAudit.Regex

section Dangling

/-- Is the last backslash of a text left without a character to take along? The text begins inside
of an escape if `opened`. -/
def dangles (opened : Bool) (s : List Char) : Bool :=
  s.foldl (fun opened c => !opened && c == '\\') opened

variable {opened : Bool} {c : Char} {s t : List Char}

@[simp] theorem dangles_nil : dangles opened [] = opened := rfl

theorem dangles_cons : dangles opened (c :: s) = dangles (!opened && c == '\\') s := rfl

/-- Any other character than a backslash completes an escape or begins none. -/
@[simp] theorem dangles_cons_of_ne (hc : c ≠ '\\') :
    dangles opened (c :: s) = dangles false s := by
  rw [dangles_cons, beq_false_of_ne hc, Bool.and_false]

theorem dangles_append : dangles opened (s ++ t) = dangles (dangles opened s) t :=
  List.foldl_append

/-- What stands before another character than a backslash does not matter after it. -/
theorem dangles_append_cons_of_ne (hc : c ≠ '\\') :
    dangles opened (s ++ c :: t) = dangles false t := by
  rw [dangles_append, dangles_cons_of_ne hc]

end Dangling

section Groups

/-- A character that opens no group is kept. -/
theorem spellGroups_cons {c : Char} (hc : c ≠ '(') (s : List Char) :
    spellGroups (c :: s) = c :: spellGroups s := by
  rw [spellGroups]
  rintro rest rfl
  exact absurd rfl hc

/-- The beginning of a named group does not reach over a backslash. -/
theorem spellGroups_append (p t : List Char) :
    spellGroups (p ++ '\\' :: t) = spellGroups p ++ '\\' :: spellGroups t := by
  fun_induction spellGroups p with
  | case1 rest hhead ih =>
    have hhead' : (rest ++ '\\' :: t).head? = some '=' ∨ (rest ++ '\\' :: t).head? = some '!' := by
      cases rest with
      | nil => simp at hhead
      | cons d rest => exact hhead
    simp only [List.cons_append]
    rw [spellGroups, if_pos hhead', ih]
  | case2 rest hhead ih =>
    have hhead' : ¬ ((rest ++ '\\' :: t).head? = some '=' ∨
        (rest ++ '\\' :: t).head? = some '!') := by
      cases rest with
      | nil => simp
      | cons d rest => exact hhead
    simp only [List.cons_append]
    rw [spellGroups, if_neg hhead', ih]
  | case3 c rest hplain ih =>
    rw [List.cons_append, List.cons_append, ← ih, spellGroups]
    intro later hc hlater
    -- The rest of the opening stands before the backslash.
    match rest, hlater with
    | [], hlater => simp at hlater
    | [d], hlater => simp at hlater
    | d :: e :: rest, hlater =>
      simp only [List.cons_append, List.cons.injEq] at hlater
      obtain ⟨rfl, rfl, -⟩ := hlater
      exact hplain rest hc rfl
  | case4 => exact spellGroups_cons (by decide) t

/-- Spelling groups leaves a text inside or outside of an escape. -/
theorem dangles_spellGroups (opened : Bool) (s : List Char) :
    dangles opened (spellGroups s) = dangles opened s := by
  fun_induction spellGroups s generalizing opened with
  | case1 rest _ ih => simp [ih]
  | case2 rest _ ih => simp [ih]
  | case3 c rest _ ih => rw [dangles_cons, dangles_cons, ih]
  | case4 => rfl

end Groups

section Names

/-- May the character stand in a group's name? -/
def continuesName (c : Char) : Bool := c.isAlphanum || c == '_'

/-- A group's name of ASCII letters, digits and underscores that does not begin with a digit. -/
structure IsGroupName (name : List Char) : Prop where
  starts : name.head?.any startsName = true
  continues : ∀ c ∈ name, continuesName c = true

/-- What is read before a closing angle bracket is a group's name. -/
theorem angledName?_eq_some_iff {s name after : List Char} :
    angledName? s = some (name, after) ↔ s = name ++ '>' :: after ∧ IsGroupName name := by
  constructor
  · intro h
    have hsplit : s.drop (s.takeWhile continuesName).length = s.dropWhile continuesName := by
      calc s.drop (s.takeWhile continuesName).length
          = (s.takeWhile continuesName ++ s.dropWhile continuesName).drop
              (s.takeWhile continuesName).length := by rw [List.takeWhile_append_dropWhile]
        _ = s.dropWhile continuesName := List.drop_left
    simp only [angledName?] at h
    split at h
    next later hlater =>
      split at h
      next hstarts =>
        obtain ⟨rfl, rfl⟩ := Prod.mk.inj (Option.some.inj h)
        refine ⟨?_, hstarts, fun c hc => List.mem_takeWhile_imp hc⟩
        rw [← hlater]
        exact (List.takeWhile_append_dropWhile.symm.trans (congrArg _ hsplit.symm))
      next => cases h
    next => cases h
  · rintro ⟨rfl, hstarts, hcontinues⟩
    have hstop : ¬ continuesName '>' = true := by decide
    have htake : (name ++ '>' :: after).takeWhile (fun c => c.isAlphanum || c == '_') = name := by
      have hwhole : (name ++ '>' :: after).takeWhile continuesName = name := by
        rw [List.takeWhile_append_of_pos hcontinues, List.takeWhile_cons_of_neg hstop,
          List.append_nil]
      exact hwhole
    simp only [angledName?, htake, List.drop_left]
    exact if_pos hstarts

theorem IsGroupName.ne {name : List Char} (h : IsGroupName name) {c d : Char} (hc : c ∈ name)
    (hd : continuesName d = false) : c ≠ d := by
  rintro rfl
  rw [h.continues c hc] at hd
  cases hd

/-- The name and the text after it, if a text begins with a reference to a group. -/
def reference? : List Char → Option (List Char × List Char)
  | '\\' :: 'k' :: '<' :: inside => angledName? inside
  | _ => none

theorem reference?_eq_some_iff {s name after : List Char} :
    reference? s = some (name, after) ↔
      s = '\\' :: 'k' :: '<' :: (name ++ '>' :: after) ∧ IsGroupName name := by
  rw [reference?.eq_def]
  split
  next inside =>
    rw [angledName?_eq_some_iff]
    simp
  next hnot =>
    simp only [reduceCtorEq, false_iff, not_and]
    rintro rfl
    exact absurd rfl (hnot _)

end Names

section References

theorem spellReferencesFrom_succ (fuel : Nat) (c : Char) (rest : List Char) :
    spellReferencesFrom (fuel + 1) (c :: rest) =
      match reference? (c :: rest) with
      | some (name, after) => "(?P=".toList ++ name ++ ')' :: spellReferencesFrom fuel after
      | none => c :: spellReferencesFrom fuel rest := by
  by_cases hopens : ∃ inside, c :: rest = '\\' :: 'k' :: '<' :: inside
  · obtain ⟨inside, hinside⟩ := hopens
    obtain ⟨rfl, rfl⟩ := List.cons.inj hinside
    cases hname : angledName? inside with
    | none => simp only [spellReferencesFrom, reference?, hname]
    | some found => simp only [spellReferencesFrom, reference?, hname]
  · have hnone : reference? (c :: rest) = none := by
      rw [Option.eq_none_iff_forall_ne_some]
      rintro ⟨name, after⟩ hsome
      exact hopens ⟨_, (reference?_eq_some_iff.mp hsome).1⟩
    rw [hnone, spellReferencesFrom]
    rintro inside rfl rfl
    exact hopens ⟨inside, rfl⟩

/-- So many characters and references as there are characters are all. -/
theorem spellReferencesFrom_eq {fuel : Nat} {s : List Char} (h : s.length ≤ fuel) :
    spellReferencesFrom fuel s = spellReferences s := by
  induction fuel using Nat.strongRecOn generalizing s with
  | _ fuel ih =>
    cases s with
    | nil => cases fuel <;> rfl
    | cons c rest =>
      obtain ⟨few, rfl⟩ : ∃ few, fuel = few + 1 := ⟨fuel - 1, by simp at h; omega⟩
      rw [spellReferences, List.length_cons, spellReferencesFrom_succ, spellReferencesFrom_succ]
      have hrest : rest.length ≤ few := Nat.le_of_succ_le_succ h
      cases href : reference? (c :: rest) with
      | none => simp only [ih few (Nat.lt_succ_self few) hrest]; rfl
      | some found =>
        obtain ⟨name, after⟩ := found
        obtain ⟨htext, -⟩ := reference?_eq_some_iff.mp href
        have hafter : after.length ≤ rest.length := by
          have hlength := congrArg List.length htext
          simp at hlength
          omega
        simp only [ih few (Nat.lt_succ_self few) (Nat.le_trans hafter hrest),
          ih rest.length (Nat.lt_succ_of_le hrest) hafter]

theorem spellReferences_of_eq_some {s name after : List Char}
    (h : reference? s = some (name, after)) :
    spellReferences s = "(?P=".toList ++ name ++ ')' :: spellReferences after := by
  obtain ⟨rfl, -⟩ := reference?_eq_some_iff.mp h
  rw [spellReferences, List.length_cons, spellReferencesFrom_succ, h]
  dsimp only
  rw [spellReferencesFrom_eq]
  simp
  omega

theorem spellReferences_of_eq_none {c : Char} {rest : List Char}
    (h : reference? (c :: rest) = none) :
    spellReferences (c :: rest) = c :: spellReferences rest := by
  rw [spellReferences, List.length_cons, spellReferencesFrom_succ, h]
  rfl

/-- A reference is complete before the next backslash, or it is none. -/
theorem reference?_append (c : Char) (p t : List Char) :
    reference? (c :: (p ++ '\\' :: t)) =
      (reference? (c :: p)).map fun found => (found.1, found.2 ++ '\\' :: t) := by
  ext found
  obtain ⟨name, after⟩ := found
  rw [Option.map_eq_some_iff]
  constructor
  · intro h
    obtain ⟨htext, hname⟩ := reference?_eq_some_iff.mp h
    have hwhole : (c :: p) ++ '\\' :: t = ('\\' :: 'k' :: '<' :: (name ++ ['>'])) ++ after := by
      simpa using htext
    rcases List.append_eq_append_iff.mp hwhole with ⟨left, hreference, hrest⟩ | ⟨left, hp, hafter⟩
    · cases left with
      | nil =>
        rw [List.append_nil] at hreference
        rw [List.nil_append] at hrest
        have hfound := reference?_eq_some_iff.mpr ⟨hreference.symm, hname⟩
        exact ⟨(name, []), hfound, by rw [← hrest]; rfl⟩
      | cons d left =>
        -- The reference would hold the backslash.
        obtain ⟨rfl, -⟩ := List.cons.inj hrest
        obtain ⟨-, hlater⟩ := List.cons.inj hreference
        have hmem : '\\' ∈ 'k' :: '<' :: (name ++ ['>']) := by simp [hlater]
        simp only [List.mem_cons, List.mem_append, List.not_mem_nil, or_false, Char.reduceEq,
          false_or] at hmem
        exact absurd rfl (hname.ne hmem (by decide))
    · refine ⟨(name, left), reference?_eq_some_iff.mpr ⟨?_, hname⟩, by rw [hafter]⟩
      simpa using hp
  · rintro ⟨⟨name', left⟩, h, heq⟩
    obtain ⟨rfl, rfl⟩ := Prod.mk.inj heq
    obtain ⟨htext, hname⟩ := reference?_eq_some_iff.mp h
    refine reference?_eq_some_iff.mpr ⟨?_, hname⟩
    rw [← List.cons_append, htext]
    simp

/-- A text before a backslash has its references spelled on its own. -/
theorem spellReferences_append (p t : List Char) :
    spellReferences (p ++ '\\' :: t) = spellReferences p ++ spellReferences ('\\' :: t) := by
  induction hlength : p.length using Nat.strongRecOn generalizing p with
  | _ length ih =>
    cases p with
    | nil => rfl
    | cons c p =>
      have happend := reference?_append c p t
      cases href : reference? (c :: p) with
      | none =>
        rw [href, Option.map_none] at happend
        rw [spellReferences_of_eq_none href, List.cons_append,
          spellReferences_of_eq_none happend, List.cons_append,
          ih p.length (by simp [← hlength]) p rfl]
      | some found =>
        obtain ⟨name, after⟩ := found
        rw [href, Option.map_some] at happend
        have hshort : after.length < length := by
          rw [← hlength, (reference?_eq_some_iff.mp href).1]
          simp
          omega
        rw [spellReferences_of_eq_some href, List.cons_append,
          spellReferences_of_eq_some happend, ih after.length hshort after rfl]
        simp

/-- Spelling references leaves a text inside or outside of an escape. -/
theorem dangles_spellReferences (opened : Bool) (s : List Char) :
    dangles opened (spellReferences s) = dangles opened s := by
  induction hlength : s.length using Nat.strongRecOn generalizing s opened with
  | _ length ih =>
    cases s with
    | nil => rfl
    | cons c rest =>
      cases href : reference? (c :: rest) with
      | none =>
        rw [spellReferences_of_eq_none href, dangles_cons, dangles_cons,
          ih rest.length (by simp [← hlength]) _ rest rfl]
      | some found =>
        obtain ⟨name, after⟩ := found
        obtain ⟨htext, -⟩ := reference?_eq_some_iff.mp href
        have hshort : after.length < length := by
          rw [← hlength, htext]
          simp
          omega
        have hclosed : dangles opened (c :: rest) = dangles false after := by
          rw [htext, ← List.cons_append, ← List.cons_append, ← List.cons_append]
          exact dangles_append_cons_of_ne (by decide)
        rw [spellReferences_of_eq_some href, dangles_append_cons_of_ne (by decide),
          ih after.length hshort _ after rfl, hclosed]

end References

section Escapes

/-- A character outside of an escape is kept. -/
theorem spellEscapes_cons {c : Char} (hc : c ≠ '\\') (s : List Char) :
    spellEscapes (c :: s) = c :: spellEscapes s := by
  rw [spellEscapes.eq_def]
  split <;> simp_all

/-- A backslash takes one character along, unless that makes a control escape with the next. -/
theorem spellEscapes_escape {c : Char} {s : List Char}
    (h : c = 'c' → s.head?.any Char.isAlpha = false) :
    spellEscapes ('\\' :: c :: s) = spellEscape c ++ spellEscapes s := by
  by_cases hc : c = 'c'
  · subst hc
    cases s with
    | nil => exact (List.append_nil _).symm
    | cons letter rest =>
      have hletter : letter.isAlpha = false := by simpa using h rfl
      rw [spellEscapes, if_neg (by simp [hletter])]
  · rw [spellEscapes]
    rintro letter rest rfl
    exact absurd rfl hc

/-- A text that ends outside of an escape has its escapes spelled on its own before a backslash. -/
theorem spellEscapes_append {p : List Char} (h : dangles false p = false) (t : List Char) :
    spellEscapes (p ++ '\\' :: t) = spellEscapes p ++ spellEscapes ('\\' :: t) := by
  fun_induction spellEscapes p with
  | case1 => rfl
  | case2 => cases h
  | case3 letter rest hletter ih =>
    have hne : letter ≠ '\\' := by
      rintro rfl
      cases hletter
    have hrest : dangles false rest = false := by simpa [dangles_cons, hne] using h
    simp only [List.cons_append]
    rw [spellEscapes, if_pos hletter, ih hrest]
    simp
  | case4 letter rest hletter ih =>
    have hrest : dangles false (letter :: rest) = false := by simpa [dangles_cons] using h
    simp only [List.cons_append] at ih ⊢
    rw [spellEscapes, if_neg hletter, ih hrest, List.append_assoc]
  | case5 c rest hcontrol ih =>
    have hrest : dangles false rest = false := by simpa [dangles_cons] using h
    have hletter : c = 'c' → (rest ++ '\\' :: t).head?.any Char.isAlpha = false := by
      intro hc
      cases rest with
      | nil => rfl
      | cons letter rest => exact absurd rfl (hcontrol letter rest hc)
    rw [List.cons_append, List.cons_append, spellEscapes_escape hletter, ih hrest,
      List.append_assoc]
  | case6 c rest hend _ hescape ih =>
    have hne : c ≠ '\\' := by
      intro hc
      cases rest with
      | nil => exact hend hc rfl
      | cons d rest => exact hescape d rest hc rfl
    have hrest : dangles false rest = false := by rwa [dangles_cons_of_ne hne] at h
    rw [List.cons_append, spellEscapes_cons hne, ih hrest, List.cons_append]

/-- An escaped backslash is spelled as it is. -/
theorem spellEscapes_backslash (t : List Char) :
    spellEscapes ('\\' :: '\\' :: t) = '\\' :: '\\' :: spellEscapes t := by
  have hbackslash : spellEscape '\\' = ['\\', '\\'] := by decide
  rw [spellEscapes_escape (by simp), hbackslash]
  rfl

end Escapes

section Completion

/-- Does a text complete a reference to a group, once a backslash stands before it? -/
def CompletesReference (s : List Char) : Prop :=
  ∃ name after, s = 'k' :: '<' :: (name ++ '>' :: after) ∧ IsGroupName name

theorem completesReference_iff {s : List Char} :
    CompletesReference s ↔ ∃ found, reference? ('\\' :: s) = some found := by
  constructor
  · rintro ⟨name, after, rfl, hname⟩
    exact ⟨(name, after), reference?_eq_some_iff.mpr ⟨rfl, hname⟩⟩
  · rintro ⟨⟨name, after⟩, h⟩
    obtain ⟨htext, hname⟩ := reference?_eq_some_iff.mp h
    exact ⟨name, after, (List.cons.inj htext).2, hname⟩

/-- Spelling groups keeps the first character. -/
theorem head?_spellGroups (s : List Char) : (spellGroups s).head? = s.head? := by
  rw [spellGroups.eq_def]
  split
  · split <;> rfl
  · rfl
  · rfl

/-- Before the first group a text is the same with its groups spelled. -/
theorem prefix_spellGroups_iff {text : List Char} (htext : '(' ∉ text) (s : List Char) :
    text <+: spellGroups s ↔ text <+: s := by
  induction text generalizing s with
  | nil => simp
  | cons c text ih =>
    simp only [List.mem_cons, not_or] at htext
    cases s with
    | nil => rfl
    | cons d s =>
      by_cases hd : d = '('
      · have hspelled : ¬ c :: text <+: spellGroups (d :: s) := by
          intro hstarts
          obtain ⟨rest, hrest⟩ := hstarts
          have hhead := head?_spellGroups (d :: s)
          rw [← hrest] at hhead
          exact htext.1 (hd ▸ (Option.some.inj hhead).symm)
        have hplain : ¬ c :: text <+: d :: s := by
          intro hstarts
          exact htext.1 (hd ▸ (List.cons_prefix_cons.mp hstarts).1.symm)
        exact iff_of_false hspelled hplain
      · rw [spellGroups_cons hd, List.cons_prefix_cons, List.cons_prefix_cons, ih htext.2]

/-- Spelling groups makes and breaks no completion of a reference. -/
theorem completesReference_spellGroups (s : List Char) :
    CompletesReference (spellGroups s) ↔ CompletesReference s := by
  have hiff : ∀ s, CompletesReference s ↔
      ∃ name, IsGroupName name ∧ 'k' :: '<' :: (name ++ ['>']) <+: s := by
    intro s
    constructor
    · rintro ⟨name, after, rfl, hname⟩
      exact ⟨name, hname, after, by simp⟩
    · rintro ⟨name, hname, after, rfl⟩
      exact ⟨name, after, by simp, hname⟩
  have hgroup : ∀ {name}, IsGroupName name → '(' ∉ 'k' :: '<' :: (name ++ ['>']) := by
    intro name hname hmem
    simp only [List.mem_cons, List.mem_append, List.not_mem_nil, or_false, Char.reduceEq,
      false_or] at hmem
    exact absurd rfl (hname.ne hmem (by decide))
  rw [hiff, hiff]
  constructor
  · rintro ⟨name, hname, hstarts⟩
    exact ⟨name, hname, (prefix_spellGroups_iff (hgroup hname) s).mp hstarts⟩
  · rintro ⟨name, hname, hstarts⟩
    exact ⟨name, hname, (prefix_spellGroups_iff (hgroup hname) s).mpr hstarts⟩

/-- An escaped backslash keeps apart what stands around it exactly if the text after it does not
complete a reference to a group. -/
theorem spell_escapedBackslash_iff {p : List Char} (h : dangles false p = false) (q : List Char) :
    spell (p ++ '\\' :: '\\' :: q) = spell p ++ '\\' :: '\\' :: spell q ↔
      ¬ CompletesReference q := by
  have hdangles : dangles false (spellReferences (spellGroups p)) = false := by
    rw [dangles_spellReferences, dangles_spellGroups, h]
  have hbackslash : reference? ('\\' :: '\\' :: spellGroups q) = none := rfl
  have hgroups : spellGroups (p ++ '\\' :: '\\' :: q) =
      spellGroups p ++ '\\' :: '\\' :: spellGroups q := by
    rw [spellGroups_append, spellGroups_cons (by decide)]
  have hleft : spell (p ++ '\\' :: '\\' :: q) = spell p ++
      spellEscapes ('\\' :: spellReferences ('\\' :: spellGroups q)) := by
    rw [spell, hgroups, spellReferences_append, spellReferences_of_eq_none hbackslash,
      spellEscapes_append hdangles, spell]
  rw [hleft, List.append_cancel_left_eq, ← completesReference_spellGroups,
    completesReference_iff]
  cases href : reference? ('\\' :: spellGroups q) with
  | none =>
    rw [spellReferences_of_eq_none href, spellEscapes_backslash, spell]
    simp
  | some found =>
    -- The second backslash is gone, and the first takes a parenthesis along.
    obtain ⟨name, after⟩ := found
    have hopens : ∀ s, spellEscapes ('\\' :: '(' :: s) = '\\' :: '(' :: spellEscapes s := by
      intro s
      have hopening : spellEscape '(' = ['\\', '('] := by decide
      rw [spellEscapes_escape (by simp), hopening]
      rfl
    rw [spellReferences_of_eq_some href]
    simp [hopens]

/-- A group, a control escape and a reference are spelled around the backslash as by themselves. -/
theorem spell_escapedBackslash_namedGroup :
    dangles false "(?<n>a)\\cJ".toList = false ∧ ¬ CompletesReference "\\k<n>".toList ∧
      spell ("(?<n>a)\\cJ".toList ++ '\\' :: '\\' :: "\\k<n>".toList) =
        spell "(?<n>a)\\cJ".toList ++ '\\' :: '\\' :: spell "\\k<n>".toList := by
  have hdangles : dangles false "(?<n>a)\\cJ".toList = false := by decide
  have hcompletes : ¬ CompletesReference "\\k<n>".toList := by
    rintro ⟨name, after, htext, -⟩
    simp at htext
  exact ⟨hdangles, hcompletes, (spell_escapedBackslash_iff hdangles _).mpr hcompletes⟩

/-- An escaped backslash before a letter and a name in angle brackets is taken apart, and the
expression, which has no fault as it is written, gets one. -/
theorem not_spell_escapedBackslash_bracketedName :
    dangles false [] = false ∧
      ¬ spell ([] ++ '\\' :: '\\' :: "k<n>".toList) =
        spell [] ++ '\\' :: '\\' :: spell "k<n>".toList ∧
      faultOf? "\\\\k<n>".toList = .ok none ∧
      scriptFault? "\\\\k<n>" = .ok (some "unbalanced parenthesis at position 6") := by
  decide +kernel

end Completion

end TagAudit.Regex
