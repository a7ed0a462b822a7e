import TagAudit.Proofs.Pattern.Language

/-!
# Searches with patterns

A search may pass over a part of the text in which the pattern holds nowhere. After such a part, and
after a finding, it goes on as if the text began there, provided that the pattern ignores the
character before the place.
-/

namespace TagAudit.Pattern

section Findings

variable {p : Pattern} {before rest : List Char} {finding : Finding}

/-- The first finding is a place of the text at which the pattern holds. -/
theorem exists_of_findFrom? (h : p.findFrom? before rest = some finding) :
    Cursor.Reaches 0 ⟨before, rest, []⟩ finding.start ∧ finding.start.captured = [] ∧
      p.endAt? finding.start = some finding.stop := by
  induction rest generalizing before with
  | nil =>
    obtain ⟨stop, hstop, rfl⟩ := Option.map_eq_some_iff.mp h
    exact ⟨.refl _, rfl, hstop⟩
  | cons c rest ih =>
    simp only [findFrom?] at h
    split at h
    next stop hstop =>
      cases h
      exact ⟨.refl _, rfl, hstop⟩
    next =>
      obtain ⟨hreach, hcaptured, hstop⟩ := ih h
      have hnext : Cursor.Reaches 0 ⟨before, c :: rest, []⟩ ⟨c :: before, rest, []⟩ :=
        ⟨[c], rfl, rfl, Nat.zero_le _⟩
      exact ⟨hnext.trans hreach, hcaptured, hstop⟩

/-- Where the pattern holds somewhere, there is a finding. -/
theorem occursIn_of_holdsAt {passed : List Char}
    (h : p.holdsAt ⟨passed.reverse, rest, []⟩ = true) : p.occursIn (passed ++ rest) = true := by
  have hfind : ∀ before, p.holdsAt ⟨passed.reverse ++ before, rest, []⟩ = true →
      (p.findFrom? before (passed ++ rest)).isSome = true := by
    clear h
    intro before h
    induction passed generalizing before with
    | nil =>
      obtain ⟨stop, hstop⟩ := Option.isSome_iff_exists.mp h
      rw [List.reverse_nil, List.nil_append] at hstop
      cases rest <;> simp [findFrom?, hstop]
    | cons c passed ih =>
      rw [List.reverse_cons, List.append_assoc] at h
      rw [List.cons_append, findFrom?]
      split
      · rfl
      · exact ih _ h
  refine hfind [] ?_
  rwa [List.append_nil]

/-- A pattern occurs in a text exactly if it holds at some place of the text. -/
theorem occursIn_iff {s : List Char} : p.occursIn s = true ↔
    ∃ passed rest, s = passed ++ rest ∧ p.holdsAt ⟨passed.reverse, rest, []⟩ = true := by
  constructor
  · intro h
    obtain ⟨⟨place, stop⟩, hfinding⟩ := Option.isSome_iff_exists.mp h
    obtain ⟨⟨passed, hs, hbefore, -⟩, hcaptured, hstop⟩ := exists_of_findFrom? hfinding
    have hplace : place = ⟨passed.reverse, place.rest, []⟩ := by
      rw [← List.append_nil passed.reverse, ← hbefore, ← hcaptured]
    refine ⟨passed, place.rest, hs, ?_⟩
    rw [← hplace, holdsAt, hstop]
    rfl
  · rintro ⟨passed, rest, rfl, h⟩
    exact occursIn_of_holdsAt h

/-- Every finding is a place of the text at which the pattern holds. -/
theorem exists_of_mem_findAllFrom (h : finding ∈ p.findAllFrom before rest) :
    Cursor.Reaches 0 ⟨before, rest, []⟩ finding.start ∧
      p.endAt? finding.start = some finding.stop := by
  fun_induction findAllFrom p before rest with
  | case1 => cases h
  | case2 before rest first hfind hlt ih =>
    obtain ⟨hreach, -, hstop⟩ := exists_of_findFrom? hfind
    rcases List.mem_cons.mp h with rfl | h
    · exact ⟨hreach, hstop⟩
    · obtain ⟨hlater, hend⟩ := ih h
      have htaken := reaches_of_mem_ways (mem_ways_of_endAt? hstop)
      exact ⟨((hreach.trans htaken).mono (Nat.zero_le _)).trans hlater, hend⟩
  | case3 before rest first hfind =>
    obtain rfl := List.mem_singleton.mp h
    obtain ⟨hreach, -, hstop⟩ := exists_of_findFrom? hfind
    exact ⟨hreach, hstop⟩

theorem occursIn_eq_false_iff {s : List Char} : p.occursIn s = false ↔ p.findAll s = [] := by
  rw [occursIn, find?, findAll, findAllFrom]
  cases p.findFrom? [] s with
  | none => simp
  | some finding =>
    simp only [Option.isSome_some, Bool.true_eq_false, false_iff]
    split <;> exact List.cons_ne_nil _ _

/-- A text without a part that the pattern requires has no findings. -/
theorem findAll_eq_nil {text s : List Char} (h : p.Requires text) (hs : ¬ text <:+: s) :
    p.findAll s = [] := by
  rw [← occursIn_eq_false_iff, occursIn, Option.isSome_eq_false_iff, Option.isNone_iff_eq_none]
  refine Option.eq_none_iff_forall_ne_some.mpr fun finding hfinding => hs ?_
  obtain ⟨⟨taken, hrest, -, -⟩, -, hstop⟩ := exists_of_findFrom? hfinding
  dsimp only at hrest
  rw [hrest]
  exact (h _ _ (mem_ways_of_endAt? hstop)).trans (List.suffix_append ..).isInfix

variable (hp : 0 < p.leastLength)

include hp

/-- A pattern that takes something ends after it began. -/
theorem length_stop_lt {place stop : Cursor} (h : p.endAt? place = some stop) :
    stop.rest.length < place.rest.length := by
  have hle := (reaches_of_mem_ways (mem_ways_of_endAt? h)).length_le
  omega

/-- A finding at the beginning is the first, and the others come after it. -/
theorem findAllFrom_of_endAt? {stop : Cursor} (h : p.endAt? ⟨before, rest, []⟩ = some stop) :
    p.findAllFrom before rest =
      ⟨⟨before, rest, []⟩, stop⟩ :: p.findAllFrom stop.before stop.rest := by
  have hlt := length_stop_lt hp h
  have hfirst : p.findFrom? before rest = some ⟨⟨before, rest, []⟩, stop⟩ := by
    cases rest with
    | nil => rw [findFrom?, h]; rfl
    | cons c rest => simp only [findFrom?, h]
  rw [findAllFrom, hfirst]
  exact if_pos hlt

/-- A character where the pattern does not hold is passed over. -/
theorem findAllFrom_cons {c : Char} (h : p.endAt? ⟨before, c :: rest, []⟩ = none) :
    p.findAllFrom before (c :: rest) = p.findAllFrom (c :: before) rest := by
  have hsame : p.findFrom? before (c :: rest) = p.findFrom? (c :: before) rest := by
    simp only [findFrom?, h]
  rw [findAllFrom, findAllFrom, hsame]
  cases hfind : p.findFrom? (c :: before) rest with
  | none => rfl
  | some finding =>
    obtain ⟨hreach, -, hstop⟩ := exists_of_findFrom? hfind
    have hle := hreach.length_le
    have hlt := length_stop_lt hp hstop
    have hshort : finding.stop.rest.length < rest.length := by
      dsimp only at hle
      omega
    have hshort' : finding.stop.rest.length < (c :: rest).length := by
      rw [List.length_cons]
      omega
    simp only [if_pos hshort, if_pos hshort']

/-- The search comes to every place after a character that the pattern avoids, since no earlier
finding reaches beyond the character. -/
theorem exists_mem_findAllFrom {c : Char} (havoids : p.avoids c = true) {passed : List Char}
    {stop : Cursor} (h : p.endAt? ⟨c :: (passed.reverse ++ before), rest, []⟩ = some stop) :
    ∃ finding ∈ p.findAllFrom before (passed ++ c :: rest), finding.stop = stop := by
  induction hlength : passed.length using Nat.strongRecOn generalizing passed before with
  | ind length ih =>
    subst hlength
    cases hfirst : p.endAt? ⟨before, passed ++ c :: rest, []⟩ with
    | some first =>
      have hways := mem_ways_of_endAt? hfirst
      obtain ⟨taken, hrest, hmem⟩ := exists_taken_of_avoids havoids hways
      obtain ⟨taken', hrest', hbefore, hleast⟩ := reaches_of_mem_ways hways
      obtain rfl : taken' = taken := List.append_cancel_right (hrest'.symm.trans hrest)
      obtain ⟨left, rfl, hleft⟩ : ∃ left, passed = taken' ++ left ∧
          first.rest = left ++ c :: rest := by
        rcases List.append_eq_append_iff.mp hrest with
          ⟨left, htaken, hleft⟩ | ⟨left, hpassed, hleft⟩
        · cases left with
          | nil => exact ⟨[], by rw [htaken, List.append_nil, List.append_nil], hleft.symm⟩
          | cons d left =>
            obtain ⟨rfl, -⟩ := List.cons.inj hleft
            rw [htaken] at hmem
            exact absurd (List.mem_append_right _ (List.mem_cons_self ..)) hmem
        · exact ⟨left, hpassed, hleft⟩
      have hend : p.endAt? ⟨c :: (left.reverse ++ first.before), rest, []⟩ = some stop := by
        rw [hbefore, ← List.append_assoc, ← List.reverse_append]
        exact h
      have hshort : left.length < (taken' ++ left).length := by
        rw [List.length_append]
        omega
      obtain ⟨finding, hfinding, hstop⟩ := ih left.length hshort hend rfl
      rw [← hleft] at hfinding
      rw [findAllFrom_of_endAt? hp hfirst]
      exact ⟨finding, List.mem_cons_of_mem _ hfinding, hstop⟩
    | none =>
      cases passed with
      | nil =>
        rw [List.reverse_nil, List.nil_append] at h
        rw [List.nil_append] at hfirst ⊢
        rw [findAllFrom_cons hp hfirst, findAllFrom_of_endAt? hp h]
        exact ⟨_, List.mem_cons_self .., rfl⟩
      | cons d passed =>
        rw [List.cons_append] at hfirst ⊢
        rw [findAllFrom_cons hp hfirst]
        rw [List.reverse_cons, List.append_assoc, List.singleton_append] at h
        exact ih passed.length (Nat.lt_succ_self _) h rfl

end Findings

section Passing

variable {p : Pattern}

/-- Does the pattern hold nowhere in the part that is passed over, with the text that follows? -/
def passesOver (p : Pattern) (before : List Char) : (passed rest : List Char) → Bool
  | [], _ => true
  | c :: passed, rest =>
    (p.endAt? ⟨before, c :: (passed ++ rest), []⟩).isNone && p.passesOver (c :: before) passed rest

theorem findAllFrom_append (hp : 0 < p.leastLength) {before passed rest : List Char}
    (h : p.passesOver before passed rest = true) :
    p.findAllFrom before (passed ++ rest) = p.findAllFrom (passed.reverse ++ before) rest := by
  induction passed generalizing before with
  | nil => rfl
  | cons c passed ih =>
    obtain ⟨hnone, hlater⟩ := (Bool.and_eq_true ..).mp h
    rw [List.cons_append, findAllFrom_cons hp (Option.isNone_iff_eq_none.mp hnone), ih hlater,
      List.reverse_cons, List.append_assoc, List.singleton_append]

/-- The finding in a longer text. -/
def Finding.within (front : List Char) (finding : Finding) : Finding :=
  ⟨finding.start.within front, finding.stop.within front⟩

variable {c : Char} (hignores : p.ignores c = true) {front : List Char}

include hignores

theorem findFrom?_within (before rest : List Char) :
    p.findFrom? (before ++ c :: front) rest =
      (p.findFrom? before rest).map (·.within (c :: front)) := by
  have hend : ∀ before rest, p.endAt? ⟨before ++ c :: front, rest, []⟩ =
      (p.endAt? ⟨before, rest, []⟩).map (·.within (c :: front)) :=
    fun before rest => endAt?_within hignores ⟨before, rest, []⟩
  induction rest generalizing before with
  | nil =>
    rw [findFrom?, findFrom?, hend]
    cases p.endAt? ⟨before, [], []⟩ <;> rfl
  | cons d rest ih =>
    rw [findFrom?, findFrom?, hend]
    cases p.endAt? ⟨before, d :: rest, []⟩ with
    | some stop => rfl
    | none => exact ih (d :: before)

theorem findAllFrom_within (before rest : List Char) :
    p.findAllFrom (before ++ c :: front) rest =
      (p.findAllFrom before rest).map (·.within (c :: front)) := by
  fun_induction findAllFrom p before rest with
  | case1 before rest hfind =>
    rw [findAllFrom, findFrom?_within hignores, hfind]
    rfl
  | case2 before rest finding hfind hlt ih =>
    rw [findAllFrom, findFrom?_within hignores, hfind, List.map_cons, ← ih]
    exact if_pos hlt
  | case3 before rest finding hfind hlt =>
    rw [findAllFrom, findFrom?_within hignores, hfind]
    exact if_neg hlt

variable (hp : 0 < p.leastLength) {opening rest : List Char} (hfront : opening.reverse = c :: front)

include hp hfront

/-- After a part that is passed over the findings are those of the rest as a text of its own. -/
theorem findAll_of_passesOver (h : p.passesOver [] opening rest = true) :
    p.findAll (opening ++ rest) = (p.findAll rest).map (·.within opening.reverse) := by
  rw [findAll, findAllFrom_append hp h, List.append_nil, hfront]
  exact findAllFrom_within hignores [] rest

/-- After a finding at the beginning the others are those of the rest as a text of its own. -/
theorem findAll_of_endAt? {captured : List Char}
    (h : p.endAt? ⟨[], opening ++ rest, []⟩ = some ⟨opening.reverse, rest, captured⟩) :
    p.findAll (opening ++ rest) = ⟨⟨[], opening ++ rest, []⟩, ⟨opening.reverse, rest, captured⟩⟩ ::
      (p.findAll rest).map (·.within opening.reverse) := by
  rw [findAll, findAllFrom_of_endAt? hp h, hfront]
  exact congrArg _ (findAllFrom_within hignores [] rest)

end Passing

section Replacements

variable {p : Pattern} {replacement : List Char}

/-- The text with its findings replaced, one after the other. -/
def replaced (replacement : List Char) : (rest : List Char) → List Finding → List Char
  | rest, [] => rest
  | rest, finding :: findings =>
    rest.take (rest.length - finding.start.rest.length) ++
      (replacement ++ replaced replacement finding.stop.rest findings)

theorem replaceAll_eq (p : Pattern) (replacement s : List Char) :
    p.replaceAll replacement s = replaced replacement s (p.findAll s) := by
  have hdone : ∀ findings done rest,
      let state := findings.foldl (fun (state : List Char × List Char) (finding : Finding) =>
        (state.1 ++ state.2.take (state.2.length - finding.start.rest.length) ++ replacement,
          finding.stop.rest)) (done, rest)
      state.1 ++ state.2 = done ++ replaced replacement rest findings := by
    intro findings
    induction findings with
    | nil => exact fun _ _ => rfl
    | cons finding findings ih =>
      intro done rest
      refine (ih _ _).trans ?_
      simp only [replaced, List.append_assoc]
  exact hdone (p.findAll s) [] s

/-- Only the text after a place is replaced. -/
theorem replaced_within (rest front : List Char) (findings : List Finding) :
    replaced replacement rest (findings.map (·.within front)) =
      replaced replacement rest findings := by
  induction findings generalizing rest with
  | nil => rfl
  | cons finding findings ih =>
    rw [List.map_cons, replaced, replaced, ih]
    rfl

variable (hp : 0 < p.leastLength) (hignores : ∀ c, p.ignores c = true)

include hp

theorem replaceAll_nil : p.replaceAll replacement [] = [] := by
  have hnone : p.findAll [] = [] := by
    refine List.eq_nil_iff_forall_not_mem.mpr fun finding hfinding => ?_
    obtain ⟨hreach, hstop⟩ := exists_of_mem_findAllFrom hfinding
    have hlt := length_stop_lt hp hstop
    have hle := hreach.length_le
    dsimp only [List.length_nil] at hle
    omega
  rw [replaceAll_eq, hnone, replaced]

include hignores

/-- A finding at the beginning of a text is replaced, and the rest is a text of its own. -/
theorem replaceAll_of_endAt? {s : List Char} {stop : Cursor}
    (h : p.endAt? (.start s) = some stop) :
    p.replaceAll replacement s = replacement ++ p.replaceAll replacement stop.rest := by
  obtain ⟨taken, -, hbefore, hlength⟩ := reaches_of_mem_ways (mem_ways_of_endAt? h)
  have htaken : 0 < stop.before.length := by
    rw [hbefore, List.length_append, List.length_reverse]
    omega
  obtain ⟨c, front, hfront⟩ := List.exists_cons_of_length_pos htaken
  have hlater : p.findAllFrom stop.before stop.rest =
      (p.findAll stop.rest).map (·.within stop.before) := by
    rw [hfront, ← List.nil_append (c :: front), findAllFrom_within (hignores c)]
    rfl
  rw [replaceAll_eq, findAll, findAllFrom_of_endAt? hp h, hlater, replaced, replaced_within,
    ← replaceAll_eq]
  simp

/-- A character at which no finding begins stays. -/
theorem replaceAll_cons {c : Char} {s : List Char} (h : p.endAt? (.start (c :: s)) = none) :
    p.replaceAll replacement (c :: s) = c :: p.replaceAll replacement s := by
  have hlater : p.findAllFrom [c] s = (p.findAll s).map (·.within [c]) :=
    findAllFrom_within (hignores c) [] s
  rw [replaceAll_eq, replaceAll_eq, findAll, findAllFrom_cons hp h, hlater, replaced_within]
  cases hfindings : p.findAll s with
  | nil => rfl
  | cons finding findings =>
    have hfinding : finding ∈ p.findAllFrom [] s := by
      rw [← findAll, hfindings]
      exact List.mem_cons_self ..
    have hle := (exists_of_mem_findAllFrom hfinding).1.length_le
    rw [Nat.zero_add] at hle
    rw [replaced, replaced, List.length_cons, Nat.succ_sub hle]
    rfl

end Replacements

end TagAudit.Pattern
