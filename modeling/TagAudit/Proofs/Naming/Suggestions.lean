import TagAudit.Config.Override
import TagAudit.Proofs.Failure
import TagAudit.Proofs.Naming.SnakeCase
import TagAudit.Proofs.Tags.Issues

/-!
# Suggested names against the naming rules

A snake case name breaks none of the naming rules but those for its length. The bounds of the length
are configured, while suggestions keep to bounds of their own. So the names that are suggested for
the entities of a container are clean exactly if their lengths are within the configured bounds.
-/

namespace TagAudit

namespace Text

/-- The visible characters of ASCII are not blank. -/
theorem isBlank_of_visible {c : Char} (h : 0x21 ≤ c.toNat ∧ c.toNat < 0x7f) :
    isBlank c = false := by
  have hpoints : ∀ n < 0x7f, 0x21 ≤ n → CodePointSet.insideAfter false n blanks.flips = false := by
    decide
  exact hpoints _ h.2 h.1

end Text

namespace Naming

/-- Is the length of a name within the configured bounds? -/
def Fits (config : Config) (name : String) : Prop :=
  config.nameMinLength ≤ name.length ∧ name.length ≤ config.nameMaxLength

section Rules

theorem visible_of_isAllowed {c : Char} (h : (c.isLower || c.isDigit || c == '_') = true) :
    0x21 ≤ c.toNat ∧ c.toNat < 0x7f := by
  rw [Bool.or_eq_true, Bool.or_eq_true, isLower_iff, isDigit_iff, beq_iff_eq] at h
  have hval : c.toNat = c.val.toNat := rfl
  rcases h with (hlower | hdigit) | rfl
  · omega
  · omega
  · decide

variable {name : List Char} (h : IsSnakeCase name)

include h

/-- A character of a snake case name is allowed in every place. -/
theorem IsSnakeCase.isAllowed {c : Char} (hc : c ∈ name) :
    (c.isLower || c.isDigit || c == '_') = true := by
  rcases h.chars c hc with hword | rfl
  · rw [Bool.or_eq_true]
    exact .inl hword
  · rfl

theorem IsSnakeCase.withoutFinalBreak_eq : withoutFinalBreak name = name := by
  refine if_neg fun hlast => ?_
  have hbreak := h.isAllowed (List.mem_of_getLast? hlast)
  cases hbreak

theorem IsSnakeCase.isSnakeOrCamel : isSnakeOrCamel name = true := by
  obtain ⟨first, rest, rfl⟩ := List.exists_cons_of_ne_nil h.ne_nil
  have hlower : first.isLower = true := h.letter
  have hunderscore : ¬ (first == '_') = true := by
    rintro heq
    rw [eq_of_beq heq] at hlower
    cases hlower
  have hrest : rest.all (fun c => c.isLower || c.isDigit || c == '_') = true :=
    List.all_eq_true.mpr fun c hc => h.isAllowed (List.mem_cons_of_mem _ hc)
  rw [Naming.isSnakeOrCamel, h.withoutFinalBreak_eq,
    List.dropWhile_cons_of_neg (p := (· == '_')) hunderscore]
  simp only [hlower, hrest, Bool.true_or, Bool.true_and]

theorem IsSnakeCase.any_isBlank : name.any Text.isBlank = false := by
  refine List.any_eq_false.mpr fun c hc => ?_
  rw [Text.isBlank_of_visible (visible_of_isAllowed (h.isAllowed hc))]
  exact Bool.false_ne_true

/-- A snake case name breaks no rule but those for its length. -/
theorem IsSnakeCase.faults_eq_nil_iff (config : Config) :
    faults config (.ofList name) = [] ↔ Fits config (.ofList name) := by
  have hstart : (name.head?.any fun c => c.isAlpha || c == '_') = true := by
    obtain ⟨first, rest, rfl⟩ := List.exists_cons_of_ne_nil h.ne_nil
    have hlower : first.isLower = true := h.letter
    have hletter : first.isAlpha = true := (Bool.or_eq_true ..).mpr (.inr hlower)
    simp [hletter]
  have hchars : (name.all fun c => c.isAlphanum || c == '_' || c == '-') = true := by
    refine List.all_eq_true.mpr fun c hc => ?_
    have hkinds : c.isAlphanum = (c.isUpper || c.isLower || c.isDigit) := rfl
    have hallowed := h.isAllowed hc
    simp only [hkinds, Bool.or_eq_true] at hallowed ⊢
    tauto
  simp [faults, Fits, hstart, hchars, h.any_isBlank, h.isSnakeOrCamel, h.withoutFinalBreak_eq]

end Rules

/-- A suggested name is clean exactly if its length is within the configured bounds. -/
theorem violations_suggestion_eq_nil_iff (config : Config) (name : String) :
    violations config (suggestion name) = [] ↔ Fits config (suggestion name) := by
  have hclean := (isSnakeCase_suggestion name).1.faults_eq_nil_iff config
  rw [String.ofList_toList] at hclean
  rwa [violations, List.map_eq_nil_iff]

end Naming

namespace TagRules

variable (config : Config) (container : Container)

/-- The issues of naming are those of the entities whose names break a rule. -/
theorem mem_naming_issues_iff {issue : Issue} :
    issue ∈ (ofContainer config container).issues ∧ issue.category = .naming ↔
      ∃ kind, ∃ entity ∈ container.entities kind, namingIssue? config kind entity = some issue := by
  have hof : ∀ kind : EntityKind, ∀ entity ∈ container.entities kind,
      namingIssue? config kind entity = some issue →
        issue ∈ (ofContainer config container).issues := by
    intro kind entity hentity hissue
    match kind with
    | .tag =>
      obtain ⟨tag, htag, rfl⟩ := List.mem_map.mp hentity
      refine List.mem_append_left _ (List.mem_flatMap.mpr ⟨tag, htag, ?_⟩)
      simp [issuesOfTag, hissue]
    | .trigger =>
      have hnaming := List.mem_filterMap.mpr ⟨entity, hentity, hissue⟩
      exact List.mem_append_right _ (List.mem_append_left _ hnaming)
    | .variable =>
      have hnaming := List.mem_filterMap.mpr ⟨entity, hentity, hissue⟩
      exact List.mem_append_right _ (List.mem_append_right _ hnaming)
  constructor
  · rintro ⟨hissue, hcategory⟩
    rcases List.mem_append.mp hissue with htags | hothers
    · obtain ⟨tag, htag, hissue⟩ := List.mem_flatMap.mp htags
      refine ⟨.tag, (tag.id, tag.name), List.mem_map_of_mem htag, ?_⟩
      simp only [issuesOfTag, issueIf, List.mem_append, Option.mem_toList,
        List.mem_ite_nil_right, List.mem_singleton] at hissue
      rcases hissue with ((((⟨-, rfl⟩ | ⟨-, rfl⟩) | hnaming) | ⟨-, rfl⟩) | ⟨-, rfl⟩) | ⟨-, rfl⟩
      · cases hcategory
      · cases hcategory
      · exact hnaming
      · cases hcategory
      · cases hcategory
      · cases hcategory
    · rcases List.mem_append.mp hothers with hnaming | hnaming
      · obtain ⟨entity, hentity, hissue⟩ := List.mem_filterMap.mp hnaming
        exact ⟨.trigger, entity, hentity, hissue⟩
      · obtain ⟨entity, hentity, hissue⟩ := List.mem_filterMap.mp hnaming
        exact ⟨.variable, entity, hentity, hissue⟩
  · rintro ⟨kind, entity, hentity, hissue⟩
    refine ⟨hof kind entity hentity hissue, ?_⟩
    exact category_of_mem_filterMap (List.mem_filterMap.mpr ⟨entity, hentity, hissue⟩)

/-- The name that is suggested in an issue of naming breaks no rule itself. -/
def SuggestsCleanNames : Prop :=
  ∀ issue ∈ (ofContainer config container).issues, issue.category = .naming →
    Naming.violations config issue.suggestion = []

instance : Decidable (SuggestsCleanNames config container) :=
  inferInstanceAs (Decidable (∀ issue ∈ (ofContainer config container).issues,
    issue.category = .naming → Naming.violations config issue.suggestion = []))

/-- A name that breaks a rule has an issue with the suggested name. -/
theorem exists_naming_issue {kind : EntityKind} {entity : String × String}
    (hentity : entity ∈ container.entities kind)
    (hbroken : Naming.violations config entity.2 ≠ []) :
    ∃ issue ∈ (ofContainer config container).issues, issue.category = .naming ∧
      issue.suggestion = Naming.suggestion entity.2 := by
  obtain ⟨id, name⟩ := entity
  have hissue : ∃ issue, namingIssue? config kind (id, name) = some issue ∧
      issue.suggestion = Naming.suggestion name := by
    simp only [namingIssue?, List.isEmpty_iff, if_neg hbroken]
    exact ⟨_, rfl, rfl⟩
  obtain ⟨issue, hissue, hsuggestion⟩ := hissue
  obtain ⟨hmem, hcategory⟩ :=
    (mem_naming_issues_iff config container).mpr ⟨kind, (id, name), hentity, hissue⟩
  exact ⟨issue, hmem, hcategory, hsuggestion⟩

/-- An issue of naming suggests a name for one that breaks a rule. -/
theorem exists_of_naming_issue {issue : Issue}
    (hissue : issue ∈ (ofContainer config container).issues)
    (hcategory : issue.category = .naming) :
    ∃ kind, ∃ entity ∈ container.entities kind, Naming.violations config entity.2 ≠ [] ∧
      issue.suggestion = Naming.suggestion entity.2 := by
  obtain ⟨kind, ⟨id, name⟩, hentity, h⟩ :=
    (mem_naming_issues_iff config container).mp ⟨hissue, hcategory⟩
  simp only [namingIssue?] at h
  split at h
  next => cases h
  next hbroken =>
    cases h
    exact ⟨kind, (id, name), hentity, by simpa using hbroken, rfl⟩

/-- The suggested names are clean exactly if those for the names that break a rule have lengths
within the configured bounds. -/
theorem suggestsCleanNames_iff : SuggestsCleanNames config container ↔
    ∀ kind, ∀ entity ∈ container.entities kind, Naming.violations config entity.2 ≠ [] →
      Naming.Fits config (Naming.suggestion entity.2) := by
  constructor
  · intro hclean kind entity hentity hbroken
    obtain ⟨issue, hmem, hcategory, hsuggestion⟩ :=
      exists_naming_issue config container hentity hbroken
    rw [← Naming.violations_suggestion_eq_nil_iff, ← hsuggestion]
    exact hclean issue hmem hcategory
  · intro hfits issue hmem hcategory
    obtain ⟨kind, entity, hentity, hbroken, hsuggestion⟩ :=
      exists_of_naming_issue config container hmem hcategory
    rw [hsuggestion, Naming.violations_suggestion_eq_nil_iff]
    exact hfits kind entity hentity hbroken

/-- The container of an export with a single variable. -/
def soleVariable (name : String) : Container :=
  Container.ofVersion (.object [("variable", .array [.object [("variableId", .string "1"),
    ("name", .string name), ("type", .string "c")]])])

theorem mem_entities_soleVariable (name : String) :
    ("1", name) ∈ (soleVariable name).entities .variable := by
  have hentities : (soleVariable name).entities .variable = [("1", name)] := rfl
  rw [hentities]
  exact List.mem_singleton_self _

/-- A name with white space is always suggested another one. -/
theorem fits_of_soleVariable {config : Config} {name : String}
    (h : SuggestsCleanNames config (soleVariable name))
    (hblank : name.toList.any Text.isBlank = true) :
    Naming.Fits config (Naming.suggestion name) := by
  have hbroken : Naming.violations config name ≠ [] := by
    rw [Naming.violations, ne_eq, List.map_eq_nil_iff, Naming.faults, hblank]
    simp
  obtain ⟨issue, hmem, hcategory, hsuggestion⟩ :=
    exists_naming_issue config _ (mem_entities_soleVariable name) hbroken
  rw [← Naming.violations_suggestion_eq_nil_iff, ← hsuggestion]
  exact h issue hmem hcategory

/-- The suggested names are clean in all containers exactly if the configured bounds leave room
for every length that a suggestion can have. -/
theorem forall_suggestsCleanNames_iff (config : Config) :
    (∀ container, SuggestsCleanNames config container) ↔
      config.nameMinLength ≤ 3 ∧ Naming.maxSuggestionLength ≤ config.nameMaxLength := by
  constructor
  · intro hclean
    let longName := String.ofList (' ' :: List.replicate 50 'b')
    have hshort := fits_of_soleVariable (hclean (soleVariable "A b")) (by decide)
    have hlong := fits_of_soleVariable (hclean (soleVariable longName)) (by decide)
    have hleast : (Naming.suggestion "A b").length = 3 := by decide +kernel
    have hmost : (Naming.suggestion longName).length = Naming.maxSuggestionLength := by
      decide +kernel
    rw [Naming.Fits, hleast] at hshort
    rw [Naming.Fits, hmost] at hlong
    exact ⟨hshort.1, hlong.2⟩
  · rintro ⟨hmin, hmax⟩ container issue hmem hcategory
    obtain ⟨kind, entity, -, -, hsuggestion⟩ :=
      exists_of_naming_issue config container hmem hcategory
    obtain ⟨-, hleast, hmost⟩ := Naming.isSnakeCase_suggestion entity.2
    rw [hsuggestion, Naming.violations_suggestion_eq_nil_iff]
    exact ⟨Nat.le_trans hmin hleast, Nat.le_trans hmost hmax⟩

/-- Overrides by which names need five characters. -/
def fiveCharacters : Json := .object [("name_min_length", .nat 5)]

/-- The name is too short, and is suggested instead of itself. -/
theorem not_suggestsCleanNames_shortName : ∃ config, Config.ofJson fiveCharacters = .ok config ∧
    ¬ SuggestsCleanNames config (soleVariable "x_y") := by
  have hread : (Config.ofJson fiveCharacters).map
      (fun config => decide (SuggestsCleanNames config (soleVariable "x_y"))) = .ok false := by
    decide +kernel
  obtain ⟨config, haccepted, hunclean⟩ := Failure.map_eq_ok_iff.mp hread
  exact ⟨config, haccepted, of_decide_eq_false hunclean⟩

end TagRules

end TagAudit
