import TagAudit.Consent.Verdict
import TagAudit.Proofs.Consent.Sources

/-!
# Exact consent verdicts

A tag is judged by what its sources of consent say. Without any source nothing is configured; where
a source says that consent is not set, or all of them only that nothing is configured, the tag
covers nothing; and otherwise exactly the categories are missing that no source declares and that
the tag does not handle by itself. So a tag is never found in order by mistake. A verdict is given
unless a map of settings has a composite key.
-/

namespace TagAudit

open Failure

namespace ConsentVerdict

/-- The keys of the parameters that say something about consent. -/
def parameterKeys : List String :=
  ["consentSettings", "consent_type"] ++ ConsentCategory.all.map (·.name)

/-- A tag says something about consent: it has consent settings that are an object, or a parameter
with one of the keys for consent. -/
def Informed (tag : Tag) : Prop :=
  tag.consentSettings?.isSome = true ∨
    ∃ parameter ∈ tag.parameters, ∃ key ∈ parameterKeys, parameter.get? "key" = some (.string key)

/-- A tag says that consent is not set: in one of its blocks, or because something is read in it
and all of that is that nothing is configured. -/
def Unset (tag : Tag) : Prop :=
  (∃ source ∈ ConsentSource.ofTag tag, source.StatesNotSet) ∨
    (∃ source ∈ ConsentSource.ofTag tag, ∃ value, source.Holds value) ∧
      ∀ source ∈ ConsentSource.ofTag tag, ∀ value, source.Holds value →
        value = .string "not_configured"

/-- A tag covers a category: one of its sources declares it, or it is that of analytics and the tag
handles analytics by itself. -/
def Covers (tag : Tag) (category : ConsentCategory) : Prop :=
  (∃ source ∈ ConsentSource.ofTag tag, source.Declares category) ∨
    category = .analyticsStorage ∧ tag.kind ∈ consentAwareTypes

instance (tag : Tag) : Decidable (Informed tag) := inferInstanceAs (Decidable (_ ∨ _))

instance (tag : Tag) (category : ConsentCategory) : Decidable (Covers tag category) :=
  inferInstanceAs (Decidable (_ ∨ _))

/-- A verdict that says exactly what a tag covers of what it needs. -/
structure IsExact (tag : Tag) (verdict : ConsentVerdict) : Prop where
  required : verdict.required = Marketing.requiredConsent tag
  ok : verdict.state = .ok ↔
    Informed tag ∧ ¬ Unset tag ∧ ∀ category ∈ verdict.required, Covers tag category
  severity : verdict.severity = none ↔ verdict.state = .ok
  /-- Nothing is said about consent. -/
  uninformed : ¬ Informed tag → verdict.state = .notConfigured ∧
    verdict.severity = some .critical ∧ verdict.missing = verdict.required
  /-- Consent is said not to be set. -/
  unset : Informed tag → Unset tag → verdict.state = .notConfigured ∧
    verdict.severity = some .major ∧ verdict.missing = verdict.required
  /-- Otherwise exactly that is missing which is not covered, in its order. -/
  missing : Informed tag → ¬ Unset tag →
    verdict.missing = verdict.required.filter (¬ Covers tag ·)
  incomplete : Informed tag → ¬ Unset tag → verdict.missing ≠ [] → verdict.state = .missing ∧
    verdict.severity = some (if verdict.missing.length = 1 ∧
      ∃ category ∈ verdict.required, Covers tag category then .minor else .major)

/-- The tag gets a verdict, and that is exact. -/
def HasExactVerdict (tag : Tag) : Prop := ∃ verdict, ofTag tag = .ok verdict ∧ IsExact tag verdict

section Facts

/-- A parameter is a source exactly if it has one of the keys for consent. -/
theorem isSome_ofParameter?_iff {parameter : Json} :
    (ConsentSource.ofParameter? parameter).isSome = true ↔
      ∃ key ∈ parameterKeys, parameter.get? "key" = some (.string key) := by
  have hkeys (key : String) : key ∈ parameterKeys ↔
      key = "consentSettings" ∨ key = "consent_type" ∨ ∃ category : ConsentCategory,
        category.name = key := by
    simp [parameterKeys, ConsentCategory.mem_all]
  have hname (key : String) : (ConsentCategory.ofName? key).isSome = true ↔
      ∃ category : ConsentCategory, category.name = key := by
    simp only [Option.isSome_iff_exists, ConsentDeclaration.ofName?_eq_some_iff]
  unfold ConsentSource.ofParameter?
  cases parameter.get? "key" with
  | none => simp
  | some found =>
    cases found with
    | string key =>
      simp only [Option.some.injEq, Json.string.injEq, exists_eq_right', hkeys, ← hname]
      split
      next hsettings => simp [hsettings]
      next hsettings =>
        split
        next htypes => simp [htypes]
        next htypes => simp [hsettings, htypes]
    | _ => simp

/-- A tag has a source exactly if it says something about consent. -/
theorem ofTag_ne_nil_iff {tag : Tag} : ConsentSource.ofTag tag ≠ [] ↔ Informed tag := by
  unfold ConsentSource.ofTag ConsentSource.own? Informed
  simp only [ne_eq, List.append_eq_nil_iff, Option.toList_eq_nil_iff, Option.map_eq_none_iff,
    List.filterMap_eq_nil_iff, not_and_or, not_forall, ← isSome_ofParameter?_iff,
    Option.isSome_iff_ne_none, exists_prop]

variable {tag : Tag} {declaration : ConsentDeclaration}

theorem isNotSet_iff (h : declaration.Records (ConsentSource.ofTag tag)) :
    declaration.isNotSet = true ↔ Unset tag := by
  have hall : (∀ value ∈ declaration.values, value = .string "not_configured") ↔
      ∀ source ∈ ConsentSource.ofTag tag, ∀ value, source.Holds value →
        value = .string "not_configured" := by
    constructor
    · exact fun hall source hsource value hholds =>
        hall value ((h.values value).mpr ⟨source, hsource, hholds⟩)
    · intro hall value hvalue
      obtain ⟨source, hsource, hholds⟩ := (h.values value).mp hvalue
      exact hall source hsource value hholds
  have hsome : declaration.values ≠ [] ↔
      ∃ source ∈ ConsentSource.ofTag tag, ∃ value, source.Holds value := by
    constructor
    · intro hvalues
      obtain ⟨value, hvalue⟩ := List.exists_mem_of_ne_nil _ hvalues
      obtain ⟨source, hsource, hholds⟩ := (h.values value).mp hvalue
      exact ⟨source, hsource, value, hholds⟩
    · rintro ⟨source, hsource, value, hholds⟩
      exact List.ne_nil_of_mem ((h.values value).mpr ⟨source, hsource, hholds⟩)
  unfold ConsentDeclaration.isNotSet Unset
  rw [Bool.or_eq_true, h.statedNotSet, Bool.and_eq_true, ← hsome, ← hall, List.all_eq_true]
  simp only [Bool.not_eq_true', List.isEmpty_eq_false_iff, beq_iff_eq]
  rfl

@[simp] theorem required_ofDeclaration :
    (ofDeclaration tag declaration).required = Marketing.requiredConsent tag := by
  unfold ofDeclaration
  extract_lets required inferred present missing verdict
  split
  · rfl
  · split
    · rfl
    · split <;> rfl

theorem present_ofDeclaration : (ofDeclaration tag declaration).present = declaration.present ++
    if infersAnalytics tag declaration then [.analyticsStorage] else [] := by
  unfold ofDeclaration
  extract_lets required inferred present missing verdict
  split
  · rfl
  · split
    · rfl
    · split <;> rfl

/-- What is needed and not present. -/
def absent (verdict : ConsentVerdict) : List ConsentCategory :=
  verdict.required.filter (· ∉ verdict.present)

/-- The verdict where nothing is said about consent. -/
theorem ofDeclaration_of_not_hasInfo (tag : Tag) (h : declaration.hasInfo = false) :
    (ofDeclaration tag declaration).state = .notConfigured ∧
      (ofDeclaration tag declaration).severity = some .critical ∧
      (ofDeclaration tag declaration).missing = (ofDeclaration tag declaration).absent := by
  unfold ofDeclaration
  extract_lets required inferred present missing verdict
  rw [if_pos (by rw [h]; rfl)]
  exact ⟨rfl, rfl, rfl⟩

/-- The verdict where consent is said not to be set. -/
theorem ofDeclaration_of_isNotSet (tag : Tag) (h : declaration.hasInfo = true)
    (hunset : declaration.isNotSet = true) :
    (ofDeclaration tag declaration).state = .notConfigured ∧
      (ofDeclaration tag declaration).severity = some .major ∧
      (ofDeclaration tag declaration).missing = (ofDeclaration tag declaration).required := by
  unfold ofDeclaration
  extract_lets required inferred present missing verdict
  rw [if_neg (by rw [h]; decide), if_pos hunset]
  exact ⟨rfl, rfl, rfl⟩

/-- The verdict on a configured declaration. -/
theorem ofDeclaration_of_configured (tag : Tag) (h : declaration.hasInfo = true)
    (hset : declaration.isNotSet = false) :
    (ofDeclaration tag declaration).missing = (ofDeclaration tag declaration).absent ∧
    ((ofDeclaration tag declaration).absent = [] →
      (ofDeclaration tag declaration).state = .ok ∧
        (ofDeclaration tag declaration).severity = none) ∧
    ((ofDeclaration tag declaration).absent ≠ [] →
      (ofDeclaration tag declaration).state = .missing ∧
        (ofDeclaration tag declaration).severity =
          some (if (ofDeclaration tag declaration).absent.length = 1 ∧
            (ofDeclaration tag declaration).required.any
              (· ∈ (ofDeclaration tag declaration).present) then .minor else .major)) := by
  unfold ofDeclaration
  extract_lets required inferred present missing verdict
  rw [if_neg (by rw [h]; decide), if_neg (by rw [hset]; decide)]
  split
  next hempty =>
    exact ⟨rfl, fun _ => ⟨rfl, rfl⟩, fun hne => absurd (List.isEmpty_iff.mp hempty) hne⟩
  next hempty =>
    exact ⟨rfl, fun heq => absurd (List.isEmpty_iff.mpr heq) hempty, fun _ => ⟨rfl, rfl⟩⟩

/-- The present categories are those declared, and that of analytics where the tag handles it once
consent is configured. -/
theorem mem_present_ofDeclaration {category : ConsentCategory} :
    category ∈ (ofDeclaration tag declaration).present ↔
      category ∈ declaration.present ∨ category = .analyticsStorage ∧
        declaration.hasInfo = true ∧ declaration.isNotSet = false ∧
          tag.kind ∈ consentAwareTypes := by
  have hinfers : infersAnalytics tag declaration = true ↔ declaration.hasInfo = true ∧
      declaration.isNotSet = false ∧ tag.kind ∈ consentAwareTypes ∧
      .analyticsStorage ∉ declaration.present := by
    simp only [infersAnalytics, Bool.and_eq_true, Bool.not_eq_true', List.contains_iff_mem,
      decide_eq_true_eq, and_assoc]
  rw [present_ofDeclaration, List.mem_append]
  split
  next hinferred =>
    obtain ⟨hinfo, hset, haware, -⟩ := hinfers.mp hinferred
    simp [hinfo, hset, haware]
  next hinferred =>
    constructor
    · rintro (hdeclared | hadded)
      · exact .inl hdeclared
      · cases hadded
    · rintro (hdeclared | ⟨rfl, hinfo, hset, haware⟩)
      · exact .inl hdeclared
      · -- nothing is inferred only because analytics is declared already
        by_contra hnone
        exact hinferred (hinfers.mpr ⟨hinfo, hset, haware, fun h => hnone (.inl h)⟩)

/-- A declaration that says something and is not unset makes exactly the covered categories
present. -/
theorem mem_present_iff_covers (h : declaration.Records (ConsentSource.ofTag tag))
    (hinfo : declaration.hasInfo = true) (hset : declaration.isNotSet = false)
    (category : ConsentCategory) :
    category ∈ (ofDeclaration tag declaration).present ↔ Covers tag category := by
  rw [mem_present_ofDeclaration, h.present, Covers]
  simp only [hinfo, hset, true_and]

private theorem isExact_of_uninformed (h : declaration.Records (ConsentSource.ofTag tag))
    (hinfo : declaration.hasInfo = false) (huninformed : ¬ Informed tag) :
    IsExact tag (ofDeclaration tag declaration) := by
  obtain ⟨hstate, hseverity, hmissing⟩ := ofDeclaration_of_not_hasInfo tag hinfo
  have hempty : ∀ category, category ∉ (ofDeclaration tag declaration).present := by
    intro category hpresent
    rcases mem_present_ofDeclaration.mp hpresent with hdeclared | ⟨-, htrue, -⟩
    · obtain ⟨source, hsource, -⟩ := (h.present category).mp hdeclared
      exact huninformed (ofTag_ne_nil_iff.mp (List.ne_nil_of_mem hsource))
    · rw [hinfo] at htrue
      cases htrue
  refine ⟨required_ofDeclaration, ?_, by simp [hstate, hseverity],
    fun _ => ⟨hstate, hseverity, ?_⟩, fun hinformed => absurd hinformed huninformed,
    fun hinformed => absurd hinformed huninformed, fun hinformed => absurd hinformed huninformed⟩
  · rw [hstate]
    exact iff_of_false (fun h => by cases h) fun hcovers => huninformed hcovers.1
  · rw [hmissing, absent, List.filter_eq_self]
    exact fun category _ => by simp [hempty]

private theorem isExact_of_unset (hinfo : declaration.hasInfo = true)
    (hnotSet : declaration.isNotSet = true) (hinformed : Informed tag) (hunset : Unset tag) :
    IsExact tag (ofDeclaration tag declaration) := by
  obtain ⟨hstate, hseverity, hmissing⟩ := ofDeclaration_of_isNotSet tag hinfo hnotSet
  refine ⟨required_ofDeclaration, ?_, by simp [hstate, hseverity],
    fun huninformed => absurd hinformed huninformed, fun _ _ => ⟨hstate, hseverity, hmissing⟩,
    fun _ hset => absurd hunset hset, fun _ hset => absurd hunset hset⟩
  rw [hstate]
  exact iff_of_false (fun h => by cases h) fun hcovers => hcovers.2.1 hunset

private theorem isExact_of_configured (h : declaration.Records (ConsentSource.ofTag tag))
    (hinfo : declaration.hasInfo = true) (hset : declaration.isNotSet = false)
    (hinformed : Informed tag) (hset' : ¬ Unset tag) :
    IsExact tag (ofDeclaration tag declaration) := by
  have hcovers := mem_present_iff_covers h hinfo hset
  obtain ⟨hmissing, hcomplete, hincomplete⟩ := ofDeclaration_of_configured tag hinfo hset
  have habsent : (ofDeclaration tag declaration).absent =
      (ofDeclaration tag declaration).required.filter (¬ Covers tag ·) := by
    simp only [absent, hcovers]
  have hall : (ofDeclaration tag declaration).absent = [] ↔
      ∀ category ∈ (ofDeclaration tag declaration).required, Covers tag category := by
    rw [habsent, List.filter_eq_nil_iff]
    simp
  have hany : (ofDeclaration tag declaration).required.any
        (· ∈ (ofDeclaration tag declaration).present) = true ↔
      ∃ category ∈ (ofDeclaration tag declaration).required, Covers tag category := by
    simp only [List.any_eq_true, decide_eq_true_eq, hcovers]
  refine ⟨required_ofDeclaration, ?_, ?_, fun huninformed => absurd hinformed huninformed,
    fun _ hunset => absurd hunset hset', fun _ _ => hmissing.trans habsent, fun _ _ hne => ?_⟩
  · rw [← hall]
    constructor
    · intro hok
      refine ⟨hinformed, hset', ?_⟩
      by_contra hne
      rw [(hincomplete hne).1] at hok
      cases hok
    · exact fun hcovered => (hcomplete hcovered.2.2).1
  · by_cases hempty : (ofDeclaration tag declaration).absent = []
    · simp [hcomplete hempty]
    · simp [hincomplete hempty]
  · rw [hmissing] at hne ⊢
    simp only [hincomplete hne, hany, and_self]

/-- The verdict on a declaration of what the sources of a tag say is exact. -/
theorem isExact_ofDeclaration (h : declaration.Records (ConsentSource.ofTag tag)) :
    IsExact tag (ofDeclaration tag declaration) := by
  have hinformed : declaration.hasInfo = true ↔ Informed tag := h.hasInfo.trans ofTag_ne_nil_iff
  have hunset : declaration.isNotSet = true ↔ Unset tag := isNotSet_iff h
  cases hinfo : declaration.hasInfo with
  | false => exact isExact_of_uninformed h hinfo (mt hinformed.mpr (by simp [hinfo]))
  | true =>
    cases hset : declaration.isNotSet with
    | true => exact isExact_of_unset hinfo hset (hinformed.mp hinfo) (hunset.mp hset)
    | false =>
      exact isExact_of_configured h hinfo hset (hinformed.mp hinfo)
        (mt hunset.mpr (by simp [hset]))

end Facts

/-- A tag gets an exact verdict exactly if all its parameters can be read. -/
theorem hasExactVerdict_iff (tag : Tag) : HasExactVerdict tag ↔
    ∀ parameter ∈ tag.parameters, ConsentDeclaration.isReadable parameter = true := by
  rw [← List.all_eq_true, ← ConsentDeclaration.isOk_ofTag, HasExactVerdict, ofTag]
  cases hread : ConsentDeclaration.ofTag tag with
  | error fault => simp [Except.map]
  | ok declaration =>
    have hrecords := ConsentDeclaration.records_ofTag hread
    exact iff_of_true ⟨_, rfl, isExact_ofDeclaration hrecords⟩ rfl

/-- An advertising tag whose consent settings list all that it needs, beside a map of settings with
an item whose key is an array. -/
def compositeKeyTag : Tag :=
  Tag.ofJson (.object [("tagId", .string "1"), ("name", .string "Ads"), ("type", .string "awct"),
    ("consentSettings", .object [("consentType",
      .strings ["ad_storage", "ad_user_data", "ad_personalization"])]),
    ("parameter", .array [.object [("key", .string "consentSettings"),
      ("map", .array [.object [("key", .array [])]])]])]) 0

/-- It covers all that it needs, but gets no verdict. -/
theorem not_hasExactVerdict_compositeKeyTag :
    (Informed compositeKeyTag ∧ ∀ category ∈ Marketing.requiredConsent compositeKeyTag,
      Covers compositeKeyTag category) ∧ ¬ HasExactVerdict compositeKeyTag := by
  refine ⟨by decide +kernel, ?_⟩
  rintro ⟨verdict, hverdict, -⟩
  have hfails : (ofTag compositeKeyTag).isOk = false := by decide +kernel
  rw [hverdict] at hfails
  cases hfails

end ConsentVerdict

end TagAudit
