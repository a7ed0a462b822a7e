import TagAudit.Proofs.Consent.Verdicts

/-!
# Declaring more consent

A tag whose consent settings list one more category is not judged worse: what it covers grows by
that category, so that nothing is missing that was not missing before, and a tag that was in order
stays so. What a tag says about consent not being set can only be taken back, since the list then
holds something else than that nothing is configured.
-/

namespace TagAudit

namespace Status

/-- The rank of a status: none is below all severities. -/
def rank (status : Status) : Nat := (status.map Severity.rank).getD 0

end Status

namespace Tag

/-- The consent settings of a tag are an object that lists items as its consent types. -/
def ListsConsent (tag : Tag) (items : List Json) : Prop :=
  ∃ settings types, tag.consentSettings? = some settings ∧
    settings.get? "consentType" = some types ∧ types.get? "list" = some (.array items)

/-- The tag with other items listed as the consent types in its consent settings. -/
def withConsentList (tag : Tag) (items : List Json) : Tag :=
  let settings := tag.raw.get "consentSettings"
  let types := (settings.get "consentType").replace "list" (.array items)
  { tag with raw := tag.raw.replace "consentSettings" (settings.replace "consentType" types) }

end Tag

namespace ConsentVerdict

/-- A verdict that is no worse than another one. -/
structure NoWorse (before after : ConsentVerdict) : Prop where
  severity : after.severity.rank ≤ before.severity.rank
  ok : before.state = .ok → after.state = .ok
  missing : after.missing.Sublist before.missing
  present : ∀ category ∈ before.present, category ∈ after.present

/-- A tag says at least as much about consent as another tag that needs the same: it declares every
category that the other one does, and says that consent is not set only where the other one does. -/
structure SaysMore (tag other : Tag) : Prop where
  required : Marketing.requiredConsent other = Marketing.requiredConsent tag
  kind : other.kind = tag.kind
  informed : Informed tag → Informed other
  unset : Unset other → Unset tag
  declares : ∀ category, (∃ source ∈ ConsentSource.ofTag tag, source.Declares category) →
    ∃ source ∈ ConsentSource.ofTag other, source.Declares category

section Laws

variable {tag other : Tag}

theorem SaysMore.covers (h : SaysMore tag other) {category : ConsentCategory}
    (hcovers : Covers tag category) : Covers other category := by
  rcases hcovers with hdeclared | ⟨hanalytics, haware⟩
  · exact .inl (h.declares category hdeclared)
  · exact .inr ⟨hanalytics, h.kind ▸ haware⟩

variable {before after : ConsentVerdict}

/-- Nothing is missing but what is needed. -/
theorem IsExact.missing_sublist (h : IsExact tag before) :
    before.missing.Sublist before.required := by
  by_cases hinformed : Informed tag
  · by_cases hunset : Unset tag
    · rw [(h.unset hinformed hunset).2.2]
    · rw [h.missing hinformed hunset]
      exact List.filter_sublist
  · rw [(h.uninformed hinformed).2.2]

theorem SaysMore.missing_sublist (h : SaysMore tag other) (hbefore : IsExact tag before)
    (hafter : IsExact other after) : after.missing.Sublist before.missing := by
  have hrequired : after.required = before.required := by
    rw [hafter.required, hbefore.required, h.required]
  by_cases hinformed : Informed tag
  · by_cases hunset : Unset tag
    · rw [(hbefore.unset hinformed hunset).2.2, ← hrequired]
      exact hafter.missing_sublist
    · rw [hbefore.missing hinformed hunset,
        hafter.missing (h.informed hinformed) (mt h.unset hunset), hrequired]
      refine List.monotone_filter_right _ fun category => ?_
      simpa using mt h.covers
  · rw [(hbefore.uninformed hinformed).2.2, ← hrequired]
    exact hafter.missing_sublist

theorem SaysMore.ok (h : SaysMore tag other) (hbefore : IsExact tag before)
    (hafter : IsExact other after) (hok : before.state = .ok) : after.state = .ok := by
  obtain ⟨hinformed, hset, hcovers⟩ := hbefore.ok.mp hok
  refine hafter.ok.mpr ⟨h.informed hinformed, mt h.unset hset, fun category hmem => ?_⟩
  rw [hafter.required, h.required, ← hbefore.required] at hmem
  exact h.covers (hcovers category hmem)

/-- A configured tag from which nothing is missing is in order. -/
theorem IsExact.severity_eq_none (h : IsExact tag before) (hinformed : Informed tag)
    (hset : ¬ Unset tag) (hempty : before.missing = []) : before.severity = none := by
  refine h.severity.mpr (h.ok.mpr ⟨hinformed, hset, fun category hmem => ?_⟩)
  rw [h.missing hinformed hset, List.filter_eq_nil_iff] at hempty
  simpa using hempty category hmem

/-- Only a tag that says nothing about consent is judged critical. -/
theorem IsExact.rank_le (h : IsExact tag before) (hinformed : Informed tag) :
    before.severity.rank ≤ 2 := by
  by_cases hunset : Unset tag
  · rw [(h.unset hinformed hunset).2.1]
    exact Nat.le_refl 2
  · by_cases hempty : before.missing = []
    · rw [h.severity_eq_none hinformed hunset hempty]
      exact Nat.zero_le 2
    · rw [(h.incomplete hinformed hunset hempty).2]
      split
      · exact Nat.le_succ 1
      · exact Nat.le_refl 2

theorem SaysMore.severity (h : SaysMore tag other) (hbefore : IsExact tag before)
    (hafter : IsExact other after) : after.severity.rank ≤ before.severity.rank := by
  by_cases hinformed : Informed tag
  · have hrank := hafter.rank_le (h.informed hinformed)
    by_cases hunset : Unset tag
    · rw [(hbefore.unset hinformed hunset).2.1]
      exact hrank
    · have hset := mt h.unset hunset
      by_cases hempty : after.missing = []
      · rw [hafter.severity_eq_none (h.informed hinformed) hset hempty]
        exact Nat.zero_le _
      · have hsublist := h.missing_sublist hbefore hafter
        have hne : before.missing ≠ [] := by
          intro hnil
          rw [hnil] at hsublist
          exact hempty (List.eq_nil_of_sublist_nil hsublist)
        rw [(hbefore.incomplete hinformed hunset hne).2]
        split
        next hpartly =>
          -- one category is missing before, so that one and no other is missing afterwards
          obtain ⟨hone, category, hmem, hcovers⟩ := hpartly
          have hlength : after.missing.length = 1 :=
            Nat.le_antisymm (hone ▸ hsublist.length_le) (List.length_pos_iff.mpr hempty)
          have hmem' : category ∈ after.required := by
            rwa [hafter.required, h.required, ← hbefore.required]
          rw [(hafter.incomplete (h.informed hinformed) hset hempty).2,
            if_pos ⟨hlength, category, hmem', h.covers hcovers⟩]
        next => exact hrank
  · rw [(hbefore.uninformed hinformed).2.1]
    rcases after.severity with _ | severity
    · exact Nat.zero_le _
    · cases severity <;> decide

/-- A tag that says more about consent is judged no worse. -/
theorem SaysMore.noWorse (h : SaysMore tag other) {declaration declaration' : ConsentDeclaration}
    (hrecords : declaration.Records (ConsentSource.ofTag tag))
    (hrecords' : declaration'.Records (ConsentSource.ofTag other)) :
    NoWorse (ofDeclaration tag declaration) (ofDeclaration other declaration') where
  severity := h.severity (isExact_ofDeclaration hrecords) (isExact_ofDeclaration hrecords')
  ok := h.ok (isExact_ofDeclaration hrecords) (isExact_ofDeclaration hrecords')
  missing := h.missing_sublist (isExact_ofDeclaration hrecords) (isExact_ofDeclaration hrecords')
  present := by
    intro category hpresent
    rw [mem_present_ofDeclaration] at hpresent ⊢
    rcases hpresent with hdeclared | ⟨hanalytics, hinfo, hset, haware⟩
    · exact .inl ((hrecords'.present category).mpr
        (h.declares category ((hrecords.present category).mp hdeclared)))
    · have hinformed : Informed tag := ofTag_ne_nil_iff.mp (hrecords.hasInfo.mp hinfo)
      have hunset : ¬ Unset tag := mt (isNotSet_iff hrecords).mpr (by simp [hset])
      refine .inr ⟨hanalytics, ?_, ?_, h.kind ▸ haware⟩
      · exact hrecords'.hasInfo.mpr (ofTag_ne_nil_iff.mpr (h.informed hinformed))
      · exact eq_false_of_ne_true (mt (isNotSet_iff hrecords').mp (mt h.unset hunset))

end Laws

section Lists

open ConsentDeclaration (Lists mem_names_iff)

/-- An object with a list lists what that does. -/
theorem lists_of_list {value list : Json} (h : value.get? "list" = some list) {name : String} :
    Lists value name ↔ Lists list name := by
  cases value with
  | object members =>
    constructor
    · intro hlists
      cases hlists with
      | list found listed => exact Option.some.inj (h.symm.trans found) ▸ listed
      | value unlisted => cases h.symm.trans unlisted
    · exact .list h
  | _ => cases h

/-- An array with one more item lists what it did, and what that item does. -/
theorem lists_concat {items : List Json} {item : Json} {name : String} :
    Lists (.array (items ++ [item])) name ↔ Lists (.array items) name ∨ Lists item name := by
  constructor
  · intro hlists
    cases hlists with
    | item mem listed =>
      rcases List.mem_append.mp mem with hmem | hmem
      · exact .inl (.item hmem listed)
      · exact .inr (List.mem_singleton.mp hmem ▸ listed)
  · rintro (hlists | hlists)
    · cases hlists with
      | item mem listed => exact .item (List.mem_append_left _ mem) listed
    · exact .item (List.mem_append_right _ (List.mem_singleton_self item)) hlists

/-- The name of a category, as a text or as the value of an object, lists that name only. -/
theorem lists_category {category : ConsentCategory} {item : Json}
    (h : item = .string category.name ∨ item = .object [("value", .string category.name)])
    {name : String} : Lists item name ↔ name = category.name := by
  have hnonempty : category.name ≠ "" := by cases category <;> decide
  rw [← mem_names_iff]
  rcases h with rfl | rfl <;>
    simp [ConsentDeclaration.names, ConsentDeclaration.namesAt, hnonempty]

end Lists

section Settings

open ConsentDeclaration (Lists)

variable {tag other : Tag} {settings types : Json} {items : List Json}

/-- The consent settings of a tag are its first source. -/
theorem ofTag_eq_cons (h : tag.consentSettings? = some settings) :
    ConsentSource.ofTag tag =
      .block settings.get :: tag.parameters.filterMap ConsentSource.ofParameter? := by
  rw [ConsentSource.ofTag, ConsentSource.own?, h]
  rfl

/-- A tag whose consent settings list more types, one of them a real one, and are otherwise the same
says more about consent. -/
theorem saysMore_of_settings {block block' : Json}
    (hneeds : Marketing.requiredConsent other = Marketing.requiredConsent tag)
    (hkind : other.kind = tag.kind) (hparameters : other.parameters = tag.parameters)
    (hblock : tag.consentSettings? = some block) (hblock' : other.consentSettings? = some block')
    (hsame : ∀ key, key ≠ "consentType" → block'.get key = block.get key)
    (hgrown : ∀ name, Lists (block.get "consentType") name → Lists (block'.get "consentType") name)
    (hreal : ∃ name, Lists (block'.get "consentType") name ∧ name ≠ "not_configured") :
    SaysMore tag other where
  required := hneeds
  kind := hkind
  informed _ := .inl (by rw [hblock']; rfl)
  unset := by
    rintro (⟨source, hsource, hstates⟩ | ⟨-, hall⟩)
    · rw [ofTag_eq_cons hblock', hparameters] at hsource
      refine .inl ?_
      rw [ofTag_eq_cons hblock]
      rcases List.mem_cons.mp hsource with rfl | hrest
      · obtain ⟨status, hstatus, hnotSet⟩ := hstates
        rw [hsame _ (by decide)] at hstatus
        exact ⟨_, List.mem_cons_self .., status, hstatus, hnotSet⟩
      · exact ⟨source, List.mem_cons_of_mem _ hrest, hstates⟩
    · -- the real type is read, and that is not that nothing is configured
      obtain ⟨name, hname, hne⟩ := hreal
      have hholds := hall (.block block'.get)
        (by rw [ofTag_eq_cons hblock']; exact List.mem_cons_self ..)
        (.string name) (.inr ⟨name, .inl hname, rfl⟩)
      exact absurd (Json.string.inj hholds) hne
  declares category := by
    rintro ⟨source, hsource, hdeclares⟩
    rw [ofTag_eq_cons hblock] at hsource
    rw [ofTag_eq_cons hblock', hparameters]
    rcases List.mem_cons.mp hsource with rfl | hrest
    · refine ⟨_, List.mem_cons_self .., ?_⟩
      rcases hdeclares with htypes | hrequired
      · exact .inl (hgrown _ htypes)
      · exact .inr ((hsame "consentRequired" (by decide)).symm ▸ hrequired)
    · exact ⟨source, List.mem_cons_of_mem _ hrest, hdeclares⟩

theorem consentSettings?_withConsentList (hsettings : tag.consentSettings? = some settings)
    (htypes : settings.get? "consentType" = some types) :
    (tag.withConsentList items).consentSettings? =
      some (settings.replace "consentType" (types.replace "list" (.array items))) := by
  obtain ⟨hraw, hobject⟩ := Option.filter_eq_some_iff.mp hsettings
  have hget : tag.raw.get "consentSettings" = settings := by rw [Json.get, hraw, Option.getD_some]
  have hgetTypes : settings.get "consentType" = types := by rw [Json.get, htypes, Option.getD_some]
  have hrawObject : tag.raw.isObject = true := by
    cases hr : tag.raw <;> first | rfl | (rw [hr] at hraw; cases hraw)
  unfold Tag.withConsentList Tag.consentSettings?
  dsimp only
  rw [hget, hgetTypes, Json.get?_replace_self hrawObject, Option.filter_some,
    Json.isObject_replace, if_pos hobject]

theorem requiredConsent_withConsentList (tag : Tag) (items : List Json) :
    Marketing.requiredConsent (tag.withConsentList items) = Marketing.requiredConsent tag := by
  have hhtml : (tag.withConsentList items).html = tag.html := by
    unfold Tag.withConsentList Tag.html
    dsimp only
    rw [Json.get_replace_of_ne (by decide)]
    rfl
  have hkind : (tag.withConsentList items).kind = tag.kind := rfl
  unfold Marketing.requiredConsent Tag.isCustomHtml
  rw [hkind, hhtml]

/-- A tag whose list of consent types gains a category says more about consent. -/
theorem saysMore_withConsentList {category : ConsentCategory} {item : Json}
    (listed : tag.ListsConsent items)
    (new : item = .string category.name ∨ item = .object [("value", .string category.name)]) :
    SaysMore tag (tag.withConsentList (items ++ [item])) := by
  obtain ⟨settings, types, hsettings, htypes, hlist⟩ := listed
  have hobject : settings.isObject = true := (Option.filter_eq_some_iff.mp hsettings).2
  have hgetTypes : settings.get "consentType" = types := by rw [Json.get, htypes, Option.getD_some]
  have htypesObject : types.isObject = true := by
    cases types <;> first | rfl | cases hlist
  let types' := types.replace "list" (.array (items ++ [item]))
  have hgrown (name : String) :
      Lists ((settings.replace "consentType" types').get "consentType") name ↔
        Lists (settings.get "consentType") name ∨ name = category.name := by
    rw [Json.get_replace_self hobject, lists_of_list (Json.get?_replace_self htypesObject),
      lists_concat, lists_category new, hgetTypes, lists_of_list hlist]
  refine saysMore_of_settings (requiredConsent_withConsentList ..) rfl rfl hsettings
    (consentSettings?_withConsentList hsettings htypes)
    (fun key hne => Json.get_replace_of_ne hne ..) (fun name hname => (hgrown name).mpr (.inl hname))
    ⟨category.name, (hgrown _).mpr (.inr rfl), ?_⟩
  cases category <;> decide

end Settings

/-- One more category in the list of consent types makes the verdict no worse. -/
theorem noWorse_withConsentList {tag : Tag} {items : List Json} {item : Json}
    (category : ConsentCategory) (readable : (ConsentDeclaration.ofTag tag).isOk = true)
    (listed : tag.ListsConsent items)
    (new : item = .string category.name ∨ item = .object [("value", .string category.name)]) :
    ∃ before after, ofTag tag = .ok before ∧
      ofTag (tag.withConsentList (items ++ [item])) = .ok after ∧ NoWorse before after := by
  obtain ⟨declaration, hread⟩ := Failure.exists_of_isOk readable
  have readable' :
      (ConsentDeclaration.ofTag (tag.withConsentList (items ++ [item]))).isOk = true := by
    rw [ConsentDeclaration.isOk_ofTag] at readable ⊢
    exact readable
  obtain ⟨declaration', hread'⟩ := Failure.exists_of_isOk readable'
  refine ⟨_, _, Failure.map_eq_ok_iff.mpr ⟨_, hread, rfl⟩,
    Failure.map_eq_ok_iff.mpr ⟨_, hread', rfl⟩, ?_⟩
  exact (saysMore_withConsentList listed new).noWorse (ConsentDeclaration.records_ofTag hread)
    (ConsentDeclaration.records_ofTag hread')

/-- An analytics tag whose consent settings list only that nothing is configured. -/
def unconfiguredTag : Tag :=
  Tag.ofJson (.object [("tagId", .string "1"), ("name", .string "Event"), ("type", .string "gaawe"),
    ("consentSettings", .object [("consentType",
      .object [("list", .strings ["not_configured"])])])]) 0

/-- One category, whichever it is, ends that nothing is configured. -/
theorem noWorse_unconfiguredTag :
    (ConsentDeclaration.ofTag unconfiguredTag).isOk = true ∧
      unconfiguredTag.ListsConsent [.string "not_configured"] ∧
      ∃ before after, ofTag unconfiguredTag = .ok before ∧
        ofTag (unconfiguredTag.withConsentList
          ([.string "not_configured"] ++ [.string "ad_storage"])) = .ok after ∧
        NoWorse before after := by
  have readable : (ConsentDeclaration.ofTag unconfiguredTag).isOk = true := by decide
  have listed : unconfiguredTag.ListsConsent [.string "not_configured"] :=
    ⟨_, _, rfl, rfl, rfl⟩
  exact ⟨readable, listed, noWorse_withConsentList .adStorage readable listed (.inl rfl)⟩

end ConsentVerdict

end TagAudit
