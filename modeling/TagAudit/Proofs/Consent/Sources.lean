import TagAudit.Consent.Declaration
import TagAudit.Proofs.Failure
import TagAudit.Proofs.Json.Assignment
import TagAudit.Proofs.Json.Rearranged

/-!
# Sources of consent

What a tag says about consent stands in several places: in blocks of settings, in parameters of
single categories and in lists of categories. These are its sources. A declaration records exactly
what the sources say, each of them by itself, whatever their order; it can be read unless a map of
settings has a composite key.
-/

namespace TagAudit

open Failure

namespace ConsentDeclaration

section Names

/-- A name is listed in a value: a text is its own name, an array lists what its items do, and an
object what its list does, or else its value. -/
inductive Lists : Json → String → Prop
  | text {s : String} (nonempty : s ≠ "") : Lists (.string s) s
  | item {xs : List Json} {x : Json} {s : String} (mem : x ∈ xs) (listed : Lists x s) :
      Lists (.array xs) s
  | list {ms : List (String × Json)} {x : Json} {s : String} (found : ms.lookup "list" = some x)
      (listed : Lists x s) : Lists (.object ms) s
  | value {ms : List (String × Json)} {x : Json} {s : String} (unlisted : ms.lookup "list" = none)
      (found : ms.lookup "value" = some x) (listed : Lists x s) : Lists (.object ms) s

private theorem namesOfItems_eq (xs : List Json) : namesOfItems xs = xs.flatMap names := by
  induction xs with
  | nil => simp [namesOfItems]
  | cons x xs ih => rw [namesOfItems, ih, List.flatMap_cons]

private theorem namesAt_eq (key : String) (ms : List (String × Json)) :
    namesAt key ms = (ms.lookup key).map names := by
  induction ms with
  | nil => simp [namesAt]
  | cons m ms ih =>
    obtain ⟨k, v⟩ := m
    rw [namesAt, List.lookup_cons]
    by_cases h : k = key
    · simp [h]
    · have hne : (key == k) = false := by simpa using Ne.symm h
      rw [if_neg h, hne, ih]

/-- The names of a value are those that are listed in it. -/
theorem mem_names_iff {value : Json} {s : String} : s ∈ names value ↔ Lists value s := by
  constructor
  · intro h
    induction value using Json.induction with
    | null => cases h
    | bool b => cases h
    | number n => cases h
    | string t =>
      rw [names] at h
      split at h
      · cases h
      next hempty =>
        obtain rfl := List.mem_singleton.mp h
        exact .text (by simpa using hempty)
    | array xs ih =>
      rw [names, namesOfItems_eq] at h
      obtain ⟨x, hx, hs⟩ := List.mem_flatMap.mp h
      exact .item hx (ih x hx hs)
    | object ms ih =>
      have hmem {key : String} {x : Json} (hx : ms.lookup key = some x) : (key, x) ∈ ms := by
        obtain ⟨before, after, rfl, -⟩ := List.lookup_eq_some_iff.mp hx
        simp
      rw [names, namesAt_eq, namesAt_eq] at h
      cases hlist : ms.lookup "list" with
      | some x =>
        rw [hlist] at h
        exact .list hlist (ih _ (hmem hlist) h)
      | none =>
        cases hvalue : ms.lookup "value" with
        | some x =>
          rw [hlist, hvalue] at h
          exact .value hlist hvalue (ih _ (hmem hvalue) h)
        | none =>
          rw [hlist, hvalue] at h
          cases h
  · intro h
    induction h with
    | text nonempty => simpa [names] using nonempty
    | item mem _ ih =>
      rw [names, namesOfItems_eq]
      exact List.mem_flatMap.mpr ⟨_, mem, ih⟩
    | list found _ ih =>
      rw [names, namesAt_eq, found]
      exact ih
    | value unlisted found _ ih =>
      rw [names, namesAt_eq, namesAt_eq, unlisted, found]
      exact ih

instance (value : Json) (s : String) : Decidable (Lists value s) :=
  decidable_of_iff _ mem_names_iff

end Names

end ConsentDeclaration

open ConsentDeclaration

/-- Something in a tag that is read for consent. -/
inductive ConsentSource
  /-- A block of settings, by what it holds under a key. -/
  | block (settings : String → Json)
  /-- A value for one category. -/
  | single (category : ConsentCategory) (value : Json)
  /-- A value that lists categories. -/
  | types (value : Json)

namespace ConsentSource

/-- What a map holds under a key: the value of its last item of that key. -/
def lastOf (map : Json) (key : String) : Json :=
  ((map.items.reverse.find? (Field.hasKey key)).map (·.get "value")).getD .null

/-- The block in a parameter of consent settings: its value if that is an object, or else its
map. -/
def settingsOf (parameter : Json) : String → Json :=
  if (parameter.get "value").isObject then (parameter.get "value").get
  else lastOf (parameter.get "map")

/-- What a parameter of consent types lists: its value, or else its list. -/
def typesOf (parameter : Json) : Json :=
  if parameter.get "value" == .null then parameter.get "list" else parameter.get "value"

/-- The source that a parameter is. -/
def ofParameter? (parameter : Json) : Option ConsentSource :=
  match parameter.get? "key" with
  | some (.string key) =>
    if key = "consentSettings" then some (.block (settingsOf parameter))
    else if key = "consent_type" then some (.types (typesOf parameter))
    else (ConsentCategory.ofName? key).map (.single · (parameter.get "value"))
  | _ => none

/-- The block in the consent settings of a tag itself. -/
def own? (tag : Tag) : Option ConsentSource := tag.consentSettings?.map fun settings =>
  .block settings.get

/-- The sources in a tag. -/
def ofTag (tag : Tag) : List ConsentSource :=
  (own? tag).toList ++ tag.parameters.filterMap ofParameter?

/-- Does a source list a name? -/
def Names : ConsentSource → String → Prop
  | block settings, name =>
    Lists (settings "consentType") name ∨ Lists (settings "consentRequired") name
  | types value, name => Lists value name
  | single .., _ => False

/-- Does a source declare a category? A value for one category does if it is truthy. -/
def Declares (source : ConsentSource) (category : ConsentCategory) : Prop :=
  match source with
  | single own value => own = category ∧ Field.isTruthy value = true
  | block _ | types _ => source.Names category.name

/-- Is a value read in a source? In a block these are its status, if that is a text, and the names
it lists. -/
def Holds (source : ConsentSource) (value : Json) : Prop :=
  match source with
  | block settings =>
    (∃ status, settings "consentStatus" = .string status ∧ value = .string status) ∨
      ∃ name, source.Names name ∧ value = .string name
  | types _ => ∃ name, source.Names name ∧ value = .string name
  | single _ own => value = own

/-- Does a source say that consent is not set, in any letter case? -/
def StatesNotSet : ConsentSource → Prop
  | block settings =>
    ∃ status, settings "consentStatus" = .string status ∧ status.uppered = "NOT_SET"
  | types _ | single .. => False

instance (source : ConsentSource) (name : String) : Decidable (source.Names name) :=
  match source with
  | block _ => inferInstanceAs (Decidable (_ ∨ _))
  | types _ => inferInstanceAs (Decidable (Lists ..))
  | single .. => inferInstanceAs (Decidable False)

instance (source : ConsentSource) (category : ConsentCategory) :
    Decidable (source.Declares category) :=
  match source with
  | block settings => inferInstanceAs (Decidable ((block settings).Names category.name))
  | types value => inferInstanceAs (Decidable ((types value).Names category.name))
  | single .. => inferInstanceAs (Decidable (_ ∧ _))

end ConsentSource

namespace ConsentDeclaration

open ConsentSource (ofParameter? settingsOf typesOf lastOf)

/-- A declaration that records exactly what sources say. -/
structure Records (declaration : ConsentDeclaration) (sources : List ConsentSource) : Prop where
  hasInfo : declaration.hasInfo = true ↔ sources ≠ []
  present : ∀ category, category ∈ declaration.present ↔
    ∃ source ∈ sources, source.Declares category
  values : ∀ value, value ∈ declaration.values ↔ ∃ source ∈ sources, source.Holds value
  statedNotSet : declaration.statedNotSet = true ↔ ∃ source ∈ sources, source.StatesNotSet

section Steps

variable {declaration next : ConsentDeclaration} {sources : List ConsentSource}

/-- What a declaration records after a further source is what it recorded before and what that
source says. -/
theorem Records.concat {source : ConsentSource} (h : Records declaration sources)
    (hasInfo : next.hasInfo = true)
    (present : ∀ category, category ∈ next.present ↔
      category ∈ declaration.present ∨ source.Declares category)
    (values : ∀ value, value ∈ next.values ↔ value ∈ declaration.values ∨ source.Holds value)
    (statedNotSet : next.statedNotSet = true ↔
      declaration.statedNotSet = true ∨ source.StatesNotSet) :
    Records next (sources ++ [source]) := by
  have hsplit (P : ConsentSource → Prop) :
      (∃ other ∈ sources ++ [source], P other) ↔ (∃ other ∈ sources, P other) ∨ P source := by
    simp only [List.mem_append, List.mem_singleton, or_and_right, exists_or, exists_eq_left]
  refine ⟨?_, fun category => ?_, fun value => ?_, ?_⟩
  · simp [hasInfo]
  · rw [present, h.present, hsplit]
  · rw [values, h.values, hsplit]
  · rw [statedNotSet, h.statedNotSet, hsplit]

@[simp] theorem values_declare (declaration : ConsentDeclaration) (category : ConsentCategory) :
    (declaration.declare category).values = declaration.values := by
  unfold declare
  split <;> rfl

@[simp] theorem hasInfo_declare (declaration : ConsentDeclaration) (category : ConsentCategory) :
    (declaration.declare category).hasInfo = declaration.hasInfo := by
  unfold declare
  split <;> rfl

@[simp] theorem statedNotSet_declare (declaration : ConsentDeclaration)
    (category : ConsentCategory) :
    (declaration.declare category).statedNotSet = declaration.statedNotSet := by
  unfold declare
  split <;> rfl

@[simp] theorem mem_present_declare {category other : ConsentCategory} :
    other ∈ (declaration.declare category).present ↔
      other ∈ declaration.present ∨ other = category := by
  unfold declare
  split
  next h => exact ⟨.inl, fun hor => hor.elim id fun he => he ▸ h⟩
  next => rw [List.mem_append, List.mem_singleton]

/-- A name is that of a category exactly if the category is found under it. -/
theorem ofName?_eq_some_iff {name : String} {category : ConsentCategory} :
    ConsentCategory.ofName? name = some category ↔ category.name = name := by
  constructor
  · intro h
    have hfound := List.find?_some h
    simpa using hfound
  · rintro rfl
    exact category.ofName?_name

/-- What changes when a name is read. -/
theorem readName_eq (declaration : ConsentDeclaration) (name : String) :
    (declaration.readName name).values = declaration.values ++ [.string name] ∧
      (declaration.readName name).hasInfo = declaration.hasInfo ∧
      (declaration.readName name).statedNotSet = declaration.statedNotSet ∧
      ∀ category, category ∈ (declaration.readName name).present ↔
        category ∈ declaration.present ∨ category.name = name := by
  unfold readName
  cases hname : ConsentCategory.ofName? name with
  | some found =>
    have hfound : found.name = name := ofName?_eq_some_iff.mp hname
    refine ⟨by simp, by simp, by simp, fun category => ?_⟩
    rw [mem_present_declare, ← ofName?_eq_some_iff, hname, Option.some.injEq, eq_comm (a := found)]
  | none =>
    refine ⟨rfl, rfl, rfl, fun category => ?_⟩
    rw [← ofName?_eq_some_iff, hname]
    simp

/-- What changes when names are read. -/
theorem foldl_readName (declaration : ConsentDeclaration) (names : List String) :
    (names.foldl readName declaration).values = declaration.values ++ names.map .string ∧
      (names.foldl readName declaration).hasInfo = declaration.hasInfo ∧
      (names.foldl readName declaration).statedNotSet = declaration.statedNotSet ∧
      ∀ category, category ∈ (names.foldl readName declaration).present ↔
        category ∈ declaration.present ∨ category.name ∈ names := by
  induction names generalizing declaration with
  | nil => simp
  | cons name rest ih =>
    obtain ⟨hvalues, hinfo, hstated, hpresent⟩ := ih (declaration.readName name)
    obtain ⟨hvalues', hinfo', hstated', hpresent'⟩ := readName_eq declaration name
    rw [List.foldl_cons]
    refine ⟨?_, hinfo.trans hinfo', hstated.trans hstated', fun category => ?_⟩
    · rw [hvalues, hvalues', List.append_assoc, List.map_cons, List.singleton_append]
    · rw [hpresent, hpresent', List.mem_cons, or_assoc]

/-- A block records what its settings say. -/
theorem Records.readBlock (h : Records declaration sources) (block : Json) :
    Records (readBlock { declaration with hasInfo := true } block)
      (sources ++ [.block block.get]) := by
  unfold ConsentDeclaration.readBlock
  extract_lets status noted read
  obtain ⟨hvalues, hinfo, hstated, hpresent⟩ := foldl_readName noted
    (names (block.get "consentType") ++ names (block.get "consentRequired"))
  have hnames (name : String) :
      name ∈ names (block.get "consentType") ++ names (block.get "consentRequired") ↔
        (ConsentSource.block block.get).Names name := by
    rw [List.mem_append, mem_names_iff, mem_names_iff]
    rfl
  have hnoted : noted.hasInfo = true ∧ noted.present = declaration.present ∧
      noted.statedNotSet = declaration.statedNotSet ∧ ∀ value, value ∈ noted.values ↔
        value ∈ declaration.values ∨ ∃ text, status = .string text ∧ value = .string text := by
    cases hstatus : status <;> simp [noted, hstatus]
  refine h.concat (hinfo.trans hnoted.1) (fun category => ?_) (fun value => ?_) ?_
  · rw [hpresent, hnames, hnoted.2.1]
    rfl
  · simp only [read, hvalues, List.mem_append (t := List.map ..), hnoted.2.2.2, List.mem_map,
      hnames, or_assoc, ConsentSource.Holds, eq_comm (b := value)]
    rfl
  · rw [Bool.or_eq_true, hstated, hnoted.2.2.1]
    refine or_congr_right ?_
    change saysNotSet status = true ↔ ∃ text, status = .string text ∧ text.uppered = "NOT_SET"
    cases hstatus : status <;> simp [saysNotSet, Json.text, Json.string?] <;> decide

/-- What the entries of items hold under a key is the value of the first item of that key. -/
theorem lookup_entries (key : String) (items : List Json) :
    ((items.filter Json.isObject).filterMap fun entry =>
      (entry.get "key").string?.map fun k => (k, entry.get "value")).lookup key =
    (items.find? (Field.hasKey key)).map (·.get "value") := by
  induction items with
  | nil => rfl
  | cons item rest ih =>
    cases hobject : item.isObject with
    | false =>
      have hkey : Field.hasKey key item = false := by cases item <;> first | rfl | cases hobject
      simp [hobject, hkey, ih]
    | true =>
      have hkey : item.get "key" = (item.get? "key").getD .null := rfl
      rw [List.filter_cons_of_pos hobject, List.filterMap_cons, List.find?_cons, Field.hasKey,
        hkey]
      cases item.get? "key" with
      | none => exact ih
      | some own =>
        cases own with
        | string k =>
          by_cases hk : key = k
          · simp [hk, Json.string?]
          · have hne : (key == k) = false := by simpa using hk
            have hother : (some (Json.string k) == some (.string key)) = false := by
              simpa using Ne.symm hk
            rw [hother]
            change ((k, item.get "value") :: _).lookup key = _
            rw [List.lookup_cons, hne]
            exact ih
        | _ => exact ih

/-- The block of a map holds under every key what the last item of that key does. -/
theorem get_of_objectOfMap {map block : Json} (h : objectOfMap map = .ok block) :
    block.get = lastOf map := by
  unfold objectOfMap at h
  dsimp only at h
  split at h
  · cases h
  · cases h
    funext key
    change ((Json.assignAll [] _).lookup key).getD .null = _
    rw [Json.lookup_assignAll, List.lookup_nil, Option.or_none, ← List.filterMap_reverse,
      ← List.filter_reverse, lookup_entries]
    rfl

/-- A block without members says nothing. -/
theorem readBlock_null (declaration : ConsentDeclaration) :
    declaration.readBlock .null = declaration := by
  have hstated : (declaration.statedNotSet || saysNotSet .null) = declaration.statedNotSet := by
    rw [show saysNotSet .null = false from by decide, Bool.or_false]
  unfold readBlock
  simp [Json.get, Json.get?, names, hstated]

/-- A value for one category is noted, and the category declared if the value is truthy. -/
theorem Records.readSingle (h : Records declaration sources) (category : ConsentCategory)
    (value : Json) (noted : ConsentDeclaration)
    (hnoted : noted = { declaration with
      hasInfo := true, values := declaration.values ++ [value] }) :
    Records (if Field.isTruthy value then noted.declare category else noted)
      (sources ++ [.single category value]) := by
  subst hnoted
  cases htruthy : Field.isTruthy value with
  | true =>
    rw [if_pos rfl]
    refine h.concat ?_ (fun other => ?_) (fun other => ?_) ?_
    · rw [hasInfo_declare]
    · rw [mem_present_declare, ConsentSource.Declares, and_iff_left htruthy, eq_comm (a := other)]
    · rw [values_declare, List.mem_append, List.mem_singleton, ConsentSource.Holds]
    · rw [statedNotSet_declare, ConsentSource.StatesNotSet, or_false]
  | false =>
    rw [if_neg Bool.false_ne_true]
    refine h.concat rfl (fun other => ?_) (fun other => ?_) ?_
    · simp [ConsentSource.Declares, htruthy]
    · rw [List.mem_append, List.mem_singleton, ConsentSource.Holds]
    · rw [ConsentSource.StatesNotSet, or_false]

/-- A list of categories records the names listed in it. -/
theorem Records.readTypes (h : Records declaration sources) (value : Json) :
    Records ((names value).foldl readName { declaration with hasInfo := true })
      (sources ++ [.types value]) := by
  obtain ⟨hvalues, hinfo, hstated, hpresent⟩ :=
    foldl_readName { declaration with hasInfo := true } (names value)
  refine h.concat hinfo (fun category => ?_) (fun other => ?_) ?_
  · rw [hpresent, mem_names_iff]
    rfl
  · simp only [hvalues, List.mem_append, List.mem_map, mem_names_iff, ConsentSource.Holds,
      eq_comm (b := other)]
    rfl
  · rw [hstated, ConsentSource.StatesNotSet, or_false]

/-- The block that is read in a parameter of consent settings: its value, or nothing, or its
map. -/
theorem exists_settingsOf_eq {parameter : Json} {noted : ConsentDeclaration}
    (h : (if (parameter.get "value").isObject then
        Except.ok (noted.readBlock (parameter.get "value"))
      else match parameter.get? "map" with
        | none => Except.ok noted
        | some map => (objectOfMap map).map noted.readBlock) = .ok next) :
    ∃ block, settingsOf parameter = block.get ∧ next = noted.readBlock block := by
  have hget : parameter.get "map" = (parameter.get? "map").getD .null := rfl
  unfold settingsOf
  split at h
  next hobject =>
    cases h
    exact ⟨_, if_pos hobject, rfl⟩
  next hobject =>
    rw [if_neg hobject, hget]
    cases hmap : parameter.get? "map" with
    | none =>
      rw [hmap] at h
      exact ⟨.null, rfl, (Except.ok.inj h).symm.trans (readBlock_null noted).symm⟩
    | some map =>
      rw [hmap] at h
      obtain ⟨block, hblock, rfl⟩ := map_eq_ok_iff.mp h
      exact ⟨block, (get_of_objectOfMap hblock).symm, rfl⟩

/-- What reading a parameter can do: nothing where it is no source, and else what its source asks
for. -/
theorem readParameter_cases {parameter : Json}
    (h : readParameter declaration parameter = .ok next) :
    (ofParameter? parameter = none ∧ next = declaration) ∨
    (∃ block, ofParameter? parameter = some (.block block.get) ∧
      next = readBlock { declaration with hasInfo := true } block) ∨
    (∃ category value, ofParameter? parameter = some (.single category value) ∧
      ∃ noted : ConsentDeclaration, noted = { declaration with
        hasInfo := true, values := declaration.values ++ [value] } ∧
      next = if Field.isTruthy value then noted.declare category else noted) ∨
    ∃ value, ofParameter? parameter = some (.types value) ∧
      next = (names value).foldl readName { declaration with hasInfo := true } := by
  have hget (key : String) : parameter.get key = (parameter.get? key).getD .null := rfl
  unfold readParameter at h
  unfold ofParameter?
  extract_lets value noted at h
  rw [hget "key"] at h
  cases hkey : parameter.get? "key" with
  | none =>
    rw [hkey] at h
    cases h
    exact .inl ⟨rfl, rfl⟩
  | some found =>
    rw [hkey] at h
    cases found with
    | string key =>
      dsimp only [Option.getD_some] at h ⊢
      cases hname : ConsentCategory.ofName? key with
      | some category =>
        have hsettings : key ≠ "consentSettings" := by
          rintro rfl
          cases hname
        have htypes : key ≠ "consent_type" := by
          rintro rfl
          cases hname
        rw [hname] at h
        cases h
        rw [if_neg hsettings, if_neg htypes]
        exact .inr (.inr (.inl ⟨category, value, rfl, _, rfl, rfl⟩))
      | none =>
        rw [hname] at h
        dsimp only at h
        split at h
        next hsettings =>
          obtain ⟨block, hblock, hnext⟩ := exists_settingsOf_eq h
          rw [if_pos hsettings, hblock]
          exact .inr (.inl ⟨block, rfl, hnext⟩)
        next hsettings =>
          rw [if_neg hsettings]
          split at h
          next htypes =>
            cases h
            rw [if_pos htypes]
            exact .inr (.inr (.inr ⟨typesOf parameter, rfl, rfl⟩))
          next htypes =>
            cases h
            rw [if_neg htypes]
            exact .inl ⟨rfl, rfl⟩
    | _ =>
      cases h
      exact .inl ⟨rfl, rfl⟩

/-- A parameter adds the source that it is, if it is one. -/
theorem Records.readParameter {parameter : Json} (h : Records declaration sources)
    (hread : readParameter declaration parameter = .ok next) :
    Records next (sources ++ (ofParameter? parameter).toList) := by
  rcases readParameter_cases hread with ⟨hnone, rfl⟩ | ⟨block, hblock, rfl⟩ |
    ⟨category, value, hsingle, noted, hnoted, rfl⟩ | ⟨value, htypes, rfl⟩
  · rw [hnone, Option.toList_none, List.append_nil]
    exact h
  · rw [hblock]
    exact h.readBlock block
  · rw [hsingle]
    exact h.readSingle category value noted hnoted
  · rw [htypes]
    exact h.readTypes value

/-- Parameters add the sources among them, in their order. -/
theorem Records.foldlM {parameters : List Json} (h : Records declaration sources)
    (hread : parameters.foldlM ConsentDeclaration.readParameter declaration = .ok next) :
    Records next (sources ++ parameters.filterMap ofParameter?) := by
  induction parameters generalizing declaration sources with
  | nil =>
    cases hread
    rwa [List.filterMap_nil, List.append_nil]
  | cons parameter rest ih =>
    rw [List.foldlM_cons] at hread
    obtain ⟨middle, hfirst, hrest⟩ := bind_eq_ok_iff.mp hread
    have hrecords := ih (h.readParameter hfirst) hrest
    cases hsource : ofParameter? parameter with
    | none =>
      rw [List.filterMap_cons_none hsource]
      rwa [hsource, Option.toList_none, List.append_nil] at hrecords
    | some source =>
      rw [List.filterMap_cons_some hsource, List.append_cons]
      rwa [hsource] at hrecords

end Steps

/-- The declaration of a tag records exactly what the sources in the tag say. -/
theorem records_ofTag {tag : Tag} {declaration : ConsentDeclaration}
    (h : ofTag tag = .ok declaration) : Records declaration (ConsentSource.ofTag tag) := by
  have hempty : Records {} [] := ⟨by simp, by simp, by simp, by simp⟩
  unfold ofTag at h
  unfold ConsentSource.ofTag ConsentSource.own?
  cases hown : tag.consentSettings? with
  | none =>
    rw [hown] at h
    exact hempty.foldlM h
  | some block =>
    rw [hown] at h
    exact (hempty.readBlock block).foldlM h

section Readable

/-- Is the value an array or an object? -/
def isComposite : Json → Bool
  | .array _ | .object _ => true
  | _ => false

/-- Can a parameter be read? It can unless it is a map of consent settings with a composite key. -/
def isReadable (parameter : Json) : Bool :=
  parameter.get "key" != .string "consentSettings" || (parameter.get "value").isObject ||
    ((parameter.get "map").items.filter Json.isObject).all fun entry =>
      !isComposite (entry.get "key")

theorem isOk_objectOfMap (map : Json) : (objectOfMap map).isOk =
    (map.items.filter Json.isObject).all fun entry => !isComposite (entry.get "key") := by
  unfold objectOfMap
  extract_lets entries composite
  have hc : composite = isComposite := by
    funext value
    cases value <;> rfl
  have hall : (entries.all fun entry => !isComposite (entry.get "key")) =
      !entries.any fun entry => composite (entry.get "key") := by
    rw [hc, List.not_any_eq_all_not]
  change _ = entries.all _
  rw [hall]
  cases entries.any fun entry => composite (entry.get "key") <;> rfl

theorem isOk_readParameter (declaration : ConsentDeclaration) (parameter : Json) :
    (readParameter declaration parameter).isOk = isReadable parameter := by
  unfold readParameter isReadable
  cases parameter.get "key" with
  | string key =>
    dsimp only
    by_cases hs : key = "consentSettings"
    · subst hs
      have hname : ConsentCategory.ofName? "consentSettings" = none := by decide
      have hmap : parameter.get "map" = (parameter.get? "map").getD .null := rfl
      rw [hname, hmap]
      cases (parameter.get "value").isObject with
      | true => rfl
      | false =>
        cases parameter.get? "map" with
        | none => rfl
        | some map => exact (isOk_map ..).trans (isOk_objectOfMap map)
    · have hne : (Json.string key != .string "consentSettings") = true := by simpa using hs
      rw [hne]
      cases ConsentCategory.ofName? key with
      | some category => rfl
      | none => by_cases ht : key = "consent_type" <;> simp only [hs, ht, if_false, if_true] <;> rfl
  | _ => rfl

theorem isOk_ofTag (tag : Tag) : (ofTag tag).isOk = tag.parameters.all isReadable :=
  isOk_foldlM isOk_readParameter ..

end Readable

end ConsentDeclaration

end TagAudit
