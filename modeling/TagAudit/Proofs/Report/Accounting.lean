import TagAudit.Proofs.Audit.Issues
import TagAudit.Proofs.Report.CategoryTable
import TagAudit.Report.Reading

/-!
# The tables account for every issue

A report with issues that consist of texts is read without fault. Its table of issues has a row for
every category of every issue, and its table of categories counts these rows. In the report of an
audit every issue has one category and a known severity, so the totals of the table of categories
add up to the number of all issues.
-/

namespace TagAudit.Report

/-- The value of an issue consists of the texts of a record. -/
structure Describes (issue : Json) (record : IssueRecord) : Prop where
  entityType : issue.get "entity_type" = .string record.entityType
  name : issue.get "name" = .string record.name
  severity : issue.get "severity" = .string record.severity
  reason : issue.get "reason" = .string record.reason
  categories : itemsOf (issue.get "categories") = .ok (record.categories.map .string)
  /-- A suggestion may be left out. -/
  suggestion : issue.get "suggestion" = (record.suggestion.map .string).getD .null

/-- A member of an object, empty where it is left out. -/
def partOf (value : Json) (key : String) : Json := (value.get? key).getD (.object [])

/-- The index of a report has the issues of each entity as records describe them. -/
structure HoldsIssues (report : Json) (groups : List (String × List IssueRecord)) : Prop where
  isObject : report.isObject = true
  isObject_index : (partOf report "issue_index").isObject = true
  byId : ∃ entities, partOf (partOf report "issue_index") "by_id" = .object entities ∧
    List.Forall₂ (fun entity group => entity.1 = group.1 ∧
      ∃ issues, itemsOf entity.2 = .ok issues ∧ List.Forall₂ Describes issues group.2)
      entities groups

/-- The tables of a report for the issues of its entities. -/
structure AccountsFor (report : Json) (groups : List (String × List IssueRecord))
    (rows : List TextRow) (categories : List String) : Prop where
  /-- The table of issues is read without fault. -/
  read : issuesOf report = .ok (rows.map TextRow.toRow)
  /-- One row for each category of each issue, in order. -/
  sorted : StablySorted TextRow.key (TextRow.ofGroups groups) rows
  ranked : InTableOrder rows categories
  columns : categoryColumns (rows.map TextRow.toRow) = categoryTable rows categories

/-- A member that is there is found. -/
theorem required_eq_ok {value : Json} {key : String} (h : value.get key ≠ .null) :
    required value key = .ok (value.get key) := by
  cases value with
  | object members =>
    cases hm : members.lookup key with
    | none => simp [Json.get, Json.get?, hm] at h
    | some found => simp [required, Json.get, Json.get?, hm]
  | _ => exact absurd rfl h

theorem optional?_eq_ok {value : Json} {key : String} (h : value.isObject = true) :
    optional? value key = .ok (value.get? key) := by
  cases value with
  | object members => rfl
  | _ => cases h

/-- The rows of the value of an issue are those of the record that it describes. -/
theorem ofIssue_eq_ok {issue : Json} {record : IssueRecord} (h : Describes issue record)
    (id : String) : IssueRow.ofIssue id issue =
      .ok ((record.categories.map (TextRow.ofRecord id record)).map TextRow.toRow) := by
  have htext : ∀ {key text}, issue.get key = .string text →
      required issue key = .ok (.string text) := by
    intro key text hkey
    rw [required_eq_ok (by rw [hkey]; exact Json.noConfusion), hkey]
  have hcategories : required issue "categories" = .ok (issue.get "categories") := by
    refine required_eq_ok fun hnull => ?_
    have := h.categories
    rw [hnull] at this
    cases this
  have hsuggestion : (if (issue.get "suggestion").isNonempty then issue.get "suggestion"
      else .string "") = .string (record.suggestion.getD "") := by
    rw [h.suggestion]
    cases record.suggestion with
    | none => rfl
    | some text => by_cases hempty : text = "" <;> simp [Json.isNonempty, hempty]
  refine Failure.bind_eq_ok_iff.mpr ⟨_, hcategories, ?_⟩
  refine Failure.bind_eq_ok_iff.mpr ⟨_, h.categories, ?_⟩
  rw [Failure.mapM_eq_ok_iff, List.map_map, List.forall₂_map_left_iff, List.forall₂_map_right_iff,
    List.forall₂_same]
  intro category _
  simp only [htext h.entityType, htext h.name, htext h.severity, htext h.reason, hsuggestion]
  rfl

/-- The rows of the values of issues of an entity are those of their records. -/
theorem flatten_ofIssue_eq_ok {issues : Json} {items : List Json} {records : List IssueRecord}
    (hitems : itemsOf issues = .ok items) (h : List.Forall₂ Describes items records)
    (id : String) :
    (do return (← (← itemsOf issues).mapM (IssueRow.ofIssue id)).flatten :
      Except Fault (List IssueRow)) = .ok (IssueRow.ofRecords id records) := by
  have hrows : items.mapM (IssueRow.ofIssue id) = .ok (records.map fun record =>
      (record.categories.map (TextRow.ofRecord id record)).map TextRow.toRow) := by
    rw [Failure.mapM_eq_ok_iff, List.forall₂_map_right_iff]
    exact h.imp fun _ _ hdescribes => ofIssue_eq_ok hdescribes id
  refine Failure.bind_eq_ok_iff.mpr ⟨_, hitems, Failure.bind_eq_ok_iff.mpr ⟨_, hrows, ?_⟩⟩
  rw [TextRow.ofRecords_eq_map, List.map_flatMap, List.flatMap_def]
  rfl

/-- The rows of a report are those of the issues that it holds. -/
theorem ofJson_eq_ok {report : Json} {groups : List (String × List IssueRecord)}
    (h : HoldsIssues report groups) :
    IssueRow.ofJson report = .ok ((TextRow.ofGroups groups).map TextRow.toRow) := by
  obtain ⟨entities, hentities, hgroups⟩ := h.byId
  have hflatten : (groups.map fun group => IssueRow.ofRecords group.1 group.2).flatten =
      (TextRow.ofGroups groups).map TextRow.toRow := by
    simp only [← List.flatMap_def, TextRow.ofRecords_eq_map, TextRow.ofGroups, List.map_flatMap]
  have hordered : ((TextRow.ofGroups groups).map TextRow.toRow).all IssueRow.isOrdered = true := by
    simp [TextRow.isOrdered_toRow]
  refine Failure.bind_eq_ok_iff.mpr ⟨_, optional?_eq_ok h.isObject, ?_⟩
  refine Failure.bind_eq_ok_iff.mpr ⟨_, optional?_eq_ok h.isObject_index, ?_⟩
  simp only [partOf] at hentities
  simp only [hentities]
  refine Failure.bind_eq_ok_iff.mpr
    ⟨groups.map fun group => IssueRow.ofRecords group.1 group.2, ?_, ?_⟩
  · rw [Failure.mapM_eq_ok_iff, List.forall₂_map_right_iff]
    refine hgroups.imp ?_
    rintro ⟨id, issues⟩ ⟨_, records⟩ ⟨rfl, items, hitems, hdescribes⟩
    exact flatten_ofIssue_eq_ok hitems hdescribes id
  · simp only [hflatten, hordered]
    rfl

/-- The value of a record describes it. -/
theorem describes_toJson (record : IssueRecord) : Describes record.toJson record where
  entityType := rfl
  name := rfl
  severity := rfl
  reason := rfl
  categories := rfl
  suggestion := by
    obtain ⟨_, _, _, _, _, _, suggestion, facts⟩ := record
    cases suggestion <;> cases facts <;> rfl

/-- The report of an audit holds the issues of its index. -/
theorem holdsIssues_toJson (audit : Audit) : HoldsIssues audit.toJson audit.index.byId := by
  refine ⟨rfl, rfl, _, rfl, ?_⟩
  rw [List.forall₂_map_left_iff, List.forall₂_same]
  rintro ⟨id, records⟩ -
  refine ⟨rfl, _, rfl, ?_⟩
  rw [List.forall₂_map_left_iff, List.forall₂_same]
  exact fun record _ => describes_toJson record

/-- The table that is read from the value of an audit is the one in the report of the audit. -/
theorem issuesOf_toJson (audit : Audit) : issuesOf audit.toJson = .ok (ofAudit audit).issues := by
  refine Failure.bind_eq_ok_iff.mpr ⟨_, ofJson_eq_ok (holdsIssues_toJson audit), ?_⟩
  rw [ofAudit, TextRow.ofIndex_eq_map]
  rfl

/-- The tables of a report with issues that consist of texts account for these issues. -/
theorem exists_accountsFor {report : Json} {groups : List (String × List IssueRecord)}
    (h : HoldsIssues report groups) :
    ∃ rows categories, AccountsFor report groups rows categories := by
  refine ⟨(TextRow.ofGroups groups).mergeSort fun a b => a.key ≤ b.key, _, ?_,
    stablySorted_mergeSort .., inTableOrder_rankedNames _, categoryColumns_map_toRow _⟩
  refine Failure.bind_eq_ok_iff.mpr ⟨_, ofJson_eq_ok h, ?_⟩
  rw [TextRow.issueTable_map_toRow]
  rfl

/-- Each row has the severity of its record. -/
theorem map_severity_ofGroups (groups : List (String × List IssueRecord)) :
    (TextRow.ofGroups groups).map (·.severity) =
      (groups.flatMap (·.2)).flatMap fun record =>
        record.categories.map fun _ => record.severity := by
  simp [TextRow.ofGroups, List.map_flatMap, List.flatMap_assoc, Function.comp_def,
    TextRow.ofRecord]

/-- In the rows of an audit, every issue stands once with its severity. -/
theorem map_severity_perm (audit : Audit) :
    ((TextRow.ofGroups audit.index.byId).map (·.severity)).Perm
      (audit.issues.map (·.severity.name)) := by
  have hissues : ((audit.issues.map Issue.toRecord).flatMap fun record =>
      record.categories.map fun _ => record.severity) = audit.issues.map (·.severity.name) := by
    rw [List.flatMap_map]
    exact List.map_eq_flatMap.symm
  rw [map_severity_ofGroups, ← hissues]
  exact audit.records_index_perm.flatMap_right _

/-- The totals of the categories add up to the number of the issues. -/
theorem sum_totals_audit {audit : Audit} {rows : List TextRow} {categories : List String}
    (h : AccountsFor audit.toJson audit.index.byId rows categories) :
    (categories.map (totalOf rows)).sum = audit.issues.length := by
  have hseverities := (h.sorted.perm.map (·.severity)).trans (map_severity_perm audit)
  calc (categories.map (totalOf rows)).sum
    _ = rows.countP (·.isGraded) := sum_totals rows h.ranked
    _ = (rows.map (·.severity)).countP fun name => (Severity.ofName? name).isSome := by
        rw [List.countP_map]
        rfl
    _ = (audit.issues.map (·.severity.name)).countP fun name =>
          (Severity.ofName? name).isSome := hseverities.countP_eq _
    _ = (audit.issues.map (·.severity.name)).length := by
        refine List.countP_eq_length.mpr fun name hname => ?_
        obtain ⟨issue, -, rfl⟩ := List.mem_map.mp hname
        rw [Severity.ofName?_name, Option.isSome_some]
    _ = audit.issues.length := List.length_map _

/-- The tables of every report that holds issues account for them, and those of an audit for all
issues that it has found: the totals of the categories add up to their number. -/
theorem tables_account_for_issues :
    (∀ report groups, HoldsIssues report groups →
      ∃ rows categories, AccountsFor report groups rows categories) ∧
    ∀ audit : Audit, ∃ rows categories,
      AccountsFor audit.toJson audit.index.byId rows categories ∧
        (audit.toJson.get "counts").get "issues" = .nat (categories.map (totalOf rows)).sum := by
  refine ⟨fun _ _ => exists_accountsFor, fun audit => ?_⟩
  obtain ⟨rows, categories, h⟩ := exists_accountsFor (holdsIssues_toJson audit)
  refine ⟨rows, categories, h, ?_⟩
  rw [sum_totals_audit h]
  rfl

/-- A report with an issue of two categories and one of an unknown severity, which has no
suggestion. -/
def mixedReport : Json :=
  .object [("issue_index", .object [("by_id", .object [
    ("3", .array [.object [("entity_type", .string "tag"), ("name", .string "pixel"),
      ("categories", .strings ["paused", "naming"]), ("severity", .string "minor"),
      ("reason", .string "paused since March"), ("suggestion", .string "remove it")]]),
    ("1", .array [.object [("entity_type", .string "trigger"), ("name", .string "all pages"),
      ("categories", .strings ["naming"]), ("severity", .string "blocker"),
      ("reason", .string "contains blanks")]])])])]

/-- The issues that it holds. -/
def mixedGroups : List (String × List IssueRecord) :=
  [("3", [⟨"3", "tag", "pixel", ["paused", "naming"], "minor", "paused since March",
      some "remove it", []⟩]),
    ("1", [⟨"1", "trigger", "all pages", ["naming"], "blocker", "contains blanks", none, []⟩])]

theorem holdsIssues_mixedReport : HoldsIssues mixedReport mixedGroups := by
  refine ⟨rfl, rfl, _, rfl, .cons ⟨rfl, _, rfl, .cons ?_ .nil⟩
    (.cons ⟨rfl, _, rfl, .cons ?_ .nil⟩ .nil)⟩
  · exact ⟨rfl, rfl, rfl, rfl, rfl, rfl⟩
  · exact ⟨rfl, rfl, rfl, rfl, rfl, rfl⟩

/-- Its table of issues has three rows. -/
theorem tables_account_for_mixedReport : HoldsIssues mixedReport mixedGroups ∧
    ∃ rows categories, AccountsFor mixedReport mixedGroups rows categories ∧ rows.length = 3 := by
  obtain ⟨rows, categories, h⟩ := tables_account_for_issues.1 _ _ holdsIssues_mixedReport
  exact ⟨holdsIssues_mixedReport, rows, categories, h, h.sorted.perm.length_eq.trans rfl⟩

end TagAudit.Report
