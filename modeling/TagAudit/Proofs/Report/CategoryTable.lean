import Mathlib.Algebra.BigOperators.Group.Finset.Basic
import TagAudit.Proofs.Distinct
import TagAudit.Proofs.Report.IssueTable
import TagAudit.Proofs.Severity

/-!
# The table of categories

The table of categories has one row for each category of the rows of issues, with the numbers of
the rows of each severity and their total. The most frequent categories stand first, and those of
one total by their characters. The totals add up to the number of all rows of a known severity, so
no issue is lost and none is counted twice.
-/

namespace TagAudit.Report

/-- The number of rows with a category and a severity. -/
def countOf (rows : List TextRow) (category : String) (severity : Severity) : Nat :=
  rows.countP fun row => row.category = category ∧ row.severity = severity.name

/-- The number of rows with a category and any known severity. -/
def totalOf (rows : List TextRow) (category : String) : Nat :=
  countOf rows category .critical + countOf rows category .major + countOf rows category .minor

/-- Is the severity of a row known? -/
def TextRow.isGraded (row : TextRow) : Bool := (Severity.ofName? row.severity).isSome

/-- The row of a category in the table of categories. -/
def categoryRow (rows : List TextRow) (category : String) : CategoryRow :=
  ⟨.string category, countOf rows category .critical, countOf rows category .major,
    countOf rows category .minor⟩

/-- The table of some categories: their names, the numbers of their rows and the totals. -/
def categoryTable (rows : List TextRow) (categories : List String) : List Column :=
  let counts (header : String) (count : String → Nat) : Column :=
    ⟨header, .integers, categories.map fun category => .nat (count category)⟩
  [⟨"category", .values, categories.map .string⟩, counts "critical" (countOf rows · .critical),
    counts "major" (countOf rows · .major), counts "minor" (countOf rows · .minor),
    counts "total" (totalOf rows)]

/-- The categories of rows in the order of the table of categories. -/
structure InTableOrder (rows : List TextRow) (categories : List String) : Prop where
  nodup : categories.Nodup
  mem_iff : ∀ category, category ∈ categories ↔ ∃ row ∈ rows, row.category = category
  sorted : categories.Pairwise fun a b =>
    totalOf rows b < totalOf rows a ∨ totalOf rows a = totalOf rows b ∧ a < b

/-- The categories of rows, each once and by their characters. -/
def categoryNames (rows : List TextRow) : List String :=
  (rows.map (·.category)).eraseDups.mergeSort fun a b => a ≤ b

theorem mem_categoryNames_iff {rows : List TextRow} {category : String} :
    category ∈ categoryNames rows ↔ ∃ row ∈ rows, row.category = category := by
  rw [categoryNames, List.mem_mergeSort, List.mem_eraseDups, List.mem_map]

theorem same_string_iff (s t : String) :
    Cell.same (.string s) (.string t) = true ↔ s = t := by
  rw [Cell.same, Cell.order_string, beq_iff_eq]
  exact compare_eq_iff_eq

/-- The categories of a table of texts. -/
theorem categories_map_toRow (rows : List TextRow) :
    categories (rows.map TextRow.toRow) = (categoryNames rows).map .string := by
  have hcells : ((rows.map TextRow.toRow).map (·.category)).filter (!Cell.isGap ·) =
      (rows.map (·.category)).map .string := by
    rw [List.map_map, List.map_map]
    refine List.filter_eq_self.mpr fun cell hcell => ?_
    obtain ⟨row, -, rfl⟩ := List.mem_map.mp hcell
    rfl
  have hsame : (fun s t => Cell.same (.string s) (.string t)) = fun s t : String => s == t := by
    funext s t
    rw [Bool.eq_iff_iff, same_string_iff, beq_iff_eq]
  rw [categories, hcells, eraseDupsBy_map, hsame]
  refine (List.map_mergeSort fun s _ t _ => ?_).symm
  rw [Bool.eq_iff_iff, Cell.order_string, decide_eq_true_iff]
  exact (Ordering.isLE_iff_ne_gt.trans compare_le_iff_le).symm

theorem ofRows_map_toRow (rows : List TextRow) (category : String) :
    CategoryRow.ofRows (rows.map TextRow.toRow) (.string category) =
      categoryRow rows category := by
  have hcount : ∀ severity : Severity,
      ((rows.map TextRow.toRow).countP fun row =>
        Cell.same row.category (.string category) && row.severity == .string severity.name) =
          countOf rows category severity := by
    intro severity
    rw [List.countP_map, countOf]
    refine List.countP_congr fun row _ => ?_
    simp only [Function.comp_apply, TextRow.toRow, Bool.and_eq_true, same_string_iff, beq_iff_eq,
      Json.string.injEq, decide_eq_true_iff]
  simp only [CategoryRow.ofRows, hcount, categoryRow]

/-- The categories of rows, the most frequent first. -/
def rankedNames (rows : List TextRow) : List String :=
  (categoryNames rows).mergeSort fun a b => totalOf rows b ≤ totalOf rows a

theorem inTableOrder_rankedNames (rows : List TextRow) :
    InTableOrder rows (rankedNames rows) := by
  have hnodup := nodup_eraseDups (rows.map (·.category))
  have hsorted : StablySorted (fun name => OrderDual.toDual (totalOf rows name))
      (categoryNames rows) (rankedNames rows) := stablySorted_mergeSort ..
  refine ⟨?_, fun name => ?_, hsorted.pairwise_ties (pairwise_lt_mergeSort hnodup)⟩
  · exact (hsorted.perm.trans (List.mergeSort_perm ..)).nodup_iff.mpr hnodup
  · rw [hsorted.perm.mem_iff, mem_categoryNames_iff]

/-- Every category of a table of texts has one row in the table of categories. -/
theorem categoryRows_map_toRow (rows : List TextRow) :
    categoryRows (rows.map TextRow.toRow) = (rankedNames rows).map (categoryRow rows) := by
  have hshown : ((categoryNames rows).map Json.string).filter (fun category =>
      ((rows.map TextRow.toRow).filter fun row => !Cell.isGap row.severity).any fun row =>
        Cell.same row.category category) = (categoryNames rows).map .string := by
    refine List.filter_eq_self.mpr fun category hcategory => ?_
    obtain ⟨name, hname, rfl⟩ := List.mem_map.mp hcategory
    obtain ⟨row, hrow, rfl⟩ := mem_categoryNames_iff.mp hname
    refine List.any_eq_true.mpr ⟨row.toRow, List.mem_filter.mpr ⟨?_, rfl⟩, ?_⟩
    · exact List.mem_map_of_mem hrow
    · exact (same_string_iff ..).mpr rfl
  rw [categoryRows, categories_map_toRow, hshown, List.map_map]
  simp only [Function.comp_def, ofRows_map_toRow]
  exact (List.map_mergeSort (f := categoryRow rows) fun _ _ _ _ => rfl).symm

/-- The columns of the table of categories, each category in its place. -/
theorem categoryColumns_map_toRow (rows : List TextRow) :
    categoryColumns (rows.map TextRow.toRow) = categoryTable rows (rankedNames rows) := by
  have hkind : ColumnKind.ofCells ((categoryNames rows).map .string) = .values :=
    ColumnKind.ofCells_map_string id (categoryNames rows)
  simp only [categoryColumns, categories_map_toRow, hkind, categoryRows_map_toRow, List.map_map,
    ColumnKind.cast_values]
  rfl

theorem TextRow.isGraded_iff (row : TextRow) :
    row.isGraded = true ↔ ∃ severity : Severity, row.severity = severity.name := by
  simp only [isGraded, Option.isSome_iff_exists, Severity.ofName?_eq_some_iff]

/-- A row is counted in the total of its category exactly if its severity is known. -/
theorem totalOf_eq_count (rows : List TextRow) (category : String) :
    totalOf rows category = ((rows.filter (·.isGraded)).map (·.category)).count category := by
  rw [List.count, List.countP_map, List.countP_filter, totalOf, countOf, countOf, countOf]
  induction rows with
  | nil => rfl
  | cons row rest ih =>
    simp only [List.countP_cons]
    rw [← ih]
    by_cases hgraded : row.isGraded = true
    · obtain ⟨severity, hseverity⟩ := row.isGraded_iff.mp hgraded
      cases severity <;> simp [hseverity, hgraded, Severity.name] <;> omega
    · have hunknown : ∀ severity : Severity, row.severity ≠ severity.name :=
        fun severity hseverity => hgraded (row.isGraded_iff.mpr ⟨severity, hseverity⟩)
      simp [hunknown, hgraded]

/-- The totals of the categories add up to the number of rows of known severities. -/
theorem sum_totals (rows : List TextRow) {names : List String} (h : InTableOrder rows names) :
    (names.map (totalOf rows)).sum = rows.countP (·.isGraded) := by
  have hmem : ∀ category ∈ ((rows.filter (·.isGraded)).map (·.category) : Multiset String),
      category ∈ names.toFinset := by
    intro category hcategory
    obtain ⟨row, hrow, rfl⟩ := List.mem_map.mp (Multiset.mem_coe.mp hcategory)
    exact List.mem_toFinset.mpr ((h.mem_iff _).mpr ⟨row, List.mem_of_mem_filter hrow, rfl⟩)
  have hsum := Multiset.sum_count_eq_card hmem
  rw [List.sum_toFinset _ h.nodup, Multiset.coe_card, List.length_map,
    ← List.countP_eq_length_filter] at hsum
  rw [List.map_congr_left fun category _ => totalOf_eq_count rows category]
  simpa only [Multiset.coe_count] using hsum

end TagAudit.Report
