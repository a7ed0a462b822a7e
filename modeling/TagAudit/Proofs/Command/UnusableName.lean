import Mathlib.Data.List.TakeWhile
import TagAudit.Command.FileTree
import TagAudit.Command.Run
import TagAudit.Proofs.Failure

/-!
# Unusable names

A path cannot be asked for exactly if there is a null character in it. Nothing is at such a path,
and the parts of paths, and the paths that are joined from them, have no characters of their own
besides slashes.
-/

namespace TagAudit

namespace Path

variable {c : Char}

/-- Trimming keeps the characters that are not trimmed. -/
theorem mem_trimEnd {p : Char → Bool} {s : List Char} (h : c ∈ s) (hc : p c = false) :
    c ∈ Text.trimEnd p s := by
  have hparts : c ∈ s.reverse.takeWhile p ++ s.reverse.dropWhile p := by
    rw [List.takeWhile_append_dropWhile]
    exact List.mem_reverse.mpr h
  rw [Text.trimEnd, List.mem_reverse]
  refine (List.mem_append.mp hparts).resolve_left fun htrimmed => ?_
  rw [List.mem_takeWhile_imp htrimmed] at hc
  cases hc

theorem mem_of_mem_trimEnd {p : Char → Bool} {s : List Char} (h : c ∈ Text.trimEnd p s) :
    c ∈ s := by
  rw [Text.trimEnd, List.mem_reverse] at h
  exact List.mem_reverse.mp ((List.dropWhile_sublist p).mem h)

theorem mem_withoutTrailingSlashes {path : List Char} (h : c ∈ path) (hc : isSlash c = false) :
    c ∈ withoutTrailingSlashes path := by
  unfold withoutTrailingSlashes
  split
  · exact h
  · exact mem_trimEnd h hc

theorem mem_of_mem_withoutTrailingSlashes {path : List Char}
    (h : c ∈ withoutTrailingSlashes path) : c ∈ path := by
  unfold withoutTrailingSlashes at h
  split at h
  · exact h
  · exact mem_of_mem_trimEnd h

theorem mem_front_or_mem_tail {path : List Char} : c ∈ path ↔ c ∈ front path ∨ c ∈ tail path := by
  rw [← List.mem_append, front_append_tail]

/-- What is no slash is in the parent or in the name. -/
theorem mem_divided {path : List Char} (h : c ∈ path) (hc : isSlash c = false) :
    c ∈ (divided path).1 ∨ c ∈ (divided path).2 := by
  have hwhole : c ∈ if (tail path).isEmpty then withoutTrailingSlashes (front path) else path := by
    split
    next hnone =>
      rw [List.isEmpty_iff] at hnone
      refine mem_withoutTrailingSlashes ?_ hc
      simpa [hnone] using mem_front_or_mem_tail.mp h
    next => exact h
  exact (mem_front_or_mem_tail.mp hwhole).imp_left (mem_withoutTrailingSlashes · hc)

theorem mem_of_mem_parent {path : String} (h : c ∈ (parent path).toList) : c ∈ path.toList := by
  rw [parent, String.toList_ofList] at h
  exact mem_front_or_mem_tail.mpr (.inl (mem_of_mem_withoutTrailingSlashes h))

theorem mem_of_mem_stem {path : String} (h : c ∈ (stem path).toList) : c ∈ path.toList := by
  have hname : c ∈ (name path).toList := by
    unfold stem at h
    split at h
    · rw [String.toList_ofList] at h
      exact List.mem_of_mem_take h
    · exact h
  rw [name, String.toList_ofList] at hname
  exact mem_front_or_mem_tail.mpr (.inr hname)

/-- What is no slash comes into a joined path with one of its parts. -/
theorem mem_of_mem_join {parent name : String} (h : c ∈ (join parent name).toList)
    (hc : isSlash c = false) : c ∈ parent.toList ∨ c ∈ name.toList := by
  unfold join at h
  split at h
  · exact .inr h
  · split at h
    · simpa [String.toList_append] using h
    · have hslash : c ≠ '/' := by simpa [isSlash] using hc
      simpa [String.toList_append, hslash] using h

end Path

/-- There is a null character in the path. -/
def HasNull (path : String) : Prop := '\x00' ∈ path.toList

namespace FileTree

variable {tree : FileTree} {path : String}

/-- A path cannot be asked for exactly if there is a null character in it. -/
theorem locate_eq_unusableName_iff (tree : FileTree) :
    tree.locate path = .error .unusableName ↔ HasNull path := by
  have hfollow (place : Place) (name : String) : tree.follow place name ≠ .error .unusableName := by
    unfold follow
    intro h
    repeat' split at h
    all_goals cases h
  unfold locate HasNull
  constructor
  · intro h
    split at h
    next hnull => exact List.contains_iff_mem.mp hnull
    next =>
      split at h
      · cases h
      · split at h
        · cases h
        · obtain ⟨place, name, -, hname⟩ := Failure.exists_of_foldlM_eq_error h
          exact absurd hname (hfollow place name)
  · intro h
    rw [if_pos (List.contains_iff_mem.mpr h)]

/-- Nothing is at a path that cannot be asked for. -/
theorem kind?_of_hasNull (h : HasNull path) : tree.kind? path = none := by
  rw [kind?, (locate_eq_unusableName_iff tree).mpr h]

theorem write_eq_unusableName_iff (tree : FileTree) (text : String) :
    tree.write path text = .error .unusableName ↔ HasNull path := by
  rw [← locate_eq_unusableName_iff tree, write]
  cases tree.locate path with
  | error fault => simp [bind, Except.bind]
  | ok place =>
    simp only [bind, Except.bind, reduceCtorEq, iff_false]
    split <;> exact nofun

theorem read_eq_unusableName_iff (tree : FileTree) :
    tree.read path = .error .unusableName ↔ HasNull path := by
  rw [← locate_eq_unusableName_iff tree, read]
  cases tree.locate path with
  | error fault => simp [bind, Except.bind]
  | ok place =>
    simp only [bind, Except.bind, reduceCtorEq, iff_false]
    split <;> exact nofun

theorem createDirectory_of_hasNull (h : HasNull path) :
    tree.createDirectory path = .error .unusableName := by
  have hplace : HasNull (.ofList (Path.withoutTrailingSlashes path.toList)) := by
    rw [HasNull, String.toList_ofList]
    exact Path.mem_withoutTrailingSlashes h rfl
  rw [createDirectory, (locate_eq_unusableName_iff tree).mpr hplace]
  rfl

end FileTree

namespace Command.OutputPaths

variable {file directory : String}

theorem not_hasNull_join (hfile : ¬ HasNull file) {place ending : String}
    (hplace : ¬ HasNull place) (hending : ¬ HasNull ending) :
    ¬ HasNull (Path.join place (Path.stem file ++ ending)) := by
  intro h
  rcases Path.mem_of_mem_join h rfl with h | h
  · exact hplace h
  · rw [String.toList_append, List.mem_append] at h
    exact h.elim (fun hstem => hfile (Path.mem_of_mem_stem hstem)) hending

/-- The files that are saved have names that can be used if the export and the directory do. -/
theorem not_hasNull (hfile : ¬ HasNull file) (hdirectory : ¬ HasNull directory) :
    ¬ HasNull (of file directory).report ∧ ¬ HasNull (of file directory).issues := by
  have hbeside : ¬ HasNull (if (Path.parent file).isEmpty then "." else Path.parent file) := by
    split
    · unfold HasNull
      decide +kernel
    · exact fun h => hfile (Path.mem_of_mem_parent h)
  have hplace : ¬ HasNull (if directory.isEmpty then
      if (Path.parent file).isEmpty then "." else Path.parent file else directory) := by
    split
    · exact hbeside
    · exact hdirectory
  have hreport : ¬ HasNull "_quality_report.json" := by
    unfold HasNull
    decide +kernel
  have hissues : ¬ HasNull "_quality_issues.csv" := by
    unfold HasNull
    decide +kernel
  simp only [of]
  exact ⟨not_hasNull_join hfile hplace hreport, not_hasNull_join hfile hplace hissues⟩

end Command.OutputPaths

end TagAudit
