import TagAudit.Proofs.Command.Program

/-!
# The stages of a run

A run takes an export through stages: the export is admitted, a configuration is read, the value
of the export is read, and then it is audited. Up to the audit the file tree stays as it is, and
each stage either gives what it is there for, or refuses with a complaint, or breaks the run down.
-/

/-- A text begins with whatever its first part begins with. -/
theorem String.beginsWith_append {s stem : String} (h : s.beginsWith stem = true)
    (rest : String) : (s ++ rest).beginsWith stem = true := by
  rw [String.beginsWith, List.isPrefixOf_iff_prefix] at h ⊢
  rw [String.toList_append]
  exact h.trans (List.prefix_append ..)

namespace TagAudit.Command

open Session

/-- The lines say that there is an error. -/
def Complains (lines : List String) : Prop := ∃ line ∈ lines, line.beginsWith "ERROR" = true

/-- There is something at the path of an export, and its name has the right extension and no copy
mark. -/
structure Admitted (tree : FileTree) (file : String) : Prop where
  there : (tree.kind? file).isSome = true
  json : Path.isJson file = true
  unmarked : CopyMark.first? (Path.name file).toList = none

theorem Admitted.not_hasNull {tree : FileTree} {file : String} (h : Admitted tree file) :
    ¬ HasNull file := by
  intro hnull
  have hthere := h.there
  rw [FileTree.kind?_of_hasNull hnull] at hthere
  cases hthere

/-- The file at a path holds a value. -/
def HoldsValue (tree : FileTree) (path : String) (value : Json) : Prop :=
  ∃ text, tree.read path = .ok text ∧ Json.read (source text) = .ok value

/-- A file that holds a value is read as it and as nothing else. -/
theorem HoldsValue.read_eq {tree : FileTree} {path text : String} {value : Json}
    (h : HoldsValue tree path value) (htext : tree.read path = .ok text) :
    Json.read (source text) = .ok value := by
  obtain ⟨held, hheld, hvalue⟩ := h
  obtain rfl := Except.ok.inj (hheld.symm.trans htext)
  exact hvalue

/-- The file at a path holds an integer with more digits than are read, and no other fault before
that. -/
def HoldsLongInteger (tree : FileTree) (path : String) : Prop :=
  ∃ text, tree.read path = .ok text ∧ Json.read (source text) = .error .integerTooLong

/-- The file at a path holds half of a surrogate pair alone, and no other fault before that. -/
def HoldsLoneSurrogate (tree : FileTree) (path : String) : Prop :=
  ∃ text, tree.read path = .ok text ∧ Json.read (source text) = .error .loneSurrogate

/-- A configuration is given by the file at a path; the default one if the path is empty. -/
inductive ReadsConfig (tree : FileTree) (path : String) : Config → Prop
  | default (unnamed : path = "") : ReadsConfig tree path .default
  | file {overrides : Json} {config : Config} (named : path ≠ "")
      (holds : HoldsValue tree path overrides) (accepted : Config.ofJson overrides = .ok config) :
      ReadsConfig tree path config

/-- The file at a path breaks a run down when a configuration is read from it. -/
inductive BrokenConfig (tree : FileTree) (path : String) : Prop
  /-- It cannot be read, although something is there. -/
  | file {fault : FileFault} (named : path ≠ "") (unread : tree.read path = .error fault)
      (other : fault ≠ .notFound)
  | integer (named : path ≠ "") (holds : HoldsLongInteger tree path)
  | order {overrides : Json} (named : path ≠ "") (holds : HoldsValue tree path overrides)
      (incomparable : Config.ofJson overrides = .error .incomparable)

theorem complains_cons {line : String} (h : line.beginsWith "ERROR" = true)
    (lines : List String) : Complains (line :: lines) :=
  ⟨line, List.mem_cons_self .., h⟩

section Endings

variable {α β : Type} {steps : Steps (StateM Session) α} {next : α → Steps (StateM Session) β}
  {tree mid : FileTree}

/-- The steps leave the tree as it is and end with a complaint. -/
def Refuses (steps : Steps (StateM Session) α) (tree : FileTree) : Prop :=
  ∃ lines, Complains lines ∧ Yields steps.run tree (.error (.refused lines)) tree

/-- The steps break the run down. -/
def Breaks (steps : Steps (StateM Session) α) (tree : FileTree) : Prop :=
  ∃ breakdown after, Yields steps.run tree (.error (.broken breakdown)) after

theorem refuses_refuse {lines : List String} (h : Complains lines) (tree : FileTree) :
    Refuses (refuse lines : Steps (StateM Session) α) tree :=
  ⟨lines, h, yields_run_throw _ _⟩

theorem breaks_breakDown (breakdown : Breakdown) (tree : FileTree) :
    Breaks (breakDown breakdown : Steps (StateM Session) α) tree :=
  ⟨breakdown, tree, yields_run_throw _ _⟩

theorem Refuses.bind (h : Refuses steps tree) : Refuses (steps >>= next) tree :=
  h.imp fun _ h => ⟨h.1, h.2.run_bind_error⟩

theorem Breaks.bind (h : Breaks steps tree) : Breaks (steps >>= next) tree :=
  h.imp fun _ h => h.imp fun _ h => h.run_bind_error

theorem refuses_bind {a : α} (h : Yields steps.run tree (.ok a) tree)
    (hnext : Refuses (next a) tree) : Refuses (steps >>= next) tree :=
  hnext.imp fun _ hnext => ⟨hnext.1, h.run_bind hnext.2⟩

theorem breaks_bind {a : α} (h : Yields steps.run tree (.ok a) mid)
    (hnext : Breaks (next a) mid) : Breaks (steps >>= next) tree :=
  hnext.imp fun _ hnext => hnext.imp fun _ hnext => h.run_bind hnext

end Endings

section Words

theorem yields_sayAll (lines : List String) (tree : FileTree) :
    Yields (sayAll lines : Steps (StateM Session) Unit).run tree (.ok ()) tree :=
  yields_run_forM fun line _ => (yields_say tree line).run_lift

theorem yields_noteAll (level : LogLevel) (records : List LogRecord) (tree : FileTree) :
    Yields (noteAll level records : Steps (StateM Session) Unit).run tree (.ok ()) tree :=
  yields_run_forM fun line _ => (yields_note tree line).run_lift

end Words

section Export

variable {tree : FileTree} {file : String}

/-- The complaint about a name is empty exactly if there is no copy mark in it. -/
theorem yields_nameComplaint (tree : FileTree) (file : String) : ∃ lines,
    Yields (nameComplaint file : Steps (StateM Session) _).run tree (.ok lines) tree ∧
      if CopyMark.first? (Path.name file).toList = none then lines = [] else Complains lines := by
  unfold nameComplaint
  dsimp only
  cases CopyMark.first? (Path.name file).toList with
  | none => exact ⟨[], yields_run_pure _ _, rfl⟩
  | some mark =>
    refine ⟨_, (yields_run_isThere _ tree _).run_bind (yields_run_pure _ _), ?_⟩
    rw [if_neg nofun]
    refine complains_cons ?_ _
    iterate 4 refine String.beginsWith_append ?_ _
    decide +kernel

theorem yields_checkExport (h : Admitted tree file) :
    Yields (checkExport file : Steps (StateM Session) Unit).run tree (.ok ()) tree := by
  obtain ⟨lines, hlines, hnone⟩ := yields_nameComplaint tree file
  rw [if_pos h.unmarked] at hnone
  unfold checkExport
  refine (yields_run_isThere _ tree file).run_bind ?_
  simp only [h.there, h.json, Bool.not_true, Bool.false_eq_true, if_false]
  refine hlines.run_bind ?_
  rw [hnone]
  exact yields_run_pure _ _

theorem refuses_checkExport (h : ¬ Admitted tree file) :
    Refuses (checkExport file : Steps (StateM Session) Unit) tree := by
  unfold checkExport
  refine refuses_bind (yields_run_isThere _ tree file) ?_
  by_cases hthere : (tree.kind? file).isSome = true
  · by_cases hjson : Path.isJson file = true
    · simp only [hthere, hjson, Bool.not_true, Bool.false_eq_true, if_false]
      obtain ⟨lines, hlines, hmarked⟩ := yields_nameComplaint tree file
      rw [if_neg fun hunmarked => h ⟨hthere, hjson, hunmarked⟩] at hmarked
      refine refuses_bind hlines ?_
      cases lines with
      | nil => exact absurd hmarked (by simp [Complains])
      | cons line rest => exact refuses_refuse hmarked tree
    · simp only [hthere, hjson, Bool.not_true, Bool.not_false, Bool.false_eq_true, if_false,
        if_true]
      exact (refuses_refuse (complains_cons (by decide +kernel) []) tree).bind
  · simp only [hthere, Bool.not_false, if_true]
    refine (refuses_refuse (complains_cons ?_ []) tree).bind
    iterate 2 refine String.beginsWith_append ?_ _
    decide +kernel

end Export

section Values

variable {tree : FileTree} {path text : String} {complaint : String → String}

theorem yields_valueOf {value : Json} (h : Json.read (source text) = .ok value)
    (complaint : String → String) (tree : FileTree) :
    Yields (valueOf text complaint : Steps (StateM Session) _).run tree (.ok value) tree := by
  unfold valueOf
  simp only [h]
  exact yields_run_pure _ _

theorem breaks_valueOf (h : Json.read (source text) = .error .integerTooLong)
    (complaint : String → String) (tree : FileTree) :
    Breaks (valueOf text complaint : Steps (StateM Session) _) tree := by
  unfold valueOf
  simp only [h]
  exact breaks_breakDown _ tree

theorem refuses_valueOf (hvalue : ∀ value, Json.read (source text) ≠ .ok value)
    (hlong : Json.read (source text) ≠ .error .integerTooLong)
    (hlone : Json.read (source text) ≠ .error .loneSurrogate)
    (hcomplaint : ∀ fault, (complaint fault).beginsWith "ERROR" = true) (tree : FileTree) :
    Refuses (valueOf text complaint : Steps (StateM Session) _) tree := by
  unfold valueOf
  cases hread : Json.read (source text) with
  | ok value => exact absurd hread (hvalue value)
  | error fault =>
    cases fault with
    | fault =>
      simp only [hread]
      exact refuses_refuse (complains_cons (hcomplaint _) []) tree
    | integerTooLong => exact absurd hread hlong
    | loneSurrogate => exact absurd hread hlone

end Values

section Config

variable {tree : FileTree} {path : String} (level : LogLevel)

theorem yields_readConfig {config : Config} (h : ReadsConfig tree path config) :
    Yields (readConfig level path : Steps (StateM Session) _).run tree (.ok config) tree := by
  unfold readConfig
  cases h with
  | default unnamed =>
    rw [if_pos (String.isEmpty_iff.mpr unnamed)]
    exact yields_run_pure _ _
  | file named holds accepted =>
    obtain ⟨text, hread, hvalue⟩ := holds
    rw [if_neg (mt String.isEmpty_iff.mp named)]
    refine (yields_run_read _ tree path).run_bind ?_
    simp only [hread]
    refine (yields_valueOf hvalue _ tree).run_bind ?_
    simp only [accepted]
    exact (yields_noteAll level _ tree).run_bind (yields_run_pure _ _)

theorem breaks_readConfig (h : BrokenConfig tree path) :
    Breaks (readConfig level path : Steps (StateM Session) _) tree := by
  unfold readConfig
  cases h with
  | @file fault named unread other =>
    rw [if_neg (mt String.isEmpty_iff.mp named)]
    refine breaks_bind (yields_run_read _ tree path) ?_
    rw [unread]
    cases fault with
    | notFound => exact absurd rfl other
    | _ => exact breaks_breakDown _ tree
  | integer named holds =>
    obtain ⟨text, hread, hlong⟩ := holds
    rw [if_neg (mt String.isEmpty_iff.mp named)]
    refine breaks_bind (yields_run_read _ tree path) ?_
    simp only [hread]
    exact (breaks_valueOf hlong _ tree).bind
  | order named holds incomparable =>
    obtain ⟨text, hread, hvalue⟩ := holds
    rw [if_neg (mt String.isEmpty_iff.mp named)]
    refine breaks_bind (yields_run_read _ tree path) ?_
    simp only [hread]
    refine breaks_bind (yields_valueOf hvalue _ tree) ?_
    simp only [incomparable]
    exact breaks_breakDown _ tree

theorem refuses_readConfig (hread : ∀ config, ¬ ReadsConfig tree path config)
    (hbroken : ¬ BrokenConfig tree path) (hlone : ¬ HoldsLoneSurrogate tree path) :
    Refuses (readConfig level path : Steps (StateM Session) _) tree := by
  have named : path ≠ "" := fun unnamed => hread _ (.default unnamed)
  unfold readConfig
  rw [if_neg (mt String.isEmpty_iff.mp named)]
  refine refuses_bind (yields_run_read _ tree path) ?_
  cases htext : tree.read path with
  | error fault =>
    cases fault with
    | notFound =>
      refine refuses_refuse (complains_cons ?_ []) tree
      iterate 2 refine String.beginsWith_append ?_ _
      decide +kernel
    | _ => exact absurd (.file named htext nofun) hbroken
  | ok text =>
    by_cases hvalue : ∃ overrides, Json.read (source text) = .ok overrides
    · obtain ⟨overrides, hvalue⟩ := hvalue
      refine refuses_bind (yields_valueOf hvalue _ tree) ?_
      cases haccepted : Config.ofJson overrides with
      | ok config => exact absurd (.file named ⟨text, htext, hvalue⟩ haccepted) (hread config)
      | error error =>
        cases error with
        | incomparable =>
          exact absurd (.order named ⟨text, htext, hvalue⟩ haccepted) hbroken
        | _ =>
          refine refuses_refuse (complains_cons ?_ []) tree
          exact String.beginsWith_append (by decide +kernel) _
    · refine (refuses_valueOf (not_exists.mp hvalue)
        (fun hlong => hbroken (.integer named ⟨text, htext, hlong⟩))
        (fun h => hlone ⟨text, htext, h⟩) (fun fault => ?_) tree).bind
      iterate 3 refine String.beginsWith_append ?_ _
      decide +kernel

end Config

section Export

variable {tree : FileTree} {path : String}

theorem refuses_failOn {α : Type} {failure : FileFailure} (h : failure.fault ≠ .unusableName)
    (tree : FileTree) : Refuses (failOn failure : Steps (StateM Session) α) tree := by
  obtain ⟨message, hmessage⟩ : ∃ message, failure.message? = some message := by
    obtain ⟨fault, path⟩ := failure
    cases fault with
    | unusableName => exact absurd rfl h
    | _ => exact ⟨_, rfl⟩
  unfold failOn
  simp only [hmessage]
  exact refuses_refuse (complains_cons (String.beginsWith_append (by decide +kernel) _) []) tree

theorem breaks_failOn {α : Type} {failure : FileFailure} (h : failure.fault = .unusableName)
    (tree : FileTree) : Breaks (failOn failure : Steps (StateM Session) α) tree := by
  have hmessage : failure.message? = none := by
    rw [FileFailure.message?, h]
    rfl
  unfold failOn
  simp only [hmessage]
  exact breaks_breakDown _ tree

theorem yields_readExport {data : Json} (h : HoldsValue tree path data) :
    Yields (readExport path : Steps (StateM Session) _).run tree (.ok data) tree := by
  obtain ⟨text, hread, hvalue⟩ := h
  unfold readExport
  refine (yields_run_read _ tree path).run_bind ?_
  simp only [hread]
  exact yields_valueOf hvalue _ tree

theorem breaks_readExport (h : HoldsLongInteger tree path) :
    Breaks (readExport path : Steps (StateM Session) _) tree := by
  obtain ⟨text, hread, hlong⟩ := h
  unfold readExport
  refine breaks_bind (yields_run_read _ tree path) ?_
  simp only [hread]
  exact breaks_valueOf hlong _ tree

theorem refuses_readExport (hnull : ¬ HasNull path) (hvalue : ∀ data, ¬ HoldsValue tree path data)
    (hlong : ¬ HoldsLongInteger tree path) (hlone : ¬ HoldsLoneSurrogate tree path) :
    Refuses (readExport path : Steps (StateM Session) _) tree := by
  unfold readExport
  refine refuses_bind (yields_run_read _ tree path) ?_
  cases htext : tree.read path with
  | error fault =>
    refine refuses_failOn (fun hfault => hnull ?_) tree
    rw [← FileTree.read_eq_unusableName_iff tree, htext]
    exact congrArg _ hfault
  | ok text =>
    refine refuses_valueOf (fun data hdata => hvalue data ⟨text, htext, hdata⟩)
      (fun h => hlong ⟨text, htext, h⟩) (fun h => hlone ⟨text, htext, h⟩) (fun fault => ?_) tree
    exact String.beginsWith_append (by decide +kernel) _

end Export

end TagAudit.Command
