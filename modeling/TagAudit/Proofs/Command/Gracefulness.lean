import TagAudit.Proofs.Command.Stages
import TagAudit.Proofs.Config.Range

/-!
# Graceful runs

A run is graceful if it ends with an exit code and, where an export or a configuration is not to be
used, says so and changes no file. Runs are graceful except in five cases: the file of the
configuration is there but cannot be read, an integer in it or in the export is too long, it holds
values that have no order, or the directory for the results has a name that cannot be asked for.
This is told of runs whose files can be followed: half of a surrogate pair is read by some programs
and may break them down when it is written, and large integers in a configuration may break them
down when they are computed with.
-/

namespace TagAudit.Command

open Session

/-- A file is asked for on a command line. -/
structure Requests (words : List String) (arguments : Arguments) (file : String) : Prop where
  read : Arguments.read words = .ok arguments
  given : arguments.file? = some file
  named : file ≠ ""

/-- A command line asks for one file at most, with one set of arguments. -/
theorem Requests.unique {words : List String} {arguments others : Arguments} {file other : String}
    (h : Requests words arguments file) (h' : Requests words others other) :
    others = arguments ∧ other = file := by
  obtain rfl := Except.ok.inj (h.read.symm.trans h'.read)
  exact ⟨rfl, Option.some.inj (h'.given.symm.trans h.given)⟩

/-- The path of the configuration that is asked for, empty if none is. -/
def Arguments.configPath (arguments : Arguments) : String := arguments.config?.getD ""

/-- The directory for the results that is asked for, empty if none is. -/
def Arguments.outputDirectory (arguments : Arguments) : String :=
  arguments.outputDirectory?.getD ""

/-- The export and the configuration that are asked for can be used. -/
structure Usable (tree : FileTree) (arguments : Arguments) (file : String) : Prop where
  admitted : Admitted tree file
  config : ∃ config, ReadsConfig tree arguments.configPath config
  data : ∃ data, HoldsValue tree file data

/-- The files of an export and a configuration can be followed. -/
structure Followed (tree : FileTree) (arguments : Arguments) (file : String) : Prop where
  /-- No half of a surrogate pair stands alone in the export. -/
  data : ¬ HoldsLoneSurrogate tree file
  /-- None does in the configuration. -/
  config : ¬ HoldsLoneSurrogate tree arguments.configPath
  /-- The integers of the configuration are not too large for its weights. -/
  integers : ∀ overrides, HoldsValue tree arguments.configPath overrides →
    overrides.integersWithin Config.largestInteger = true

/-- A run ends with exit code zero or one, and no integer is too large for what it computes with the
weights. If the export or the configuration that is asked for cannot be used, it ends with exit code
one, a complaint and the files as they were. -/
structure Graceful (words : List String) (session : Session) : Prop where
  exits : ∃ code final, (run words : StateM Session _).run session = (.ok code, final) ∧ code ≤ 1
  computes : ∀ arguments file config, Requests words arguments file →
    ReadsConfig session.tree arguments.configPath config → config.Representable
  refuses : ∀ arguments file, Requests words arguments file →
    ¬ Usable session.tree arguments file → ∃ added final,
      (run words : StateM Session _).run session = (.ok 1, final) ∧ final.tree = session.tree ∧
        final.printed = session.printed ++ added ∧ Complains added

/-- The directory for the results has a name that cannot be asked for when it is created. -/
def UnusableDirectory (tree : FileTree) (directory : String) : Prop :=
  directory ≠ "" ∧ ∃ path after,
    Yields (Shell.createDirectories directory : Steps (StateM Session) _).run tree
      (.ok (.error ⟨.unusableName, path⟩)) after

/-- The cases that are not provided for. -/
inductive BreaksDown (words : List String) (tree : FileTree) : Prop
  | config {arguments : Arguments} {file : String} (requested : Requests words arguments file)
      (admitted : Admitted tree file) (broken : BrokenConfig tree arguments.configPath)
  | data {arguments : Arguments} {file : String} {config : Config}
      (requested : Requests words arguments file) (admitted : Admitted tree file)
      (configured : ReadsConfig tree arguments.configPath config)
      (tooLong : HoldsLongInteger tree file)
  | directory {arguments : Arguments} {file : String}
      (requested : Requests words arguments file) (usable : Usable tree arguments file)
      (unusable : UnusableDirectory tree arguments.outputDirectory)

section Equations

variable {m : Type → Type} [Monad m] [Shell m]

/-- Saves what comes of an audit and says so. -/
def saveResults (arguments : Arguments) (file : String) (audit : Audit) : Steps m Unit := do
  let report := Report.ofAudit audit
  let output := OutputPaths.of file arguments.outputDirectory
  save output.report (.ofList audit.toJson.indented)
  sayAll ["", s!"Quality report saved to: {output.report}"]
  if arguments.csv then
    save output.issues (Report.issueLines report.issues)
    sayAll [s!"Issue table saved to: {output.issues}"]
  sayAll <| [""] ++ banner "PIPELINE COMPLETE" ++
    [s!"  Input file:      {file}", s!"  Quality score:   {report.total}/100",
      s!"  Quality report:  {output.report}"] ++
    (if arguments.csv then [s!"  Issue table:     {output.issues}"] else []) ++ [""]

theorem auditExport_eq (arguments : Arguments) (file : String) (level : LogLevel)
    (config : Config) (data : Json) :
    (auditExport arguments file level config data : Steps m Unit) = (do
      let audit := Audit.ofData config (fun _ => false) data
      noteAll level audit.log
      sayAll (Report.ofAudit audit).lines
      if !arguments.outputDirectory.isEmpty then
        match ← Shell.createDirectories arguments.outputDirectory with
        | .ok () => saveResults arguments file audit
        | .error failure => failOn failure >>= fun () => saveResults arguments file audit
      else saveResults arguments file audit) := rfl

end Equations

section Audit

/-- The steps end without breaking the run down. -/
def Settles {α : Type} (steps : Steps (StateM Session) α) (tree : FileTree) : Prop :=
  ∃ result after, Yields steps.run tree result after ∧
    ∀ breakdown, result ≠ .error (.broken breakdown)

variable {α β : Type} {steps : Steps (StateM Session) α} {next : α → Steps (StateM Session) β}
  {tree mid : FileTree}

theorem settles_bind {a : α} (h : Yields steps.run tree (.ok a) mid)
    (hnext : Settles (next a) mid) : Settles (steps >>= next) tree := by
  obtain ⟨result, after, hresult, hwhole⟩ := hnext
  exact ⟨result, after, h.run_bind hresult, hwhole⟩

theorem Refuses.settles (h : Refuses steps tree) : Settles steps tree := by
  obtain ⟨lines, -, hlines⟩ := h
  exact ⟨_, tree, hlines, nofun⟩

theorem settles_sayAll (lines : List String) (tree : FileTree) :
    Settles (sayAll lines : Steps (StateM Session) Unit) tree :=
  ⟨.ok (), tree, yields_sayAll lines tree, nofun⟩

/-- Where a text cannot be saved, a run is ended with a complaint. -/
theorem settles_save_bind {path : String} {next : Unit → Steps (StateM Session) β}
    (h : ¬ HasNull path) (hnext : ∀ tree, Settles (next ()) tree) (text : String)
    (tree : FileTree) :
    Settles (save path text >>= next) tree := by
  have hsaved : (∃ after, Yields (save path text : Steps (StateM Session) _).run tree (.ok ())
      after) ∨ Refuses (save path text : Steps (StateM Session) _) tree := by
    unfold save
    rcases yields_run_write Interruption tree path text with
      ⟨after, -, hwritten⟩ | ⟨fault, hfault, hwritten⟩
    · exact .inl ⟨after, hwritten.run_bind (yields_run_pure _ _)⟩
    · refine .inr (refuses_bind hwritten (refuses_failOn (fun hunusable => h ?_) tree))
      rw [← FileTree.write_eq_unusableName_iff tree text, hfault]
      exact congrArg _ hunusable
  rcases hsaved with ⟨after, hsaved⟩ | hrefused
  · exact settles_bind hsaved (hnext after)
  · exact hrefused.bind.settles

variable {arguments : Arguments} {file : String}

theorem settles_saveResults (hfile : ¬ HasNull file)
    (hdirectory : ¬ HasNull arguments.outputDirectory) (audit : Audit) (tree : FileTree) :
    Settles (saveResults arguments file audit : Steps (StateM Session) _) tree := by
  obtain ⟨hreport, hissues⟩ := OutputPaths.not_hasNull hfile hdirectory
  unfold saveResults
  refine settles_save_bind hreport (fun tree => ?_) _ tree
  refine settles_bind (yields_sayAll _ tree) ?_
  by_cases hcsv : arguments.csv = true
  · simp only [hcsv, if_true]
    refine settles_save_bind hissues (fun tree => ?_) _ tree
    exact settles_bind (yields_sayAll _ tree) (settles_sayAll _ tree)
  · simp only [hcsv, if_false, Bool.false_eq_true]
    exact settles_sayAll _ tree

variable (level : LogLevel) (config : Config) (data : Json)

theorem breaks_auditExport (h : UnusableDirectory tree arguments.outputDirectory) :
    Breaks (auditExport arguments file level config data : Steps (StateM Session) _) tree := by
  obtain ⟨named, path, after, hcreated⟩ := h
  rw [auditExport_eq]
  refine breaks_bind (yields_noteAll level _ tree) ?_
  refine breaks_bind (yields_sayAll _ tree) ?_
  rw [if_pos (by simpa using named)]
  exact breaks_bind hcreated (breaks_failOn rfl after).bind

theorem settles_auditExport (hfile : ¬ HasNull file)
    (h : ¬ UnusableDirectory tree arguments.outputDirectory) :
    Settles (auditExport arguments file level config data : Steps (StateM Session) _) tree := by
  rw [auditExport_eq]
  refine settles_bind (yields_noteAll level _ tree) ?_
  refine settles_bind (yields_sayAll _ tree) ?_
  by_cases named : arguments.outputDirectory = ""
  · rw [if_neg (by simpa using named)]
    refine settles_saveResults hfile ?_ _ tree
    rw [named, HasNull]
    exact List.not_mem_nil
  · rw [if_pos (by simpa using named)]
    obtain ⟨created, after, hcreated, hnull⟩ :=
      Shell.exists_yields_createDirectories Interruption tree arguments.outputDirectory
    refine settles_bind hcreated ?_
    cases created with
    | ok value => exact settles_saveResults hfile (fun hbad => hnull hbad rfl) _ after
    | error failure =>
      refine (refuses_failOn (fun hfault => h ⟨named, failure.path, after, ?_⟩) after).bind.settles
      rwa [← hfault]

end Audit

section Files

variable {tree : FileTree} {arguments : Arguments} {file : String}

theorem refuses_auditFile (h : ¬ Usable tree arguments file)
    (followed : Followed tree arguments file)
    (hconfig : Admitted tree file → ¬ BrokenConfig tree arguments.configPath)
    (hexport : Admitted tree file → ∀ config, ReadsConfig tree arguments.configPath config →
      ¬ HoldsLongInteger tree file) :
    Refuses (auditFile arguments file : Steps (StateM Session) _) tree := by
  unfold auditFile
  by_cases hadmitted : Admitted tree file
  · refine refuses_bind (yields_checkExport hadmitted) ?_
    by_cases hread : ∃ config, ReadsConfig tree arguments.configPath config
    · obtain ⟨config, hread⟩ := hread
      refine refuses_bind (yields_readConfig _ hread) (refuses_bind (yields_sayAll _ tree) ?_)
      have hvalue : ∀ data, ¬ HoldsValue tree file data :=
        fun data hdata => h ⟨hadmitted, ⟨config, hread⟩, data, hdata⟩
      exact (refuses_readExport hadmitted.not_hasNull hvalue
        (hexport hadmitted config hread) followed.data).bind
    · exact (refuses_readConfig _ (not_exists.mp hread) (hconfig hadmitted) followed.config).bind
  · exact (refuses_checkExport hadmitted).bind

theorem settles_auditFile (h : Usable tree arguments file)
    (hdirectory : ¬ UnusableDirectory tree arguments.outputDirectory) :
    Settles (auditFile arguments file : Steps (StateM Session) _) tree := by
  obtain ⟨hadmitted, ⟨config, hread⟩, data, hdata⟩ := h
  unfold auditFile
  refine settles_bind (yields_checkExport hadmitted) ?_
  refine settles_bind (yields_readConfig _ hread) ?_
  refine settles_bind (yields_sayAll _ tree) ?_
  refine settles_bind (yields_readExport hdata) ?_
  exact settles_auditExport _ config data hadmitted.not_hasNull hdirectory

end Files

section Words

variable {words : List String} {arguments : Arguments} {file : String} {tree : FileTree}

theorem steps_eq (h : Requests words arguments file) :
    (steps words : Steps (StateM Session) Unit) = auditFile arguments file := by
  unfold steps
  simp only [h.read, h.given, Option.getD_some]
  rw [if_neg (by simpa using h.named)]

/-- A command line that asks for no file is refused. -/
theorem exists_steps_eq_refuse (h : ¬ ∃ arguments file, Requests words arguments file) :
    ∃ lines, (steps words : Steps (StateM Session) Unit) = refuse lines := by
  unfold steps
  cases hread : Arguments.read words with
  | error error => exact ⟨_, rfl⟩
  | ok arguments =>
    refine ⟨usage, if_pos ?_⟩
    cases hgiven : arguments.file? with
    | none => rfl
    | some file =>
      by_contra hnamed
      exact h ⟨arguments, file, hread, hgiven, by simpa using hnamed⟩

theorem breaks_steps (h : BreaksDown words tree) :
    Breaks (steps words : Steps (StateM Session) Unit) tree := by
  cases h with
  | config requested admitted broken =>
    rw [steps_eq requested, auditFile]
    exact breaks_bind (yields_checkExport admitted) (breaks_readConfig _ broken).bind
  | data requested admitted configured tooLong =>
    rw [steps_eq requested, auditFile]
    refine breaks_bind (yields_checkExport admitted) ?_
    refine breaks_bind (yields_readConfig _ configured) ?_
    exact breaks_bind (yields_sayAll _ tree) (breaks_readExport tooLong).bind
  | directory requested usable unusable =>
    obtain ⟨hadmitted, ⟨config, hread⟩, data, hdata⟩ := usable
    rw [steps_eq requested, auditFile]
    refine breaks_bind (yields_checkExport hadmitted) ?_
    refine breaks_bind (yields_readConfig _ hread) ?_
    refine breaks_bind (yields_sayAll _ tree) ?_
    exact breaks_bind (yields_readExport hdata) (breaks_auditExport _ config data unusable)

theorem refuses_steps (requested : Requests words arguments file)
    (followed : Followed tree arguments file) (h : ¬ BreaksDown words tree)
    (unusable : ¬ Usable tree arguments file) :
    Refuses (steps words : Steps (StateM Session) Unit) tree := by
  rw [steps_eq requested]
  exact refuses_auditFile unusable followed (fun admitted broken => h (.config requested admitted broken))
    fun admitted config configured tooLong => h (.data requested admitted configured tooLong)

/-- The steps of a run end without breaking it down unless a case is not provided for. -/
theorem settles_steps
    (followed : ∀ arguments file, Requests words arguments file → Followed tree arguments file)
    (h : ¬ BreaksDown words tree) :
    Settles (steps words : Steps (StateM Session) Unit) tree := by
  by_cases hrequested : ∃ arguments file, Requests words arguments file
  · obtain ⟨arguments, file, requested⟩ := hrequested
    by_cases usable : Usable tree arguments file
    · rw [steps_eq requested]
      exact settles_auditFile usable fun unusable => h (.directory requested usable unusable)
    · exact (refuses_steps requested (followed _ _ requested) h usable).settles
  · obtain ⟨lines, hlines⟩ := exists_steps_eq_refuse hrequested
    rw [hlines]
    exact ⟨_, tree, yields_run_throw _ _, nofun⟩

end Words

section Runs

variable {words : List String} {session : Session}

theorem run_sayAll (lines : List String) (session : Session) :
    (sayAll lines : StateM Session Unit).run session =
      ((), { session with printed := session.printed ++ lines }) := by
  induction lines generalizing session with
  | nil =>
    rw [List.append_nil]
    rfl
  | cons line rest ih =>
    have hsaid := ih { session with printed := session.printed ++ [line] }
    rw [List.append_assoc] at hsaid
    exact hsaid

/-- Steps that break down break the run down. -/
theorem run_of_breaks (h : Breaks (steps words : Steps (StateM Session) Unit) session.tree) :
    ∃ breakdown final, (run words : StateM Session _).run session = (.error breakdown, final) := by
  obtain ⟨breakdown, after, h⟩ := h
  obtain ⟨final, hrun, -⟩ := h session rfl
  refine ⟨breakdown, final, ?_⟩
  rw [run, StateT.run_bind, hrun]
  rfl

/-- Steps that are refused end the run with a complaint. -/
theorem run_of_refuses (h : Refuses (steps words : Steps (StateM Session) Unit) session.tree) :
    ∃ added final, (run words : StateM Session _).run session = (.ok 1, final) ∧
      final.tree = session.tree ∧ final.printed = session.printed ++ added ∧ Complains added := by
  obtain ⟨lines, ⟨line, hline, herror⟩, h⟩ := h
  obtain ⟨between, hrun, htree, said, hsaid⟩ := h session rfl
  refine ⟨said ++ lines, { between with printed := between.printed ++ lines }, ?_, htree, ?_,
    line, List.mem_append_right _ hline, herror⟩
  · rw [run, StateT.run_bind, hrun]
    change (sayAll lines >>= fun _ => pure (.ok 1) :
      StateM Session (Except Breakdown Nat)).run between = _
    rw [StateT.run_bind, run_sayAll]
    rfl
  · rw [← hsaid, List.append_assoc]

theorem run_of_settles (h : Settles (steps words : Steps (StateM Session) Unit) session.tree) :
    ∃ code final, (run words : StateM Session _).run session = (.ok code, final) ∧ code ≤ 1 := by
  obtain ⟨result, after, h, hwhole⟩ := h
  obtain ⟨final, hrun, -⟩ := h session rfl
  rw [run, StateT.run_bind, hrun]
  cases result with
  | ok value => exact ⟨0, final, rfl, Nat.zero_le 1⟩
  | error interruption =>
    cases interruption with
    | refused lines => exact ⟨1, _, rfl, Nat.le_refl 1⟩
    | broken breakdown => exact absurd rfl (hwhole breakdown)

theorem not_graceful_of_breaksDown (h : BreaksDown words session.tree) :
    ¬ Graceful words session := by
  intro hgraceful
  obtain ⟨code, final, hrun, -⟩ := hgraceful.exits
  obtain ⟨breakdown, other, hbroken⟩ := run_of_breaks (breaks_steps h)
  rw [hbroken] at hrun
  cases hrun

end Runs

/-- A configuration that is read from a file that can be followed is representable. -/
theorem Followed.representable {tree : FileTree} {arguments : Arguments} {file : String}
    {config : Config} (h : Followed tree arguments file)
    (hread : ReadsConfig tree arguments.configPath config) : config.Representable := by
  cases hread with
  | default unnamed => exact Config.representable_default
  | file named holds accepted => exact Config.representable_of_ofJson accepted (h.integers _ holds)

/-- A run whose files can be followed is graceful exactly if it is in none of the cases that are not
provided for. -/
theorem graceful_iff (words : List String) (session : Session)
    (followed : ∀ arguments file, Requests words arguments file →
      Followed session.tree arguments file) :
    Graceful words session ↔ ¬ BreaksDown words session.tree := by
  constructor
  · exact fun hgraceful hbroken => not_graceful_of_breaksDown hbroken hgraceful
  · intro h
    refine ⟨run_of_settles (settles_steps followed h), fun arguments file config requested hread =>
      (followed arguments file requested).representable hread, ?_⟩
    exact fun arguments file requested unusable =>
      run_of_refuses (refuses_steps requested (followed arguments file requested) h unusable)

/-- An empty export, and a configuration with a weight that is an integer. -/
def wholeWeightSession : Session :=
  { tree := .ofEntries [] [("e.json", .file "\x7b\x7d"),
      ("c.json", .file "\x7b\"score_weights\": \x7b\"tags\": 1\x7d\x7d")] }

theorem graceful_wholeWeight :
    Graceful ["e.json", "--config", "c.json"] wholeWeightSession := by
  have requested : Requests ["e.json", "--config", "c.json"]
      { file? := some "e.json", config? := some "c.json" } "e.json" :=
    ⟨by decide +kernel, rfl, by decide⟩
  have hexport : HoldsValue wholeWeightSession.tree "e.json" (.object []) :=
    ⟨_, rfl, by decide +kernel⟩
  have hconfig : HoldsValue wholeWeightSession.tree "c.json"
      (.object [("score_weights", .object [("tags", .number (.int 1))])]) :=
    ⟨_, rfl, by decide +kernel⟩
  refine (graceful_iff _ _ fun arguments file h => ?_).mpr fun hbroken => ?_
  · obtain ⟨rfl, rfl⟩ := requested.unique h
    refine ⟨?_, ?_, ?_⟩
    · rintro ⟨text, htext, hlone⟩
      cases (hexport.read_eq htext).symm.trans hlone
    · rintro ⟨text, htext, hlone⟩
      cases (hconfig.read_eq htext).symm.trans hlone
    · rintro overrides ⟨text, htext, hread⟩
      cases (hconfig.read_eq htext).symm.trans hread
      decide +kernel
  · cases hbroken with
    | config h admitted broken =>
      obtain ⟨rfl, rfl⟩ := requested.unique h
      cases broken with
      | file named unread other =>
        obtain ⟨text, htext, -⟩ := hconfig
        cases htext.symm.trans unread
      | integer named holds =>
        obtain ⟨text, htext, hlong⟩ := holds
        cases (hconfig.read_eq htext).symm.trans hlong
      | order named holds incomparable =>
        obtain ⟨text, htext, hread⟩ := holds
        cases (hconfig.read_eq htext).symm.trans hread
        have haccepted : (Config.ofJson (.object [("score_weights",
            .object [("tags", .number (.int 1))])])).map (fun _ => ()) = .ok () := by
          decide +kernel
        rw [incomparable] at haccepted
        cases haccepted
    | data h admitted configured tooLong =>
      obtain ⟨rfl, rfl⟩ := requested.unique h
      obtain ⟨text, htext, hlong⟩ := tooLong
      cases (hexport.read_eq htext).symm.trans hlong
    | directory h usable unusable =>
      obtain ⟨rfl, rfl⟩ := requested.unique h
      exact unusable.1 rfl

/-- A directory where a configuration should be. -/
def directoryConfigSession : Session :=
  { tree := .ofEntries [] [("e.json", .file "\x7b\x7d"), ("d", .directory)] }

theorem not_graceful_directoryConfig :
    ¬ Graceful ["e.json", "--config", "d"] directoryConfigSession := by
  have requested : Requests ["e.json", "--config", "d"]
      { file? := some "e.json", config? := some "d" } "e.json" :=
    ⟨by decide +kernel, rfl, by decide⟩
  have admitted : Admitted directoryConfigSession.tree "e.json" :=
    ⟨by decide +kernel, by decide +kernel, by decide +kernel⟩
  have unread : directoryConfigSession.tree.read "d" = .error .isADirectory := by decide +kernel
  exact not_graceful_of_breaksDown (.config requested admitted (.file (by decide) unread nofun))

end TagAudit.Command
