import TagAudit.Command.Session
import TagAudit.Proofs.Command.UnusableName

/-!
# Programs on file trees

What a program does in a session depends on the file tree alone, and nothing that was printed is
taken back. A program yields a value and a tree from a tree if it does so in every session; programs
that yield something are put together step by step.
-/

namespace TagAudit

namespace Session

variable {α β ε : Type} {tree mid after : FileTree}

/-- In every session with the first tree the program has the value and leaves the second tree, and
what was printed stays. -/
def Yields (program : StateM Session α) (tree : FileTree) (value : α) (after : FileTree) : Prop :=
  ∀ session : Session, session.tree = tree → ∃ final : Session,
    program.run session = (value, final) ∧ final.tree = after ∧ session.printed <+: final.printed

theorem yields_pure (a : α) (tree : FileTree) : Yields (pure a) tree a tree :=
  fun session hsession => ⟨session, rfl, hsession, List.prefix_rfl⟩

theorem Yields.bind {program : StateM Session α} {next : α → StateM Session β} {a : α} {b : β}
    (h : Yields program tree a mid) (hnext : Yields (next a) mid b after) :
    Yields (program >>= next) tree b after := by
  intro session hsession
  obtain ⟨between, hrun, hbetween, hprinted⟩ := h session hsession
  obtain ⟨final, hrest, hfinal, hlater⟩ := hnext between hbetween
  refine ⟨final, ?_, hfinal, hprinted.trans hlater⟩
  rw [StateT.run_bind, hrun]
  exact hrest

section Shell

variable (tree : FileTree) (path : String)

theorem yields_kind? : Yields (Shell.kind? path) tree (tree.kind? path) tree := by
  rintro session rfl
  exact ⟨session, rfl, rfl, List.prefix_rfl⟩

theorem yields_read : Yields (Shell.read path) tree (tree.read path) tree := by
  rintro session rfl
  exact ⟨session, rfl, rfl, List.prefix_rfl⟩

/-- A change of the tree either is made or fails and leaves the tree as it is. -/
theorem yields_change (step : FileTree → Except FileFault FileTree) :
    (∃ after, step tree = .ok after ∧ Yields (change step) tree (.ok ()) after) ∨
      ∃ fault, step tree = .error fault ∧ Yields (change step) tree (.error fault) tree := by
  cases hstep : step tree with
  | ok after =>
    refine .inl ⟨after, rfl, ?_⟩
    rintro session rfl
    refine ⟨{ session with tree := after }, ?_, rfl, List.prefix_rfl⟩
    change change step session = _
    rw [change, hstep]
  | error fault =>
    refine .inr ⟨fault, rfl, ?_⟩
    rintro session rfl
    refine ⟨session, ?_, rfl, List.prefix_rfl⟩
    change change step session = _
    rw [change, hstep]

theorem yields_say (line : String) : Yields (Shell.say line) tree () tree := by
  rintro session rfl
  exact ⟨{ session with printed := session.printed ++ [line] }, rfl, rfl,
    List.prefix_append ..⟩

theorem yields_note (line : String) : Yields (Shell.note line) tree () tree := by
  rintro session rfl
  exact ⟨{ session with noted := session.noted ++ [line] }, rfl, rfl, List.prefix_rfl⟩

end Shell

section Stopping

variable {steps : ExceptT ε (StateM Session) α} {next : α → ExceptT ε (StateM Session) β}

theorem yields_run_pure (a : α) (tree : FileTree) :
    Yields (pure a : ExceptT ε (StateM Session) α).run tree (.ok a) tree :=
  yields_pure _ _

theorem yields_run_throw (e : ε) (tree : FileTree) :
    Yields (throw e : ExceptT ε (StateM Session) α).run tree (.error e) tree :=
  yields_pure _ _

theorem Yields.run_lift {program : StateM Session α} {a : α} (h : Yields program tree a after) :
    Yields (ExceptT.lift program : ExceptT ε (StateM Session) α).run tree (.ok a) after := by
  rw [ExceptT.run_lift, map_eq_pure_bind]
  exact h.bind (yields_pure _ _)

/-- What comes after steps that succeed goes on with their value. -/
theorem Yields.run_bind {a : α} {result : Except ε β} (h : Yields steps.run tree (.ok a) mid)
    (hnext : Yields (next a).run mid result after) :
    Yields (steps >>= next).run tree result after := by
  rw [ExceptT.run_bind]
  exact Yields.bind h hnext

/-- What comes after steps that stop is left out. -/
theorem Yields.run_bind_error {e : ε} (h : Yields steps.run tree (.error e) after) :
    Yields (steps >>= next).run tree (.error e) after := by
  rw [ExceptT.run_bind]
  exact Yields.bind h (yields_pure _ _)

/-- Steps for the items of a list, none of which changes the tree. -/
theorem yields_run_forM {items : List α} {f : α → ExceptT ε (StateM Session) PUnit}
    (h : ∀ item ∈ items, Yields (f item).run tree (.ok ()) tree) :
    Yields (items.forM f).run tree (.ok ()) tree := by
  induction items with
  | nil => exact yields_run_pure _ _
  | cons item rest ih =>
    exact (h item (List.mem_cons_self ..)).run_bind
      (ih fun other hother => h other (List.mem_cons_of_mem _ hother))

end Stopping

section StoppingShell

variable (ε) (tree : FileTree) (path : String)

theorem yields_run_kind? :
    Yields (Shell.kind? path : ExceptT ε (StateM Session) _).run tree (.ok (tree.kind? path))
      tree :=
  (yields_kind? tree path).run_lift

theorem yields_run_isThere :
    Yields (Shell.isThere path : ExceptT ε (StateM Session) _).run tree
      (.ok (tree.kind? path).isSome) tree :=
  (yields_run_kind? ε tree path).run_bind (yields_run_pure _ _)

theorem yields_run_read :
    Yields (Shell.read path : ExceptT ε (StateM Session) _).run tree (.ok (tree.read path)) tree :=
  (yields_read tree path).run_lift

theorem yields_run_change (step : FileTree → Except FileFault FileTree) :
    (∃ after, step tree = .ok after ∧
      Yields (ExceptT.lift (change step) : ExceptT ε (StateM Session) _).run tree (.ok (.ok ()))
        after) ∨
    ∃ fault, step tree = .error fault ∧
      Yields (ExceptT.lift (change step) : ExceptT ε (StateM Session) _).run tree
        (.ok (.error fault)) tree := by
  rcases yields_change tree step with ⟨after, hafter, h⟩ | ⟨fault, hfault, h⟩
  · exact .inl ⟨after, hafter, h.run_lift⟩
  · exact .inr ⟨fault, hfault, h.run_lift⟩

/-- A text is written, or a fault leaves the tree as it is. -/
theorem yields_run_write (text : String) :
    (∃ after, tree.write path text = .ok after ∧
      Yields (Shell.write path text : ExceptT ε (StateM Session) _).run tree (.ok (.ok ()))
        after) ∨
    ∃ fault, tree.write path text = .error fault ∧
      Yields (Shell.write path text : ExceptT ε (StateM Session) _).run tree (.ok (.error fault))
        tree :=
  yields_run_change ε tree (·.write path text)

/-- A directory is created, or a fault leaves the tree as it is. -/
theorem yields_run_createDirectory :
    (∃ after, tree.createDirectory path = .ok after ∧
      Yields (Shell.createDirectory path : ExceptT ε (StateM Session) _).run tree (.ok (.ok ()))
        after) ∨
    ∃ fault, tree.createDirectory path = .error fault ∧
      Yields (Shell.createDirectory path : ExceptT ε (StateM Session) _).run tree
        (.ok (.error fault)) tree :=
  yields_run_change ε tree (·.createDirectory path)

end StoppingShell

end Session

namespace Shell

open Session

section Equations

variable {m : Type → Type} [Monad m] [Shell m]

/-- Creates a directory at the end of a lineage; one that is there already will do. -/
def createNext (path : String) : m (Except FileFailure Unit) := do
  match ← createDirectory path with
  | .ok () => return .ok ()
  | .error fault =>
    return if (← kind? path) = some .directory then .ok () else .error ⟨fault, path⟩

theorem createLineage_singleton (path : List Char) :
    (createLineage [path] : m _) = createNext (.ofList path) := by
  unfold createLineage
  rfl

theorem createLineage_cons_cons (path parent : List Char) (above : List (List Char)) :
    (createLineage (path :: parent :: above) : m _) = (do
      let go := if (Path.divided path).2 = ['.'] then return .ok () else createNext (.ofList path)
      if !(← isThere (.ofList parent)) then
        match ← createLineage (parent :: above) with
        | .error failure =>
          if failure.fault ≠ .alreadyThere then return .error failure else go
        | .ok () => go
      else createNext (.ofList path)) := by
  rw [createLineage]
  rfl

end Equations

section Directories

variable {ε : Type} {path : List Char}

/-- From every tree the steps come to an end. If there is a null character in the path, then with
a failure, and not because something is there already. -/
def Creates (steps : ExceptT ε (StateM Session) (Except FileFailure Unit)) (path : List Char) :
    Prop :=
  ∀ tree, ∃ result after, Yields steps.run tree (.ok result) after ∧
    ('\x00' ∈ path → ∃ failure, result = .error failure ∧ failure.fault ≠ .alreadyThere)

theorem creates_createNext (path : List Char) :
    Creates (createNext (.ofList path) : ExceptT ε (StateM Session) _) path := by
  intro tree
  have hfails (hpath : '\x00' ∈ path) :
      tree.createDirectory (.ofList path) = .error .unusableName ∧
        tree.kind? (.ofList path) = none := by
    have hnull : HasNull (.ofList path) := by rwa [HasNull, String.toList_ofList]
    exact ⟨FileTree.createDirectory_of_hasNull hnull, FileTree.kind?_of_hasNull hnull⟩
  have hother : FileFault.unusableName ≠ .alreadyThere := by decide
  rcases yields_run_createDirectory ε tree (.ofList path) with
    ⟨after, hafter, h⟩ | ⟨fault, hfault, h⟩
  · refine ⟨.ok (), after, h.run_bind (yields_run_pure _ _), fun hpath => ?_⟩
    rw [(hfails hpath).1] at hafter
    cases hafter
  · refine ⟨_, tree, h.run_bind ((yields_run_kind? ε tree _).run_bind (yields_run_pure _ _)),
      fun hpath => ⟨⟨.unusableName, .ofList path⟩, ?_, hother⟩⟩
    rw [(hfails hpath).1] at hfault
    cases hfault
    rw [(hfails hpath).2, if_neg (by decide)]

/-- After the directories above it, a path can only be at fault for its own name. -/
theorem creates_named (habove : '\x00' ∉ (Path.divided path).1) :
    Creates (if (Path.divided path).2 = ['.'] then return .ok ()
      else createNext (.ofList path) : ExceptT ε (StateM Session) _) path := by
  split
  next hpoint =>
    refine fun tree => ⟨.ok (), tree, yields_run_pure _ _, fun hpath => ?_⟩
    have hname := (Path.mem_divided hpath rfl).resolve_left habove
    simp [hpoint] at hname
  next => exact creates_createNext path

/-- Creating a directory and those above it comes to an end. -/
theorem creates_createLineage (path : List Char) :
    Creates (createLineage (Path.lineage path) : ExceptT ε (StateM Session) _) path := by
  induction path using Path.lineage.induct with
  | case2 path hsingle =>
    rw [Path.lineage, dif_neg hsingle, createLineage_singleton]
    exact creates_createNext path
  | case1 path hparent ih =>
    obtain ⟨above, habove⟩ : ∃ above,
        Path.lineage (Path.divided path).1 = (Path.divided path).1 :: above := by
      rw [Path.lineage]
      split <;> exact ⟨_, rfl⟩
    rw [Path.lineage, dif_pos hparent, habove, createLineage_cons_cons, ← habove]
    intro tree
    have hthere := yields_run_isThere ε tree (.ofList (Path.divided path).1)
    cases hkind : (tree.kind? (.ofList (Path.divided path).1)).isSome with
    | true =>
      rw [hkind] at hthere
      obtain ⟨result, after, h, hpath⟩ := creates_createNext path tree
      exact ⟨result, after, hthere.run_bind h, hpath⟩
    | false =>
      rw [hkind] at hthere
      obtain ⟨created, mid, hcreated, hnull⟩ := ih tree
      cases created with
      | ok value =>
        have hfine : '\x00' ∉ (Path.divided path).1 := fun hbad => by
          obtain ⟨failure, hfailure, -⟩ := hnull hbad
          cases hfailure
        obtain ⟨result, after, h, hpath⟩ := creates_named hfine mid
        exact ⟨result, after, hthere.run_bind (hcreated.run_bind h), hpath⟩
      | error failure =>
        by_cases hfault : failure.fault = .alreadyThere
        · have hfine : '\x00' ∉ (Path.divided path).1 := fun hbad => by
            obtain ⟨_, hfailure, hne⟩ := hnull hbad
            cases hfailure
            exact hne hfault
          obtain ⟨result, after, h, hpath⟩ := creates_named hfine mid
          refine ⟨result, after, hthere.run_bind (hcreated.run_bind ?_), hpath⟩
          dsimp only
          rwa [if_neg (not_not_intro hfault)]
        · refine ⟨.error failure, mid, hthere.run_bind (hcreated.run_bind ?_),
            fun _ => ⟨failure, rfl, hfault⟩⟩
          dsimp only
          rw [if_pos hfault]
          exact yields_run_pure _ _

/-- Creating a directory comes to an end, and a directory with a null character in its path is not
created. -/
theorem exists_yields_createDirectories (ε : Type) (tree : FileTree) (path : String) :
    ∃ result after,
      Yields (createDirectories path : ExceptT ε (StateM Session) _).run tree (.ok result) after ∧
        (HasNull path → result ≠ .ok ()) := by
  obtain ⟨result, after, h, hnull⟩ := creates_createLineage path.toList tree
  refine ⟨result, after, h, fun hpath hresult => ?_⟩
  obtain ⟨failure, hfailure, -⟩ := hnull hpath
  rw [hfailure] at hresult
  cases hresult

end Directories

end Shell

end TagAudit
