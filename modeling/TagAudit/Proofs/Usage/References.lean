import Mathlib.Data.List.Nodup
import TagAudit.Usage.Graph

/-!
# What a usage graph holds

A usage graph is built by one reference after another. After each of them it holds every reference
so far and no other: one edge for each pair of nodes, with every kind of reference between them
once. So the graph of a container holds the references of its entities, however often entities and
references are repeated.
-/

namespace TagAudit

/-- One reference of a node to another. -/
structure UsageReference where
  source : UsageNode
  target : UsageNode
  kind : ReferenceKind
  deriving DecidableEq, Repr

namespace UsageGraph

section AppendNew

variable {α : Type} [DecidableEq α] {x y : α} {xs : List α}

/-- A list with an element, which comes last unless the list has it. -/
def appendNew (x : α) (xs : List α) : List α := if x ∈ xs then xs else xs ++ [x]

theorem mem_appendNew : y ∈ appendNew x xs ↔ y ∈ xs ∨ y = x := by
  unfold appendNew
  split
  · rename_i hx
    exact ⟨Or.inl, fun h => h.elim id fun he => he ▸ hx⟩
  · rw [List.mem_append, List.mem_singleton]

theorem nodup_appendNew (h : xs.Nodup) : (appendNew x xs).Nodup := by
  unfold appendNew
  split
  · exact h
  · rename_i hx
    rw [← List.concat_eq_append]
    exact h.concat hx

theorem appendNew_cons_self : appendNew x (x :: xs) = x :: xs :=
  if_pos (List.mem_cons_self ..)

theorem appendNew_cons_of_ne (h : x ≠ y) : appendNew x (y :: xs) = y :: appendNew x xs := by
  by_cases hx : x ∈ xs <;> simp [appendNew, h, hx]

end AppendNew

/-- The nodes of a list that gives them names. -/
def keysOf (nodes : List (UsageNode × Option String)) : List UsageNode := nodes.map (·.1)

/-- The two ends of every edge. -/
def endsOf (edges : List UsageEdge) : List (UsageNode × UsageNode) :=
  edges.map fun edge => (edge.source, edge.target)

/-- A node that is put keeps its place or comes last. -/
theorem keysOf_putNode (node : UsageNode) (name : Option String)
    (nodes : List (UsageNode × Option String)) :
    keysOf (putNode node name nodes) = appendNew node (keysOf nodes) := by
  induction nodes with
  | nil => rfl
  | cons entry rest ih =>
    obtain ⟨other, known⟩ := entry
    by_cases h : other = node
    · subst h
      simp only [putNode, if_true]
      exact appendNew_cons_self.symm
    · simp only [putNode, h, if_false]
      exact (congrArg _ ih).trans (appendNew_cons_of_ne (Ne.symm h)).symm

/-- A graph has a node exactly if it is listed. -/
theorem hasNode_iff {graph : UsageGraph} {node : UsageNode} :
    graph.hasNode node = true ↔ node ∈ keysOf graph.nodes := by
  rw [hasNode, List.lookup_isSome_iff, keysOf, List.mem_map]
  simp only [beq_iff_eq, @eq_comm _ node]

section PutReference

variable {source target : UsageNode} {kind : ReferenceKind}

/-- A reference joins the edge between its nodes or makes the last edge. -/
theorem endsOf_putReference (edges : List UsageEdge) :
    endsOf (putReference source target kind edges) = appendNew (source, target) (endsOf edges) := by
  induction edges with
  | nil => rfl
  | cons edge rest ih =>
    by_cases h : edge.source = source ∧ edge.target = target
    · obtain ⟨rfl, rfl⟩ := h
      refine Eq.trans ?_ appendNew_cons_self.symm
      simp only [putReference, and_self, if_true]
      split <;> rfl
    · have hne : (source, target) ≠ (edge.source, edge.target) := by
        intro he
        obtain ⟨hs, ht⟩ := Prod.mk.inj he
        exact h ⟨hs.symm, ht.symm⟩
      simp only [putReference, h, if_false]
      exact (congrArg _ ih).trans (appendNew_cons_of_ne hne).symm

/-- Do some edges carry a reference? -/
def Carries (edges : List UsageEdge) (reference : UsageReference) : Prop :=
  ∃ edge ∈ edges, edge.source = reference.source ∧ edge.target = reference.target ∧
    reference.kind ∈ edge.kinds

/-- After a reference was put, edges carry it and what they carried before. -/
theorem carries_putReference_iff {edges : List UsageEdge} {reference : UsageReference} :
    Carries (putReference source target kind edges) reference ↔
      Carries edges reference ∨ reference = ⟨source, target, kind⟩ := by
  obtain ⟨s, t, k⟩ := reference
  unfold Carries
  induction edges with
  | nil => simp [putReference, eq_comm]
  | cons edge rest ih =>
    by_cases h : edge.source = source ∧ edge.target = target
    · obtain ⟨rfl, rfl⟩ := h
      by_cases hk : kind ∈ edge.kinds
      · simp only [putReference, and_self, if_true, hk]
        refine ⟨Or.inl, fun hor => hor.elim id fun he => ?_⟩
        cases he
        exact ⟨edge, List.mem_cons_self .., rfl, rfl, hk⟩
      · simp only [putReference, and_self, if_true, hk, if_false, List.exists_mem_cons_iff,
          List.mem_append, List.mem_singleton, UsageReference.mk.injEq]
        grind
    · simp only [putReference, h, if_false, List.exists_mem_cons_iff, ih, or_assoc]

/-- A property of the kinds of every edge that a single kind has, and that a new kind keeps, is kept
by putting a reference. -/
theorem forall_kinds_putReference {p : List ReferenceKind → Prop} (single : p [kind])
    (grown : ∀ kinds, p kinds → p (appendNew kind kinds)) {edges : List UsageEdge}
    (h : ∀ edge ∈ edges, p edge.kinds) :
    ∀ edge ∈ putReference source target kind edges, p edge.kinds := by
  induction edges with
  | nil => exact List.forall_mem_singleton.mpr single
  | cons edge rest ih =>
    obtain ⟨hedge, hrest⟩ := List.forall_mem_cons.mp h
    by_cases he : edge.source = source ∧ edge.target = target
    · simp only [putReference, he, and_self, if_true]
      refine List.forall_mem_cons.mpr ⟨?_, hrest⟩
      have hgrown := grown _ hedge
      unfold appendNew at hgrown
      split at hgrown <;> simp only [*, if_true, if_false]
    · simp only [putReference, he, if_false]
      exact List.forall_mem_cons.mpr ⟨hedge, ih hrest⟩

end PutReference

/-- A graph that holds the references of a list and no others. -/
structure Holds (graph : UsageGraph) (references : List UsageReference) : Prop where
  nodup_nodes : (keysOf graph.nodes).Nodup
  /-- The names that have nodes are those that are referred to. -/
  mem_nodes : ∀ name, .name name ∈ keysOf graph.nodes ↔
    ∃ reference ∈ references, reference.target = .name name
  /-- One edge leads from a node to another. -/
  nodup_ends : (endsOf graph.edges).Nodup
  nodup_kinds : ∀ edge ∈ graph.edges, edge.kinds.Nodup
  kinds_ne_nil : ∀ edge ∈ graph.edges, edge.kinds ≠ []
  carries : ∀ reference, Carries graph.edges reference ↔ reference ∈ references
  mem_triggerIds : ∀ id, id ∈ graph.triggerIds ↔
    ∃ reference ∈ references, reference.target = .entity .trigger id
  mem_placeholderNames : ∀ name, name ∈ graph.placeholderNames ↔
    ∃ reference ∈ references, reference.target = .name name

namespace Holds

variable {graph : UsageGraph} {references : List UsageReference}

/-- The empty graph holds no references. -/
theorem empty : Holds {} [] where
  nodup_nodes := List.nodup_nil
  mem_nodes := by simp [keysOf]
  nodup_ends := List.nodup_nil
  nodup_kinds := by simp
  kinds_ne_nil := by simp
  carries := by simp [Carries]
  mem_triggerIds := by simp
  mem_placeholderNames := by simp

/-- The targets of references after one more of them. -/
private theorem exists_target_append {reference : UsageReference} {target : UsageNode} :
    (∃ other ∈ references ++ [reference], other.target = target) ↔
      (∃ other ∈ references, other.target = target) ∨ reference.target = target := by
  simp only [List.mem_append, List.mem_singleton, or_and_right, exists_or, exists_eq_left]

/-- A node for an entity adds no reference. -/
theorem putEntity (h : graph.Holds references) (kind : EntityKind) (id : String)
    (name : Option String) :
    Holds ⟨putNode (.entity kind id) name graph.nodes, graph.edges, graph.triggerIds,
      graph.placeholderNames⟩ references :=
  { h with
    nodup_nodes := keysOf_putNode _ _ graph.nodes ▸ nodup_appendNew h.nodup_nodes
    mem_nodes := fun name => by
      rw [keysOf_putNode, mem_appendNew, h.mem_nodes]
      exact or_iff_left (by simp) }

/-- Edges with one more reference, and the rest of the graph as it has to be for that. -/
private theorem putReference (h : graph.Holds references) {next : UsageGraph}
    (reference : UsageReference)
    (hedges : next.edges =
      putReference reference.source reference.target reference.kind graph.edges)
    (hnodup : (keysOf next.nodes).Nodup)
    (hnodes : ∀ name, .name name ∈ keysOf next.nodes ↔
      .name name ∈ keysOf graph.nodes ∨ reference.target = .name name)
    (htriggers : ∀ id, id ∈ next.triggerIds ↔
      id ∈ graph.triggerIds ∨ reference.target = .entity .trigger id)
    (hnames : ∀ name, name ∈ next.placeholderNames ↔
      name ∈ graph.placeholderNames ∨ reference.target = .name name) :
    next.Holds (references ++ [reference]) where
  nodup_nodes := hnodup
  mem_nodes name := by rw [hnodes, h.mem_nodes, exists_target_append]
  nodup_ends := by
    rw [hedges, endsOf_putReference]
    exact nodup_appendNew h.nodup_ends
  nodup_kinds := by
    rw [hedges]
    exact forall_kinds_putReference (List.nodup_singleton _)
      (fun _ hk => nodup_appendNew hk) h.nodup_kinds
  kinds_ne_nil := by
    rw [hedges]
    refine forall_kinds_putReference (p := (· ≠ [])) (List.cons_ne_nil _ _) (fun kinds _ => ?_)
      h.kinds_ne_nil
    exact List.ne_nil_of_mem (mem_appendNew.mpr (Or.inr rfl))
  carries other := by
    rw [hedges, carries_putReference_iff, h.carries, List.mem_append, List.mem_singleton]
  mem_triggerIds id := by rw [htriggers, h.mem_triggerIds, exists_target_append]
  mem_placeholderNames name := by rw [hnames, h.mem_placeholderNames, exists_target_append]

/-- A placeholder adds its reference. -/
theorem addName (h : graph.Holds references) (source : UsageNode) (name : String) :
    (addName source graph name).Holds
      (references ++ [⟨source, .name name, .placeholder⟩]) := by
  refine h.putReference _ rfl ?_ (fun other => ?_) (fun id => ?_) fun other => ?_
  · rw [UsageGraph.addName, keysOf_putNode]
    exact nodup_appendNew h.nodup_nodes
  · rw [UsageGraph.addName, keysOf_putNode, mem_appendNew, @eq_comm _ (UsageNode.name name)]
  · exact (or_iff_left (by simp)).symm
  · simp only [UsageGraph.addName, List.mem_append, List.mem_singleton, UsageNode.name.injEq,
      @eq_comm _ name]

/-- A reference to a trigger is added. -/
theorem addTriggerReference (h : graph.Holds references)
    (reference : UsageNode × ReferenceKind × String) :
    (addTriggerReference graph reference).Holds
      (references ++ [⟨reference.1, .entity .trigger reference.2.2, reference.2.1⟩]) := by
  obtain ⟨source, kind, id⟩ := reference
  have hkeys : keysOf (UsageGraph.addTriggerReference graph (source, kind, id)).nodes =
      appendNew (.entity .trigger id) (keysOf graph.nodes) := by
    simp only [UsageGraph.addTriggerReference, appendNew, ← hasNode_iff]
    split
    · rfl
    · exact List.map_append
  refine h.putReference _ rfl ?_ (fun name => ?_) (fun other => ?_) fun name => ?_
  · rw [hkeys]
    exact nodup_appendNew h.nodup_nodes
  · rw [hkeys, mem_appendNew]
    simp
  · simp only [UsageGraph.addTriggerReference, List.mem_append, List.mem_singleton,
      UsageNode.entity.injEq, true_and, @eq_comm _ id]
  · exact (or_iff_left (by simp)).symm

/-- Steps that each add references add all of them in turn. -/
theorem foldl {α : Type} {step : UsageGraph → α → UsageGraph} {added : α → List UsageReference}
    (hstep : ∀ {graph references} (x : α), Holds graph references →
      Holds (step graph x) (references ++ added x))
    (h : graph.Holds references) (xs : List α) :
    Holds (xs.foldl step graph) (references ++ xs.flatMap added) := by
  induction xs generalizing graph references with
  | nil => simpa using h
  | cons x xs ih =>
    rw [List.foldl_cons, List.flatMap_cons, ← List.append_assoc]
    exact ih (hstep x h)

end Holds

/-- The references of an entity by its placeholders. -/
def placeholderReferences (depth : Nat) (kind : EntityKind) (entity : String × String × Json) :
    List UsageReference :=
  (namesIn depth entity.2.2).map fun name => ⟨.entity kind entity.1, .name name, .placeholder⟩

/-- The references of a container: placeholders by kinds of entities, then triggers. -/
def referencesOf (container : Container) (depth : Nat) : List UsageReference :=
  searchOrder.flatMap (fun kind =>
    (entitiesOf container kind).flatMap (placeholderReferences depth kind)) ++
  (tagReferences container ++ groupReferences container).map fun reference =>
    ⟨reference.1, .entity .trigger reference.2.2, reference.2.1⟩

/-- An entity adds the references of its placeholders. -/
theorem Holds.addEntity {graph : UsageGraph} {references : List UsageReference}
    (h : graph.Holds references) (depth : Nat) (kind : EntityKind)
    (entity : String × String × Json) :
    (addEntity depth kind graph entity).Holds
      (references ++ placeholderReferences depth kind entity) := by
  have hnames := (h.putEntity kind entity.1 (some entity.2.1)).foldl
    (fun name hg => hg.addName (.entity kind entity.1) name) (namesIn depth entity.2.2)
  rwa [← List.map_eq_flatMap] at hnames

/-- The graph of a container holds its references. -/
theorem holds_ofContainer (container : Container) (depth : Nat) :
    (ofContainer container depth).Holds (referencesOf container depth) := by
  have hnamed := Holds.empty.foldl
    (fun kind hg => hg.foldl (fun entity he => he.addEntity depth kind entity)
      (entitiesOf container kind)) searchOrder
  have htriggers := hnamed.foldl (fun reference hg => hg.addTriggerReference reference)
    (tagReferences container ++ groupReferences container)
  rwa [List.nil_append, ← List.map_eq_flatMap] at htriggers

end UsageGraph

end TagAudit
