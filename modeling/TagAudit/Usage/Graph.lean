import TagAudit.Container.Basic
import TagAudit.Usage.Placeholder

/-!
# Usage graph

Who refers to what in a container: entities refer to names by placeholders, tags to the triggers
that fire or block them, and trigger groups to their members. Nodes and edges keep the order in
which they first arise; an entity that is met again takes its later name in the same place.
-/

namespace TagAudit

/-- What can be referred to, or can refer. -/
inductive UsageNode
  | entity (kind : EntityKind) (id : String)
  | name (name : String)
  deriving DecidableEq, Repr

/-- The text that identifies a node. -/
def UsageNode.key : UsageNode → String
  | .entity kind id => s!"{kind.name}:{id}"
  | .name text => s!"name:{text}"

/-- How one node refers to another. -/
inductive ReferenceKind
  | placeholder
  | firing
  | blocking
  | group
  deriving DecidableEq, Repr

/-- The name of a kind of reference. -/
def ReferenceKind.label : ReferenceKind → String
  | placeholder => "placeholder"
  | firing => "firing"
  | blocking => "blocking"
  | group => "group"

/-- All the ways in which one node refers to another. -/
structure UsageEdge where
  source : UsageNode
  target : UsageNode
  kinds : List ReferenceKind
  deriving DecidableEq, Repr

/-- The references of a container. -/
structure UsageGraph where
  /-- The nodes, with the names of those that are known by more than an identifier. -/
  nodes : List (UsageNode × Option String) := []
  edges : List UsageEdge := []
  /-- The trigger identifiers that tags and trigger groups refer to. -/
  triggerIds : List String := []
  /-- The names that placeholders refer to. -/
  placeholderNames : List String := []
  deriving DecidableEq, Repr, Inhabited

namespace UsageGraph

/-- Is the node in the graph? -/
def hasNode (graph : UsageGraph) (node : UsageNode) : Bool := (graph.nodes.lookup node).isSome

/-- The nodes with one more; a present node keeps its place and takes the new name. -/
def putNode (node : UsageNode) (name : Option String) :
    List (UsageNode × Option String) → List (UsageNode × Option String)
  | [] => [(node, name)]
  | (other, known) :: rest =>
    if other = node then (other, name) :: rest else (other, known) :: putNode node name rest

/-- The edges with one more reference, which joins the edge between its nodes if there is one. -/
def putReference (source target : UsageNode) (kind : ReferenceKind) :
    List UsageEdge → List UsageEdge
  | [] => [⟨source, target, [kind]⟩]
  | edge :: rest =>
    if edge.source = source ∧ edge.target = target then
      (if kind ∈ edge.kinds then edge
        else ⟨edge.source, edge.target, edge.kinds ++ [kind]⟩) :: rest
    else edge :: putReference source target kind rest

/-- The placeholder names of an exported object, in order, each once. -/
def namesIn (depth : Nat) (raw : Json) : List String :=
  Placeholder.sortedOnce (Placeholder.collect depth raw)

/-- The graph after a reference of an entity to a name. -/
def addName (source : UsageNode) (graph : UsageGraph) (name : String) : UsageGraph where
  nodes := putNode (.name name) (some name) graph.nodes
  edges := putReference source (.name name) .placeholder graph.edges
  triggerIds := graph.triggerIds
  placeholderNames := graph.placeholderNames ++ [name]

/-- The graph after an entity and all its placeholders. -/
def addEntity (depth : Nat) (kind : EntityKind) (graph : UsageGraph)
    (entity : String × String × Json) : UsageGraph :=
  let (id, name, raw) := entity
  let node := UsageNode.entity kind id
  let withNode : UsageGraph :=
    ⟨putNode node (some name) graph.nodes, graph.edges, graph.triggerIds, graph.placeholderNames⟩
  (namesIn depth raw).foldl (addName node) withNode

/-- The graph after a reference to a trigger. -/
def addTriggerReference (graph : UsageGraph) (reference : UsageNode × ReferenceKind × String) :
    UsageGraph :=
  let (source, kind, id) := reference
  let target := UsageNode.entity .trigger id
  ⟨if graph.hasNode target then graph.nodes else graph.nodes ++ [(target, none)],
    putReference source target kind graph.edges, graph.triggerIds ++ [id],
    graph.placeholderNames⟩

/-- The references of tags to triggers. -/
def tagReferences (container : Container) : List (UsageNode × ReferenceKind × String) :=
  container.tags.flatMap fun tag =>
    tag.firingTriggerIds.map (fun id => (.entity .tag tag.id, .firing, id)) ++
      tag.blockingTriggerIds.map fun id => (.entity .tag tag.id, .blocking, id)

/-- The references of trigger groups to their members. -/
def groupReferences (container : Container) : List (UsageNode × ReferenceKind × String) :=
  container.triggers.flatMap fun trigger =>
    trigger.memberIds.map fun id => (.entity .trigger trigger.id, .group, id)

/-- The entities of a kind with their names and exported objects. -/
def entitiesOf (container : Container) : EntityKind → List (String × String × Json)
  | .tag => container.tags.map fun tag => (tag.id, tag.name, tag.raw)
  | .trigger => container.triggers.map fun trigger => (trigger.id, trigger.name, trigger.raw)
  | .variable => container.userVariables.map fun v => (v.id, v.name, v.raw)

/-- The kinds of entities in the order in which they are searched. -/
def searchOrder : List EntityKind := [.tag, .trigger, .variable]

/-- The usage graph of a container, with placeholders searched down to `depth`. -/
def ofContainer (container : Container) (depth : Nat) : UsageGraph :=
  let named : UsageGraph := searchOrder.foldl
    (fun graph kind => (entitiesOf container kind).foldl (addEntity depth kind) graph) {}
  (tagReferences container ++ groupReferences container).foldl addTriggerReference named

/-- The trigger identifiers that are referred to, each once. -/
def referencedTriggerIds (graph : UsageGraph) : List String := graph.triggerIds.eraseDups

/-- The names that count as used: those in placeholders and the referenced trigger identifiers. -/
def referencedNames (graph : UsageGraph) : List String :=
  (graph.placeholderNames ++ graph.triggerIds).eraseDups

/-- The edges that lead to a node. -/
def edgesTo (graph : UsageGraph) (node : UsageNode) : List UsageEdge :=
  graph.edges.filter (·.target == node)

/-- The entities with a placeholder for a name. -/
def referrers (graph : UsageGraph) (name : String) : List (EntityKind × String) :=
  (graph.edgesTo (.name name)).filterMap fun edge =>
    match edge.source with
    | .entity kind id => some (kind, id)
    | .name _ => none

/-- The tags that refer to a trigger in a way given by name. -/
def tagsUsingTrigger (graph : UsageGraph) (id : String) (kind : String) : List String :=
  (graph.edgesTo (.entity .trigger id)).filterMap fun edge =>
    match edge.source with
    | .entity .tag tagId => if edge.kinds.any (·.label == kind) then some tagId else none
    | _ => none

/-- The edges grouped by their sources, in the order of the nodes. -/
def edgesBySource (graph : UsageGraph) : List UsageEdge :=
  graph.nodes.flatMap fun (node, _) => graph.edges.filter (·.source == node)

/-- What the log says about building the graph. -/
def buildLog (container : Container) (depth : Nat) : List LogRecord :=
  let debug (message : String) : LogRecord := ⟨.debug, "gtm_usage_graph", message⟩
  let skippedIn (kind : EntityKind) : List Nat :=
    (entitiesOf container kind).map fun (_, _, raw) => Placeholder.skipped depth raw
  let skipped := (searchOrder.flatMap skippedIn).foldl (· + ·) 0
  let graph := ofContainer container depth
  List.replicate skipped (debug s!"Stopped placeholder scan at depth {depth + 1}") ++
    [debug (s!"Usage graph: {graph.referencedNames.length} names, " ++
      s!"{graph.referencedTriggerIds.length} trigger ids, {graph.nodes.length} nodes")]

end UsageGraph

end TagAudit
