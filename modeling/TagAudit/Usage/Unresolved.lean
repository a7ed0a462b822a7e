import TagAudit.Taxonomy.Builtin
import TagAudit.Usage.Graph

/-!
# Unresolved references

Placeholders for names that no variable, built-in variable or internal name stands for. Each
entity with such a placeholder has an issue.
-/

namespace TagAudit.UsageGraph

/-- Does a name stand for a variable, a built-in one or something internal? -/
def isResolved (container : Container) (name : String) : Bool :=
  (container.userVariables.map (·.name)).contains name || name.beginsWith "_" ||
    Builtin.isVariableName name container.builtinNames

/-- The name of the last entity of a kind with an identifier. -/
def entityName (container : Container) (kind : EntityKind) (id : String) : String :=
  ((container.entities kind).reverse.lookup id).getD ""

/-- The names that have nodes of their own. -/
def nodeNames (graph : UsageGraph) : List String :=
  graph.nodes.filterMap fun (node, _) =>
    match node with
    | .name name => some name
    | .entity .. => none

/-- The issue of an entity with an unresolved placeholder. -/
def unresolvedIssue (container : Container) (reference : String) (kind : EntityKind)
    (id : String) : Issue where
  kind := kind
  entityId := id
  entityName := entityName container kind id
  category := .unresolvedReference
  severity := .minor
  reason := "References \x7b\x7b" ++ reference ++
    "\x7d\x7d, which matches no variable in the container"
  suggestion := "Create the variable, enable the built-in, or fix the reference name"
  facts := [("reference", .string reference)]

/-- The issues of all unresolved placeholders, by name. -/
def unresolvedIssues (container : Container) (graph : UsageGraph) : List Issue :=
  ((graph.nodeNames.mergeSort fun a b => a ≤ b).filter (!isResolved container ·)).flatMap
    fun reference => (graph.referrers reference).map fun (kind, id) =>
      unresolvedIssue container reference kind id

end TagAudit.UsageGraph
