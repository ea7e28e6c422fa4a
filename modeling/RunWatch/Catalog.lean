import RunWatch.Json.Basic
import RunWatch.Table
import RunWatch.Text.Blank

/-!
# Node catalog

The kind of each node of the watched workflow. An event reports a kind for some nodes only, so the
catalog is asked first and the event second (`Catalog.resolve`).
-/

namespace RunWatch

open Text

/-- Kinds of nodes by node. -/
abbrev Catalog := Table String String

namespace Catalog

/-- The kind of a node in the catalog. -/
def kindOf (c : Catalog) (nodeId : String) : Option String := c.get? nodeId

/-- The kind of a node: that of the catalog, or else the reported one unless it is empty. -/
def resolve (c : Catalog) (nodeId : String) (reported : Option String) : Option String :=
  (c.kindOf nodeId).or (reported.bind full?)

/-- The identifier and kind of a node of a graph: the kind stands under `type`, or else under
`data.type`. -/
def graphNode? (node : Json) : Option (String × String) := do
  let id ← (node.get? "id").bind Json.toText?
  let own := (node.get? "type").bind Json.toText?
  let kind ← own.or ((node.at? ["data", "type"]).bind Json.toText?)
  return (id, kind)

/-- The catalog of the nodes of a graph; nodes without an identifier or a kind are left out. -/
def ofGraph (graph : Json) : Catalog :=
  .ofList ((((graph.get? "nodes").bind Json.toItems?).getD []).filterMap graphNode?)

/-- The catalog with the entries of another one put in. -/
def overriddenBy (c other : Catalog) : Catalog :=
  other.entries.foldl (fun t e => t.insert e.1 e.2) c

end Catalog

end RunWatch
