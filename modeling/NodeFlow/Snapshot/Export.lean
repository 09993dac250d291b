import NodeFlow.Graph.Basic
import NodeFlow.Json.Style

/-!
# Writing snapshots

A snapshot is a mapping with the version, the nodes and the edges of a graph. Nodes and ports are
written with all their fields; the points of edges that are being dragged become binary64.
-/

namespace NodeFlow

/-- The version that snapshots carry. -/
def snapshotVersion : Int := 1

namespace Port

/-- The record of a port. -/
def toValue (port : Port) : Value :=
  .dict
    [("id", .text port.id), ("node_id", port.owner), ("name", .text port.name),
     ("type", port.type), ("direction", port.direction), ("is_exec", .bool port.isExec)]

end Port

namespace Node

/-- The record of a node. -/
def toValue (node : Node) : Value :=
  .dict
    [("id", .text node.id), ("x", .float node.x), ("y", .float node.y), ("w", .float node.w),
     ("h", .float node.h), ("r", .float node.r), ("kind", .text node.kind),
     ("label", .text node.label), ("fill", .text node.fill), ("stroke", .text node.stroke),
     ("ports", .list (node.ports.map Port.toValue)), ("data", .dict node.data),
     ("is_group", .bool node.isGroup), ("members", .list (node.members.map Value.text))]

end Node

namespace Endpoint

/-- The record of an end. -/
def toValue : Endpoint → Value
  | .ref text => .text text
  | .point x y => .list [x, y]

end Endpoint

namespace Edge

/-- The record of an edge. -/
def toValue (edge : Edge) : Value :=
  .dict
    [("id", .text edge.id), ("source", edge.source.toValue), ("target", edge.target.toValue),
     ("is_exec", .bool edge.isExec)]

end Edge

namespace Graph

/-- The graph with the points of its edges as binary64 coordinates. -/
def settled (graph : Graph) : Except ConversionError Graph :=
  (graph.edges.mapM Edge.settled).map graph.withEdges

/-- The snapshot of a graph. -/
def toValue (graph : Graph) : Value :=
  .dict
    [("version", .int snapshotVersion), ("nodes", .list (graph.nodes.map Node.toValue)),
     ("edges", .list (graph.edges.map Edge.toValue))]

/-- The text of a graph's snapshot. -/
def dump (graph : Graph) : Except ConversionError String := do
  Json.print (← graph.settled).toValue

end Graph

end NodeFlow
