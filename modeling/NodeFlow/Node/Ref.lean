/-!
# Port references

A reference names a node and one of its ports, joined by a colon. The node's name ends at the
first colon; without one the port's name is empty. Main statement: a reference made from a node's
name without colons splits into the names it was made from.
-/

namespace NodeFlow.Ref

/-- The reference to a port of a node. -/
def make (node port : String) : String :=
  node ++ ":" ++ port

/-- The node that a reference names. -/
def node (ref : String) : String :=
  String.ofList (ref.toList.takeWhile (· != ':'))

/-- The port that a reference names. -/
def port (ref : String) : String :=
  String.ofList ((ref.toList.dropWhile (· != ':')).drop 1)

private theorem ne_colon {name : String} (h : ':' ∉ name.toList) :
    ∀ c ∈ name.toList, (c != ':') = true := by
  intro c member
  have : c ≠ ':' := fun same => h (same ▸ member)
  simpa using this

theorem node_make {name : String} (port : String) (h : ':' ∉ name.toList) :
    node (make name port) = name := by
  have shape : (make name port).toList = name.toList ++ ':' :: port.toList := by simp [make]
  rw [node, shape, List.takeWhile_append_of_pos (ne_colon h)]
  simp

theorem port_make {name : String} (port : String) (h : ':' ∉ name.toList) :
    Ref.port (make name port) = port := by
  have shape : (make name port).toList = name.toList ++ ':' :: port.toList := by simp [make]
  rw [Ref.port, shape, List.dropWhile_append_of_pos (ne_colon h)]
  simp

end NodeFlow.Ref
