import NodeFlow.Value.Basic

/-!
# Nodes and ports

A node is a box of the editor with named ports and a mapping of data, which holds the defaults of
its inputs and the results of its last evaluation. A group is a node that lists its members.
-/

namespace NodeFlow

/-- The sides on which ports stand. -/
inductive Direction where
  | input
  | output
  deriving DecidableEq, Repr

/-- The tag of a side. -/
def Direction.tag : Direction → String
  | input => "in"
  | output => "out"

/-- The types that ports carry. -/
inductive PortType where
  | number
  | boolean
  | string
  | color
  | object
  | vector3
  | any
  | exec
  deriving DecidableEq, Repr

/-- The tag of a type. -/
def PortType.tag : PortType → String
  | number => "number"
  | boolean => "boolean"
  | string => "string"
  | color => "color"
  | object => "object"
  | vector3 => "vector3"
  | any => "any"
  | exec => "exec"

/-- A port. Its owner, type and direction are kept as a snapshot gives them; only the tags of
`PortType` and `Direction` have a meaning. -/
structure Port where
  id : String
  owner : Value
  name : String
  type : Value
  direction : Value
  isExec : Bool

namespace Port

/-- Whether the port stands on the side with the given tag. -/
def faces (tag : String) (port : Port) : Bool :=
  port.direction.isText tag

/-- Whether the port is a data port on the given side. -/
def isData (side : Direction) (port : Port) : Bool :=
  port.faces side.tag && !port.isExec

end Port

/-- A node. -/
structure Node where
  id : String
  x : Binary64
  y : Binary64
  w : Binary64
  h : Binary64
  r : Binary64
  kind : String
  label : String
  fill : String
  stroke : String
  ports : List Port
  data : Fields
  isGroup : Bool
  members : List String

namespace Node

/-- A coordinate that is a whole number of at most a few digits. -/
def coordinate (n : Int) : Binary64 :=
  (Binary64.ofInt? n).getD .nan

/-- A node with nothing but an id. -/
def blank (id : String) : Node where
  id := id
  x := coordinate 0
  y := coordinate 0
  w := coordinate 160
  h := coordinate 70
  r := coordinate 8
  kind := "rect"
  label := "Node"
  fill := "#1e2636"
  stroke := "#2f3a52"
  ports := []
  data := []
  isGroup := false
  members := []

/-- The first port of a name, on the side with the given tag if one is given. -/
def port? (name : String) (side : Option String) (node : Node) : Option Port :=
  node.ports.find? fun port => port.name == name && side.all fun tag => port.faces tag

/-- The data ports on one side. -/
def dataPorts (side : Direction) (node : Node) : List Port :=
  node.ports.filter (·.isData side)

/-- The node with its data replaced. -/
def withData (data : Fields) (node : Node) : Node :=
  { node with data }

end Node

end NodeFlow
