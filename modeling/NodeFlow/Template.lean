import NodeFlow.Ident
import NodeFlow.Node.Basic
import NodeFlow.Value.Coerce

/-!
# Node templates

The kinds of nodes that can be created, with their ports and default data, and the creation of a
node from its template or of a plain shape. Ids are generated for the node first and then for its
ports in order: exec input, exec output, data inputs, data outputs.
-/

namespace NodeFlow

/-- A port to be created. -/
structure PortPlan where
  name : String
  type : PortType
  side : Direction
  isExec : Bool
  deriving DecidableEq, Repr

/-- The kind of a node to be created. -/
structure Template where
  kind : String
  title : String
  description : String
  execIn : Bool
  execOut : Bool
  inputs : List (String × PortType)
  outputs : List (String × PortType)
  defaults : Fields

/-- The names of the ports that carry control. -/
def execInName : String := "execIn"
def execOutName : String := "execOut"

namespace PortPlan

/-- A data port. -/
def data (side : Direction) (port : String × PortType) : PortPlan :=
  ⟨port.1, port.2, side, false⟩

/-- Creates the port for a node. -/
def create (node : String) (plan : PortPlan) : Edit IdSource Port := do
  let id ← IdSource.fresh "p"
  return ⟨id, .text node, plan.name, .text plan.type.tag, .text plan.side.tag, plan.isExec⟩

end PortPlan

namespace Template

/-- The ports of a node of this kind, in the order of their creation. -/
def ports (template : Template) : List PortPlan :=
  (if template.execIn then [⟨execInName, .exec, .input, true⟩] else [])
    ++ (if template.execOut then [⟨execOutName, .exec, .output, true⟩] else [])
    ++ template.inputs.map (PortPlan.data .input)
    ++ template.outputs.map (PortPlan.data .output)

/-- Every run begins at the nodes of this kind. -/
def start : Template where
  kind := "start"
  title := "Start"
  description := "Traversal root; every run begins at each start node."
  execIn := false
  execOut := true
  inputs := []
  outputs := []
  defaults := []

/-- The sum of two numbers. -/
def add : Template where
  kind := "add"
  title := "Add"
  description := "Adds two numbers."
  execIn := true
  execOut := true
  inputs := [("a", .number), ("b", .number)]
  outputs := [("out", .number)]
  defaults := [("a", .int 1), ("b", .int 1)]

/-- The product of two numbers. -/
def mul : Template where
  kind := "mul"
  title := "Multiply"
  description := "Multiplies two numbers."
  execIn := true
  execOut := true
  inputs := [("a", .number), ("b", .number)]
  outputs := [("out", .number)]
  defaults := [("a", .int 1), ("b", .int 1)]

/-- A vector from three numbers. -/
def vec3 : Template where
  kind := "vec3"
  title := "Vec3"
  description := "Builds a 3-component vector."
  execIn := false
  execOut := false
  inputs := [("x", .number), ("y", .number), ("z", .number)]
  outputs := [("v", .vector3)]
  defaults :=
    [("x", .int 0), ("y", .int 0), ("z", .int 0),
     ("v", .dict [("x", .int 0), ("y", .int 0), ("z", .int 0)])]

/-- A number. -/
def number : Template where
  kind := "number"
  title := "Number"
  description := "Exposes a stored number, or its connected input."
  execIn := false
  execOut := false
  inputs := [("num", .number)]
  outputs := [("v", .number)]
  defaults := [("num", .int 0), ("v", .int 0)]

/-- The dot product of two vectors. -/
def dot : Template where
  kind := "dot"
  title := "Dot"
  description := "Dot product of two vectors."
  execIn := true
  execOut := true
  inputs := [("a", .vector3), ("b", .vector3)]
  outputs := [("out", .number)]
  defaults := []

/-- The length of a vector. -/
def length : Template where
  kind := "length"
  title := "Length"
  description := "Euclidean length of a vector."
  execIn := false
  execOut := false
  inputs := [("a", .vector3)]
  outputs := [("out", .number)]
  defaults := []

/-- A line of the run's log. -/
def print : Template where
  kind := "print"
  title := "Print"
  description := "Writes its input to the run log."
  execIn := true
  execOut := false
  inputs := [("in", .any)]
  outputs := []
  defaults := []

/-- All templates, in the order in which they are offered. -/
def all : List Template := [start, add, mul, vec3, number, dot, length, print]

/-- The template of a kind. -/
def find? (kind : String) : Option Template :=
  all.find? (·.kind == kind)

/-- Creates a node. The coordinates are read before any id is generated. -/
def instantiate (template : Template) (x y : Value) : Edit IdSource Node := do
  let x ← Edit.convert x.toFloat
  let y ← Edit.convert y.toFloat
  let id ← IdSource.fresh "node"
  let ports ← template.ports.mapM (PortPlan.create id)
  return { Node.blank id with
    x, y, w := Node.coordinate 170, h := Node.coordinate 100
    kind := template.kind, label := template.kind, ports, data := template.defaults }

end Template

/-- The kinds of plain shapes. -/
def shapeKinds : List String := ["rect", "roundRect", "ellipse", "circle"]

/-- The ports of a plain shape. -/
def shapePorts : List PortPlan := [.data .input ("in", .number), .data .output ("out", .number)]

namespace Node

/-- Creates a node of a kind that has a template. -/
def create (kind : String) (x y : Value) : Edit IdSource Node :=
  match Template.find? kind with
  | some template => template.instantiate x y
  | none => throw (.unknownKind kind)

/-- Creates a plain shape. -/
def createShape (kind : String) (x y : Value) : Edit IdSource Node := do
  unless shapeKinds.contains kind do throw (.unknownKind kind)
  let x ← Edit.convert x.toFloat
  let y ← Edit.convert y.toFloat
  let id ← IdSource.fresh "node"
  let ports ← shapePorts.mapM (PortPlan.create id)
  return { Node.blank id with
    x, y, w := Node.coordinate 160, h := Node.coordinate 80, kind, label := kind, ports }

end Node

end NodeFlow
