import NodeFlow.Graph.Grouping

/-!
# Presets

The graphs that come with the program: the dot product of two vectors, and a small calculation.
-/

namespace NodeFlow

/-- A graph that comes with the program. -/
structure Preset where
  id : String
  name : String
  description : String
  /-- Adds the nodes, values, edges and groups to an empty graph. -/
  build : Edit Workspace Unit

namespace Preset

/-- Creates a node at a place given in whole numbers and returns its id. -/
def node (kind : String) (x y : Int) : Edit Workspace String := do
  return (← Workspace.createNode kind (.int x) (.int y)).id

/-- Joins two ports of two nodes. -/
def link (source sourcePort target targetPort : String) : Edit Workspace Unit := do
  discard <| Workspace.connect (Ref.make source sourcePort) (Ref.make target targetPort)

/-- Writes the components of a vector node. -/
def setVector (id : String) (x y z : Int) : Edit Workspace Unit := do
  Workspace.setValue id "x" (.int x)
  Workspace.setValue id "y" (.int y)
  Workspace.setValue id "z" (.int z)

/-- Two vectors, their dot product and its printing, in one group. -/
def vectorDemo : Preset where
  id := "vector-demo"
  name := "Vector Demo"
  description := "Dot product of two vectors, printed after the run."
  build := do
    let start ← node "start" 80 60
    let left ← node "vec3" 280 40
    let right ← node "vec3" 280 140
    let dot ← node "dot" 520 90
    let print ← node "print" 740 90
    setVector left 1 2 3
    setVector right 4 5 6
    link start execOutName dot execInName
    link left "v" dot "a"
    link right "v" dot "b"
    link dot "out" print "in"
    link dot execOutName print execInName
    let keys := [start, left, right, dot, print].map NodeKey.text
    discard <| Workspace.groupNodes keys "Vector Demo"

/-- A sum, a product and its printing. -/
def arithmeticDemo : Preset where
  id := "arithmetic-demo"
  name := "Arithmetic Demo"
  description := "(2 + 3) * 4, printed after the run."
  build := do
    let start ← node "start" 80 60
    let add ← node "add" 280 60
    let mul ← node "mul" 500 60
    let print ← node "print" 720 60
    Workspace.setValue add "a" (.int 2)
    Workspace.setValue add "b" (.int 3)
    Workspace.setValue mul "b" (.int 4)
    link start execOutName add execInName
    link add execOutName mul execInName
    link mul execOutName print execInName
    link add "out" mul "a"
    link mul "out" print "in"

/-- All presets, in the order in which they are offered. -/
def all : List Preset := [vectorDemo, arithmeticDemo]

/-- The preset of an id. -/
def find? (id : String) : Option Preset :=
  all.find? (·.id == id)

end Preset

/-- Replaces the graph by a preset. -/
def Workspace.openPreset (id : String) : Edit Workspace Unit :=
  match Preset.find? id with
  | some preset => replacing preset.build
  | none => throw (.unknownPreset id)

end NodeFlow
