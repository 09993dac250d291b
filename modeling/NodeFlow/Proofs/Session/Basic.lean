import NodeFlow.Preset
import NodeFlow.Proofs.Run.Walk

/-!
# Editor sessions

A session is a list of actions on a workspace, in any order. Nodes are created first and added
later, once or several times; nothing of a node that was created is lost when it is removed. An
action that fails keeps what it changed before it failed.
-/

namespace NodeFlow

/-- What a session holds: the workspace, and the nodes that were created, added or not. -/
structure Session where
  workspace : Workspace
  created : List Node

/-- What can be done in a session. -/
inductive EditorAction where
  | create (kind : String) (x y : Value)
  | createShape (kind : String) (x y : Value)
  /-- Adds the node that was created in the given turn. Its place and its data may have been written
  since then. -/
  | add (turn : Nat) (x y : Binary64) (data : Fields)
  | connect (source target : String)
  | disconnect (edge : String)
  | removeNode (id : String)
  | removeNodes (ids : List String)
  | clear
  | moveNode (id : String) (x y : Value)
  | setValue (id name : String) (value : Value)
  /-- Writes the data of a node directly. -/
  | writeData (id : String) (change : Fields → Fields)
  | groupNodes (keys : List NodeKey) (label : String)
  | ungroup (id : String)
  | openPreset (id : String)
  | run (registry : Registry) (maxSteps : Int)

/-- The graph that a run leaves behind, also if it fails. -/
def Graph.afterRun (registry : Registry) (maxSteps : Int) (graph : Graph) : Graph :=
  match graph.run registry maxSteps with
  | .ok _ progress | .error _ progress => progress.graph

/-- A run changes nothing but data. -/
theorem Graph.sameShape_afterRun (registry : Registry) (maxSteps : Int) (graph : Graph) :
    (graph.afterRun registry maxSteps).SameShape graph := by
  have kept := Run.keepsShape_walkRoots registry maxSteps graph maxSteps.toNat graph.roots
    (Run.begin graph) (SameShape.refl graph)
  unfold afterRun run
  unfold Edit.Ends at kept
  split at kept <;> rename_i outcome <;> rw [outcome] <;> exact kept

namespace Session

/-- A session in which nothing was done yet. -/
def start (ids : IdSource) : Session := ⟨⟨.empty, ids⟩, []⟩

/-- Edits the workspace. -/
def perform {α : Type} (edit : Edit Workspace α) (session : Session) : Session :=
  { session with workspace := Edit.stateAfter edit session.workspace }

/-- Creates a node and does not add it yet. -/
def create (operation : Edit IdSource Node) (session : Session) : Session :=
  match Workspace.naming operation session.workspace with
  | .ok node workspace => ⟨workspace, session.created ++ [node]⟩
  | .error _ workspace => { session with workspace }

/-- Adds the node of a turn. -/
def add (turn : Nat) (x y : Binary64) (data : Fields) (session : Session) : Session :=
  match session.created[turn]? with
  | some node => session.perform (Workspace.addNode { node with x, y, data })
  | none => session

/-- Does one action. -/
def step (session : Session) : EditorAction → Session
  | .create kind x y => session.create (Node.create kind x y)
  | .createShape kind x y => session.create (Node.createShape kind x y)
  | .add turn x y data => session.add turn x y data
  | .connect source target => session.perform (Workspace.connect source target)
  | .disconnect edge => session.perform (Workspace.disconnect edge)
  | .removeNode id => session.perform (Workspace.removeNode id)
  | .removeNodes ids => session.perform (Workspace.removeNodes ids)
  | .clear => session.perform Workspace.clear
  | .moveNode id x y => session.perform (Workspace.moveNode id x y)
  | .setValue id name value => session.perform (Workspace.setValue id name value)
  | .writeData id change => session.perform (Workspace.change (·.changeData id change))
  | .groupNodes keys label => session.perform (Workspace.groupNodes keys label)
  | .ungroup id => session.perform (Workspace.ungroup id)
  | .openPreset id => session.perform (Workspace.openPreset id)
  | .run registry maxSteps => session.perform (Workspace.change (·.afterRun registry maxSteps))

/-- To add a node creates none. -/
theorem created_add (session : Session) (turn : Nat) (x y : Binary64) (data : Fields) :
    (session.add turn x y data).created = session.created := by
  unfold add
  cases session.created[turn]? <;> rfl

/-- The session after some actions. -/
def after (ids : IdSource) (actions : List EditorAction) : Session :=
  actions.foldl step (start ids)

end Session

end NodeFlow
