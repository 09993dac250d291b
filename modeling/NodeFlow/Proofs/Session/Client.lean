import NodeFlow.Proofs.Session.Basic
import NodeFlow.Snapshot.Import

/-!
# Sessions of client code

Client code does what an editor does, and more: it generates identifiers, adds nodes and edges that
it built itself, unchecked and under ids of its own choice, and restores snapshots. Here every
action is an edit of the workspace.
-/

namespace NodeFlow

/-- What client code can do with a workspace. -/
inductive ClientAction where
  | editor (action : EditorAction)
  /-- Generates an identifier. -/
  | issue (label : String)
  /-- Adds a node, whoever made it. -/
  | addNode (node : Node)
  /-- Adds a node under the given id, or under a fresh one. -/
  | newNode (id : Option String) (node : Node)
  | addEdge (edge : Edge)
  | newEdge (id : Option String) (source target : Endpoint) (isExec : Bool)
  | restore (snapshot : Value)
  | load (text : String)

/-- The edit that an action performs, when the given nodes have been created. -/
def EditorAction.edit (created : List Node) : EditorAction → Edit Workspace Unit
  | .create kind x y => discard <| Workspace.naming (Node.create kind x y)
  | .createShape kind x y => discard <| Workspace.naming (Node.createShape kind x y)
  | .add turn x y data =>
    match created[turn]? with
    | some node => Workspace.addNode { node with x, y, data }
    | none => pure ()
  | .connect source target => discard <| Workspace.connect source target
  | .disconnect edge => Workspace.disconnect edge
  | .removeNode id => Workspace.removeNode id
  | .removeNodes ids => Workspace.removeNodes ids
  | .clear => Workspace.clear
  | .moveNode id x y => Workspace.moveNode id x y
  | .setValue id name value => Workspace.setValue id name value
  | .writeData id write => Workspace.change (·.changeData id write)
  | .groupNodes keys label => discard <| Workspace.groupNodes keys label
  | .ungroup id => discard <| Workspace.ungroup id
  | .openPreset id => Workspace.openPreset id
  | .run registry maxSteps => Workspace.change (·.afterRun registry maxSteps)

/-- The edit that an action performs, when the given nodes have been created. -/
def ClientAction.edit (created : List Node) : ClientAction → Edit Workspace Unit
  | .editor action => action.edit created
  | .issue label => discard <| Workspace.naming (IdSource.fresh label)
  | .addNode node => Workspace.addNode node
  | .newNode id node => discard <| Workspace.newNode id node
  | .addEdge edge => Workspace.addEdge edge
  | .newEdge id source target isExec => discard <| Workspace.newEdge id source target isExec
  | .restore snapshot => Workspace.restore snapshot
  | .load text => Workspace.load text

theorem Edit.stateAfter_discard {ε σ α : Type} (edit : EStateM ε σ α) (before : σ) :
    stateAfter (discard edit : EStateM ε σ Unit) before = stateAfter edit before := by
  simp only [stateAfter, discard, Functor.discard, Functor.mapConst, EStateM.map, Function.comp]
  cases edit before <;> rfl

namespace Session

/-- Does one action. -/
def act (session : Session) (action : ClientAction) : Session where
  workspace := Edit.stateAfter (action.edit session.created) session.workspace
  created :=
    match action with
    | .editor action => (session.step action).created
    | _ => session.created

/-- The session after some actions of client code. -/
def reached (ids : IdSource) (actions : List ClientAction) : Session :=
  actions.foldl act (start ids)

theorem workspace_create (operation : Edit IdSource Node) (session : Session) :
    (session.create operation).workspace =
      Edit.stateAfter (Workspace.naming operation) session.workspace := by
  unfold create Edit.stateAfter
  cases Workspace.naming operation session.workspace <;> rfl

/-- An editor's action is the edit that it performs. -/
theorem workspace_step (session : Session) (action : EditorAction) :
    (session.step action).workspace =
      Edit.stateAfter (action.edit session.created) session.workspace := by
  cases action with
  | create | createShape =>
    rw [EditorAction.edit, Edit.stateAfter_discard]
    exact workspace_create _ session
  | add turn x y data =>
    simp only [step, add, EditorAction.edit]
    cases session.created[turn]? <;> rfl
  | connect | groupNodes | ungroup =>
    rw [EditorAction.edit, Edit.stateAfter_discard]
    rfl
  | _ => rfl

/-- To client code, an editor's action is what it is to an editor. -/
theorem act_editor (session : Session) (action : EditorAction) :
    session.act (.editor action) = session.step action := by
  have same := workspace_step session action
  unfold act ClientAction.edit
  rw [← same]

end Session

end NodeFlow
