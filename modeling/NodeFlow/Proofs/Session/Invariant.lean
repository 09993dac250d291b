import NodeFlow.Proofs.Adding
import NodeFlow.Proofs.Preset
import NodeFlow.Proofs.Session.Basic
import NodeFlow.Proofs.Session.Making

/-!
# The invariant of editor sessions

Whatever is done in a session, in any order, its graph stays well-formed. Every edit keeps the
graph sound; what an action does to a session follows from the edit that it performs.
-/

namespace NodeFlow

/-! ## Sound workspaces -/

/-- The graph is sound, the nodes of a list are among the made ones and no groups, and the counter
is not below a number. -/
def Workspace.Sound (created : List Node) (least : Nat) (workspace : Workspace) : Prop :=
  least ≤ workspace.ids.last ∧ ∃ made, (∀ node ∈ created, node ∈ made ∧ node.isGroup = false) ∧
    workspace.graph.Sound made workspace.ids.last

theorem Graph.Sound.afterRun {made : List Node} {last : Nat} {graph : Graph}
    (sound : graph.Sound made last) (registry : Registry) (maxSteps : Int) :
    (graph.afterRun registry maxSteps).Sound made last :=
  sound.sameShape (graph.sameShape_afterRun registry maxSteps)

namespace Workspace

variable {created : List Node} {least : Nat}

namespace Sound

variable {workspace : Workspace}

theorem advance (sound : workspace.Sound created least) {ids : IdSource}
    (forward : workspace.ids.last ≤ ids.last) :
    Workspace.Sound created least { workspace with ids } := by
  obtain ⟨bound, made, known, graphSound⟩ := sound
  exact ⟨Nat.le_trans bound forward, made, known, graphSound.advance forward⟩

theorem changed (sound : workspace.Sound created least) {graph : Graph}
    (keeps : ∀ made last, workspace.graph.Sound made last → graph.Sound made last) :
    Workspace.Sound created least { workspace with graph } := by
  obtain ⟨bound, made, known, graphSound⟩ := sound
  exact ⟨bound, made, known, keeps _ _ graphSound⟩

end Sound

/-! ## Edits -/

theorem keeps_change {edit : Graph → Graph}
    (keeps : ∀ graph made last, graph.Sound made last → (edit graph).Sound made last) :
    Edit.Keeps (Workspace.Sound created least) (change edit) := by
  intro workspace sound
  rw [ends_change]
  exact sound.changed (keeps workspace.graph)

/-- A node that redraws a made one can be added. -/
theorem ends_addRedrawn {workspace : Workspace} {made : List Node} {node origin : Node}
    (sound : workspace.graph.Sound made workspace.ids.last) (inMade : origin ∈ made)
    (redraws : node.Redraws origin) (plain : node.isGroup = false) :
    Edit.Ends (addNode node)
      (fun _ after => workspace.ids.last ≤ after.ids.last ∧ after.graph.Sound made after.ids.last)
      (fun after => workspace.ids.last ≤ after.ids.last ∧ after.graph.Sound made after.ids.last)
      workspace := by
  have genuine := redraws.genuine (sound.genuine origin inMade)
  apply ends_addNode
  · intro absent _ ids forward
    have added := (sound.advance forward).insertLast inMade redraws plain absent
    refine ⟨forward, ?_⟩
    simpa only [genuine.claimPorts_eq] using added
  · intro _ ids forward
    exact ⟨forward, sound.advance forward⟩

/-- What is created is added to the made nodes, also if it is not added to the graph. -/
theorem ends_creation {workspace : Workspace} {operation : Edit IdSource Node}
    (creates : IdSource.Creates operation) (sound : workspace.Sound created least) :
    Edit.Ends (naming operation)
      (fun node after => Workspace.Sound (created ++ [node]) least after)
      (Workspace.Sound created least) workspace := by
  rw [ends_naming]
  refine (creates workspace.ids).mono ?_ fun ids forward => sound.advance forward
  intro node ids new
  obtain ⟨bound, made, known, graphSound⟩ := sound
  refine ⟨Nat.le_trans bound new.forward, node :: made, ?_,
    graphSound.make new.made.genuine new.issued new.forward⟩
  intro other member
  rcases List.mem_append.1 member with old | fresh
  · exact ⟨List.mem_cons_of_mem _ (known other old).1, (known other old).2⟩
  · rw [List.mem_singleton.1 fresh]
    exact ⟨List.mem_cons_self, new.made.plain⟩

/-- A created node can be added, whatever became of its drawing and its data. -/
theorem keeps_addNode {node origin : Node} (wasCreated : origin ∈ created)
    (redraws : node.Redraws origin) :
    Edit.Keeps (Workspace.Sound created least) (addNode node) := by
  rintro workspace ⟨bound, made, known, sound⟩
  obtain ⟨inMade, plain⟩ := known origin wasCreated
  apply (ends_addRedrawn sound inMade redraws (redraws.isGroup.trans plain)).mono
  · rintro _ after ⟨forward, later⟩
    exact ⟨Nat.le_trans bound forward, made, known, later⟩
  · rintro after ⟨forward, later⟩
    exact ⟨Nat.le_trans bound forward, made, known, later⟩

theorem Sound.forget {workspace : Workspace} {node : Node}
    (sound : workspace.Sound (created ++ [node]) least) : workspace.Sound created least := by
  obtain ⟨bound, made, known, graphSound⟩ := sound
  exact ⟨bound, made, fun other member => known other (List.mem_append_left _ member), graphSound⟩

theorem keeps_createNode (kind : String) (x y : Value) :
    Edit.Keeps (Workspace.Sound created least) (createNode kind x y) := by
  intro workspace sound
  unfold createNode
  rw [Edit.ends_bind]
  refine (ends_creation (Node.creates_create kind x y) sound).mono ?_ fun _ failed => failed
  intro node during soundWithNode
  rw [Edit.ends_bind]
  have listed : node ∈ created ++ [node] := by simp
  refine (keeps_addNode listed (.refl node) during soundWithNode).mono ?_ fun _ later =>
    later.forget
  intro _ after later
  rw [Edit.ends_pure]
  exact later.forget

theorem keeps_connect (source target : String) :
    Edit.Keeps (Workspace.Sound created least) (connect source target) := by
  intro workspace sound
  refine ends_connect (fun _ => sound) (fun accepted _ => ?_) fun _ => sound.advance (Nat.le_succ _)
  obtain ⟨bound, made, known, graphSound⟩ := sound
  obtain ⟨sourcePort, targetPort, joins⟩ := graphSound.joins_of_accepted accepted
    (IdSource.generated "edge" (workspace.ids.last + 1))
  have forward := Nat.le_succ workspace.ids.last
  have issued := IdSource.Issued.single "edge" workspace.ids.last
  exact ⟨Nat.le_trans bound forward, made, known, graphSound.insertEdge issued forward joins⟩

theorem keeps_moveNode (id : String) (x y : Value) :
    Edit.Keeps (Workspace.Sound created least) (moveNode id x y) := by
  intro workspace sound
  unfold moveNode
  rw [Edit.ends_bind, ends_graphNow]
  split
  · have moves : Edit.Keeps (Workspace.Sound created least) (do
        let x ← Edit.convert x.toFloat
        let y ← Edit.convert y.toFloat
        change (·.place id x y)) :=
      (Edit.Keeps.convert _).bind fun x => (Edit.Keeps.convert _).bind fun y =>
        keeps_change fun _ _ _ graphSound => graphSound.place id x y
    exact moves workspace sound
  · exact sound

theorem keeps_setData (id name : String) (value : Value) :
    Edit.Keeps (Workspace.Sound created least) (setData id name value) :=
  keeps_change fun _ _ _ graphSound => graphSound.changeData id (Keyed.set name value)

theorem keeps_setValue (id name : String) (value : Value) :
    Edit.Keeps (Workspace.Sound created least) (setValue id name value) := by
  intro workspace sound
  unfold setValue
  rw [Edit.ends_bind, ends_graphNow]
  cases workspace.graph.node? id with
  | none => exact sound
  | some node =>
    refine (keeps_setData id name value).bind (fun _ => ?_) workspace sound
    refine (Edit.Keeps.convert _).bind fun output => ?_
    cases output with
    | none => exact .pure ()
    | some output => exact keeps_setData id "v" output

theorem keeps_groupNodes (keys : List NodeKey) (label : String) :
    Edit.Keeps (Workspace.Sound created least) (groupNodes keys label) := by
  intro workspace sound
  refine ends_groupNodes (fun _ _ => sound) (fun _ => sound) (fun first rest found _ => ?_)
    fun _ => sound.advance (Nat.le_succ _)
  obtain ⟨bound, made, known, graphSound⟩ := sound
  have forward := Nat.le_succ workspace.ids.last
  have issued := IdSource.Issued.single "node" workspace.ids.last
  have genuine := Graph.genuine_groupAround (workspace.ids.last + 1) label first rest
  have withGroup := graphSound.make genuine issued forward
  refine ⟨Nat.le_trans bound forward, _, ?_, withGroup.insertFirst List.mem_cons_self rfl ?_ ?_⟩
  · intro node member
    exact ⟨List.mem_cons_of_mem _ (known node member).1, (known node member).2⟩
  · exact graphSound.absent_of_issued issued List.mem_cons_self
  · exact graphSound.groupAround_encloses found _ label

theorem keeps_ungroup (id : String) :
    Edit.Keeps (Workspace.Sound created least) (ungroup id) := by
  intro workspace sound
  refine ends_ungroup (fun node found isGroup => ?_) fun _ => sound
  refine sound.changed fun made last graphSound => ?_
  have dissolved := graphSound.dissolve (Graph.mem_of_node? found) isGroup
  rwa [Graph.id_of_node? found] at dissolved

theorem keeps_clear : Edit.Keeps (Workspace.Sound created least) clear :=
  keeps_change fun _ _ _ graphSound => graphSound.clear

theorem keeps_removeNodes (gone : List String) :
    Edit.Keeps (Workspace.Sound created least) (removeNodes gone) :=
  keeps_change fun _ _ _ graphSound => graphSound.removeNodes gone

theorem keeps_disconnect (id : String) :
    Edit.Keeps (Workspace.Sound created least) (disconnect id) :=
  keeps_change fun _ _ _ graphSound => graphSound.disconnect id

/-! ## Presets -/

/-- What is built from nothing replaces the graph if building keeps graphs sound. -/
theorem keeps_replacing {build : Edit Workspace Unit}
    (keeps : ∀ floor, Edit.Keeps (Workspace.Sound created floor) build) :
    Edit.Keeps (Workspace.Sound created least) (replacing build) := by
  rintro workspace ⟨bound, made, known, sound⟩
  have built := keeps workspace.ids.last ⟨.empty, workspace.ids⟩
    ⟨Nat.le_refl _, made, known, sound.clear⟩
  rw [ends_replacing]
  apply built.mono
  · intro _ after later
    exact ⟨Nat.le_trans bound later.1, later.2⟩
  · intro after later
    exact ⟨Nat.le_trans bound later.1, made, known, sound.advance later.1⟩

/-- The parts of presets keep graphs sound. -/
theorem closed_keepsSound :
    Preset.Closed fun edit => Edit.Keeps (Workspace.Sound created least) edit where
  pure := .pure
  bind := .bind
  createNode kind x y := keeps_createNode kind (.int x) (.int y)
  setValue id name n := keeps_setValue id name (.int n)
  connect := keeps_connect
  groupNodes := keeps_groupNodes

theorem keeps_openPreset (id : String) :
    Edit.Keeps (Workspace.Sound created least) (openPreset id) := by
  unfold openPreset
  cases found : Preset.find? id with
  | none => exact .throw (Error.unknownPreset id)
  | some preset =>
    have listed : preset ∈ Preset.all := List.mem_of_find?_eq_some found
    exact keeps_replacing fun _ => closed_keepsSound.build listed

end Workspace

/-! ## Sessions -/

namespace Session

/-- The workspace is sound and knows the created nodes. -/
def Sound (session : Session) : Prop :=
  session.workspace.Sound session.created 0

variable {session : Session}

theorem Sound.perform {α : Type} (sound : session.Sound) {edit : Edit Workspace α}
    (keeps : Edit.Keeps (Workspace.Sound session.created 0) edit) :
    (session.perform edit).Sound :=
  keeps.stateAfter sound

theorem Sound.create (sound : session.Sound) {operation : Edit IdSource Node}
    (creates : IdSource.Creates operation) : (session.create operation).Sound := by
  have created := Workspace.ends_creation creates sound
  unfold Edit.Ends at created
  unfold Session.create
  cases outcome : Workspace.naming operation session.workspace with
  | ok node after =>
    rw [outcome] at created
    exact created
  | error error after =>
    rw [outcome] at created
    exact created

theorem Sound.add (sound : session.Sound) (turn : Nat) (x y : Binary64) (data : Fields) :
    (session.add turn x y data).Sound := by
  unfold Session.add
  cases found : session.created[turn]? with
  | none => exact sound
  | some node =>
    have listed := List.mem_of_getElem? found
    exact sound.perform (Workspace.keeps_addNode listed ⟨rfl, rfl, rfl⟩)

/-- Every action keeps a session sound. -/
theorem Sound.step (sound : session.Sound) (action : EditorAction) :
    (session.step action).Sound := by
  cases action with
  | create kind x y => exact sound.create (Node.creates_create kind x y)
  | createShape kind x y => exact sound.create (Node.creates_createShape kind x y)
  | add turn x y data => exact sound.add turn x y data
  | connect source target => exact sound.perform (Workspace.keeps_connect source target)
  | disconnect edge => exact sound.perform (Workspace.keeps_disconnect edge)
  | removeNode id => exact sound.perform (Workspace.keeps_removeNodes [id])
  | removeNodes ids => exact sound.perform (Workspace.keeps_removeNodes ids)
  | clear => exact sound.perform Workspace.keeps_clear
  | moveNode id x y => exact sound.perform (Workspace.keeps_moveNode id x y)
  | setValue id name value => exact sound.perform (Workspace.keeps_setValue id name value)
  | writeData id change =>
    exact sound.perform (Workspace.keeps_change fun _ _ _ graph => graph.changeData id change)
  | groupNodes keys label => exact sound.perform (Workspace.keeps_groupNodes keys label)
  | ungroup id => exact sound.perform (Workspace.keeps_ungroup id)
  | openPreset id => exact sound.perform (Workspace.keeps_openPreset id)
  | run registry maxSteps =>
    exact sound.perform (Workspace.keeps_change fun _ _ _ graph => graph.afterRun registry maxSteps)

theorem sound_start (ids : IdSource) : (start ids).Sound := by
  have empty : Graph.empty.Sound [] ids.last :=
    .empty_of_made (by simp) List.nodup_nil (by simp)
  exact ⟨Nat.zero_le _, [], by simp [start], empty⟩

theorem sound_after (ids : IdSource) (actions : List EditorAction) : (after ids actions).Sound := by
  have onward : ∀ session : Session, session.Sound → (actions.foldl step session).Sound := by
    induction actions with
    | nil => exact fun _ sound => sound
    | cons action actions ih =>
    exact fun session sound => ih (session.step action) (sound.step action)
  exact onward (start ids) (sound_start ids)

/-- In every state of every session the graph is well-formed. -/
theorem wellFormed_after (ids : IdSource) (actions : List EditorAction) :
    (after ids actions).workspace.graph.WellFormed := by
  obtain ⟨_, made, _, sound⟩ := sound_after ids actions
  exact sound.wellFormed

end Session

end NodeFlow
