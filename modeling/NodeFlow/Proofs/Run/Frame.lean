import NodeFlow.Proofs.Run.Dataflow
import NodeFlow.Proofs.Run.Lockstep
import NodeFlow.Proofs.Session.Basic

/-!
# What a run leaves alone

A run writes into the data of nodes and nowhere else, and there only the outputs that a visited
node declares. Main statement: however a run ends, every entry of every node is what the last
completed visit that wrote it has given, or what it was before; the rest of the workspace stays.
-/

namespace NodeFlow

/-- To store outputs keeps the entries that are there in their places. -/
theorem Node.keys_store (node : Node) (outputs data : Fields) :
    data.map (·.1) <+: (node.store outputs data).map (·.1) := by
  unfold store
  induction node.dataPorts .output generalizing data with
  | nil => exact List.prefix_rfl
  | cons port rest ih =>
    rw [List.foldl_cons]
    refine List.IsPrefix.trans ?_ (ih _)
    cases outputs.get? port.name with
    | none => exact List.prefix_rfl
    | some value =>
      show data.map (·.1) <+: (data.set port.name value).map (·.1)
      rw [Keyed.keys_set]
      split
      · exact List.prefix_rfl
      · exact List.prefix_append _ _

theorem Visit.wrote?_eq_some {id name : String} {visit : Visit} {value : Value}
    (wrote : visit.wrote? id name = some value) :
    visit.node.id = id ∧ name ∈ (visit.node.dataPorts .output).map Port.name ∧
      visit.outputs.get? name = some value := by
  unfold wrote? at wrote
  split at wrote
  · rename_i declared
    exact ⟨declared.1, declared.2, wrote⟩
  · cases wrote

namespace Graph

theorem afterRun_eq (registry : Registry) (maxSteps : Int) (graph : Graph) :
    graph.afterRun registry maxSteps = (Run.progressOf (graph.run registry maxSteps)).graph := by
  unfold afterRun
  cases graph.run registry maxSteps <;> rfl

/-- What the completed visits of a run have made of a graph, and what they have left alone. -/
structure Framed (graph after : Graph) (visits : List Visit) : Prop where
  shape : after.SameShape graph
  entries : ∀ id name, after.datum? id name =
    (visits.filterMap (Visit.wrote? id name)).getLast?.or (graph.datum? id name)
  keys : ∀ id node, graph.node? id = some node → ∃ later, after.node? id = some later ∧
    node.data.map (·.1) <+: later.data.map (·.1)
  /-- An entry is new or different only at a visited node and under the name of a data output. -/
  written : ∀ id name, after.datum? id name ≠ graph.datum? id name →
    id ∈ visits.map (·.node.id) ∧ ∃ node, graph.node? id = some node ∧
      name ∈ (node.dataPorts .output).map Port.name

variable {registry : Registry} {maxSteps : Int} {graph : Graph} {visits : List Visit}
  {moment : Moment}

/-- At every moment of a run the data that were there before are in their places. -/
theorem Reaches.keys (reaches : graph.Reaches registry maxSteps visits moment) {id : String}
    {node : Node} (found : graph.node? id = some node) :
    ∃ later, moment.progress.graph.node? id = some later ∧
      node.data.map (·.1) <+: later.data.map (·.1) := by
  induction reaches with
  | begin => exact ⟨node, found, List.prefix_rfl⟩
  | pass _ turn _ ih =>
    rw [(Moment.frame_of_turn_enter turn).1]
    exact ih
  | @visit _ _ _ progress _ _ entered _ outputs _ turn _ _ ih =>
    obtain ⟨later, there, kept⟩ := ih
    rw [← (Moment.frame_of_turn_enter turn).1] at there
    show ∃ last, (progress.graph.changeData _ _).node? id = some last ∧ _
    rw [changeData, node?_mapNodes, there]
    refine ⟨_, rfl, kept.trans ?_⟩
    dsimp only
    split
    · exact entered.keys_store outputs later.data
    · exact List.prefix_rfl

/-- The visits of a run are visits of nodes of the graph. -/
theorem Reaches.exists_node_of_mem (reaches : graph.Reaches registry maxSteps visits moment)
    {visit : Visit} (member : visit ∈ visits) :
    ∃ node, graph.node? visit.node.id = some node ∧
      node.withData [] = visit.node.withData [] := by
  induction reaches with
  | begin => cases member
  | pass _ _ _ ih => exact ih member
  | visit earlier turn found _ ih =>
    rcases List.mem_append.1 member with old | new
    · exact ih old
    · rw [List.mem_singleton.1 new]
      rw [(Moment.frame_of_turn_enter turn).1] at found
      rw [id_of_node? found]
      exact earlier.sameShape.exists_node? found

theorem Reaches.framed (reaches : graph.Reaches registry maxSteps visits moment) :
    graph.Framed moment.progress.graph visits := by
  refine ⟨reaches.sameShape, reaches.datum?_eq, fun _ _ => reaches.keys, ?_⟩
  intro id name differs
  rw [reaches.datum?_eq] at differs
  cases last : (visits.filterMap (Visit.wrote? id name)).getLast? with
  | none => simp [last] at differs
  | some value =>
    obtain ⟨visit, member, wrote⟩ := List.mem_filterMap.1 (List.mem_of_getLast? last)
    obtain ⟨rfl, declared, _⟩ := Visit.wrote?_eq_some wrote
    obtain ⟨node, found, same⟩ := reaches.exists_node_of_mem member
    have ports := Node.view_eq same (·.dataPorts .output) fun _ => rfl
    exact ⟨List.mem_map_of_mem member, node, found, ports ▸ declared⟩

/-- A run writes only declared outputs of nodes that it visited. However it ends, the counter of ids
is what it was, and so are the nodes, but for their data, with their order and all edges. An entry
of a node's data is what the last completed visit of the node gave that declares and gives it, else
what it was; entries that were there keep their places. What ends the run changes no data; if that
is a failing evaluation, its node was visited last, and the failure names the node and its kind. -/
theorem run_framed (registry : Registry) (maxSteps : Int) (workspace : Workspace) :
    Edit.stateAfter (Workspace.change (·.afterRun registry maxSteps)) workspace =
      ⟨(Run.progressOf (workspace.graph.run registry maxSteps)).graph, workspace.ids⟩ ∧
    ∃ visits moment, workspace.graph.Reaches registry maxSteps visits moment ∧
      moment.Ends registry maxSteps (workspace.graph.run registry maxSteps) ∧
      workspace.graph.Framed moment.progress.graph visits ∧
      (Run.progressOf (workspace.graph.run registry maxSteps)).graph = moment.progress.graph ∧
      (Run.isRaised (workspace.graph.run registry maxSteps) = false →
        (Run.progressOf (workspace.graph.run registry maxSteps)).visited.toList =
          visits.map (·.node.id)) ∧
      ∀ failure after, workspace.graph.run registry maxSteps = .error failure after →
        failure.isRaised = true → ∃ node, workspace.graph.node? node.id = some node ∧
          after.visited.toList = visits.map (·.node.id) ++ [node.id] ∧
          ∀ id kind cause, failure = .evaluation id kind cause →
            id = node.id ∧ kind = node.kind := by
  refine ⟨congrArg (Workspace.mk · workspace.ids) (afterRun_eq registry maxSteps _), ?_⟩
  obtain ⟨visits, moment, reaches, ends⟩ :=
    run_eq_iff_ends.1 (Eq.refl (workspace.graph.run registry maxSteps))
  refine ⟨visits, moment, reaches, ends, reaches.framed, ?_⟩
  have visited := reaches.visited_eq
  generalize workspace.graph.run registry maxSteps = result at ends
  cases ends with
  | finish =>
    refine ⟨rfl, fun _ => visited, ?_⟩
    rintro failure after ⟨⟩
  | exceed =>
    refine ⟨rfl, fun _ => visited, ?_⟩
    rintro failure after ⟨⟩ ⟨⟩
  | @fail id progress _ _ node _ failure turn found _ =>
    obtain ⟨now, _, same⟩ := Moment.frame_of_turn_enter turn
    refine ⟨now, fun calm => by simp [Run.isRaised, Run.failure?] at calm, ?_⟩
    rintro raised after ⟨⟩ _
    rw [now] at found
    obtain ⟨origin, there, shape⟩ := reaches.sameShape.exists_node? found
    have name := Node.view_eq shape Node.id fun _ => rfl
    have kind := Node.view_eq shape Node.kind fun _ => rfl
    refine ⟨origin, id_of_node? there ▸ there, ?_, ?_⟩
    · simp [same, visited, name]
    · intro id' kind' cause named
      cases failure <;> cases named <;> exact ⟨name.symm, kind.symm⟩

end Graph

end NodeFlow
