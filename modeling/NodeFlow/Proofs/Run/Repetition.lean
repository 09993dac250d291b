import NodeFlow.Proofs.Run.Frame

/-!
# Running twice

A run leaves data behind that the next run of the graph finds. Main statement: if data flow only
from nodes that are done to nodes that are still to come, and no node writes where it reads, a
second run repeats the first one: it logs and visits the same and changes nothing.
-/

namespace NodeFlow

/-- Evaluations depend on the inputs and, of the node, on its id, its kind and the entry `num` of
its data. -/
def Registry.Shallow (registry : Registry) : Prop :=
  ∀ node other : Node, node.id = other.id → node.kind = other.kind →
    node.data.get? "num" = other.data.get? "num" →
      ∀ inputs, registry.evaluate node inputs = registry.evaluate other inputs

/-- Of the data of a node the built-in evaluators read the stored number and nothing else. -/
theorem Registry.shallow_builtin : builtin.Shallow := by
  intro node other _ kind number inputs
  rw [evaluate, evaluate, kind]
  cases found : builtin.get? other.kind with
  | none => rfl
  | some evaluator =>
    obtain ⟨known, rfl, _⟩ := get?_builtin found
    show known.evaluate node.data inputs = known.evaluate other.data inputs
    cases known with
    | number =>
      have stored : Fields.get node.data "num" = Fields.get other.data "num" :=
        congrArg (·.getD .null) number
      rw [Builtin.evaluate, Builtin.evaluate, Builtin.exposeNumber, Builtin.exposeNumber, stored]
    | start | add | mul | vec3 | dot | length | print => rfl

/-- To store outputs that are there already changes nothing. -/
theorem Node.store_eq_self {node : Node} {outputs data : Fields}
    (there : ∀ port ∈ node.dataPorts .output, ∀ value, outputs.get? port.name = some value →
      data.get? port.name = some value) : node.store outputs data = data := by
  unfold store
  generalize node.dataPorts .output = ports at there
  induction ports with
  | nil => rfl
  | cons port rest ih =>
    have first : ((outputs.get? port.name).map fun v => data.set port.name v).getD data = data := by
      cases given : outputs.get? port.name with
      | none => rfl
      | some value => exact Keyed.set_of_get? (there port List.mem_cons_self value given)
    rw [List.foldl_cons, first]
    exact ih fun port member => there port (List.mem_cons_of_mem _ member)

namespace Graph

theorem changeData_eq_self {graph : Graph} {id : String} {node : Node} {change : Fields → Fields}
    (found : graph.node? id = some node) (same : change node.data = node.data) :
    graph.changeData id change = graph := by
  refine eq_of_parts ?_ rfl
  show graph.nodes.map _ = graph.nodes
  rw [List.map_congr_left, List.map_id]
  intro other member
  split
  · rename_i named
    rw [eq_of_id (mem_of_node? found) member (named.trans (id_of_node? found).symm), same]
    rfl
  · rfl

/-- Data flow forward through the visits: no visited node has an output under the name of one of
its inputs or of `num`, and what feeds an input of a visited node, if it is a node of the graph, is
visited for the last time before the node is visited for the first time, if at all. -/
structure FlowsForward (graph : Graph) (visited : List String) : Prop where
  outputs : ∀ node ∈ graph.nodes, node.id ∈ visited →
    ∀ name ∈ (node.dataPorts .output).map Port.name,
      name ≠ "num" ∧ name ∉ (node.dataPorts .input).map Port.name
  sources : ∀ node ∈ graph.nodes, node.id ∈ visited →
    ∀ name ∈ (node.dataPorts .input).map Port.name,
      ∀ edge, graph.lastDataEdge? (Ref.make node.id name) = some edge →
        ∀ source, edge.source.node? = some source → graph.contains source = true →
          ∀ i j : Nat, visited[i]? = some source → visited[j]? = some node.id → i < j

theorem inputs_congr {graph other : Graph} {node origin : Node}
    (ports : node.dataPorts .input = origin.dataPorts .input)
    (values : ∀ name ∈ (node.dataPorts .input).map Port.name,
      graph.inputValue node name = other.inputValue origin name) :
    graph.inputs node = other.inputs origin := by
  rw [inputs, inputs, ← ports]
  refine List.foldl_ext _ _ _ fun fields port member => ?_
  rw [values port.name (List.mem_map_of_mem member)]

variable {registry : Registry} {maxSteps : Int} {graph : Graph} {visits earlier later : List Visit}
  {visit : Visit} {moment before : Moment}

/-! ## What stays between the visits -/

/-- An entry under a name that its node does not declare as a data output stays. -/
theorem Reaches.datum?_of_undeclared (reaches : graph.Reaches registry maxSteps visits moment)
    {id name : String} {node : Node} (found : graph.node? id = some node)
    (undeclared : name ∉ (node.dataPorts .output).map Port.name) :
    moment.progress.graph.datum? id name = graph.datum? id name := by
  have unwritten : visits.filterMap (Visit.wrote? id name) = [] := by
    rw [List.filterMap_eq_nil_iff]
    intro visit member
    cases wrote : visit.wrote? id name with
    | none => rfl
    | some value =>
      obtain ⟨rfl, declared, _⟩ := Visit.wrote?_eq_some wrote
      obtain ⟨origin, inGraph, same⟩ := reaches.exists_node_of_mem member
      obtain rfl : origin = node := Option.some.inj (inGraph.symm.trans found)
      rw [← Node.view_eq same (·.dataPorts .output) fun _ => rfl] at declared
      exact absurd declared undeclared
  rw [reaches.datum?_eq, unwritten]
  rfl

/-- What a node holds when it has been visited for the last time it holds from then on. -/
theorem Reaches.datum?_of_done
    (reaches : graph.Reaches registry maxSteps (earlier ++ later) moment)
    (reached : graph.Reaches registry maxSteps earlier before) {id : String}
    (done : ∀ visit ∈ later, visit.node.id ≠ id) (name : String) :
    moment.progress.graph.datum? id name = before.progress.graph.datum? id name := by
  have unwritten : later.filterMap (Visit.wrote? id name) = [] := by
    rw [List.filterMap_eq_nil_iff]
    intro visit member
    simp [Visit.wrote?, done visit member]
  rw [reaches.datum?_eq, reached.datum?_eq, List.filterMap_append, unwritten, List.append_nil]

/-- From the first visit of a node on, what feeds its inputs is done. -/
theorem Reaches.done_of_feed?
    (reaches : graph.Reaches registry maxSteps (earlier ++ visit :: later) moment)
    (forward : graph.FlowsForward ((earlier ++ visit :: later).map (·.node.id))) {name ref : String}
    (input : name ∈ (visit.node.dataPorts .input).map Port.name)
    (feed : graph.feed? (Ref.make visit.node.id name) = some ref) :
    ∀ other ∈ visit :: later, other.node.id ≠ Ref.node ref := by
  intro other member source
  have among : visit ∈ earlier ++ visit :: later := by simp
  obtain ⟨origin, inGraph, same⟩ := reaches.exists_node_of_mem among
  obtain ⟨node, present, _⟩ :=
    reaches.exists_node_of_mem (List.mem_append_right earlier member)
  rw [← Node.view_eq same (·.dataPorts .input) fun _ => rfl] at input
  rw [feed?_eq, Option.bind_eq_some_iff, ← id_of_node? inGraph] at feed
  obtain ⟨edge, last, begins⟩ := feed
  have ends : edge.source.node? = some (Ref.node ref) := by
    rw [Endpoint.eq_of_ref? begins]
    rfl
  obtain ⟨k, there⟩ := List.mem_iff_getElem?.1 member
  have place : ((visit :: later).map (·.node.id))[k]? = some (Ref.node ref) := by
    rw [List.getElem?_map, there, Option.map_some, source]
  have visited : origin.id ∈ (earlier ++ visit :: later).map (·.node.id) := by
    rw [id_of_node? inGraph]
    exact List.mem_map_of_mem among
  -- The visit of the source is not before this visit of the node.
  have order := forward.sources origin (mem_of_node? inGraph) visited name input edge last _ ends
    (contains_iff.2 ⟨node, source ▸ present⟩) (earlier.length + k) earlier.length
    (by simpa [List.getElem?_append_right] using place) (by simp [id_of_node? inGraph])
  omega

/-! ## The first run at its end -/

/-- The node as the run leaves it. -/
theorem Reaches.exists_last_node (reaches : graph.Reaches registry maxSteps visits moment)
    (member : visit ∈ visits) :
    ∃ node, moment.progress.graph.node? visit.node.id = some node ∧
      node.withData [] = visit.node.withData [] := by
  obtain ⟨origin, inGraph, same⟩ := reaches.exists_node_of_mem member
  obtain ⟨node, found, alike⟩ := reaches.sameShape.symm.exists_node? inGraph
  exact ⟨node, found, alike.trans same⟩

theorem Reaches.withData_eq_of_last (reaches : graph.Reaches registry maxSteps visits moment)
    (member : visit ∈ visits) {node : Node}
    (found : moment.progress.graph.node? visit.node.id = some node) :
    node.withData [] = visit.node.withData [] := by
  obtain ⟨last, there, alike⟩ := reaches.exists_last_node member
  obtain rfl : last = node := Option.some.inj (there.symm.trans found)
  exact alike

/-- A visited node declares no output under the name of one of its inputs or of `num`. -/
theorem Reaches.outputs_of_forward (reaches : graph.Reaches registry maxSteps visits moment)
    (forward : graph.FlowsForward (visits.map (·.node.id))) (member : visit ∈ visits)
    {name : String} (output : name ∈ (visit.node.dataPorts .output).map Port.name) :
    name ≠ "num" ∧ name ∉ (visit.node.dataPorts .input).map Port.name := by
  obtain ⟨origin, inGraph, same⟩ := reaches.exists_node_of_mem member
  have visited : origin.id ∈ visits.map (·.node.id) :=
    id_of_node? inGraph ▸ List.mem_map_of_mem member
  rw [← Node.view_eq same (·.dataPorts .output) fun _ => rfl] at output
  rw [← Node.view_eq same (·.dataPorts .input) fun _ => rfl]
  exact forward.outputs origin (mem_of_node? inGraph) visited name output

/-- What a node has found in its data under the name of no output it finds there at the end. -/
theorem Reaches.get?_of_undeclared (reaches : graph.Reaches registry maxSteps visits moment)
    (member : visit ∈ visits) {node : Node}
    (found : moment.progress.graph.node? visit.node.id = some node) {name : String}
    (undeclared : name ∉ (visit.node.dataPorts .output).map Port.name) :
    node.data.get? name = visit.node.data.get? name := by
  obtain ⟨earlier, later, rfl⟩ := List.append_of_mem member
  obtain ⟨before, reached, progress, now, happens⟩ := reaches.exists_happens rfl
  obtain ⟨origin, inGraph, same⟩ := reaches.exists_node_of_mem member
  rw [← Node.view_eq same (·.dataPorts .output) fun _ => rfl] at undeclared
  have stays := reaches.datum?_of_undeclared inGraph undeclared
  rwa [← reached.datum?_of_undeclared inGraph undeclared, ← now,
    datum?_of_found happens.found, datum?_of_found found] at stays

/-- A visited node would receive at the end of the run what it received when it was visited: what
feeds its inputs was done, and it writes none of the inputs that nothing feeds. -/
theorem Reaches.inputs_again (reaches : graph.Reaches registry maxSteps visits moment)
    (forward : graph.FlowsForward (visits.map (·.node.id))) (member : visit ∈ visits) {node : Node}
    (found : moment.progress.graph.node? visit.node.id = some node) :
    moment.progress.graph.inputs node = visit.inputs := by
  have alike := reaches.withData_eq_of_last member found
  have id := Node.view_eq alike Node.id fun _ => rfl
  have ports := Node.view_eq alike (·.dataPorts .input) fun _ => rfl
  have own : ∀ name ∈ (visit.node.dataPorts .input).map Port.name,
      node.data.get? name = visit.node.data.get? name :=
    fun name declared => reaches.get?_of_undeclared member found fun output =>
      (reaches.outputs_of_forward forward member output).2 declared
  obtain ⟨earlier, later, rfl⟩ := List.append_of_mem member
  obtain ⟨before, reached, progress, now, happens⟩ := reaches.exists_happens rfl
  rw [happens.inputs]
  refine inputs_congr ports fun name declared => ?_
  rw [ports] at declared
  rw [inputValue, inputValue, reaches.sameShape.feed?, now, reached.sameShape.feed?, id]
  cases feed : graph.feed? (Ref.make visit.node.id name) with
  | none => exact congrArg (·.getD .null) (own name declared)
  | some ref =>
    have done := reaches.done_of_feed? forward declared feed
    show moment.progress.graph.held (Ref.node ref) (Ref.port ref) =
      before.progress.graph.held (Ref.node ref) (Ref.port ref)
    rw [held_eq_datum?, held_eq_datum?, reaches.datum?_of_done reached done]

theorem Reaches.evaluate_again (reaches : graph.Reaches registry maxSteps visits moment)
    (shallow : registry.Shallow) (forward : graph.FlowsForward (visits.map (·.node.id)))
    (member : visit ∈ visits) {node : Node}
    (found : moment.progress.graph.node? visit.node.id = some node) :
    registry.evaluate node (moment.progress.graph.inputs node) =
      ⟨visit.lines, .ok visit.outputs⟩ := by
  have alike := reaches.withData_eq_of_last member found
  have number := reaches.get?_of_undeclared member found fun output =>
    (reaches.outputs_of_forward forward member output).1 rfl
  obtain ⟨earlier, later, split⟩ := List.append_of_mem member
  obtain ⟨_, _, _, _, happens⟩ := reaches.exists_happens split
  rw [reaches.inputs_again forward member found, ← happens.evaluated]
  exact shallow node visit.node (Node.view_eq alike Node.id fun _ => rfl)
    (Node.view_eq alike Node.kind fun _ => rfl) number _

/-- The outputs of a visit are what its node holds at the end of the run: all visits of the node
have given the same. -/
theorem Reaches.store_again (reaches : graph.Reaches registry maxSteps visits moment)
    (shallow : registry.Shallow) (forward : graph.FlowsForward (visits.map (·.node.id)))
    (member : visit ∈ visits) {node : Node}
    (found : moment.progress.graph.node? visit.node.id = some node) :
    node.store visit.outputs node.data = node.data := by
  refine Node.store_eq_self fun port declared value given => ?_
  have alike := reaches.withData_eq_of_last member found
  rw [Node.view_eq alike (·.dataPorts .output) fun _ => rfl] at declared
  have wrote : visit.wrote? visit.node.id port.name = some value := by
    rw [Visit.wrote?, if_pos ⟨rfl, List.mem_map_of_mem declared⟩, given]
  have entry := reaches.datum?_eq visit.node.id port.name
  rw [datum?_of_found found] at entry
  cases latest : (visits.filterMap (Visit.wrote? visit.node.id port.name)).getLast? with
  | none =>
    rw [List.getLast?_eq_none_iff, List.filterMap_eq_nil_iff] at latest
    exact absurd (latest visit member) (by simp [wrote])
  | some value' =>
    obtain ⟨other, among, wrote'⟩ := List.mem_filterMap.1 (List.mem_of_getLast? latest)
    obtain ⟨same, _, given'⟩ := Visit.wrote?_eq_some wrote'
    -- Both visits are evaluations of the node as the run leaves it.
    have first := reaches.evaluate_again shallow forward member found
    have second := reaches.evaluate_again shallow forward among (same ▸ found)
    obtain ⟨_, outputs⟩ := Evaluation.mk.inj (first.symm.trans second)
    rw [entry, latest, Option.some_or, ← given, ← given', Except.ok.inj outputs]

/-! ## The second run -/

/-- The second run has come as far as the first one, and has changed nothing. -/
structure Repeating (graph last : Graph) (before before' : Progress) : Prop where
  shape : before.graph.SameShape graph
  fixed : before'.graph = last
  log : before'.log = before.log
  visited : before'.visited = before.visited
  steps : before'.steps = before.steps

theorem Repeating.eq {graph : Graph} {before before' : Progress}
    (repeating : graph.Repeating before.graph before before') : before' = before := by
  obtain ⟨_, _, _, _⟩ := before'
  obtain ⟨_, rfl, rfl, rfl, rfl⟩ := repeating
  rfl

theorem Reaches.repeats (reaches : graph.Reaches registry maxSteps visits moment)
    (shallow : registry.Shallow) (forward : graph.FlowsForward (visits.map (·.node.id))) :
    graph.Lockstep registry registry moment.progress.graph visits
      (graph.Repeating moment.progress.graph) where
  begin := ⟨.refl graph, rfl, rfl, rfl, rfl⟩
  roots := reaches.sameShape.roots
  steps repeating := repeating.steps
  counted repeating := ⟨repeating.shape, repeating.fixed, repeating.log, repeating.visited,
    congrArg (· + 1) repeating.steps⟩
  missing {_ _ id} repeating missing := by
    have same := (reaches.sameShape.trans repeating.shape.symm).node? id
    rw [missing] at same
    rw [repeating.fixed]
    exact Option.map_eq_none_iff.1 same
  visit {visit before before'} member repeating happens := by
    obtain ⟨node, found, alike⟩ := reaches.exists_last_node member
    have id := Node.view_eq alike Node.id fun _ => rfl
    refine ⟨⟨node, moment.progress.graph.inputs node, visit.lines, visit.outputs⟩, id, ?_, ?_, ?_⟩
    · rw [← repeating.fixed] at found ⊢
      exact ⟨id ▸ found, rfl, repeating.fixed ▸
        reaches.evaluate_again shallow forward member (repeating.fixed ▸ found)⟩
    · rw [repeating.fixed, reaches.sameShape.successors, repeating.shape.successors]
    · refine ⟨(before.past_sameShape visit).trans repeating.shape, ?_, ?_, ?_, repeating.steps⟩
      · rw [Progress.past_graph, repeating.fixed]
        exact changeData_eq_self (id ▸ found) (reaches.store_again shallow forward member found)
      · rw [Progress.past_log, Progress.past_log, repeating.log]
      · rw [Progress.past_visited, Progress.past_visited, repeating.visited, id]

/-- A second run repeats the first one: if evaluations depend on the inputs and, of the node, on
its id, its kind and its stored number, and data flow forward through the visits of a completed
run, then running the graph that it left behind gives the same log, steps and visits, and leaves
all data as they are. -/
theorem run_again (shallow : registry.Shallow) {after : Progress}
    (completes : graph.run registry maxSteps = .ok () after)
    (forward : graph.FlowsForward after.visited.toList) :
    after.graph.run registry maxSteps = .ok () after := by
  obtain ⟨visits, moment, reaches, ends⟩ := run_eq_iff_ends.1 completes
  cases ends with
  | finish turn =>
    rw [reaches.visited_eq] at forward
    obtain ⟨again, ran, repeating⟩ := (reaches.repeats shallow forward).finishes reaches turn
    rw [ran, repeating.eq]

/-- Two numbers are added and the sum is shown. -/
def sumShown : Graph where
  nodes := [{ Node.blank "node_1" with kind := "start" },
    { Node.blank "node_2" with
      kind := "add"
      ports := [⟨"p_3", .null, "a", .text "number", .text "in", false⟩,
        ⟨"p_4", .null, "b", .text "number", .text "in", false⟩,
        ⟨"p_5", .null, "out", .text "number", .text "out", false⟩]
      data := [("a", .int 4), ("b", .int 5)] },
    { Node.blank "node_6" with
      kind := "print"
      ports := [⟨"p_7", .null, "in", .text "any", .text "in", false⟩] }]
  edges := [⟨"edge_8", .ref "node_1:execOut", .ref "node_2:execIn", true⟩,
    ⟨"edge_9", .ref "node_2:execOut", .ref "node_6:execIn", true⟩,
    ⟨"edge_10", .ref "node_2:out", .ref "node_6:in", false⟩]
  distinct := by decide

theorem flowsForward_sumShown : sumShown.FlowsForward ["node_1", "node_2", "node_6"] where
  outputs := by decide +kernel
  sources := by
    intro node member _ name declared edge last source begins _ i j
    have fed : ∀ node ∈ sumShown.nodes, ∀ name ∈ (node.dataPorts .input).map Port.name,
        (sumShown.lastDataEdge? (Ref.make node.id name)).bind (·.source.node?) = none ∨
          node.id = "node_6" ∧ (sumShown.lastDataEdge? (Ref.make node.id name)).bind
            (·.source.node?) = some "node_2" := by
      decide +kernel
    have feed := fed node member name declared
    rw [last, Option.bind_some, begins] at feed
    obtain ⟨⟨⟩⟩ | ⟨shown, ⟨⟩⟩ := feed
    rw [shown]
    intro first second
    have early : i = 1 := by
      rcases i with _ | _ | _ | i <;> simp at first ⊢
    have late : j = 2 := by
      rcases j with _ | _ | _ | j <;> simp at second ⊢
    omega

/-- The second run adds the same numbers and finds the sum where it puts it. -/
theorem sumShown_again : ∃ after, Registry.builtin.Shallow ∧
    sumShown.run Registry.builtin 9 = .ok () after ∧
    sumShown.FlowsForward after.visited.toList ∧
    after.graph.run Registry.builtin 9 = .ok () after := by
  have ended : Run.failure? (sumShown.run Registry.builtin 9) = none := by decide +kernel
  have visited : (Run.progressOf (sumShown.run Registry.builtin 9)).visited.toList =
      ["node_1", "node_2", "node_6"] := by decide +kernel
  cases completes : sumShown.run Registry.builtin 9 with
  | error failure after =>
    rw [completes] at ended
    cases ended
  | ok _ after =>
    rw [completes] at visited
    have forward : sumShown.FlowsForward after.visited.toList := visited ▸ flowsForward_sumShown
    exact ⟨after, Registry.shallow_builtin, rfl, forward,
      run_again Registry.shallow_builtin completes forward⟩

end Graph

end NodeFlow
