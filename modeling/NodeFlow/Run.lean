import NodeFlow.Evaluation.Registry
import NodeFlow.Graph.Basic

/-!
# Runs

A run begins at every start node and follows the exec edges: depth first, each branch to its end
before the next one. A node that is reached is evaluated with its inputs and stores its outputs; it
may be reached more than once. Every exec edge that is followed takes one step from a budget that
all start nodes share, so a cycle ends the run. Main statement: pending branches are walked one
after the other.
-/

namespace NodeFlow

/-! ## Data and control flow of a graph -/

namespace Edge

/-- The reference from which a data edge feeds the given one. -/
def feeds? (target : String) (edge : Edge) : Option String :=
  if !edge.isExec && edge.target.ref? == some target then edge.source.ref? else none

/-- The node to which an exec edge leads from the given one. -/
def follows? (node : String) (edge : Edge) : Option String :=
  if edge.isExec && edge.source.node? == some node then edge.target.node? else none

end Edge

namespace Graph

/-- The reference that feeds an input: the source of the last committed data edge into it. -/
def feed? (graph : Graph) (input : String) : Option String :=
  (graph.edges.filterMap (Edge.feeds? input)).getLast?

/-- The nodes that follow a node, one for every committed exec edge that leaves it, in order. -/
def successors (graph : Graph) (node : String) : List String :=
  graph.edges.filterMap (Edge.follows? node)

/-- The value at an output; null if the node or the value is missing. -/
def outputValue (graph : Graph) (ref : String) : Value :=
  ((graph.node? (Ref.node ref)).map fun source => source.data.get (Ref.port ref)).getD .null

/-- The value at an input: what its feed holds, or the node's own value if nothing feeds it. -/
def inputValue (graph : Graph) (node : Node) (port : String) : Value :=
  ((graph.feed? (Ref.make node.id port)).map graph.outputValue).getD (node.data.get port)

/-- The inputs of a node. -/
def inputs (graph : Graph) (node : Node) : Fields :=
  (node.dataPorts .input).foldl
    (fun inputs port => inputs.set port.name (graph.inputValue node port.name)) []

/-- The ids of the start nodes, in order. -/
def roots (graph : Graph) : List String :=
  (graph.nodes.filter (·.kind == "start")).map Node.id

end Graph

namespace Node

/-- Stores the outputs that have an output port. -/
def store (node : Node) (outputs data : Fields) : Fields :=
  (node.dataPorts .output).foldl
    (fun data port => ((outputs.get? port.name).map fun v => data.set port.name v).getD data) data

end Node

/-! ## Running -/

/-- What ends a run early. -/
inductive RunFailure where
  /-- The next exec edge is not covered by the budget. -/
  | budgetExceeded (maxSteps : Int) (node : String)
  /-- The evaluation of a node failed. -/
  | evaluation (node kind : String) (cause : EvalFailure)
  /-- An evaluator raised a failure of execution, which ends the run as it is. This stands for every
  such failure whatever its class, also for the classes that a run itself raises when the budget is
  spent or an evaluation fails: only the message is kept. -/
  | aborted (message : String)
  deriving DecidableEq, Repr

namespace RunFailure

/-- The wording of a failure. -/
def message : RunFailure → String
  | budgetExceeded maxSteps node =>
    "Run aborted after " ++ toString maxSteps ++ " exec steps at node " ++ Text.quote node
      ++ "; the control flow probably contains a cycle."
  | evaluation node kind cause =>
    "Evaluator for " ++ Text.quote kind ++ " failed on node " ++ Text.quote node ++ ": "
      ++ cause.message
  | aborted message => message

/-- How the failure of a node's evaluation ends the run. A failure of execution that the evaluator
raised is passed on whatever its class; the node and the kind are not added to it. -/
def ofEvaluation (node : Node) : EvalFailure → RunFailure
  | .aborted message => .aborted message
  | cause => .evaluation node.id node.kind cause

end RunFailure

/-- How far a run has come: the graph with the data stored so far, the lines logged, the nodes
visited and the exec edges followed. -/
structure Progress where
  graph : Graph
  log : Array String
  visited : Array String
  steps : Nat

/-- A part of a run. A failure keeps the progress made before it. -/
abbrev Walk := EStateM RunFailure Progress

namespace Progress

/-- Adds lines to the log. -/
def logged (progress : Progress) (lines : List String) : Progress :=
  { progress with log := progress.log ++ lines.toArray }

/-- Settles an evaluation of a node: its lines are logged and its outputs stored. -/
def settle (progress : Progress) (node : Node) : Except EvalFailure Fields →
    EStateM.Result RunFailure Progress Unit
  | .ok outputs =>
    .ok () { progress with graph := progress.graph.changeData node.id (node.store outputs) }
  | .error failure => .error (.ofEvaluation node failure) progress

/-- Visits a node that exists. -/
def visitNode (registry : Registry) (progress : Progress) (node : Node) :
    EStateM.Result RunFailure Progress Unit :=
  let evaluation := registry.evaluate node (progress.graph.inputs node)
  { progress with visited := progress.visited.push node.id }.logged evaluation.log
    |>.settle node evaluation.outcome

end Progress

namespace Run

/-- Visits a node and gives the nodes that follow it; a node that is missing is passed over. -/
def visit (registry : Registry) (id : String) : Walk (List String) := fun progress =>
  match progress.graph.node? id with
  | none => .ok [] progress
  | some node =>
    match progress.visitNode registry node with
    | .ok _ later => .ok (later.graph.successors id) later
    | .error failure later => .error failure later

/-- Counts an exec edge as followed. -/
def countStep : Walk Unit :=
  modify fun progress => { progress with steps := progress.steps + 1 }

/-- Ends the run at the edge that the budget does not cover. -/
def exceed (maxSteps : Int) (node : String) : Walk Nat := fun progress =>
  let failure := RunFailure.budgetExceeded maxSteps node
  .error failure (progress.logged ["! " ++ failure.message])

/-- Walks to the nodes that are pending, the first one first, and gives what is left of the
budget. What follows a node goes before what was pending already. -/
def drain (registry : Registry) (maxSteps : Int) : (budget : Nat) → List String → Walk Nat
  | budget, [] => pure budget
  | 0, target :: _ => do
    countStep
    exceed maxSteps target
  | budget + 1, target :: pending => do
    countStep
    let next ← visit registry target
    drain registry maxSteps budget (next ++ pending)

/-- Walks from every start node in turn. -/
def walkRoots (registry : Registry) (maxSteps : Int) : (budget : Nat) → List String → Walk Unit
  | _, [] => pure ()
  | budget, root :: roots => do
    let next ← visit registry root
    let left ← drain registry maxSteps budget next
    walkRoots registry maxSteps left roots

/-- The first line of every run. -/
def banner : String := "> Running graph..."

/-- Where a run of a graph begins. -/
def begin (graph : Graph) : Progress := ⟨graph, #[banner], #[], 0⟩

end Run

/-- Runs a graph. -/
def Graph.run (registry : Registry) (maxSteps : Int) (graph : Graph) :
    EStateM.Result RunFailure Progress Unit :=
  Run.walkRoots registry maxSteps maxSteps.toNat graph.roots (Run.begin graph)

namespace Run

/-- Pending branches are walked one after the other. -/
theorem drain_append (registry : Registry) (maxSteps : Int) (budget : Nat)
    (first second : List String) :
    drain registry maxSteps budget (first ++ second) = (do
      let left ← drain registry maxSteps budget first
      drain registry maxSteps left second) := by
  induction budget generalizing first with
  | zero =>
    cases first with
    | nil => rfl
    | cons target pending => rfl
  | succ budget ih =>
    cases first with
    | nil => rfl
    | cons target pending =>
      simp only [List.cons_append, drain, bind_assoc]
      congr 1
      funext _
      congr 1
      funext next
      rw [← List.append_assoc, ih]

end Run

end NodeFlow
