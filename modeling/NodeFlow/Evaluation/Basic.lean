import NodeFlow.Node.Basic
import NodeFlow.Value.Coerce
import NodeFlow.Value.Format

/-!
# Evaluation of nodes

What evaluating one node gives: lines for the run's log, and outputs or a failure. The built-in
kinds of nodes are evaluated here; besides them callers bring evaluators of their own.
-/

namespace NodeFlow

/-- Why an evaluation fails. -/
inductive EvalFailure where
  /-- A value cannot be converted. -/
  | conversion (cause : ConversionError)
  /-- The evaluator refuses its inputs. -/
  | rejected (message : String)
  /-- The evaluator ends the whole run by a failure of execution, of whatever class: those that a
  run itself raises are included, and only the message is kept. -/
  | aborted (message : String)
  deriving DecidableEq, Repr

/-- The wording of a failure. -/
def EvalFailure.message : EvalFailure → String
  | conversion cause => cause.message
  | rejected message | aborted message => message

/-- What evaluating a node gives. The lines stand even if it fails. -/
structure Evaluation where
  log : List String
  outcome : Except EvalFailure Fields

namespace Evaluation

/-- An evaluation without lines and outputs. -/
def nothing : Evaluation := ⟨[], .ok []⟩

/-- An evaluation that logs after all its conversions: if one of them fails there are no lines. -/
def ofConversion : Except ConversionError (List String × Fields) → Evaluation
  | .ok (log, outputs) => ⟨log, .ok outputs⟩
  | .error cause => ⟨[], .error (.conversion cause)⟩

end Evaluation

/-- The kinds of nodes with a built-in evaluator. -/
inductive Builtin where
  | start
  | add
  | mul
  | vec3
  | number
  | dot
  | length
  | print
  deriving DecidableEq, Repr

namespace Builtin

/-- All built-in kinds, in the order in which they are registered. -/
def all : List Builtin := [start, add, mul, vec3, number, dot, length, print]

/-- The name of a kind. -/
def kind : Builtin → String
  | start => "start"
  | add => "add"
  | mul => "mul"
  | vec3 => "vec3"
  | number => "number"
  | dot => "dot"
  | length => "length"
  | print => "print"

/-- The built-in kind of a name. -/
def ofKind? (name : String) : Option Builtin :=
  all.find? (·.kind == name)

/-- Combines the inputs `a` and `b`; the log shows the calculation. -/
def calculate (title sign : String) (combine : Number → Number → Except ConversionError Number)
    (inputs : Fields) : Except ConversionError (List String × Fields) := do
  let a ← (inputs.get "a").toNumber
  let b ← (inputs.get "b").toNumber
  let out ← combine a b
  let line := title ++ ": " ++ (← a.format) ++ sign ++ (← b.format) ++ "=" ++ (← out.format)
  return ([line], [("out", .ofNumber out)])

/-- Builds a vector from its components. -/
def buildVector (inputs : Fields) : Except ConversionError (List String × Fields) := do
  let v ← Vector3.ofFields inputs
  let line :=
    "Vec3: (" ++ (← v.x.format) ++ ", " ++ (← v.y.format) ++ ", " ++ (← v.z.format) ++ ")"
  return ([line], [("v", v.toValue)])

/-- Exposes a number: the input if there is one, else the stored number. -/
def exposeNumber (data inputs : Fields) : Except ConversionError (List String × Fields) := do
  let input := inputs.get "num"
  let source := if input.isNull then data.get "num" else input
  return ([], [("v", .ofNumber (← source.toNumber))])

/-- The dot product of the inputs `a` and `b`. -/
def dotProduct (inputs : Fields) : Except ConversionError (List String × Fields) := do
  let a ← Vector3.ofValue (inputs.get "a")
  let b ← Vector3.ofValue (inputs.get "b")
  let out ← a.dot b
  return (["Dot: ⟨a,b⟩=" ++ (← out.format)], [("out", .ofNumber out)])

/-- The length of the input `a`. -/
def vectorLength (inputs : Fields) : Except ConversionError (List String × Fields) := do
  let a ← Vector3.ofValue (inputs.get "a")
  let out ← a.length
  return (["Length: ∥a∥=" ++ (← out.format)], [("out", .ofNumber out)])

/-- Logs the input `in`. -/
def printInput (inputs : Fields) : Except ConversionError (List String × Fields) := do
  match inputs.get "in" with
  | .null => return (["Print: <no input connected or undefined>"], [])
  | value => return (["Print: " ++ (← value.format)], [])

/-- Evaluates a node with the given data and inputs. -/
def evaluate (builtin : Builtin) (data inputs : Fields) : Evaluation :=
  match builtin with
  | start => .nothing
  | add => .ofConversion (calculate "Add" "+" Number.add inputs)
  | mul => .ofConversion (calculate "Mul" "*" Number.mul inputs)
  | vec3 => .ofConversion (buildVector inputs)
  | number => .ofConversion (exposeNumber data inputs)
  | dot => .ofConversion (dotProduct inputs)
  | length => .ofConversion (vectorLength inputs)
  | print => .ofConversion (printInput inputs)

end Builtin

/-- What evaluates the nodes of a kind: a built-in evaluator, or a function of the node and its
inputs. -/
inductive Evaluator where
  | builtin (kind : Builtin)
  | custom (evaluate : Node → Fields → Evaluation)

namespace Evaluator

/-- Evaluates a node. -/
def evaluate : Evaluator → Node → Fields → Evaluation
  | .builtin kind, node, inputs => kind.evaluate node.data inputs
  | .custom evaluate, node, inputs => evaluate node inputs

/-- Always gives the same outputs. -/
def constant (outputs : Fields) : Evaluator :=
  .custom fun _ _ => ⟨[], .ok outputs⟩

/-- Always fails. -/
def failing (failure : EvalFailure) : Evaluator :=
  .custom fun _ _ => ⟨[], .error failure⟩

/-- Logs a message behind the id of the node. -/
def noting (message : String) : Evaluator :=
  .custom fun node _ => ⟨[node.id ++ "|" ++ message], .ok []⟩

/-- Logs the inputs and passes them on as outputs. -/
def echo : Evaluator :=
  .custom fun _ inputs => .ofConversion <|
    ((Value.dict inputs).format).map fun text => (["echo " ++ text], inputs)

/-- Whether this is the built-in evaluator of a kind. -/
def isBuiltinOf (name : String) : Evaluator → Bool
  | .builtin kind => kind.kind == name
  | .custom _ => false

end Evaluator

end NodeFlow
