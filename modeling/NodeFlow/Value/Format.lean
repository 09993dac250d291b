import NodeFlow.Json.Style
import NodeFlow.Value.Literal

/-!
# Values in the run's log

Numbers are written in the console layout, lists and mappings as compact JSON, everything else as
plain text. Inside lists and mappings a number that is not finite becomes null, and a binary64
number that is whole and below `10 ^ 21` loses its point.
-/

namespace NodeFlow.Value

/-- A binary64 number inside a logged list or mapping. -/
def logFloat (x : Binary64) : Value :=
  if !x.isFinite then .null
  else
    match x.toInt? with
    | some n => if n.natAbs < 10 ^ 21 then .int n else .float x
    | none => .float x

mutual

/-- The value with its numbers as the log writes them. -/
def logForm : Value → Value
  | .float x => logFloat x
  | .list items => .list (logItems items)
  | .dict fields => .dict (logFields fields)
  | other => other

/-- The items of a list in their logged form. -/
def logItems : List Value → List Value
  | [] => []
  | item :: rest => item.logForm :: logItems rest

/-- The fields of a mapping in their logged form. -/
def logFields : List (String × Value) → List (String × Value)
  | [] => []
  | (key, value) :: rest => (key, value.logForm) :: logFields rest

end

/-- The text of a value in the run's log. -/
def format : Value → Except ConversionError String
  | .bool b => .ok (if b then "true" else "false")
  | .int n => (Number.int n).format
  | .float x => (Number.float x).format
  | .text s => .ok s
  | .null => .ok "None"
  | container => (container.logForm.write Json.compact 0).map String.ofList

end NodeFlow.Value
