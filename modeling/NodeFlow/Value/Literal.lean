import NodeFlow.Value.Printer

/-!
# Values in diagnostics

How a value appears inside a message, and the text that a value turns into where a text is asked
for: a text stays as it is, everything else is shown as in a message.
-/

namespace NodeFlow

/-- The notation of messages. -/
def Style.diagnostic : Style where
  null := "None".toList
  yes := "True".toList
  no := "False".toList
  float := writeFloat "nan" "inf"
  quote chars := (Text.quote (String.ofList chars)).toList
  comma := [',', ' ']
  colon := [':', ' ']
  newline _ := []

namespace Value

/-- The value as a message shows it. -/
def literal (value : Value) : Except ConversionError String :=
  (value.write .diagnostic 0).map String.ofList

/-- The value as a text. -/
def toText : Value → Except ConversionError String
  | .text s => .ok s
  | other => other.literal

end Value

end NodeFlow
