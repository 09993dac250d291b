import NodeFlow.Text.Quoted
import NodeFlow.Value.Printer

/-!
# JSON notation

The two notations of JSON text that the program writes. Snapshots are indented by two blanks and
consist of ASCII; the run's log is compact and escapes only what it must.
-/

namespace NodeFlow.Json

/-- A code unit as a `\u` escape. -/
def escapeUnit (unit : Nat) : List Char :=
  '\\' :: 'u' :: Text.hexDigits 4 unit

/-- A character as `\u` escapes: beyond the basic plane as a surrogate pair. -/
def escapeUnits (c : Char) : List Char :=
  if c.toNat < 0x10000 then escapeUnit c.toNat
  else
    let offset := c.toNat - 0x10000
    escapeUnit (0xD800 + offset / 0x400) ++ escapeUnit (0xDC00 + offset % 0x400)

/-- One character of a string. Control characters, the quotation mark and the backslash are always
escaped; `ascii` asks for everything outside printable ASCII. -/
def escape (ascii : Bool) (c : Char) : List Char :=
  match c with
  | '"' => ['\\', '"']
  | '\\' => ['\\', '\\']
  | '\n' => ['\\', 'n']
  | '\r' => ['\\', 'r']
  | '\t' => ['\\', 't']
  | '\x08' => ['\\', 'b']
  | '\x0c' => ['\\', 'f']
  | c => if c.toNat < 0x20 || (ascii && 0x7E < c.toNat) then escapeUnits c else [c]

/-- A string in its quotation marks. -/
def quote (ascii : Bool) (chars : List Char) : List Char :=
  '"' :: chars.flatMap (escape ascii) ++ ['"']

/-- The notation of the run's log. -/
def compact : Style where
  null := "null".toList
  yes := "true".toList
  no := "false".toList
  float := Style.writeFloat "NaN" "Infinity"
  quote := quote false
  comma := [',']
  colon := [':']
  newline _ := []

/-- The notation of snapshots. -/
def indented : Style :=
  { compact with
    quote := quote true
    colon := [':', ' ']
    newline := fun depth => '\n' :: List.replicate (2 * depth) ' ' }

/-- A value as the JSON text of a snapshot. -/
def print (value : Value) : Except ConversionError String :=
  (value.write indented 0).map String.ofList

end NodeFlow.Json
