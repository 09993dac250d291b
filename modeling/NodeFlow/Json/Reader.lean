import NodeFlow.Value.Basic

/-!
# Reading JSON text

A reader for JSON text over its characters. It also takes `NaN`, `Infinity` and `-Infinity`, keeps
the last value of a repeated key at the key's first place, and reports the first fault with its
place. Nested readers receive fuel; each of them uses up at least one character for every two
units of it, so twice the length of the text is enough.
-/

namespace NodeFlow.Json

/-- What can be wrong with a JSON text. -/
inductive Problem where
  | byteOrderMark
  | value
  | key
  | colon
  | comma
  | extraData
  | openString
  | controlCharacter
  | escape
  | unicodeEscape
  deriving DecidableEq, Repr

/-- The wording of a problem. -/
def Problem.message : Problem → String
  | byteOrderMark => "Unexpected UTF-8 BOM (decode using utf-8-sig)"
  | value => "Expecting value"
  | key => "Expecting property name enclosed in double quotes"
  | colon => "Expecting ':' delimiter"
  | comma => "Expecting ',' delimiter"
  | extraData => "Extra data"
  | openString => "Unterminated string starting at"
  | controlCharacter => "Invalid control character at"
  | escape => "Invalid \\escape"
  | unicodeEscape => "Invalid \\uXXXX escape"

/-- Why reading stops: a problem at the place where `rest` begins, or a whole number of too many
digits. -/
inductive Stop where
  | problem (what : Problem) (rest : List Char)
  | digits (count : Nat)
  deriving DecidableEq, Repr

/-! A reader takes a text from its start and gives what it read with the text after it. -/

/-- Skips the blanks that JSON allows between tokens. -/
def skipBlanks (chars : List Char) : List Char :=
  chars.dropWhile fun c => c == ' ' || c == '\t' || c == '\n' || c == '\r'

/-! ## Strings -/

/-- The value of a hexadecimal digit. -/
def hexValue? (c : Char) : Option Nat :=
  if '0' ≤ c && c ≤ '9' then some (c.toNat - '0'.toNat)
  else if 'a' ≤ c && c ≤ 'f' then some (c.toNat - 'a'.toNat + 10)
  else if 'A' ≤ c && c ≤ 'F' then some (c.toNat - 'A'.toNat + 10)
  else none

/-- Reads the four digits of a `\u` escape; `chars` is what follows the `u`. Something must stand
after the digits. -/
def readUnit (chars : List Char) : Except Stop (Nat × List Char) :=
  match chars with
  | a :: b :: c :: d :: e :: rest =>
    match hexValue? a, hexValue? b, hexValue? c, hexValue? d with
    | some a, some b, some c, some d => .ok (((a * 16 + b) * 16 + c) * 16 + d, e :: rest)
    | _, _, _, _ => .error (.problem .unicodeEscape ('u' :: chars))
  | _ => .error (.problem .unicodeEscape ('u' :: chars))

/-- Whether a code unit opens a surrogate pair. -/
def isHighSurrogate (unit : Nat) : Bool := 0xD800 ≤ unit && unit ≤ 0xDBFF

/-- Whether a code unit closes a surrogate pair. -/
def isLowSurrogate (unit : Nat) : Bool := 0xDC00 ≤ unit && unit ≤ 0xDFFF

/-- The character of a code unit; a surrogate on its own stands for the replacement character. -/
def unitChar (unit : Nat) : Char :=
  if isHighSurrogate unit || isLowSurrogate unit then '\uFFFD' else Char.ofNat unit

/-- The character of a surrogate pair. -/
def pairChar (high low : Nat) : Char :=
  Char.ofNat (0x10000 + (high - 0xD800) * 0x400 + (low - 0xDC00))

/-- Completes a `\u` escape whose code unit is read: a high surrogate takes a low one that follows
it. -/
def readPair (unit : Nat) (rest : List Char) : Except Stop (Char × List Char) :=
  match rest with
  | '\\' :: 'u' :: second =>
    if isHighSurrogate unit && 4 < second.length then do
      let (low, after) ← readUnit second
      if isLowSurrogate low then return (pairChar unit low, after) else return (unitChar unit, rest)
    else .ok (unitChar unit, rest)
  | _ => .ok (unitChar unit, rest)

/-- The character that a backslash and a letter stand for. -/
def simpleEscape? : Char → Option Char
  | '"' => some '"'
  | '\\' => some '\\'
  | '/' => some '/'
  | 'b' => some '\x08'
  | 'f' => some '\x0c'
  | 'n' => some '\n'
  | 'r' => some '\r'
  | 't' => some '\t'
  | _ => none

/-- Reads one character of a string, or `none` at the closing mark. `opening` is the text from the
opening mark on. -/
def readElement (opening : List Char) : List Char → Except Stop (Option Char × List Char)
  | [] | ['\\'] => .error (.problem .openString opening)
  | '"' :: rest => .ok (none, rest)
  | '\\' :: 'u' :: rest => do
    let (unit, after) ← readUnit rest
    let (c, after) ← readPair unit after
    return (some c, after)
  | '\\' :: c :: rest =>
    match simpleEscape? c with
    | some meant => .ok (some meant, rest)
    | none => .error (.problem .escape ('\\' :: c :: rest))
  | c :: rest =>
    if c.toNat < 0x20 then .error (.problem .controlCharacter (c :: rest)) else .ok (some c, rest)

/-- Reads the rest of a string up to its closing mark. -/
def readString (opening : List Char) : (fuel : Nat) → List Char → Except Stop (List Char × List Char)
  | 0, _ => .error (.problem .openString opening)
  | fuel + 1, chars => do
    let (element, rest) ← readElement opening chars
    match element with
    | none => return ([], rest)
    | some c =>
      let (text, after) ← readString opening fuel rest
      return (c :: text, after)

/-! ## Numbers and constants -/

/-- Splits the digits after a point off, if a point and a digit come first. -/
def takeFraction (chars : List Char) : Option (List Char) × List Char :=
  match chars with
  | '.' :: rest =>
    let digits := rest.takeWhile Char.isDigit
    if digits.isEmpty then (none, chars) else (some digits, rest.dropWhile Char.isDigit)
  | _ => (none, chars)

/-- Splits an exponent off, if one comes first. -/
def takeExponent (chars : List Char) : Option Int × List Char :=
  match chars with
  | mark :: rest =>
    let (negative, unsigned) := takeSign rest
    let digits := unsigned.takeWhile Char.isDigit
    if (mark == 'e' || mark == 'E') && !digits.isEmpty then
      (some (signed negative (Text.digitsValue digits)), unsigned.dropWhile Char.isDigit)
    else (none, chars)
  | [] => (none, chars)

/-- Splits the digits before the point off; a leading zero stands alone. -/
def takeWhole : List Char → List Char × List Char
  | '0' :: rest => (['0'], rest)
  | chars => (chars.takeWhile Char.isDigit, chars.dropWhile Char.isDigit)

/-- Splits the sign of a number off. -/
def takeMinus : List Char → Bool × List Char
  | '-' :: rest => (true, rest)
  | chars => (false, chars)

/-- The value of a numeral: whole unless it has a point or an exponent. -/
def numeralValue (numeral : Numeral) : Except Stop Value :=
  if numeral.isWhole then
    if digitLimit < numeral.whole.length then .error (.digits numeral.whole.length)
    else .ok (.int (signed numeral.negative (Text.digitsValue numeral.whole)))
  else .ok (.float numeral.toBinary64)

/-- Reads a number. -/
def readNumber (chars : List Char) : Except Stop (Value × List Char) :=
  let (negative, unsigned) := takeMinus chars
  let (whole, rest) := takeWhole unsigned
  let (fraction, rest) := takeFraction rest
  let (exponent, rest) := takeExponent rest
  if whole.isEmpty then .error (.problem .value chars)
  else (numeralValue ⟨negative, whole, fraction, exponent⟩).map fun value => (value, rest)

/-- The values that are written as names. -/
def constants : List (List Char × Value) :=
  [("null".toList, .null), ("true".toList, .bool true), ("false".toList, .bool false),
   ("NaN".toList, .float .nan), ("Infinity".toList, .float (.infinite false)),
   ("-Infinity".toList, .float (.infinite true))]

/-- Reads a name. -/
def readConstant? (chars : List Char) : Option (Value × List Char) :=
  constants.findSome? fun (name, value) =>
    if name.isPrefixOf chars then some (value, chars.drop name.length) else none

/-- Reads a value that is neither a string nor a container. -/
def readScalar (chars : List Char) : Except Stop (Value × List Char) :=
  match readConstant? chars with
  | some reading => .ok reading
  | none => readNumber chars

/-! ## Values -/

/-- A mapping from its fields as they stand in the text. -/
def collect (fields : List (String × Value)) : Fields :=
  fields.foldl (fun collected field => collected.set field.1 field.2) []

mutual

/-- Reads a value that begins at the first character. -/
def readValue : (fuel : Nat) → List Char → Except Stop (Value × List Char)
  | 0, chars => .error (.problem .value chars)
  | fuel + 1, '"' :: rest => do
    let (text, after) ← readString ('"' :: rest) fuel rest
    return (.text (String.ofList text), after)
  | fuel + 1, '[' :: rest =>
    match skipBlanks rest with
    | ']' :: after => .ok (.list [], after)
    | chars => do
      let (items, after) ← readItems fuel chars
      return (.list items, after)
  | fuel + 1, '{' :: rest =>
    match skipBlanks rest with
    | '}' :: after => .ok (.dict [], after)
    | chars => do
      let (fields, after) ← readFields fuel chars
      return (.dict (collect fields), after)
  | _ + 1, chars => readScalar chars

/-- Reads the items of a list, from the first one to the closing bracket. -/
def readItems : (fuel : Nat) → List Char → Except Stop (List Value × List Char)
  | 0, chars => .error (.problem .value chars)
  | fuel + 1, chars => do
    let (item, rest) ← readValue fuel chars
    match skipBlanks rest with
    | ']' :: after => return ([item], after)
    | ',' :: after =>
      let (items, last) ← readItems fuel (skipBlanks after)
      return (item :: items, last)
    | other => .error (.problem .comma other)

/-- Reads the fields of a mapping, from the first key to the closing brace. -/
def readFields : (fuel : Nat) → List Char → Except Stop (List (String × Value) × List Char)
  | fuel + 1, '"' :: rest => do
    let (key, rest) ← readString ('"' :: rest) fuel rest
    match skipBlanks rest with
    | ':' :: rest =>
      let (value, rest) ← readValue fuel (skipBlanks rest)
      let field := (String.ofList key, value)
      match skipBlanks rest with
      | '}' :: after => return ([field], after)
      | ',' :: after =>
        let (fields, last) ← readFields fuel (skipBlanks after)
        return (field :: fields, last)
      | other => .error (.problem .comma other)
    | other => .error (.problem .colon other)
  | _, chars => .error (.problem .key chars)

end

/-- Reads a whole text as one value. -/
def readAll (chars : List Char) : Except Stop Value :=
  match chars with
  | '\uFEFF' :: _ => .error (.problem .byteOrderMark chars)
  | _ => do
    let (value, rest) ← readValue (2 * chars.length + 2) (skipBlanks chars)
    match skipBlanks rest with
    | [] => return value
    | extra => .error (.problem .extraData extra)

/-! ## Places -/

/-- A place in a text: line and column count from one, characters from zero. -/
structure Place where
  line : Nat
  column : Nat
  offset : Nat
  deriving DecidableEq, Repr

/-- The place that some characters lead up to. -/
def Place.after (before : List Char) : Place where
  line := before.count '\n' + 1
  column := (before.reverse.takeWhile (· != '\n')).length + 1
  offset := before.length

/-- Why a text is no JSON value that the program takes. -/
inductive ReadError where
  | problem (what : Problem) (place : Place)
  | digits (count : Nat)
  deriving DecidableEq, Repr

/-- The wording of a problem with its place. -/
def placedMessage (what : Problem) (place : Place) : String :=
  what.message ++ ": line " ++ toString place.line ++ " column " ++ toString place.column
    ++ " (char " ++ toString place.offset ++ ")"

/-- Gives a stop its place in the text that was read. -/
def Stop.located (chars : List Char) : Stop → ReadError
  | .problem what rest => .problem what (Place.after (chars.take (chars.length - rest.length)))
  | .digits count => .digits count

/-- Reads a text. -/
def read (text : String) : Except ReadError Value :=
  (readAll text.toList).mapError (Stop.located text.toList)

end NodeFlow.Json
