/-!
# UTF-8 files

Reading a file's bytes as text, with the place and the reason of the first fault, and the folding
of line ends. Main statement: the bytes of a text read back as that text.
-/

namespace NodeFlow.Text

/-- What is wrong with a byte sequence. -/
inductive Utf8Reason where
  | startByte
  | continuationByte
  | endOfData
  deriving DecidableEq, Repr

/-- The wording of a reason. -/
def Utf8Reason.message : Utf8Reason → String
  | startByte => "invalid start byte"
  | continuationByte => "invalid continuation byte"
  | endOfData => "unexpected end of data"

/-- The bytes that cannot be read: the first one, its position, and how many there are. -/
structure Utf8Fault where
  byte : UInt8
  position : Nat
  span : Nat
  reason : Utf8Reason
  deriving DecidableEq, Repr

/-- The wording of a fault; a span of several bytes is given by its ends. -/
def Utf8Fault.message (fault : Utf8Fault) : String :=
  let place :=
    if fault.span ≤ 1 then
      let digits := Nat.toDigits 16 fault.byte.toNat
      let padding := if digits.length < 2 then "0" else ""
      "byte 0x" ++ padding ++ String.ofList digits ++ " in position " ++ toString fault.position
    else
      "bytes in position " ++ toString fault.position ++ "-"
        ++ toString (fault.position + fault.span - 1)
  "'utf-8' codec can't decode " ++ place ++ ": " ++ fault.reason.message

/-- Checks the continuation bytes of a sequence of which `seen` bytes are read and `missing` are
to come; the next one lies between `low` and `high`, later ones between 80 and BF. -/
def continuationFault (low high : UInt8) (seen : Nat) :
    (missing : Nat) → List UInt8 → Option (Nat × Utf8Reason)
  | 0, _ => none
  | _ + 1, [] => some (seen, .endOfData)
  | missing + 1, byte :: rest =>
    if low ≤ byte && byte ≤ high then continuationFault 0x80 0xBF (seen + 1) missing rest
    else some (seen, .continuationByte)

/-- How many continuation bytes a first byte calls for, and the range of the first of them. -/
def leadByte? (byte : UInt8) : Option (Nat × UInt8 × UInt8) :=
  if byte < 0x80 then some (0, 0x80, 0xBF)
  else if byte < 0xC2 then none
  else if byte < 0xE0 then some (1, 0x80, 0xBF)
  else if byte == 0xE0 then some (2, 0xA0, 0xBF)
  else if byte == 0xED then some (2, 0x80, 0x9F)
  else if byte < 0xF0 then some (2, 0x80, 0xBF)
  else if byte == 0xF0 then some (3, 0x90, 0xBF)
  else if byte < 0xF4 then some (3, 0x80, 0xBF)
  else if byte == 0xF4 then some (3, 0x80, 0x8F)
  else none

/-- The first fault of a byte sequence; `skip` bytes at its head belong to a character that is
already checked. -/
def findFault (position skip : Nat) : List UInt8 → Option Utf8Fault
  | [] => none
  | byte :: rest =>
    if 0 < skip then findFault (position + 1) (skip - 1) rest
    else
      match leadByte? byte with
      | none => some ⟨byte, position, 1, .startByte⟩
      | some (missing, low, high) =>
        match continuationFault low high 1 missing rest with
        | some (span, reason) => some ⟨byte, position, span, reason⟩
        | none => findFault (position + 1) missing rest

/-- The text of a file, or the first fault in its bytes. -/
def decodeUtf8 (bytes : ByteArray) : Except Utf8Fault String :=
  match String.fromUTF8? bytes with
  | some text => .ok text
  | none => .error ((findFault 0 0 bytes.toList).getD ⟨0, bytes.size, 1, .endOfData⟩)

/-- Both a carriage return with its line feed and a lone carriage return become a line feed. -/
def foldLineEnds : List Char → List Char
  | [] => []
  | '\r' :: '\n' :: rest => '\n' :: foldLineEnds rest
  | '\r' :: rest => '\n' :: foldLineEnds rest
  | c :: rest => c :: foldLineEnds rest

theorem decodeUtf8_toUTF8 (text : String) : decodeUtf8 text.toUTF8 = .ok text := by
  have valid : text.toUTF8.IsValidUTF8 := text.isValidUTF8
  simp only [decodeUtf8, String.fromUTF8?, valid, dif_pos]
  rfl

example : foldLineEnds "a\r\nb\rc\n".toList = "a\nb\nc\n".toList := by decide

end NodeFlow.Text
