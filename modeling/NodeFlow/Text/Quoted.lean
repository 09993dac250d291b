import NodeFlow.Text.Printable

/-!
# Quoted text

How diagnostics show a text: between quotation marks, with backslash escapes for the mark, the
backslash, line breaks, tabs and everything that is not printable. The mark is an apostrophe
unless the text holds apostrophes and no double quotes.
-/

namespace NodeFlow.Text

/-- The lower-case hexadecimal digits of a number, padded with zeros to a width. -/
def hexDigits (width number : Nat) : List Char :=
  let digits := Nat.toDigits 16 number
  List.replicate (width - digits.length) '0' ++ digits

/-- The mark that surrounds a text. -/
def quotationMark (chars : List Char) : Char :=
  if chars.contains '\'' && !chars.contains '"' then '"' else '\''

/-- One character inside the marks. -/
def escapeQuoted (mark c : Char) : List Char :=
  if c == mark || c == '\\' then ['\\', c]
  else if c == '\n' then ['\\', 'n']
  else if c == '\r' then ['\\', 'r']
  else if c == '\t' then ['\\', 't']
  else if isPrintable c then [c]
  else if c.toNat < 0x100 then '\\' :: 'x' :: hexDigits 2 c.toNat
  else if c.toNat < 0x10000 then '\\' :: 'u' :: hexDigits 4 c.toNat
  else '\\' :: 'U' :: hexDigits 8 c.toNat

/-- A text as diagnostics show it. -/
def quote (text : String) : String :=
  let chars := text.toList
  let mark := quotationMark chars
  String.ofList (mark :: chars.flatMap (escapeQuoted mark) ++ [mark])

example : quote "n1" = "'n1'" := by decide +kernel
example : quote "it's" = "\"it's\"" := by decide +kernel
example : quote "'\"" = "'\\'\"'" := by decide +kernel
example : quote "a\n\x7f\u200b" = "'a\\n\\x7f\\u200b'" := by decide +kernel

end NodeFlow.Text
