/-!
# Terminal control sequences

Output that goes to no terminal is freed of the sequences that set colours and move the cursor: an
escape character, `[`, parameters, and a letter. Main statement: a text without escape characters
stays as it is.
-/

namespace NodeFlow.Text

/-- The character that introduces a sequence. -/
def escapeChar : Char := '\x1b'

/-- Whether a character belongs to the parameters of a sequence. -/
def isParameter (c : Char) : Bool :=
  c.isDigit || c == ';' || c == '?'

/-- How many characters after an escape character belong to its sequence; zero if there is none. -/
def sequenceLength : List Char → Nat
  | '[' :: rest =>
    match rest.dropWhile isParameter with
    | final :: _ => if final.isAlpha then (rest.takeWhile isParameter).length + 2 else 0
    | [] => 0
  | _ => 0

/-- Drops the sequences of a text; `skip` characters at its head belong to one. -/
def dropSequences (skip : Nat) : List Char → List Char
  | [] => []
  | c :: rest =>
    if 0 < skip then dropSequences (skip - 1) rest
    else if c == escapeChar && 0 < sequenceLength rest then dropSequences (sequenceLength rest) rest
    else c :: dropSequences 0 rest

/-- A text as it appears outside terminals. -/
def withoutSequences (text : String) : String :=
  String.ofList (dropSequences 0 text.toList)

theorem dropSequences_eq_self {chars : List Char} (h : escapeChar ∉ chars) :
    dropSequences 0 chars = chars := by
  induction chars with
  | nil => rfl
  | cons c rest ih =>
    have other : c ≠ escapeChar := fun same => h (same ▸ List.mem_cons_self)
    simp [dropSequences, other, ih fun later => h (List.mem_cons_of_mem _ later)]

example : withoutSequences "\x1b[1;31mred\x1b[0m \x1b[" = "red \x1b[" := by decide +kernel

end NodeFlow.Text
