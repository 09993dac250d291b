/-!
# Blanks

The characters that separate words, and the ways to drop them: at both ends of a text, or
everywhere but between words. Main statements: `trim` leaves no blank at either end and keeps a
text that has none there.
-/

namespace NodeFlow.Text

/-- The code points of the blanks: controls 9 to 13 and 28 to 31, the space, and the spaces and
line separators beyond ASCII. -/
def blankCodes : List Nat :=
  [0x09, 0x0A, 0x0B, 0x0C, 0x0D, 0x1C, 0x1D, 0x1E, 0x1F, 0x20, 0x85, 0xA0, 0x1680, 0x2000, 0x2001,
   0x2002, 0x2003, 0x2004, 0x2005, 0x2006, 0x2007, 0x2008, 0x2009, 0x200A, 0x2028, 0x2029, 0x202F,
   0x205F, 0x3000]

/-- Whether the character separates words. -/
def isBlank (c : Char) : Bool :=
  blankCodes.contains c.toNat

/-- Whether the character may surround a numeral that is read leniently: every blank but the four
information separators 28 to 31. -/
def isNumeralPadding (c : Char) : Bool :=
  isBlank c && !(0x1C ≤ c.toNat && c.toNat ≤ 0x1F)

/-- The characters without those in the class at either end. -/
def dropEnds (drops : Char → Bool) (chars : List Char) : List Char :=
  ((chars.dropWhile drops).reverse.dropWhile drops).reverse

/-- The characters without blanks at either end. -/
def trim (chars : List Char) : List Char :=
  dropEnds isBlank chars

/-- The words of a text: its maximal runs of characters that are no blanks. -/
def words (chars : List Char) : List (List Char) :=
  (chars.splitBy fun left right => isBlank left == isBlank right).filter fun run =>
    run.any fun c => !isBlank c

/-- The words of a text joined by single spaces. -/
def foldBlanks (text : String) : String :=
  String.ofList ([' '].intercalate (words text.toList))

theorem isBlank_of_isNumeralPadding {c : Char} (h : isNumeralPadding c = true) :
    isBlank c = true := by
  simp only [isNumeralPadding, Bool.and_eq_true] at h
  exact h.1

/-- What core takes for white space are blanks. -/
theorem isBlank_of_isWhitespace {c : Char} (h : c.isWhitespace = true) : isBlank c = true := by
  simp only [Char.isWhitespace, Bool.or_eq_true, decide_eq_true_eq] at h
  rcases h with ((rfl | rfl) | rfl) | rfl <;> decide

theorem head?_dropWhile {drops : Char → Bool} {chars : List Char} :
    ∀ c ∈ (chars.dropWhile drops).head?, drops c = false := by
  intro c head
  have first := List.head?_dropWhile_not drops chars
  rw [Option.mem_def.1 head] at first
  exact first

theorem getLast?_dropEnds {drops : Char → Bool} (chars : List Char) :
    ∀ c ∈ (dropEnds drops chars).getLast?, drops c = false := by
  rw [dropEnds, List.getLast?_reverse]
  exact head?_dropWhile

theorem head?_dropEnds {drops : Char → Bool} (chars : List Char) :
    ∀ c ∈ (dropEnds drops chars).head?, drops c = false := by
  intro c head
  refine @head?_dropWhile drops chars c ?_
  obtain ⟨dropped, split⟩ := @List.dropWhile_suffix Char (chars.dropWhile drops).reverse drops
  have kept : chars.dropWhile drops = dropEnds drops chars ++ dropped.reverse := by
    rw [dropEnds, ← List.reverse_append, split, List.reverse_reverse]
  rw [kept, List.head?_append, Option.mem_def.1 head]
  rfl

theorem dropEnds_eq_self {drops : Char → Bool} {chars : List Char}
    (first : ∀ c ∈ chars.head?, drops c = false) (last : ∀ c ∈ chars.getLast?, drops c = false) :
    dropEnds drops chars = chars := by
  have keeps : ∀ cs : List Char, (∀ c ∈ cs.head?, drops c = false) → cs.dropWhile drops = cs := by
    intro cs head
    cases cs with
    | nil => rfl
    | cons c cs => simp [List.dropWhile, head c rfl]
  rw [dropEnds, keeps chars first, keeps, List.reverse_reverse]
  simpa [List.head?_reverse] using last

example : blankCodes.length = 29 := rfl
example : foldBlanks " a \t b\u2003c\n" = "a b c" := by decide +kernel

end NodeFlow.Text
