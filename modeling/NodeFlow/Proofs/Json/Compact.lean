import NodeFlow.Proofs.Json.String
import NodeFlow.Proofs.Value.Entries

/-!
# The grammar of compact JSON text

What a JSON text is, told without writing or reading one: the grammar of JSON with no blanks between
its tokens, so that all blanks stand inside strings. Numbers that are not finite have no text in it.
Main statement: the compact notation writes such texts for strings, numbers and constants, and for
every container whose values have such texts.
-/

namespace NodeFlow.Json

/-! ## The grammar -/

/-- A hexadecimal digit of either case. -/
def IsHexDigit (c : Char) : Prop :=
  c ∈ "0123456789abcdefABCDEF".toList

instance (c : Char) : Decidable (IsHexDigit c) :=
  inferInstanceAs (Decidable (_ ∈ _))

/-- One element between the quotation marks of a string: a character that stands for itself, one
that is named behind a backslash, or a code unit in four digits. -/
inductive ElementText : List Char → Prop
  | plain {c : Char} (visible : 0x20 ≤ c.toNat) (noMark : c ≠ '"') (noBackslash : c ≠ '\\') :
      ElementText [c]
  | named {c : Char} (known : c ∈ ['"', '\\', '/', 'b', 'f', 'n', 'r', 't']) :
      ElementText ['\\', c]
  | unit {digits : List Char} (four : digits.length = 4) (all : ∀ c ∈ digits, IsHexDigit c) :
      ElementText ('\\' :: 'u' :: digits)

/-- A string in its quotation marks. -/
inductive StringText : List Char → Prop
  | intro {elements : List (List Char)} (each : ∀ element ∈ elements, ElementText element) :
      StringText ('"' :: elements.flatten ++ ['"'])

/-- The exponent of a number: a letter, perhaps a sign, and digits. -/
inductive IsExponent : List Char → Prop
  | intro {letter : Char} {sign digits : List Char} (isLetter : letter ∈ ['e', 'E'])
      (isSign : sign ∈ [[], ['+'], ['-']]) (filled : digits ≠ []) (all : Digits digits) :
      IsExponent (letter :: (sign ++ digits))

/-- A number: digits without superfluous zeros in front, perhaps a point with digits behind it, and
perhaps an exponent. -/
inductive NumberText : List Char → Prop
  | intro (negative : Bool) {whole : List Char} {fraction exponent : Option (List Char)}
      (isWhole : IsWhole whole) (filled : fraction ≠ some []) (all : Digits (fraction.getD []))
      (isExponent : ∀ power ∈ exponent, IsExponent power) :
      NumberText ((if negative then ['-'] else []) ++
        (whole ++ (pointText fraction ++ exponent.getD [])))

mutual

/-- A JSON text with no blanks but those in its strings. -/
inductive CompactText : List Char → Prop
  | null : CompactText "null".toList
  | yes : CompactText "true".toList
  | no : CompactText "false".toList
  | number {text : List Char} (isNumber : NumberText text) : CompactText text
  | text {text : List Char} (isString : StringText text) : CompactText text
  | list {items : List (List Char)} (each : ∀ item ∈ items, CompactText item) :
      CompactText ('[' :: [','].intercalate items ++ [']'])
  | dict {members : List (List Char)} (each : ∀ member ∈ members, MemberText member) :
      CompactText ('{' :: [','].intercalate members ++ ['}'])

/-- A member of an object: its name and its value. -/
inductive MemberText : List Char → Prop
  | intro {name value : List Char} (isString : StringText name) (isText : CompactText value) :
      MemberText (name ++ ':' :: value)

end

/-! ## Strings -/

theorem isHexDigit_digitChar {digit : Nat} (bound : digit < 16) : IsHexDigit digit.digitChar := by
  revert digit
  decide

theorem elementText_escapeUnit {unit : Nat} (bound : unit < 0x10000) :
    ElementText (escapeUnit unit) := by
  refine .unit (by rw [hexDigits_four bound]; rfl) ?_
  rw [hexDigits_four bound]
  intro c member
  simp only [List.mem_cons, List.not_mem_nil, or_false] at member
  rcases member with rfl | rfl | rfl | rfl <;> exact isHexDigit_digitChar (by omega)

/-- The compact notation escapes each character as one element. -/
theorem elementText_escape (c : Char) : ElementText (escape false c) := by
  unfold escape
  split
  iterate 7 exact .named (by decide)
  rename_i noMark noBackslash _ _ _ _ _
  rw [Bool.false_and, Bool.or_false]
  by_cases control : c.toNat < 0x20
  · have small : c.toNat < 0x10000 := by omega
    rw [decide_eq_true control, if_pos rfl, escapeUnits, if_pos small]
    exact elementText_escapeUnit small
  · rw [decide_eq_false control]
    exact .plain (Nat.not_lt.1 control) noMark noBackslash

theorem stringText_quote (chars : List Char) : StringText (quote false chars) := by
  have each : ∀ element ∈ chars.map (escape false), ElementText element :=
    List.forall_mem_map.2 fun c _ => elementText_escape c
  simpa only [quote, List.flatMap] using StringText.intro each

/-! ## Numbers -/

theorem numberText_of_writeInt {n : Int} {text : List Char} (written : writeInt n = .ok text) :
    NumberText text := by
  have parts := @NumberText.intro (decide (n < 0)) _ none none (isWhole_toDigits n.natAbs)
    (by simp) (.zeros 0) (by simp)
  rw [(writeInt_eq_ok written).2]
  simpa [pointText] using parts

theorem isExponent_exponentText (power : Int) : IsExponent (Layout.data.exponentText power) := by
  have all := Digits.append
    (.zeros (2 - (Nat.toDigits 10 power.natAbs).length)) (.toDigits power.natAbs)
  by_cases negative : power < 0
  · have exponent := @IsExponent.intro 'e' ['-'] _ (by decide) (by decide) (by simp) all
    rw [Layout.exponentText, if_pos negative]
    exact exponent
  · have exponent := @IsExponent.intro 'e' ['+'] _ (by decide) (by decide) (by simp) all
    rw [Layout.exponentText, if_neg negative]
    exact exponent

/-- A decimal is written as a number. -/
theorem numberText_write (d : Decimal) (negative : Bool) :
    NumberText (Layout.data.write negative d) := by
  by_cases zero : d.coefficient = 0
  · rw [write_data_of_zero zero]
    exact @NumberText.intro negative _ (some ['0']) none (.inl rfl) (by simp) (.zeros 1) (by simp)
  · obtain ⟨whole, fraction, power, shape, writes⟩ := exists_writes_data zero negative
    have filled := fraction_ne_of_writes writes
    have spreads := writes.spreads
    rw [shape]
    cases power with
    | none =>
      exact @NumberText.intro negative _ fraction none spreads.isWhole filled spreads.all (by simp)
    | some power =>
      exact @NumberText.intro negative _ fraction (some (Layout.data.exponentText power))
        spreads.isWhole filled spreads.all (by simpa using isExponent_exponentText power)

/-! ## Containers -/

theorem intercalate_comma (first : List Char) (others : List (List Char)) :
    [','].intercalate (first :: others) = first ++ others.flatMap (',' :: ·) := by
  induction others generalizing first with
  | nil => simp
  | cons second others ih => simp [List.intercalate_cons_cons, ih]

section

open Value (writeEntries writeEnclosed)

variable {depth : Nat} {entries : List (List Char × Value)} {text : List Char}

/-- A part of a container's text is one of the entries, its label in front. -/
def ComesFrom (depth : Nat) (entries : List (List Char × Value)) (part : List Char) : Prop :=
  ∃ entry ∈ entries, ∃ written, entry.2.write compact depth = .ok written ∧
    part = entry.1 ++ written

theorem ComesFrom.cons {part : List Char} (comes : ComesFrom depth entries part)
    (entry : List Char × Value) : ComesFrom depth (entry :: entries) part := by
  obtain ⟨other, listed, written⟩ := comes
  exact ⟨other, List.mem_cons_of_mem _ listed, written⟩

theorem exists_parts_of_writeEntries (written : writeEntries compact depth entries = .ok text) :
    ∃ parts : List (List Char), (∀ part ∈ parts, ComesFrom depth entries part) ∧
      text = parts.flatMap (',' :: ·) := by
  induction entries generalizing text with
  | nil =>
    cases written
    exact ⟨[], List.forall_mem_nil _, rfl⟩
  | cons entry entries ih =>
    obtain ⟨label, value⟩ := entry
    obtain ⟨valueText, valueWritten, onward⟩ := Outcome.bind_eq_ok.1 written
    obtain ⟨others, othersWritten, done⟩ := Outcome.bind_eq_ok.1 onward
    cases done
    obtain ⟨parts, comes, rfl⟩ := ih othersWritten
    have first : ComesFrom depth ((label, value) :: entries) (label ++ valueText) :=
      ⟨_, List.mem_cons_self, _, valueWritten, rfl⟩
    refine ⟨(label ++ valueText) :: parts, List.forall_mem_cons.2 ⟨first, ?_⟩, ?_⟩
    · exact fun part member => (comes part member).cons _
    · simp [compact]

/-- A container is written as its parts between commas. -/
theorem exists_parts_of_writeEnclosed {left right : Char}
    (written : writeEnclosed compact depth left right entries = .ok text) :
    ∃ parts : List (List Char), (∀ part ∈ parts, ComesFrom (depth + 1) entries part) ∧
      text = left :: [','].intercalate parts ++ [right] := by
  cases entries with
  | nil =>
    cases written
    exact ⟨[], List.forall_mem_nil _, rfl⟩
  | cons entry entries =>
    obtain ⟨label, value⟩ := entry
    obtain ⟨valueText, valueWritten, onward⟩ := Outcome.bind_eq_ok.1 written
    obtain ⟨others, othersWritten, done⟩ := Outcome.bind_eq_ok.1 onward
    cases done
    obtain ⟨parts, comes, rfl⟩ := exists_parts_of_writeEntries othersWritten
    have first : ComesFrom (depth + 1) ((label, value) :: entries) (label ++ valueText) :=
      ⟨_, List.mem_cons_self, _, valueWritten, rfl⟩
    refine ⟨(label ++ valueText) :: parts, List.forall_mem_cons.2 ⟨first, ?_⟩, ?_⟩
    · exact fun part member => (comes part member).cons _
    · rw [intercalate_comma]
      simp [compact]

end

/-- A list whose items have compact texts has one. -/
theorem compactText_list {items : List Value} {depth : Nat} {text : List Char}
    (written : (Value.list items).write compact depth = .ok text)
    (each : ∀ item ∈ items, ∀ text, item.write compact (depth + 1) = .ok text → CompactText text) :
    CompactText text := by
  rw [Value.write_list] at written
  obtain ⟨parts, comes, rfl⟩ := exists_parts_of_writeEnclosed written
  refine .list fun part member => ?_
  obtain ⟨_, listed, itemText, itemWritten, rfl⟩ := comes part member
  obtain ⟨item, itemMember, rfl⟩ := List.mem_map.1 listed
  exact each item itemMember itemText itemWritten

/-- A mapping whose values have compact texts has one. -/
theorem compactText_dict {fields : Fields} {depth : Nat} {text : List Char}
    (written : (Value.dict fields).write compact depth = .ok text)
    (each : ∀ field ∈ fields, ∀ text, field.2.write compact (depth + 1) = .ok text →
      CompactText text) :
    CompactText text := by
  rw [Value.write_dict] at written
  obtain ⟨parts, comes, rfl⟩ := exists_parts_of_writeEnclosed written
  refine .dict fun part member => ?_
  obtain ⟨_, listed, valueText, valueWritten, rfl⟩ := comes part member
  obtain ⟨field, fieldMember, rfl⟩ := List.mem_map.1 listed
  have isText := each field fieldMember valueText valueWritten
  simpa [compact] using MemberText.intro (stringText_quote field.1.toList) isText

end NodeFlow.Json
