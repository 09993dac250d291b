import NodeFlow.Json.Reader
import NodeFlow.Proofs.Outcome

/-!
# What the readers of JSON text leave

A reader takes what it reads from the front of its text: the rest is shorter than the text. Beside
the lengths stand all the ways in which a value, items, fields and a whole text are read, so that
later proofs need not open the readers.
-/

namespace NodeFlow.Json

open Outcome (bind_eq_ok)

private theorem length_dropWhile_le (drops : Char → Bool) (chars : List Char) :
    (chars.dropWhile drops).length ≤ chars.length :=
  (List.dropWhile_suffix drops).length_le

theorem length_skipBlanks_le (chars : List Char) : (skipBlanks chars).length ≤ chars.length :=
  length_dropWhile_le _ chars

/-! ## Strings -/

/-- A code unit is read from four digits with something behind them. -/
theorem readUnit_eq_ok_iff {chars rest : List Char} {unit : Nat} :
    readUnit chars = .ok (unit, rest) ↔ ∃ a b c d : Char, ∃ w x y z,
      chars = a :: b :: c :: d :: rest ∧ rest ≠ [] ∧ hexValue? a = some w ∧ hexValue? b = some x ∧
        hexValue? c = some y ∧ hexValue? d = some z ∧ unit = ((w * 16 + x) * 16 + y) * 16 + z := by
  constructor
  · intro read
    unfold readUnit at read
    split at read
    · rename_i a b c d e behind
      split at read
      · rename_i w x y z first second third fourth
        cases read
        exact ⟨a, b, c, d, w, x, y, z, rfl, List.cons_ne_nil _ _, first, second, third, fourth, rfl⟩
      · cases read
    · cases read
  · rintro ⟨a, b, c, d, w, x, y, z, rfl, more, first, second, third, fourth, rfl⟩
    obtain ⟨e, behind, rfl⟩ := List.exists_cons_of_ne_nil more
    simp only [readUnit, first, second, third, fourth]

theorem four_lt_of_readUnit {chars rest : List Char} {unit : Nat}
    (read : readUnit chars = .ok (unit, rest)) : 4 < chars.length := by
  obtain ⟨a, b, c, d, w, x, y, z, rfl, more, _⟩ := readUnit_eq_ok_iff.1 read
  have behind := List.length_pos_of_ne_nil more
  simp only [List.length_cons]
  omega

theorem readElement_simple (opening : List Char) {c meant : Char}
    (known : simpleEscape? c = some meant) (rest : List Char) :
    readElement opening ('\\' :: c :: rest) = .ok (some meant, rest) := by
  unfold simpleEscape? at known
  split at known <;> cases known <;> rfl

theorem length_le_of_readPair {chars rest : List Char} {unit : Nat} {c : Char}
    (read : readPair unit chars = .ok (c, rest)) : rest.length ≤ chars.length := by
  unfold readPair at read
  split at read
  · split at read
    · obtain ⟨⟨low, after⟩, lowRead, done⟩ := bind_eq_ok.1 read
      obtain ⟨_, _, _, _, _, _, _, _, rfl, _⟩ := readUnit_eq_ok_iff.1 lowRead
      dsimp only at done
      split at done <;> obtain ⟨_, rfl⟩ := Prod.mk.inj (Except.ok.inj done)
      · simp only [List.length_cons]
        omega
      · exact Nat.le_refl _
    · cases read
      exact Nat.le_refl _
  · cases read
    exact Nat.le_refl _

/-- An element is read from what stands in front of the rest. -/
theorem length_lt_of_readElement {opening chars rest : List Char} {element : Option Char}
    (read : readElement opening chars = .ok (element, rest)) : rest.length < chars.length := by
  unfold readElement at read
  split at read
  · cases read
  · cases read
  · cases read
    simp
  · obtain ⟨⟨unit, after⟩, unitRead, read⟩ := bind_eq_ok.1 read
    obtain ⟨⟨c, rest⟩, pairRead, done⟩ := bind_eq_ok.1 read
    cases done
    obtain ⟨_, _, _, _, _, _, _, _, rfl, _⟩ := readUnit_eq_ok_iff.1 unitRead
    have shorter := length_le_of_readPair pairRead
    simp only [List.length_cons]
    omega
  · split at read
    · cases read
      simp only [List.length_cons]
      omega
    · cases read
  · split at read
    · cases read
    · cases read
      simp

/-- Behind `rest` a string goes on or ends. -/
def GoesOn (rest : List Char) : Prop :=
  ∃ opening next, readElement opening rest = .ok next

/-- A `\u` escape that is read has more than four characters behind its letter. -/
theorem GoesOn.long {second : List Char} (goesOn : GoesOn ('\\' :: 'u' :: second)) :
    4 < second.length := by
  obtain ⟨opening, next, read⟩ := goesOn
  obtain ⟨⟨unit, after⟩, unitRead, _⟩ := bind_eq_ok.1 read
  exact four_lt_of_readUnit unitRead

theorem goesOn_of_readString {opening chars : List Char} {fuel : Nat}
    {result : List Char × List Char} (read : readString opening fuel chars = .ok result) :
    GoesOn chars := by
  cases fuel with
  | zero => cases read
  | succ fuel =>
    obtain ⟨next, elementRead, _⟩ := bind_eq_ok.1 read
    exact ⟨opening, next, elementRead⟩

/-! ## Numbers and constants -/

theorem length_lt_of_readConstant? {chars rest : List Char} {value : Value}
    (read : readConstant? chars = some (value, rest)) : rest.length < chars.length := by
  have filled : ∀ entry ∈ constants, 0 < entry.1.length := by decide
  obtain ⟨entry, listed, matched⟩ := List.exists_of_findSome?_eq_some read
  have positive := filled entry listed
  dsimp only at matched
  split at matched
  · rename_i stands
    cases matched
    have fits := (List.isPrefixOf_iff_prefix.1 stands).length_le
    rw [List.length_drop]
    omega
  · cases matched

theorem takeMinus_of_ne {chars : List Char} (other : ∀ rest, chars ≠ '-' :: rest) :
    takeMinus chars = (false, chars) := by
  unfold takeMinus
  split
  · exact absurd rfl (other _)
  · rfl

theorem takeWhole_of_ne {chars : List Char} (other : ∀ rest, chars ≠ '0' :: rest) :
    takeWhole chars = (chars.takeWhile Char.isDigit, chars.dropWhile Char.isDigit) := by
  unfold takeWhole
  split
  · exact absurd rfl (other _)
  · rfl

theorem takeSign_of_ne {chars : List Char} (noMinus : ∀ rest, chars ≠ '-' :: rest)
    (noPlus : ∀ rest, chars ≠ '+' :: rest) : takeSign chars = (false, chars) := by
  unfold takeSign
  split
  · exact absurd rfl (noMinus _)
  · exact absurd rfl (noPlus _)
  · rfl

private theorem length_takeMinus_le (chars : List Char) :
    (takeMinus chars).2.length ≤ chars.length := by
  unfold takeMinus
  split <;> simp

private theorem takeWhole_eq_append (chars : List Char) :
    (takeWhole chars).1 ++ (takeWhole chars).2 = chars := by
  unfold takeWhole
  split
  · rfl
  · exact List.takeWhile_append_dropWhile

private theorem length_takeFraction_le (chars : List Char) :
    (takeFraction chars).2.length ≤ chars.length := by
  unfold takeFraction
  split
  · rename_i rest
    have digits := length_dropWhile_le Char.isDigit rest
    dsimp only
    split
    · exact Nat.le_refl _
    · exact Nat.le_succ_of_le digits
  · exact Nat.le_refl _

private theorem length_takeSign_le (chars : List Char) :
    (takeSign chars).2.length ≤ chars.length := by
  unfold takeSign
  split <;> simp

private theorem length_takeExponent_le (chars : List Char) :
    (takeExponent chars).2.length ≤ chars.length := by
  unfold takeExponent
  split
  · rename_i mark rest
    have digits := length_dropWhile_le Char.isDigit (takeSign rest).2
    have unsigned := length_takeSign_le rest
    dsimp only
    split
    · exact Nat.le_succ_of_le (Nat.le_trans digits unsigned)
    · exact Nat.le_refl _
  · exact Nat.le_refl _

/-- A number is read from what stands in front of the rest. -/
theorem length_lt_of_readNumber {chars rest : List Char} {value : Value}
    (read : readNumber chars = .ok (value, rest)) : rest.length < chars.length := by
  unfold readNumber at read
  dsimp only at read
  split at read
  · cases read
  · rename_i filled
    obtain ⟨_, _, done⟩ := Outcome.map_eq_ok.1 read
    cases done
    have unsigned := length_takeMinus_le chars
    have whole := congrArg List.length (takeWhole_eq_append (takeMinus chars).2)
    have positive := List.length_pos_iff.2 (List.isEmpty_iff.not.1 filled)
    rw [List.length_append] at whole
    have fraction := length_takeFraction_le (takeWhole (takeMinus chars).2).2
    have exponent := length_takeExponent_le (takeFraction (takeWhole (takeMinus chars).2).2).2
    omega

/-! ## Values and whole texts -/

/-- The ways in which a value is read: as a text, as a list or a mapping, or as a scalar if it
begins with none of their marks. -/
inductive ValueStep (fuel : Nat) : List Char → Value → List Char → Prop
  | text {inner text rest : List Char}
      (read : readString ('"' :: inner) fuel inner = .ok (text, rest)) :
      ValueStep fuel ('"' :: inner) (.text (String.ofList text)) rest
  | noItems {inner rest : List Char} (closes : skipBlanks inner = ']' :: rest) :
      ValueStep fuel ('[' :: inner) (.list []) rest
  | items {inner rest : List Char} {items : List Value}
      (filled : ∀ after, skipBlanks inner ≠ ']' :: after)
      (read : readItems fuel (skipBlanks inner) = .ok (items, rest)) :
      ValueStep fuel ('[' :: inner) (.list items) rest
  | noFields {inner rest : List Char} (closes : skipBlanks inner = '}' :: rest) :
      ValueStep fuel ('{' :: inner) (.dict []) rest
  | fields {inner rest : List Char} {fields : List (String × Value)}
      (filled : ∀ after, skipBlanks inner ≠ '}' :: after)
      (read : readFields fuel (skipBlanks inner) = .ok (fields, rest)) :
      ValueStep fuel ('{' :: inner) (.dict (collect fields)) rest
  | scalar {chars rest : List Char} {value : Value} (noMark : ∀ inner, chars ≠ '"' :: inner)
      (noBracket : ∀ inner, chars ≠ '[' :: inner) (noBrace : ∀ inner, chars ≠ '{' :: inner)
      (read : readScalar chars = .ok (value, rest)) : ValueStep fuel chars value rest

section

variable {fuel : Nat} {chars rest : List Char}

theorem readValue_eq_ok_iff {value : Value} :
    readValue (fuel + 1) chars = .ok (value, rest) ↔ ValueStep fuel chars value rest := by
  constructor
  · intro read
    unfold readValue at read
    split at read
    · cases read
    · rename_i same
      cases same
      obtain ⟨_, textRead, done⟩ := bind_eq_ok.1 read
      cases done
      exact .text textRead
    · rename_i same
      cases same
      split at read
      · rename_i closes
        cases read
        exact .noItems closes
      · rename_i filled
        obtain ⟨_, itemsRead, done⟩ := bind_eq_ok.1 read
        cases done
        exact .items filled itemsRead
    · rename_i same
      cases same
      split at read
      · rename_i closes
        cases read
        exact .noFields closes
      · rename_i filled
        obtain ⟨_, fieldsRead, done⟩ := bind_eq_ok.1 read
        cases done
        exact .fields filled fieldsRead
    · rename_i noMark noBracket noBrace
      exact .scalar noMark noBracket noBrace read
  · intro step
    cases step with
    | text textRead =>
      rw [readValue]
      exact bind_eq_ok.2 ⟨_, textRead, rfl⟩
    | noItems closes => simp only [readValue, closes]
    | items filled itemsRead =>
      rw [readValue]
      split
      · rename_i closes
        exact absurd closes (filled _)
      · exact bind_eq_ok.2 ⟨_, itemsRead, rfl⟩
    | noFields closes => simp only [readValue, closes]
    | fields filled fieldsRead =>
      rw [readValue]
      split
      · rename_i closes
        exact absurd closes (filled _)
      · exact bind_eq_ok.2 ⟨_, fieldsRead, rfl⟩
    | scalar noMark noBracket noBrace scalarRead =>
      rw [readValue]
      · exact scalarRead
      · exact noMark
      · exact noBracket
      · exact noBrace

/-- Items are read from an item, and behind it from a bracket or from a comma and more items. -/
theorem readItems_eq_ok_iff {items : List Value} :
    readItems (fuel + 1) chars = .ok (items, rest) ↔ ∃ item after,
      readValue fuel chars = .ok (item, after) ∧
        (skipBlanks after = ']' :: rest ∧ items = [item] ∨ ∃ next others,
          skipBlanks after = ',' :: next ∧ readItems fuel (skipBlanks next) = .ok (others, rest) ∧
            items = item :: others) := by
  rw [readItems]
  constructor
  · intro read
    obtain ⟨⟨item, after⟩, itemRead, read⟩ := bind_eq_ok.1 read
    refine ⟨item, after, itemRead, ?_⟩
    dsimp only at read
    split at read
    · rename_i closes
      cases read
      exact .inl ⟨closes, rfl⟩
    · rename_i next goesOn
      obtain ⟨⟨others, last⟩, othersRead, done⟩ := bind_eq_ok.1 read
      cases done
      exact .inr ⟨next, others, goesOn, othersRead, rfl⟩
    · cases read
  · rintro ⟨item, after, itemRead, ⟨closes, rfl⟩ | ⟨next, others, goesOn, othersRead, rfl⟩⟩
    · refine bind_eq_ok.2 ⟨_, itemRead, ?_⟩
      simp only [closes]
      rfl
    · refine bind_eq_ok.2 ⟨_, itemRead, ?_⟩
      simp only [goesOn]
      exact bind_eq_ok.2 ⟨_, othersRead, rfl⟩

/-- Fields are read from a key, a colon and a value, and behind them from a brace or from a comma
and more fields. -/
theorem readFields_eq_ok_iff {fields : List (String × Value)} :
    readFields (fuel + 1) chars = .ok (fields, rest) ↔ ∃ inner key afterKey behind value after,
      chars = '"' :: inner ∧ readString ('"' :: inner) fuel inner = .ok (key, afterKey) ∧
        skipBlanks afterKey = ':' :: behind ∧
        readValue fuel (skipBlanks behind) = .ok (value, after) ∧
        (skipBlanks after = '}' :: rest ∧ fields = [(String.ofList key, value)] ∨
          ∃ next others, skipBlanks after = ',' :: next ∧
            readFields fuel (skipBlanks next) = .ok (others, rest) ∧
            fields = (String.ofList key, value) :: others) := by
  constructor
  · intro read
    unfold readFields at read
    split at read
    · rename_i inner shape
      cases shape
      obtain ⟨⟨key, afterKey⟩, keyRead, read⟩ := bind_eq_ok.1 read
      dsimp only at read
      split at read
      · rename_i behind colon
        obtain ⟨⟨value, after⟩, valueRead, read⟩ := bind_eq_ok.1 read
        refine ⟨inner, key, afterKey, behind, value, after, rfl, keyRead, colon, valueRead, ?_⟩
        dsimp only at read
        split at read
        · rename_i closes
          cases read
          exact .inl ⟨closes, rfl⟩
        · rename_i next goesOn
          obtain ⟨⟨others, last⟩, othersRead, done⟩ := bind_eq_ok.1 read
          cases done
          exact .inr ⟨next, others, goesOn, othersRead, rfl⟩
        · cases read
      · cases read
    · cases read
  · rintro ⟨inner, key, afterKey, behind, value, after, rfl, keyRead, colon, valueRead, onward⟩
    rw [readFields]
    refine bind_eq_ok.2 ⟨_, keyRead, ?_⟩
    simp only [colon]
    refine bind_eq_ok.2 ⟨_, valueRead, ?_⟩
    rcases onward with ⟨closes, rfl⟩ | ⟨next, others, goesOn, othersRead, rfl⟩
    · simp only [closes]
      rfl
    · simp only [goesOn]
      exact bind_eq_ok.2 ⟨_, othersRead, rfl⟩

end

/-- A whole text is read as a value between blanks. -/
theorem readAll_eq_ok_iff {chars : List Char} {value : Value} :
    readAll chars = .ok value ↔ (∀ rest, chars ≠ '\uFEFF' :: rest) ∧ ∃ rest,
      readValue (2 * chars.length + 2) (skipBlanks chars) = .ok (value, rest) ∧
        skipBlanks rest = [] := by
  unfold readAll
  split
  · simp
  · rename_i noMark
    rw [bind_eq_ok]
    constructor
    · rintro ⟨⟨result, rest⟩, valueRead, ended⟩
      dsimp only at ended
      split at ended
      · rename_i nothing
        cases ended
        exact ⟨noMark, rest, valueRead, nothing⟩
      · cases ended
    · rintro ⟨_, rest, valueRead, nothing⟩
      exact ⟨_, valueRead, by simp only [nothing]; rfl⟩

theorem read_eq_ok_iff {text : String} {value : Value} :
    read text = .ok value ↔ readAll text.toList = .ok value := by
  unfold read
  cases readAll text.toList <;> simp [Except.mapError]

end NodeFlow.Json
