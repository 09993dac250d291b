import NodeFlow.Json.Reader
import NodeFlow.Json.Style

/-!
# Strings in JSON text

Each character that is escaped is read as one element, whatever follows it: the short escapes by
the table, code units by their four digits, and characters beyond the basic plane by the two
halves of their pair. Main statement: a quoted string is read back.
-/

namespace NodeFlow.Json

/-! ## Code units -/

private theorem hexValue?_digitChar {digit : Nat} (bound : digit < 16) :
    hexValue? (Nat.digitChar digit) = some digit := by
  revert digit
  decide

private theorem hexDigits_one {n : Nat} (bound : n < 16) : Text.hexDigits 1 n = [n.digitChar] := by
  unfold Text.hexDigits
  rw [Nat.toDigits_of_lt_base bound]
  rfl

private theorem hexDigits_succ {width : Nat} (positive : 0 < width) (n : Nat) :
    Text.hexDigits (width + 1) n = Text.hexDigits width (n / 16) ++ [(n % 16).digitChar] := by
  unfold Text.hexDigits
  by_cases small : n < 16
  · have quotient : n / 16 = 0 := by omega
    have remainder : n % 16 = n := by omega
    have one : width - 1 + 1 = width := by omega
    rw [Nat.toDigits_of_lt_base small, quotient, remainder, Nat.toDigits_zero]
    simp only [List.length_singleton, Nat.add_sub_cancel]
    rw [← List.replicate_succ', one]
  · rw [Nat.toDigits_of_base_le (by omega) (by omega)]
    simp

/-- A code unit has four digits. -/
theorem hexDigits_four {unit : Nat} (bound : unit < 0x10000) : Text.hexDigits 4 unit =
    [(unit / 16 / 16 / 16).digitChar, (unit / 16 / 16 % 16).digitChar, (unit / 16 % 16).digitChar,
      (unit % 16).digitChar] := by
  rw [hexDigits_succ (by omega), hexDigits_succ (by omega), hexDigits_succ (by omega),
    hexDigits_one (by omega)]
  rfl

/-- A code unit is read from its four digits. -/
theorem readUnit_hexDigits {unit : Nat} (bound : unit < 0x10000) (c : Char) (rest : List Char) :
    readUnit (Text.hexDigits 4 unit ++ c :: rest) = .ok (unit, c :: rest) := by
  have value : ((unit / 16 / 16 / 16 * 16 + unit / 16 / 16 % 16) * 16 + unit / 16 % 16) * 16 +
      unit % 16 = unit := by omega
  have first := hexValue?_digitChar (show unit / 16 / 16 / 16 < 16 by omega)
  have second := hexValue?_digitChar (show unit / 16 / 16 % 16 < 16 by omega)
  have third := hexValue?_digitChar (show unit / 16 % 16 < 16 by omega)
  have fourth := hexValue?_digitChar (show unit % 16 < 16 by omega)
  rw [hexDigits_four bound]
  simp only [List.cons_append, List.nil_append, readUnit, first, second, third, fourth, value]

/-- A code unit that is no half of a pair is a character of its own. -/
theorem readPair_of_single {unit : Nat} (notHigh : isHighSurrogate unit = false)
    (rest : List Char) : readPair unit rest = .ok (unitChar unit, rest) := by
  unfold readPair
  split
  · simp [notHigh]
  · rfl

/-- No character is half of a pair. -/
private theorem not_surrogate (c : Char) :
    isHighSurrogate c.toNat = false ∧ isLowSurrogate c.toNat = false := by
  have valid := c.valid
  unfold isHighSurrogate isLowSurrogate
  simp only [Bool.and_eq_false_iff, decide_eq_false_iff_not]
  unfold UInt32.isValidChar Nat.isValidChar at valid
  change c.toNat < 0xd800 ∨ 0xdfff < c.toNat ∧ c.toNat < 0x110000 at valid
  omega

private theorem unitChar_toNat (c : Char) : unitChar c.toNat = c := by
  obtain ⟨notHigh, notLow⟩ := not_surrogate c
  simp [unitChar, notHigh, notLow]

/-! ## Elements -/

private theorem readElement_unit (opening rest : List Char) :
    readElement opening ('\\' :: 'u' :: rest) = (do
      let (unit, after) ← readUnit rest
      let (c, after) ← readPair unit after
      return (some c, after)) := rfl

private theorem length_hexDigits {unit : Nat} (bound : unit < 0x10000) :
    (Text.hexDigits 4 unit).length = 4 := by
  rw [hexDigits_four bound]
  rfl

private theorem readElement_single (opening : List Char) {unit : Nat} (bound : unit < 0x10000)
    (notHigh : isHighSurrogate unit = false) (d : Char) (rest : List Char) :
    readElement opening (escapeUnit unit ++ d :: rest) = .ok (some (unitChar unit), d :: rest) := by
  have read := readUnit_hexDigits bound d rest
  have single := readPair_of_single notHigh (d :: rest)
  simp only [escapeUnit, List.cons_append, readElement_unit, read, bind, Except.bind, single]
  rfl

private theorem readElement_pair (opening : List Char) {high low : Nat} (highBound : high < 0x10000)
    (lowBound : low < 0x10000) (isHigh : isHighSurrogate high = true)
    (isLow : isLowSurrogate low = true) (d : Char) (rest : List Char) :
    readElement opening (escapeUnit high ++ (escapeUnit low ++ d :: rest)) =
      .ok (some (pairChar high low), d :: rest) := by
  have first := readUnit_hexDigits highBound '\\' ('u' :: (Text.hexDigits 4 low ++ d :: rest))
  have second := readUnit_hexDigits lowBound d rest
  have enough : 4 < (Text.hexDigits 4 low ++ d :: rest).length := by
    rw [List.length_append, length_hexDigits lowBound, List.length_cons]
    omega
  simp only [escapeUnit, List.cons_append, readElement_unit, first, bind, Except.bind, readPair,
    isHigh, enough, second, isLow, decide_true, Bool.and_self, if_true, pure, Except.pure]

private theorem exists_pair {c : Char} (beyond : 0x10000 ≤ c.toNat) :
    ∃ high low, escapeUnits c = escapeUnit high ++ escapeUnit low ∧ high < 0x10000 ∧
      low < 0x10000 ∧ isHighSurrogate high = true ∧ isLowSurrogate low = true ∧
      pairChar high low = c := by
  have bound : c.toNat < 0x110000 := by
    have valid := c.valid
    unfold UInt32.isValidChar Nat.isValidChar at valid
    change c.toNat < 0xd800 ∨ 0xdfff < c.toNat ∧ c.toNat < 0x110000 at valid
    omega
  obtain ⟨n, offset⟩ := Nat.exists_eq_add_of_le beyond
  have shape : escapeUnits c =
      escapeUnit (0xD800 + n / 0x400) ++ escapeUnit (0xDC00 + n % 0x400) := by
    have rest : 0x10000 + n - 0x10000 = n := by omega
    unfold escapeUnits
    rw [if_neg (by omega), offset, rest]
  have highBound : 0xD800 + n / 0x400 < 0x10000 := by omega
  have lowBound : 0xDC00 + n % 0x400 < 0x10000 := by omega
  have isHigh : isHighSurrogate (0xD800 + n / 0x400) = true := by
    simp only [isHighSurrogate, Bool.and_eq_true, decide_eq_true_eq]
    omega
  have isLow : isLowSurrogate (0xDC00 + n % 0x400) = true := by
    simp only [isLowSurrogate, Bool.and_eq_true, decide_eq_true_eq]
    omega
  have joined : pairChar (0xD800 + n / 0x400) (0xDC00 + n % 0x400) = c := by
    have code : 0x10000 + (0xD800 + n / 0x400 - 0xD800) * 0x400 +
        (0xDC00 + n % 0x400 - 0xDC00) = c.toNat := by omega
    rw [pairChar, code, Char.ofNat_toNat]
  exact ⟨_, _, shape, highBound, lowBound, isHigh, isLow, joined⟩

/-- A character that is written as code units is read from them. -/
theorem readElement_escapeUnits (opening : List Char) (c d : Char) (rest : List Char) :
    readElement opening (escapeUnits c ++ d :: rest) = .ok (some c, d :: rest) := by
  by_cases basic : c.toNat < 0x10000
  · have read := readElement_single opening basic (not_surrogate c).1 d rest
    rw [unitChar_toNat] at read
    rw [escapeUnits, if_pos basic, read]
  · obtain ⟨high, low, shape, highBound, lowBound, isHigh, isLow, joined⟩ :=
      exists_pair (Nat.not_lt.1 basic)
    rw [shape, List.append_assoc, readElement_pair opening highBound lowBound isHigh isLow, joined]

theorem readElement_plain (opening : List Char) {c : Char} (noMark : c ≠ '"')
    (noBackslash : c ≠ '\\') (visible : 0x20 ≤ c.toNat) (rest : List Char) :
    readElement opening (c :: rest) = .ok (some c, rest) := by
  unfold readElement
  split
  · rename_i same
    cases same
  · rename_i same
    exact absurd (List.cons.inj same).1 noBackslash
  · rename_i same
    exact absurd (List.cons.inj same).1 noMark
  · rename_i same
    exact absurd (List.cons.inj same).1 noBackslash
  · rename_i same
    exact absurd (List.cons.inj same).1 noBackslash
  · rename_i same
    obtain ⟨rfl, rfl⟩ := List.cons.inj same
    rw [if_neg (by omega)]

/-- A character that is escaped is read back, if anything follows it. -/
theorem readElement_escape (opening : List Char) (ascii : Bool) (c d : Char) (rest : List Char) :
    readElement opening (escape ascii c ++ d :: rest) = .ok (some c, d :: rest) := by
  unfold escape
  split
  · rfl
  · rfl
  · rfl
  · rfl
  · rfl
  · rfl
  · rfl
  · rename_i noMark noBackslash _ _ _ _ _
    split
    · exact readElement_escapeUnits opening c d rest
    · rename_i plain
      have visible : 0x20 ≤ c.toNat := by
        simp only [Bool.or_eq_true, decide_eq_true_eq, not_or] at plain
        omega
      exact readElement_plain opening noMark noBackslash visible (d :: rest)

/-! ## Strings -/

/-- A quoted string is read back. -/
theorem readString_escape (opening : List Char) (ascii : Bool) (chars rest : List Char)
    {fuel : Nat} (enough : chars.length < fuel) :
    readString opening fuel (chars.flatMap (escape ascii) ++ '"' :: rest) = .ok (chars, rest) := by
  induction chars generalizing fuel with
  | nil =>
    cases fuel with
    | zero => cases enough
    | succ fuel => rfl
  | cons c chars ih =>
    cases fuel with
    | zero => cases enough
    | succ fuel =>
      have later := ih (Nat.lt_of_succ_lt_succ enough)
      obtain ⟨d, after, shape⟩ : ∃ d after,
          chars.flatMap (escape ascii) ++ '"' :: rest = d :: after := by
        cases chars.flatMap (escape ascii) with
        | nil => exact ⟨_, _, rfl⟩
        | cons d more => exact ⟨d, _, rfl⟩
      have element := readElement_escape opening ascii c d after
      rw [List.flatMap_cons, List.append_assoc, shape]
      rw [shape] at later
      simp only [readString, element, bind, Except.bind, later]
      rfl

end NodeFlow.Json
