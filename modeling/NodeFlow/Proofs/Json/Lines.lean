import NodeFlow.Proofs.Json.Progress
import NodeFlow.Proofs.Json.RoundTrip
import NodeFlow.Text.Utf8

/-!
# Line ends in JSON text

Between tokens a line may end in a line feed, a carriage return or both; inside strings, numbers and
names none of them may stand. `SameLines` says of two texts that they differ in their line ends
only. Main statements: folding the line ends of a text keeps its lines, and a string, a number or a
constant that is read from a text is read from all texts of the same lines, and leaves texts of the
same lines.
-/

namespace NodeFlow.Json

open Outcome (bind_eq_ok)

/-! ## Texts of the same lines -/

/-- Whether the character ends a line. -/
def endsLine (c : Char) : Bool :=
  c == '\r' || c == '\n'

/-- Two texts that differ in their line ends only: where one of them has a row of line ends, the
other has one too. -/
inductive SameLines : List Char → List Char → Prop
  | nil : SameLines [] []
  | char {left right : List Char} (c : Char) (later : SameLines left right) :
      SameLines (c :: left) (c :: right)
  | ends {c d : Char} {more others left right : List Char}
      (row : ∀ e ∈ c :: more, endsLine e = true) (row' : ∀ e ∈ d :: others, endsLine e = true)
      (later : SameLines left right) :
      SameLines (c :: (more ++ left)) (d :: (others ++ right))

theorem isGap_of_endsLine {c : Char} (ends : endsLine c = true) : isGap c = true := by
  simp only [endsLine, Bool.or_eq_true, beq_iff_eq] at ends
  rcases ends with rfl | rfl <;> decide

/-- What holds of neither line end holds only of characters that end no line. -/
theorem endsLine_eq_false (holds : Char → Prop) (carriage : ¬ holds '\r') (feed : ¬ holds '\n')
    {c : Char} (here : holds c) : endsLine c = false := by
  by_contra ends
  simp only [endsLine, Bool.not_eq_false, Bool.or_eq_true, beq_iff_eq] at ends
  rcases ends with rfl | rfl
  · exact carriage here
  · exact feed here

theorem endsLine_of_isDigit {c : Char} (digit : c.isDigit = true) : endsLine c = false :=
  endsLine_eq_false (fun c => c.isDigit = true) (by decide) (by decide) digit

namespace SameLines

variable {left right : List Char}

theorem symm (same : SameLines left right) : SameLines right left := by
  induction same with
  | nil => exact .nil
  | char c _ ih => exact .char c ih
  | ends row row' _ ih => exact .ends row' row ih

/-- Folding the line ends of a text keeps its lines. -/
theorem foldLineEnds (chars : List Char) : SameLines chars (Text.foldLineEnds chars) := by
  induction chars using Text.foldLineEnds.induct with
  | case1 => exact .nil
  | case2 rest ih =>
    exact @ends '\r' '\n' ['\n'] [] rest _ (by simp [endsLine]) (by simp [endsLine]) ih
  | case3 rest _ ih =>
    rw [Text.foldLineEnds]
    · exact @ends '\r' '\n' [] [] rest _ (by simp [endsLine]) (by simp [endsLine]) ih
    · assumption
  | case4 c rest _ _ ih =>
    rw [Text.foldLineEnds]
    · exact .char c ih
    all_goals assumption

/-- A character that ends no line stands in both texts. -/
theorem cons {c : Char} (same : SameLines (c :: left) right) (plain : endsLine c = false) :
    ∃ rest, right = c :: rest ∧ SameLines left rest := by
  cases same with
  | char _ later => exact ⟨_, rfl, later⟩
  | ends row _ _ =>
    rw [row c List.mem_cons_self] at plain
    cases plain

/-- Characters that end no lines stand in both texts. -/
theorem append {chars : List Char} (same : SameLines (chars ++ left) right)
    (plain : ∀ c ∈ chars, endsLine c = false) :
    ∃ rest, right = chars ++ rest ∧ SameLines left rest := by
  induction chars generalizing right with
  | nil => exact ⟨right, rfl, same⟩
  | cons c chars ih =>
    obtain ⟨tail, rfl, behind⟩ := same.cons (plain c List.mem_cons_self)
    obtain ⟨rest, rfl, later⟩ := ih behind fun d member => plain d (List.mem_cons_of_mem _ member)
    exact ⟨rest, rfl, later⟩

theorem eq_nil_iff (same : SameLines left right) : left = [] ↔ right = [] := by
  cases same <;> simp

/-- A mark that ends no line and does not stand in front of one text does not in the other. -/
theorem ne_cons (same : SameLines left right) {mark : Char} (plain : endsLine mark = false)
    (other : ∀ rest, left ≠ mark :: rest) (rest : List Char) : right ≠ mark :: rest := by
  rintro rfl
  obtain ⟨rest', rfl, _⟩ := same.symm.cons plain
  exact other rest' rfl

/-- A mark that ends no line stands in front of both texts or of none. -/
theorem head (same : SameLines left right) {mark : Char} (plain : endsLine mark = false) :
    (∃ rest rest', left = mark :: rest ∧ right = mark :: rest' ∧ SameLines rest rest') ∨
      (∀ rest, left ≠ mark :: rest) ∧ ∀ rest, right ≠ mark :: rest := by
  by_cases stands : ∃ rest, left = mark :: rest
  · obtain ⟨rest, rfl⟩ := stands
    obtain ⟨rest', rfl, later⟩ := same.cons plain
    exact .inl ⟨rest, rest', rfl, rfl, later⟩
  · rw [not_exists] at stands
    exact .inr ⟨stands, same.ne_cons plain stands⟩

/-- Skipping blanks skips all line ends in front. -/
theorem skipBlanks (same : SameLines left right) :
    SameLines (Json.skipBlanks left) (Json.skipBlanks right) := by
  induction same with
  | nil => exact .nil
  | char c later ih =>
    by_cases blank : isGap c = true
    · have skipped := fun rest => @skipBlanks_append [c] (by simpa using blank) rest
      simp only [List.singleton_append] at skipped
      rw [skipped, skipped]
      exact ih
    · rw [Bool.not_eq_true] at blank
      rw [skipBlanks_cons blank, skipBlanks_cons blank]
      exact .char c later
  | ends row row' _ ih =>
    rw [← List.cons_append, ← List.cons_append,
      skipBlanks_append fun c member => isGap_of_endsLine (row c member),
      skipBlanks_append fun c member => isGap_of_endsLine (row' c member)]
    exact ih

/-- A row of digits ends at the end of a line. -/
theorem digits (same : SameLines left right) :
    left.takeWhile Char.isDigit = right.takeWhile Char.isDigit ∧
      SameLines (left.dropWhile Char.isDigit) (right.dropWhile Char.isDigit) := by
  induction same with
  | nil => exact ⟨rfl, .nil⟩
  | char c later ih =>
    by_cases digit : c.isDigit = true
    · simpa [List.takeWhile_cons, digit] using ih
    · simpa [List.takeWhile_cons, List.dropWhile_cons, digit] using SameLines.char c later
  | @ends c d more others left right row row' later ih =>
    have noDigit : ∀ e, endsLine e = true → e.isDigit = false := by
      intro e ends
      by_contra digit
      rw [endsLine_of_isDigit (Bool.not_eq_false _ ▸ digit)] at ends
      cases ends
    have first := noDigit c (row c List.mem_cons_self)
    have second := noDigit d (row' d List.mem_cons_self)
    simpa [List.takeWhile_cons, List.dropWhile_cons, first, second] using ends row row' later

end SameLines

/-! ## Strings -/

theorem endsLine_of_hexValue? {c : Char} {value : Nat} (known : hexValue? c = some value) :
    endsLine c = false :=
  endsLine_eq_false (fun c => hexValue? c = some value) nofun nofun known

theorem endsLine_of_simpleEscape? {c meant : Char} (known : simpleEscape? c = some meant) :
    endsLine c = false :=
  endsLine_eq_false (fun c => simpleEscape? c = some meant) nofun nofun known

theorem endsLine_of_visible {c : Char} (visible : 0x20 ≤ c.toNat) : endsLine c = false :=
  endsLine_eq_false (fun c => 0x20 ≤ c.toNat) (by decide) (by decide) visible

theorem SameLines.readUnit {left right rest : List Char} {unit : Nat}
    (same : SameLines left right) (read : Json.readUnit left = .ok (unit, rest)) :
    ∃ rest', Json.readUnit right = .ok (unit, rest') ∧ SameLines rest rest' := by
  obtain ⟨a, b, c, d, w, x, y, z, rfl, more, first, second, third, fourth, rfl⟩ :=
    readUnit_eq_ok_iff.1 read
  have plain : ∀ e ∈ [a, b, c, d], endsLine e = false := by
    simp [endsLine_of_hexValue? first, endsLine_of_hexValue? second, endsLine_of_hexValue? third,
      endsLine_of_hexValue? fourth]
  obtain ⟨rest', rfl, later⟩ := @append rest right [a, b, c, d] same plain
  refine ⟨rest', readUnit_eq_ok_iff.2 ?_, later⟩
  exact ⟨a, b, c, d, w, x, y, z, rfl, later.eq_nil_iff.not.1 more, first, second, third, fourth,
    rfl⟩

/-- The second half of a pair is looked for alike, unless the string breaks off behind it. -/
theorem SameLines.readPair {left right rest : List Char} {unit : Nat} {c : Char}
    (same : SameLines left right) (read : Json.readPair unit left = .ok (c, rest))
    (goesOn : GoesOn rest) :
    ∃ rest', Json.readPair unit right = .ok (c, rest') ∧ SameLines rest rest' := by
  unfold Json.readPair at read
  split at read
  · rename_i second
    obtain ⟨second', rfl, later⟩ := @append second right ['\\', 'u'] same (by simp [endsLine])
    split at read
    · rename_i pair
      obtain ⟨⟨low, after⟩, lowRead, done⟩ := bind_eq_ok.1 read
      obtain ⟨after', lowRead', behind⟩ := later.readUnit lowRead
      have pair' : (isHighSurrogate unit && decide (4 < second'.length)) = true := by
        simp only [Bool.and_eq_true, decide_eq_true_eq] at pair ⊢
        exact ⟨pair.1, four_lt_of_readUnit lowRead'⟩
      simp only [List.cons_append, List.nil_append, Json.readPair, pair', if_true, lowRead', bind,
        Except.bind]
      dsimp only at done
      split at done
      · rename_i isLow
        obtain ⟨rfl, rfl⟩ := Prod.mk.inj (Except.ok.inj done)
        exact ⟨after', by rw [if_pos isLow]; rfl, behind⟩
      · rename_i notLow
        obtain ⟨rfl, rfl⟩ := Prod.mk.inj (Except.ok.inj done)
        exact ⟨_, by rw [if_neg notLow]; rfl, same⟩
    · -- A string that goes on is long enough for the second escape, so the first one is no half.
      rename_i single
      cases read
      have notHigh : isHighSurrogate unit = false := by
        simpa [goesOn.long] using single
      exact ⟨_, readPair_of_single notHigh _, same⟩
  · rename_i other
    cases read
    refine ⟨right, ?_, same⟩
    unfold Json.readPair
    split
    · rename_i second
      obtain ⟨second', shape, _⟩ := @append second left ['\\', 'u'] same.symm (by simp [endsLine])
      exact absurd shape (other second')
    · rfl

/-- What is an element of a string in one text is one in the other, if the string goes on. -/
theorem SameLines.readElement {opening left right rest : List Char} {element : Option Char}
    (same : SameLines left right) (read : Json.readElement opening left = .ok (element, rest))
    (goesOn : element ≠ none → GoesOn rest) (opening' : List Char) :
    ∃ rest', Json.readElement opening' right = .ok (element, rest') ∧ SameLines rest rest' := by
  unfold Json.readElement at read
  split at read
  · cases read
  · cases read
  · cases read
    obtain ⟨rest', rfl, later⟩ := same.cons (by decide)
    exact ⟨rest', rfl, later⟩
  · rename_i behind
    obtain ⟨⟨unit, after⟩, unitRead, read⟩ := bind_eq_ok.1 read
    obtain ⟨⟨c, rest⟩, pairRead, done⟩ := bind_eq_ok.1 read
    cases done
    obtain ⟨behind', rfl, later⟩ := @append behind right ['\\', 'u'] same (by simp [endsLine])
    obtain ⟨after', unitRead', afterSame⟩ := later.readUnit unitRead
    obtain ⟨rest', pairRead', restSame⟩ := afterSame.readPair pairRead (goesOn (by simp))
    refine ⟨rest', ?_, restSame⟩
    exact bind_eq_ok.2 ⟨_, unitRead', bind_eq_ok.2 ⟨_, pairRead', rfl⟩⟩
  · rename_i c behind _
    split at read
    · rename_i meant known
      cases read
      have plain : ∀ e ∈ ['\\', c], endsLine e = false := by
        simpa [endsLine_of_simpleEscape? known] using show endsLine '\\' = false by decide
      obtain ⟨rest', rfl, later⟩ := @append rest right ['\\', c] same plain
      exact ⟨rest', readElement_simple opening' known rest', later⟩
    · cases read
  · rename_i c behind lone noMark _ simple
    split at read
    · cases read
    · rename_i shown
      cases read
      have visible := Nat.not_lt.1 shown
      have noBackslash : c ≠ '\\' := by
        rintro rfl
        cases rest with
        | nil => exact lone rfl rfl
        | cons d rest => exact simple d rest rfl rfl
      obtain ⟨rest', rfl, later⟩ := same.cons (endsLine_of_visible visible)
      exact ⟨rest', readElement_plain opening' noMark noBackslash visible rest', later⟩

/-- A string is read from all texts of the same lines. -/
theorem SameLines.readString {opening left right text rest : List Char} {fuel : Nat}
    (same : SameLines left right) (read : Json.readString opening fuel left = .ok (text, rest))
    (opening' : List Char) {fuel' : Nat} (enough : right.length ≤ fuel') :
    ∃ rest', Json.readString opening' fuel' right = .ok (text, rest') ∧ SameLines rest rest' ∧
      rest'.length < right.length := by
  induction fuel generalizing left right text fuel' with
  | zero => cases read
  | succ fuel ih =>
    obtain ⟨⟨element, behind⟩, elementRead, onward⟩ := bind_eq_ok.1 read
    have goesOn : element ≠ none → GoesOn behind := by
      intro more
      obtain ⟨c, rfl⟩ := Option.ne_none_iff_exists'.1 more
      obtain ⟨_, moreRead, _⟩ := bind_eq_ok.1 onward
      exact goesOn_of_readString moreRead
    obtain ⟨behind', elementRead', later⟩ := same.readElement elementRead goesOn opening'
    have shorter := length_lt_of_readElement elementRead'
    cases fuel' with
    | zero => omega
    | succ fuel' =>
      cases element with
      | none =>
        cases onward
        exact ⟨behind', bind_eq_ok.2 ⟨_, elementRead', rfl⟩, later, shorter⟩
      | some c =>
        obtain ⟨⟨more, last⟩, moreRead, done⟩ := bind_eq_ok.1 onward
        cases done
        obtain ⟨rest', moreRead', restSame, restShorter⟩ := ih later moreRead
          (show behind'.length ≤ fuel' by omega)
        refine ⟨rest', ?_, restSame, by omega⟩
        exact bind_eq_ok.2 ⟨_, elementRead', bind_eq_ok.2 ⟨_, moreRead', rfl⟩⟩

/-! ## Numbers and constants -/

/-- A reader of a part of a number takes the same part of all texts of the same lines. -/
def TakesAlike {α : Type} (take : List Char → α × List Char) : Prop :=
  ∀ {left right : List Char}, SameLines left right →
    (take left).1 = (take right).1 ∧ SameLines (take left).2 (take right).2

theorem takesAlike_takeMinus : TakesAlike takeMinus := by
  intro left right same
  rcases same.head (show endsLine '-' = false by decide) with
    ⟨_, _, rfl, rfl, later⟩ | ⟨bare, bare'⟩
  · exact ⟨rfl, later⟩
  · rw [takeMinus_of_ne bare, takeMinus_of_ne bare']
    exact ⟨rfl, same⟩

theorem takesAlike_takeWhole : TakesAlike takeWhole := by
  intro left right same
  rcases same.head (show endsLine '0' = false by decide) with
    ⟨_, _, rfl, rfl, later⟩ | ⟨bare, bare'⟩
  · exact ⟨rfl, later⟩
  · rw [takeWhole_of_ne bare, takeWhole_of_ne bare']
    exact same.digits

theorem takesAlike_takeFraction : TakesAlike takeFraction := by
  intro left right same
  rcases same.head (show endsLine '.' = false by decide) with
    ⟨_, _, rfl, rfl, later⟩ | ⟨bare, bare'⟩
  · obtain ⟨taken, dropped⟩ := later.digits
    simp only [takeFraction, taken]
    split
    · exact ⟨rfl, same⟩
    · exact ⟨rfl, dropped⟩
  · have whole : ∀ chars, (∀ rest, chars ≠ '.' :: rest) → takeFraction chars = (none, chars) := by
      intro chars other
      refine takeFraction_of_ne fun c head same => ?_
      obtain ⟨rest, shape⟩ := List.head?_eq_some_iff.1 head
      exact other rest (same ▸ shape)
    rw [whole left bare, whole right bare']
    exact ⟨rfl, same⟩

theorem takesAlike_takeSign : TakesAlike takeSign := by
  intro left right same
  rcases same.head (show endsLine '-' = false by decide) with
    ⟨_, _, rfl, rfl, later⟩ | ⟨noMinus, noMinus'⟩
  · exact ⟨rfl, later⟩
  rcases same.head (show endsLine '+' = false by decide) with
    ⟨_, _, rfl, rfl, later⟩ | ⟨noPlus, noPlus'⟩
  · exact ⟨rfl, later⟩
  rw [takeSign_of_ne noMinus noPlus, takeSign_of_ne noMinus' noPlus']
  exact ⟨rfl, same⟩

theorem takesAlike_takeExponent : TakesAlike takeExponent := by
  intro left right same
  cases same with
  | nil => exact ⟨rfl, .nil⟩
  | char c later =>
    obtain ⟨sign, unsigned⟩ := takesAlike_takeSign later
    obtain ⟨taken, dropped⟩ := unsigned.digits
    simp only [takeExponent, sign, taken]
    split
    · exact ⟨rfl, dropped⟩
    · exact ⟨rfl, .char c later⟩
  | @ends c d more others left right row row' later =>
    have unmarked : ∀ e tail, endsLine e = true → takeExponent (e :: tail) = (none, e :: tail) := by
      intro e tail ends
      have noMark : (e == 'e' || e == 'E') = false := by
        simp only [endsLine, Bool.or_eq_true, beq_iff_eq] at ends
        rcases ends with rfl | rfl <;> decide
      simp only [takeExponent, noMark, Bool.false_and, Bool.false_eq_true, if_false]
    rw [unmarked c _ (row c List.mem_cons_self), unmarked d _ (row' d List.mem_cons_self)]
    exact ⟨rfl, .ends row row' later⟩

/-- A number is read from all texts of the same lines. -/
theorem SameLines.readNumber {left right rest : List Char} {value : Value}
    (same : SameLines left right) (read : Json.readNumber left = .ok (value, rest)) :
    ∃ rest', Json.readNumber right = .ok (value, rest') ∧ SameLines rest rest' := by
  obtain ⟨minus, unsigned⟩ := takesAlike_takeMinus same
  obtain ⟨whole, afterWhole⟩ := takesAlike_takeWhole unsigned
  obtain ⟨fraction, afterFraction⟩ := takesAlike_takeFraction afterWhole
  obtain ⟨exponent, afterExponent⟩ := takesAlike_takeExponent afterFraction
  unfold Json.readNumber at read ⊢
  dsimp only at read ⊢
  rw [← minus, ← whole, ← fraction, ← exponent]
  split at read
  · cases read
  · rename_i filled
    obtain ⟨_, valued, done⟩ := Outcome.map_eq_ok.1 read
    cases done
    refine ⟨_, ?_, afterExponent⟩
    rw [if_neg filled, valued]
    rfl

/-- A name stands in front of both texts or of none. -/
theorem SameLines.isPrefixOf {left right name : List Char} (same : SameLines left right)
    (plain : ∀ c ∈ name, endsLine c = false) :
    (∃ rest rest', left = name ++ rest ∧ right = name ++ rest' ∧ SameLines rest rest') ∨
      name.isPrefixOf left = false ∧ name.isPrefixOf right = false := by
  by_cases stands : name <+: left
  · obtain ⟨rest, rfl⟩ := stands
    obtain ⟨rest', rfl, later⟩ := same.append plain
    exact .inl ⟨rest, rest', rfl, rfl, later⟩
  · have stands' : ¬ name <+: right := by
      rintro ⟨rest, rfl⟩
      obtain ⟨rest', rfl, _⟩ := same.symm.append plain
      exact stands ⟨rest', rfl⟩
    rw [← List.isPrefixOf_iff_prefix, Bool.not_eq_true] at stands stands'
    exact .inr ⟨stands, stands'⟩

/-- The same constant is read from all texts of the same lines. -/
theorem SameLines.readConstant? {left right : List Char} (same : SameLines left right) :
    Option.Rel (fun reading reading' => reading.1 = reading'.1 ∧ SameLines reading.2 reading'.2)
      (Json.readConstant? left) (Json.readConstant? right) := by
  have plain : ∀ entry ∈ constants, ∀ c ∈ entry.1, endsLine c = false := by
    simp [constants, endsLine]
  unfold Json.readConstant?
  generalize constants = entries at plain ⊢
  induction entries with
  | nil => exact .none
  | cons entry entries ih =>
    have later := ih fun other member => plain other (List.mem_cons_of_mem _ member)
    rw [List.findSome?_cons, List.findSome?_cons]
    rcases same.isPrefixOf (plain entry List.mem_cons_self) with
      ⟨rest, rest', rfl, rfl, behind⟩ | ⟨other, other'⟩
    · simpa using behind
    · simpa [other, other'] using later

/-- A number or a constant is read from all texts of the same lines. -/
theorem SameLines.readScalar {left right rest : List Char} {value : Value}
    (same : SameLines left right) (read : Json.readScalar left = .ok (value, rest)) :
    ∃ rest', Json.readScalar right = .ok (value, rest') ∧ SameLines rest rest' ∧
      rest'.length < right.length := by
  have alike := same.readConstant?
  unfold Json.readScalar at read ⊢
  cases constant : Json.readConstant? left with
  | some reading =>
    obtain ⟨other, behind⟩ := reading
    rw [constant] at read alike
    cases read
    cases constant' : Json.readConstant? right with
    | none =>
      rw [constant'] at alike
      cases alike
    | some reading' =>
      obtain ⟨value', rest'⟩ := reading'
      rw [constant'] at alike
      cases alike with
      | some both =>
        obtain ⟨rfl, later⟩ := both
        exact ⟨rest', rfl, later, length_lt_of_readConstant? constant'⟩
  | none =>
    rw [constant] at read alike
    cases constant' : Json.readConstant? right with
    | none =>
      obtain ⟨rest', read', later⟩ := same.readNumber read
      exact ⟨rest', read', later, length_lt_of_readNumber read'⟩
    | some reading' =>
      rw [constant'] at alike
      cases alike

end NodeFlow.Json
