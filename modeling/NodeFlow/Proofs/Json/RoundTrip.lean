import NodeFlow.Proofs.Json.Number
import NodeFlow.Proofs.Json.Progress
import NodeFlow.Proofs.Json.String
import NodeFlow.Proofs.Outcome

/-!
# JSON text reads back

What can be stored as JSON text is read back from it, in every notation: indented as in snapshots or
compact as in the log. A value's text is read whatever may follow a value; the statement for lists
and mappings goes by induction on their items. Main statement: the text of a storable value is read
as that value.
-/

namespace NodeFlow

theorem Keyed.set_of_absent {α : Type} {entries : Keyed α} {key : String}
    (absent : key ∉ entries.map (·.1)) (entry : α) :
    entries.set key entry = entries ++ [(key, entry)] := by
  induction entries with
  | nil => rfl
  | cons head rest ih =>
    simp only [List.map_cons, List.mem_cons, not_or] at absent
    rw [Keyed.set, if_neg (Ne.symm absent.1), ih absent.2, List.cons_append]

/-- The value has a JSON text that stands for it alone: whole numbers are short enough, and the keys
of mappings are distinct. -/
inductive Value.Storable : Value → Prop where
  | null : Storable .null
  | bool (b : Bool) : Storable (.bool b)
  | int (n : Int) (short : (Nat.toDigits 10 n.natAbs).length ≤ digitLimit) : Storable (.int n)
  | float (x : Binary64) : Storable (.float x)
  | text (s : String) : Storable (.text s)
  | list {items : List Value} (stored : ∀ item ∈ items, Storable item) : Storable (.list items)
  | dict {fields : Fields} (distinct : (fields.map (·.1)).Nodup)
      (stored : ∀ field ∈ fields, Storable field.2) : Storable (.dict fields)

namespace Json

/-! ## Blanks and line ends -/

/-- Whether the character is skipped between tokens. -/
def isGap (c : Char) : Bool :=
  c == ' ' || c == '\t' || c == '\n' || c == '\r'

/-- A value can begin with the character. -/
def OpensValue (c : Char) : Prop :=
  isGap c = false ∧ c ≠ ']' ∧ c ≠ '\uFEFF'

/-- A number or a name can begin with the character. -/
def OpensScalar (c : Char) : Prop :=
  OpensValue c ∧ c ≠ '"' ∧ c ≠ '[' ∧ c ≠ '{'

instance (c : Char) : Decidable (OpensValue c) :=
  inferInstanceAs (Decidable (_ ∧ _))

instance (c : Char) : Decidable (OpensScalar c) :=
  inferInstanceAs (Decidable (_ ∧ _))

theorem skipBlanks_cons {c : Char} (visible : isGap c = false) (rest : List Char) :
    skipBlanks (c :: rest) = c :: rest :=
  List.dropWhile_cons_of_neg (by simpa [isGap] using visible)

theorem skipBlanks_append {gap : List Char} (blank : ∀ c ∈ gap, isGap c = true)
    (rest : List Char) : skipBlanks (gap ++ rest) = skipBlanks rest :=
  List.dropWhile_append_of_pos blank

theorem mem_closers_of_isGap {c : Char} (blank : isGap c = true) : c ∈ closers := by
  simp only [isGap, Bool.or_eq_true, beq_iff_eq] at blank
  rcases blank with ((rfl | rfl) | rfl) | rfl <;> decide

theorem closed_cons {c : Char} (closes : c ∈ closers) (rest : List Char) : Closed (c :: rest) := by
  intro d head
  cases head
  exact closes

/-- Blanks may stand between a value and what closes it. -/
theorem closed_append {gap rest : List Char} (blank : ∀ c ∈ gap, isGap c = true)
    (closed : Closed rest) : Closed (gap ++ rest) := by
  cases gap with
  | nil => exact closed
  | cons c gap => exact closed_cons (mem_closers_of_isGap (blank c List.mem_cons_self)) _

theorem closed_nil : Closed [] := by
  intro c head
  cases head

/-! ## Notations -/

/-- The notations of JSON text. They differ in the characters that they escape and in the blanks
between tokens. -/
structure IsNotation (style : Style) : Prop where
  null : style.null = "null".toList
  yes : style.yes = "true".toList
  no : style.no = "false".toList
  float : style.float = Style.writeFloat "NaN" "Infinity"
  quote : ∃ ascii, style.quote = Json.quote ascii
  comma : style.comma = [',']
  colon : ∃ gap, style.colon = ':' :: gap ∧ ∀ c ∈ gap, isGap c = true
  newline : ∀ depth, ∀ c ∈ style.newline depth, isGap c = true

theorem isNotation_compact : IsNotation compact where
  null := rfl
  yes := rfl
  no := rfl
  float := rfl
  quote := ⟨false, rfl⟩
  comma := rfl
  colon := ⟨[], rfl, by simp⟩
  newline := by simp [compact]

theorem isNotation_indented : IsNotation indented where
  null := rfl
  yes := rfl
  no := rfl
  float := rfl
  quote := ⟨true, rfl⟩
  comma := rfl
  colon := ⟨[' '], rfl, by simp [isGap]⟩
  newline := by
    intro depth c member
    rcases List.mem_cons.1 member with rfl | inIndent
    · rfl
    · rw [List.eq_of_mem_replicate inIndent]
      rfl

/-! ## Scalars -/

/-- The text begins like a value and is read as the value, whatever follows it. -/
structure ReadsAs (value : Value) (text : List Char) : Prop where
  opens : ∃ c tail, text = c :: tail ∧ OpensValue c
  reads : ∀ rest fuel, Closed rest → 2 * text.length ≤ fuel →
    readValue fuel (text ++ rest) = .ok (value, rest)

theorem ReadsAs.skipBlanks_append {value : Value} {text : List Char} (readsAs : ReadsAs value text)
    (rest : List Char) : skipBlanks (text ++ rest) = text ++ rest := by
  obtain ⟨c, tail, shape, opens⟩ := readsAs.opens
  rw [shape, List.cons_append, skipBlanks_cons opens.1]

theorem readValue_scalar (fuel : Nat) {c : Char} (opens : OpensScalar c) (rest : List Char) :
    readValue (fuel + 1) (c :: rest) = readScalar (c :: rest) := by
  obtain ⟨_, noMark, noBracket, noBrace⟩ := opens
  unfold readValue
  split <;> simp_all

theorem ReadsAs.of_scalar {value : Value} {c : Char} {tail : List Char} (opens : OpensScalar c)
    (reads : ∀ rest, Closed rest → readScalar (c :: tail ++ rest) = .ok (value, rest)) :
    ReadsAs value (c :: tail) where
  opens := ⟨c, tail, rfl, opens.1⟩
  reads := by
    intro rest fuel closed enough
    cases fuel with
    | zero => simp at enough
    | succ fuel =>
      rw [List.cons_append, readValue_scalar fuel opens]
      exact reads rest closed

theorem readsAs_null : ReadsAs .null "null".toList :=
  .of_scalar (by decide) fun _ _ => rfl

theorem readsAs_bool (b : Bool) :
    ReadsAs (.bool b) (if b then "true".toList else "false".toList) := by
  cases b with
  | true => exact .of_scalar (by decide) fun _ _ => rfl
  | false => exact .of_scalar (by decide) fun _ _ => rfl

private theorem ne_of_isDigit {c d : Char} (digit : c.isDigit = true) (other : d.isDigit = false) :
    c ≠ d := by
  rintro rfl
  rw [digit] at other
  cases other

theorem opensScalar_of_isDigit {c : Char} (digit : c.isDigit = true) : OpensScalar c := by
  have different := fun d => @ne_of_isDigit c d digit
  refine ⟨⟨?_, different ']' (by decide), different '\uFEFF' (by decide)⟩,
    different '"' (by decide), different '[' (by decide), different '{' (by decide)⟩
  have blank := different ' ' (by decide)
  have tab := different '\t' (by decide)
  have line := different '\n' (by decide)
  have carriage := different '\r' (by decide)
  simp [isGap, blank, tab, line, carriage]

/-- What begins with a digit, or with a sign and a digit, is no constant. -/
private theorem readConstant?_number (negative : Bool) {c : Char} (digit : c.isDigit = true)
    (rest : List Char) : readConstant? ((if negative then ['-'] else []) ++ c :: rest) = none := by
  have different := fun d => (@ne_of_isDigit c d digit · |>.symm)
  have notNull := different 'n' (by decide)
  have notTrue := different 't' (by decide)
  have notFalse := different 'f' (by decide)
  have notNaN := different 'N' (by decide)
  have notInfinity := different 'I' (by decide)
  have notMinus := different '-' (by decide)
  cases negative <;>
    simp [readConstant?, constants, notNull, notTrue, notFalse, notNaN, notInfinity, notMinus]

theorem ReadsAs.of_number {negative : Bool} {c : Char} {tail : List Char} {value : Value}
    (digit : c.isDigit = true)
    (read : ∀ rest, Closed rest →
      readNumber ((if negative then ['-'] else []) ++ c :: tail ++ rest) = .ok (value, rest)) :
    ReadsAs value ((if negative then ['-'] else []) ++ c :: tail) := by
  have scalar : ∀ rest, Closed rest →
      readScalar ((if negative then ['-'] else []) ++ c :: tail ++ rest) = .ok (value, rest) := by
    intro rest closed
    have noConstant := readConstant?_number negative digit (tail ++ rest)
    rw [← List.cons_append, ← List.append_assoc] at noConstant
    rw [readScalar, noConstant]
    exact read rest closed
  cases negative with
  | true => exact .of_scalar (by decide) scalar
  | false => exact .of_scalar (opensScalar_of_isDigit digit) scalar

/-! ## Numbers and strings -/

theorem readsAs_int {n : Int} {text : List Char} (written : writeInt n = .ok text) :
    ReadsAs (.int n) text := by
  obtain ⟨c, tail, digits, digit⟩ := (isWhole_toDigits n.natAbs).cons
  have shape := (writeInt_eq_ok written).2
  rw [digits] at shape
  have read := fun rest closed => @readNumber_writeInt n text written rest closed
  rw [shape] at read ⊢
  exact .of_number digit read

theorem readsAs_float (x : Binary64) :
    ReadsAs (.float x) (Style.writeFloat "NaN" "Infinity" x) := by
  cases x with
  | nan => exact .of_scalar (by decide) fun _ _ => rfl
  | infinite negative =>
    cases negative with
    | true => exact .of_scalar (by decide) fun _ _ => rfl
    | false => exact .of_scalar (by decide) fun _ _ => rfl
  | finite negative units fits =>
    have text : Style.writeFloat "NaN" "Infinity" (.finite negative units fits) =
        Layout.data.write negative (Binary64.shortest units) := rfl
    have read := fun rest closed =>
      @readNumber_write (Binary64.shortest units) negative rest closed
    obtain ⟨c, tail, shape, digit⟩ := exists_digit_of_write (Binary64.shortest units) negative
    rw [Binary64.ofDecimal_shortest negative fits] at read
    rw [text]
    rw [shape] at read ⊢
    exact .of_number digit read

private theorem escape_ne_nil (ascii : Bool) (c : Char) : escape ascii c ≠ [] := by
  have unit : ∀ n, escapeUnit n ≠ [] := fun n => List.cons_ne_nil _ _
  have units : escapeUnits c ≠ [] := by
    unfold escapeUnits
    split
    · exact unit _
    · exact List.append_ne_nil_of_left_ne_nil (unit _) _
  unfold escape
  split
  all_goals first
    | exact List.cons_ne_nil _ _
    | split
      · exact units
      · exact List.cons_ne_nil _ _

private theorem length_le_flatMap_escape (ascii : Bool) (chars : List Char) :
    chars.length ≤ (chars.flatMap (escape ascii)).length := by
  induction chars with
  | nil => exact Nat.le_refl 0
  | cons c chars ih =>
    have nonempty := List.length_pos_iff.2 (escape_ne_nil ascii c)
    rw [List.flatMap_cons, List.length_append, List.length_cons]
    omega

/-- A quoted string is read up to its closing mark. -/
theorem readString_quote (ascii : Bool) {fuel : Nat} (chars rest : List Char)
    (enough : (quote ascii chars).length ≤ fuel) :
    ∃ inner, quote ascii chars ++ rest = '"' :: inner ∧
      readString ('"' :: inner) fuel inner = .ok (chars, rest) := by
  refine ⟨chars.flatMap (escape ascii) ++ '"' :: rest, ?_, ?_⟩
  · simp [quote]
  · apply readString_escape
    have longer := length_le_flatMap_escape ascii chars
    simp only [quote, List.length_append, List.length_cons, List.length_nil] at enough
    omega

theorem readsAs_text (ascii : Bool) (s : String) : ReadsAs (.text s) (quote ascii s.toList) where
  opens := ⟨'"', _, rfl, by decide⟩
  reads := by
    intro rest fuel _ enough
    have positive : 1 ≤ (quote ascii s.toList).length := Nat.succ_le_succ (Nat.zero_le _)
    cases fuel with
    | zero => omega
    | succ fuel =>
      obtain ⟨inner, shape, read⟩ := readString_quote ascii s.toList rest
        (show (quote ascii s.toList).length ≤ fuel by omega)
      rw [shape]
      simp only [readValue, read, bind, Except.bind, pure, Except.pure, String.ofList_toList]

/-! ## Distinct keys -/

/-- Fields of distinct keys stay as they stand in the text. -/
theorem collect_of_nodup {fields : List (String × Value)} (distinct : (fields.map (·.1)).Nodup) :
    collect fields = fields := by
  have onward : ∀ collected : Fields, (collected.map (·.1) ++ fields.map (·.1)).Nodup →
      fields.foldl (fun collected field => collected.set field.1 field.2) collected =
        collected ++ fields := by
    induction fields with
    | nil => exact fun collected _ => (List.append_nil collected).symm
    | cons field fields ih =>
      intro collected apart
      have absent : field.1 ∉ collected.map (·.1) := by
        intro present
        have different := (List.nodup_append.1 apart).2.2 field.1 present field.1 (by simp)
        exact different rfl
      have written : collected.set field.1 field.2 = collected ++ [field] :=
        Keyed.set_of_absent absent field.2
      rw [List.foldl_cons, written, ih (List.nodup_cons.1 distinct).2, List.append_assoc]
      · rfl
      · simpa using apart
  exact onward [] (by simpa using distinct)

section

variable {style : Style} (isNotation : IsNotation style)
include isNotation

/-! ## Lists -/

/-- Items behind the first one, and the closing bracket, are read one after the other. -/
theorem readItems_writeItems {items : List Value} (depth : Nat)
    (stored : ∀ item ∈ items, ∃ text, item.write style depth = .ok text ∧ ReadsAs item text) :
    ∃ others, Value.writeItems style depth items = .ok others ∧
      ∀ first text, ReadsAs first text → ∀ closing rest fuel,
        2 * (text.length + others.length) + 1 ≤ fuel →
        readItems fuel (text ++ (others ++ (style.newline closing ++ ']' :: rest))) =
          .ok (first :: items, rest) := by
  induction items with
  | nil =>
    refine ⟨[], by rw [Value.writeItems], ?_⟩
    intro first text readsAs closing rest fuel enough
    cases fuel with
    | zero => omega
    | succ fuel =>
      have blank := isNotation.newline closing
      have read := readsAs.reads (style.newline closing ++ ']' :: rest) fuel
        (closed_append blank (closed_cons (by decide) rest)) (by omega)
      have skipped := skipBlanks_append blank (']' :: rest)
      rw [skipBlanks_cons (by decide)] at skipped
      simp only [readItems, List.nil_append, read, bind, Except.bind, skipped]
      rfl
  | cons item items ih =>
    obtain ⟨text, written, readsAs⟩ := stored item List.mem_cons_self
    obtain ⟨others, othersWritten, later⟩ := ih fun item member =>
      stored item (List.mem_cons_of_mem _ member)
    refine ⟨',' :: (style.newline depth ++ text ++ others), ?_, ?_⟩
    · simp only [Value.writeItems, written, othersWritten, isNotation.comma, bind, Except.bind,
        pure, Except.pure]
      rfl
    · intro first firstText firstReads closing rest fuel enough
      simp only [List.length_cons, List.length_append] at enough
      cases fuel with
      | zero => omega
      | succ fuel =>
        have read := firstReads.reads (',' :: (style.newline depth ++ (text ++ (others ++
          (style.newline closing ++ ']' :: rest))))) fuel (closed_cons (by decide) _) (by omega)
        have onward := later item text readsAs closing rest fuel (by omega)
        have skipped : skipBlanks (style.newline depth ++ (text ++ (others ++
            (style.newline closing ++ ']' :: rest)))) =
              text ++ (others ++ (style.newline closing ++ ']' :: rest)) := by
          rw [skipBlanks_append (isNotation.newline depth), readsAs.skipBlanks_append]
        simp only [readItems, List.cons_append, List.append_assoc, read, bind, Except.bind,
          skipBlanks_cons (show isGap ',' = false by decide), skipped, onward]
        rfl

theorem readsAs_list {items : List Value} (depth : Nat)
    (stored : ∀ item ∈ items, ∃ text, item.write style (depth + 1) = .ok text ∧
      ReadsAs item text) :
    ∃ text, (Value.list items).write style depth = .ok text ∧ ReadsAs (.list items) text := by
  cases items with
  | nil =>
    refine ⟨['[', ']'], by rw [Value.write], ⟨'[', [']'], rfl, by decide⟩, ?_⟩
    intro rest fuel _ enough
    cases fuel with
    | zero => simp at enough
    | succ fuel =>
      have skipped := skipBlanks_cons (show isGap ']' = false by decide) rest
      simp only [List.cons_append, List.nil_append, readValue, skipped]
  | cons first items =>
    obtain ⟨text, written, readsAs⟩ := stored first List.mem_cons_self
    obtain ⟨others, othersWritten, read⟩ := readItems_writeItems isNotation (depth + 1)
      fun item member => stored item (List.mem_cons_of_mem _ member)
    refine ⟨'[' :: (style.newline (depth + 1) ++ text ++ others ++ style.newline depth
      ++ [']']), ?_, ⟨'[', _, rfl, by decide⟩, ?_⟩
    · simp only [Value.write, written, othersWritten, bind, Except.bind, pure, Except.pure]
      simp
    · intro rest fuel _ enough
      simp only [List.length_cons, List.length_append] at enough
      cases fuel with
      | zero => omega
      | succ fuel =>
        have all := read first text readsAs depth rest fuel (by omega)
        obtain ⟨c, tail, shape, opens⟩ := readsAs.opens
        have skipped : skipBlanks (style.newline (depth + 1) ++ (text ++ (others ++
            (style.newline depth ++ ']' :: rest)))) =
              c :: (tail ++ (others ++ (style.newline depth ++ ']' :: rest))) := by
          rw [skipBlanks_append (isNotation.newline _), shape, List.cons_append,
            skipBlanks_cons opens.1]
        rw [shape, List.cons_append] at all
        simp only [List.cons_append, List.append_assoc, List.nil_append, readValue, skipped]
        split
        · rename_i same
          exact absurd (List.cons.inj same).1 opens.2.1
        · rw [all]
          rfl

/-! ## Mappings -/

/-- The key and the value of a field are read up to what follows the field. -/
private theorem readFields_field {key : String} {value : Value} {text after : List Char}
    {fuel : Nat} (readsAs : ReadsAs value text) (closed : Closed after)
    (enough : 2 * ((style.quote key.toList).length + text.length) ≤ fuel) :
    ∃ inner between, style.quote key.toList ++ (style.colon ++ (text ++ after)) = '"' :: inner ∧
      readString ('"' :: inner) fuel inner = .ok (key.toList, ':' :: between) ∧
      readValue fuel (skipBlanks between) = .ok (value, after) := by
  obtain ⟨ascii, quoting⟩ := isNotation.quote
  obtain ⟨gap, colon, blank⟩ := isNotation.colon
  rw [quoting] at enough ⊢
  obtain ⟨inner, shape, read⟩ := readString_quote ascii key.toList
    (':' :: (gap ++ (text ++ after))) (show (quote ascii key.toList).length ≤ fuel by omega)
  refine ⟨inner, gap ++ (text ++ after), by rw [colon]; exact shape, read, ?_⟩
  rw [skipBlanks_append blank, readsAs.skipBlanks_append]
  exact readsAs.reads after fuel closed (by omega)

/-- A quoted key is no blank. -/
private theorem skipBlanks_quote (chars rest : List Char) :
    skipBlanks (style.quote chars ++ rest) = style.quote chars ++ rest := by
  obtain ⟨ascii, quoting⟩ := isNotation.quote
  rw [quoting]
  exact skipBlanks_cons (by decide) _

/-- The first field and what follows it, up to the closing brace, are read one after the other. -/
theorem readFields_writeFields {fields : List (String × Value)} (depth : Nat)
    (stored : ∀ field ∈ fields, ∃ text, field.2.write style depth = .ok text ∧
      ReadsAs field.2 text) :
    ∃ others, Value.writeFields style depth fields = .ok others ∧
      ∀ key first text, ReadsAs first text → ∀ closing rest fuel,
        2 * ((style.quote key.toList).length + text.length + others.length) + 1 ≤ fuel →
        readFields fuel (style.quote key.toList ++ (style.colon ++ (text ++ (others ++
            (style.newline closing ++ '}' :: rest))))) = .ok ((key, first) :: fields, rest) := by
  induction fields with
  | nil =>
    refine ⟨[], by rw [Value.writeFields], ?_⟩
    intro key first text readsAs closing rest fuel enough
    cases fuel with
    | zero => omega
    | succ fuel =>
      have blank := isNotation.newline closing
      obtain ⟨inner, between, shape, keyRead, valueRead⟩ := @readFields_field style isNotation key
        first text (style.newline closing ++ '}' :: rest) fuel readsAs
        (closed_append blank (closed_cons (by decide) rest)) (by omega)
      have skipped := skipBlanks_append blank ('}' :: rest)
      rw [skipBlanks_cons (by decide)] at skipped
      rw [List.nil_append, shape]
      simp only [readFields, keyRead, bind, Except.bind,
        skipBlanks_cons (show isGap ':' = false by decide), valueRead, skipped, pure, Except.pure,
        String.ofList_toList]
  | cons field fields ih =>
    obtain ⟨text, written, readsAs⟩ := stored field List.mem_cons_self
    obtain ⟨others, othersWritten, later⟩ := ih fun item member =>
      stored item (List.mem_cons_of_mem _ member)
    refine ⟨',' :: (style.newline depth ++ style.quote field.1.toList ++ style.colon ++ text ++
      others), ?_, ?_⟩
    · simp only [Value.writeFields, written, othersWritten, isNotation.comma, bind, Except.bind,
        pure, Except.pure]
      rfl
    · intro key first firstText firstReads closing rest fuel enough
      simp only [List.length_cons, List.length_append] at enough
      cases fuel with
      | zero => omega
      | succ fuel =>
        have onward := later field.1 field.2 text readsAs closing rest fuel (by omega)
        obtain ⟨inner, between, shape, keyRead, valueRead⟩ := @readFields_field style isNotation key
          first firstText (',' :: (style.newline depth ++ (style.quote field.1.toList ++
            (style.colon ++ (text ++ (others ++ (style.newline closing ++ '}' :: rest))))))) fuel
          firstReads (closed_cons (by decide) _) (by omega)
        have skipped : skipBlanks (style.newline depth ++ (style.quote field.1.toList ++
            (style.colon ++ (text ++ (others ++ (style.newline closing ++ '}' :: rest)))))) =
              style.quote field.1.toList ++ (style.colon ++ (text ++ (others ++
                (style.newline closing ++ '}' :: rest)))) := by
          rw [skipBlanks_append (isNotation.newline depth), skipBlanks_quote isNotation]
        simp only [List.cons_append, List.append_assoc]
        rw [shape]
        simp only [readFields, keyRead, bind, Except.bind,
          skipBlanks_cons (show isGap ':' = false by decide), valueRead,
          skipBlanks_cons (show isGap ',' = false by decide), skipped, onward, pure, Except.pure,
          String.ofList_toList]

theorem readsAs_dict {fields : Fields} (depth : Nat) (distinct : (fields.map (·.1)).Nodup)
    (stored : ∀ field ∈ fields, ∃ text, field.2.write style (depth + 1) = .ok text ∧
      ReadsAs field.2 text) :
    ∃ text, (Value.dict fields).write style depth = .ok text ∧ ReadsAs (.dict fields) text := by
  cases fields with
  | nil =>
    refine ⟨['{', '}'], by rw [Value.write], ⟨'{', ['}'], rfl, by decide⟩, ?_⟩
    intro rest fuel _ enough
    cases fuel with
    | zero => simp at enough
    | succ fuel =>
      have skipped := skipBlanks_cons (show isGap '}' = false by decide) rest
      simp only [List.cons_append, List.nil_append, readValue, skipped]
  | cons first fields =>
    obtain ⟨key, value⟩ := first
    obtain ⟨text, written, readsAs⟩ := stored (key, value) List.mem_cons_self
    obtain ⟨others, othersWritten, read⟩ := readFields_writeFields isNotation (depth + 1)
      fun item member => stored item (List.mem_cons_of_mem _ member)
    refine ⟨'{' :: (style.newline (depth + 1) ++ style.quote key.toList ++ style.colon ++ text
      ++ others ++ style.newline depth ++ ['}']), ?_, ⟨'{', _, rfl, by decide⟩, ?_⟩
    · simp only [Value.write, written, othersWritten, bind, Except.bind, pure, Except.pure]
      simp
    · intro rest fuel _ enough
      simp only [List.length_cons, List.length_append] at enough
      cases fuel with
      | zero => omega
      | succ fuel =>
        have all := read key value text readsAs depth rest fuel (by omega)
        obtain ⟨ascii, quoting⟩ := isNotation.quote
        have skipped : skipBlanks (style.newline (depth + 1) ++ (style.quote key.toList ++
            (style.colon ++ (text ++ (others ++ (style.newline depth ++ '}' :: rest)))))) =
              style.quote key.toList ++ (style.colon ++ (text ++ (others ++
                (style.newline depth ++ '}' :: rest)))) := by
          rw [skipBlanks_append (isNotation.newline _), skipBlanks_quote isNotation]
        rw [quoting] at all skipped ⊢
        simp only [List.cons_append, List.append_assoc, List.nil_append, readValue, skipped]
        refine Outcome.bind_eq_ok.2 ⟨_, all, ?_⟩
        rw [collect_of_nodup distinct]
        rfl

/-! ## Values -/

/-- The text of a storable value is read as that value. -/
theorem readsAs_of_storable {value : Value} (storable : value.Storable) (depth : Nat) :
    ∃ text, value.write style depth = .ok text ∧ ReadsAs value text := by
  induction storable generalizing depth with
  | null => exact ⟨_, by rw [Value.write, isNotation.null], readsAs_null⟩
  | bool b => exact ⟨_, by rw [Value.write, isNotation.yes, isNotation.no], readsAs_bool b⟩
  | int n short =>
    have written : ∃ text, writeInt n = .ok text := by
      unfold writeInt
      rw [if_neg (Nat.not_lt.2 short)]
      exact ⟨_, rfl⟩
    obtain ⟨text, written⟩ := written
    exact ⟨text, by rw [Value.write]; exact written, readsAs_int written⟩
  | float x => exact ⟨_, by rw [Value.write, isNotation.float], readsAs_float x⟩
  | text s =>
    obtain ⟨ascii, quoting⟩ := isNotation.quote
    exact ⟨_, by rw [Value.write, quoting], readsAs_text ascii s⟩
  | list _ ih => exact readsAs_list isNotation depth fun item member => ih item member (depth + 1)
  | dict distinct _ ih =>
    exact readsAs_dict isNotation depth distinct fun field member => ih field member (depth + 1)

/-- A storable value has a text in every notation, from which it is read. -/
theorem read_write {value : Value} (storable : value.Storable) :
    ∃ text, value.write style 0 = .ok text ∧ read (String.ofList text) = .ok value := by
  obtain ⟨text, written, readsAs⟩ := readsAs_of_storable isNotation storable 0
  refine ⟨text, written, read_eq_ok_iff.2 ?_⟩
  rw [String.toList_ofList]
  have whole := readsAs.reads [] (2 * text.length + 2) closed_nil (by omega)
  obtain ⟨c, tail, rfl, opens⟩ := readsAs.opens
  rw [List.append_nil] at whole
  refine readAll_eq_ok_iff.2 ⟨?_, [], by rwa [skipBlanks_cons opens.1], rfl⟩
  rintro rest same
  exact opens.2.2 (List.cons.inj same).1

end

/-- A storable value has a text, from which it is read. -/
theorem read_print {value : Value} (storable : value.Storable) :
    ∃ text, print value = .ok text ∧ read text = .ok value := by
  obtain ⟨text, written, read⟩ := read_write isNotation_indented storable
  exact ⟨String.ofList text, by simp only [print, written, Except.map], read⟩

end Json

end NodeFlow
