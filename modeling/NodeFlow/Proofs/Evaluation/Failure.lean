import NodeFlow.Proofs.Evaluation.Outputs
import NodeFlow.Proofs.Number.Limits

/-!
# Where the built-in evaluators fail

To add and to multiply, texts are read, whole numbers meet binary64 numbers, and the numbers are
shown in the log. Each of these steps has its limit. Main statement: for all inputs, which of these
limits stops an addition, a multiplication or the length of a vector; otherwise there is one line in
the log, and none where an evaluation fails.
-/

namespace NodeFlow

/-! ## Evaluations that fail -/

namespace Evaluation

/-- A conversion fails, and there is no line in the log. -/
def Raises (evaluation : Evaluation) (kind : ConversionError.Kind) : Prop :=
  ∃ cause, cause.kind = kind ∧ evaluation = ⟨[], .error (.conversion cause)⟩

variable {conversion : Except ConversionError (List String × Fields)}

theorem raises_of_error {cause : ConversionError} {kind : ConversionError.Kind}
    (failed : conversion = .error cause) :
    (ofConversion conversion).Raises kind ↔ cause.kind = kind := by
  rw [failed]
  constructor
  · rintro ⟨_, same, raised⟩
    cases raised
    exact same
  · exact fun same => ⟨cause, same, rfl⟩

theorem not_raises_of_ok {lines : List String} {outputs : Fields} {kind : ConversionError.Kind}
    (converted : conversion = .ok (lines, outputs)) : ¬ (ofConversion conversion).Raises kind := by
  rw [converted]
  rintro ⟨_, _, raised⟩
  cases raised

theorem log_ofConversion {failure : EvalFailure}
    (failed : (ofConversion conversion).outcome = .error failure) :
    (ofConversion conversion).log = [] := by
  cases conversion with
  | ok result => cases failed
  | error cause => rfl

end Evaluation

/-! ## Combining two numbers -/

namespace Number

/-- One of the numbers is a binary64 number, be it infinite or NaN, and the other one is a whole
number that rounds beyond binary64. -/
def Clashes : Number → Number → Prop
  | .float _, .int n | .int n, .float _ => (int n).IsBeyondFloat
  | _, _ => False

section

variable (exact : Int → Int → Int) (rounded : Binary64 → Binary64 → Binary64)

theorem combine_int_float (n : Int) (y : Binary64) : combine exact rounded (int n) (float y) =
    (int n).toFloat.map fun x => float (rounded x y) := by
  change ((int n).toFloat >>= _) = _
  cases (int n).toFloat <;> rfl

theorem combine_float_int (x : Binary64) (n : Int) : combine exact rounded (float x) (int n) =
    (int n).toFloat.map fun y => float (rounded x y) := by
  change ((float x).toFloat >>= fun x => (int n).toFloat >>= fun y => _) = _
  cases (int n).toFloat <;> rfl

theorem combine_cases (a b : Number) :
    (a.Clashes b ∧ combine exact rounded a b = .error .beyondFloat) ∨
      (¬ a.Clashes b ∧ ∃ out, combine exact rounded a b = .ok out) := by
  cases a with
  | int m =>
    cases b with
    | int n => exact .inr ⟨not_false, _, rfl⟩
    | float y =>
      rw [combine_int_float]
      rcases toFloat_cases (int m) with ⟨beyond, failed⟩ | ⟨within, x, converted⟩
      · exact .inl ⟨beyond, by rw [failed]; rfl⟩
      · exact .inr ⟨within, _, by rw [converted]; rfl⟩
  | float x =>
    cases b with
    | int n =>
      rw [combine_float_int]
      rcases toFloat_cases (int n) with ⟨beyond, failed⟩ | ⟨within, y, converted⟩
      · exact .inl ⟨beyond, by rw [failed]; rfl⟩
      · exact .inr ⟨within, _, by rw [converted]; rfl⟩
    | float y => exact .inr ⟨not_false, _, rfl⟩

end

end Number

/-! ## Sums and products -/

namespace Builtin

/-- How a calculation with two numbers ends. -/
structure Calculates (combine : Number → Number → Except ConversionError Number)
    (a b : Number) (evaluation : Evaluation) : Prop where
  clash : evaluation.Raises .magnitude ↔ a.Clashes b
  shown : ¬ a.Clashes b → ∃ out, combine a b = .ok out ∧
    (evaluation.Raises .value ↔ a.IsOversized ∨ b.IsOversized ∨ out.IsOversized) ∧
    (¬ (a.IsOversized ∨ b.IsOversized ∨ out.IsOversized) →
      ∃ line, evaluation = ⟨[line], .ok [("out", .ofNumber out)]⟩)

/-- How a calculation with the inputs `a` and `b` ends, which is exact for whole numbers. -/
structure CalculatesInputs (combine : Number → Number → Except ConversionError Number)
    (exact : Int → Int → Int) (inputs : Fields) (evaluation : Evaluation) : Prop where
  overlong : (inputs.get "a").IsOverlong ∨ (inputs.get "b").IsOverlong → evaluation.Raises .value
  read : ¬ ((inputs.get "a").IsOverlong ∨ (inputs.get "b").IsOverlong) →
    ∃ a b, (inputs.get "a").toNumber = .ok a ∧ (inputs.get "b").toNumber = .ok b ∧
      Calculates combine a b evaluation
  exact : ∀ m n, combine (.int m) (.int n) = .ok (.int (exact m n))

variable {title sign : String} {combine : Number → Number → Except ConversionError Number}
  {inputs : Fields}

/-- What is left of a calculation when its inputs are read. -/
theorem calculate_eq {a b : Number} (first : (inputs.get "a").toNumber = .ok a)
    (second : (inputs.get "b").toNumber = .ok b) : calculate title sign combine inputs = do
      let out ← combine a b
      let line := title ++ ": " ++ (← a.format) ++ sign ++ (← b.format) ++ "=" ++ (← out.format)
      return ([line], [("out", .ofNumber out)]) := by
  rw [calculate, first, second]
  rfl

/-- The numbers are shown if none of them is too long. -/
theorem calculate_shown {a b out : Number} (first : (inputs.get "a").toNumber = .ok a)
    (second : (inputs.get "b").toNumber = .ok b) (combined : combine a b = .ok out) :
    ((a.IsOversized ∨ b.IsOversized ∨ out.IsOversized) ∧
      calculate title sign combine inputs = .error .digitsWritten) ∨
    (¬ (a.IsOversized ∨ b.IsOversized ∨ out.IsOversized) ∧
      ∃ line, calculate title sign combine inputs = .ok ([line], [("out", .ofNumber out)])) := by
  rw [calculate_eq first second, combined]
  change (_ ∧ (a.format >>= fun _ => b.format >>= fun _ => out.format >>= fun _ => _) = _) ∨
    _ ∧ ∃ line, (a.format >>= fun _ => b.format >>= fun _ => out.format >>= fun _ => _) = _
  rcases a.format_cases with ⟨long, unwritten⟩ | ⟨short, text, written⟩
  · exact .inl ⟨.inl long, by rw [unwritten]; rfl⟩
  rcases b.format_cases with ⟨long, unwritten⟩ | ⟨short', text', written'⟩
  · exact .inl ⟨.inr (.inl long), by rw [written, unwritten]; rfl⟩
  rcases out.format_cases with ⟨long, unwritten⟩ | ⟨short'', text'', written''⟩
  · exact .inl ⟨.inr (.inr long), by rw [written, written', unwritten]; rfl⟩
  refine .inr ⟨by simp [short, short', short''],
    title ++ ": " ++ text ++ sign ++ text' ++ "=" ++ text'', ?_⟩
  rw [written, written', written'']
  rfl

theorem calculates {a b : Number} (exact : Int → Int → Int)
    (rounded : Binary64 → Binary64 → Binary64) (first : (inputs.get "a").toNumber = .ok a)
    (second : (inputs.get "b").toNumber = .ok b) :
    Calculates (Number.combine exact rounded) a b
      (.ofConversion (calculate title sign (Number.combine exact rounded) inputs)) := by
  rcases Number.combine_cases exact rounded a b with ⟨clashes, failed⟩ | ⟨apart, out, combined⟩
  · have raised : calculate title sign (Number.combine exact rounded) inputs =
        .error .beyondFloat := by
      rw [calculate_eq first second, failed]
      rfl
    exact ⟨iff_of_true ((Evaluation.raises_of_error raised).2 rfl) clashes,
      fun apart => absurd clashes apart⟩
  rcases calculate_shown first second combined with ⟨long, raised⟩ | ⟨short, line, given⟩
  · refine ⟨iff_of_false (by rw [Evaluation.raises_of_error raised]; decide) apart, fun _ => ?_⟩
    exact ⟨out, combined, iff_of_true ((Evaluation.raises_of_error raised).2 rfl) long,
      fun short => absurd long short⟩
  · refine ⟨iff_of_false (Evaluation.not_raises_of_ok given) apart, fun _ => ?_⟩
    refine ⟨out, combined, iff_of_false (Evaluation.not_raises_of_ok given) short, fun _ => ?_⟩
    exact ⟨line, by rw [given]; rfl⟩

theorem calculatesInputs (exact : Int → Int → Int) (rounded : Binary64 → Binary64 → Binary64)
    (inputs : Fields) : CalculatesInputs (Number.combine exact rounded) exact inputs
      (.ofConversion (calculate title sign (Number.combine exact rounded) inputs)) := by
  rcases (inputs.get "a").toNumber_cases with ⟨long, count, unread⟩ | ⟨short, a, first⟩
  · have raised : calculate title sign (Number.combine exact rounded) inputs =
        .error (.digitsRead count) := by
      rw [calculate, unread]
      rfl
    exact ⟨fun _ => (Evaluation.raises_of_error raised).2 rfl,
      fun short => absurd (.inl long) short, fun m n => rfl⟩
  rcases (inputs.get "b").toNumber_cases with ⟨long, count, unread⟩ | ⟨short', b, second⟩
  · have raised : calculate title sign (Number.combine exact rounded) inputs =
        .error (.digitsRead count) := by
      rw [calculate, first, unread]
      rfl
    exact ⟨fun _ => (Evaluation.raises_of_error raised).2 rfl,
      fun short => absurd (.inr long) short, fun m n => rfl⟩
  · exact ⟨fun long => absurd long (by simp [short, short']),
      fun _ => ⟨a, b, first, second, calculates exact rounded first second⟩, fun m n => rfl⟩

end Builtin

/-! ## Lengths -/

/-- A component is a whole number that rounds beyond binary64. -/
def Vector3.IsBeyondFloat (v : Vector3) : Prop :=
  v.x.IsBeyondFloat ∨ v.y.IsBeyondFloat ∨ v.z.IsBeyondFloat

theorem Vector3.length_cases (v : Vector3) :
    (v.IsBeyondFloat ∧ v.length = .error .beyondFloat) ∨
      (¬ v.IsBeyondFloat ∧ ∃ x, v.length = .ok (.float x)) := by
  change (_ ∧ (v.x.toFloat >>= fun _ => v.y.toFloat >>= fun _ => v.z.toFloat >>= fun _ => _) = _) ∨
    (_ ∧ ∃ x, (v.x.toFloat >>= fun _ => v.y.toFloat >>= fun _ => v.z.toFloat >>= fun _ => _) = _)
  rcases v.x.toFloat_cases with ⟨beyond, failed⟩ | ⟨first, x, converted⟩
  · exact .inl ⟨.inl beyond, by rw [failed]; rfl⟩
  rcases v.y.toFloat_cases with ⟨beyond, failed⟩ | ⟨second, y, converted'⟩
  · exact .inl ⟨.inr (.inl beyond), by rw [converted, failed]; rfl⟩
  rcases v.z.toFloat_cases with ⟨beyond, failed⟩ | ⟨third, z, converted''⟩
  · exact .inl ⟨.inr (.inr beyond), by rw [converted, converted', failed]; rfl⟩
  refine .inr ⟨by simp [IsBeyondFloat, first, second, third], Binary64.length [x, y, z], ?_⟩
  rw [converted, converted', converted'']
  rfl

namespace Builtin

/-- How measuring a vector ends. -/
structure Measures (v : Vector3) (evaluation : Evaluation) : Prop where
  raises : ∀ kind, evaluation.Raises kind ↔ kind = .magnitude ∧ v.IsBeyondFloat
  shown : ¬ v.IsBeyondFloat → ∃ line x, evaluation = ⟨[line], .ok [("out", .float x)]⟩

theorem measures {inputs : Fields} {v : Vector3}
    (read : Vector3.ofValue (inputs.get "a") = .ok v) :
    Measures v (.ofConversion (vectorLength inputs)) := by
  have shape : vectorLength inputs = v.length >>= fun out => out.format >>= fun text =>
      .ok (["Length: ∥a∥=" ++ text], [("out", .ofNumber out)]) := by
    rw [vectorLength, read]
    rfl
  rcases v.length_cases with ⟨beyond, failed⟩ | ⟨within, x, converted⟩
  · have raised : vectorLength inputs = .error .beyondFloat := by
      rw [shape, failed]
      rfl
    refine ⟨fun kind => ?_, fun within => absurd beyond within⟩
    rw [Evaluation.raises_of_error raised]
    exact ⟨fun same => ⟨same.symm, beyond⟩, fun both => both.1.symm⟩
  · obtain ⟨text, written⟩ : ∃ text, (Number.float x).format = .ok text :=
      (Number.format_cases (.float x)).elim (fun long => long.1.elim) And.right
    have given : vectorLength inputs =
        .ok (["Length: ∥a∥=" ++ text], [("out", .float x)]) := by
      rw [shape, converted]
      change ((Number.float x).format >>= _) = _
      rw [written]
      rfl
    refine ⟨fun kind => ?_, fun _ => ⟨_, x, by rw [given]; rfl⟩⟩
    exact iff_of_false (Evaluation.not_raises_of_ok given) fun both => within both.2

/-- A sum or product fails where an input is a text of too many digits, else where a whole number
beyond binary64 meets a binary64 number, else where a number is too long to be shown; a length fails
where a component is beyond binary64. Otherwise there is one line in the log, and where a built-in
evaluator fails there is none. -/
theorem failure_limits (data inputs : Fields) :
    CalculatesInputs Number.add (· + ·) inputs (add.evaluate data inputs) ∧
    CalculatesInputs Number.mul (· * ·) inputs (mul.evaluate data inputs) ∧
    (∀ v, Vector3.ofValue (inputs.get "a") = .ok v → Measures v (length.evaluate data inputs)) ∧
    ∀ (builtin : Builtin) failure, (builtin.evaluate data inputs).outcome = .error failure →
      (builtin.evaluate data inputs).log = [] := by
  refine ⟨calculatesInputs _ _ inputs, calculatesInputs _ _ inputs, fun v => measures, ?_⟩
  intro builtin failure failed
  cases builtin with
  | start => cases failed
  | _ => exact Evaluation.log_ofConversion failed

/-- A mapping, which counts as NaN, and a number beyond binary64. -/
def beyondInputs : Fields := [("a", .dict [("x", .int (2 ^ 1024))]), ("b", .int (2 ^ 1024))]

/-- The sum, the product and the length fail before anything is logged. -/
theorem beyondInputs_fail :
    (add.evaluate [] beyondInputs).Raises .magnitude ∧
    (mul.evaluate [] beyondInputs).Raises .magnitude ∧
    (length.evaluate [] beyondInputs).Raises .magnitude ∧
    (add.evaluate [] beyondInputs).log = [] := by
  obtain ⟨sum, product, measured, silent⟩ := failure_limits [] beyondInputs
  have beyond : (Number.int (2 ^ 1024)).IsBeyondFloat :=
    (sub_le_self _ (by positivity)).trans (le_abs_self _)
  have short : ¬ ((beyondInputs.get "a").IsOverlong ∨ (beyondInputs.get "b").IsOverlong) := by
    rintro (⟨⟨⟩⟩ | ⟨⟨⟩⟩)
  have clashes : (Number.float .nan).Clashes (.int (2 ^ 1024)) := beyond
  obtain ⟨a, b, first, second, added⟩ := sum.read short
  cases first
  cases second
  obtain ⟨a, b, first, second, multiplied⟩ := product.read short
  cases first
  cases second
  obtain ⟨cause, _, failed⟩ := added.clash.2 clashes
  refine ⟨added.clash.2 clashes, multiplied.clash.2 clashes, ?_, ?_⟩
  · exact ((measured _ rfl).raises .magnitude).2 ⟨rfl, .inl beyond⟩
  · exact silent add (.conversion cause) (by rw [failed])

end Builtin

end NodeFlow
