import NodeFlow.Graph.Basic

/-!
# Outcomes of edits

What can be said of an edit, or of a part of a run, from its start: it ends as one condition says,
or fails as another one says; a failure keeps what was changed before it. Each way of building
edits has one rule, so that a property of a block follows from those of its parts. Main statement:
blocks of edits that keep a property keep it.
-/

namespace NodeFlow.Edit

variable {ε σ α β : Type}

/-- The edit, begun in the state, ends with a result and a state as `post` says, or fails in a
state as `fault` says. -/
def Ends (edit : EStateM ε σ α) (post : α → σ → Prop) (fault : σ → Prop) (before : σ) : Prop :=
  match edit before with
  | .ok result after => post result after
  | .error _ after => fault after

instance {edit : EStateM ε σ α} {post : α → σ → Prop} {fault : σ → Prop} {before : σ}
    [∀ result after, Decidable (post result after)] [∀ after, Decidable (fault after)] :
    Decidable (Ends edit post fault before) :=
  match outcome : edit before with
  | .ok result after => decidable_of_iff (post result after) (by rw [Ends, outcome])
  | .error _ after => decidable_of_iff (fault after) (by rw [Ends, outcome])

/-- The state that an edit leaves behind, also if it fails. -/
def stateAfter (edit : EStateM ε σ α) (before : σ) : σ :=
  match edit before with
  | .ok _ after | .error _ after => after

/-- Every outcome of the edit keeps the property. -/
def Keeps (property : σ → Prop) (edit : EStateM ε σ α) : Prop :=
  ∀ before, property before → Ends edit (fun _ => property) property before

/-! ## Rules -/

section Rules

variable {post : α → σ → Prop} {fault : σ → Prop} {before : σ}

@[simp] theorem ends_pure (result : α) :
    Ends (pure result : EStateM ε σ α) post fault before ↔ post result before := Iff.rfl

@[simp] theorem ends_throw (error : ε) :
    Ends (throw error : EStateM ε σ α) post fault before ↔ fault before := Iff.rfl

@[simp] theorem ends_bind (first : EStateM ε σ β) (next : β → EStateM ε σ α) :
    Ends (first >>= next) post fault before ↔
      Ends first (fun result during => Ends (next result) post fault during) fault before := by
  simp only [Ends, bind, EStateM.bind]
  cases first before <;> rfl

@[simp] theorem ends_convert (outcome : Except ConversionError α) :
    Ends (convert outcome : Edit σ α) post fault before ↔
      match outcome with
      | .ok result => post result before
      | .error _ => fault before := by
  cases outcome <;> rfl

/-- What an edit ends in may be said more weakly. -/
theorem Ends.mono {edit : EStateM ε σ α} {post' : α → σ → Prop} {fault' : σ → Prop}
    (ends : Ends edit post fault before) (weaker : ∀ result after, post result after →
      post' result after) (weakerFault : ∀ after, fault after → fault' after) :
    Ends edit post' fault' before := by
  simp only [Ends] at ends ⊢
  cases outcome : edit before with
  | ok result after =>
    rw [outcome] at ends
    exact weaker result after ends
  | error error after =>
    rw [outcome] at ends
    exact weakerFault after ends

theorem Ends.of_ok {edit : EStateM ε σ α} {result : α} {after : σ}
    (ends : Ends edit post fault before) (passes : edit before = .ok result after) :
    post result after := by
  unfold Ends at ends
  rwa [passes] at ends

theorem Ends.of_error {edit : EStateM ε σ α} {error : ε} {after : σ}
    (ends : Ends edit post fault before) (fails : edit before = .error error after) :
    fault after := by
  unfold Ends at ends
  rwa [fails] at ends

/-- What an edit ends in may be said together with how it ended. -/
theorem Ends.with_outcome {edit : EStateM ε σ α} (ends : Ends edit post fault before) :
    Ends edit (fun result after => edit before = .ok result after ∧ post result after) fault
      before := by
  unfold Ends at ends ⊢
  cases outcome : edit before with
  | ok result after =>
    rw [outcome] at ends
    exact ⟨rfl, ends⟩
  | error error after =>
    rw [outcome] at ends
    exact ends

/-- What holds after an edit in either case holds of the state that it leaves behind. -/
theorem Ends.whenOver {edit : EStateM ε σ α} (ends : Ends edit (fun _ => fault) fault before) :
    fault (stateAfter edit before) := by
  unfold Ends at ends
  unfold stateAfter
  cases outcome : edit before <;> rw [outcome] at ends <;> exact ends

/-- An edit that does not fail as `fault` says ends as `post` says. -/
theorem Ends.of_passes {edit : EStateM ε σ α} (ends : Ends edit post fault before)
    (passes : ¬ fault (stateAfter edit before)) :
    ∃ result after, edit before = .ok result after ∧ post result after := by
  unfold Ends at ends
  unfold stateAfter at passes
  cases outcome : edit before with
  | ok result after =>
    rw [outcome] at ends
    exact ⟨result, after, rfl, ends⟩
  | error error after =>
    rw [outcome] at ends passes
    exact absurd ends passes

end Rules

/-! ## The state that is left behind -/

section StateAfter

variable {edit : EStateM ε σ α} {first : EStateM ε σ β} {before during after : σ}

theorem ends_stateAfter (edit : EStateM ε σ α) (before : σ) :
    Ends edit (fun _ after => after = stateAfter edit before)
      (fun after => after = stateAfter edit before) before := by
  unfold Ends stateAfter
  cases edit before <;> rfl

theorem stateAfter_of_ok {result : α} (passes : edit before = .ok result after) :
    stateAfter edit before = after := by
  rw [stateAfter, passes]

theorem stateAfter_of_error {error : ε} (fails : edit before = .error error after) :
    stateAfter edit before = after := by
  rw [stateAfter, fails]

theorem stateAfter_bind {result : β} (next : β → EStateM ε σ α)
    (passes : first before = .ok result during) :
    stateAfter (first >>= next) before = stateAfter (next result) during := by
  simp only [stateAfter, bind, EStateM.bind, passes]

theorem stateAfter_bind_of_error {error : ε} (next : β → EStateM ε σ α)
    (fails : first before = .error error after) : stateAfter (first >>= next) before = after := by
  simp only [stateAfter, bind, EStateM.bind, fails]

end StateAfter

/-! ## Failing -/

/-- The edit, begun in the state, fails with the error. -/
def Fails (edit : EStateM ε σ α) (error : ε) (before : σ) : Prop :=
  ∃ after, edit before = .error error after

instance [DecidableEq ε] {edit : EStateM ε σ α} {error : ε} {before : σ} :
    Decidable (Fails edit error before) :=
  match outcome : edit before with
  | .ok _ _ => .isFalse (by rintro ⟨_, failed⟩; rw [outcome] at failed; cases failed)
  | .error thrown _ => decidable_of_iff (thrown = error) (by simp [Fails, outcome])

section Failing

variable {error : ε} {before : σ}

theorem not_fails_pure (result : α) : ¬ Fails (pure result : EStateM ε σ α) error before := by
  rintro ⟨after, failed⟩
  cases failed

theorem fails_throw {thrown : ε} :
    Fails (throw thrown : EStateM ε σ α) error before ↔ error = thrown := by
  constructor
  · rintro ⟨after, failed⟩
    cases failed
    rfl
  · rintro rfl
    exact ⟨before, rfl⟩

theorem fails_convert {outcome : Except ConversionError α} {error : Error} :
    Fails (convert outcome : Edit σ α) error before ↔
      ∃ cause, outcome = .error cause ∧ error = .conversion cause := by
  constructor
  · rintro ⟨after, failed⟩
    obtain ⟨cause, unconverted, same, _⟩ := convert_eq_error_iff.1 failed
    exact ⟨cause, unconverted, same⟩
  · rintro ⟨cause, rfl, rfl⟩
    exact ⟨before, rfl⟩

/-- A block ends if its first part passes and the rest ends. -/
theorem bind_eq_ok_iff {first : EStateM ε σ β} {next : β → EStateM ε σ α} {result : α}
    {after : σ} : (first >>= next) before = .ok result after ↔
      ∃ middle during, first before = .ok middle during ∧
        next middle during = .ok result after := by
  simp only [bind, EStateM.bind]
  cases first before with
  | ok middle during =>
    constructor
    · exact fun ended => ⟨middle, during, rfl, ended⟩
    · rintro ⟨_, _, same, ended⟩
      cases same
      exact ended
  | error => simp

/-- A block fails in its first part, or in the rest once the first part has passed. -/
theorem bind_eq_error_iff {first : EStateM ε σ β} {next : β → EStateM ε σ α} {after : σ} :
    (first >>= next) before = .error error after ↔ first before = .error error after ∨
      ∃ middle during, first before = .ok middle during ∧
        next middle during = .error error after := by
  simp only [bind, EStateM.bind]
  cases first before with
  | ok middle during =>
    constructor
    · exact fun failed => .inr ⟨middle, during, rfl, failed⟩
    · rintro (failed | ⟨_, _, same, failed⟩)
      · cases failed
      · cases same
        exact failed
  | error => simp

theorem fails_bind {first : EStateM ε σ β} {next : β → EStateM ε σ α} :
    Fails (first >>= next) error before ↔ Fails first error before ∨
      ∃ middle during, first before = .ok middle during ∧ Fails (next middle) error during := by
  simp only [Fails, bind_eq_error_iff]
  constructor
  · rintro ⟨after, failed | ⟨middle, during, passed, failed⟩⟩
    · exact .inl ⟨after, failed⟩
    · exact .inr ⟨middle, during, passed, after, failed⟩
  · rintro (⟨after, failed⟩ | ⟨middle, during, passed, after, failed⟩)
    · exact ⟨after, .inl failed⟩
    · exact ⟨after, .inr ⟨middle, during, passed, failed⟩⟩

/-- A loop fails at the first item that fails, and leaves behind what that item leaves. -/
theorem forM_eq_error_iff {items : List β} {edit : β → EStateM ε σ Unit} {after : σ} :
    items.forM edit before = .error error after ↔ ∃ earlier item rest during,
      items = earlier ++ item :: rest ∧ earlier.forM edit before = .ok () during ∧
        edit item during = .error error after := by
  induction items generalizing before with
  | nil =>
    constructor
    · intro failed
      cases failed
    · rintro ⟨earlier, item, rest, during, split, _⟩
      simp at split
  | cons first items ih =>
    refine bind_eq_error_iff.trans ⟨?_, ?_⟩
    · rintro (failed | ⟨_, during, passed, failed⟩)
      · exact ⟨[], first, items, before, rfl, rfl, failed⟩
      · obtain ⟨earlier, item, rest, later, rfl, passes, fails⟩ := ih.1 failed
        exact ⟨first :: earlier, item, rest, later, rfl,
          bind_eq_ok_iff.2 ⟨_, during, passed, passes⟩, fails⟩
    · rintro ⟨_ | ⟨other, earlier⟩, item, rest, later, split, passes, fails⟩
      · cases split
        cases passes
        exact .inl fails
      · cases split
        obtain ⟨_, during, passed, passes⟩ := bind_eq_ok_iff.1 passes
        exact .inr ⟨_, during, passed, ih.2 ⟨earlier, item, rest, later, rfl, passes, fails⟩⟩

theorem fails_forM {items : List β} {edit : β → EStateM ε σ Unit} :
    Fails (items.forM edit) error before ↔ ∃ earlier item rest during,
      items = earlier ++ item :: rest ∧ earlier.forM edit before = .ok () during ∧
        Fails (edit item) error during := by
  simp only [Fails, forM_eq_error_iff]
  constructor
  · rintro ⟨after, earlier, item, rest, during, split, passed, failed⟩
    exact ⟨earlier, item, rest, during, split, passed, after, failed⟩
  · rintro ⟨earlier, item, rest, during, split, passed, after, failed⟩
    exact ⟨after, earlier, item, rest, during, split, passed, failed⟩

/-- What makes an item fail makes the loop fail there. -/
theorem fails_forM_of_each {items : List β} {edit : β → EStateM ε σ Unit} {fault : β → σ → Prop}
    (each : ∀ item ∈ items, ∀ during, Fails (edit item) error during ↔ fault item during) :
    Fails (items.forM edit) error before ↔ ∃ earlier item rest during,
      items = earlier ++ item :: rest ∧ earlier.forM edit before = .ok () during ∧
        fault item during := by
  rw [fails_forM]
  constructor
  · rintro ⟨earlier, item, rest, during, rfl, passed, failed⟩
    exact ⟨earlier, item, rest, during, rfl, passed, (each item (by simp) during).1 failed⟩
  · rintro ⟨earlier, item, rest, during, rfl, passed, faulty⟩
    exact ⟨earlier, item, rest, during, rfl, passed, (each item (by simp) during).2 faulty⟩

end Failing

/-! ## Loops -/

/-- A loop may leave out the items that do nothing. -/
theorem forM_filter {items : List β} {edit : β → EStateM ε σ Unit} {keep : β → Bool}
    (idle : ∀ item ∈ items, keep item = false → edit item = pure ()) :
    (items.filter keep).forM edit = items.forM edit := by
  induction items with
  | nil => rfl
  | cons item rest ih =>
    have later := ih fun other member => idle other (List.mem_cons_of_mem _ member)
    cases kept : keep item with
    | true =>
      rw [List.filter_cons_of_pos kept]
      exact congrArg (fun onward => edit item >>= fun _ => onward) later
    | false =>
      rw [List.filter_cons_of_neg (by simp [kept]), later]
      change _ = edit item >>= fun _ => rest.forM edit
      rw [idle item List.mem_cons_self kept, pure_bind]

/-! ## Keeping a property -/

namespace Keeps

variable {property : σ → Prop}

theorem pure (result : α) : Keeps property (Pure.pure result : EStateM ε σ α) :=
  fun _ holds => holds

theorem throw (error : ε) : Keeps property (MonadExcept.throw error : EStateM ε σ α) :=
  fun _ holds => holds

theorem bind {first : EStateM ε σ β} {next : β → EStateM ε σ α} (keepsFirst : Keeps property first)
    (keepsNext : ∀ result, Keeps property (next result)) : Keeps property (first >>= next) := by
  intro before holds
  rw [ends_bind]
  exact (keepsFirst before holds).mono (fun result during holds => keepsNext result during holds)
    fun _ holds => holds

theorem convert (outcome : Except ConversionError α) :
    Keeps property (Edit.convert outcome : Edit σ α) := by
  intro before holds
  cases outcome <;> exact holds

theorem forM {items : List β} {edit : β → EStateM ε σ Unit}
    (keeps : ∀ item ∈ items, Keeps property (edit item)) : Keeps property (items.forM edit) := by
  induction items with
  | nil => exact pure ()
  | cons item rest ih =>
    have later := ih fun item member => keeps item (List.mem_cons_of_mem _ member)
    exact bind (keeps item List.mem_cons_self) fun _ => later

theorem stateAfter {edit : EStateM ε σ α} (keeps : Keeps property edit) {before : σ}
    (holds : property before) : property (Edit.stateAfter edit before) :=
  (keeps before holds).whenOver

end Keeps

end NodeFlow.Edit

namespace NodeFlow.Workspace

variable {α : Type} {post : α → Workspace → Prop} {fault : Workspace → Prop} {before : Workspace}

@[simp] theorem ends_naming (operation : Edit IdSource α) :
    Edit.Ends (naming operation) post fault before ↔
      Edit.Ends operation (fun result ids => post result { before with ids })
        (fun ids => fault { before with ids }) before.ids := by
  simp only [Edit.Ends, naming]
  cases operation before.ids <;> rfl

@[simp] theorem ends_graphNow {post : Graph → Workspace → Prop} :
    Edit.Ends graphNow post fault before ↔ post before.graph before := Iff.rfl

@[simp] theorem ends_change (edit : Graph → Graph) {post : Unit → Workspace → Prop} :
    Edit.Ends (change edit) post fault before ↔
      post () { before with graph := edit before.graph } := Iff.rfl

theorem ends_replacing (build : Edit Workspace Unit) {post : Unit → Workspace → Prop} :
    Edit.Ends (replacing build) post fault before ↔
      Edit.Ends build (fun _ built => post () built)
        (fun built => fault { before with ids := built.ids }) ⟨.empty, before.ids⟩ := by
  simp only [Edit.Ends, replacing]
  cases build ⟨.empty, before.ids⟩ <;> rfl

theorem fails_naming {operation : Edit IdSource α} {error : Error} :
    Edit.Fails (naming operation) error before ↔ Edit.Fails operation error before.ids := by
  simp only [Edit.Fails, naming]
  cases operation before.ids <;> simp

theorem fails_replacing {build : Edit Workspace Unit} {error : Error} :
    Edit.Fails (replacing build) error before ↔ Edit.Fails build error ⟨.empty, before.ids⟩ := by
  simp only [Edit.Fails, replacing]
  cases build ⟨.empty, before.ids⟩ <;> simp

theorem replacing_eq_ok_iff {build : Edit Workspace Unit} {after : Workspace} :
    replacing build before = .ok () after ↔ build ⟨.empty, before.ids⟩ = .ok () after := by
  unfold replacing
  cases build ⟨.empty, before.ids⟩ <;> simp

theorem graphNow_bind (next : Graph → Edit Workspace α) (before : Workspace) :
    (graphNow >>= next) before = next before.graph before :=
  rfl

theorem naming_bind_eq {β : Type} (operation : Edit IdSource β) (next : β → Edit Workspace α)
    (before : Workspace) : (naming operation >>= next) before =
      match operation before.ids with
      | .error error ids => .error error { before with ids }
      | .ok result ids => next result { before with ids } := by
  simp only [naming, bind, EStateM.bind]
  cases operation before.ids <;> rfl

theorem ids_stateAfter_naming (operation : Edit IdSource α) (before : Workspace) :
    (Edit.stateAfter (naming operation) before).ids = Edit.stateAfter operation before.ids := by
  simp only [Edit.stateAfter, naming]
  cases operation before.ids <;> rfl

theorem ids_stateAfter_replacing (build : Edit Workspace Unit) (before : Workspace) :
    (Edit.stateAfter (replacing build) before).ids =
      (Edit.stateAfter build ⟨.empty, before.ids⟩).ids := by
  simp only [Edit.stateAfter, replacing]
  cases build ⟨.empty, before.ids⟩ <;> rfl

end NodeFlow.Workspace
