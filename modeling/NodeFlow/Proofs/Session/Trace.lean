import NodeFlow.Proofs.Adding
import NodeFlow.Proofs.Coverage
import NodeFlow.Proofs.Session.Changes

/-!
# What edits do with identifiers

The trace of an edit lists, in order, the identifiers that it generates and the graphs that it
brings about. Each way of building edits has one rule. What is shown along a trace is that no
generated identifier was there before; the invariant is that the counter has passed everything the
trace mentions and every id of the graph.
-/

namespace NodeFlow

/-! ## Traces -/

/-- The ids of the nodes, ports and edges of a graph. -/
def Graph.ids (graph : Graph) : List String :=
  graph.nodes.flatMap Node.marks ++ graph.edges.map Edge.id

/-- What can happen to identifiers. -/
inductive IdEvent where
  /-- An identifier is generated. -/
  | issued (id : String)
  /-- A graph is brought about, be it for a moment. -/
  | held (graph : Graph)

namespace IdEvent

/-- The identifiers that an event mentions. -/
def ids : IdEvent → List String
  | issued id => [id]
  | held graph => graph.ids

/-- The identifier that an event generates. -/
def issued? : IdEvent → Option String
  | issued id => some id
  | held _ => none

/-- A later event generates nothing that an earlier one mentions. -/
def Apart (earlier later : IdEvent) : Prop :=
  ∀ id, later = .issued id → id ∉ earlier.ids

end IdEvent

namespace Workspace

open IdSource (fresh reserve)

/-- The edit, begun in the workspace, does this with identifiers before it ends or fails. -/
inductive Traces : {α : Type} → Edit Workspace α → Workspace → List IdEvent → Prop
  | pure {α : Type} (result : α) (before : Workspace) : Traces (pure result) before []
  | throw {α : Type} (error : Error) (before : Workspace) :
      Traces (throw error : Edit Workspace α) before []
  | convert {α : Type} (outcome : Except ConversionError α) (before : Workspace) :
      Traces (Edit.convert outcome) before []
  | look (before : Workspace) : Traces graphNow before []
  | issue {label id : String} {before : Workspace} {ids : IdSource}
      (generated : fresh label before.ids = .ok id ids) :
      Traces (naming (fresh label)) before [.issued id]
  | exhaust {label : String} {before : Workspace} {error : Error} {ids : IdSource}
      (tooLong : fresh label before.ids = .error error ids) :
      Traces (naming (fresh label)) before []
  | reserve (id : String) (before : Workspace) : Traces (naming (reserve id)) before []
  | change (edit : Graph → Graph) (before : Workspace) :
      Traces (change edit) before [.held (edit before.graph)]
  | bind {α β : Type} {first : Edit Workspace β} {next : β → Edit Workspace α}
      {before during : Workspace} {result : β} {events more : List IdEvent}
      (begins : Traces first before events) (passes : first before = .ok result during)
      (ends : Traces (next result) during more) : Traces (first >>= next) before (events ++ more)
  | stop {α β : Type} {first : Edit Workspace β} {next : β → Edit Workspace α}
      {before after : Workspace} {error : Error} {events : List IdEvent}
      (begins : Traces first before events) (fails : first before = .error error after) :
      Traces (first >>= next) before events
  | reading {α : Type} {kind : RecordKind} {record : Value} {read : Edit Workspace α}
      {before : Workspace} {events : List IdEvent} (reads : Traces read before events) :
      Traces (reading kind record read) before events
  | restoreNode {node : Node} {before : Workspace} {events : List IdEvent}
      (adds : Traces (addNode node) before events) : Traces (restoreNode node) before events
  /-- The graph that is built belongs to the trace, also if it is given up. -/
  | replacing {build : Edit Workspace Unit} {before : Workspace} {events : List IdEvent}
      (builds : Traces build ⟨.empty, before.ids⟩ events) : Traces (replacing build) before events

/-- In whatever steps an edit is seen, the counter advances by the identifiers of the trace. -/
theorem Traces.advances {α : Type} {edit : Edit Workspace α} {before : Workspace}
    {events : List IdEvent} (traces : Traces edit before events) :
    before.ids.Advances (events.filterMap IdEvent.issued?) (Edit.stateAfter edit before).ids := by
  induction traces with
  | pure | throw | look | change => exact .silent (Nat.le_refl _)
  | convert outcome => cases outcome <;> exact .silent (Nat.le_refl _)
  | issue generated =>
    rw [ids_stateAfter_naming, Edit.stateAfter_of_ok generated]
    exact .single generated
  | exhaust =>
    rw [ids_stateAfter_naming]
    exact .silent (IdSource.forward_fresh _ _)
  | reserve =>
    rw [ids_stateAfter_naming]
    exact .silent (IdSource.forward_reserve _ _)
  | bind _ passes _ begun ended =>
    rw [Edit.stateAfter_of_ok passes] at begun
    rw [Edit.stateAfter_bind _ passes, List.filterMap_append]
    exact begun.append ended
  | stop _ fails begun =>
    rw [Edit.stateAfter_of_error fails] at begun
    rwa [Edit.stateAfter_bind_of_error _ fails]
  | reading _ read => rwa [(ends_reading (Edit.ends_stateAfter _ _)).whenOver]
  | restoreNode _ added => rwa [(ends_restoreNode (Edit.ends_stateAfter _ _)).whenOver]
  | replacing _ built => rwa [ids_stateAfter_replacing]

/-! ## What the counter has passed -/

/-- Every identifier of the history was new when it was generated, and the counter has passed the
identifiers of the history and of the graph. -/
structure Past (history : List IdEvent) (workspace : Workspace) : Prop where
  apart : history.Pairwise IdEvent.Apart
  mentioned : ∀ event ∈ history, ∀ id ∈ event.ids, workspace.ids.Covers id
  present : ∀ id ∈ workspace.graph.ids, workspace.ids.Covers id

namespace Past

variable {history : List IdEvent} {workspace : Workspace}

theorem advance (past : workspace.Past history) {ids : IdSource}
    (forward : workspace.ids.last ≤ ids.last) : Past history { workspace with ids } where
  apart := past.apart
  mentioned event member id mentions := (past.mentioned event member id mentions).advance forward
  present id listed := (past.present id listed).advance forward

theorem sublist (past : workspace.Past history) {fewer : List IdEvent}
    (sublist : fewer.Sublist history) : workspace.Past fewer where
  apart := past.apart.sublist sublist
  mentioned event member := past.mentioned event (sublist.subset member)
  present := past.present

/-- A generated identifier is new, and the counter passes it. -/
theorem issue (past : workspace.Past history) {label id : String} {ids : IdSource}
    (generated : fresh label workspace.ids = .ok id ids) :
    Past (history ++ [.issued id]) { workspace with ids } := by
  obtain ⟨covered, new, forward⟩ := IdSource.covers_of_fresh generated
  have later := past.advance forward
  refine ⟨?_, ?_, later.present⟩
  · rw [List.pairwise_append]
    refine ⟨past.apart, List.pairwise_singleton _ _, ?_⟩
    intro event member issued last other same mentions
    rw [List.mem_singleton.1 last] at same
    cases same
    exact new (past.mentioned event member id mentions)
  · intro event member other mentions
    rcases List.mem_append.1 member with old | last
    · exact later.mentioned event old other mentions
    · rw [List.mem_singleton.1 last] at mentions
      rw [List.mem_singleton.1 mentions]
      exact covered

/-- No node, port or edge of the graph has the identifier that comes next. -/
theorem absent (past : workspace.Past history) {label id : String} {ids : IdSource}
    (generated : fresh label workspace.ids = .ok id ids) : id ∉ workspace.graph.ids :=
  fun listed => (IdSource.covers_of_fresh generated).2.1 (past.present id listed)

/-- The graph may become any other one of whose ids the counter has passed. -/
theorem change (past : workspace.Past history) {graph : Graph}
    (covered : ∀ id ∈ graph.ids, workspace.ids.Covers id) :
    Past (history ++ [.held graph]) { workspace with graph } where
  apart := by
    rw [List.pairwise_append]
    refine ⟨past.apart, List.pairwise_singleton _ _, ?_⟩
    intro event _ held last id same
    rw [List.mem_singleton.1 last] at same
    cases same
  mentioned := by
    intro event member id mentions
    rcases List.mem_append.1 member with old | last
    · exact past.mentioned event old id mentions
    · rw [List.mem_singleton.1 last] at mentions
      exact covered id mentions
  present := covered

end Past

/-! ## Rules -/

/-- After any history that the counter has passed, the edit has a trace that goes on from it; what
comes of the edit is as `post` says if it ends. -/
def Issues {α : Type} (edit : Edit Workspace α) (post : α → Workspace → Prop)
    (before : Workspace) : Prop :=
  ∀ history, before.Past history → ∃ events, Traces edit before events ∧
    Edit.Ends edit (fun result after => after.Past (history ++ events) ∧ post result after)
      (Past (history ++ events)) before

namespace Issues

variable {α β : Type} {post : α → Workspace → Prop} {before : Workspace}

theorem quiet {edit : Edit Workspace α} (traces : Traces edit before [])
    (ends : Edit.Ends edit (fun result after => after = before ∧ post result after)
      (fun after => after = before) before) : Issues edit post before := by
  intro history past
  refine ⟨[], traces, ?_⟩
  rw [List.append_nil]
  refine ends.mono ?_ fun after same => same ▸ past
  rintro result after ⟨same, holds⟩
  exact ⟨same ▸ past, holds⟩

theorem pure {result : α} (holds : post result before) :
    Issues (pure result : Edit Workspace α) post before :=
  quiet (.pure result before) ⟨rfl, holds⟩

theorem throw (error : Error) : Issues (throw error : Edit Workspace α) post before :=
  quiet (.throw error before) rfl

theorem convert {outcome : Except ConversionError α}
    (holds : ∀ result, outcome = .ok result → post result before) :
    Issues (Edit.convert outcome) post before := by
  refine quiet (.convert outcome before) ?_
  rw [Edit.ends_convert]
  cases outcome with
  | error cause => rfl
  | ok result => exact ⟨rfl, holds result rfl⟩

theorem look {post : Graph → Workspace → Prop} (holds : post before.graph before) :
    Issues graphNow post before :=
  quiet (.look before) ⟨rfl, holds⟩

theorem issue {label : String} {post : String → Workspace → Prop}
    (holds : ∀ (id : String) (ids : IdSource), ids.Covers id → post id { before with ids }) :
    Issues (naming (fresh label)) post before := by
  intro history past
  rcases outcome : fresh label before.ids with ⟨id, ids⟩ | ⟨error, ids⟩
  · refine ⟨_, .issue outcome, ?_⟩
    rw [ends_naming]
    unfold Edit.Ends
    rw [outcome]
    exact ⟨past.issue outcome, holds id ids (IdSource.covers_of_fresh outcome).1⟩
  · refine ⟨_, .exhaust outcome, ?_⟩
    rw [ends_naming, List.append_nil]
    refine IdSource.ends_fresh (fun _ => ?_) fun _ => past.advance (Nat.le_succ _)
    have covers := (@IdSource.covers_generated_iff ⟨before.ids.last + 1⟩ label _).2 (Nat.le_refl _)
    exact ⟨past.advance (Nat.le_succ _), holds _ _ covers⟩

theorem reserve {id : String} {post : Unit → Workspace → Prop}
    (holds : ∀ ids : IdSource, ids.Covers id → before.ids.last ≤ ids.last →
      post () { before with ids }) :
    Issues (naming (reserve id)) post before := by
  intro history past
  refine ⟨_, .reserve id before, ?_⟩
  rw [ends_naming, List.append_nil]
  unfold Edit.Ends
  rcases outcome : IdSource.reserve id before.ids with ⟨⟨⟩, ids⟩ | ⟨error, ids⟩
  · obtain ⟨covers, forward⟩ := IdSource.covers_of_reserve outcome
    exact ⟨past.advance forward, holds ids covers forward⟩
  · rcases IdSource.reserve_cases id before.ids with ⟨_, _, passed⟩ | ⟨_, _, failed⟩
    · rw [outcome] at passed
      cases passed
    · rw [outcome] at failed
      cases failed
      exact past

theorem change {edit : Graph → Graph} {post : Unit → Workspace → Prop}
    (covered : (∀ id ∈ before.graph.ids, before.ids.Covers id) →
      ∀ id ∈ (edit before.graph).ids, before.ids.Covers id)
    (holds : post () { before with graph := edit before.graph }) :
    Issues (change edit) post before := by
  intro history past
  refine ⟨_, .change edit before, ?_⟩
  rw [ends_change]
  exact ⟨past.change (covered past.present), holds⟩

theorem bind {first : Edit Workspace β} {next : β → Edit Workspace α}
    (begins : Issues first (fun result during => Issues (next result) post during) before) :
    Issues (first >>= next) post before := by
  intro history past
  obtain ⟨events, traced, ends⟩ := begins history past
  unfold Edit.Ends at ends
  rcases outcome : first before with ⟨result, during⟩ | ⟨error, after⟩ <;> rw [outcome] at ends
  · obtain ⟨passed, later⟩ := ends
    obtain ⟨more, tracedLater, endsLater⟩ := later _ passed
    refine ⟨events ++ more, .bind traced outcome tracedLater, ?_⟩
    rw [Edit.ends_bind, ← List.append_assoc]
    unfold Edit.Ends
    rw [outcome]
    exact endsLater
  · refine ⟨events, .stop traced outcome, ?_⟩
    rw [Edit.ends_bind]
    unfold Edit.Ends
    rw [outcome]
    exact ends

theorem mono {edit : Edit Workspace α} {weaker : α → Workspace → Prop}
    (issues : Issues edit post before) (weakens : ∀ result after, post result after →
      weaker result after) : Issues edit weaker before := by
  intro history past
  obtain ⟨events, traced, ends⟩ := issues history past
  refine ⟨events, traced, ends.mono ?_ fun _ failed => failed⟩
  rintro result after ⟨later, holds⟩
  exact ⟨later, weakens result after holds⟩

theorem reading {kind : RecordKind} {record : Value} {read : Edit Workspace α}
    (issues : Issues read post before) : Issues (reading kind record read) post before := by
  intro history past
  obtain ⟨events, traced, ends⟩ := issues history past
  exact ⟨events, .reading traced, ends_reading ends⟩

theorem restoreNode {node : Node} {post : Unit → Workspace → Prop}
    (issues : Issues (addNode node) post before) : Issues (restoreNode node) post before := by
  intro history past
  obtain ⟨events, traced, ends⟩ := issues history past
  exact ⟨events, .restoreNode traced, ends_restoreNode ends⟩

/-- Building goes on from a history that ends in the present graph, so that the counter has passed
this graph's ids also when the building is given up. -/
theorem replacing {build : Edit Workspace Unit}
    (issues : Issues build (fun _ _ => True) ⟨.empty, before.ids⟩) :
    Issues (replacing build) (fun _ _ => True) before := by
  intro history past
  have held := past.change past.present
  have begun : Past (history ++ [.held before.graph]) ⟨.empty, before.ids⟩ :=
    { held with present := by simp [Graph.ids, Graph.empty] }
  obtain ⟨events, traced, ends⟩ := issues _ begun
  have fewer : List.Sublist (history ++ events) (history ++ [.held before.graph] ++ events) :=
    (List.sublist_append_left _ _).append_right events
  refine ⟨events, .replacing traced, ?_⟩
  rw [ends_replacing]
  refine ends.mono (fun _ built later => ⟨later.1.sublist fewer, trivial⟩) ?_
  intro built later
  refine { later.sublist fewer with present := ?_ }
  exact later.mentioned (.held before.graph) (by simp)

end Issues

end Workspace

end NodeFlow
