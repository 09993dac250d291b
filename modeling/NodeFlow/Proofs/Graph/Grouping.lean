import NodeFlow.Proofs.Adding
import NodeFlow.Proofs.Json.Number
import NodeFlow.Proofs.Number.Limits
import NodeFlow.Proofs.Occurrences

/-!
# The members of a new group

Keys that name no node, or a group, are passed over, and a key that is repeated counts once. But a
text and a number are different keys, also if they name the same node. Main statement: a group lists
the nodes that its keys name, in the order in which they are named first. It lists a node once,
unless the node is named by a text and by a number as well: then it lists the node twice.
-/

namespace NodeFlow

/-! ## Keys -/

namespace NodeKey

/-- The id that the key names, unless it is too long to be written. -/
def name? (key : NodeKey) : Option String :=
  key.toText.toOption

/-- The key is a number of too many digits. -/
def IsOversized : NodeKey → Prop
  | text _ => False
  | number n => (Number.int n).IsOversized

/-- The keys name the id by a text and by a number. -/
def NamesTwice (keys : List NodeKey) (id : String) : Prop :=
  text id ∈ keys ∧ ∃ n, number n ∈ keys ∧ (number n).name? = some id

variable {keys : List NodeKey} {id : String}

theorem toText_cases (key : NodeKey) :
    (key.IsOversized ∧ key.toText = .error .digitsWritten) ∨
      (¬ key.IsOversized ∧ ∃ id, key.toText = .ok id) := by
  cases key with
  | text s => exact .inr ⟨not_false, s, rfl⟩
  | number n =>
    rcases Number.writeInt_cases n with ⟨long, unwritten⟩ | ⟨short, digits, written⟩
    · exact .inl ⟨long, by rw [toText, unwritten]; rfl⟩
    · exact .inr ⟨short, String.ofList digits, by rw [toText, written]; rfl⟩

/-- Keys are written one by one; the first one that is too long ends it. -/
theorem mapM_toText_cases (keys : List NodeKey) :
    ((∃ key ∈ keys, key.IsOversized) ∧ keys.mapM toText = .error .digitsWritten) ∨
      ((∀ key ∈ keys, ¬ key.IsOversized) ∧ keys.mapM toText = .ok (keys.filterMap name?)) := by
  induction keys with
  | nil => exact .inr ⟨by simp, rfl⟩
  | cons key rest ih =>
    rw [List.mapM_cons]
    rcases key.toText_cases with ⟨long, unwritten⟩ | ⟨short, id, written⟩
    · exact .inl ⟨⟨key, List.mem_cons_self, long⟩, by rw [unwritten]; rfl⟩
    have named : key.name? = some id := by rw [name?, written]; rfl
    rw [List.filterMap_cons_some named, written]
    rcases ih with ⟨⟨other, member, long⟩, unwritten⟩ | ⟨all, rests⟩
    · exact .inl ⟨⟨other, List.mem_cons_of_mem _ member, long⟩, by rw [unwritten]; rfl⟩
    · exact .inr ⟨List.forall_mem_cons.2 ⟨short, all⟩, by rw [rests]; rfl⟩

theorem writeInt_of_name? {n : Int} (named : (number n).name? = some id) :
    writeInt n = .ok id.toList := by
  rw [name?, toText] at named
  cases written : writeInt n with
  | error cause => simp [written, Except.map, Except.toOption] at named
  | ok digits =>
    simp only [written, Except.map, Except.toOption, Option.some.injEq] at named
    rw [← named, String.toList_ofList]

/-- Different numbers have different names. -/
theorem number_eq_of_name? {m n : Int} (first : (number m).name? = some id)
    (second : (number n).name? = some id) : m = n := by
  have closed : Json.Closed [] := by simp [Json.Closed]
  have read := Json.readNumber_writeInt (writeInt_of_name? first) closed
  rw [Json.readNumber_writeInt (writeInt_of_name? second) closed] at read
  simpa using read.symm

/-- An id is the name of one text and of one number at most. -/
theorem name?_eq_some_iff {key : NodeKey} :
    key.name? = some id ↔ key = text id ∨ ∃ n, key = number n ∧ (number n).name? = some id := by
  cases key with
  | text s => simp [name?, toText, Except.toOption]
  | number n => simp

/-- Of different keys two name the id if it is named twice, and else one does if it is named. -/
theorem countP_name? (distinct : keys.Nodup) (named : ∃ key ∈ keys, key.name? = some id) :
    (NamesTwice keys id → keys.countP (fun key => key.name? == some id) = 2) ∧
      (¬ NamesTwice keys id → keys.countP (fun key => key.name? == some id) = 1) := by
  have exactly : ∀ chosen : List NodeKey, chosen.Nodup →
      (∀ key, key ∈ keys ∧ key.name? = some id ↔ key ∈ chosen) →
        keys.countP (fun key => key.name? == some id) = chosen.length := by
    intro chosen apart members
    rw [List.countP_eq_length_filter]
    refine List.Perm.length_eq ((List.perm_ext_iff_of_nodup (distinct.filter _) apart).2 ?_)
    intro key
    rw [List.mem_filter, beq_iff_eq, members]
  constructor
  · rintro ⟨isText, n, isNumber, numbered⟩
    refine exactly [text id, number n] (by simp) fun key => ⟨?_, ?_⟩
    · rintro ⟨_, keyNamed⟩
      rcases name?_eq_some_iff.1 keyNamed with rfl | ⟨m, rfl, _⟩
      · exact List.mem_cons_self
      · rw [number_eq_of_name? keyNamed numbered]
        exact List.mem_cons_of_mem _ List.mem_cons_self
    · intro chosen
      rcases List.mem_pair.1 chosen with rfl | rfl
      · exact ⟨isText, rfl⟩
      · exact ⟨isNumber, numbered⟩
  · intro once
    obtain ⟨key, inKeys, keyNamed⟩ := named
    refine exactly [key] (by simp) fun other => ⟨?_, ?_⟩
    · rintro ⟨member, otherNamed⟩
      rw [List.mem_singleton]
      rcases name?_eq_some_iff.1 keyNamed with rfl | ⟨n, rfl, _⟩ <;>
        rcases name?_eq_some_iff.1 otherNamed with rfl | ⟨m, rfl, _⟩
      · rfl
      · exact absurd ⟨inKeys, m, member, otherNamed⟩ once
      · exact absurd ⟨member, n, inKeys, keyNamed⟩ once
      · rw [number_eq_of_name? otherNamed keyNamed]
    · intro chosen
      rw [List.mem_singleton.1 chosen]
      exact ⟨inKeys, keyNamed⟩

end NodeKey

/-! ## The nodes that keys name -/

namespace Graph

/-- The id is that of a node that is no group. -/
def isPlain (graph : Graph) (id : String) : Bool :=
  (graph.node? id).any fun node => !node.isGroup

/-- The node that the key names, if there is one and it is no group. -/
def plainNamed? (graph : Graph) (key : NodeKey) : Option String :=
  key.name?.filter graph.isPlain

/-- The nodes that the keys name, groups left out: each once, in the order in which they are named
first. -/
def plainNamed (graph : Graph) (keys : List NodeKey) : List String :=
  (keys.filterMap graph.plainNamed?).eraseDups

/-- The list holds the nodes that the keys name in their order, and holds those twice that are named
by a text and by a number. -/
structure Collects (graph : Graph) (keys : List NodeKey) (members : List String) : Prop where
  order : members.eraseDups = graph.plainNamed keys
  twice : ∀ id ∈ graph.plainNamed keys, NodeKey.NamesTwice keys id → members.count id = 2
  once : ∀ id ∈ graph.plainNamed keys, ¬ NodeKey.NamesTwice keys id → members.count id = 1

variable {graph : Graph} {keys : List NodeKey} {members : List String} {id : String}

theorem isPlain_iff : graph.isPlain id = true ↔
    ∃ node, graph.node? id = some node ∧ node.isGroup = false := by
  simp [isPlain, Option.any_eq_true]

theorem plainNamed?_eq_some_iff {key : NodeKey} :
    graph.plainNamed? key = some id ↔ key.name? = some id ∧ graph.isPlain id = true := by
  rw [plainNamed?, Option.filter_eq_some_iff]

theorem mem_plainNamed_iff : id ∈ graph.plainNamed keys ↔
    (∃ key ∈ keys, key.name? = some id) ∧ graph.isPlain id = true := by
  simp only [plainNamed, List.mem_eraseDups, List.mem_filterMap, plainNamed?_eq_some_iff]
  constructor
  · rintro ⟨key, member, named, plain⟩
    exact ⟨⟨key, member, named⟩, plain⟩
  · rintro ⟨⟨key, member, named⟩, plain⟩
    exact ⟨key, member, named, plain⟩

theorem Collects.mem_iff (collects : graph.Collects keys members) :
    id ∈ members ↔ id ∈ graph.plainNamed keys := by
  rw [← collects.order, List.mem_eraseDups]

/-- If no node is named twice then each is listed once. -/
theorem Collects.eq_plainNamed (collects : graph.Collects keys members)
    (single : ∀ id ∈ graph.plainNamed keys, ¬ NodeKey.NamesTwice keys id) :
    members = graph.plainNamed keys := by
  rw [← collects.order, Occurrences.eraseDups_of_nodup]
  rw [List.nodup_iff_count_le_one]
  intro id
  by_cases listed : id ∈ members
  · have named := collects.mem_iff.1 listed
    exact (collects.once id named (single id named)).le
  · rw [List.count_eq_zero.2 listed]
    exact Nat.zero_le 1

/-- The nodes of some ids that are there and no groups. -/
theorem map_id_plain (graph : Graph) (ids : List String) :
    ((ids.filterMap graph.node?).filter fun node => !node.isGroup).map Node.id =
      ids.filter graph.isPlain := by
  induction ids with
  | nil => rfl
  | cons id rest ih =>
    cases found : graph.node? id with
    | none =>
      have plain : graph.isPlain id = false := by simp [isPlain, found]
      rw [List.filterMap_cons_none found, ih, List.filter_cons_of_neg (by simp [plain])]
    | some node =>
      have plain : graph.isPlain id = !node.isGroup := by simp [isPlain, found]
      rw [List.filterMap_cons_some found]
      cases isGroup : node.isGroup with
      | true =>
        rw [List.filter_cons_of_neg (by simp [isGroup]), ih,
          List.filter_cons_of_neg (by simp [plain, isGroup])]
      | false =>
        rw [List.filter_cons_of_pos (by simp [isGroup]), List.map_cons, ih, id_of_node? found,
          List.filter_cons_of_pos (by simp [plain, isGroup])]

/-- Keys of too many digits are refused, whatever the others name. -/
theorem groupable_cases (graph : Graph) (keys : List NodeKey) :
    ((∃ key ∈ keys, key.IsOversized) ∧ graph.groupable keys = .error .digitsWritten) ∨
      ((∀ key ∈ keys, ¬ key.IsOversized) ∧ ∃ nodes, graph.groupable keys = .ok nodes ∧
        nodes.map Node.id = keys.eraseDups.filterMap graph.plainNamed?) := by
  rcases NodeKey.mapM_toText_cases keys.eraseDups with ⟨⟨key, member, long⟩, unwritten⟩ |
    ⟨all, written⟩
  · exact .inl ⟨⟨key, List.mem_eraseDups.1 member, long⟩, by rw [groupable, unwritten]; rfl⟩
  · refine .inr ⟨fun key member => all key (List.mem_eraseDups.2 member), _,
      by rw [groupable, written]; rfl, ?_⟩
    rw [map_id_plain, List.filter_filterMap]
    rfl

theorem mem_of_groupable {nodes : List Node} (found : graph.groupable keys = .ok nodes) {node : Node}
    (member : node ∈ nodes) : node ∈ graph.nodes ∧ node.isGroup = false := by
  unfold groupable at found
  cases texts : keys.eraseDups.mapM NodeKey.toText with
  | error cause =>
    rw [texts] at found
    cases found
  | ok ids =>
    rw [texts] at found
    cases found
    obtain ⟨listed, plain⟩ := List.mem_filter.1 member
    obtain ⟨id, _, present⟩ := List.mem_filterMap.1 listed
    exact ⟨mem_of_node? present, by simpa using plain⟩

theorem collects_eraseDups (graph : Graph) (keys : List NodeKey) :
    graph.Collects keys (keys.eraseDups.filterMap graph.plainNamed?) := by
  have distinct := Occurrences.nodup_eraseDups keys
  have twice : ∀ id, NodeKey.NamesTwice keys.eraseDups id ↔ NodeKey.NamesTwice keys id := by
    simp [NodeKey.NamesTwice, List.mem_eraseDups]
  have count : ∀ id ∈ graph.plainNamed keys,
      (keys.eraseDups.filterMap graph.plainNamed?).count id =
        keys.eraseDups.countP fun key => key.name? == some id := by
    intro id listed
    have plain := (mem_plainNamed_iff.1 listed).2
    rw [List.count_filterMap]
    refine List.countP_congr fun key _ => ?_
    rw [beq_iff_eq, beq_iff_eq, plainNamed?_eq_some_iff, plain]
    exact and_iff_left rfl
  have named : ∀ id ∈ graph.plainNamed keys, ∃ key ∈ keys.eraseDups, key.name? = some id := by
    intro id listed
    obtain ⟨⟨key, member, named⟩, _⟩ := mem_plainNamed_iff.1 listed
    exact ⟨key, List.mem_eraseDups.2 member, named⟩
  refine ⟨Occurrences.eraseDups_filterMap keys graph.plainNamed?, ?_, ?_⟩
  · intro id listed both
    rw [count id listed]
    exact (NodeKey.countP_name? distinct (named id listed)).1 ((twice id).2 both)
  · intro id listed single
    rw [count id listed]
    exact (NodeKey.countP_name? distinct (named id listed)).2 (mt (twice id).1 single)

end Graph

namespace Workspace

/-- What can come of grouping the nodes that keys name. -/
inductive GroupsTo (keys : List NodeKey) (before : Workspace) :
    EStateM.Result Error Workspace (Option Node) → Prop
  /-- A key is a number of too many digits. -/
  | refused (long : ∃ key ∈ keys, key.IsOversized) :
      GroupsTo keys before (.error (.conversion .digitsWritten) before)
  /-- The keys name no node, or only groups. -/
  | nothing (short : ∀ key ∈ keys, ¬ key.IsOversized) (none : before.graph.plainNamed keys = []) :
      GroupsTo keys before (.ok .none before)
  /-- The group's own number has too many digits. -/
  | exhausted (short : ∀ key ∈ keys, ¬ key.IsOversized)
      (named : before.graph.plainNamed keys ≠ []) (last : 10 ^ digitLimit ≤ before.ids.last + 1) :
      GroupsTo keys before
        (.error (.conversion .digitsWritten) ⟨before.graph, ⟨before.ids.last + 1⟩⟩)
  /-- There is a new group, below all nodes. -/
  | grouped (short : ∀ key ∈ keys, ¬ key.IsOversized)
      (named : before.graph.plainNamed keys ≠ []) (last : before.ids.last + 1 < 10 ^ digitLimit)
      (group : Node) (collects : before.graph.Collects keys group.members)
      (distinct : (∀ id ∈ before.graph.plainNamed keys, ¬ NodeKey.NamesTwice keys id) →
        group.members = before.graph.plainNamed keys) :
      GroupsTo keys before
        (.ok (some group) ⟨before.graph.insertFirst group, ⟨before.ids.last + 1⟩⟩)

/-- A group lists the nodes that its keys name in the order in which they are named first: those
twice that are named by a text and by a number, all others once. There is no group exactly if the
keys name no node or only groups, or if a key or the id of the group is too long. -/
theorem groupNodes_outcome (keys : List NodeKey) (label : String) (before : Workspace) :
    GroupsTo keys before (groupNodes keys label before) := by
  rw [groupNodes_eq]
  have collects := before.graph.collects_eraseDups keys
  rcases before.graph.groupable_cases keys with ⟨long, refused⟩ | ⟨short, nodes, found, members⟩
  · rw [refused]
    exact .refused long
  rw [← members] at collects
  rw [found]
  cases nodes with
  | nil => exact .nothing short collects.order.symm
  | cons first rest =>
    have named := List.ne_nil_of_mem (collects.mem_iff.1 List.mem_cons_self)
    rcases IdSource.fresh_cases "node" before.ids with ⟨fits, issued⟩ | ⟨last, failed⟩
    · rw [issued]
      exact .grouped short named fits _ collects collects.eq_plainNamed
    · rw [failed]
      exact .exhausted short named last

/-- The group `g` is passed over, and so is a node that is not there. -/
example : (match groupNodes [.text "b", .number 7, .text "none", .text "g", .number 7, .text "a"]
      "some" ⟨⟨[{ Node.blank "g" with isGroup := true, members := ["a"] }, Node.blank "a",
        Node.blank "b", Node.blank "7"], [], by simp [Node.blank]⟩, ⟨7⟩⟩ with
    | .ok group _ => group.map Node.members
    | .error _ _ => none) = some ["b", "7", "a"] := by decide +kernel

/-- A node whose id is the text of a number. -/
def five : Workspace := ⟨⟨[Node.blank "5"], [], by simp⟩, ⟨5⟩⟩

/-- The number and the text are different keys, but they name the same node. -/
theorem five_listed_twice :
    five.graph.plainNamed [.number 5, .text "5"] = ["5"] ∧
      ∃ group after, groupNodes [.number 5, .text "5"] "Group" five = .ok (some group) after ∧
        group.members = ["5", "5"] := by
  refine ⟨by decide +kernel, _, _, rfl, ?_⟩
  decide +kernel

end Workspace

end NodeFlow
