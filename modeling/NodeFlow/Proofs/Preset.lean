import NodeFlow.Preset

/-!
# What presets are built from

A preset creates nodes, writes whole numbers, joins ports and groups nodes, one after the other.
Main statement: what holds of these parts, and of every sequence of parts of which it holds, holds
of the building of every preset.
-/

namespace NodeFlow.Preset

/-- The property holds of the parts that presets are built from, and of every sequence of edits of
which it holds. -/
structure Closed (holds : {α : Type} → Edit Workspace α → Prop) : Prop where
  pure : ∀ {α : Type} (result : α), holds (pure result)
  bind : ∀ {α β : Type} {first : Edit Workspace β} {next : β → Edit Workspace α},
    holds first → (∀ result, holds (next result)) → holds (first >>= next)
  createNode : ∀ (kind : String) (x y : Int), holds (Workspace.createNode kind (.int x) (.int y))
  setValue : ∀ (id name : String) (n : Int), holds (Workspace.setValue id name (.int n))
  connect : ∀ source target : String, holds (Workspace.connect source target)
  groupNodes : ∀ (keys : List NodeKey) (label : String), holds (Workspace.groupNodes keys label)

namespace Closed

variable {holds : {α : Type} → Edit Workspace α → Prop}

theorem discarded (closed : Closed holds) {α : Type} {edit : Edit Workspace α} (part : holds edit) :
    holds (discard edit) := by
  have split : (discard edit : Edit Workspace Unit) = edit >>= fun _ => Pure.pure () :=
    map_eq_pure_bind (fun _ => ()) edit
  rw [split]
  exact closed.bind part fun _ => closed.pure ()

theorem node (closed : Closed holds) (kind : String) (x y : Int) :
    holds (Preset.node kind x y) :=
  closed.bind (closed.createNode kind x y) fun node => closed.pure node.id

theorem link (closed : Closed holds) (source sourcePort target targetPort : String) :
    holds (Preset.link source sourcePort target targetPort) :=
  closed.discarded (closed.connect _ _)

theorem setVector (closed : Closed holds) (id : String) (x y z : Int) :
    holds (Preset.setVector id x y z) :=
  closed.bind (closed.setValue id "x" x) fun _ =>
  closed.bind (closed.setValue id "y" y) fun _ =>
  closed.setValue id "z" z

theorem vectorDemo (closed : Closed holds) : holds Preset.vectorDemo.build :=
  closed.bind (closed.node "start" 80 60) fun start =>
  closed.bind (closed.node "vec3" 280 40) fun left =>
  closed.bind (closed.node "vec3" 280 140) fun right =>
  closed.bind (closed.node "dot" 520 90) fun dot =>
  closed.bind (closed.node "print" 740 90) fun print =>
  closed.bind (closed.setVector left 1 2 3) fun _ =>
  closed.bind (closed.setVector right 4 5 6) fun _ =>
  closed.bind (closed.link start execOutName dot execInName) fun _ =>
  closed.bind (closed.link left "v" dot "a") fun _ =>
  closed.bind (closed.link right "v" dot "b") fun _ =>
  closed.bind (closed.link dot "out" print "in") fun _ =>
  closed.bind (closed.link dot execOutName print execInName) fun _ =>
  closed.discarded (closed.groupNodes _ "Vector Demo")

theorem arithmeticDemo (closed : Closed holds) : holds Preset.arithmeticDemo.build :=
  closed.bind (closed.node "start" 80 60) fun start =>
  closed.bind (closed.node "add" 280 60) fun add =>
  closed.bind (closed.node "mul" 500 60) fun mul =>
  closed.bind (closed.node "print" 720 60) fun print =>
  closed.bind (closed.setValue add "a" 2) fun _ =>
  closed.bind (closed.setValue add "b" 3) fun _ =>
  closed.bind (closed.setValue mul "b" 4) fun _ =>
  closed.bind (closed.link start execOutName add execInName) fun _ =>
  closed.bind (closed.link add execOutName mul execInName) fun _ =>
  closed.bind (closed.link mul execOutName print execInName) fun _ =>
  closed.bind (closed.link add "out" mul "a") fun _ =>
  closed.link mul "out" print "in"

/-- What presets are built from decides about presets. -/
theorem build (closed : Closed holds) {preset : Preset} (listed : preset ∈ Preset.all) :
    holds preset.build := by
  simp only [Preset.all, List.mem_cons, List.not_mem_nil, or_false] at listed
  rcases listed with rfl | rfl
  · exact closed.vectorDemo
  · exact closed.arithmeticDemo

end Closed

end NodeFlow.Preset
