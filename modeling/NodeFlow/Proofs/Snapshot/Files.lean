import NodeFlow.Proofs.Json.Folding
import NodeFlow.Proofs.Snapshot.Faults
import NodeFlow.Proofs.Snapshot.Prefix

/-!
# Snapshots in files

A file is read with its line ends folded, and its snapshot may replace any graph; a text is loaded
as it stands, into nothing. Main statement: a file that holds the UTF-8 bytes of a text is loaded if
and only if the text is, both come to the same graph and the same counter, and the command `run`
runs that graph.
-/

namespace NodeFlow

open Edit (Fails)

namespace Workspace

variable {ids : IdSource} {after : Workspace}

/-- What a snapshot is restored to does not depend on the graph that it replaces. -/
theorem restore_eq_ok_iff_of_empty {snapshot : Value} (graph : Graph) :
    restore snapshot ⟨graph, ids⟩ = .ok () after ↔
      restore snapshot ⟨.empty, ids⟩ = .ok () after := by
  cases listed : Snapshot.records? snapshot with
  | none =>
    have fails : ∀ graph, restore snapshot ⟨graph, ids⟩ ≠ .ok () after := by
      intro graph passes
      obtain ⟨cause, failed⟩ := @Snapshot.restore_of_no_records snapshot ⟨graph, ids⟩ listed
      rw [failed] at passes
      cases passes
    exact iff_of_false (fails graph) (fails .empty)
  | some records =>
    have gives := Snapshot.gives_addRecords records.1 records.2 ids snapshot listed
    rw [gives graph, gives .empty]

end Workspace

namespace Command

open Workspace

/-- Decoded text is loaded from a file if and only if it is loaded as it stands. -/
theorem loadFile_eq_ok_iff (path text : String) {before after : Workspace} :
    loadFile path text before = .ok () after ↔ load text before = .ok () after := by
  unfold loadFile load
  rw [replacing_eq_ok_iff, restoreText_eq_ok_iff, restoreText_eq_ok_iff]
  simp only [Json.read_foldLineEnds, restore_eq_ok_iff_of_empty before.graph]

/-- The command `run` runs what is loaded from the file, or comes to the error of loading. -/
theorem execute_run_of_decodes {look : String → Target} {path : String} {bytes : ByteArray}
    {decoded : String} (found : look path = .file bytes)
    (decodes : Text.decodeUtf8 bytes = .ok decoded) (settings : Settings) (dump : Bool)
    (maxSteps : Option Int) (ids : IdSource) :
    (∃ loaded, loadFile path decoded ⟨.empty, ids⟩ = .ok () loaded ∧
      execute settings look ids (.run path dump maxSteps) =
        runGraph loaded.graph (maxSteps.getD settings.maxExecSteps) dump) ∨
    ∃ error, Fails (loadFile path decoded) error ⟨.empty, ids⟩ ∧
      execute settings look ids (.run path dump maxSteps) = .ofError "" error := by
  simp only [execute, found, runFile, decodes, Fails]
  cases loadFile path decoded ⟨.empty, ids⟩ with
  | ok _ loaded => exact .inl ⟨loaded, rfl, rfl⟩
  | error error later => exact .inr ⟨error, ⟨later, rfl⟩, rfl⟩

/-- A file that holds the bytes of a text is read, and it is loaded if and only if the text is, with
the same graph and the same counter, whatever graph it replaces. The command `run` runs exactly the
graph of the text; if the text is not loaded the command runs nothing, and comes to the error of
loading the file. -/
theorem load_of_file (path text : String) (before : Workspace) :
    ∃ decoded, Text.decodeUtf8 text.toUTF8 = .ok decoded ∧
      (∀ after, loadFile path decoded before = .ok () after ↔ load text before = .ok () after) ∧
      ∀ (settings : Settings) (look : String → Target) (dump : Bool) (maxSteps : Option Int),
        look path = .file text.toUTF8 →
          (∃ loaded, load text ⟨.empty, before.ids⟩ = .ok () loaded ∧
            execute settings look before.ids (.run path dump maxSteps) =
              runGraph loaded.graph (maxSteps.getD settings.maxExecSteps) dump) ∨
          (∀ loaded, load text ⟨.empty, before.ids⟩ ≠ .ok () loaded) ∧
            ∃ error, Fails (loadFile path decoded) error ⟨.empty, before.ids⟩ ∧
              execute settings look before.ids (.run path dump maxSteps) = .ofError "" error := by
  refine ⟨text, Text.decodeUtf8_toUTF8 text, fun _ => loadFile_eq_ok_iff path text, ?_⟩
  intro settings look dump maxSteps found
  rcases execute_run_of_decodes found (Text.decodeUtf8_toUTF8 text) settings dump maxSteps
      before.ids with ⟨loaded, loads, runs⟩ | ⟨error, fails, reports⟩
  · exact .inl ⟨loaded, (loadFile_eq_ok_iff path text).1 loads, runs⟩
  · refine .inr ⟨fun loaded loads => ?_, error, fails, reports⟩
    obtain ⟨later, failed⟩ := fails
    rw [(loadFile_eq_ok_iff path text).2 loads] at failed
    cases failed

/-- The snapshot of a single node, with all the ways to end a line. -/
def threeLineEnds : String :=
  "\x7b\"nodes\":\r\n[\x7b\"id\": \"a\",\r\"kind\": \"start\"\x7d],\n\"edges\": []\x7d"

private theorem ends_load_threeLineEnds : Edit.Ends (load threeLineEnds)
    (fun _ loaded => loaded.graph.nodes.map Node.id = ["a"]) (fun _ => False) ⟨.empty, ⟨4⟩⟩ := by
  decide +kernel

/-- A directory with the snapshot as its only file. -/
def lookAtThreeLineEnds : String → Target :=
  Path.target [(["graph.json"], threeLineEnds.toUTF8)]

private theorem lookAtThreeLineEnds_graph :
    lookAtThreeLineEnds "graph.json" = .file threeLineEnds.toUTF8 := by
  have located : Path.locate [(["graph.json"], threeLineEnds.toUTF8)] "graph.json" =
      .ok (.inside ["graph.json"]) := by
    decide +kernel
  simp only [lookAtThreeLineEnds, Path.target, located, Place.target, List.lookup_cons_self]

/-- The node is loaded from the file as from the text, and the command runs its graph. -/
theorem threeLineEnds_runs : lookAtThreeLineEnds "graph.json" = .file threeLineEnds.toUTF8 ∧
    ∃ decoded loaded, Text.decodeUtf8 threeLineEnds.toUTF8 = .ok decoded ∧
      loadFile "graph.json" decoded ⟨.empty, ⟨4⟩⟩ = .ok () loaded ∧
      load threeLineEnds ⟨.empty, ⟨4⟩⟩ = .ok () loaded ∧
      loaded.graph.nodes.map Node.id = ["a"] ∧
      execute .default lookAtThreeLineEnds ⟨4⟩ (.run "graph.json" false (some 7)) =
        runGraph loaded.graph 7 false := by
  obtain ⟨decoded, decodes, same, runs⟩ := load_of_file "graph.json" threeLineEnds ⟨.empty, ⟨4⟩⟩
  obtain ⟨_, loaded, loads, ids⟩ := ends_load_threeLineEnds.of_passes not_false
  refine ⟨lookAtThreeLineEnds_graph, decoded, loaded, decodes, (same loaded).2 loads, loads, ids,
    ?_⟩
  rcases runs .default lookAtThreeLineEnds false (some 7) lookAtThreeLineEnds_graph with
    ⟨_, again, ran⟩ | ⟨fails, _⟩
  · rw [loads] at again
    cases again
    exact ran
  · exact absurd loads (fails loaded)

end Command

end NodeFlow
