import PrintPlanner.Proofs.Graph.Tables
import PrintPlanner.Proofs.Query.Bare
import PrintPlanner.Query.Copies

/-!
# Graphs and copies under reads

Queries build the adjacency tables of a graph, additions extend them, removals drop them, and a
copy has them or not as its model had.  None of this can be seen: at every point of every run the
tables agree with the filters, and reads change no later reply
(`GraphCopies.tablesAgree_and_reads_invisible`).
-/

set_option autoImplicit false

namespace PrintPlanner.GraphCopies

open FilterGraph

/-- All graphs have been made out of the empty one by changes and queries. -/
def Reachable (copies : GraphCopies) : Prop := ∀ graph ∈ copies.graphs, graph.Reachable

variable {copies first second : GraphCopies}

theorem reachable_start : start.Reachable := by
  intro graph member
  rw [List.mem_singleton.mp member]
  exact ⟨[], rfl⟩

theorem Reachable.replace (reachable : copies.Reachable) (number : Nat) {graph : FilterGraph}
    (fine : graph.Reachable) : (copies.replace number graph).Reachable := by
  intro other member
  rcases List.mem_or_eq_of_mem_set member with old | rfl
  · exact reachable other old
  · exact fine

theorem Reachable.perform (reachable : copies.Reachable) (call : CopyCall) :
    (copies.perform call).2.Reachable := by
  obtain ⟨number, request⟩ := call
  unfold GraphCopies.perform
  split
  · exact reachable
  rename_i graph found
  have fine := reachable graph (List.mem_of_getElem? found)
  cases request with
  | edit edit => exact reachable.replace number (fine.perform edit)
  | ask query => exact reachable.replace number (fine.ask query)
  | clone =>
      intro other member
      rcases List.mem_append.mp member with old | new
      · exact reachable other old
      · rwa [List.mem_singleton.mp new]

theorem Reachable.after (reachable : copies.Reachable) (calls : List CopyCall) :
    (copies.after calls).Reachable := by
  induction calls generalizing copies with
  | nil => exact reachable
  | cons call rest ih => exact ih (reachable.perform call)

/-! ## Graphs that differ in their tables alone -/

/-- The graphs are the same but for their adjacency tables. -/
def SameContents (first second : GraphCopies) : Prop :=
  first.graphs.map bare = second.graphs.map bare

theorem SameContents.map_getElem? (same : first.SameContents second) (number : Nat) :
    first.graphs[number]?.map bare = second.graphs[number]?.map bare := by
  rw [← List.getElem?_map, same, List.getElem?_map]

theorem SameContents.length_eq (same : first.SameContents second) :
    first.graphs.length = second.graphs.length := by
  have lengths := congrArg List.length same
  rwa [List.length_map, List.length_map] at lengths

theorem SameContents.replace (same : first.SameContents second) (number : Nat)
    {graph other : FilterGraph} (equal : graph.bare = other.bare) :
    (first.replace number graph).SameContents (second.replace number other) := by
  unfold SameContents GraphCopies.replace
  rw [List.map_set, List.map_set, same, equal]

/-- Putting a graph in place of one from which it differs in its tables alone. -/
theorem sameContents_replace {number : Nat} {graph changed : FilterGraph}
    (found : copies.graphs[number]? = some graph) (equal : changed.bare = graph.bare) :
    (copies.replace number changed).SameContents copies := by
  have inside := (List.getElem?_eq_some_iff.mp found).1
  have itself := (List.getElem?_eq_some_iff.mp found).2
  unfold SameContents GraphCopies.replace
  rw [List.map_set, equal, ← itself, ← List.map_set, List.set_getElem_self]

/-- **Every call gets the same reply** from graphs that differ in their tables alone, and leaves
such graphs. -/
theorem SameContents.perform (same : first.SameContents second) (firstReachable : first.Reachable)
    (secondReachable : second.Reachable) (call : CopyCall) :
    (first.perform call).1 = (second.perform call).1 ∧
      (first.perform call).2.SameContents (second.perform call).2 := by
  obtain ⟨number, request⟩ := call
  have bares := same.map_getElem? number
  unfold GraphCopies.perform
  cases found : first.graphs[number]? with
  | none =>
      rw [found, Option.map_none, eq_comm, Option.map_eq_none_iff] at bares
      rw [bares]
      exact ⟨rfl, same⟩
  | some graph =>
      rw [found, Option.map_some, eq_comm, Option.map_eq_some_iff] at bares
      obtain ⟨other, twin, equal⟩ := bares
      rw [twin]
      cases request with
      | edit edit =>
          obtain ⟨reply, left⟩ := perform_congr equal.symm edit
          exact ⟨congrArg CopyReply.edited reply, same.replace number left⟩
      | ask query =>
          have coherent := (firstReachable graph (List.mem_of_getElem? found)).coherent
          have twinCoherent := (secondReachable other (List.mem_of_getElem? twin)).coherent
          have answer := coherent.answer_congr twinCoherent equal.symm query
          refine ⟨congrArg CopyReply.answered answer, same.replace number ?_⟩
          rw [bare_ask, bare_ask, equal]
      | clone =>
          refine ⟨congrArg CopyReply.cloned same.length_eq, ?_⟩
          show (first.graphs ++ [graph]).map bare = (second.graphs ++ [other]).map bare
          rw [List.map_append, List.map_append, same, List.map_singleton, List.map_singleton, equal]

/-- A read changes the tables at most. -/
theorem sameContents_read (copies : GraphCopies) {call : CopyCall}
    (read : call.request.isRead = true) : (copies.perform call).2.SameContents copies := by
  obtain ⟨number, request⟩ := call
  unfold GraphCopies.perform
  split
  · rfl
  rename_i graph found
  cases request with
  | edit edit =>
      cases edit with
      | query => exact sameContents_replace found graph.bare_indexed
      | _ => cases read
  | ask query => exact sameContents_replace found (graph.bare_ask query)
  | clone => cases read

/-! ## Runs -/

/-- The calls that do not only read. -/
def changes (calls : List CopyCall) : List CopyCall := calls.filter (!·.request.isRead)

/-- Leaving out the reads of a run leaves the same graphs, their tables aside. -/
theorem SameContents.after_changes (same : first.SameContents second)
    (firstReachable : first.Reachable) (secondReachable : second.Reachable)
    (calls : List CopyCall) :
    (first.after calls).SameContents (second.after (changes calls)) := by
  induction calls generalizing first second with
  | nil => exact same
  | cons call rest ih =>
      cases read : call.request.isRead with
      | true =>
          have dropped : changes (call :: rest) = changes rest := by simp [changes, read]
          rw [dropped]
          exact ih ((first.sameContents_read read).trans same) (firstReachable.perform call)
            secondReachable
      | false =>
          have kept : changes (call :: rest) = call :: changes rest := by simp [changes, read]
          rw [kept]
          exact ih (same.perform firstReachable secondReachable call).2
            (firstReachable.perform call) (secondReachable.perform call)

theorem SameContents.replies_eq (same : first.SameContents second)
    (firstReachable : first.Reachable) (secondReachable : second.Reachable)
    (calls : List CopyCall) : first.replies calls = second.replies calls := by
  induction calls generalizing first second with
  | nil => rfl
  | cons call rest ih =>
      obtain ⟨reply, left⟩ := same.perform firstReachable secondReachable call
      unfold replies
      rw [reply, ih left (firstReachable.perform call) (secondReachable.perform call)]

/-- **The tables of a graph and of all its copies agree with their filters at every point of every
run, and reads are invisible:** runs with the same changes, whatever queries stand between them,
go on with the same replies. -/
theorem tablesAgree_and_reads_invisible (calls : List CopyCall) :
    (∀ graph ∈ (start.after calls).graphs, graph.TablesAgree) ∧
      ∀ others, changes others = changes calls →
        ∀ later, (start.after others).replies later = (start.after calls).replies later := by
  have reachable := reachable_start.after calls
  refine ⟨fun graph member => (reachable graph member).coherent.tablesAgree, ?_⟩
  intro others same later
  have unread : ∀ run, (start.after run).SameContents (start.after (changes run)) :=
    fun run => SameContents.after_changes rfl reachable_start reachable_start run
  have equal : (start.after others).SameContents (start.after calls) := by
    refine (unread others).trans ?_
    rw [same]
    exact (unread calls).symm
  exact equal.replies_eq (reachable_start.after others) reachable later

/-- A graph is asked before and after its filters are added and one of them is removed, and its
copy gets a filter of its own. -/
def eagerCalls : List CopyCall := [
  ⟨0, .edit (.addType "text" "plain")⟩, ⟨0, .edit (.addType "application" "pdf")⟩,
  ⟨0, .edit (.addSinkType "office")⟩, ⟨0, .ask (.producersOf ⟨2⟩)⟩,
  ⟨0, .edit (.addFilter ⟨0⟩ ⟨1⟩ 3 "texttopdf")⟩, ⟨0, .edit (.addFilter ⟨0⟩ ⟨2⟩ 9 "texttoprinter")⟩,
  ⟨0, .clone⟩, ⟨0, .edit (.removeFilter ⟨0⟩)⟩, ⟨0, .ask (.filtersFrom ⟨0⟩)⟩,
  ⟨1, .edit (.addFilter ⟨1⟩ ⟨2⟩ 1 "pdftoprinter")⟩]

/-- The tables of the copy were copied and extended, and agree with its filters.  Without the
queries neither graph has tables, and yet nobody can tell the two runs apart. -/
theorem replies_changes_eagerCalls :
    changes (changes eagerCalls) = changes eagerCalls ∧
      (start.after eagerCalls).graphs.map (·.adjacency?.isSome) = [true, true] ∧
      (start.after (changes eagerCalls)).graphs.map (·.adjacency?.isSome) = [false, false] ∧
      (∃ graph ∈ (start.after eagerCalls).graphs,
        graph.filtersInto ⟨2⟩ = [(⟨1⟩, ⟨⟨0⟩, ⟨2⟩, 9, 0, "texttoprinter"⟩),
          (⟨2⟩, ⟨⟨1⟩, ⟨2⟩, 1, 0, "pdftoprinter"⟩)] ∧ graph.TablesAgree) ∧
      ∀ later, (start.after (changes eagerCalls)).replies later =
        (start.after eagerCalls).replies later := by
  have same : changes (changes eagerCalls) = changes eagerCalls := by decide +kernel
  obtain ⟨agree, invisible⟩ := tablesAgree_and_reads_invisible eagerCalls
  have copied : ∃ graph ∈ (start.after eagerCalls).graphs,
      graph.filtersInto ⟨2⟩ = [(⟨1⟩, ⟨⟨0⟩, ⟨2⟩, 9, 0, "texttoprinter"⟩),
        (⟨2⟩, ⟨⟨1⟩, ⟨2⟩, 1, 0, "pdftoprinter"⟩)] := by
    decide +kernel
  obtain ⟨graph, member, feeds⟩ := copied
  exact ⟨same, by decide +kernel, by decide +kernel, ⟨graph, member, feeds, agree graph member⟩,
    invisible _ same⟩

end PrintPlanner.GraphCopies
