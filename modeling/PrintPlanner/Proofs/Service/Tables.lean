import PrintPlanner.Proofs.Query.Bare
import PrintPlanner.Proofs.Service.Graphs

/-!
# The tables of a service's graph

A job is planned on the graph of the service, and may leave adjacency tables behind even if it
fails.  Nobody can tell: a service whose tables have been built replies to all later calls as it
would without them (`RunningService.run_indexed`).
-/

set_option autoImplicit false

namespace PrintPlanner

open FilterGraph

/-! ## Staging a printer -/

namespace PlanningService

theorem addFormats_bare (sink : MediaTypeId) (formats : List PrinterFormat)
    (graph : FilterGraph) :
    addFormats sink formats graph.bare = (addFormats sink formats graph).map bare := by
  induction formats generalizing graph with
  | nil => rfl
  | cons format rest ih =>
      unfold addFormats
      rw [addFilter, addFilter, offerFilter_bare]
      cases graph.offerFilter format.source sink format.cost none format.program with
      | error error => rfl
      | ok pair => exact ih pair.2

/-- The tables have no influence on a staged printer but for its own tables. -/
theorem stagePrinter_bare (graph : FilterGraph) (name : String) (formats : List PrinterFormat) :
    stagePrinter graph.bare name formats = bareResult (stagePrinter graph name formats) := by
  unfold stagePrinter
  rw [addSinkType_eq_addType, addSinkType_eq_addType, addType_bare]
  cases graph.addType MediaType.sinkSuperType name with
  | error error => rfl
  | ok pair =>
      obtain ⟨sink, named⟩ := pair
      show (addFormats sink formats named.bare >>= _) =
        bareResult (addFormats sink formats named >>= _)
      rw [addFormats_bare]
      cases addFormats sink formats named <;> rfl

/-- Staging a printer on graphs that differ in their tables alone fails with the same error, or
gives the same handle and graphs that differ in their tables alone. -/
theorem stagePrinter_congr {first second : FilterGraph} (same : first.bare = second.bare)
    (name : String) (formats : List PrinterFormat) :
    (∃ error, stagePrinter first name formats = .error error ∧
        stagePrinter second name formats = .error error) ∨
      ∃ sink firstStaged secondStaged, stagePrinter first name formats = .ok (sink, firstStaged) ∧
        stagePrinter second name formats = .ok (sink, secondStaged) ∧
        firstStaged.bare = secondStaged.bare := by
  have alike : bareResult (stagePrinter first name formats) =
      bareResult (stagePrinter second name formats) := by
    rw [← stagePrinter_bare, ← stagePrinter_bare, same]
  revert alike
  generalize stagePrinter first name formats = firstResult
  generalize stagePrinter second name formats = secondResult
  intro alike
  cases firstResult with
  | error error =>
      cases secondResult with
      | error other =>
          cases alike
          exact .inl ⟨error, rfl, rfl⟩
      | ok pair => cases alike
  | ok pair =>
      cases secondResult with
      | error other => cases alike
      | ok other =>
          obtain ⟨sameSink, sameGraph⟩ := Prod.mk.inj (Except.ok.inj alike)
          exact .inr ⟨pair.1, pair.2, other.2, rfl, by rw [sameSink], sameGraph⟩

end PlanningService

/-! ## One call -/

namespace RunningService

variable {running first second : RunningService}

/-- The service with the tables of its graph built. -/
def indexed (running : RunningService) : RunningService :=
  { running with service := { running.service with graph := running.service.graph.indexed } }

theorem graph_indexed (running : RunningService) :
    running.indexed.service.graph = running.service.graph.indexed := rfl

/-- A call has the same reply where the tables are built, and leaves the same but for them. -/
theorem perform_indexed (reachable : running.service.graph.Reachable) (call : ServiceCall) :
    (running.indexed.perform call).1 = (running.perform call).1 ∧
      (running.indexed.perform call).2.indexed = (running.perform call).2.indexed := by
  have built : running.service.graph.indexed.Reachable := reachable.perform .query
  have place : ∀ {graph other : FilterGraph}, graph.indexed = other.indexed →
      ({ running with service := { running.service with graph } } : RunningService).indexed =
        ({ running with service := { running.service with graph := other } }).indexed := by
    intro graph other same
    simp only [indexed, same]
  cases call with
  | reload source =>
      simp only [perform, PlanningService.reload]
      cases source.loader.load .empty with
      | mk result fresh => cases result <;> exact ⟨rfl, rfl⟩
  | addPrinter name formats =>
      simp only [perform, PlanningService.addPrinter, graph_indexed]
      obtain ⟨error, builtFails, fails⟩ | ⟨sink, builtLeft, left, builtStaged, staged, same⟩ :=
        PlanningService.stagePrinter_congr running.service.graph.bare_indexed name formats
      · rw [builtFails, fails]
        exact ⟨rfl, rfl⟩
      · have builtReachable := (PlanningService.stagePrinter_keeps built builtStaged).1
        have leftReachable := (PlanningService.stagePrinter_keeps reachable staged).1
        rw [builtStaged, staged]
        exact ⟨rfl, place (builtReachable.coherent.indexed_congr leftReachable.coherent same)⟩
  | planJob classifier path size sink => exact ⟨rfl, rfl⟩
  | runJob classifier executor path size sink => cases executor <;> exact ⟨rfl, rfl⟩
  | accepts source sink => exact ⟨rfl, rfl⟩
  | printerFormats sink => exact ⟨rfl, rfl⟩
  | editGraph edit =>
      obtain ⟨reply, same⟩ := perform_congr running.service.graph.bare_indexed edit
      have onward := (reachable.perform edit).coherent
      have left := (built.perform edit).coherent.indexed_congr onward same
      exact ⟨congrArg ServiceReply.edited reply, place left⟩

/-! ## Runs -/

/-- Services that do not differ once their tables are built reply alike and still do not differ
then. -/
theorem perform_congr_indexed (firstReachable : first.service.graph.Reachable)
    (secondReachable : second.service.graph.Reachable) (same : first.indexed = second.indexed)
    (call : ServiceCall) :
    (first.perform call).1 = (second.perform call).1 ∧
      (first.perform call).2.indexed = (second.perform call).2.indexed := by
  obtain ⟨firstReply, firstLeft⟩ := perform_indexed firstReachable call
  obtain ⟨secondReply, secondLeft⟩ := perform_indexed secondReachable call
  rw [← firstReply, ← firstLeft, same]
  exact ⟨secondReply, secondLeft⟩

theorem run_congr_indexed (firstReachable : first.service.graph.Reachable)
    (secondReachable : second.service.graph.Reachable) (same : first.indexed = second.indexed)
    (calls : List ServiceCall) :
    first.replies calls = second.replies calls ∧
      (first.after calls).indexed = (second.after calls).indexed := by
  induction calls generalizing first second with
  | nil => exact ⟨rfl, same⟩
  | cons call rest ih =>
      obtain ⟨reply, left⟩ := perform_congr_indexed firstReachable secondReachable same call
      obtain ⟨replies, outcome⟩ := ih (reachable_perform firstReachable call)
        (reachable_perform secondReachable call) left
      refine ⟨?_, outcome⟩
      show (first.perform call).1 :: _ = (second.perform call).1 :: _
      rw [reply, replies]

/-- **Built tables are invisible:** the service replies to all later calls as without them, and is
left the same but for the tables. -/
theorem run_indexed (reachable : running.service.graph.Reachable) (later : List ServiceCall) :
    running.indexed.replies later = running.replies later ∧
      (running.indexed.after later).indexed = (running.after later).indexed := by
  have built : running.indexed.service.graph.Reachable := reachable.perform .query
  exact run_congr_indexed built reachable rfl later

end RunningService

end PrintPlanner
