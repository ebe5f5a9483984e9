import PrintPlanner.Proofs.Graph.Refusals
import PrintPlanner.Proofs.Service.Tables
import PrintPlanner.Proofs.Signature.Sharing

/-!
# Calls that succeed as a whole or not at all

A failed call leaves the graph, the cache and the settings of a service as they were, wherever in
its declarations or formats it failed.  A printer that is accepted makes just those changes of the
graph that its type and the filters of its formats would make one by one, and it is accepted
exactly if none of these is refused.  All of this is one property of a service
(`RunningService.AllOrNothing`), and services have it after every run
(`RunningService.allOrNothing_after`).
-/

set_option autoImplicit false

namespace PrintPlanner

/-! ## Failures -/

/-- Whether a call failed. -/
def ServiceReply.isFailure : ServiceReply → Bool
  | .reloaded result => !result.isOk
  | .printer result => !result.isOk
  | .job result => !result.isOk
  | .accepted result => !result.isOk
  | .formats result => !result.isOk
  | .edited answer => answer.isRefused

/-! ## Printers, change by change -/

namespace PlanningService

open FilterGraph

variable {graph changed : FilterGraph} {sink : MediaTypeId}

/-- The filters into a printer's type, one for each of its formats. -/
def formatEdits (sink : MediaTypeId) (formats : List PrinterFormat) : List GraphEdit :=
  formats.map fun format => .addFilter format.source sink format.cost format.program

/-- A printer's type, and the filters into it from the handle that the type has. -/
def printerEdits (name : String) (sink : MediaTypeId) (formats : List PrinterFormat) :
    List GraphEdit :=
  .addSinkType name :: formatEdits sink formats

/-- The filters of formats are added one by one, up to the first that is refused. -/
theorem addFormats_eq_ok_iff {formats : List PrinterFormat} :
    addFormats sink formats graph = .ok changed ↔
      graph.AcceptsAll (formatEdits sink formats) ∧
        graph.after (formatEdits sink formats) = changed := by
  induction formats generalizing graph with
  | nil =>
      show Except.ok graph = .ok changed ↔ _
      rw [Except.ok.injEq]
      exact ⟨fun same => ⟨acceptsAll_nil, same⟩, And.right⟩
  | cons format rest ih =>
      have edits : formatEdits sink (format :: rest) =
        .addFilter format.source sink format.cost format.program :: formatEdits sink rest := rfl
      rw [edits, acceptsAll_cons, after_cons, addFormats, perform]
      cases graph.addFilter format.source sink format.cost format.program with
      | error error =>
          constructor
          · intro added
            cases added
          · rintro ⟨⟨accepted, _⟩, _⟩
            cases accepted
      | ok pair =>
          refine ih.trans (and_congr_left fun _ => ?_)
          exact ⟨fun accepted => ⟨rfl, accepted⟩, And.right⟩

/-- **A printer is staged by its changes one by one,** and only if all of them are accepted. -/
theorem stagePrinter_eq_ok_iff_acceptsAll {name : String} {formats : List PrinterFormat} :
    stagePrinter graph name formats = .ok (sink, changed) ↔
      ((graph.perform (.addSinkType name)).1 = .type (.ok sink) ∧
        graph.AcceptsAll (printerEdits name sink formats)) ∧
        graph.after (printerEdits name sink formats) = changed := by
  rw [stagePrinter_eq_ok_iff, printerEdits, acceptsAll_cons, after_cons, perform]
  cases graph.addSinkType name with
  | error error =>
      constructor
      · rintro ⟨_, registered, _⟩
        cases registered
      · rintro ⟨⟨accepted, _⟩, _⟩
        cases accepted
  | ok pair =>
      obtain ⟨handle, named⟩ := pair
      constructor
      · rintro ⟨_, registered, added⟩
        cases registered
        obtain ⟨accepted, rfl⟩ := addFormats_eq_ok_iff.mp added
        exact ⟨⟨rfl, rfl, accepted⟩, rfl⟩
      · rintro ⟨⟨registered, _, accepted⟩, rfl⟩
        cases registered
        exact ⟨named, rfl, addFormats_eq_ok_iff.mpr ⟨accepted, rfl⟩⟩

variable {service : PlanningService}

/-- A printer is registered exactly if all its changes are accepted. -/
theorem addPrinter_fst_eq_ok_iff {name : String} {formats : List PrinterFormat} :
    (service.addPrinter name formats).1 = .ok sink ↔
      (service.graph.perform (.addSinkType name)).1 = .type (.ok sink) ∧
        service.graph.AcceptsAll (printerEdits name sink formats) := by
  rw [addPrinter_fst_eq_ok_iff_staged]
  constructor
  · rintro ⟨changed, stages⟩
    exact (stagePrinter_eq_ok_iff_acceptsAll.mp stages).1
  · intro accepted
    exact ⟨_, stagePrinter_eq_ok_iff_acceptsAll.mpr ⟨accepted, rfl⟩⟩

/-- A registered printer changes the graph by its own changes, and nothing else. -/
theorem addPrinter_snd {name : String} {formats : List PrinterFormat}
    (registered : (service.addPrinter name formats).1 = .ok sink) :
    (service.addPrinter name formats).2 =
      { service with graph := service.graph.after (printerEdits name sink formats) } := by
  have accepted := addPrinter_fst_eq_ok_iff.mp registered
  have stages := stagePrinter_eq_ok_iff_acceptsAll.mpr ⟨accepted, rfl⟩
  rw [addPrinter, stages]

/-- The formats of a printer can always be listed. -/
theorem exists_printerFormats (reachable : service.graph.Reachable) (sink : MediaTypeId) :
    ∃ types, (service.printerFormats sink).1 = .ok types := by
  obtain ⟨types, swept, _⟩ := reachable.coherent.exists_reachableSources sink
  show ∃ types, (service.cache.reachableSources service.graph sink).1 = .ok types
  unfold SignatureCache.reachableSources
  rw [swept]
  split
  · exact ⟨_, rfl⟩
  · exact ⟨types, rfl⟩

/-- A failed job leaves no run behind. -/
theorem runJob_snd_of_failed {classifier : TypeClassifier} {executor : JobExecutor}
    {path : String} {size : UInt64} {runs : List RecordedRun}
    (failed : (service.runJob classifier executor.executor path size sink runs).1.isOk = false) :
    (service.runJob classifier executor.executor path size sink runs).2 = runs := by
  unfold runJob at failed ⊢
  split
  · rename_i chain planned
    rw [planned] at failed
    cases executor with
    | recording => cases failed
    | failing error => rfl
  · rfl

end PlanningService

/-! ## Every call of every run -/

namespace RunningService

variable {running : RunningService}

/-- **A failed call changes nothing**, neither the service nor the runs. -/
theorem perform_of_isFailure (reachable : running.service.graph.Reachable) {call : ServiceCall}
    (failed : (running.perform call).1.isFailure = true) : (running.perform call).2 = running := by
  cases call with
  | reload source =>
      simp only [perform] at failed ⊢
      obtain ⟨error, same⟩ | ⟨fresh, _, replaced⟩ := running.service.reload_cases source.loader
      · rw [same]
      · rw [replaced] at failed
        cases failed
  | addPrinter name formats =>
      simp only [perform] at failed ⊢
      obtain ⟨error, same⟩ | ⟨sink, staged, _, registered⟩ :=
        running.service.addPrinter_cases name formats
      · rw [same]
      · rw [registered] at failed
        cases failed
  | planJob classifier path size sink => rfl
  | runJob classifier executor path size sink =>
      simp only [perform, ServiceReply.isFailure, Bool.not_eq_true'] at failed ⊢
      rw [PlanningService.runJob_snd_of_failed failed]
  | accepts source sink => rfl
  | printerFormats sink =>
      obtain ⟨types, listed⟩ := PlanningService.exists_printerFormats reachable sink
      simp only [perform, ServiceReply.isFailure, listed] at failed
      cases failed
  | editGraph edit =>
      have unchanged := FilterGraph.perform_of_isRefused failed
      simp only [perform, unchanged]

/-- Calls of the service succeed as a whole or change nothing. -/
structure AllOrNothing (running : RunningService) : Prop where
  /-- A failed call changes nothing. -/
  failed : ∀ call, (running.perform call).1.isFailure = true → (running.perform call).2 = running
  /-- A reload by any loader puts the graph of a successful loader in place of the old one and
  empties the cache, or fails with the loader and changes nothing. -/
  reload : ∀ loader,
    (∃ error left, loader.load .empty = (.error error, left) ∧
      running.service.reload loader = (.error (.collaborator error), running.service)) ∨
    ∃ fresh, loader.load .empty = (.ok (), fresh) ∧ running.service.reload loader =
      (.ok (), { running.service with graph := fresh, cache := running.service.cache.clear })
  /-- A printer is registered exactly if its type and all its filters are accepted one by one. -/
  printer_iff : ∀ name formats sink, (running.service.addPrinter name formats).1 = .ok sink ↔
    (running.service.graph.perform (.addSinkType name)).1 = .type (.ok sink) ∧
      running.service.graph.AcceptsAll (PlanningService.printerEdits name sink formats)
  /-- Then just these changes of the graph have been made. -/
  printer : ∀ name formats sink, (running.service.addPrinter name formats).1 = .ok sink →
    (running.service.addPrinter name formats).2 =
      { running.service with
        graph := running.service.graph.after (PlanningService.printerEdits name sink formats) }
  /-- The tables that a job may leave behind are invisible. -/
  tables : ∀ later, running.indexed.replies later = running.replies later ∧
    (running.indexed.after later).indexed = (running.after later).indexed

/-- **Every call succeeds as a whole or changes nothing,** whatever calls came before. -/
theorem allOrNothing_after (config : PlannerConfig) (calls : List ServiceCall) :
    ((start config).after calls).AllOrNothing := by
  have reachable := reachable_after config calls
  refine ⟨fun call failed => perform_of_isFailure reachable failed, fun loader => ?_,
    fun name formats sink => PlanningService.addPrinter_fst_eq_ok_iff,
    fun name formats sink registered => PlanningService.addPrinter_snd registered,
    run_indexed reachable⟩
  unfold PlanningService.reload
  cases loaded : loader.load .empty with
  | mk result left =>
      cases result with
      | error error => exact .inl ⟨error, left, rfl, rfl⟩
      | ok => exact .inr ⟨left, rfl, rfl⟩

/-- Text is printed through PDF. -/
def officeCalls : List ServiceCall := [
  .reload (.listed [.filter "text/plain" "application/pdf" 3 "texttopdf"]),
  .addPrinter "laser" [⟨⟨1⟩, 2, "pdftolaser"⟩], .printerFormats ⟨2⟩]

/-- A reload stops at its second name, the printer is to take PDF at a lower cost and then a format
that does not exist, and a planned job is not carried out. -/
def failingCalls : List ServiceCall := [
  .reload (.listed [.mediaType "image/png", .mediaType "nonsense"]),
  .addPrinter "laser" [⟨⟨1⟩, 0, "quick"⟩, ⟨⟨9⟩, 1, "lost"⟩],
  .runJob ⟨fun _ _ => .ok (some ⟨0⟩)⟩ (.failing (.other "jam")) "a.txt" 7 ⟨2⟩]

/-- Each of the calls fails and changes nothing, so the old filter is still in its place.  It is
improved by a printer all of whose formats exist. -/
theorem allOrNothing_officeCalls :
    let running := (start ⟨true⟩).after officeCalls
    let formats : List PlanningService.PrinterFormat := [⟨⟨1⟩, 0, "quick"⟩, ⟨⟨0⟩, 9, "direct"⟩]
    (∀ call ∈ failingCalls, (running.perform call).1.isFailure = true ∧
        (running.perform call).2 = running) ∧
      running.service.graph.filter? ⟨1⟩ = some ⟨⟨1⟩, ⟨2⟩, 2, 0, "pdftolaser"⟩ ∧
      (running.service.addPrinter "laser" formats).1 = .ok ⟨2⟩ ∧
      (running.service.addPrinter "laser" formats).2 =
        { running.service with
          graph := running.service.graph.after
            (PlanningService.printerEdits "laser" ⟨2⟩ formats) } ∧
      (running.service.addPrinter "laser" formats).2.graph.filter? ⟨1⟩ =
        some ⟨⟨1⟩, ⟨2⟩, 0, 0, "quick"⟩ := by
  intro running formats
  have whole := allOrNothing_after ⟨true⟩ officeCalls
  have failures : ∀ call ∈ failingCalls, (running.perform call).1.isFailure = true := by
    decide +kernel
  have registered : (running.service.addPrinter "laser" formats).1 = .ok ⟨2⟩ := by
    decide +kernel
  exact ⟨fun call member => ⟨failures call member, whole.failed call (failures call member)⟩,
    by decide +kernel, registered, whole.printer "laser" formats ⟨2⟩ registered,
    by decide +kernel⟩

end RunningService

end PrintPlanner
