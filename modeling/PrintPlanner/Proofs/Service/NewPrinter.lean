import PrintPlanner.Proofs.Query.Kept
import PrintPlanner.Proofs.Service.Graphs

/-!
# New printers

A printer of a new name is a new type with filters into it.  The search of every later job meets
these filters, and a format may even name the printer itself, yet all that the service has
answered about older types and filters it answers again
(`PlanningService.addPrinter_keepsAnswers`).
-/

set_option autoImplicit false

namespace PrintPlanner.PlanningService

open FilterGraph

/-- **Staging a printer of a new name grows the graph by filters into its type.** -/
theorem stagePrinter_grownInto {graph changed : FilterGraph} (coherent : graph.Coherent)
    {name : String} {formats : List PrinterFormat} {sink : MediaTypeId}
    (unnamed : graph.types.lookup? MediaType.sinkSuperType name = none)
    (staged : stagePrinter graph name formats = .ok (sink, changed)) :
    changed.Coherent ∧ changed.GrownInto graph sink := by
  obtain ⟨named, registered, added⟩ := stagePrinter_eq_ok_iff.mp staged
  rw [addSinkType_eq_addType] at registered
  obtain ⟨media, _, inserted⟩ := addType_cases registered
  obtain ⟨types, stored, rfl⟩ := insertType_cases inserted
  have named : Coherent { graph with types } ∧ GrownInto { graph with types } graph sink :=
    ⟨coherent.insertType inserted,
      .of_extends (TypeRegistry.insert_extends stored) (stagePrinter_fresh unnamed staged)⟩
  refine addFormats_induction
    (motive := fun later => later.Coherent ∧ later.GrownInto graph sink) named ?_ added
  rintro before after source cost program handle ⟨coherentBefore, grown⟩ offered
  exact ⟨coherentBefore.offerFilter offered, grown.offerFilter coherentBefore coherent offered⟩

/-- **Registering a printer of a new name disturbs nothing:** the settings and the cache stay, and
every answer about older types and filters is the one from before. -/
theorem addPrinter_keepsAnswers {service : PlanningService} {name : String}
    {formats : List PrinterFormat} {sink : MediaTypeId} (reachable : service.graph.Reachable)
    (unnamed : service.graph.types.lookup? MediaType.sinkSuperType name = none)
    (registered : (service.addPrinter name formats).1 = .ok sink) :
    ∃ graph, (service.addPrinter name formats).2 = { service with graph } ∧
      graph.KeepsAnswers service.graph := by
  rcases service.addPrinter_cases name formats with
    ⟨error, refused⟩ | ⟨handle, graph, staged, accepted⟩
  · rw [refused] at registered
    contradiction
  · have coherent := reachable.coherent
    obtain ⟨changed, grown⟩ := stagePrinter_grownInto coherent unnamed staged
    rw [accepted]
    exact ⟨graph, rfl, grown.keepsAnswers changed coherent⟩

/-- Text and pictures are printed through PDF by a laser printer, until pictures no longer are. -/
def laserCalls : List ServiceCall := [
  .reload (.listed [.filter "text/plain" "application/pdf" 3 "texttopdf",
    .filter "image/png" "application/pdf" 4 "pngtopdf"]),
  .addPrinter "laser" [⟨⟨1⟩, 2, "pdftolaser"⟩], .printerFormats ⟨3⟩, .editGraph (.removeFilter ⟨1⟩)]

/-- An office printer takes PDF, first at a higher and then at a lower cost than the laser printer,
takes what the laser printer takes, and feeds itself. -/
def officeFormats : List PrinterFormat := [
  ⟨⟨1⟩, 9, "pdftooffice"⟩, ⟨⟨3⟩, 0, "forward"⟩, ⟨⟨1⟩, 1, "quick"⟩, ⟨⟨4⟩, 0, "again"⟩]

/-- With the office printer two filters leave PDF instead of one, and text is still printed on the
laser printer by the same chain. -/
theorem addPrinter_keepsAnswers_laserCalls :
    let service := ((RunningService.start ⟨true⟩).after laserCalls).service
    let after := (service.addPrinter "Office" officeFormats).2
    (service.graph.Reachable ∧
        service.graph.types.lookup? MediaType.sinkSuperType "Office" = none ∧
        (service.addPrinter "Office" officeFormats).1 = .ok ⟨4⟩) ∧
      (∃ graph, after = { service with graph } ∧ graph.KeepsAnswers service.graph) ∧
      (after.graph.filtersFrom ⟨1⟩).map Prod.fst = [⟨2⟩, ⟨3⟩] ∧
      after.graph.resolveChain ⟨0⟩ 0 ⟨4⟩ .cheapest = .ok (some ⟨[⟨0⟩, ⟨3⟩], 4⟩) ∧
      after.graph.resolveChain ⟨0⟩ 0 ⟨3⟩ .cheapest = .ok (some ⟨[⟨0⟩, ⟨2⟩], 5⟩) ∧
      service.graph.resolveChain ⟨0⟩ 0 ⟨3⟩ .cheapest = .ok (some ⟨[⟨0⟩, ⟨2⟩], 5⟩) := by
  intro service after
  have reachable : service.graph.Reachable := RunningService.reachable_after ⟨true⟩ laserCalls
  have unnamed : service.graph.types.lookup? MediaType.sinkSuperType "Office" = none := by
    decide +kernel
  have registered : (service.addPrinter "Office" officeFormats).1 = .ok ⟨4⟩ := by decide +kernel
  have kept := addPrinter_keepsAnswers reachable unnamed registered
  have chain : service.graph.resolveChain ⟨0⟩ 0 ⟨3⟩ .cheapest = .ok (some ⟨[⟨0⟩, ⟨2⟩], 5⟩) := by
    decide +kernel
  refine ⟨⟨reachable, unnamed, registered⟩, kept, by decide +kernel, by decide +kernel, ?_, chain⟩
  obtain ⟨graph, same, answers⟩ := kept
  show (service.addPrinter "Office" officeFormats).2.graph.resolveChain _ _ _ _ = _
  rw [same, ← chain]
  exact answers.chains ⟨0⟩ ⟨3⟩ (by decide +kernel) (by decide +kernel) 0 .cheapest

end PrintPlanner.PlanningService
