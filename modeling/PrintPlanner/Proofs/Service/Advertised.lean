import PrintPlanner.Proofs.Service.Graphs
import PrintPlanner.Proofs.Signature.Cache
import PrintPlanner.Proofs.Signature.Sharing

/-!
# Advertised formats

What a printer is said to accept may come from the cache, and then it may have been found for
another destination and on a graph that has changed since.  It can be out of date, but it never
names anything other than registered document types
(`PlanningService.Reached.advertises_documents`).  The cache is emptied when a reload puts another
registry in place, and until then types are only ever added, so whatever was a registered document
type when an answer was stored still is.
-/

set_option autoImplicit false

namespace PrintPlanner

/-! ## Sets of document types -/

/-- Every type in the set is registered, and none of them is a printer's. -/
def TypeRegistry.HasDocuments (registry : TypeRegistry) (types : TypeSet) : Prop :=
  ∀ media ∈ types, media.isSink = false ∧ ∃ handle, registry.get? handle = some media

theorem TypeRegistry.HasDocuments.mono {registry older : TypeRegistry} {types : TypeSet}
    (documents : older.HasDocuments types) (extension : registry.Extends older) :
    registry.HasDocuments types := by
  intro media member
  obtain ⟨notSink, handle, found⟩ := documents media member
  exact ⟨notSink, handle, extension handle media found⟩

/-- A sweep finds nothing but document types. -/
theorem FilterGraph.Coherent.hasDocuments_reachableSources {graph : FilterGraph}
    (coherent : graph.Coherent) {dest : MediaTypeId} {types : TypeSet}
    (swept : graph.reachableSources dest = .ok types) : graph.types.HasDocuments types := by
  obtain ⟨set, answer, member_iff⟩ := coherent.exists_reachableSources dest
  rw [swept] at answer
  cases answer
  intro media member
  obtain ⟨source, listed, found⟩ := (member_iff media).mp member
  refine ⟨?_, source, found⟩
  simpa [TypeRegistry.isSink, found] using listed.document

namespace PlanningService

variable {service : PlanningService}

/-! ## Services and their past -/

/-- A service that a run has brought about, made of reloads by any loaders that, if they succeed,
have filled a graph by changes that every graph can undergo, of printers, of lookups, and of such
changes behind the back of the service.  Jobs leave at most built tables behind, which is one of
these changes. -/
inductive Reached : PlanningService → Prop where
  | new (config : PlannerConfig) : Reached (.new config)
  | reload {service : PlanningService} (earlier : Reached service) {loader : DeclarationLoader}
      (fills : ∀ fresh, loader.load .empty = (.ok (), fresh) → fresh.Reachable) :
      Reached (service.reload loader).2
  | addPrinter {service : PlanningService} (earlier : Reached service) (name : String)
      (formats : List PrinterFormat) : Reached (service.addPrinter name formats).2
  | printerFormats {service : PlanningService} (earlier : Reached service) (sink : MediaTypeId) :
      Reached (service.printerFormats sink).2
  | editGraph {service : PlanningService} (earlier : Reached service) (edit : GraphEdit) :
      Reached { service with graph := (service.graph.perform edit).2 }

theorem Reached.reachable (reached : service.Reached) : service.graph.Reachable := by
  induction reached with
  | new config => exact ⟨[], rfl⟩
  | @reload service earlier loader fills ih =>
      rcases service.reload_cases loader with ⟨_, same⟩ | ⟨fresh, loaded, same⟩
      · rwa [same]
      · rw [same]
        exact fills fresh loaded
  | @addPrinter service earlier name formats ih =>
      rcases service.addPrinter_cases name formats with ⟨_, same⟩ | ⟨_, _, staged, same⟩
      · rwa [same]
      · rw [same]
        exact (stagePrinter_keeps ih staged).1
  | printerFormats earlier sink ih => exact ih
  | editGraph earlier edit ih => exact ih.perform edit

/-! ## Entries of the cache -/

/-- Every answer in the cache is a set of document types of the present registry. -/
def RemembersDocuments (service : PlanningService) : Prop :=
  ∀ (signature : SinkSignature) (types : TypeSet),
    service.cache.entries[signature]? = some types → service.graph.types.HasDocuments types

/-- A graph with more types keeps the answers what they were. -/
theorem RemembersDocuments.withGraph (remembers : service.RemembersDocuments) {graph : FilterGraph}
    (extension : graph.types.Extends service.graph.types) :
    RemembersDocuments { service with graph } :=
  fun signature types held => (remembers signature types held).mono extension

theorem RemembersDocuments.reload (remembers : service.RemembersDocuments)
    (loader : DeclarationLoader) : (service.reload loader).2.RemembersDocuments := by
  rcases service.reload_cases loader with ⟨_, same⟩ | ⟨fresh, _, same⟩
  · rwa [same]
  · rw [same]
    intro signature types held
    have emptied := service.cache.getElem?_entries_clear signature
    exact absurd (emptied.symm.trans held) (by simp)

theorem RemembersDocuments.addPrinter (remembers : service.RemembersDocuments)
    (reachable : service.graph.Reachable) (name : String) (formats : List PrinterFormat) :
    (service.addPrinter name formats).2.RemembersDocuments := by
  rcases service.addPrinter_cases name formats with ⟨_, same⟩ | ⟨_, _, staged, same⟩
  · rwa [same]
  · rw [same]
    exact remembers.withGraph (stagePrinter_keeps reachable staged).2.1

theorem RemembersDocuments.printerFormats (remembers : service.RemembersDocuments)
    (reachable : service.graph.Reachable) (sink : MediaTypeId) :
    (service.printerFormats sink).2.RemembersDocuments := by
  intro signature types held
  rcases SignatureCache.entries_reachableSources held with old | ⟨_, swept⟩
  · exact remembers signature types old
  · exact reachable.coherent.hasDocuments_reachableSources swept

theorem Reached.remembersDocuments (reached : service.Reached) : service.RemembersDocuments := by
  induction reached with
  | new config =>
      intro signature types held
      have empty := SignatureCache.getElem?_entries_new config.sinkSignatureCache signature
      exact absurd (empty.symm.trans held) (by simp)
  | reload earlier fills ih => exact ih.reload _
  | addPrinter earlier name formats ih => exact ih.addPrinter earlier.reachable name formats
  | printerFormats earlier sink ih => exact ih.printerFormats earlier.reachable sink
  | editGraph earlier edit ih =>
      exact ih.withGraph (earlier.reachable.coherent.extends_perform edit)

/-! ## Answers -/

/-- **Whatever a destination is said to accept is a registered document type,** be the cache on or
off, and be the answer found for this destination or for another one. -/
theorem Reached.advertises_documents (reached : service.Reached) (sink : MediaTypeId) :
    ∃ types, (service.printerFormats sink).1 = .ok types ∧
      ∀ media ∈ types, media.isSink = false ∧
        ∃ handle, service.graph.types.get? handle = some media := by
  rcases service.cache.fst_reachableSources_cases service.graph sink with
    ⟨types, held, answer⟩ | answer
  · exact ⟨types, answer, reached.remembersDocuments _ types held⟩
  · have coherent := reached.reachable.coherent
    obtain ⟨types, swept, _⟩ := coherent.exists_reachableSources sink
    exact ⟨types, answer.trans swept, coherent.hasDocuments_reachableSources swept⟩

end PlanningService

/-! ## Runs -/

namespace RunningService

open PlanningService

theorem reached_perform {running : RunningService} (reached : running.service.Reached)
    (call : ServiceCall) : (running.perform call).2.service.Reached := by
  cases call with
  | reload source =>
      refine reached.reload fun fresh loaded => ?_
      have reachable := source.reachable_load
      rwa [loaded] at reachable
  | addPrinter name formats => exact reached.addPrinter name formats
  | planJob classifier path size sink => exact reached
  | runJob classifier executor path size sink => exact reached
  | accepts source sink => exact reached
  | printerFormats sink => exact reached.printerFormats sink
  | editGraph edit => exact reached.editGraph edit

theorem reached_after (config : PlannerConfig) (calls : List ServiceCall) :
    ((start config).after calls).service.Reached := by
  suffices kept : ∀ running : RunningService, running.service.Reached →
      (running.after calls).service.Reached from kept _ (.new config)
  induction calls with
  | nil => exact fun _ reached => reached
  | cons call rest ih => exact fun _ reached => ih _ (reached_perform reached call)

/-- After a lookup for the laser printer PDF comes to be made from images and no longer from text,
and a second printer comes to take PDF in the same way.  A reload fails in between. -/
def outdatedCalls : List ServiceCall := [
  .reload (.listed [.filter "text/plain" "application/pdf" 3 "texttopdf", .mediaType "image/png"]),
  .addPrinter "laser" [⟨⟨1⟩, 2, "print"⟩], .printerFormats ⟨3⟩,
  .editGraph (.addFilter ⟨2⟩ ⟨1⟩ 1 "pngtopdf"), .editGraph (.removeFilter ⟨0⟩),
  .reload (.failing (.other "gone")), .addPrinter "inkjet" [⟨⟨1⟩, 2, "print"⟩]]

/-- The second printer is answered with what was found for the first, which is out of date.  Yet
text is still a registered document type. -/
theorem advertises_documents_outdated :
    let service := ((start ⟨true⟩).after outdatedCalls).service
    service.Reached ∧
      (service.printerFormats ⟨4⟩).1.map TypeSet.texts = .ok ["application/pdf", "text/plain"] ∧
      (service.graph.reachableSources ⟨4⟩).map TypeSet.texts =
        .ok ["application/pdf", "image/png"] ∧
      ∃ types, (service.printerFormats ⟨4⟩).1 = .ok types ∧
        ∀ media ∈ types, media.isSink = false ∧
          ∃ handle, service.graph.types.get? handle = some media := by
  intro service
  have reached : service.Reached := reached_after ⟨true⟩ outdatedCalls
  exact ⟨reached, by decide +kernel, by decide +kernel, reached.advertises_documents ⟨4⟩⟩

end RunningService

end PrintPlanner
