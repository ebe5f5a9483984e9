import PrintPlanner.Proofs.Reach.Stability
import PrintPlanner.Service.History

/-!
# Graphs of a service

A service only changes its graph by the changes that any graph can undergo: a loader makes
its graph out of the empty one, and a printer is a type with some filters.  So the graph of a
service is reachable after every run (`RunningService.reachable_after`), and all that holds of
reachable graphs holds of it.
-/

set_option autoImplicit false

namespace PrintPlanner

namespace FilterGraph

variable {graph changed : FilterGraph}

theorem Reachable.addType (reachable : graph.Reachable) {superType subType : String}
    {handle : MediaTypeId} (added : graph.addType superType subType = .ok (handle, changed)) :
    changed.Reachable := by
  have kept := reachable.perform (.addType superType subType)
  rwa [FilterGraph.perform, added] at kept

theorem Reachable.addFilter (reachable : graph.Reachable) {source dest : MediaTypeId}
    {cost : UInt32} {program : String} {handle : FilterId}
    (added : graph.addFilter source dest cost program = .ok (handle, changed)) :
    changed.Reachable := by
  have kept := reachable.perform (.addFilter source dest cost program)
  rwa [FilterGraph.perform, added] at kept

theorem Reachable.addLimitedFilter (reachable : graph.Reachable) {source dest : MediaTypeId}
    {cost : UInt32} {maxSize : UInt64} {program : String} {handle : FilterId}
    (added : graph.addLimitedFilter source dest cost maxSize program = .ok (handle, changed)) :
    changed.Reachable := by
  have kept := reachable.perform (.addLimitedFilter source dest cost maxSize program)
  rwa [FilterGraph.perform, added] at kept

end FilterGraph

/-! ## Loading -/

namespace Declaration

variable {graph : FilterGraph}

theorem addName_cases {changed : FilterGraph} {name : String} {handle : MediaTypeId}
    (added : addName graph name = .ok (handle, changed)) :
    ∃ superType subType, graph.addType superType subType = .ok (handle, changed) := by
  unfold addName at added
  split at added
  · contradiction
  · rename_i superType subType _
    cases result : graph.addType superType subType with
    | error fault =>
        rw [result] at added
        contradiction
    | ok pair =>
        rw [result] at added
        cases added
        exact ⟨superType, subType, result⟩

theorem reachable_addName {changed : FilterGraph} (reachable : graph.Reachable) {name : String}
    {handle : MediaTypeId} (added : addName graph name = .ok (handle, changed)) :
    changed.Reachable := by
  obtain ⟨superType, subType, added⟩ := addName_cases added
  exact reachable.addType added

theorem reachable_addNames (names : List String) (reachable : graph.Reachable) :
    (addNames names graph).2.Reachable := by
  induction names generalizing graph with
  | nil => exact reachable
  | cons name rest ih =>
      unfold addNames
      split
      · exact reachable
      · rename_i added
        exact ih (reachable_addName reachable added)

theorem reachable_addNamedFilter (reachable : graph.Reachable) (source dest : String)
    (cost : UInt32) (maxSize : UInt64) (program : String) :
    (addNamedFilter graph source dest cost maxSize program).2.Reachable := by
  unfold addNamedFilter
  split
  · exact reachable
  rename_i sourceAdded
  have withSource := reachable_addName reachable sourceAdded
  split
  · exact withSource
  rename_i destAdded
  have withBoth := reachable_addName withSource destAdded
  split
  · exact withBoth
  · rename_i added
    exact withBoth.addLimitedFilter added

theorem reachable_addDeclaredFilters (declarations : List Declaration)
    (reachable : graph.Reachable) : (addDeclaredFilters declarations graph).2.Reachable := by
  induction declarations generalizing graph with
  | nil => exact reachable
  | cons declaration rest ih =>
      have first : (addDeclaredFilter graph declaration).2.Reachable := by
        cases declaration with
        | mediaType name => exact reachable
        | filter source dest cost program =>
            exact reachable_addNamedFilter reachable source dest cost 0 program
        | limitedFilter source dest cost maxSize program =>
            exact reachable_addNamedFilter reachable source dest cost maxSize program
      unfold addDeclaredFilters
      split
      · rename_i stopped
        rwa [stopped] at first
      · rename_i added
        rw [added] at first
        exact ih first

/-- However far declarations can be loaded, they leave a reachable graph. -/
theorem reachable_loadAll (declarations : List Declaration) (reachable : graph.Reachable) :
    (loadAll declarations graph).2.Reachable := by
  have named := reachable_addNames (declarations.flatMap names) reachable
  unfold loadAll
  split
  · rename_i stopped
    rwa [stopped] at named
  · rename_i added
    rw [added] at named
    exact reachable_addDeclaredFilters declarations named

end Declaration

theorem DeclarationSource.reachable_load (source : DeclarationSource) :
    (source.loader.load .empty).2.Reachable := by
  have reachable : FilterGraph.empty.Reachable := ⟨[], rfl⟩
  cases source with
  | listed declarations => exact Declaration.reachable_loadAll declarations reachable
  | failing error => exact reachable

/-! ## Adding a printer -/

namespace PlanningService

variable {graph changed : FilterGraph} {sink : MediaTypeId} {formats : List PrinterFormat}

/-- What one filter into the printer's type keeps, all filters of its formats keep. -/
theorem addFormats_induction {motive : FilterGraph → Prop} (start : motive graph)
    (step : ∀ before after source cost program handle, motive before →
      before.addFilter source sink cost program = .ok (handle, after) → motive after)
    (added : addFormats sink formats graph = .ok changed) : motive changed := by
  induction formats generalizing graph with
  | nil =>
      cases added
      exact start
  | cons format rest ih =>
      unfold addFormats at added
      split at added
      · contradiction
      · rename_i handle onward first
        exact ih (step graph onward format.source format.cost format.program handle start first)
          added

theorem stagePrinter_eq_ok_iff {name : String} :
    stagePrinter graph name formats = .ok (sink, changed) ↔
      ∃ named, graph.addSinkType name = .ok (sink, named) ∧
        addFormats sink formats named = .ok changed := by
  unfold stagePrinter
  cases graph.addSinkType name with
  | error fault => simp [bind, Except.bind]
  | ok pair =>
      obtain ⟨handle, named⟩ := pair
      cases added : addFormats handle formats named with
      | error fault =>
          simp only [bind, Except.bind, added, reduceCtorEq, Except.ok.injEq, Prod.mk.injEq,
            false_iff]
          rintro ⟨_, ⟨rfl, rfl⟩, other⟩
          rw [added] at other
          contradiction
      | ok result =>
          simp only [bind, Except.bind, added, Except.ok.injEq, Prod.mk.injEq]
          constructor
          · rintro ⟨rfl, rfl⟩
            exact ⟨named, ⟨rfl, rfl⟩, added⟩
          · rintro ⟨_, ⟨rfl, rfl⟩, other⟩
            rw [added] at other
            cases other
            exact ⟨rfl, rfl⟩

/-- Adding a printer keeps the graph reachable and all its types, and changes no producers but
those of the printer's type. -/
theorem stagePrinter_keeps (reachable : graph.Reachable) {name : String}
    (staged : stagePrinter graph name formats = .ok (sink, changed)) :
    changed.Reachable ∧ changed.types.Extends graph.types ∧
      changed.SameProducersApart graph sink := by
  obtain ⟨named, registered, added⟩ := stagePrinter_eq_ok_iff.mp staged
  rw [FilterGraph.addSinkType_eq_addType] at registered
  obtain ⟨media, _, inserted⟩ := FilterGraph.addType_cases registered
  obtain ⟨types, stored, rfl⟩ := FilterGraph.insertType_cases inserted
  have start : FilterGraph.Reachable { graph with types } ∧ types.Extends graph.types ∧
      FilterGraph.SameProducersApart { graph with types } graph sink :=
    ⟨reachable.addType registered, TypeRegistry.insert_extends stored, fun _ _ => rfl⟩
  refine addFormats_induction (motive := fun later => later.Reachable ∧
    later.types.Extends graph.types ∧ later.SameProducersApart graph sink) start ?_ added
  rintro before after source cost program handle ⟨reachable, types, same⟩ offered
  have coherent := reachable.coherent
  refine ⟨reachable.addFilter offered, ?_, fun place apart => ?_⟩
  · rwa [coherent.types_offerFilter offered]
  · rw [coherent.sameProducersApart_of_offerFilter offered place apart, same place apart]

/-- A printer of a new name gets a handle that named nothing before. -/
theorem stagePrinter_fresh {name : String}
    (unnamed : graph.types.lookup? MediaType.sinkSuperType name = none)
    (staged : stagePrinter graph name formats = .ok (sink, changed)) :
    graph.types.contains sink = false := by
  obtain ⟨named, registered, _⟩ := stagePrinter_eq_ok_iff.mp staged
  rw [FilterGraph.addSinkType_eq_addType] at registered
  obtain ⟨media, parts, inserted⟩ := FilterGraph.addType_cases registered
  obtain ⟨types, stored, _⟩ := FilterGraph.insertType_cases inserted
  rcases TypeRegistry.insert_cases stored with ⟨known, _⟩ | ⟨_, room, rfl, _⟩
  · rw [(MediaType.ofParts_eq_ok_iff.mp parts).2.2] at known
    exact absurd (unnamed.symm.trans known) (by simp)
  · simp [TypeRegistry.contains, MediaTypeId.index_ofIndex room]

/-- A reload fails and changes nothing, or puts a fresh graph in place and empties the cache. -/
theorem reload_cases (service : PlanningService) (loader : DeclarationLoader) :
    (∃ error, service.reload loader = (.error error, service)) ∨
      ∃ fresh, loader.load .empty = (.ok (), fresh) ∧ service.reload loader =
        (.ok (), { service with graph := fresh, cache := service.cache.clear }) := by
  unfold reload
  split
  · exact .inl ⟨_, rfl⟩
  · rename_i fresh loaded
    exact .inr ⟨fresh, loaded, rfl⟩

/-- Adding a printer fails and changes nothing, or puts the staged graph in place. -/
theorem addPrinter_cases (service : PlanningService) (name : String)
    (formats : List PrinterFormat) :
    (∃ error, service.addPrinter name formats = (.error error, service)) ∨
      ∃ sink graph, stagePrinter service.graph name formats = .ok (sink, graph) ∧
        service.addPrinter name formats = (.ok sink, { service with graph }) := by
  unfold addPrinter
  split
  · exact .inl ⟨_, rfl⟩
  · rename_i sink graph staged
    exact .inr ⟨sink, graph, staged, rfl⟩

/-- Adding a printer succeeds exactly if it can be staged. -/
theorem addPrinter_fst_eq_ok_iff_staged {service : PlanningService} {name : String} :
    (service.addPrinter name formats).1 = .ok sink ↔
      ∃ changed, stagePrinter service.graph name formats = .ok (sink, changed) := by
  unfold addPrinter
  split
  · rename_i refused
    simp [refused]
  · rename_i staged
    simp [staged]

end PlanningService

/-! ## Runs -/

namespace RunningService

variable {running : RunningService}

/-- Every call keeps the graph reachable. -/
theorem reachable_perform (reachable : running.service.graph.Reachable) (call : ServiceCall) :
    (running.perform call).2.service.graph.Reachable := by
  cases call with
  | reload source =>
      show (running.service.reload source.loader).2.graph.Reachable
      rcases running.service.reload_cases source.loader with ⟨_, same⟩ | ⟨fresh, loaded, same⟩
      · rwa [same]
      · have fine := source.reachable_load
        rw [loaded] at fine
        rwa [same]
  | addPrinter name formats =>
      show (running.service.addPrinter name formats).2.graph.Reachable
      rcases running.service.addPrinter_cases name formats with ⟨_, same⟩ | ⟨_, _, staged, same⟩
      · rwa [same]
      · rw [same]
        exact (PlanningService.stagePrinter_keeps reachable staged).1
  | planJob classifier path size sink => exact reachable
  | runJob classifier executor path size sink => exact reachable
  | accepts source sink => exact reachable
  | printerFormats sink => exact reachable
  | editGraph edit => exact reachable.perform edit

/-- **The graph of a service is reachable after every run.** -/
theorem reachable_after (config : PlannerConfig) (calls : List ServiceCall) :
    ((start config).after calls).service.graph.Reachable := by
  suffices kept : ∀ running : RunningService, running.service.graph.Reachable →
      (running.after calls).service.graph.Reachable from kept _ ⟨[], rfl⟩
  induction calls with
  | nil =>
      intro running reachable
      exact reachable
  | cons call rest ih =>
      intro running reachable
      exact ih _ (reachable_perform reachable call)

/-- The cache has no influence on the graph. -/
theorem graph_perform_congr {first second : RunningService}
    (same : first.service.graph = second.service.graph) (call : ServiceCall) :
    (first.perform call).2.service.graph = (second.perform call).2.service.graph := by
  cases call with
  | reload source =>
      show (first.service.reload source.loader).2.graph =
        (second.service.reload source.loader).2.graph
      unfold PlanningService.reload
      split
      · exact same
      · rfl
  | addPrinter name formats =>
      show (first.service.addPrinter name formats).2.graph =
        (second.service.addPrinter name formats).2.graph
      unfold PlanningService.addPrinter
      rw [← same]
      split
      · exact same
      · rfl
  | planJob classifier path size sink => exact same
  | runJob classifier executor path size sink => exact same
  | accepts source sink => exact same
  | printerFormats sink => exact same
  | editGraph edit => exact congrArg (fun graph => (graph.perform edit).2) same

theorem graph_after_congr {first second : RunningService}
    (same : first.service.graph = second.service.graph) (calls : List ServiceCall) :
    (first.after calls).service.graph = (second.after calls).service.graph := by
  induction calls generalizing first second with
  | nil => exact same
  | cons call rest ih => exact ih (graph_perform_congr same call)

end RunningService

end PrintPlanner
