import PrintPlanner.Proofs.Service.Switch

/-!
# Where the cache is transparent

As long as every printer is added under a new name, and only printers that document types feed are
looked up, all lookups of a run are answered with what a sweep of the graph of that moment finds
(`RunningService.formats_eq_sweep`), whichever printer the answer was stored for and however many
printers were added since.  A new printer leads nowhere, so it disturbs no document type.
-/

set_option autoImplicit false

namespace PrintPlanner

namespace FilterGraph

variable {graph : FilterGraph}

/-- No document type is made from a type that is not registered yet. -/
theorem Coherent.not_makesDocument_of_unregistered (coherent : graph.Coherent)
    {source : MediaTypeId} (unknown : graph.types.contains source = false) :
    ¬ graph.MakesDocument source := by
  rintro ⟨place, bound, document, near⟩
  by_cases same : source = place
  · have known := (TypeRegistry.isDocument_iff.mp document).1
    rw [← same, unknown] at known
    contradiction
  · have known := (coherent.contains_of_within near same).1
    rw [unknown] at known
    contradiction

/-- A printer's type with document types for all its producers is self-contained. -/
theorem Coherent.selfContained (coherent : graph.Coherent) {sink : MediaTypeId}
    (isSink : graph.types.isSink sink = true)
    (fed : ∀ source ∈ graph.producersOf sink, graph.types.isSink source = false) :
    graph.SelfContained sink where
  not_document := by
    intro document
    have notSink := (TypeRegistry.isDocument_iff.mp document).2
    rw [isSink] at notSink
    contradiction
  fed := by
    intro source feeds _
    have known := (coherent.contains_of_mem_producersOf feeds).1
    exact TypeRegistry.isDocument_iff.mpr ⟨known, fed source feeds⟩

end FilterGraph

/-- The name under which a printer is to be added. -/
def ServiceStep.newName? (step : ServiceStep) : Option String :=
  match step.call with
  | .addPrinter name _ => some name
  | _ => none

/-- What the call returned. -/
def ServiceStep.reply (step : ServiceStep) : ServiceReply := (step.running.perform step.call).1

/-- The step does not edit the graph directly, adds a printer only under a name that is not
registered, and looks up only printers that no printer's type feeds. -/
structure ServiceStep.Ordinary (step : ServiceStep) : Prop where
  unedited : step.isEdit = false
  unnamed : ∀ name ∈ step.newName?,
    step.graph.types.lookup? MediaType.sinkSuperType name = none
  asks_sink : ∀ sink ∈ step.asked?, step.graph.types.isSink sink = true
  fed_by_documents : ∀ sink ∈ step.asked?, ∀ source ∈ step.graph.producersOf sink,
    step.graph.types.isSink source = false

/-- Ordinary steps spare the document types. -/
theorem ServiceStep.Ordinary.sparesDocuments {step : ServiceStep} (ordinary : step.Ordinary)
    (coherent : step.graph.Coherent) : step.SparesDocuments := by
  refine ⟨ordinary.unedited, fun printer added => ?_⟩
  obtain ⟨running, call⟩ := step
  cases call with
  | addPrinter name formats =>
      rcases running.service.addPrinter_cases name formats with
        ⟨error, same⟩ | ⟨sink, changed, staged, same⟩
      · simp [printer?, same, Except.toOption] at added
      · simp only [printer?, same, Except.toOption, Option.mem_def, Option.some.injEq] at added
        subst added
        have fresh := PlanningService.stagePrinter_fresh (ordinary.unnamed name rfl) staged
        exact coherent.not_makesDocument_of_unregistered fresh
  | _ => simp [printer?] at added

namespace RunningService

variable {running : RunningService} {calls : List ServiceCall}

/-- The steps of a run, in order. -/
def steps (running : RunningService) : List ServiceCall → List ServiceStep
  | [] => []
  | call :: rest => ⟨running, call⟩ :: (running.perform call).2.steps rest

theorem steps_append (running : RunningService) (first second : List ServiceCall) :
    running.steps (first ++ second) =
      running.steps first ++ (running.after first).steps second := by
  induction first generalizing running with
  | nil => rfl
  | cons call rest ih => simp [steps, ih]

/-- The calls before a step brought the service to where the step found it. -/
theorem exists_before_of_mem_steps {step : ServiceStep} (member : step ∈ running.steps calls) :
    ∃ before rest, calls = before ++ step.call :: rest ∧ step.running = running.after before := by
  induction calls generalizing running with
  | nil => cases member
  | cons call rest ih =>
      rcases List.mem_cons.mp member with rfl | later
      · exact ⟨[], rest, rfl, rfl⟩
      · obtain ⟨before, after, rfl, reached⟩ := ih later
        exact ⟨call :: before, after, rfl, reached⟩

/-- The recent steps are among all steps. -/
theorem mem_steps_of_mem_recent {step : ServiceStep} (member : step ∈ running.recent calls) :
    step ∈ running.steps calls := by
  suffices among : ∀ (running : RunningService) (recent : List ServiceStep),
      step ∈ running.recentFrom recent calls → step ∈ recent ∨ step ∈ running.steps calls from
    (among running [] member).resolve_left List.not_mem_nil
  clear member
  induction calls with
  | nil => exact fun _ _ member => .inl member
  | cons call rest ih =>
      intro running recent member
      rcases ih _ _ member with before | later
      · unfold remember at before
        split at before
        · cases before
        · rcases List.mem_append.mp before with old | this
          · exact .inl old
          · exact .inr (List.mem_cons.mpr (.inl (List.mem_singleton.mp this)))
      · exact .inr (List.mem_cons_of_mem _ later)

/-- Lookups with the same signature were for destinations with the same inbound edges. -/
def NoCollision (config : PlannerConfig) (calls : List ServiceCall) : Prop :=
  ∀ earlier ∈ (start config).steps calls, ∀ later ∈ (start config).steps calls,
    ∀ former ∈ earlier.asked?, ∀ sink ∈ later.asked?,
      earlier.graph.signature former = later.graph.signature sink →
        earlier.graph.inboundEdges former = later.graph.inboundEdges sink

instance {config : PlannerConfig} {calls : List ServiceCall} :
    Decidable (NoCollision config calls) :=
  inferInstanceAs (Decidable (∀ earlier ∈ (start config).steps calls,
    ∀ later ∈ (start config).steps calls, ∀ former ∈ earlier.asked?, ∀ sink ∈ later.asked?, _))

/-- **Every lookup of a run of ordinary steps is answered with what a sweep of the graph finds at
that moment,** as long as no two signatures collide. -/
theorem formats_eq_sweep (calls : List ServiceCall)
    (ordinary : ∀ step ∈ (start ⟨true⟩).steps calls, step.Ordinary)
    (noCollision : NoCollision ⟨true⟩ calls) :
    ∀ step ∈ (start ⟨true⟩).steps calls, ∀ sink ∈ step.asked?,
      ∃ types, step.graph.reachableSources sink = .ok types ∧
        step.reply = .formats (.ok types) := by
  intro step member sink asked
  obtain ⟨before, rest, split, reached⟩ := exists_before_of_mem_steps member
  have reachable := reachable_after ⟨true⟩ before
  have graph_eq : step.graph = ((start ⟨true⟩).after before).service.graph := by
    rw [ServiceStep.graph, reached]
  have earlier : ∀ former ∈ (start ⟨true⟩).recent before, former ∈ (start ⟨true⟩).steps calls := by
    intro former recent
    rw [split, steps_append]
    exact List.mem_append_left _ (mem_steps_of_mem_recent recent)
  have coherentThen : ∀ former ∈ (start ⟨true⟩).recent before, former.graph.Coherent :=
    fun former recent => (reachable_recent ⟨true⟩ before former recent).coherent
  have spares : ∀ former ∈ (start ⟨true⟩).recent before, former.SparesDocuments :=
    fun former recent =>
      (ordinary former (earlier former recent)).sparesDocuments (coherentThen former recent)
  have contained : ((start ⟨true⟩).after before).service.graph.SelfContained sink := by
    rw [← graph_eq] at reachable ⊢
    exact reachable.coherent.selfContained ((ordinary step member).asks_sink sink asked)
      ((ordinary step member).fed_by_documents sink asked)
  have collisionFree : CollisionFree ⟨true⟩ before sink := by
    intro former recent old formerAsked same
    rw [← graph_eq] at same ⊢
    exact noCollision former (earlier former recent) step member old formerAsked sink asked same
  have formersContained : SharesSelfContained ⟨true⟩ before sink := by
    intro former recent old formerAsked _
    have formerOrdinary := ordinary former (earlier former recent)
    exact (coherentThen former recent).selfContained (formerOrdinary.asks_sink old formerAsked)
      (formerOrdinary.fed_by_documents old formerAsked)
  have answer := formatsAfter_eq_reachableSources spares contained collisionFree formersContained
  obtain ⟨types, swept, _⟩ := reachable.coherent.exists_reachableSources sink
  refine ⟨types, by rw [graph_eq, swept], ?_⟩
  have replied : step.reply = .formats (formatsAfter ⟨true⟩ before sink) := by
    obtain ⟨running, call⟩ := step
    subst reached
    cases call with
    | printerFormats other =>
        cases asked
        rfl
    | _ => cases asked
  rw [replied, answer, swept]

/-- Printers `a` and `b` take PDF in the same way.  A reload fails in between, so the answer stored
for `a` is still there when `b` is looked up. -/
def freshCalls : List ServiceCall := [
  .reload (.listed [.filter "text/plain" "application/pdf" 3 "texttopdf"]),
  .addPrinter "a" [⟨⟨1⟩, 1, "q"⟩], .printerFormats ⟨2⟩, .reload (.failing (.other "gone")),
  .addPrinter "b" [⟨⟨1⟩, 1, "q"⟩], .printerFormats ⟨3⟩]

/-- The answer for `b` was computed for `a`, and is right. -/
theorem formats_eq_sweep_freshCalls :
    ((∀ step ∈ (start ⟨true⟩).steps freshCalls, step.Ordinary) ∧
        NoCollision ⟨true⟩ freshCalls) ∧
      ((start ⟨true⟩).after freshCalls).service.cache.stats = ⟨1, 1, 1⟩ ∧
      ∀ step ∈ (start ⟨true⟩).steps freshCalls, ∀ sink ∈ step.asked?,
        ∃ types, step.graph.reachableSources sink = .ok types ∧
          step.reply = .formats (.ok types) := by
  have fields : ∀ step ∈ (start ⟨true⟩).steps freshCalls,
      (step.isEdit = false ∧ ∀ name ∈ step.newName?,
        step.graph.types.lookup? MediaType.sinkSuperType name = none) ∧
      ∀ sink ∈ step.asked?, step.graph.types.isSink sink = true ∧
        ∀ source ∈ step.graph.producersOf sink, step.graph.types.isSink source = false := by
    decide +kernel
  have ordinary : ∀ step ∈ (start ⟨true⟩).steps freshCalls, step.Ordinary := by
    intro step member
    obtain ⟨⟨unedited, unnamed⟩, asked⟩ := fields step member
    exact ⟨unedited, unnamed, fun sink lookup => (asked sink lookup).1,
      fun sink lookup => (asked sink lookup).2⟩
  have noCollision : NoCollision ⟨true⟩ freshCalls := by decide +kernel
  have hit : ((start ⟨true⟩).after freshCalls).service.cache.stats = ⟨1, 1, 1⟩ := by
    decide +kernel
  exact ⟨⟨ordinary, noCollision⟩, hit, formats_eq_sweep freshCalls ordinary noCollision⟩

end RunningService

end PrintPlanner
