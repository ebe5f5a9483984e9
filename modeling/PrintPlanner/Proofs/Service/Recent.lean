import PrintPlanner.Proofs.Service.Graphs
import PrintPlanner.Proofs.Signature.FirstWriter
import PrintPlanner.Proofs.Signature.Sharing

/-!
# What a cache remembers

A successful reload puts the past of a service out of sight: of its graph, since that is new,
and of its cache, since that is emptied.  The steps since then are what matters
(`RunningService.recent`).  Whatever the calls were, a cache that is switched on holds under each
signature what a sweep found at the first recent lookup under it, and nothing else
(`RunningService.holdsFirst_after`).
-/

set_option autoImplicit false

namespace PrintPlanner

/-- A call with the service that received it. -/
structure ServiceStep where
  running : RunningService
  call : ServiceCall

/-- The graph that the call found. -/
def ServiceStep.graph (step : ServiceStep) : FilterGraph := step.running.service.graph

/-- The destination of a lookup. -/
def ServiceStep.asked? (step : ServiceStep) : Option MediaTypeId :=
  match step.call with
  | .printerFormats sink => some sink
  | _ => none

/-- A destination that is looked up, with the graph of that moment. -/
structure Lookup where
  graph : FilterGraph
  dest : MediaTypeId

/-- The signature under which the cache is asked. -/
def Lookup.signature (lookup : Lookup) : SinkSignature := lookup.graph.signature lookup.dest

/-- What a sweep of the graph finds, which is the answer where nothing is cached. -/
def Lookup.answer (lookup : Lookup) : Except SearchFault TypeSet :=
  lookup.graph.reachableSources lookup.dest

/-- What the step looks up. -/
def ServiceStep.lookup? (step : ServiceStep) : Option Lookup :=
  step.asked?.map fun sink => ⟨step.graph, sink⟩

/-- The first lookup under a signature. -/
def ServiceStep.firstLookup? (steps : List ServiceStep) (signature : SinkSignature) :
    Option Lookup :=
  (steps.filterMap lookup?).find? (·.signature = signature)

/-- The printer that is added. -/
def ServiceStep.printer? (step : ServiceStep) : Option MediaTypeId :=
  match step.call with
  | .addPrinter name formats => (step.running.service.addPrinter name formats).1.toOption
  | _ => none

/-- Whether the graph is changed behind the back of the service. -/
def ServiceStep.isEdit (step : ServiceStep) : Bool :=
  match step.call with
  | .editGraph _ => true
  | _ => false

/-- The step neither edits the graph directly nor adds filters into the type of a printer from
which a document type is made. -/
def ServiceStep.SparesDocuments (step : ServiceStep) : Prop :=
  step.isEdit = false ∧ ∀ printer ∈ step.printer?, ¬ step.graph.MakesDocument printer

namespace RunningService

/-- Whether the call puts a fresh graph in place, as a reload does unless it fails. -/
def replacesGraph (running : RunningService) : ServiceCall → Bool
  | .reload source => (running.service.reload source.loader).1.toBool
  | _ => false

/-- The steps since the graph was last put in place, after one more. -/
def remember (running : RunningService) (recent : List ServiceStep) (call : ServiceCall) :
    List ServiceStep :=
  if running.replacesGraph call then [] else recent ++ [⟨running, call⟩]

/-- The steps of a run since the graph was last put in place, with earlier ones before them. -/
def recentFrom (running : RunningService) (recent : List ServiceStep) :
    List ServiceCall → List ServiceStep
  | [] => recent
  | call :: rest => (running.perform call).2.recentFrom (running.remember recent call) rest

/-- The steps of a run since the graph was last put in place. -/
def recent (running : RunningService) (calls : List ServiceCall) : List ServiceStep :=
  running.recentFrom [] calls

/-- What every call keeps of a service and its recent steps holds after every run. -/
theorem recent_induction {motive : RunningService → List ServiceStep → Prop}
    {running : RunningService} (start : motive running [])
    (step : ∀ running recent call, motive running recent →
      motive (running.perform call).2 (running.remember recent call))
    (calls : List ServiceCall) : motive (running.after calls) (running.recent calls) := by
  suffices kept : ∀ running recent, motive running recent →
      motive (running.after calls) (running.recentFrom recent calls) from kept running [] start
  induction calls with
  | nil =>
      intro running recent holds
      exact holds
  | cons call rest ih =>
      intro running recent holds
      exact ih _ _ (step running recent call holds)

variable {running : RunningService} {recent : List ServiceStep}

/-- A call that puts no graph in place is one step more. -/
theorem mem_remember {step : ServiceStep} {call : ServiceCall}
    (kept : running.replacesGraph call = false) :
    step ∈ running.remember recent call ↔ step ∈ recent ∨ step = ⟨running, call⟩ := by
  simp [remember, kept]

/-- What holds of the recent steps and of a call that puts no graph in place holds of the recent
steps after it. -/
theorem forall_mem_remember {motive : ServiceStep → Prop} {call : ServiceCall}
    (older : running.replacesGraph call = false → ∀ step ∈ recent, motive step)
    (latest : running.replacesGraph call = false → motive ⟨running, call⟩) :
    ∀ step ∈ running.remember recent call, motive step := by
  intro step member
  cases replaced : running.replacesGraph call with
  | true => simp [remember, replaced] at member
  | false =>
      rcases (mem_remember replaced).mp member with before | rfl
      · exact older replaced step before
      · exact latest replaced

/-- What a reload does to the recent steps, the graph and the cache. -/
theorem reload_steps (running : RunningService) (recent : List ServiceStep)
    (source : DeclarationSource) :
    (running.remember recent (.reload source) = recent ++ [⟨running, .reload source⟩] ∧
        (running.perform (.reload source)).2.service = running.service) ∨
      (running.remember recent (.reload source) = [] ∧ ∃ fresh,
        (running.perform (.reload source)).2.service =
          { running.service with graph := fresh, cache := running.service.cache.clear }) := by
  rcases running.service.reload_cases source.loader with ⟨error, same⟩ | ⟨fresh, _, same⟩
  · refine .inl ⟨?_, congrArg Prod.snd same⟩
    simp [remember, replacesGraph, same, Except.toBool]
  · refine .inr ⟨?_, fresh, congrArg Prod.snd same⟩
    simp [remember, replacesGraph, same, Except.toBool]

/-! ## Lookups -/

section Lookups

variable {steps : List ServiceStep} {step : ServiceStep} {signature : SinkSignature}

/-- Where the first lookup under a signature comes from. -/
theorem exists_step_of_firstLookup? {lookup : Lookup}
    (first : ServiceStep.firstLookup? steps signature = some lookup) :
    lookup.signature = signature ∧
      ∃ step ∈ steps, step.asked? = some lookup.dest ∧ step.graph = lookup.graph := by
  have under := List.find?_some first
  obtain ⟨step, member, looks⟩ := List.mem_filterMap.mp (List.mem_of_find?_eq_some first)
  obtain ⟨sink, asked, rfl⟩ := Option.map_eq_some_iff.mp looks
  exact ⟨of_decide_eq_true under, step, member, asked, rfl⟩

/-- One more step can only be the first lookup under a signature without an earlier one. -/
theorem firstLookup?_append_single :
    ServiceStep.firstLookup? (steps ++ [step]) signature =
      (ServiceStep.firstLookup? steps signature).or
        (step.lookup?.filter (·.signature = signature)) := by
  rw [ServiceStep.firstLookup?, List.filterMap_append, List.find?_append,
    ServiceStep.firstLookup?]
  congr 1
  cases looked : step.lookup? with
  | none => simp [looked]
  | some lookup =>
      by_cases same : lookup.signature = signature <;> simp [looked, same, Option.filter]

/-- A step that looks nothing up is no first lookup. -/
theorem firstLookup?_append_silent (silent : step.asked? = none) :
    ServiceStep.firstLookup? (steps ++ [step]) signature =
      ServiceStep.firstLookup? steps signature := by
  have nothing : step.lookup? = none := by rw [ServiceStep.lookup?, silent, Option.map_none]
  rw [firstLookup?_append_single, nothing, Option.filter_none, Option.or_none]

/-- A step that looks a destination up does so under one signature. -/
theorem firstLookup?_append_asked {sink : MediaTypeId} (asked : step.asked? = some sink) :
    ServiceStep.firstLookup? (steps ++ [step]) signature =
      (ServiceStep.firstLookup? steps signature).or
        (if step.graph.signature sink = signature then some ⟨step.graph, sink⟩ else none) := by
  have looked : step.lookup? = some ⟨step.graph, sink⟩ := by
    rw [ServiceStep.lookup?, asked, Option.map_some]
  rw [firstLookup?_append_single, looked]
  by_cases same : step.graph.signature sink = signature <;>
    simp [Lookup.signature, same, Option.filter]

end Lookups

/-! ## Entries of the cache -/

/-- Adding a printer does not concern the cache. -/
theorem cache_addPrinter (running : RunningService) (name : String)
    (formats : List PlanningService.PrinterFormat) :
    (running.perform (.addPrinter name formats)).2.service.cache = running.service.cache := by
  show (running.service.addPrinter name formats).2.cache = running.service.cache
  rcases running.service.addPrinter_cases name formats with ⟨_, same⟩ | ⟨_, _, _, same⟩
  · rw [same]
  · rw [same]

/-- No call switches the cache. -/
theorem enabled_perform (running : RunningService) (call : ServiceCall) :
    (running.perform call).2.service.cache.enabled = running.service.cache.enabled := by
  cases call with
  | reload source =>
      rcases reload_steps running [] source with ⟨_, same⟩ | ⟨_, _, same⟩
      · rw [same]
      · rw [same]
        rfl
  | addPrinter name formats => rw [cache_addPrinter]
  | planJob classifier path size sink => rfl
  | runJob classifier executor path size sink => rfl
  | accepts source sink => rfl
  | printerFormats sink => exact SignatureCache.enabled_reachableSources _ _ sink
  | editGraph edit => rfl

/-- Whether the cache is on is settled at the start. -/
theorem enabled_after (config : PlannerConfig) (calls : List ServiceCall) :
    ((start config).after calls).service.cache.enabled = config.sinkSignatureCache := by
  suffices kept : ∀ running : RunningService,
      (running.after calls).service.cache.enabled = running.service.cache.enabled from kept _
  induction calls with
  | nil => exact fun _ => rfl
  | cons call rest ih =>
      intro running
      rw [after_cons, ih, enabled_perform]

/-- The cache is on, and what it holds under a signature is the answer of the first recent lookup
under it. -/
structure HoldsFirst (running : RunningService) (recent : List ServiceStep) : Prop where
  enabled : running.service.cache.enabled = true
  reachable : running.service.graph.Reachable
  held : ∀ signature, (running.service.cache.entries[signature]?).map .ok =
    (ServiceStep.firstLookup? recent signature).map Lookup.answer

theorem holdsFirst_start : HoldsFirst (start ⟨true⟩) [] where
  enabled := rfl
  reachable := ⟨[], rfl⟩
  held := by
    intro signature
    have empty := SignatureCache.getElem?_entries_new true signature
    exact congrArg (Option.map Except.ok) empty

section HoldsFirst

variable (holds : HoldsFirst running recent)
include holds

/-- A lookup adds its answer where there was none. -/
theorem HoldsFirst.held_printerFormats (sink : MediaTypeId) (signature : SinkSignature) :
    ((running.perform (.printerFormats sink)).2.service.cache.entries[signature]?).map .ok =
      (ServiceStep.firstLookup? (recent ++ [⟨running, .printerFormats sink⟩]) signature).map
        Lookup.answer := by
  obtain ⟨types, swept, _⟩ := holds.reachable.coherent.exists_reachableSources sink
  have offers : CacheCall.offer? (.reachableSources running.service.graph sink) =
      some (running.service.graph.signature sink, types) := by
    simp [CacheCall.offer?, swept, Except.toOption]
  have step := SignatureCache.cacheStep_perform holds.enabled
    (.reachableSources running.service.graph sink)
  have entries := step.getElem?_entries signature
  rw [CacheCall.isClear_of_offer? offers, CacheCall.offerFor?_of_offer offers] at entries
  refine (congrArg (Option.map Except.ok) entries).trans ?_
  rw [firstLookup?_append_asked rfl, if_neg Bool.false_ne_true, Option.map_or, Option.map_or,
    holds.held]
  congr 1
  show Option.map Except.ok (if running.service.graph.signature sink = signature then _ else _) =
    Option.map Lookup.answer (if running.service.graph.signature sink = signature then _ else _)
  split
  · exact congrArg some swept.symm
  · rfl

/-- A step that looks nothing up and leaves the cache as it was is not noticed. -/
theorem HoldsFirst.held_silent {step : ServiceStep} (silent : step.asked? = none)
    (signature : SinkSignature) :
    (running.service.cache.entries[signature]?).map .ok =
      (ServiceStep.firstLookup? (recent ++ [step]) signature).map Lookup.answer := by
  rw [holds.held, firstLookup?_append_silent silent]

/-- Every call leaves in the cache the answers of the first recent lookups. -/
theorem HoldsFirst.perform (call : ServiceCall) :
    HoldsFirst (running.perform call).2 (running.remember recent call) := by
  refine ⟨(enabled_perform running call).trans holds.enabled,
    reachable_perform holds.reachable call, fun signature => ?_⟩
  cases call with
  | reload source =>
      rcases reload_steps running recent source with ⟨steps, same⟩ | ⟨steps, fresh, same⟩
      · rw [steps, same]
        exact holds.held_silent rfl signature
      · rw [steps, same]
        exact congrArg (Option.map Except.ok)
          (running.service.cache.getElem?_entries_clear signature)
  | addPrinter name formats =>
      rw [cache_addPrinter]
      exact holds.held_silent rfl signature
  | planJob classifier path size sink => exact holds.held_silent rfl signature
  | runJob classifier executor path size sink => exact holds.held_silent rfl signature
  | accepts source sink => exact holds.held_silent rfl signature
  | printerFormats sink => exact holds.held_printerFormats sink signature
  | editGraph edit => exact holds.held_silent rfl signature

/-- A printer is answered with what the first recent lookup under its signature found, or else
with a sweep. -/
theorem HoldsFirst.fst_printerFormats (sink : MediaTypeId) :
    (running.service.printerFormats sink).1 =
      (ServiceStep.firstLookup? recent (running.service.graph.signature sink)).elim
        (running.service.graph.reachableSources sink) Lookup.answer := by
  have held := holds.held (running.service.graph.signature sink)
  refine (SignatureCache.fst_reachableSources holds.enabled).trans ?_
  cases first : ServiceStep.firstLookup? recent (running.service.graph.signature sink) with
  | none =>
      rw [first, Option.map_none, Option.map_eq_none_iff] at held
      rw [held]
      rfl
  | some lookup =>
      rw [first, Option.map_some] at held
      obtain ⟨types, entry, answer⟩ := Option.map_eq_some_iff.mp held
      rw [entry]
      exact answer

end HoldsFirst

/-- **After every run with the cache on, the cache holds the answers of the first recent lookups,**
each computed on the graph that the lookup found. -/
theorem holdsFirst_after (calls : List ServiceCall) :
    HoldsFirst ((start ⟨true⟩).after calls) ((start ⟨true⟩).recent calls) :=
  recent_induction holdsFirst_start (fun _ _ call holds => holds.perform call) calls

/-! ## Graphs of the recent steps -/

/-- A sparing call that puts no graph in place leaves the graph undisturbed. -/
theorem undisturbed_perform (reachable : running.service.graph.Reachable) {call : ServiceCall}
    (spares : ServiceStep.SparesDocuments ⟨running, call⟩)
    (kept : running.replacesGraph call = false) :
    (running.perform call).2.service.graph.Undisturbed running.service.graph := by
  cases call with
  | reload source =>
      rcases reload_steps running [] source with ⟨_, same⟩ | ⟨emptied, _⟩
      · rw [same]
        exact .refl _
      · simp [remember, kept] at emptied
  | addPrinter name formats =>
      show (running.service.addPrinter name formats).2.graph.Undisturbed running.service.graph
      rcases running.service.addPrinter_cases name formats with
        ⟨_, same⟩ | ⟨printer, changed, staged, same⟩
      · rw [same]
        exact .refl _
      · obtain ⟨changedReachable, extension, others⟩ :=
          PlanningService.stagePrinter_keeps reachable staged
        have added : printer ∈ ServiceStep.printer? ⟨running, .addPrinter name formats⟩ := by
          simp [ServiceStep.printer?, same, Except.toOption]
        rw [same]
        exact changedReachable.coherent.undisturbed reachable.coherent extension others
          (spares.2 printer added)
  | planJob classifier path size sink => exact .refl _
  | runJob classifier executor path size sink => exact .refl _
  | accepts source sink => exact .refl _
  | printerFormats sink => exact .refl _
  | editGraph edit => exact absurd spares.1 (by simp [ServiceStep.isEdit])

/-- Each recent step found a reachable graph. -/
theorem reachable_recent (config : PlannerConfig) (calls : List ServiceCall) :
    ∀ step ∈ (start config).recent calls, step.graph.Reachable := by
  refine (recent_induction (motive := fun running recent => running.service.graph.Reachable ∧
    ∀ step ∈ recent, step.graph.Reachable) ⟨⟨[], rfl⟩, by simp⟩ ?_ calls).2
  rintro running recent call ⟨reachable, reachableThen⟩
  exact ⟨reachable_perform reachable call,
    forall_mem_remember (fun _ => reachableThen) fun _ => reachable⟩

/-- **As long as the recent steps spare the document types, the graph is undisturbed since each
of them.** -/
theorem undisturbed_after (config : PlannerConfig) (calls : List ServiceCall)
    (spares : ∀ step ∈ (start config).recent calls, step.SparesDocuments) :
    ∀ step ∈ (start config).recent calls,
      ((start config).after calls).service.graph.Undisturbed step.graph := by
  refine (recent_induction (motive := fun running recent => running.service.graph.Reachable ∧
    ((∀ step ∈ recent, step.SparesDocuments) →
      ∀ step ∈ recent, running.service.graph.Undisturbed step.graph)) ?_ ?_ calls).2 spares
  · exact ⟨⟨[], rfl⟩, fun _ => by simp⟩
  · rintro running recent call ⟨reachable, undisturbed⟩
    refine ⟨reachable_perform reachable call, fun spares => ?_⟩
    have onward : running.replacesGraph call = false →
        (running.perform call).2.service.graph.Undisturbed running.service.graph := fun kept =>
      undisturbed_perform reachable (spares _ ((mem_remember kept).mpr (.inr rfl))) kept
    refine forall_mem_remember (fun kept step before => ?_) onward
    have sparedBefore := fun earlier older =>
      spares earlier ((mem_remember kept).mpr (.inl older))
    exact (onward kept).trans (undisturbed sparedBefore step before)

end RunningService

end PrintPlanner
