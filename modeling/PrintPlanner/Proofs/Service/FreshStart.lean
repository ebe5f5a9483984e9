import PrintPlanner.Proofs.Service.Graphs
import PrintPlanner.Proofs.Signature.Cache

/-!
# A fresh start

A successful reload puts a graph in place that is made out of the empty one, and empties the
cache.  All that is left of the past are the counters of the cache and the runs that executors
have noted, and no call reads these.  So two services with the same settings that load the same
declarations reply alike ever after, whatever they have been through
(`RunningService.reload_erasesHistory`).
-/

set_option autoImplicit false

namespace PrintPlanner

/-! ## Counters -/

/-- The cache with other counters. -/
def SignatureCache.recounted (cache : SignatureCache) (stats : CacheStats) : SignatureCache :=
  { cache with stats }

/-- A lookup counts, but does not read the counters. -/
theorem SignatureCache.reachableSources_recounted (cache : SignatureCache) (stats : CacheStats)
    (graph : FilterGraph) (dest : MediaTypeId) :
    ∃ counted, (cache.recounted stats).reachableSources graph dest =
      ((cache.reachableSources graph dest).1,
        (cache.reachableSources graph dest).2.recounted counted) := by
  cases on : cache.enabled with
  | false =>
      have off : (cache.recounted stats).enabled = false := on
      rw [reachableSources_of_disabled on, reachableSources_of_disabled off]
      exact ⟨stats, rfl⟩
  | true =>
      have stillOn : (cache.recounted stats).enabled = true := on
      cases found : cache.entries[graph.signature dest]? with
      | some types =>
          have hit : (cache.recounted stats).entries[graph.signature dest]? = some types := found
          rw [reachableSources_of_hit on found, reachableSources_of_hit stillOn hit]
          exact ⟨_, rfl⟩
      | none =>
          have miss : (cache.recounted stats).entries[graph.signature dest]? = none := found
          rw [reachableSources_of_miss on found, reachableSources_of_miss stillOn miss]
          cases graph.reachableSources dest with
          | error fault => exact ⟨_, rfl⟩
          | ok types => exact ⟨_, rfl⟩

namespace PlanningService

/-- The service with other counters. -/
def recounted (service : PlanningService) (stats : CacheStats) : PlanningService :=
  { service with cache := service.cache.recounted stats }

variable {first second : PlanningService}

theorem reload_recounted (service : PlanningService) (stats : CacheStats)
    (loader : DeclarationLoader) :
    (service.recounted stats).reload loader =
      ((service.reload loader).1, (service.reload loader).2.recounted stats) := by
  unfold reload
  split <;> rfl

theorem addPrinter_recounted (service : PlanningService) (stats : CacheStats) (name : String)
    (formats : List PrinterFormat) :
    (service.recounted stats).addPrinter name formats =
      ((service.addPrinter name formats).1,
        (service.addPrinter name formats).2.recounted stats) := by
  have sameGraph : (service.recounted stats).graph = service.graph := rfl
  unfold addPrinter
  rw [sameGraph]
  cases stagePrinter service.graph name formats with
  | error error => rfl
  | ok staged => rfl

theorem printerFormats_recounted (service : PlanningService) (stats : CacheStats)
    (sink : MediaTypeId) :
    ∃ counted, (service.recounted stats).printerFormats sink =
      ((service.printerFormats sink).1, (service.printerFormats sink).2.recounted counted) := by
  obtain ⟨counted, lookup⟩ :=
    service.cache.reachableSources_recounted stats service.graph sink
  exact ⟨counted,
    congrArg (fun outcome => (outcome.1, { service with cache := outcome.2 })) lookup⟩

/-- The services are the same but for the counters of their caches. -/
def SameButCounters (first second : PlanningService) : Prop :=
  ∃ stats, second = first.recounted stats

/-- Whoever runs the chains is given the same ones. -/
theorem SameButCounters.runJob_eq {State : Type} (same : first.SameButCounters second)
    (classifier : TypeClassifier) (executor : PipelineExecutor State) (path : String)
    (size : UInt64) (sink : MediaTypeId) (state : State) :
    first.runJob classifier executor path size sink state =
      second.runJob classifier executor path size sink state := by
  obtain ⟨stats, rfl⟩ := same
  rfl

/-- The caches hold as many entries. -/
theorem SameButCounters.size_eq (same : first.SameButCounters second) :
    first.cache.size = second.cache.size := by
  obtain ⟨stats, rfl⟩ := same
  rfl

/-- Services with the same settings load the same declarations with the same success, which leaves
them the same but for the counters. -/
theorem sameButCounters_reload (sameConfig : first.config = second.config)
    (sameSwitch : first.cache.enabled = second.cache.enabled) {loader : DeclarationLoader}
    (reloaded : (first.reload loader).1 = .ok ()) :
    (second.reload loader).1 = .ok () ∧
      (first.reload loader).2.SameButCounters (second.reload loader).2 := by
  rcases first.reload_cases loader with ⟨error, failed⟩ | ⟨fresh, loaded, replaced⟩
  · rw [failed] at reloaded
    contradiction
  · have alsoReplaced : second.reload loader =
        (.ok (), { second with graph := fresh, cache := second.cache.clear }) := by
      unfold reload
      rw [loaded]
    have emptied : second.cache.clear = first.cache.clear.recounted second.cache.stats := by
      simp only [SignatureCache.clear, SignatureCache.recounted, sameSwitch]
    rw [replaced, alsoReplaced, emptied, ← sameConfig]
    exact ⟨rfl, second.cache.stats, rfl⟩

end PlanningService

/-! ## Noted runs -/

/-- An executor does not read the runs noted before, and adds to them what it would have noted as
the first. -/
theorem JobExecutor.runJob_eq (executor : JobExecutor) (service : PlanningService)
    (classifier : TypeClassifier) (path : String) (size : UInt64) (sink : MediaTypeId)
    (runs : List RecordedRun) :
    service.runJob classifier executor.executor path size sink runs =
      ((service.runJob classifier executor.executor path size sink []).1,
        runs ++ (service.runJob classifier executor.executor path size sink []).2) := by
  unfold PlanningService.runJob
  cases service.planJob classifier path size sink with
  | error error => simp
  | ok plan =>
      cases plan with
      | planned chain => cases executor <;> simp [executor]
      | unclassified => simp
      | unsupported media => simp

/-! ## Runs -/

namespace RunningService

variable {first second : RunningService}

/-- A call has the same reply where only the counters differ, notes the same runs, and leaves
nothing but the counters different. -/
theorem perform_congr_counters (same : first.service.SameButCounters second.service)
    (call : ServiceCall) :
    (first.perform call).1 = (second.perform call).1 ∧
      (first.perform call).2.service.SameButCounters (second.perform call).2.service ∧
      ∃ noted, (first.perform call).2.runs = first.runs ++ noted ∧
        (second.perform call).2.runs = second.runs ++ noted := by
  obtain ⟨service, runs⟩ := first
  obtain ⟨_, otherRuns⟩ := second
  obtain ⟨stats, rfl⟩ := same
  have silent : ∃ noted, runs = runs ++ noted ∧ otherRuns = otherRuns ++ noted :=
    ⟨[], (List.append_nil _).symm, (List.append_nil _).symm⟩
  cases call with
  | reload source =>
      have reloaded := service.reload_recounted stats source.loader
      refine ⟨?_, ?_, silent⟩
      · exact congrArg (fun outcome => ServiceReply.reloaded outcome.1) reloaded.symm
      · exact ⟨stats, congrArg Prod.snd reloaded⟩
  | addPrinter name formats =>
      have added := service.addPrinter_recounted stats name formats
      refine ⟨?_, ?_, silent⟩
      · exact congrArg (fun outcome => ServiceReply.printer outcome.1) added.symm
      · exact ⟨stats, congrArg Prod.snd added⟩
  | planJob classifier path size sink => exact ⟨rfl, ⟨stats, rfl⟩, silent⟩
  | runJob classifier executor path size sink =>
      have ran := executor.runJob_eq service classifier path size sink
      refine ⟨?_, ⟨stats, rfl⟩, _, congrArg Prod.snd (ran runs), congrArg Prod.snd (ran otherRuns)⟩
      show ServiceReply.job (service.runJob classifier executor.executor path size sink runs).1 =
        .job (service.runJob classifier executor.executor path size sink otherRuns).1
      rw [ran runs, ran otherRuns]
  | accepts source sink => exact ⟨rfl, ⟨stats, rfl⟩, silent⟩
  | printerFormats sink =>
      obtain ⟨counted, looked⟩ := service.printerFormats_recounted stats sink
      refine ⟨?_, ?_, silent⟩
      · exact congrArg (fun outcome => ServiceReply.formats outcome.1) looked.symm
      · exact ⟨counted, congrArg Prod.snd looked⟩
  | editGraph edit => exact ⟨rfl, ⟨stats, rfl⟩, silent⟩

/-- Nothing but the counters tells two services apart while they are given the same calls: they
reply alike, are left the same otherwise, and their executors note the same runs. -/
structure RunsAlike (first second : RunningService) (calls : List ServiceCall) : Prop where
  replies : first.replies calls = second.replies calls
  left : (first.after calls).service.SameButCounters (second.after calls).service
  noted : ∃ noted, (first.after calls).runs = first.runs ++ noted ∧
    (second.after calls).runs = second.runs ++ noted

/-- **No call reads the counters.** -/
theorem runsAlike (same : first.service.SameButCounters second.service)
    (calls : List ServiceCall) : RunsAlike first second calls := by
  induction calls generalizing first second with
  | nil => exact ⟨rfl, same, [], (List.append_nil _).symm, (List.append_nil _).symm⟩
  | cons call rest ih =>
      obtain ⟨reply, left, now, firstNow, secondNow⟩ := perform_congr_counters same call
      obtain ⟨replies, outcome, later, firstLater, secondLater⟩ := ih left
      refine ⟨?_, outcome, now ++ later, ?_, ?_⟩
      · show (first.perform call).1 :: _ = (second.perform call).1 :: _
        rw [reply, replies]
      · rw [after_cons, firstLater, firstNow, List.append_assoc]
      · rw [after_cons, secondLater, secondNow, List.append_assoc]

/-- **A successful reload erases history.**  Two services with the same settings succeed with the
same declarations alike.  From then on the same calls are answered alike, with the same handles and
errors, and leave caches of the same size; every executor would be given the same chains.  Only
the counters may differ. -/
theorem reload_erasesHistory {first second : RunningService} {source : DeclarationSource}
    (sameConfig : first.service.config = second.service.config)
    (sameSwitch : first.service.cache.enabled = second.service.cache.enabled)
    (reloaded : (first.perform (.reload source)).1 = .reloaded (.ok ()))
    (later : List ServiceCall) :
    let firstFresh := (first.perform (.reload source)).2
    let secondFresh := (second.perform (.reload source)).2
    (second.perform (.reload source)).1 = .reloaded (.ok ()) ∧
      RunsAlike firstFresh secondFresh later ∧
      (firstFresh.after later).service.cache.size =
        (secondFresh.after later).service.cache.size ∧
      ∀ {State : Type} (classifier : TypeClassifier) (executor : PipelineExecutor State)
        (path : String) (size : UInt64) (sink : MediaTypeId) (state : State),
        (firstFresh.after later).service.runJob classifier executor path size sink state =
          (secondFresh.after later).service.runJob classifier executor path size sink state := by
  intro firstFresh secondFresh
  have succeeded : (first.service.reload source.loader).1 = .ok () :=
    ServiceReply.reloaded.inj reloaded
  obtain ⟨alsoSucceeded, same⟩ :=
    PlanningService.sameButCounters_reload sameConfig sameSwitch succeeded
  have alike : RunsAlike firstFresh secondFresh later := runsAlike same later
  refine ⟨congrArg ServiceReply.reloaded alsoSucceeded, alike, alike.left.size_eq, ?_⟩
  intro State classifier executor path size sink state
  exact alike.left.runJob_eq classifier executor path size sink state

/-- Text is printed through PDF. -/
def officeSource : DeclarationSource :=
  .listed [.filter "text/plain" "application/pdf" 3 "texttopdf"]

/-- A past with a printer, a lookup and a job, with changes of the graph behind the service's back,
and with a reload that fails. -/
def busyCalls : List ServiceCall := [
  .reload (.listed [.filter "image/png" "text/plain" 0 "ocr",
    .filter "text/plain" "application/pdf" 1 "old"]),
  .addPrinter "inkjet" [⟨⟨2⟩, 1, "q"⟩], .printerFormats ⟨3⟩, .editGraph .query,
  .runJob (.always (.ok (some ⟨1⟩))) .recording "letter" 0 ⟨3⟩, .editGraph (.removeFilter ⟨0⟩),
  .editGraph (.addType "image" "scan"), .reload (.failing (.other "gone"))]

/-- A printer is looked up twice, gets a cheaper filter and loses it again, and jobs are run for it.
In between another printer and another reload are refused. -/
def laterCalls : List ServiceCall := [
  .addPrinter "laser" [⟨⟨1⟩, 2, "pdftolaser"⟩], .printerFormats ⟨2⟩, .printerFormats ⟨2⟩,
  .runJob (.always (.ok (some ⟨0⟩))) .recording "report" 0 ⟨2⟩,
  .editGraph (.addFilter ⟨1⟩ ⟨2⟩ 1 "quick"), .addPrinter "plotter" [⟨⟨9⟩, 1, "q"⟩],
  .runJob (.always (.ok (some ⟨0⟩))) .recording "report" 0 ⟨2⟩, .editGraph (.removeFilter ⟨1⟩),
  .reload (.failing (.other "gone")), .printerFormats ⟨2⟩]

/-- Before the reload the next printer would have got another handle than on a service without a
past.  After it the printer gets the same, and only the counters remember. -/
theorem reload_erasesHistory_busyCalls :
    let busy := (start ⟨true⟩).after busyCalls
    let busyFresh := (busy.perform (.reload officeSource)).2
    let idleFresh := ((start ⟨true⟩).perform (.reload officeSource)).2
    (busy.service.config = (start ⟨true⟩).service.config ∧
        busy.service.cache.enabled = (start ⟨true⟩).service.cache.enabled ∧
        (busy.perform (.reload officeSource)).1 = .reloaded (.ok ())) ∧
      (busy.service.addPrinter "laser" []).1 = .ok ⟨5⟩ ∧
      (idleFresh.service.addPrinter "laser" []).1 = .ok ⟨2⟩ ∧
      RunsAlike busyFresh idleFresh laterCalls ∧
      (idleFresh.after laterCalls).runs =
        [⟨"report", ["texttopdf", "pdftolaser"]⟩, ⟨"report", ["texttopdf", "quick"]⟩] ∧
      (idleFresh.after laterCalls).service.cache.stats = ⟨1, 2, 2⟩ ∧
      (busyFresh.after laterCalls).service.cache.stats = ⟨1, 3, 3⟩ := by
  intro busy busyFresh idleFresh
  have sameConfig : busy.service.config = (start ⟨true⟩).service.config := by decide +kernel
  have sameSwitch : busy.service.cache.enabled = (start ⟨true⟩).service.cache.enabled := by
    decide +kernel
  have succeeded : (busy.service.reload officeSource.loader).1 = .ok () := by decide +kernel
  have reloaded : (busy.perform (.reload officeSource)).1 = .reloaded (.ok ()) :=
    congrArg ServiceReply.reloaded succeeded
  obtain ⟨_, alike, _⟩ := reload_erasesHistory sameConfig sameSwitch reloaded laterCalls
  exact ⟨⟨sameConfig, sameSwitch, reloaded⟩, by decide +kernel, by decide +kernel, alike,
    by decide +kernel, by decide +kernel, by decide +kernel⟩

end RunningService

end PrintPlanner
