import PrintPlanner.Proofs.Chain.Execution
import PrintPlanner.Proofs.Service.Graphs

/-!
# Jobs

What comes of a job is stated case by case (`Job.Outcome`), from the classification of its document
over the search for a chain to the executor, and the service answers every job with that and
nothing else.  Jobs that are run one after the other leave the service alone; all they leave behind
is one run for each job that was planned and given to the recording executor, in the same order
(`RunningService.settlesJobs`).  A classifier that goes by extensions cannot fail and knows no type
that the graph does not know.
-/

set_option autoImplicit false

namespace PrintPlanner

/-! ## Outcomes -/

/-- A job, with what recognises its document and what runs its chain. -/
structure Job where
  classifier : TypeClassifier
  executor : JobExecutor
  path : String
  size : UInt64
  sink : MediaTypeId

/-- The call that has a job run. -/
def Job.call (job : Job) : ServiceCall :=
  .runJob job.classifier job.executor job.path job.size job.sink

/-- What comes of a job on a graph. -/
inductive Job.Outcome (graph : FilterGraph) (job : Job) : Except ServiceError JobPlan → Prop where
  /-- The classifier fails. -/
  | failed {error : CollaboratorError}
      (failure : job.classifier.classify graph.types job.path = .error error) :
      Outcome graph job (.error (.collaborator error))
  /-- The classifier does not recognise the document. -/
  | unclassified (unrecognised : job.classifier.classify graph.types job.path = .ok none) :
      Outcome graph job (.ok .unclassified)
  /-- The classifier takes the document for something that the graph does not know. -/
  | unknown {source : MediaTypeId}
      (classified : job.classifier.classify graph.types job.path = .ok (some source))
      (unknown : graph.types.get? source = none) :
      Outcome graph job (.error (.plan (.unknownHandle .mediaType source.raw)))
  /-- The cheapest chain is run. -/
  | planned {source : MediaTypeId} {chain : FilterChain}
      (classified : job.classifier.classify graph.types job.path = .ok (some source))
      (found : graph.cheapestChain source job.size job.sink = .ok (some chain))
      (runs : job.executor = .recording) : Outcome graph job (.ok (.planned chain))
  /-- There is a chain, but running it fails. -/
  | unexecuted {source : MediaTypeId} {chain : FilterChain} {error : CollaboratorError}
      (classified : job.classifier.classify graph.types job.path = .ok (some source))
      (found : graph.cheapestChain source job.size job.sink = .ok (some chain))
      (fails : job.executor = .failing error) : Outcome graph job (.error (.collaborator error))
  /-- No chain leads to the printer. -/
  | unsupported {source : MediaTypeId} {media : MediaType}
      (classified : job.classifier.classify graph.types job.path = .ok (some source))
      (known : graph.types.get? source = some media)
      (unreached : graph.cheapestChain source job.size job.sink = .ok none) :
      Outcome graph job (.ok (.unsupported media))

/-- No chain starts at a type that the graph does not know. -/
theorem FilterGraph.cheapestChain_of_get?_eq_none {graph : FilterGraph} {source : MediaTypeId}
    (unknown : graph.types.get? source = none) (size : UInt64) (dest : MediaTypeId) :
    graph.cheapestChain source size dest = .ok none := by
  have absent : graph.types.contains source = false := by
    rw [Bool.eq_false_iff, Ne, TypeRegistry.contains_iff_get?, unknown]
    simp
  simp [cheapestChain, resolveChain, absent]

/-- Every job comes to something. -/
theorem Job.exists_outcome {graph : FilterGraph} (reachable : graph.Reachable) (job : Job) :
    ∃ outcome, job.Outcome graph outcome := by
  cases classified : job.classifier.classify graph.types job.path with
  | error error => exact ⟨_, .failed classified⟩
  | ok answer =>
      cases answer with
      | none => exact ⟨_, .unclassified classified⟩
      | some source =>
          obtain ⟨answer, found⟩ : ∃ answer,
              graph.cheapestChain source job.size job.sink = .ok answer :=
            ⟨_, reachable.coherent.resolveChain_eq source job.size job.sink .cheapest⟩
          cases answer with
          | some chain =>
              cases executes : job.executor with
              | recording => exact ⟨_, .planned classified found executes⟩
              | failing error => exact ⟨_, .unexecuted classified found executes⟩
          | none =>
              cases known : graph.types.get? source with
              | none => exact ⟨_, .unknown classified known⟩
              | some media => exact ⟨_, .unsupported classified known found⟩

/-! ## Noted runs -/

/-- The chain that was given to the recording executor. -/
def Job.recordedChain? (job : Job) : Except ServiceError JobPlan → Option FilterChain
  | .ok (.planned chain) => if job.executor = .recording then some chain else none
  | _ => none

/-- The jobs that were planned and given to the recording executor, in order, with their chains. -/
def recordedJobs (jobs : List Job) (outcomes : List (Except ServiceError JobPlan)) :
    List (Job × FilterChain) :=
  (jobs.zip outcomes).filterMap fun pair => (pair.1.recordedChain? pair.2).map (pair.1, ·)

theorem recordedJobs_cons (job : Job) (jobs : List Job) (outcome : Except ServiceError JobPlan)
    (outcomes : List (Except ServiceError JobPlan)) :
    recordedJobs (job :: jobs) (outcome :: outcomes) =
      ((job.recordedChain? outcome).map (job, ·)).toList ++ recordedJobs jobs outcomes := by
  simp only [recordedJobs, List.zip_cons_cons, List.filterMap_cons]
  cases job.recordedChain? outcome <;> rfl

/-- The run that a job leaves behind, if it leaves one. -/
def Job.recordedRun? (graph : FilterGraph) (job : Job) (outcome : Except ServiceError JobPlan) :
    Option RecordedRun :=
  (job.recordedChain? outcome).map fun chain => ⟨job.path, chain.programs graph⟩

/-- The run of a job has its path and the programs of all filters of its chain, in order. -/
structure RecordedRun.RunOf (graph : FilterGraph) (recorded : Job × FilterChain)
    (run : RecordedRun) : Prop where
  path_eq : run.path = recorded.1.path
  length_eq : run.programs.length = recorded.2.length
  programs : List.Forall₂ (fun handle program => ∃ filter,
    graph.filter? handle = some filter ∧ filter.program = program)
    recorded.2.filters run.programs

/-- No filter of a walk is skipped when the programs are read. -/
theorem FilterGraph.Walk.forall₂_programs {graph : FilterGraph} {size : UInt64}
    {source dest : MediaTypeId} {handles : List FilterId}
    (walk : graph.Walk size source handles dest) :
    List.Forall₂ (fun handle program => ∃ filter,
      graph.filter? handle = some filter ∧ filter.program = program) handles
      (handles.filterMap fun handle => (graph.filter? handle).map Filter.program) := by
  induction walk with
  | nil => exact .nil
  | @cons handle filter rest dest live _ _ ih =>
      rw [List.filterMap_cons_some (by rw [live, Option.map_some])]
      exact .cons ⟨filter, live, rfl⟩ ih

/-- What a job leaves behind is a run of it, if it was given to the recording executor. -/
theorem Job.Outcome.runOf {graph : FilterGraph} (reachable : graph.Reachable) {job : Job}
    {outcome : Except ServiceError JobPlan} (comes : job.Outcome graph outcome) :
    List.Forall₂ (RecordedRun.RunOf graph) ((job.recordedChain? outcome).map (job, ·)).toList
      (job.recordedRun? graph outcome).toList := by
  cases comes with
  | @planned source chain classified found runs =>
      have programs :=
        (reachable.coherent.executable_of_resolveChain found).walk.forall₂_programs
      simp only [recordedRun?, recordedChain?, if_pos runs]
      exact .cons ⟨rfl, programs.length_eq.symm, programs⟩ .nil
  | _ => exact .nil

/-- A job leaves at most its own run behind, and answers with its outcome. -/
theorem Job.Outcome.runJob_eq {service : PlanningService} {job : Job}
    {outcome : Except ServiceError JobPlan} (comes : job.Outcome service.graph outcome)
    (runs : List RecordedRun) :
    service.runJob job.classifier job.executor.executor job.path job.size job.sink runs =
      (outcome, runs ++ (job.recordedRun? service.graph outcome).toList) := by
  unfold PlanningService.runJob PlanningService.planJob PlanningService.planFrom recordedRun?
  cases comes with
  | failed failure => simp [failure, recordedChain?]
  | unclassified unrecognised => simp [unrecognised, recordedChain?]
  | unknown classified unknown =>
      have unreached := FilterGraph.cheapestChain_of_get?_eq_none unknown job.size job.sink
      simp [classified, unreached, unknown, recordedChain?]
  | planned classified found runs =>
      simp [classified, found, runs, recordedChain?, JobExecutor.executor]
  | unexecuted classified found fails =>
      simp [classified, found, fails, recordedChain?, JobExecutor.executor]
  | unsupported classified known unreached =>
      simp [classified, unreached, known, recordedChain?]

/-! ## Classification by extension -/

/-- A name is looked up in the registry, so it stands for a registered type. -/
theorem TypeRegistry.Coherent.contains_of_lookupText? {registry : TypeRegistry}
    (coherent : registry.Coherent) {text : String} {handle : MediaTypeId}
    (found : registry.lookupText? text = some handle) : registry.contains handle = true := by
  unfold lookupText? at found
  split at found
  · contradiction
  · obtain ⟨media, known, _⟩ := (coherent.byName_iff _ _).mp found
    exact contains_iff_get?.mpr ⟨media, known⟩

theorem ExtensionTable.contains_of_classify? {types : TypeRegistry} (coherent : types.Coherent)
    {table : ExtensionTable} {path : String} {source : MediaTypeId}
    (classified : table.classify? types path = some source) : types.contains source = true := by
  simp only [classify?, Option.bind_eq_bind, Option.bind_eq_some_iff] at classified
  obtain ⟨extension, _, name, _, found⟩ := classified
  exact coherent.contains_of_lookupText? found

/-! ## Runs -/

namespace RunningService

variable {running : RunningService}

/-- What comes of jobs that are run one after the other, and what they leave behind. -/
structure RunsJobs (running : RunningService) (jobs : List Job)
    (outcomes : List (Except ServiceError JobPlan)) (noted : List RecordedRun) : Prop where
  replies : running.replies (jobs.map Job.call) = outcomes.map .job
  comes : List.Forall₂ (Job.Outcome running.service.graph) jobs outcomes
  /-- Nothing but the runs is new. -/
  after : running.after (jobs.map Job.call) = { running with runs := running.runs ++ noted }
  noted : List.Forall₂ (RecordedRun.RunOf running.service.graph) (recordedJobs jobs outcomes) noted

theorem perform_call {job : Job} {outcome : Except ServiceError JobPlan}
    (comes : job.Outcome running.service.graph outcome) :
    running.perform job.call =
      (.job outcome, { running with
        runs := running.runs ++ (job.recordedRun? running.service.graph outcome).toList }) := by
  simp only [Job.call, perform, comes.runJob_eq]

/-- One more job in front. -/
theorem RunsJobs.cons (reachable : running.service.graph.Reachable) {job : Job} {jobs : List Job}
    {outcome : Except ServiceError JobPlan} {outcomes : List (Except ServiceError JobPlan)}
    {noted : List RecordedRun} (comes : job.Outcome running.service.graph outcome)
    (rest : RunsJobs (running.perform job.call).2 jobs outcomes noted) :
    RunsJobs running (job :: jobs) (outcome :: outcomes)
      ((job.recordedRun? running.service.graph outcome).toList ++ noted) := by
  rw [perform_call comes] at rest
  constructor
  · rw [List.map_cons, RunningService.replies, perform_call comes, rest.replies, List.map_cons]
  · exact .cons comes rest.comes
  · rw [List.map_cons, after_cons, perform_call comes, rest.after, List.append_assoc]
  · rw [recordedJobs_cons]
    exact List.rel_append (comes.runOf reachable) rest.noted

theorem exists_runsJobs (reachable : running.service.graph.Reachable) (jobs : List Job) :
    ∃ outcomes noted, RunsJobs running jobs outcomes noted := by
  induction jobs generalizing running with
  | nil => exact ⟨[], [], rfl, .nil, by simp, .nil⟩
  | cons job rest ih =>
      obtain ⟨outcome, comes⟩ := job.exists_outcome reachable
      have later : (running.perform job.call).2.service.graph.Reachable :=
        reachable_perform reachable job.call
      obtain ⟨outcomes, noted, runs⟩ := ih later
      exact ⟨_, _, runs.cons reachable comes⟩

/-- A service settles every job in the one way that it can come out, whatever jobs came before. -/
structure SettlesJobs (running : RunningService) : Prop where
  /-- The outcome of a job is its reply. -/
  reply_iff : ∀ (job : Job) (outcome : Except ServiceError JobPlan),
    (running.perform job.call).1 = .job outcome ↔ job.Outcome running.service.graph outcome
  /-- Of several jobs, each comes out as it would alone, and those that were planned and given to
  the recording executor are noted, each once and in order. -/
  run : ∀ jobs : List Job, ∃ outcomes noted, RunsJobs running jobs outcomes noted
  /-- Whatever extensions it goes by, a classifier answers for every path, and only with types
  that the graph knows. -/
  classifies : ∀ (entries : List (String × String)) (path : String), ∃ answer,
    (TypeClassifier.ofExtensions (.ofList entries)).classify running.service.graph.types path =
        .ok answer ∧
      ∀ source, answer = some source → running.service.graph.types.contains source = true
  /-- With such a classifier and the recording executor no job fails. -/
  succeeds : ∀ (entries : List (String × String)) (path : String) (size : UInt64)
    (sink : MediaTypeId), ∃ plan,
      (running.perform (.runJob (.ofExtensions (.ofList entries)) .recording path size sink)).1 =
        .job (.ok plan)

/-- **Every job is settled as its classifier, the graph and its executor have it,** and the log of
the recording executor tells exactly which jobs it was given.  The graph of a service is reachable
after every run (`reachable_after`). -/
theorem settlesJobs (reachable : running.service.graph.Reachable) : running.SettlesJobs := by
  have coherent := reachable.coherent
  refine ⟨fun job outcome => ?_, exists_runsJobs reachable, fun entries path => ?_,
    fun entries path size sink => ?_⟩
  · obtain ⟨actual, comes⟩ := job.exists_outcome reachable
    constructor
    · intro replied
      rw [perform_call comes] at replied
      exact ServiceReply.job.inj replied ▸ comes
    · intro comes
      rw [perform_call comes]
  · exact ⟨_, rfl, fun source => ExtensionTable.contains_of_classify? coherent.types⟩
  · let job : Job := ⟨.ofExtensions (.ofList entries), .recording, path, size, sink⟩
    obtain ⟨outcome, comes⟩ := job.exists_outcome reachable
    have replied : (running.perform job.call).1 = .job outcome := by rw [perform_call comes]
    cases comes with
    | failed failure => cases failure
    | unclassified unrecognised => exact ⟨_, replied⟩
    | unknown classified unknown =>
        have known := ExtensionTable.contains_of_classify? coherent.types (Except.ok.inj classified)
        obtain ⟨media, found⟩ := TypeRegistry.contains_iff_get?.mp known
        exact absurd (unknown.symm.trans found) (by simp)
    | planned classified found runs => exact ⟨_, replied⟩
    | unexecuted classified found fails => cases fails
    | unsupported classified known unreached => exact ⟨_, replied⟩

/-- Text is printed through PDF, and nothing is made out of images. -/
def counterCalls : List ServiceCall := [
  .reload (.listed [.filter "text/plain" "application/pdf" 3 "texttopdf", .mediaType "image/png"]),
  .addPrinter "laser" [⟨⟨1⟩, 2, "pdftolaser"⟩]]

/-- Texts were rich texts before they became plain, and nobody knows sounds. -/
def counterClassifier : TypeClassifier :=
  .ofExtensions (.ofList [("txt", "text/rtf"), ("TXT", "Text/Plain"), ("png", "image/png"),
    ("ogg", "audio/ogg")])

/-- The type of images that can be scanned. -/
def counterImage : MediaType :=
  ⟨⟨"image", "png"⟩, nameFault?_eq_none_iff.mp (by decide +kernel),
    nameFault?_eq_none_iff.mp (by decide +kernel), by decide +kernel, by decide +kernel⟩

/-- Jobs that come out in every way. -/
def counterJobs : List Job := [
  ⟨counterClassifier, .recording, "desk/report.Txt", 7, ⟨3⟩⟩,
  ⟨counterClassifier, .failing (.other "jam"), "desk/report.Txt", 7, ⟨3⟩⟩,
  ⟨counterClassifier, .recording, "scan.png", 0, ⟨3⟩⟩,
  ⟨counterClassifier, .recording, "tune.ogg", 0, ⟨3⟩⟩,
  ⟨.always (.ok (some ⟨9⟩)), .recording, "lost", 0, ⟨3⟩⟩,
  ⟨.always (.error (.other "unreadable")), .recording, "torn", 0, ⟨3⟩⟩,
  ⟨.always (.ok (some ⟨1⟩)), .recording, "form", 0, ⟨3⟩⟩]

/-- Two of the jobs are planned and recorded; a third is planned, but its executor fails. -/
theorem settlesJobs_counterJobs :
    let running := (start ⟨true⟩).after counterCalls
    running.service.graph.Reachable ∧ running.SettlesJobs ∧
      counterJobs.map (fun job => (running.service.runJob job.classifier job.executor.executor
          job.path job.size job.sink []).1) = [
        .ok (.planned ⟨[⟨0⟩, ⟨1⟩], 5⟩), .error (.collaborator (.other "jam")),
        .ok (.unsupported counterImage), .ok .unclassified,
        .error (.plan (.unknownHandle .mediaType 9)), .error (.collaborator (.other "unreadable")),
        .ok (.planned ⟨[⟨1⟩], 2⟩)] ∧
      (running.after (counterJobs.map Job.call)).runs =
        [⟨"desk/report.Txt", ["texttopdf", "pdftolaser"]⟩, ⟨"form", ["pdftolaser"]⟩] := by
  intro running
  have reachable : running.service.graph.Reachable := reachable_after ⟨true⟩ counterCalls
  exact ⟨reachable, settlesJobs reachable, by decide +kernel, by decide +kernel⟩

end RunningService

end PrintPlanner
