import PrintPlanner.Service.Collaborator
import PrintPlanner.Settings.Service
import PrintPlanner.Signature.Cache

/-!
# The planning service

The service owns the filter graph of the current configuration and a signature cache
for it.  Each call returns its answer with the service that it leaves.  Loading and
registering a printer work on a graph apart and put it in place only when all of it has
succeeded, so a failed call leaves the service as it was.
-/

set_option autoImplicit false

namespace PrintPlanner

/-- Why a call of the service failed. -/
inductive ServiceError where
  | config (error : ConfigError)
  | plan (error : PlanError)
  | collaborator (error : CollaboratorError)
  /-- A filter of the graph names a type that its registry lacks. -/
  | search (fault : SearchFault)
deriving DecidableEq, Repr

/-- The wording of a service error. -/
def ServiceError.message : ServiceError → String
  | .config error => "config: " ++ error.message
  | .plan error => "plan: " ++ error.message
  | .collaborator error => "port: " ++ error.message
  | .search (.unregistered handle) => "search: unregistered type #" ++ toString handle.raw.toNat
  | .search .pathTooLong => "search: path too long"

/-- What to do with a document. -/
inductive JobPlan where
  /-- Run this chain. -/
  | planned (chain : FilterChain)
  /-- The document's type was not recognised. -/
  | unclassified
  /-- No chain leads from the document's type to the printer. -/
  | unsupported (media : MediaType)
deriving DecidableEq

/-- The settings, the graph and the cache of a running planner. -/
structure PlanningService where
  config : PlannerConfig
  graph : FilterGraph
  cache : SignatureCache

namespace PlanningService

/-- The service with an empty graph. -/
def new (config : PlannerConfig) : PlanningService :=
  ⟨config, .empty, .new config.sinkSignatureCache⟩

/-- The service with the settings from a store and the environment. -/
def ofStore {Store : Type} [ConfigStore Store] (store : Store)
    (environment : Option (List UInt8)) : Except ServiceError PlanningService × Store :=
  let (config, store) := loadPlannerConfig store environment
  ((config.map new).mapError .config, store)

/-- Replaces the graph by one that is loaded afresh, and forgets the cached answers. -/
def reload (service : PlanningService) (loader : DeclarationLoader) :
    Except ServiceError Unit × PlanningService :=
  match loader.load .empty with
  | (.error error, _) => (.error (.collaborator error), service)
  | (.ok (), fresh) => (.ok (), { service with graph := fresh, cache := service.cache.clear })

/-- An input type of a printer with the cost and the program of its filter. -/
structure PrinterFormat where
  source : MediaTypeId
  cost : UInt32
  program : String
deriving DecidableEq, Repr

/-- Adds the filters of a printer's formats into its type. -/
def addFormats (sink : MediaTypeId) :
    List PrinterFormat → FilterGraph → Except PlanError FilterGraph
  | [], graph => .ok graph
  | format :: rest, graph =>
      match graph.addFilter format.source sink format.cost format.program with
      | .error error => .error error
      | .ok (_, graph) => addFormats sink rest graph

/-- The graph with a printer and the filters of its formats. -/
def stagePrinter (graph : FilterGraph) (name : String) (formats : List PrinterFormat) :
    Except PlanError (MediaTypeId × FilterGraph) := do
  let (sink, graph) ← graph.addSinkType name
  let graph ← addFormats sink formats graph
  .ok (sink, graph)

/-- Registers a printer with the filters of all its formats, or not at all. -/
def addPrinter (service : PlanningService) (name : String) (formats : List PrinterFormat) :
    Except ServiceError MediaTypeId × PlanningService :=
  match stagePrinter service.graph name formats with
  | .error error => (.error (.plan error), service)
  | .ok (sink, graph) => (.ok sink, { service with graph })

/-- The plan for a document of a known type. -/
def planFrom (graph : FilterGraph) (source : MediaTypeId) (size : UInt64) (sink : MediaTypeId) :
    Except ServiceError JobPlan :=
  match graph.cheapestChain source size sink with
  | .error fault => .error (.search fault)
  | .ok (some chain) => .ok (.planned chain)
  | .ok none =>
      match graph.types.get? source with
      | some media => .ok (.unsupported media)
      | none => .error (.plan (.unknownHandle .mediaType source.raw))

/-- The plan for the document at a path, whose size is zero if it is not known. -/
def planJob (service : PlanningService) (classifier : TypeClassifier) (path : String)
    (size : UInt64) (sink : MediaTypeId) : Except ServiceError JobPlan :=
  match classifier.classify service.graph.types path with
  | .error error => .error (.collaborator error)
  | .ok none => .ok .unclassified
  | .ok (some source) => planFrom service.graph source size sink

/-- Plans for the document at a path and has a planned chain run. -/
def runJob {State : Type} (service : PlanningService) (classifier : TypeClassifier)
    (executor : PipelineExecutor State) (path : String) (size : UInt64) (sink : MediaTypeId)
    (state : State) : Except ServiceError JobPlan × State :=
  match service.planJob classifier path size sink with
  | .ok (.planned chain) =>
      match executor.execute service.graph chain path state with
      | (.error error, state) => (.error (.collaborator error), state)
      | (.ok (), state) => (.ok (.planned chain), state)
  | answer => (answer, state)

/-- Whether a document type of unknown size can be converted for a printer. -/
def accepts (service : PlanningService) (source sink : MediaTypeId) : Except SearchFault Bool :=
  service.graph.canConvert source 0 sink

/-- The document types that a printer accepts, as far as the cache can tell without a
new sweep. -/
def printerFormats (service : PlanningService) (sink : MediaTypeId) :
    Except SearchFault TypeSet × PlanningService :=
  let (answer, cache) := service.cache.reachableSources service.graph sink
  (answer, { service with cache })

end PlanningService

end PrintPlanner
