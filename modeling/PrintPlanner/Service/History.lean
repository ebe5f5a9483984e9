import PrintPlanner.Declaration.Basic
import PrintPlanner.Graph.History
import PrintPlanner.Service.ExtensionTable
import PrintPlanner.Service.Planning
import PrintPlanner.Service.RecordedRun

/-!
# Histories of a service

The calls that a planning service receives are written down as data, so that two
services can be given the same calls and their replies compared.  Beside the service a
history carries the runs that its executors have noted.
-/

set_option autoImplicit false

namespace PrintPlanner

/-- A call of the service. -/
inductive ServiceCall where
  | reload (source : DeclarationSource)
  | addPrinter (name : String) (formats : List PlanningService.PrinterFormat)
  | planJob (classifier : TypeClassifier) (path : String) (size : UInt64) (sink : MediaTypeId)
  | runJob (classifier : TypeClassifier) (executor : JobExecutor) (path : String)
      (size : UInt64) (sink : MediaTypeId)
  | accepts (source sink : MediaTypeId)
  | printerFormats (sink : MediaTypeId)
  /-- A change of the graph behind the back of the service. -/
  | editGraph (edit : GraphEdit)

/-- What a call returns. -/
inductive ServiceReply where
  | reloaded (result : Except ServiceError Unit)
  | printer (result : Except ServiceError MediaTypeId)
  | job (result : Except ServiceError JobPlan)
  | accepted (result : Except SearchFault Bool)
  | formats (result : Except SearchFault TypeSet)
  | edited (answer : EditAnswer)

/-- A service with the runs noted so far. -/
structure RunningService where
  service : PlanningService
  runs : List RecordedRun

namespace RunningService

/-- The service with the given settings, before any call. -/
def start (config : PlannerConfig) : RunningService := ⟨.new config, []⟩

/-- Carries out a call. -/
def perform (running : RunningService) : ServiceCall → ServiceReply × RunningService
  | .reload source =>
      let (result, service) := running.service.reload source.loader
      (.reloaded result, { running with service })
  | .addPrinter name formats =>
      let (result, service) := running.service.addPrinter name formats
      (.printer result, { running with service })
  | .planJob classifier path size sink =>
      (.job (running.service.planJob classifier path size sink), running)
  | .runJob classifier executor path size sink =>
      let (result, runs) :=
        running.service.runJob classifier executor.executor path size sink running.runs
      (.job result, { running with runs })
  | .accepts source sink => (.accepted (running.service.accepts source sink), running)
  | .printerFormats sink =>
      let (result, service) := running.service.printerFormats sink
      (.formats result, { running with service })
  | .editGraph edit =>
      let (answer, graph) := running.service.graph.perform edit
      (.edited answer, { running with service := { running.service with graph } })

/-- The service after some calls. -/
def after (running : RunningService) : List ServiceCall → RunningService
  | [] => running
  | call :: rest => (running.perform call).2.after rest

/-- The replies to some calls, in order. -/
def replies (running : RunningService) : List ServiceCall → List ServiceReply
  | [] => []
  | call :: rest => (running.perform call).1 :: (running.perform call).2.replies rest

@[simp] theorem after_nil (running : RunningService) : running.after [] = running := rfl

@[simp] theorem after_cons (running : RunningService) (call : ServiceCall)
    (rest : List ServiceCall) :
    running.after (call :: rest) = (running.perform call).2.after rest := rfl

end RunningService

end PrintPlanner
