import PrintPlanner.Service.Collaborator

/-!
# Recorded runs

An executor that runs no program and notes instead, for each chain that it is given, the
path of the document and the programs in order.
-/

set_option autoImplicit false

namespace PrintPlanner

/-- A chain that was run: the path of the document and the programs in order. -/
structure RecordedRun where
  path : String
  programs : List String
deriving DecidableEq, Repr

/-- An executor for one job: one that notes what it runs, or one that fails. -/
inductive JobExecutor where
  | recording
  | failing (error : CollaboratorError)
deriving DecidableEq, Repr

/-- The executor, whose state is the list of runs noted so far.  A failing executor notes
nothing. -/
def JobExecutor.executor : JobExecutor → PipelineExecutor (List RecordedRun)
  | recording =>
      ⟨fun graph chain path runs => (.ok (), runs ++ [⟨path, chain.programs graph⟩])⟩
  | failing error => ⟨fun _ _ _ runs => (.error error, runs)⟩

end PrintPlanner
