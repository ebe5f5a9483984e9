import PrintPlanner.Proofs.Service.Recent

/-!
# What the cache switch changes

With the cache on, a printer gets what was found at the first recent lookup under its signature, be
it for another printer or for itself before further filters were added.  So the switch changes its
answer exactly if there was such a lookup and it found something else than a sweep does now
(`RunningService.formatsAfter_switch`).  It found the same if its destination was fed alike, as with
private prefilter stages of the same kind, and nothing was added in between to what a document type
is made from.  Otherwise the answer can be a wrong one (`RunningService.switchMatters_examples`).
-/

set_option autoImplicit false

namespace PrintPlanner.RunningService

/-- The answer for a printer after a run. -/
def formatsAfter (config : PlannerConfig) (calls : List ServiceCall) (sink : MediaTypeId) :
    Except SearchFault TypeSet :=
  (((start config).after calls).service.printerFormats sink).1

/-- The first lookup, since the graph was put in place, under the signature that the printer has
after the run. -/
def forerunner? (calls : List ServiceCall) (sink : MediaTypeId) : Option Lookup :=
  ServiceStep.firstLookup? ((start ⟨true⟩).recent calls)
    (((start ⟨true⟩).after calls).service.graph.signature sink)

/-- No recent lookup was for a destination with the same signature but other edges. -/
def CollisionFree (config : PlannerConfig) (calls : List ServiceCall) (sink : MediaTypeId) :
    Prop :=
  ∀ step ∈ (start config).recent calls, ∀ former ∈ step.asked?,
    step.graph.signature former = ((start config).after calls).service.graph.signature sink →
      step.graph.inboundEdges former =
        ((start config).after calls).service.graph.inboundEdges sink

/-- All recent lookups with the same signature were for self-contained destinations. -/
def SharesSelfContained (config : PlannerConfig) (calls : List ServiceCall)
    (sink : MediaTypeId) : Prop :=
  ∀ step ∈ (start config).recent calls, ∀ former ∈ step.asked?,
    step.graph.signature former = ((start config).after calls).service.graph.signature sink →
      step.graph.SelfContained former

instance {config : PlannerConfig} {calls : List ServiceCall} {sink : MediaTypeId} :
    Decidable (CollisionFree config calls sink) :=
  inferInstanceAs (Decidable (∀ step ∈ (start config).recent calls, ∀ former ∈ step.asked?, _))

/-! ## With the cache off and on -/

/-- With the cache off, an answer is that of a sweep of the graph with which the cache on ends
up. -/
theorem formatsAfter_off (calls : List ServiceCall) (sink : MediaTypeId) :
    formatsAfter ⟨false⟩ calls sink =
      ((start ⟨true⟩).after calls).service.graph.reachableSources sink := by
  have off : ((start ⟨false⟩).after calls).service.cache.enabled = false :=
    enabled_after ⟨false⟩ calls
  have empties : (start ⟨false⟩).service.graph = (start ⟨true⟩).service.graph := rfl
  have same := graph_after_congr empties calls
  rw [formatsAfter, PlanningService.printerFormats,
    SignatureCache.reachableSources_of_disabled off, same]

/-- With the cache on, it is that of the forerunner, if there is one. -/
theorem formatsAfter_on (calls : List ServiceCall) (sink : MediaTypeId) :
    formatsAfter ⟨true⟩ calls sink =
      (forerunner? calls sink).elim (formatsAfter ⟨false⟩ calls sink) Lookup.answer := by
  rw [formatsAfter_off]
  exact (holdsFirst_after calls).fst_printerFormats sink

section Forerunner

variable {calls : List ServiceCall} {sink : MediaTypeId}

/-- The forerunner is one of the recent lookups, and found a coherent graph. -/
theorem exists_step_of_forerunner? {lookup : Lookup}
    (first : lookup ∈ forerunner? calls sink) :
    lookup.signature = ((start ⟨true⟩).after calls).service.graph.signature sink ∧
      lookup.graph.Coherent ∧ ∃ step ∈ (start ⟨true⟩).recent calls,
        step.asked? = some lookup.dest ∧ step.graph = lookup.graph := by
  obtain ⟨signature, step, member, asked, found⟩ := exists_step_of_firstLookup? first
  have reachable := reachable_recent ⟨true⟩ calls step member
  rw [found] at reachable
  exact ⟨signature, reachable.coherent, step, member, asked, found⟩

/-- The switch matters exactly if there is a forerunner with another answer. -/
theorem formatsAfter_eq_iff :
    formatsAfter ⟨true⟩ calls sink = formatsAfter ⟨false⟩ calls sink ↔
      ∀ lookup ∈ forerunner? calls sink, lookup.answer = formatsAfter ⟨false⟩ calls sink := by
  rw [formatsAfter_on]
  cases forerunner? calls sink with
  | none => simp
  | some lookup => simp

/-- The forerunner has the answer of now if its destination was fed as the printer is, and nothing
has come to lead to a document type since. -/
theorem answer_eq_of_fedAlike {lookup : Lookup} (first : lookup ∈ forerunner? calls sink)
    (undisturbed : ((start ⟨true⟩).after calls).service.graph.Undisturbed lookup.graph)
    {pairs : List (MediaTypeId × MediaTypeId)}
    (alike : ((start ⟨true⟩).after calls).service.graph.FedAlike lookup.graph pairs)
    (paired : (sink, lookup.dest) ∈ pairs) :
    lookup.answer = formatsAfter ⟨false⟩ calls sink := by
  have coherent := (reachable_after ⟨true⟩ calls).coherent
  obtain ⟨_, olderCoherent, _⟩ := exists_step_of_forerunner? first
  rw [formatsAfter_off]
  exact (coherent.reachableSources_eq_of_fedAlike olderCoherent undisturbed alike paired).symm

/-- **Where the recent calls spare the document types, an answer for a self-contained printer is
that of a sweep,** if it can only be shared with self-contained printers that have the same
edges. -/
theorem formatsAfter_eq_reachableSources
    (spares : ∀ step ∈ (start ⟨true⟩).recent calls, step.SparesDocuments)
    (contained : ((start ⟨true⟩).after calls).service.graph.SelfContained sink)
    (collisionFree : CollisionFree ⟨true⟩ calls sink)
    (formersContained : SharesSelfContained ⟨true⟩ calls sink) :
    formatsAfter ⟨true⟩ calls sink =
      ((start ⟨true⟩).after calls).service.graph.reachableSources sink := by
  rw [← formatsAfter_off, formatsAfter_eq_iff]
  intro lookup first
  have coherent := (reachable_after ⟨true⟩ calls).coherent
  obtain ⟨signature, olderCoherent, step, member, asked, found⟩ :=
    exists_step_of_forerunner? first
  have undisturbed := undisturbed_after ⟨true⟩ calls spares step member
  have edges := collisionFree step member lookup.dest asked (found ▸ signature)
  have formerContained := formersContained step member lookup.dest asked (found ▸ signature)
  rw [found] at undisturbed edges formerContained
  have alike := coherent.fedAlike_of_inboundEdges_eq olderCoherent undisturbed.types edges.symm
    contained formerContained
  exact answer_eq_of_fedAlike first undisturbed alike (List.mem_singleton_self _)

end Forerunner

/-- **The switch changes an answer exactly if the first lookup under the signature, since the graph
was put in place, found something else than a sweep does now.**  With the cache on that is the
answer, whatever the calls were.  It is the right one if the destination of that lookup was fed
alike and nothing has come to lead to a document type since. -/
theorem formatsAfter_switch (calls : List ServiceCall) (sink : MediaTypeId) :
    (∃ types, formatsAfter ⟨true⟩ calls sink = .ok types) ∧
      (∃ types, formatsAfter ⟨false⟩ calls sink = .ok types) ∧
      formatsAfter ⟨true⟩ calls sink =
        (forerunner? calls sink).elim (formatsAfter ⟨false⟩ calls sink) Lookup.answer ∧
      (formatsAfter ⟨true⟩ calls sink = formatsAfter ⟨false⟩ calls sink ↔
        ∀ lookup ∈ forerunner? calls sink,
          lookup.answer = formatsAfter ⟨false⟩ calls sink) ∧
      ((∀ lookup ∈ forerunner? calls sink,
          ((start ⟨true⟩).after calls).service.graph.Undisturbed lookup.graph ∧
            ∃ pairs, (sink, lookup.dest) ∈ pairs ∧
              ((start ⟨true⟩).after calls).service.graph.FedAlike lookup.graph pairs) →
        formatsAfter ⟨true⟩ calls sink = formatsAfter ⟨false⟩ calls sink) := by
  obtain ⟨swept, off, _⟩ :=
    (reachable_after ⟨true⟩ calls).coherent.exists_reachableSources sink
  rw [← formatsAfter_off] at off
  refine ⟨?_, ⟨swept, off⟩, formatsAfter_on calls sink, formatsAfter_eq_iff, fun alike => ?_⟩
  · rw [formatsAfter_on]
    cases first : forerunner? calls sink with
    | none => exact ⟨swept, off⟩
    | some lookup =>
        obtain ⟨_, olderCoherent, _⟩ := exists_step_of_forerunner? first
        obtain ⟨types, answer, _⟩ := olderCoherent.exists_reachableSources lookup.dest
        exact ⟨types, answer⟩
  · rw [formatsAfter_eq_iff]
    intro lookup first
    obtain ⟨undisturbed, pairs, paired, fed⟩ := alike lookup first
    exact answer_eq_of_fedAlike first undisturbed fed paired

/-- Printers `a` and `b` each have a private stage in front, which takes PDF in the same way.
Printer `a` comes to take text as well after it was looked up. -/
def prefilterCalls : List ServiceCall := [
  .reload (.listed [.filter "text/plain" "application/pdf" 3 "texttopdf"]),
  .addPrinter "a-pages" [⟨⟨1⟩, 1, "imposition"⟩], .addPrinter "a" [⟨⟨2⟩, 1, "driver"⟩],
  .printerFormats ⟨3⟩,
  .addPrinter "b-pages" [⟨⟨1⟩, 1, "imposition"⟩], .addPrinter "b" [⟨⟨4⟩, 1, "driver"⟩],
  .addPrinter "a" [⟨⟨0⟩, 2, "textdriver"⟩]]

/-- The answer for `b` was computed for `a`, and is right. -/
theorem formatsAfter_switch_prefilterCalls :
    (forerunner? prefilterCalls ⟨5⟩).map Lookup.dest = some ⟨3⟩ ∧
      (∀ lookup ∈ forerunner? prefilterCalls ⟨5⟩,
        ((start ⟨true⟩).after prefilterCalls).service.graph.Undisturbed lookup.graph ∧
          ∃ pairs, (⟨5⟩, lookup.dest) ∈ pairs ∧
            ((start ⟨true⟩).after prefilterCalls).service.graph.FedAlike lookup.graph pairs) ∧
      (((start ⟨true⟩).after prefilterCalls).service.printerFormats ⟨5⟩).2.cache.stats =
        ⟨1, 1, 1⟩ ∧
      formatsAfter ⟨true⟩ prefilterCalls ⟨5⟩ = formatsAfter ⟨false⟩ prefilterCalls ⟨5⟩ := by
  have unused : ∀ step ∈ (start ⟨true⟩).recent prefilterCalls, step.isEdit = false ∧
      ∀ printer ∈ step.printer?, step.graph.filtersFrom printer = [] ∧
        ¬ step.graph.types.IsDocument printer := by
    decide +kernel
  have spares : ∀ step ∈ (start ⟨true⟩).recent prefilterCalls, step.SparesDocuments := by
    intro step member
    obtain ⟨unedited, final⟩ := unused step member
    have coherent := (reachable_recent ⟨true⟩ prefilterCalls step member).coherent
    refine ⟨unedited, fun printer added => ?_⟩
    obtain ⟨nothingLeaves, notDocument⟩ := final printer added
    exact coherent.not_makesDocument nothingLeaves notDocument
  have fed : ∀ lookup ∈ forerunner? prefilterCalls ⟨5⟩,
      (⟨5⟩, lookup.dest) ∈ ([(⟨5⟩, ⟨3⟩), (⟨4⟩, ⟨2⟩)] : List (MediaTypeId × MediaTypeId)) ∧
        ((start ⟨true⟩).after prefilterCalls).service.graph.FedAlike lookup.graph
          [(⟨5⟩, ⟨3⟩), (⟨4⟩, ⟨2⟩)] := by
    decide +kernel
  have alike : ∀ lookup ∈ forerunner? prefilterCalls ⟨5⟩,
      ((start ⟨true⟩).after prefilterCalls).service.graph.Undisturbed lookup.graph ∧
        ∃ pairs, (⟨5⟩, lookup.dest) ∈ pairs ∧
          ((start ⟨true⟩).after prefilterCalls).service.graph.FedAlike lookup.graph pairs := by
    intro lookup first
    obtain ⟨_, _, step, member, _, found⟩ := exists_step_of_forerunner? first
    have undisturbed := undisturbed_after ⟨true⟩ prefilterCalls spares step member
    rw [found] at undisturbed
    exact ⟨undisturbed, _, fed lookup first⟩
  have hit : (((start ⟨true⟩).after prefilterCalls).service.printerFormats ⟨5⟩).2.cache.stats =
      ⟨1, 1, 1⟩ := by
    decide +kernel
  obtain ⟨_, _, _, _, shared⟩ := formatsAfter_switch prefilterCalls ⟨5⟩
  exact ⟨by decide +kernel, alike, hit, shared alike⟩

/-! ## Where the switch matters -/

/-- Printer `a` is fed by printer `x` and `b` by `y`, in the same way, but `x` takes PDF and `y`
text. -/
def twinCalls : List ServiceCall := [
  .reload (.listed [.mediaType "application/pdf", .mediaType "text/plain"]),
  .addPrinter "x" [⟨⟨0⟩, 0, "p"⟩], .addPrinter "y" [⟨⟨1⟩, 0, "p"⟩],
  .addPrinter "a" [⟨⟨2⟩, 0, "q"⟩], .addPrinter "b" [⟨⟨3⟩, 0, "q"⟩], .printerFormats ⟨4⟩]

/-- A scan is made of what printer `x` takes, and printer `a` takes scans.  In between two
lookups for `a`, printer `x` comes to take text. -/
def upstreamCalls : List ServiceCall := [
  .reload (.listed [.mediaType "application/pdf", .mediaType "text/plain",
    .filter "printer/x" "image/scan" 0 "scan"]),
  .addPrinter "x" [⟨⟨0⟩, 0, "p"⟩], .addPrinter "a" [⟨⟨3⟩, 0, "q"⟩], .printerFormats ⟨4⟩,
  .addPrinter "x" [⟨⟨1⟩, 0, "p"⟩]]

/-- PDF is made from text as printer `x` is fed, and text from PDF.  The first lookup is for
PDF. -/
def documentCalls : List ServiceCall := [
  .reload (.listed [.filter "application/pdf" "text/plain" 0 "p",
    .filter "text/plain" "application/pdf" 0 "q"]),
  .addPrinter "x" [⟨⟨1⟩, 0, "q"⟩], .printerFormats ⟨0⟩]

/-- Whether a type is among those that the printer is said to take, with the cache on. -/
def isAdvertised (calls : List ServiceCall) (source sink : MediaTypeId) : Bool :=
  match formatsAfter ⟨true⟩ calls sink,
      ((start ⟨true⟩).after calls).service.graph.types.get? source with
  | .ok types, some media => types.contains media
  | _, _ => false

/-- The run ends with a printer whose answer depends on the switch, though the graph was never
edited directly and no collision occurs.  A type is left out that the printer does accept. -/
structure SwitchMatters (calls : List ServiceCall) (sink : MediaTypeId) : Prop where
  unedited : ∀ edit, .editGraph edit ∉ calls
  isSink : ((start ⟨true⟩).after calls).service.graph.types.isSink sink = true
  collisionFree : CollisionFree ⟨true⟩ calls sink
  differs : formatsAfter ⟨true⟩ calls sink ≠ formatsAfter ⟨false⟩ calls sink
  omits : ∃ source, ((start ⟨true⟩).after calls).service.accepts source sink = .ok true ∧
    isAdvertised calls source sink = false

theorem ne_of_texts_ne {first second : Except SearchFault TypeSet}
    (differs : first.map TypeSet.texts ≠ second.map TypeSet.texts) : first ≠ second :=
  fun same => differs (congrArg (Except.map TypeSet.texts) same)

/-- **The switch can change an answer:** where printers are fed by different printers in the same
way, where a printer's type from which a document type is made gets another filter, and where a
document type was looked up before. -/
theorem switchMatters_examples :
    SwitchMatters twinCalls ⟨5⟩ ∧ SwitchMatters upstreamCalls ⟨4⟩ ∧
      SwitchMatters documentCalls ⟨2⟩ := by
  refine ⟨⟨by simp [twinCalls], ?_, ?_, ?_, ⟨1⟩, ?_⟩,
    ⟨by simp [upstreamCalls], ?_, ?_, ?_, ⟨1⟩, ?_⟩,
    ⟨by simp [documentCalls], ?_, ?_, ?_, ⟨0⟩, ?_⟩⟩
  · decide +kernel
  · decide +kernel
  · exact ne_of_texts_ne (by decide +kernel)
  · decide +kernel
  · decide +kernel
  · decide +kernel
  · exact ne_of_texts_ne (by decide +kernel)
  · decide +kernel
  · decide +kernel
  · decide +kernel
  · exact ne_of_texts_ne (by decide +kernel)
  · decide +kernel

end PrintPlanner.RunningService
