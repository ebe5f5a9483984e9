import Mathlib.Data.Finset.Card
import PrintPlanner.Proofs.Media.Text
import PrintPlanner.Proofs.Registry.Registration
import PrintPlanner.Proofs.Service.Graphs

/-!
# Which printers are admitted

A printer is admitted if its name can be part of a media type and if the sources of its formats are
registered, wherever in the list they stand (`PlanningService.addPrinter_succeeds_iff`).  Besides,
there must be a handle for every new filter (`FilterGraph.HasRoom`).

The sources are checked in the graph that has the printer's type already.  So a handle that named
nothing before is let in after all if it is the one that the printer of a new name is given.  This
is how a handle from before a reload can end up as a filter from the printer to itself.
-/

set_option autoImplicit false

namespace PrintPlanner

/-! ## Names of printers -/

/-- The text of a printer's type can be parsed exactly if its two parts are accepted. -/
theorem MediaType.exists_parse_sink_iff {name : String} :
    (∃ media, parse ("printer/" ++ name) = .ok media) ↔
      ∃ media, ofParts sinkSuperType name = .ok media := by
  have whole : '/' ∉ sinkSuperType.toList := by decide
  have split : "printer/" ++ name = sinkSuperType ++ "/" ++ name := rfl
  rw [split, parse_parts whole]

/-! ## The registry -/

namespace FilterGraph

variable {graph changed : FilterGraph} {sink : MediaTypeId} {name : String}

/-- The registry of a graph is coherent however the graph was built. -/
theorem Built.types_coherent (built : graph.Built) : graph.types.Coherent := by
  induction built with
  | ofTypes registrations => exact TypeRegistry.coherent_empty.after registrations
  | replaceTypes _ registrations _ => exact TypeRegistry.coherent_empty.after registrations
  | @perform graph built edit ih =>
      have inserting : ∀ media handle changed, graph.insertType media = .ok (handle, changed) →
          changed.types.Coherent := by
        intro media handle changed inserted
        obtain ⟨types, stored, rfl⟩ := insertType_cases inserted
        exact ih.insert stored
      have adding : ∀ superType subType handle changed,
          graph.addType superType subType = .ok (handle, changed) → changed.types.Coherent := by
        intro superType subType handle changed added
        obtain ⟨media, _, inserted⟩ := addType_cases added
        exact inserting media handle changed inserted
      have offering : ∀ source dest cost limit program handle changed,
          graph.offerFilter source dest cost limit program = .ok (handle, changed) →
            changed.types.Coherent := by
        intro source dest cost limit program handle changed offered
        rw [built.aligned.types_offerFilter offered]
        exact ih
      cases edit with
      | addType superType subType => exact settle_keeps ih (adding superType subType)
      | addSinkType printer => exact settle_keeps ih (adding _ printer)
      | insertType media => exact settle_keeps ih (inserting media)
      | addFilter source dest cost program =>
          exact settle_keeps ih (offering source dest cost none program)
      | addLimitedFilter source dest cost maxSize program =>
          exact settle_keeps ih (offering source dest cost (some maxSize) program)
      | removeFilter handle =>
          show (graph.removeFilter handle).2.types.Coherent
          rwa [types_removeFilter]
      | query => exact ih

/-- The handle of a printer's type, or the one that it would be given. -/
def printerHandle (graph : FilterGraph) (name : String) : MediaTypeId :=
  (graph.types.lookup? MediaType.sinkSuperType name).getD (.ofIndex graph.types.size)

theorem lookup?_sinkSuperType {media : MediaType}
    (parts : MediaType.ofParts MediaType.sinkSuperType name = .ok media) :
    graph.types.lookup? MediaType.sinkSuperType name = graph.types.byName[media.toTypeName]? := by
  rw [(MediaType.ofParts_eq_ok_iff.mp parts).2.2]
  rfl

/-- A printer's type can be registered if its name is valid and there is a handle for it. -/
theorem exists_addSinkType_iff :
    (∃ sink named, graph.addSinkType name = .ok (sink, named)) ↔
      (∃ media, MediaType.ofParts MediaType.sinkSuperType name = .ok media) ∧
        (graph.types.lookup? MediaType.sinkSuperType name = none →
          graph.types.size < handleCount) := by
  rw [addSinkType_eq_addType]
  constructor
  · rintro ⟨sink, named, added⟩
    obtain ⟨media, parts, inserted⟩ := addType_cases added
    obtain ⟨types, stored, _⟩ := insertType_cases inserted
    refine ⟨⟨media, parts⟩, fun unnamed => ?_⟩
    rcases TypeRegistry.insert_cases stored with ⟨found, _⟩ | ⟨_, room, _⟩
    · rw [lookup?_sinkSuperType parts, found] at unnamed
      cases unnamed
    · exact room
  · rintro ⟨⟨media, parts⟩, room⟩
    rw [lookup?_sinkSuperType parts] at room
    cases stored : graph.types.insert media with
    | error error =>
        obtain ⟨absent, full⟩ := TypeRegistry.insert_eq_error stored
        exact absurd (room absent) (Nat.not_lt_of_le full)
    | ok pair =>
        refine ⟨pair.1, { graph with types := pair.2 }, ?_⟩
        simp only [addType, TypeRegistry.addType, parts, stored]
        rfl

/-- The printer's type is registered under its handle, and no other type is. -/
theorem addSinkType_cases (coherent : graph.types.Coherent)
    (added : graph.addSinkType name = .ok (sink, changed)) :
    sink = graph.printerHandle name ∧ ∃ types, changed = { graph with types } ∧
      ∀ handle, types.contains handle = true ↔
        graph.types.contains handle = true ∨ handle = sink := by
  rw [addSinkType_eq_addType] at added
  obtain ⟨media, parts, inserted⟩ := addType_cases added
  obtain ⟨types, stored, rfl⟩ := insertType_cases inserted
  rw [printerHandle, lookup?_sinkSuperType parts]
  rcases TypeRegistry.insert_cases stored with ⟨found, rfl⟩ | ⟨absent, room, rfl, rfl⟩
  · refine ⟨by rw [found, Option.getD_some], _, rfl, fun handle => ⟨.inl, ?_⟩⟩
    rintro (known | rfl)
    · exact known
    · obtain ⟨stored, there, _⟩ := (coherent.byName_iff _ _).mp found
      exact TypeRegistry.contains_iff_get?.mpr ⟨stored, there⟩
  · refine ⟨by rw [absent, Option.getD_none], _, rfl, fun handle => ?_⟩
    have last : handle.index = graph.types.size ↔ handle = .ofIndex graph.types.size :=
      ⟨fun here => here ▸ handle.ofIndex_index.symm,
        fun same => same ▸ MediaTypeId.index_ofIndex room⟩
    rw [← last, TypeRegistry.contains, TypeRegistry.contains, decide_eq_true_eq, decide_eq_true_eq]
    show handle.index < (graph.types.types.push media).size ↔ _
    rw [Array.size_push]
    exact Nat.lt_succ_iff_lt_or_eq

/-! ## Room for filters -/

/-- The sources among some that have no filter into a type yet. -/
def newSources (graph : FilterGraph) (sink : MediaTypeId) (sources : List MediaTypeId) :
    Finset MediaTypeId :=
  sources.toFinset.filter fun source => graph.lookupDirect? source sink = none

theorem mem_newSources {sources : List MediaTypeId} {source : MediaTypeId} :
    source ∈ graph.newSources sink sources ↔
      source ∈ sources ∧ graph.lookupDirect? source sink = none := by
  rw [newSources, Finset.mem_filter, List.mem_toFinset]

theorem lookupDirect?_pushSlot (filter : Filter) (source dest : MediaTypeId) :
    (graph.pushSlot filter).lookupDirect? source dest =
      if filter.source = source ∧ filter.dest = dest then some (.ofIndex graph.slots.size)
      else graph.lookupDirect? source dest := by
  rw [lookupDirect?, pushSlot, Std.TreeMap.getElem?_insert]
  simp only [Std.LawfulEqOrd.compare_eq_iff_eq, Filter.endpoints_eq_iff]
  rfl

/-- **An offer takes up the room that it was counted with.** -/
theorem Aligned.room_offerFilter (aligned : graph.Aligned) {source : MediaTypeId} {cost : UInt32}
    {limit : Option UInt64} {program : String} {handle : FilterId}
    (offered : graph.offerFilter source sink cost limit program = .ok (handle, changed))
    (sources : List MediaTypeId) :
    changed.slots.size + (changed.newSources sink sources).card =
      graph.slots.size + (graph.newSources sink (source :: sources)).card := by
  obtain ⟨_, ⟨filter, live, start, arrive, rfl⟩ | ⟨fresh, room, _, rfl⟩⟩ :=
    aligned.offerFilter_cases offered
  · -- A pair that has its filter was not counted, and needs no slot.
    have pair := aligned.lookupDirect?_eq_some_iff.mpr ⟨filter, live, start, arrive⟩
    have same : (graph.setSlot handle (some (filter.improve cost limit program))).newSources sink
        sources = graph.newSources sink (source :: sources) := by
      ext other
      rw [mem_newSources, mem_newSources, List.mem_cons]
      constructor
      · exact fun ⟨listed, unpaired⟩ => ⟨.inr listed, unpaired⟩
      · rintro ⟨rfl | listed, unpaired⟩
        · rw [pair] at unpaired
          cases unpaired
        · exact ⟨listed, unpaired⟩
    rw [same]
    simp [FilterGraph.setSlot]
  · -- A new pair takes a slot, and is not counted any more.
    have fewer : (graph.pushSlot ⟨source, sink, cost, limit.getD 0, program⟩).newSources sink
        sources = (graph.newSources sink (source :: sources)).erase source := by
      ext other
      rw [Finset.mem_erase, mem_newSources, mem_newSources, lookupDirect?_pushSlot, List.mem_cons]
      by_cases same : other = source
      · simp [same]
      · simp [same, Ne.symm same]
    have counted : source ∈ graph.newSources sink (source :: sources) :=
      mem_newSources.mpr ⟨List.mem_cons_self, fresh⟩
    have less := Finset.card_erase_add_one counted
    rw [fewer]
    simp only [FilterGraph.pushSlot, Array.size_push]
    omega

/-- There is a handle for the type of a printer, if its name is new, and one for each of its filters
that are new. -/
structure HasRoom (graph : FilterGraph) (name : String) (sources : List MediaTypeId) : Prop where
  type : graph.types.lookup? MediaType.sinkSuperType name = none → graph.types.size < handleCount
  filters : graph.slots.size + (graph.newSources (graph.printerHandle name) sources).card ≤
    handleCount

end FilterGraph

/-! ## Printers -/

namespace PlanningService

open FilterGraph

variable {graph : FilterGraph} {service : PlanningService} {sink : MediaTypeId} {name : String}

/-- The filters of some formats can be added exactly if their sources are registered and there is
room for all of them. -/
theorem exists_addFormats_iff (aligned : graph.Aligned)
    (sinkKnown : graph.types.contains sink = true) (formats : List PrinterFormat) :
    (∃ changed, addFormats sink formats graph = .ok changed) ↔
      (∀ format ∈ formats, graph.types.contains format.source = true) ∧
        graph.slots.size + (graph.newSources sink (formats.map (·.source))).card ≤ handleCount := by
  induction formats generalizing graph with
  | nil => simpa [addFormats, newSources] using aligned.slots_size_le
  | cons format rest ih =>
      rw [addFormats, List.forall_mem_cons, List.map_cons]
      cases result : graph.addFilter format.source sink format.cost format.program with
      | error error =>
          simp only [reduceCtorEq, exists_false, false_iff]
          rintro ⟨⟨known, _⟩, room⟩
          -- The offer could not have been refused: its source is counted, so there is a slot.
          have free : graph.lookupDirect? format.source sink = none →
              graph.slots.size < handleCount := by
            intro unpaired
            have counted : format.source ∈
                graph.newSources sink (format.source :: rest.map (·.source)) :=
              mem_newSources.mpr ⟨List.mem_cons_self, unpaired⟩
            have positive := Finset.card_pos.mpr ⟨_, counted⟩
            omega
          obtain ⟨handle, changed, offered⟩ := aligned.exists_offerFilter ⟨known, sinkKnown⟩ free
            format.cost none format.program
          rw [addFilter, offered] at result
          cases result
      | ok pair =>
          obtain ⟨handle, onward⟩ := pair
          have types := aligned.types_offerFilter result
          have known := (aligned.offerFilter_cases result).1.1
          rw [← aligned.room_offerFilter result, ← types]
          refine (ih (aligned.offerFilter result) (by rwa [types])).trans ?_
          simp [types, known]

/-- A printer can be staged exactly if its name is valid, there is room, and every source is
registered or is the printer itself. -/
theorem exists_stagePrinter_iff (built : graph.Built) (name : String)
    (formats : List PrinterFormat) :
    (∃ sink changed, stagePrinter graph name formats = .ok (sink, changed)) ↔
      (∃ media, MediaType.ofParts MediaType.sinkSuperType name = .ok media) ∧
        graph.HasRoom name (formats.map (·.source)) ∧
        ∀ format ∈ formats, graph.types.contains format.source = true ∨
          format.source = graph.printerHandle name := by
  have coherent := built.types_coherent
  constructor
  · rintro ⟨sink, changed, staged⟩
    obtain ⟨named, registered, added⟩ := stagePrinter_eq_ok_iff.mp staged
    obtain ⟨valid, room⟩ := exists_addSinkType_iff.mp ⟨sink, named, registered⟩
    obtain ⟨rfl, types, rfl, known⟩ := addSinkType_cases coherent registered
    obtain ⟨sources, filters⟩ := (exists_addFormats_iff (built.aligned.withTypes types)
      ((known _).mpr (.inr rfl)) formats).mp ⟨changed, added⟩
    exact ⟨valid, ⟨room, filters⟩, fun format listed => (known _).mp (sources format listed)⟩
  · rintro ⟨valid, room, sources⟩
    obtain ⟨sink, named, registered⟩ := exists_addSinkType_iff.mpr ⟨valid, room.type⟩
    obtain ⟨rfl, types, rfl, known⟩ := addSinkType_cases coherent registered
    obtain ⟨changed, added⟩ := (exists_addFormats_iff (built.aligned.withTypes types)
      ((known _).mpr (.inr rfl)) formats).mpr
        ⟨fun format listed => (known _).mpr (sources format listed), room.filters⟩
    exact ⟨_, changed, stagePrinter_eq_ok_iff.mpr ⟨_, registered, added⟩⟩

/-- **Which printers are admitted.**  The printer gets the handle of its name or the next one.  That
handle may be the source of a format even if it names nothing yet.  Unless it is, and as long as
handles last, the name has to be valid and all sources registered, and this is enough. -/
theorem addPrinter_succeeds_iff (built : service.graph.Built) (name : String)
    (formats : List PrinterFormat) :
    ((∃ sink, (service.addPrinter name formats).1 = .ok sink) ↔
        (∃ media, MediaType.parse ("printer/" ++ name) = .ok media) ∧
          service.graph.HasRoom name (formats.map (·.source)) ∧
          ∀ format ∈ formats, service.graph.types.contains format.source = true ∨
            format.source = service.graph.printerHandle name) ∧
      (∀ sink, (service.addPrinter name formats).1 = .ok sink →
        sink = service.graph.printerHandle name) ∧
      (service.graph.HasRoom name (formats.map (·.source)) →
        (service.graph.types.lookup? MediaType.sinkSuperType name = none →
          ∀ format ∈ formats, format.source ≠ service.graph.printerHandle name) →
        ((∃ sink, (service.addPrinter name formats).1 = .ok sink) ↔
          (∃ media, MediaType.parse ("printer/" ++ name) = .ok media) ∧
            ∀ format ∈ formats, service.graph.types.contains format.source = true)) := by
  have coherent := built.types_coherent
  have succeeds : (∃ sink, (service.addPrinter name formats).1 = .ok sink) ↔
      (∃ media, MediaType.parse ("printer/" ++ name) = .ok media) ∧
        service.graph.HasRoom name (formats.map (·.source)) ∧
        ∀ format ∈ formats, service.graph.types.contains format.source = true ∨
          format.source = service.graph.printerHandle name := by
    simp only [addPrinter_fst_eq_ok_iff_staged, exists_stagePrinter_iff built,
      MediaType.exists_parse_sink_iff]
  refine ⟨succeeds, fun sink registered => ?_, fun room others => succeeds.trans ?_⟩
  · obtain ⟨changed, staged⟩ := addPrinter_fst_eq_ok_iff_staged.mp registered
    obtain ⟨named, added, _⟩ := stagePrinter_eq_ok_iff.mp staged
    exact (addSinkType_cases coherent added).1
  · simp only [room, true_and]
    refine and_congr_right fun _ => forall₂_congr fun format listed =>
      or_iff_left_of_imp fun itself => ?_
    cases known : service.graph.types.lookup? MediaType.sinkSuperType name with
    | none => exact absurd itself (others known format listed)
    | some handle =>
        obtain ⟨media, stored, _⟩ := (coherent.byName_iff _ _).mp known
        rw [itself, printerHandle, known, Option.getD_some]
        exact TypeRegistry.contains_iff_get?.mpr ⟨media, stored⟩

/-- There were three types before the reload, and there are two of them after it. -/
def reloadCalls : List ServiceCall := [
  .reload (.listed [.mediaType "text/plain", .mediaType "application/pdf",
    .mediaType "application/vnd.cups-raster"]),
  .reload (.listed [.filter "text/plain" "application/pdf" 32 "texttopdf"])]

/-- The formats of a printer for PDF and one more type. -/
def laserFormats (other : MediaTypeId) : List PrinterFormat :=
  [⟨⟨1⟩, 0, "pdftolaser"⟩, ⟨other, 0, "othertolaser"⟩]

/-- The laser printer is admitted with text as its other format, and refused with the handle after
the one that it would get. -/
theorem addPrinter_succeeds_iff_reloadCalls :
    let service := ((RunningService.start ⟨true⟩).after reloadCalls).service
    service.graph.Built ∧ service.graph.printerHandle "laser" = ⟨2⟩ ∧
      (service.graph.HasRoom "laser" ((laserFormats ⟨0⟩).map (·.source)) ∧
        (∀ format ∈ laserFormats ⟨0⟩, format.source ≠ service.graph.printerHandle "laser") ∧
        ∃ sink, (service.addPrinter "laser" (laserFormats ⟨0⟩)).1 = .ok sink) ∧
      ¬ ∃ sink, (service.addPrinter "laser" (laserFormats ⟨3⟩)).1 = .ok sink := by
  intro service
  have built : service.graph.Built := (RunningService.reachable_after ⟨true⟩ reloadCalls).built
  have room : service.graph.HasRoom "laser" ((laserFormats ⟨0⟩).map (·.source)) :=
    ⟨fun _ => by decide +kernel, by decide +kernel⟩
  have others : ∀ format ∈ laserFormats ⟨0⟩,
      format.source ≠ service.graph.printerHandle "laser" := by
    decide +kernel
  have valid : ∃ media, MediaType.parse ("printer/" ++ "laser") = .ok media := by
    have parses : (MediaType.parse ("printer/" ++ "laser")).isOk = true := by decide +kernel
    cases parsed : MediaType.parse ("printer/" ++ "laser") with
    | error fault =>
        rw [parsed] at parses
        cases parses
    | ok media => exact ⟨media, rfl⟩
  refine ⟨built, by decide +kernel, ⟨room, others, ?_⟩, fun admitted => ?_⟩
  · exact ((addPrinter_succeeds_iff built "laser" (laserFormats ⟨0⟩)).2.2 room
      fun _ => others).mpr ⟨valid, by decide +kernel⟩
  · have sources := ((addPrinter_succeeds_iff built "laser" (laserFormats ⟨3⟩)).1.mp admitted).2.2
    exact absurd sources (by decide +kernel)

/-- The laser printer is also admitted with the handle of the type that is gone, which names nothing
before.  Then it has a filter from itself to itself. -/
theorem addPrinter_admits_stale :
    let before := ((RunningService.start ⟨true⟩).after (reloadCalls.take 1)).service
    let service := ((RunningService.start ⟨true⟩).after reloadCalls).service
    let after := (service.addPrinter "laser" (laserFormats ⟨2⟩)).2
    before.graph.types.lookup? "application" "vnd.cups-raster" = some ⟨2⟩ ∧
      ¬ ((∃ sink, (service.addPrinter "laser" (laserFormats ⟨2⟩)).1 = .ok sink) ↔
        (∃ media, MediaType.parse ("printer/" ++ "laser") = .ok media) ∧
          ∀ format ∈ laserFormats ⟨2⟩, service.graph.types.contains format.source = true) ∧
      after.graph.filter? ⟨2⟩ = some ⟨⟨2⟩, ⟨2⟩, 0, 0, "othertolaser"⟩ := by
  intro before service after
  have admitted : (service.addPrinter "laser" (laserFormats ⟨2⟩)).1 = .ok ⟨2⟩ := by decide +kernel
  have unknown : ¬ ∀ format ∈ laserFormats ⟨2⟩,
      service.graph.types.contains format.source = true := by
    decide +kernel
  exact ⟨by decide +kernel, fun claimed => unknown (claimed.mp ⟨⟨2⟩, admitted⟩).2,
    by decide +kernel⟩

end PlanningService

end PrintPlanner
