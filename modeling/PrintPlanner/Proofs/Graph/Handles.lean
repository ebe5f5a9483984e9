import PrintPlanner.Proofs.Chain.Execution
import PrintPlanner.Proofs.Graph.Offers

/-!
# Handles of filters over a run

New filters get the handles 0, 1, 2 and so on, and no handle is ever given out twice.  From its
creation to its removal a filter stands under its handle and connects the same two types at a cost
that never rises; afterwards nothing stands there, even if the pair gets a filter again.  All this
is one property of a run that is cut in two at any point (`FilterGraph.HandlesPermanent`), and it
holds of every run (`FilterGraph.handlesPermanent_after`).  A chain that was resolved at the cut
therefore still runs its own filters later, without those that were removed.

What one call does to the slots is said once (`FilterGraph.SlotStep`); the rest follows from it.
-/

set_option autoImplicit false

namespace PrintPlanner

theorem Filter.cost_improve_le (filter : Filter) (cost : UInt32) (limit : Option UInt64)
    (program : String) :
    (filter.improve cost limit program).cost ≤ filter.cost ∧
      (filter.improve cost limit program).cost ≤ cost := by
  unfold improve
  split
  · rename_i cheaper
    exact ⟨UInt32.le_of_lt cheaper, UInt32.le_refl cost⟩
  · rename_i notCheaper
    exact ⟨UInt32.le_refl filter.cost, UInt32.not_lt.mp notCheaper⟩

/-! ## Handles in a log -/

namespace AnsweredEdit

/-- The handle that an offer returned. -/
def given? : AnsweredEdit → Option FilterId
  | (_, .filter result) => result.toOption
  | _ => none

/-- The handle whose filter the call removed. -/
def removed? : AnsweredEdit → Option FilterId
  | (.removeFilter handle, .removed (some _)) => some handle
  | _ => none

/-- The handles given out so far, each where it first appeared, after one more call. -/
def issue (handles : List FilterId) (call : AnsweredEdit) : List FilterId :=
  handles ++ call.given?.toList.filter (· ∉ handles)

theorem issue_of_given?_eq_none {call : AnsweredEdit} (nothing : call.given? = none)
    (handles : List FilterId) : call.issue handles = handles := by
  simp [issue, nothing]

theorem issue_of_mem {call : AnsweredEdit} {handle : FilterId} {handles : List FilterId}
    (given : call.given? = some handle) (known : handle ∈ handles) :
    call.issue handles = handles := by
  simp [issue, given, known]

theorem issue_of_notMem {call : AnsweredEdit} {handle : FilterId} {handles : List FilterId}
    (given : call.given? = some handle) (fresh : handle ∉ handles) :
    call.issue handles = handles ++ [handle] := by
  simp [issue, given, fresh]

end AnsweredEdit

/-- The handles that some calls gave out, in order of creation. -/
def issued (calls : List AnsweredEdit) : List FilterId := calls.foldl AnsweredEdit.issue []

/-- The handles whose filters some calls removed. -/
def removedBy (calls : List AnsweredEdit) : List FilterId :=
  calls.filterMap AnsweredEdit.removed?

theorem removedBy_cons (call : AnsweredEdit) (rest : List AnsweredEdit) :
    removedBy (call :: rest) = call.removed?.toList ++ removedBy rest := by
  unfold removedBy
  cases gone : call.removed? with
  | none => simp [gone]
  | some handle => simp [gone]

namespace FilterGraph

variable {graph before after : FilterGraph} {call : AnsweredEdit} {given gone : List FilterId}

theorem answers_append (graph : FilterGraph) (first second : List GraphEdit) :
    graph.answers (first ++ second) =
      graph.answers first ++ (graph.after first).answers second := by
  induction first generalizing graph with
  | nil => rfl
  | cons edit rest ih => simp [answers, ih]

/-! ## What one call does to the slots -/

/-- A call creates the filter of the next handle, improves a filter, removes one, or leaves all
slots alone. -/
inductive SlotStep (call : AnsweredEdit) (before after : FilterGraph) : Prop where
  | created {handle : FilterId} {filter : Filter}
      (offered : call.given? = some handle) (keeps : call.removed? = none)
      (next : handle.index = before.slots.size)
      (size : after.slots.size = before.slots.size + 1)
      (stored : ∀ other, after.filter? other =
        if other = handle then some filter else before.filter? other)
  | improved {handle : FilterId} {old new : Filter}
      (offered : call.given? = some handle) (keeps : call.removed? = none)
      (live : before.filter? handle = some old)
      (connects : new.endpoints = old.endpoints) (cost : new.cost ≤ old.cost)
      (size : after.slots.size = before.slots.size)
      (stored : ∀ other, after.filter? other =
        if other = handle then some new else before.filter? other)
  | removed {handle : FilterId} {old : Filter}
      (offered : call.given? = none) (takes : call.removed? = some handle)
      (live : before.filter? handle = some old)
      (size : after.slots.size = before.slots.size)
      (stored : ∀ other, after.filter? other =
        if other = handle then none else before.filter? other)
  | unconcerned (offered : call.given? = none) (keeps : call.removed? = none)
      (same : after.slots = before.slots)

theorem filter?_congr (same : after.slots = before.slots) (handle : FilterId) :
    after.filter? handle = before.filter? handle := by
  rw [filter?, filter?, same]

theorem Coherent.slotStep_offerFilter (coherent : graph.Coherent) (source dest : MediaTypeId)
    (cost : UInt32) (limit : Option UInt64) (program : String)
    (offered : call.given? =
      (graph.settle (graph.offerFilter source dest cost limit program)).1.toOption)
    (keeps : call.removed? = none) :
    SlotStep call graph (graph.settle (graph.offerFilter source dest cost limit program)).2 := by
  cases result : graph.offerFilter source dest cost limit program with
  | error error =>
      rw [result] at offered
      exact .unconcerned offered keeps rfl
  | ok success =>
      obtain ⟨handle, changed⟩ := success
      rw [result] at offered
      obtain ⟨_, ⟨filter, live, _, _, rfl⟩ | ⟨_, room, rfl, rfl⟩⟩ :=
        coherent.offerFilter_cases result
      · exact .improved offered keeps live (filter.endpoints_improve cost limit program)
          (filter.cost_improve_le cost limit program).1 Array.size_setIfInBounds
          (filter?_setSlot (index_lt_of_filter? live) _)
      · exact .created offered keeps (FilterId.index_ofIndex room) (Array.size_push _)
          (filter?_pushSlot room _)

theorem slotStep_removeFilter (graph : FilterGraph) (handle : FilterId) :
    SlotStep (.removeFilter handle, .removed (graph.removeFilter handle).1) graph
      (graph.removeFilter handle).2 := by
  have stored := filter?_removeFilter graph handle
  rw [removeFilter_fst]
  cases live : graph.filter? handle with
  | none => exact .unconcerned rfl rfl (by simp [removeFilter, live])
  | some old => exact .removed rfl rfl live (by simp [removeFilter, live]) stored

/-- Registering a type leaves the slots alone. -/
theorem slots_addType {changed : FilterGraph} {superType subType : String} {handle : MediaTypeId}
    (added : graph.addType superType subType = .ok (handle, changed)) :
    changed.slots = graph.slots := by
  obtain ⟨media, _, inserted⟩ := addType_cases added
  obtain ⟨types, _, rfl⟩ := insertType_cases inserted
  rfl

/-- **What one change of a graph does to its slots.** -/
theorem Coherent.slotStep_perform (coherent : graph.Coherent) (edit : GraphEdit) :
    SlotStep (edit, (graph.perform edit).1) graph (graph.perform edit).2 := by
  cases edit with
  | addType superType subType =>
      exact .unconcerned rfl rfl (settle_keeps (motive := fun changed =>
        changed.slots = graph.slots) rfl fun _ _ added => slots_addType added)
  | addSinkType printer =>
      exact .unconcerned rfl rfl (settle_keeps (motive := fun changed =>
        changed.slots = graph.slots) rfl fun _ _ added => slots_addType added)
  | insertType media =>
      refine .unconcerned rfl rfl (settle_keeps (motive := fun changed =>
        changed.slots = graph.slots) rfl fun _ _ inserted => ?_)
      obtain ⟨types, _, rfl⟩ := insertType_cases inserted
      rfl
  | addFilter source dest cost program =>
      exact coherent.slotStep_offerFilter source dest cost none program rfl rfl
  | addLimitedFilter source dest cost maxSize program =>
      exact coherent.slotStep_offerFilter source dest cost (some maxSize) program rfl rfl
  | removeFilter handle => exact graph.slotStep_removeFilter handle
  | query => exact .unconcerned rfl rfl rfl

/-! ## Until its removal a filter stays -/

/-- A filter that the call does not remove stays under its handle, between the same types and at
no higher cost. -/
theorem SlotStep.kept (step : SlotStep call before after) {handle : FilterId} {filter : Filter}
    (live : before.filter? handle = some filter) (stays : call.removed? ≠ some handle) :
    ∃ current, after.filter? handle = some current ∧
      current.endpoints = filter.endpoints ∧ current.cost ≤ filter.cost := by
  have unchanged : after.filter? handle = before.filter? handle →
      ∃ current, after.filter? handle = some current ∧
        current.endpoints = filter.endpoints ∧ current.cost ≤ filter.cost := fun same =>
    ⟨filter, same.trans live, rfl, UInt32.le_refl filter.cost⟩
  cases step with
  | @created other new _ _ next _ stored =>
      have older : handle ≠ other := by
        rintro rfl
        exact Nat.ne_of_lt (index_lt_of_filter? live) next
      exact unchanged (by rw [stored, if_neg older])
  | @improved other old new _ _ liveThere connects cost _ stored =>
      by_cases same : handle = other
      · subst same
        rw [live] at liveThere
        cases liveThere
        exact ⟨new, by rw [stored, if_pos rfl], connects, cost⟩
      · exact unchanged (by rw [stored, if_neg same])
  | @removed other old _ takes _ _ stored =>
      have elsewhere : handle ≠ other := by
        rintro rfl
        exact stays takes
      exact unchanged (by rw [stored, if_neg elsewhere])
  | unconcerned _ _ same => exact unchanged (filter?_congr same handle)

/-- **A filter that no call of a run removes stays,** between the same types and at no higher
cost. -/
theorem Coherent.kept_after (coherent : graph.Coherent) (edits : List GraphEdit)
    {handle : FilterId} {filter : Filter} (live : graph.filter? handle = some filter)
    (stays : handle ∉ removedBy (graph.answers edits)) :
    ∃ current, (graph.after edits).filter? handle = some current ∧
      current.endpoints = filter.endpoints ∧ current.cost ≤ filter.cost := by
  induction edits generalizing graph filter with
  | nil => exact ⟨filter, live, rfl, UInt32.le_refl filter.cost⟩
  | cons edit rest ih =>
      rw [answers, removedBy_cons, List.mem_append, not_or] at stays
      obtain ⟨staysNow, staysLater⟩ := stays
      obtain ⟨next, liveNext, connects, cost⟩ :=
        (coherent.slotStep_perform edit).kept live (by simpa using staysNow)
      obtain ⟨current, liveLater, connectsLater, costLater⟩ :=
        ih (coherent.perform edit) liveNext staysLater
      exact ⟨current, liveLater, connectsLater.trans connects, UInt32.le_trans costLater cost⟩

/-! ## The account of all handles -/

/-- The handles given out and the handles whose filters were removed account for the slots. -/
structure Accounted (graph : FilterGraph) (given gone : List FilterId) : Prop where
  numbered : given.map FilterId.index = List.range graph.slots.size
  live_iff : ∀ handle, (∃ filter, graph.filter? handle = some filter) ↔
    handle ∈ given ∧ handle ∉ gone
  gone_given : ∀ handle ∈ gone, handle ∈ given

theorem Accounted.mem_iff (accounted : graph.Accounted given gone) {handle : FilterId} :
    handle ∈ given ↔ handle.index < graph.slots.size := by
  rw [← List.mem_range, ← accounted.numbered, List.mem_map]
  constructor
  · intro member
    exact ⟨handle, member, rfl⟩
  · rintro ⟨other, member, same⟩
    rwa [← FilterId.index_inj.mp same]

theorem Accounted.length_eq (accounted : graph.Accounted given gone) :
    given.length = graph.slots.size := by
  rw [← List.length_map (f := FilterId.index), accounted.numbered, List.length_range]

theorem accounted_empty : empty.Accounted [] [] where
  numbered := rfl
  live_iff := by
    intro handle
    refine iff_of_false ?_ fun listed => List.not_mem_nil listed.1
    rintro ⟨filter, live⟩
    exact absurd (index_lt_of_filter? live) (Nat.not_lt_zero _)
  gone_given := by simp

/-- A call that leaves alone which slots are filled needs no new account. -/
theorem Accounted.of_same_slots (accounted : before.Accounted given gone)
    (size : after.slots.size = before.slots.size)
    (same : ∀ handle, (∃ filter, after.filter? handle = some filter) ↔
      ∃ filter, before.filter? handle = some filter) : after.Accounted given gone where
  numbered := size ▸ accounted.numbered
  live_iff := fun handle => (same handle).trans (accounted.live_iff handle)
  gone_given := accounted.gone_given

/-- **Every call keeps the account,** with the handles that it gives out or takes back. -/
theorem Accounted.step (accounted : before.Accounted given gone)
    (step : SlotStep call before after) :
    after.Accounted (call.issue given) (gone ++ call.removed?.toList) := by
  cases step with
  | @created handle filter offered keeps next size stored =>
      have fresh : handle ∉ given := fun member =>
        absurd (accounted.mem_iff.mp member) (by rw [next]; exact Nat.lt_irrefl _)
      rw [AnsweredEdit.issue_of_notMem offered fresh, keeps, Option.toList_none, List.append_nil]
      refine ⟨?_, fun other => ?_, fun other member => ?_⟩
      · rw [List.map_append, accounted.numbered, size, List.range_succ, List.map_singleton, next]
      · rw [stored, List.mem_append, List.mem_singleton]
        split
        · rename_i same
          have notGone : other ∉ gone := fun member =>
            fresh (same ▸ accounted.gone_given other member)
          simp [same, same ▸ notGone]
        · rename_i elsewhere
          simp [accounted.live_iff, elsewhere]
      · exact List.mem_append_left _ (accounted.gone_given other member)
  | @improved handle old new offered keeps live _ _ size stored =>
      have known : handle ∈ given := ((accounted.live_iff handle).mp ⟨old, live⟩).1
      rw [AnsweredEdit.issue_of_mem offered known, keeps, Option.toList_none, List.append_nil]
      refine accounted.of_same_slots size fun other => ?_
      rw [stored]
      split
      · rename_i same
        simp [same, live]
      · rfl
  | @removed handle old offered takes live size stored =>
      have known : handle ∈ given := ((accounted.live_iff handle).mp ⟨old, live⟩).1
      rw [AnsweredEdit.issue_of_given?_eq_none offered, takes, Option.toList_some]
      refine ⟨size ▸ accounted.numbered, fun other => ?_, fun other member => ?_⟩
      · rw [stored, List.mem_append, List.mem_singleton]
        split
        · rename_i same
          simp [same]
        · rename_i elsewhere
          simp [accounted.live_iff, elsewhere]
      · rcases List.mem_append.mp member with old | new
        · exact accounted.gone_given other old
        · rwa [List.mem_singleton.mp new]
  | unconcerned offered keeps same =>
      rw [AnsweredEdit.issue_of_given?_eq_none offered, keeps, Option.toList_none,
        List.append_nil]
      refine accounted.of_same_slots (by rw [same]) fun other => ?_
      rw [filter?_congr same]

theorem Coherent.accounted_after (coherent : graph.Coherent)
    (accounted : graph.Accounted given gone) (edits : List GraphEdit) :
    (graph.after edits).Accounted ((graph.answers edits).foldl AnsweredEdit.issue given)
      (gone ++ removedBy (graph.answers edits)) := by
  induction edits generalizing graph given gone with
  | nil => simpa [answers, removedBy] using accounted
  | cons edit rest ih =>
      rw [answers, removedBy_cons, ← List.append_assoc]
      exact ih (coherent.perform edit) (accounted.step (coherent.slotStep_perform edit))

/-- **After every run the handles given out are 0, 1, 2 and so on, and a handle has a filter
exactly if it was given out and its filter was not removed.** -/
theorem accounted_issued (edits : List GraphEdit) :
    (empty.after edits).Accounted (issued (empty.answers edits))
      (removedBy (empty.answers edits)) := by
  have accounted := coherent_empty.accounted_after accounted_empty edits
  rwa [List.nil_append] at accounted

/-- No offer returns a handle whose filter was removed. -/
theorem Accounted.given?_ne (accounted : before.Accounted given gone)
    (step : SlotStep call before after) {handle : FilterId} (removed : handle ∈ gone) :
    call.given? ≠ some handle := by
  intro offeredAgain
  cases step with
  | created offered _ next _ _ =>
      rw [offered] at offeredAgain
      cases offeredAgain
      have below := accounted.mem_iff.mp (accounted.gone_given handle removed)
      exact Nat.ne_of_lt below next
  | improved offered _ live _ _ _ _ =>
      rw [offered] at offeredAgain
      cases offeredAgain
      exact ((accounted.live_iff handle).mp ⟨_, live⟩).2 removed
  | removed offered _ _ _ _ => simp [offered] at offeredAgain
  | unconcerned offered _ _ => simp [offered] at offeredAgain

/-! ## Offers -/

/-- A call that offered a filter for a pair is a successful offer to the graph. -/
theorem offerFilter_of_offer? {ends : Endpoints} {edit : GraphEdit} {offer : Offer}
    (offered : AnsweredEdit.offer? ends (edit, (graph.perform edit).1) = some offer) :
    graph.offerFilter ends.source ends.dest offer.cost offer.limit offer.program =
      .ok (offer.handle, (graph.perform edit).2) := by
  have settled : ∀ (source dest : MediaTypeId) (cost : UInt32) (limit : Option UInt64)
      (program : String), (if Endpoints.mk source dest = ends then
        (graph.settle (graph.offerFilter source dest cost limit program)).1.toOption.map
          (Offer.mk cost limit program) else none) = some offer →
      graph.offerFilter ends.source ends.dest offer.cost offer.limit offer.program = .ok
        (offer.handle, (graph.settle (graph.offerFilter source dest cost limit program)).2) := by
    intro source dest cost limit program made
    split at made
    · rename_i same
      subst same
      obtain ⟨handle, returned, rfl⟩ := Option.map_eq_some_iff.mp made
      cases result : graph.offerFilter source dest cost limit program with
      | error error =>
          rw [result] at returned
          cases returned
      | ok success =>
          rw [result] at returned
          cases returned
          rfl
    · cases made
  cases edit with
  | addFilter source dest cost program => exact settled source dest cost none program offered
  | addLimitedFilter source dest cost maxSize program =>
      exact settled source dest cost (some maxSize) program offered
  | _ => cases offered

/-- An offer gets the next number exactly if its pair has no filter.  Its handle then has a filter
of the pair, at no higher cost than was offered. -/
theorem Coherent.offered_handle {changed : FilterGraph} (coherent : graph.Coherent)
    {ends : Endpoints} {cost : UInt32} {limit : Option UInt64} {program : String}
    {handle : FilterId}
    (offered : graph.offerFilter ends.source ends.dest cost limit program =
      .ok (handle, changed)) :
    (handle.index = graph.slots.size ↔ graph.pairFilter? ends = none) ∧
      ∃ filter, changed.filter? handle = some filter ∧ filter.endpoints = ends ∧
        filter.cost ≤ cost := by
  obtain ⟨_, ⟨old, live, source, dest, rfl⟩ | ⟨absent, room, rfl, rfl⟩⟩ :=
    coherent.offerFilter_cases offered
  · have connects : old.endpoints = ends := Filter.endpoints_eq_iff.mpr ⟨source, dest⟩
    have stored := coherent.pairFilter?_eq_some_iff.mpr ⟨live, connects⟩
    have below := index_lt_of_filter? live
    refine ⟨iff_of_false (Nat.ne_of_lt below) (by simp [stored]), _, ?_,
      (old.endpoints_improve cost limit program).trans connects,
      (old.cost_improve_le cost limit program).2⟩
    rw [filter?_setSlot below, if_pos rfl]
  · refine ⟨iff_of_true (FilterId.index_ofIndex room) (by simp [pairFilter?, absent]),
      ⟨ends.source, ends.dest, cost, limit.getD 0, program⟩, ?_, rfl, UInt32.le_refl cost⟩
    rw [filter?_pushSlot room, if_pos rfl]

/-! ## Chains of an earlier graph -/

/-- The program is that of the filter which stands under the handle now and stood there earlier,
between the same types. -/
def Runs (earlier graph : FilterGraph) (handle : FilterId) (program : String) : Prop :=
  ∃ former current, earlier.filter? handle = some former ∧ graph.filter? handle = some current ∧
    current.endpoints = former.endpoints ∧ program = current.program

theorem Walk.exists_filter {size : UInt64} {source dest : MediaTypeId} {handles : List FilterId}
    (walk : graph.Walk size source handles dest) :
    ∀ handle ∈ handles, ∃ filter, graph.filter? handle = some filter := by
  induction walk with
  | nil => simp
  | @cons handle filter rest dest live _ _ ih =>
      intro other member
      rcases List.mem_cons.mp member with rfl | later
      · exact ⟨filter, live⟩
      · exact ih other later

/-- Where some filters are kept and the others are gone, the programs of all are the programs of
those kept, in the same order. -/
theorem forall₂_runs {earlier : FilterGraph} {handles : List FilterId}
    (live : ∀ handle ∈ handles, ∃ filter, earlier.filter? handle = some filter)
    (removed : ∀ handle ∈ gone, graph.filter? handle = none)
    (kept : ∀ handle filter, earlier.filter? handle = some filter → handle ∉ gone →
      ∃ current, graph.filter? handle = some current ∧ current.endpoints = filter.endpoints) :
    List.Forall₂ (Runs earlier graph) (handles.filter (· ∉ gone))
      (handles.filterMap fun handle => (graph.filter? handle).map Filter.program) := by
  induction handles with
  | nil => exact .nil
  | cons handle rest ih =>
      have later := ih fun other member => live other (List.mem_cons_of_mem handle member)
      by_cases lost : handle ∈ gone
      · rw [List.filter_cons_of_neg (by simpa using lost),
          List.filterMap_cons_none (by rw [removed handle lost, Option.map_none])]
        exact later
      · obtain ⟨former, stood⟩ := live handle List.mem_cons_self
        obtain ⟨current, stands, connects⟩ := kept handle former stood lost
        rw [List.filter_cons_of_pos (by simpa using lost),
          List.filterMap_cons_some (by rw [stands, Option.map_some])]
        exact .cons ⟨former, current, stood, stands, connects, rfl⟩ later

/-! ## A run that is cut in two -/

/-- What handles mean in a run, with the calls up to some point of it and the calls since. -/
structure HandlesPermanent (past since : List AnsweredEdit) (earlier graph : FilterGraph) :
    Prop where
  /-- Handles are given out in the order of their numbers, from zero, and never wrap. -/
  numbered : (issued past).map FilterId.index = List.range (issued past).length
  /-- An offer gets the next number exactly if its pair has no filter, whether or not it had one
  before.  Its handle then has a filter of the pair. -/
  offered : ∀ ends edit offer,
    AnsweredEdit.offer? ends (edit, (earlier.perform edit).1) = some offer →
      (offer.handle.index = (issued past).length ↔ earlier.pairFilter? ends = none) ∧
        ∃ filter, (earlier.perform edit).2.filter? offer.handle = some filter ∧
          filter.endpoints = ends ∧ filter.cost ≤ offer.cost
  /-- A handle has a filter from the time when it is given out until the filter is removed. -/
  live_iff : ∀ handle, (∃ filter, earlier.filter? handle = some filter) ↔
    handle ∈ issued past ∧ handle ∉ removedBy past
  /-- Once its filter is removed, a handle stays empty, and no offer ever returns it. -/
  removed : ∀ handle ∈ removedBy past, earlier.filter? handle = none ∧
    (earlier.removeFilter handle).1 = none ∧
    ∀ edit, AnsweredEdit.given? (edit, (earlier.perform edit).1) ≠ some handle
  /-- As long as it is not removed, a filter connects the same types and gets no dearer. -/
  kept : ∀ handle filter, earlier.filter? handle = some filter → handle ∉ removedBy since →
    ∃ current, graph.filter? handle = some current ∧ current.endpoints = filter.endpoints ∧
      current.cost ≤ filter.cost
  /-- A chain from then runs what its filters have become, without those removed since. -/
  programs : ∀ source size dest mode chain,
    earlier.resolveChain source size dest mode = .ok (some chain) →
      List.Forall₂ (Runs earlier graph) (chain.filters.filter (· ∉ removedBy since))
        (chain.programs graph)

/-- **Handles are permanent in every run,** wherever it is cut. -/
theorem handlesPermanent_after (edits later : List GraphEdit) :
    HandlesPermanent (empty.answers edits) ((empty.after edits).answers later)
      (empty.after edits) ((empty.after edits).after later) := by
  have reachable : (empty.after edits).Reachable := ⟨edits, rfl⟩
  have coherent := reachable.coherent
  have accounted := accounted_issued edits
  refine ⟨?_, ?_, accounted.live_iff, ?_,
    fun _ _ live stays => coherent.kept_after later live stays, ?_⟩
  · rw [accounted.length_eq, accounted.numbered]
  · intro ends edit offer offered
    rw [accounted.length_eq]
    exact coherent.offered_handle (offerFilter_of_offer? offered)
  · intro handle removed
    have empty : (empty.after edits).filter? handle = none := by
      rw [Option.eq_none_iff_forall_ne_some]
      exact fun filter live => ((accounted.live_iff handle).mp ⟨filter, live⟩).2 removed
    exact ⟨empty, by rw [removeFilter_fst, empty],
      fun edit => accounted.given?_ne (coherent.slotStep_perform edit) removed⟩
  · intro _ _ _ _ chain resolved
    have walk := (coherent.executable_of_resolveChain resolved).walk
    have whole := accounted_issued (edits ++ later)
    rw [after_append, answers_append] at whole
    refine forall₂_runs walk.exists_filter (fun handle removed => ?_)
      fun handle filter live stays => ?_
    · rw [Option.eq_none_iff_forall_ne_some]
      intro filter live
      refine ((whole.live_iff handle).mp ⟨filter, live⟩).2 ?_
      rw [removedBy, List.filterMap_append]
      exact List.mem_append_right _ removed
    · obtain ⟨current, stands, connects, _⟩ := coherent.kept_after later live stays
      exact ⟨current, stands, connects⟩

/-- A chain from text to the printer goes through PDF. -/
def officeEdits : List GraphEdit := [
  .addType "text" "plain", .addType "application" "pdf", .addSinkType "office",
  .addFilter ⟨0⟩ ⟨1⟩ 3 "texttopdf", .addFilter ⟨1⟩ ⟨2⟩ 2 "pdftoprinter"]

/-- The first filter is removed and its pair gets another one, and the second filter is improved. -/
def renewalEdits : List GraphEdit := [
  .removeFilter ⟨0⟩, .query, .addFilter ⟨0⟩ ⟨1⟩ 1 "paps", .addLimitedFilter ⟨1⟩ ⟨2⟩ 1 9 "gs",
  .removeFilter ⟨0⟩]

/-- The old chain runs its improved second filter only.  The new filter of its first pair has the
handle 2. -/
theorem programs_renewal :
    (empty.after officeEdits).resolveChain ⟨0⟩ 0 ⟨2⟩ .cheapest = .ok (some ⟨[⟨0⟩, ⟨1⟩], 5⟩) ∧
      removedBy ((empty.after officeEdits).answers renewalEdits) = [⟨0⟩] ∧
      issued (empty.answers (officeEdits ++ renewalEdits)) = [⟨0⟩, ⟨1⟩, ⟨2⟩] ∧
      (FilterChain.mk [⟨0⟩, ⟨1⟩] 5).programs ((empty.after officeEdits).after renewalEdits) =
        ["gs"] ∧
      List.Forall₂ (Runs (empty.after officeEdits) ((empty.after officeEdits).after renewalEdits))
        [⟨1⟩] ["gs"] := by
  have resolved : (empty.after officeEdits).resolveChain ⟨0⟩ 0 ⟨2⟩ .cheapest =
      .ok (some ⟨[⟨0⟩, ⟨1⟩], 5⟩) := by
    decide +kernel
  have removed : removedBy ((empty.after officeEdits).answers renewalEdits) = [⟨0⟩] := by
    decide +kernel
  have programs : (FilterChain.mk [⟨0⟩, ⟨1⟩] 5).programs
      ((empty.after officeEdits).after renewalEdits) = ["gs"] := by
    decide +kernel
  have runs := (handlesPermanent_after officeEdits renewalEdits).programs _ _ _ _ _ resolved
  rw [removed, programs] at runs
  exact ⟨resolved, removed, by decide +kernel, programs, runs⟩

end FilterGraph

end PrintPlanner
