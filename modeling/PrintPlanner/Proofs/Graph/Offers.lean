import PrintPlanner.Proofs.Graph.Coherence

/-!
# The filter of a pair and the offers for it

Whatever else happens to a graph, the filter of a pair of types is settled by the successful
offers for that pair since its filter was last removed
(`FilterGraph.directFilter?_settled_by_offers`).  Cost, program and size limit follow three rules
(`Settles`): the least cost counts, the program is the first at that cost, and the limit is the
last one stated with an offer that improved the filter.
-/

set_option autoImplicit false

namespace PrintPlanner

/-- A successful offer of a filter for some pair of types. -/
structure Offer where
  cost : UInt32
  /-- The size limit, if the offer states one. -/
  limit : Option UInt64
  program : String
  /-- The handle that was returned. -/
  handle : FilterId
deriving DecidableEq

/-- A change of a graph with its answer. -/
abbrev AnsweredEdit := GraphEdit × EditAnswer

namespace AnsweredEdit

/-- The offer for the pair, if the call was a successful one. -/
def offer? (ends : Endpoints) : AnsweredEdit → Option Offer
  | (.addFilter source dest cost program, .filter result) =>
      if ⟨source, dest⟩ = ends then result.toOption.map (⟨cost, none, program, ·⟩) else none
  | (.addLimitedFilter source dest cost maxSize program, .filter result) =>
      if ⟨source, dest⟩ = ends then result.toOption.map (⟨cost, some maxSize, program, ·⟩)
      else none
  | _ => none

/-- Whether the call removed the filter of the pair. -/
def removes (ends : Endpoints) : AnsweredEdit → Bool
  | (_, .removed (some filter)) => filter.endpoints = ends
  | _ => false

/-- The offers for the pair since its filter was last removed, after one more call. -/
def record (ends : Endpoints) (offers : List Offer) (call : AnsweredEdit) : List Offer :=
  if call.removes ends then [] else offers ++ (call.offer? ends).toList

end AnsweredEdit

/-- The offers for the pair since its filter was last removed. -/
def offersFor (ends : Endpoints) (calls : List AnsweredEdit) : List Offer :=
  calls.foldl (AnsweredEdit.record ends) []

/-! ## What some offers amount to -/

/-- The offers that are cheaper than all before them, where some came before the list. -/
def improvementsAfter (earlier : List Offer) : List Offer → List Offer
  | [] => []
  | offer :: rest =>
      (if ∀ former ∈ earlier, offer.cost < former.cost then [offer] else []) ++
        improvementsAfter (earlier ++ [offer]) rest

/-- The offers that created the filter or lowered its cost: the first one, and every one that is
cheaper than all before it. -/
def improvements (offers : List Offer) : List Offer := improvementsAfter [] offers

theorem improvementsAfter_append_single (earlier offers : List Offer) (latest : Offer) :
    improvementsAfter earlier (offers ++ [latest]) =
      improvementsAfter earlier offers ++
        if ∀ former ∈ earlier ++ offers, latest.cost < former.cost then [latest] else [] := by
  induction offers generalizing earlier with
  | nil => simp [improvementsAfter]
  | cons offer rest ih =>
      rw [List.cons_append, improvementsAfter, ih, improvementsAfter, List.append_assoc earlier,
        List.singleton_append, List.append_assoc]

theorem improvements_append_single (offers : List Offer) (latest : Offer) :
    improvements (offers ++ [latest]) =
      improvements offers ++
        if ∀ former ∈ offers, latest.cost < former.cost then [latest] else [] :=
  improvementsAfter_append_single [] offers latest

/-- The filter is what the offers for a pair amount to. -/
structure Settles (ends : Endpoints) (offers : List Offer) (filter : Filter) : Prop where
  connects : filter.endpoints = ends
  least : ∀ offer ∈ offers, filter.cost ≤ offer.cost
  earliest : (offers.find? (·.cost = filter.cost)).map Offer.program = some filter.program
  limit : filter.maxSize = ((improvements offers).filterMap Offer.limit).getLast?.getD 0

section Settles

variable {ends : Endpoints} {offers : List Offer} {filter : Filter}

/-- The cost was offered. -/
theorem Settles.exists_cost_eq (settles : Settles ends offers filter) :
    ∃ offer ∈ offers, offer.cost = filter.cost := by
  obtain ⟨offer, found, _⟩ := Option.map_eq_some_iff.mp settles.earliest
  exact ⟨offer, List.mem_of_find?_eq_some found, by simpa using List.find?_some found⟩

/-- The offers leave no choice. -/
theorem Settles.unique {other : Filter} (settles : Settles ends offers filter)
    (otherSettles : Settles ends offers other) : filter = other := by
  obtain ⟨offer, member, offered⟩ := settles.exists_cost_eq
  obtain ⟨otherOffer, otherMember, otherOffered⟩ := otherSettles.exists_cost_eq
  have cost : filter.cost = other.cost :=
    UInt32.le_antisymm (otherOffered ▸ settles.least otherOffer otherMember)
      (offered ▸ otherSettles.least offer member)
  have program : filter.program = other.program := by
    have earliest := settles.earliest
    rw [cost, otherSettles.earliest] at earliest
    exact (Option.some_inj.mp earliest).symm
  have limit : filter.maxSize = other.maxSize := settles.limit.trans otherSettles.limit.symm
  obtain ⟨source, dest⟩ := Filter.endpoints_eq_iff.mp settles.connects
  obtain ⟨otherSource, otherDest⟩ := Filter.endpoints_eq_iff.mp otherSettles.connects
  cases filter
  cases other
  rw [Filter.mk.injEq]
  exact ⟨source.trans otherSource.symm, dest.trans otherDest.symm, cost, limit, program⟩

/-- The first offer settles the filter that it creates. -/
theorem Settles.create (source dest : MediaTypeId) (offer : Offer) :
    Settles ⟨source, dest⟩ [offer]
      ⟨source, dest, offer.cost, offer.limit.getD 0, offer.program⟩ where
  connects := rfl
  least := by simp
  earliest := by simp
  limit := by
    cases stated : offer.limit with
    | none => simp [improvements, improvementsAfter, stated]
    | some limit => simp [improvements, improvementsAfter, stated]

/-- A cheaper offer takes over the cost and the program, and the limit if it states one. -/
theorem Settles.append_of_lt (settles : Settles ends offers filter) {offer : Offer}
    (cheaper : offer.cost < filter.cost) :
    Settles ends (offers ++ [offer])
      { filter with
        cost := offer.cost
        program := offer.program
        maxSize := offer.limit.getD filter.maxSize } := by
  have cheapest : ∀ former ∈ offers, offer.cost < former.cost := fun former member =>
    UInt32.lt_of_lt_of_le cheaper (settles.least former member)
  refine ⟨settles.connects, ?_, ?_, ?_⟩
  · intro former member
    rcases List.mem_append.mp member with old | latest
    · exact UInt32.le_of_lt (cheapest former old)
    · rw [List.mem_singleton.mp latest]
      exact UInt32.le_refl _
  · have dearer : offers.find? (·.cost = offer.cost) = none := by
      rw [List.find?_eq_none]
      intro former member same
      exact UInt32.ne_of_lt (cheapest former member) (of_decide_eq_true same).symm
    simp [List.find?_append, dearer]
  · rw [improvements_append_single, if_pos cheapest, List.filterMap_append]
    cases stated : offer.limit with
    | none => simpa [stated] using settles.limit
    | some limit => simp [stated]

/-- Any other offer has no effect. -/
theorem Settles.append_of_not_lt (settles : Settles ends offers filter) {offer : Offer}
    (notCheaper : ¬ offer.cost < filter.cost) : Settles ends (offers ++ [offer]) filter := by
  obtain ⟨first, found, program⟩ := Option.map_eq_some_iff.mp settles.earliest
  refine ⟨settles.connects, ?_, ?_, ?_⟩
  · intro former member
    rcases List.mem_append.mp member with old | latest
    · exact settles.least former old
    · rw [List.mem_singleton.mp latest]
      exact UInt32.not_lt.mp notCheaper
  · rw [List.find?_append, found]
    exact congrArg some program
  · obtain ⟨cheapest, member, attained⟩ := settles.exists_cost_eq
    have noImprovement : ¬ ∀ former ∈ offers, offer.cost < former.cost := fun cheaper =>
      notCheaper (attained ▸ cheaper cheapest member)
    rw [improvements_append_single, if_neg noImprovement, List.append_nil]
    exact settles.limit

/-- The filter improved by a further offer is settled by all offers with that one. -/
theorem Settles.improve (settles : Settles ends offers filter) (offer : Offer) :
    Settles ends (offers ++ [offer])
      (filter.improve offer.cost offer.limit offer.program) := by
  unfold Filter.improve
  split
  · rename_i cheaper
    exact settles.append_of_lt cheaper
  · rename_i notCheaper
    exact settles.append_of_not_lt notCheaper

end Settles

/-- The filter of a pair with its handle, if there is one, is what the offers amount to. -/
inductive Tracks (ends : Endpoints) : List Offer → Option (FilterId × Filter) → Prop where
  | missing : Tracks ends [] none
  | stored {offers : List Offer} {handle : FilterId} {filter : Filter}
      (sameHandle : ∀ offer ∈ offers, offer.handle = handle)
      (settles : Settles ends offers filter) : Tracks ends offers (some (handle, filter))

section Tracks

variable {ends : Endpoints} {offers : List Offer} {entry : Option (FilterId × Filter)}

theorem Tracks.eq_none_iff (tracks : Tracks ends offers entry) : entry = none ↔ offers = [] := by
  cases tracks with
  | missing => exact iff_of_true rfl rfl
  | stored _ settles =>
      obtain ⟨offer, member, _⟩ := settles.exists_cost_eq
      exact iff_of_false (by simp) (List.ne_nil_of_mem member)

theorem Tracks.exists_settled (tracks : Tracks ends offers entry) (offered : offers ≠ []) :
    ∃ handle filter, entry = some (handle, filter) ∧
      (∀ offer ∈ offers, offer.handle = handle) ∧ Settles ends offers filter := by
  cases tracks with
  | missing => exact absurd rfl offered
  | stored sameHandle settles => exact ⟨_, _, rfl, sameHandle, settles⟩

/-- The offers for a pair determine its filter and the handle. -/
theorem Tracks.unique {other : Option (FilterId × Filter)} (tracks : Tracks ends offers entry)
    (otherTracks : Tracks ends offers other) : entry = other := by
  cases tracks with
  | missing => exact (otherTracks.eq_none_iff.mpr rfl).symm
  | stored sameHandle settles =>
      obtain ⟨offer, member, _⟩ := settles.exists_cost_eq
      obtain ⟨handle, filter, rfl, otherHandle, otherSettles⟩ :=
        otherTracks.exists_settled (List.ne_nil_of_mem member)
      rw [settles.unique otherSettles, ← sameHandle offer member, otherHandle offer member]

end Tracks

/-- What a call does to the filter of a pair: it removes, creates or improves it, or else does not
concern it. -/
inductive PairStep (ends : Endpoints) (call : AnsweredEdit) :
    Option (FilterId × Filter) → Option (FilterId × Filter) → Prop where
  | removed {before : Option (FilterId × Filter)} (removes : call.removes ends = true) :
      PairStep ends call before none
  | created {offer : Offer} (offered : call.offer? ends = some offer) :
      PairStep ends call none (some (offer.handle,
        ⟨ends.source, ends.dest, offer.cost, offer.limit.getD 0, offer.program⟩))
  | improved {offer : Offer} {filter : Filter} (offered : call.offer? ends = some offer) :
      PairStep ends call (some (offer.handle, filter))
        (some (offer.handle, filter.improve offer.cost offer.limit offer.program))
  | unconcerned {entry : Option (FilterId × Filter)} (noOffer : call.offer? ends = none)
      (keeps : call.removes ends = false) : PairStep ends call entry entry

section Steps

variable {ends : Endpoints} {call : AnsweredEdit} {before after : Option (FilterId × Filter)}

/-- A call that is an offer removes nothing. -/
theorem AnsweredEdit.removes_of_offer? {offer : Offer}
    (offered : call.offer? ends = some offer) : call.removes ends = false := by
  unfold offer? at offered
  split at offered
  · rfl
  · rfl
  · cases offered

/-- A call that neither offers nor removes the filter of the pair has no effect on it. -/
theorem PairStep.eq_of_unconcerned (step : PairStep ends call before after)
    (noOffer : call.offer? ends = none) (keeps : call.removes ends = false) : after = before := by
  cases step with
  | removed removes => simp [keeps] at removes
  | created offered => simp [noOffer] at offered
  | improved offered => simp [noOffer] at offered
  | unconcerned => rfl

/-- Recording a call keeps track of the filter. -/
theorem Tracks.step {offers : List Offer} (tracks : Tracks ends offers before)
    (step : PairStep ends call before after) : Tracks ends (call.record ends offers) after := by
  cases step with
  | removed removes =>
      rw [AnsweredEdit.record, if_pos removes]
      exact .missing
  | @created offer offered =>
      cases tracks
      simp only [AnsweredEdit.record, AnsweredEdit.removes_of_offer? offered, offered]
      exact .stored (by simp) (.create ends.source ends.dest offer)
  | @improved offer filter offered =>
      cases tracks with
      | stored sameHandle settles =>
          simp only [AnsweredEdit.record, AnsweredEdit.removes_of_offer? offered, offered]
          refine .stored ?_ (settles.improve offer)
          intro other member
          rcases List.mem_append.mp member with old | latest
          · exact sameHandle other old
          · rw [List.mem_singleton.mp latest]
  | unconcerned noOffer keeps =>
      simpa [AnsweredEdit.record, noOffer, keeps] using tracks

end Steps

namespace FilterGraph

variable {graph : FilterGraph} {ends : Endpoints} {offers : List Offer}

/-- The filter of a pair with its handle. -/
def pairFilter? (graph : FilterGraph) (ends : Endpoints) : Option (FilterId × Filter) :=
  (graph.lookupDirect? ends.source ends.dest).bind fun handle =>
    (graph.filter? handle).map fun filter => (handle, filter)

theorem directFilter?_eq_pairFilter? (graph : FilterGraph) (source dest : MediaTypeId) :
    graph.directFilter? source dest = (graph.pairFilter? ⟨source, dest⟩).map Prod.snd := by
  rw [directFilter?, pairFilter?]
  cases graph.lookupDirect? source dest with
  | none => rfl
  | some handle =>
      show graph.filter? handle = ((graph.filter? handle).map fun filter => (handle, filter)).map _
      rw [Option.map_map]
      exact Option.map_id'.symm

/-- In a coherent graph the filter of a pair is the live one that connects it. -/
theorem Coherent.pairFilter?_eq_some_iff (coherent : graph.Coherent) {handle : FilterId}
    {filter : Filter} :
    graph.pairFilter? ends = some (handle, filter) ↔
      graph.filter? handle = some filter ∧ filter.endpoints = ends := by
  simp only [pairFilter?, Option.bind_eq_some_iff, Option.map_eq_some_iff, Prod.mk.injEq]
  constructor
  · rintro ⟨other, pair, stored, live, rfl, rfl⟩
    obtain ⟨filter, same, source, dest⟩ := coherent.lookupDirect?_eq_some_iff.mp pair
    rw [live] at same
    cases same
    exact ⟨live, Filter.endpoints_eq_iff.mpr ⟨source, dest⟩⟩
  · rintro ⟨live, connects⟩
    obtain ⟨source, dest⟩ := Filter.endpoints_eq_iff.mp connects
    exact ⟨handle, coherent.lookupDirect?_eq_some_iff.mpr ⟨filter, live, source, dest⟩,
      filter, live, rfl, rfl⟩

theorem Coherent.lookupDirect?_eq_pairFilter? (coherent : graph.Coherent)
    (source dest : MediaTypeId) :
    graph.lookupDirect? source dest = (graph.pairFilter? ⟨source, dest⟩).map Prod.fst := by
  cases pair : graph.lookupDirect? source dest with
  | none => simp [pairFilter?, pair]
  | some handle =>
      obtain ⟨filter, live, _⟩ := coherent.lookupDirect?_eq_some_iff.mp pair
      simp [pairFilter?, pair, live]

/-- Two graphs have the same filter for a pair if they agree on the live filters that connect
it. -/
theorem Coherent.pairFilter?_congr {changed : FilterGraph} (coherent : graph.Coherent)
    (changedCoherent : changed.Coherent)
    (same : ∀ handle filter, filter.endpoints = ends →
      (changed.filter? handle = some filter ↔ graph.filter? handle = some filter)) :
    changed.pairFilter? ends = graph.pairFilter? ends := by
  apply Option.ext
  rintro ⟨handle, filter⟩
  rw [changedCoherent.pairFilter?_eq_some_iff, coherent.pairFilter?_eq_some_iff]
  exact and_congr_left (same handle filter)

/-! ## One change -/

/-- An offer for another pair leaves the filter of the pair alone. -/
theorem Coherent.pairFilter?_offerFilter_of_ne {changed : FilterGraph} (coherent : graph.Coherent)
    {source dest : MediaTypeId} {cost : UInt32} {limit : Option UInt64} {program : String}
    {handle : FilterId}
    (offered : graph.offerFilter source dest cost limit program = .ok (handle, changed))
    (other : Endpoints.mk source dest ≠ ends) :
    changed.pairFilter? ends = graph.pairFilter? ends := by
  refine coherent.pairFilter?_congr (coherent.offerFilter offered) fun place filter connects => ?_
  obtain ⟨_, ⟨old, live, start, finish, rfl⟩ | ⟨_, room, _, rfl⟩⟩ :=
    coherent.offerFilter_cases offered
  · have oldEnds : old.endpoints ≠ ends := by
      rwa [Filter.endpoints, start, finish]
    rw [filter?_setSlot (index_lt_of_filter? live)]
    split
    · rename_i here
      subst here
      rw [live, Option.some_inj, Option.some_inj]
      refine ⟨?_, ?_⟩
      · rintro rfl
        exact absurd (old.endpoints_improve cost limit program ▸ connects) oldEnds
      · rintro rfl
        exact absurd connects oldEnds
    · rfl
  · rw [filter?_pushSlot room]
    split
    · rename_i last
      have unused : graph.filter? place = none := by
        simp [filter?, last, FilterId.index_ofIndex room]
      rw [unused, Option.some_inj]
      refine ⟨?_, fun found => by cases found⟩
      rintro rfl
      exact absurd connects other
    · rfl

/-- A successful offer for a pair creates or improves its filter. -/
theorem Coherent.pairFilter?_offerFilter {changed : FilterGraph} (coherent : graph.Coherent)
    {source dest : MediaTypeId} {cost : UInt32} {limit : Option UInt64} {program : String}
    {handle : FilterId}
    (offered : graph.offerFilter source dest cost limit program = .ok (handle, changed)) :
    (graph.pairFilter? ⟨source, dest⟩ = none ∧
        changed.pairFilter? ⟨source, dest⟩ =
          some (handle, ⟨source, dest, cost, limit.getD 0, program⟩)) ∨
      ∃ filter, graph.pairFilter? ⟨source, dest⟩ = some (handle, filter) ∧
        changed.pairFilter? ⟨source, dest⟩ = some (handle, filter.improve cost limit program) := by
  have after := coherent.offerFilter offered
  obtain ⟨_, ⟨filter, live, start, finish, rfl⟩ | ⟨absent, room, rfl, rfl⟩⟩ :=
    coherent.offerFilter_cases offered
  · have connects : filter.endpoints = ⟨source, dest⟩ :=
      Filter.endpoints_eq_iff.mpr ⟨start, finish⟩
    refine .inr ⟨filter, coherent.pairFilter?_eq_some_iff.mpr ⟨live, connects⟩,
      after.pairFilter?_eq_some_iff.mpr ⟨?_, ?_⟩⟩
    · rw [filter?_setSlot (index_lt_of_filter? live), if_pos rfl]
    · rw [Filter.endpoints_improve, connects]
  · refine .inl ⟨by simp [pairFilter?, absent], after.pairFilter?_eq_some_iff.mpr ⟨?_, rfl⟩⟩
    rw [filter?_pushSlot room, if_pos rfl]

/-- Removing the filter of another pair, or nothing, leaves the filter of the pair alone. -/
theorem Coherent.pairFilter?_removeFilter_of_ne (coherent : graph.Coherent) {handle : FilterId}
    (other : ∀ filter, graph.filter? handle = some filter → filter.endpoints ≠ ends) :
    (graph.removeFilter handle).2.pairFilter? ends = graph.pairFilter? ends := by
  refine coherent.pairFilter?_congr (coherent.removeFilter handle) fun place filter connects => ?_
  rw [filter?_removeFilter]
  split
  · rename_i here
    refine iff_of_false (by simp) fun live => ?_
    exact other filter (here ▸ live) connects
  · rfl

/-- Removing the filter of the pair leaves the pair without one. -/
theorem Coherent.pairFilter?_removeFilter (coherent : graph.Coherent) {handle : FilterId}
    {filter : Filter} (live : graph.filter? handle = some filter)
    (connects : filter.endpoints = ends) :
    (graph.removeFilter handle).2.pairFilter? ends = none := by
  have stored : graph.pairFilter? ends = some (handle, filter) :=
    coherent.pairFilter?_eq_some_iff.mpr ⟨live, connects⟩
  rw [Option.eq_none_iff_forall_ne_some]
  rintro ⟨place, left⟩ found
  obtain ⟨kept, leftConnects⟩ :=
    (coherent.removeFilter handle).pairFilter?_eq_some_iff.mp found
  rw [filter?_removeFilter] at kept
  split at kept
  · cases kept
  · rename_i elsewhere
    have same := stored.symm.trans (coherent.pairFilter?_eq_some_iff.mpr ⟨kept, leftConnects⟩)
    cases same
    exact elsewhere rfl

/-- What an offer for some pair does to the filter of a given pair. -/
theorem Coherent.pairStep_offerFilter (coherent : graph.Coherent) {call : AnsweredEdit}
    (source dest : MediaTypeId) (cost : UInt32) (limit : Option UInt64) (program : String)
    (offers : call.offer? ends = if ⟨source, dest⟩ = ends then
      (graph.settle (graph.offerFilter source dest cost limit program)).1.toOption.map
        (⟨cost, limit, program, ·⟩) else none)
    (keeps : call.removes ends = false) :
    PairStep ends call (graph.pairFilter? ends)
      ((graph.settle (graph.offerFilter source dest cost limit program)).2.pairFilter? ends) := by
  cases offered : graph.offerFilter source dest cost limit program with
  | error error =>
      rw [offered] at offers
      exact .unconcerned (by simpa [settle, Except.toOption] using offers) keeps
  | ok success =>
      obtain ⟨handle, changed⟩ := success
      rw [offered] at offers
      by_cases same : Endpoints.mk source dest = ends
      · subst same
        have made : call.offer? ⟨source, dest⟩ = some ⟨cost, limit, program, handle⟩ := by
          simpa [settle, Except.toOption] using offers
        rcases coherent.pairFilter?_offerFilter offered with
          ⟨before, after⟩ | ⟨filter, before, after⟩
        · rw [before, settle, after]
          exact .created made
        · rw [before, settle, after]
          exact .improved made
      · rw [settle, coherent.pairFilter?_offerFilter_of_ne offered same]
        exact .unconcerned (by simpa [same] using offers) keeps

/-- Registering a type does not concern the filters. -/
theorem pairFilter?_insertType {changed : FilterGraph} {media : MediaType} {handle : MediaTypeId}
    (inserted : graph.insertType media = .ok (handle, changed)) :
    changed.pairFilter? ends = graph.pairFilter? ends := by
  obtain ⟨types, _, rfl⟩ := insertType_cases inserted
  rfl

theorem pairFilter?_addType {changed : FilterGraph} {superType subType : String}
    {handle : MediaTypeId} (added : graph.addType superType subType = .ok (handle, changed)) :
    changed.pairFilter? ends = graph.pairFilter? ends := by
  obtain ⟨media, _, inserted⟩ := addType_cases added
  exact pairFilter?_insertType inserted

/-- A refused call leaves the filter of a pair alone. -/
theorem pairFilter?_settle {Handle : Type} {result : Except PlanError (Handle × FilterGraph)}
    (kept : ∀ handle changed, result = .ok (handle, changed) →
      changed.pairFilter? ends = graph.pairFilter? ends) :
    (graph.settle result).2.pairFilter? ends = graph.pairFilter? ends :=
  settle_keeps (motive := fun changed => changed.pairFilter? ends = graph.pairFilter? ends) rfl kept

/-- What the removal of a handle does to the filter of a given pair. -/
theorem Coherent.pairStep_removeFilter (coherent : graph.Coherent) (ends : Endpoints)
    (handle : FilterId) :
    PairStep ends (.removeFilter handle, .removed (graph.removeFilter handle).1)
      (graph.pairFilter? ends) ((graph.removeFilter handle).2.pairFilter? ends) := by
  rw [removeFilter_fst]
  cases stored : graph.filter? handle with
  | none =>
      rw [coherent.pairFilter?_removeFilter_of_ne (by simp [stored])]
      exact .unconcerned rfl rfl
  | some filter =>
      by_cases connects : filter.endpoints = ends
      · rw [coherent.pairFilter?_removeFilter stored connects]
        exact .removed (decide_eq_true connects)
      · rw [coherent.pairFilter?_removeFilter_of_ne (by simpa [stored] using connects)]
        exact .unconcerned rfl (decide_eq_false connects)

/-- **What one change of a graph does to the filter of a pair.** -/
theorem Coherent.pairStep_perform (coherent : graph.Coherent) (ends : Endpoints)
    (edit : GraphEdit) :
    PairStep ends (edit, (graph.perform edit).1) (graph.pairFilter? ends)
      ((graph.perform edit).2.pairFilter? ends) := by
  cases edit with
  | addType superType subType =>
      show PairStep ends _ _ ((graph.settle (graph.addType superType subType)).2.pairFilter? ends)
      rw [pairFilter?_settle fun _ _ added => pairFilter?_addType added]
      exact .unconcerned rfl rfl
  | addSinkType printer =>
      show PairStep ends _ _
        ((graph.settle (graph.addType MediaType.sinkSuperType printer)).2.pairFilter? ends)
      rw [pairFilter?_settle fun _ _ added => pairFilter?_addType added]
      exact .unconcerned rfl rfl
  | insertType media =>
      show PairStep ends _ _ ((graph.settle (graph.insertType media)).2.pairFilter? ends)
      rw [pairFilter?_settle fun _ _ inserted => pairFilter?_insertType inserted]
      exact .unconcerned rfl rfl
  | addFilter source dest cost program =>
      exact coherent.pairStep_offerFilter source dest cost none program rfl rfl
  | addLimitedFilter source dest cost maxSize program =>
      exact coherent.pairStep_offerFilter source dest cost (some maxSize) program rfl rfl
  | removeFilter handle => exact coherent.pairStep_removeFilter ends handle
  | query => exact .unconcerned rfl rfl

/-! ## A whole run -/

/-- Every run keeps track of the filter of a pair. -/
theorem Coherent.tracks_after (coherent : graph.Coherent)
    (tracks : Tracks ends offers (graph.pairFilter? ends)) (edits : List GraphEdit) :
    Tracks ends ((graph.answers edits).foldl (AnsweredEdit.record ends) offers)
      ((graph.after edits).pairFilter? ends) := by
  induction edits generalizing graph offers with
  | nil => exact tracks
  | cons edit rest ih =>
      exact ih (coherent.perform edit) (tracks.step (coherent.pairStep_perform ends edit))

theorem tracks_offersFor (edits : List GraphEdit) (ends : Endpoints) :
    Tracks ends (offersFor ends (empty.answers edits)) ((empty.after edits).pairFilter? ends) := by
  have absent : empty.pairFilter? ends = none := by
    have noPair : empty.direct[ends]? = none := Std.TreeMap.getElem?_emptyc
    simp [pairFilter?, lookupDirect?, noPair]
  exact coherent_empty.tracks_after (absent ▸ .missing) edits

/-- **The filter of a pair is settled by the offers for the pair since its filter was last
removed.**  There is one exactly if there was such an offer, all offers returned its handle, no
other call has an effect on it, and it is the same in every run with the same offers. -/
theorem directFilter?_settled_by_offers (edits : List GraphEdit) (source dest : MediaTypeId) :
    let graph := empty.after edits
    let offers := offersFor ⟨source, dest⟩ (empty.answers edits)
    (graph.directFilter? source dest = none ↔ offers = []) ∧
      (offers ≠ [] → ∃ handle filter, graph.lookupDirect? source dest = some handle ∧
        graph.directFilter? source dest = some filter ∧
        (∀ offer ∈ offers, offer.handle = handle) ∧ Settles ⟨source, dest⟩ offers filter) ∧
      (∀ edit, AnsweredEdit.offer? ⟨source, dest⟩ (edit, (graph.perform edit).1) = none →
        AnsweredEdit.removes ⟨source, dest⟩ (edit, (graph.perform edit).1) = false →
          (graph.perform edit).2.lookupDirect? source dest = graph.lookupDirect? source dest ∧
          (graph.perform edit).2.directFilter? source dest = graph.directFilter? source dest) ∧
      ∀ others, offersFor ⟨source, dest⟩ (empty.answers others) = offers →
        (empty.after others).lookupDirect? source dest = graph.lookupDirect? source dest ∧
        (empty.after others).directFilter? source dest = graph.directFilter? source dest := by
  intro graph offers
  have coherent : graph.Coherent := Reachable.coherent ⟨edits, rfl⟩
  have tracks : Tracks ⟨source, dest⟩ offers (graph.pairFilter? ⟨source, dest⟩) :=
    tracks_offersFor edits ⟨source, dest⟩
  rw [directFilter?_eq_pairFilter?, coherent.lookupDirect?_eq_pairFilter?]
  refine ⟨?_, ?_, ?_, ?_⟩
  · rw [Option.map_eq_none_iff]
    exact tracks.eq_none_iff
  · intro offered
    obtain ⟨handle, filter, stored, sameHandle, settles⟩ := tracks.exists_settled offered
    exact ⟨handle, filter, by rw [stored]; rfl, by rw [stored]; rfl, sameHandle, settles⟩
  · intro edit noOffer keeps
    have same := (coherent.pairStep_perform ⟨source, dest⟩ edit).eq_of_unconcerned noOffer keeps
    rw [(coherent.perform edit).lookupDirect?_eq_pairFilter?, directFilter?_eq_pairFilter?, same]
    exact ⟨rfl, rfl⟩
  · intro others sameOffers
    have otherCoherent : (empty.after others).Coherent := Reachable.coherent ⟨others, rfl⟩
    have otherTracks := tracks_offersFor others ⟨source, dest⟩
    rw [sameOffers] at otherTracks
    rw [otherCoherent.lookupDirect?_eq_pairFilter?, directFilter?_eq_pairFilter?,
      otherTracks.unique tracks]
    exact ⟨rfl, rfl⟩

/-- The filter from text to PDF is removed and offered again, at first with a limit; then it gets
cheaper without one, and a tie comes too late. -/
def repeatedOffers : List GraphEdit := [
  .addType "text" "plain", .addType "application" "pdf", .addType "image" "png",
  .addFilter ⟨0⟩ ⟨1⟩ 1 "old", .removeFilter ⟨0⟩, .addLimitedFilter ⟨0⟩ ⟨1⟩ 9 50 "first",
  .addFilter ⟨0⟩ ⟨2⟩ 1 "other", .addFilter ⟨0⟩ ⟨1⟩ 4 "cheaper",
  .addLimitedFilter ⟨0⟩ ⟨1⟩ 4 7 "tie", .addFilter ⟨0⟩ ⟨9⟩ 0 "unknown", .removeFilter ⟨0⟩]

/-- The offers since the removal have settled the filter. -/
theorem directFilter?_repeatedOffers :
    (offersFor ⟨⟨0⟩, ⟨1⟩⟩ (empty.answers repeatedOffers) =
        [⟨9, some 50, "first", ⟨1⟩⟩, ⟨4, none, "cheaper", ⟨1⟩⟩, ⟨4, some 7, "tie", ⟨1⟩⟩] ∧
      (empty.after repeatedOffers).directFilter? ⟨0⟩ ⟨1⟩ =
        some ⟨⟨0⟩, ⟨1⟩, 4, 50, "cheaper"⟩) ∧
    (∃ handle filter, (empty.after repeatedOffers).lookupDirect? ⟨0⟩ ⟨1⟩ = some handle ∧
      (empty.after repeatedOffers).directFilter? ⟨0⟩ ⟨1⟩ = some filter ∧
      (∀ offer ∈ offersFor ⟨⟨0⟩, ⟨1⟩⟩ (empty.answers repeatedOffers), offer.handle = handle) ∧
      Settles ⟨⟨0⟩, ⟨1⟩⟩ (offersFor ⟨⟨0⟩, ⟨1⟩⟩ (empty.answers repeatedOffers)) filter) ∧
    ((empty.after repeatedOffers).perform (.removeFilter ⟨2⟩)).2.directFilter? ⟨0⟩ ⟨1⟩ =
      (empty.after repeatedOffers).directFilter? ⟨0⟩ ⟨1⟩ ∧
    (empty.after (repeatedOffers.eraseIdx 6)).directFilter? ⟨0⟩ ⟨1⟩ =
      (empty.after repeatedOffers).directFilter? ⟨0⟩ ⟨1⟩ := by
  have offers : offersFor ⟨⟨0⟩, ⟨1⟩⟩ (empty.answers repeatedOffers) =
      [⟨9, some 50, "first", ⟨1⟩⟩, ⟨4, none, "cheaper", ⟨1⟩⟩, ⟨4, some 7, "tie", ⟨1⟩⟩] := by
    decide +kernel
  have filter : (empty.after repeatedOffers).directFilter? ⟨0⟩ ⟨1⟩ =
      some ⟨⟨0⟩, ⟨1⟩, 4, 50, "cheaper"⟩ := by
    decide +kernel
  have fewer : offersFor ⟨⟨0⟩, ⟨1⟩⟩ (empty.answers (repeatedOffers.eraseIdx 6)) =
      offersFor ⟨⟨0⟩, ⟨1⟩⟩ (empty.answers repeatedOffers) := by
    decide +kernel
  obtain ⟨_, settled, unconcerned, determined⟩ :=
    directFilter?_settled_by_offers repeatedOffers ⟨0⟩ ⟨1⟩
  refine ⟨⟨offers, filter⟩, settled (by rw [offers]; simp), ?_, (determined _ fewer).2⟩
  exact (unconcerned (.removeFilter ⟨2⟩) rfl (by decide +kernel)).2

end FilterGraph

end PrintPlanner
