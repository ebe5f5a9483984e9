import PrintPlanner.Proofs.Declaration.Lines
import PrintPlanner.Proofs.Graph.Tables
import PrintPlanner.Proofs.Registry.Registration

/-!
# What some declarations make of a graph

Declarations speak of types by name, and of any number of filters for one pair of names.  A graph
represents the names and the filter lines that have been given to it
(`FilterGraph.Represents`) if it holds one type for each name and one filter for each pair, both in
order of first mention, and every filter is what the lines for its pair amount to (`Settles`).

A further name and a further line keep this (`FilterGraph.Represents.mention`,
`FilterGraph.Represents.offer`), and they are accepted as long as there are handles left.
-/

set_option autoImplicit false

namespace PrintPlanner

private theorem exists_map_some {Item : Type} {items : List (Option Item)}
    (full : none ∉ items) : ∃ values : List Item, items = values.map some := by
  induction items with
  | nil => exact ⟨[], rfl⟩
  | cons item rest ih =>
      obtain ⟨here, others⟩ := not_or.mp (mt List.mem_cons.mpr full)
      obtain ⟨values, same⟩ := ih others
      cases item with
      | none => exact absurd rfl here
      | some value => exact ⟨value :: values, by rw [same]; rfl⟩

/-! ## Types by their texts -/

namespace TypeRegistry

/-- The text of the type behind a handle. -/
def text? (registry : TypeRegistry) (handle : MediaTypeId) : Option String :=
  (registry.get? handle).map MediaType.text

/-- The filter connects the types with the two texts. -/
structure Joins (registry : TypeRegistry) (filter : Filter) (ends : String × String) : Prop where
  source : registry.text? filter.source = some ends.1
  dest : registry.text? filter.dest = some ends.2

variable {registry older : TypeRegistry} {filter : Filter}

theorem text?_eq_some_iff {handle : MediaTypeId} {text : String} :
    registry.text? handle = some text ↔
      ∃ media, registry.get? handle = some media ∧ media.text = text := by
  rw [text?, Option.map_eq_some_iff]

theorem contains_of_text? {handle : MediaTypeId} {text : String}
    (named : registry.text? handle = some text) : registry.contains handle = true := by
  obtain ⟨media, stored, _⟩ := text?_eq_some_iff.mp named
  exact contains_iff_get?.mpr ⟨media, stored⟩

theorem Extends.text? (extension : registry.Extends older) {handle : MediaTypeId} {text : String}
    (named : older.text? handle = some text) : registry.text? handle = some text := by
  obtain ⟨media, stored, same⟩ := text?_eq_some_iff.mp named
  exact text?_eq_some_iff.mpr ⟨media, extension handle media stored, same⟩

theorem Extends.joins (extension : registry.Extends older) {ends : String × String}
    (joins : older.Joins filter ends) : registry.Joins filter ends :=
  ⟨extension.text? joins.source, extension.text? joins.dest⟩

theorem Coherent.text?_inj (coherent : registry.Coherent) {left right : MediaTypeId}
    {text : String} (atLeft : registry.text? left = some text)
    (atRight : registry.text? right = some text) : left = right := by
  obtain ⟨media, stored, same⟩ := text?_eq_some_iff.mp atLeft
  obtain ⟨other, otherStored, otherSame⟩ := text?_eq_some_iff.mp atRight
  obtain rfl : media = other := MediaType.text_injective (same.trans otherSame.symm)
  exact coherent.get?_inj stored otherStored

theorem Joins.unique {ends other : String × String} (joins : registry.Joins filter ends)
    (otherJoins : registry.Joins filter other) : ends = other :=
  Prod.ext (Option.some.inj (joins.source.symm.trans otherJoins.source))
    (Option.some.inj (joins.dest.symm.trans otherJoins.dest))

end TypeRegistry

/-! ## Graphs that represent names and lines -/

namespace FilterGraph

/-- The graph holds one type for each name and one filter for each pair of names, in order of first
mention, and every filter is what the lines for its pair amount to. -/
structure Represents (graph : FilterGraph) (names : List String) (lines : List FilterLine) :
    Prop where
  coherent : graph.Coherent
  texts : graph.types.types.toList.map MediaType.text = names.eraseDups
  size : graph.slots.size = (FilterLine.pairs lines).length
  stored : ∀ handle ends, (FilterLine.pairs lines)[handle.index]? = some ends →
    ∃ filter, graph.filter? handle = some filter ∧ graph.types.Joins filter ends ∧
      Settles filter.endpoints (FilterLine.offers lines ends handle) filter

theorem represents_empty : (∅ : FilterGraph).Represents [] [] where
  coherent := coherent_empty
  texts := rfl
  size := rfl
  stored := by
    intro handle ends listed
    cases listed

variable {graph changed : FilterGraph} {names : List String} {lines : List FilterLine}

section Represents

variable (represents : graph.Represents names lines)
include represents

/-- Only the first mention of a name counts. -/
theorem Represents.congr_names {other : List String} (same : names.eraseDups = other.eraseDups) :
    graph.Represents other lines :=
  { represents with texts := represents.texts.trans same }

/-! ## A further name -/

theorem Represents.text_mem_iff {media : MediaType} :
    media.text ∈ names ↔ ∃ handle, graph.types.get? handle = some media := by
  have listed : media.text ∈ names ↔ media ∈ graph.types.types.toList := by
    rw [← List.mem_eraseDups, ← represents.texts, List.mem_map]
    constructor
    · rintro ⟨other, member, same⟩
      rwa [← MediaType.text_injective same]
    · exact fun member => ⟨media, member, rfl⟩
  rw [listed, ← TypeRegistry.map_snd_entries, List.mem_map]
  constructor
  · rintro ⟨⟨handle, _⟩, member, rfl⟩
    exact ⟨handle, represents.coherent.types.mem_entries.mp member⟩
  · rintro ⟨handle, stored⟩
    exact ⟨(handle, media), represents.coherent.types.mem_entries.mpr stored, rfl⟩

theorem Represents.byName_eq_none_iff {media : MediaType} :
    graph.types.byName[media.toTypeName]? = none ↔ media.text ∉ names := by
  rw [represents.text_mem_iff, not_exists, Option.eq_none_iff_forall_ne_some]
  refine forall_congr' fun handle => not_congr ?_
  rw [represents.coherent.types.byName_iff]
  constructor
  · rintro ⟨other, stored, same⟩
    rwa [← MediaType.ext_toTypeName same]
  · exact fun stored => ⟨media, stored, rfl⟩

/-- **A further name** has a type afterwards, which is the last one if the name is new. -/
theorem Represents.mention {media : MediaType} {handle : MediaTypeId}
    (inserted : graph.insertType media = .ok (handle, changed)) :
    changed.Represents (names ++ [media.text]) lines := by
  have extension := extends_of_insertType inserted
  have changedCoherent := represents.coherent.insertType inserted
  obtain ⟨types, stored, rfl⟩ := insertType_cases inserted
  refine ⟨changedCoherent, ?_, represents.size, fun handle ends listed => ?_⟩
  · rcases TypeRegistry.insert_cases stored with ⟨found, rfl⟩ | ⟨absent, _, _, rfl⟩
    · have old : media.text ∈ names := by
        by_contra new
        rw [represents.byName_eq_none_iff.mpr new] at found
        cases found
      rw [eraseDups_append_single_of_mem old]
      exact represents.texts
    · have new := represents.byName_eq_none_iff.mp absent
      rw [eraseDups_append_single_of_notMem new, ← represents.texts]
      simp
  · obtain ⟨filter, live, joins, settles⟩ := represents.stored handle ends listed
    exact ⟨filter, live, extension.joins joins, settles⟩

/-- A name is accepted as long as the different names have handles. -/
theorem Represents.exists_insertType {media : MediaType}
    (room : (names ++ [media.text]).eraseDups.length ≤ handleCount) :
    ∃ handle changed, graph.insertType media = .ok (handle, changed) := by
  cases result : graph.types.insert media with
  | ok pair => exact ⟨pair.1, { graph with types := pair.2 }, by rw [insertType, result]; rfl⟩
  | error error =>
      obtain ⟨absent, full⟩ := TypeRegistry.insert_eq_error result
      have new := represents.byName_eq_none_iff.mp absent
      rw [eraseDups_append_single_of_notMem new, ← represents.texts] at room
      simp [TypeRegistry.size] at room full
      omega

/-! ## A further line -/

/-- The filter of a pair stands in the slot of its place. -/
theorem Represents.stored_at {position : Nat} {ends : String × String}
    (listed : (FilterLine.pairs lines)[position]? = some ends) :
    ∃ filter, graph.slots[position]? = some (some filter) ∧
      graph.filter? (.ofIndex position) = some filter ∧ graph.types.Joins filter ends ∧
      Settles filter.endpoints (FilterLine.offers lines ends (.ofIndex position)) filter := by
  have below := (List.getElem?_eq_some_iff.mp listed).1
  rw [← represents.size] at below
  have index := FilterId.index_ofIndex
    (Nat.lt_of_lt_of_le below represents.coherent.slots_size_le)
  obtain ⟨filter, live, joins, settles⟩ := represents.stored (.ofIndex position) ends
    (by rw [index]; exact listed)
  have slot := live
  rw [filter?, index] at slot
  exact ⟨filter, Option.join_eq_some_iff.mp slot, live, joins, settles⟩

/-- The filter behind a handle is that of the pair in its place. -/
theorem Represents.exists_pair {handle : FilterId} {filter : Filter}
    (live : graph.filter? handle = some filter) :
    ∃ ends, (FilterLine.pairs lines)[handle.index]? = some ends ∧
      graph.types.Joins filter ends ∧
      Settles filter.endpoints (FilterLine.offers lines ends handle) filter := by
  have below : handle.index < (FilterLine.pairs lines).length := by
    rw [← represents.size]
    exact index_lt_of_filter? live
  have listed := List.getElem?_eq_getElem below
  obtain ⟨other, otherLive, joins, settles⟩ := represents.stored handle _ listed
  rw [live] at otherLive
  cases otherLive
  exact ⟨_, listed, joins, settles⟩

/-- The filter of a pair has one handle only. -/
theorem Represents.handle_unique {handle other : FilterId} {filter twin : Filter}
    {ends : String × String} (live : graph.filter? handle = some filter)
    (joins : graph.types.Joins filter ends) (twinLive : graph.filter? other = some twin)
    (twinJoins : graph.types.Joins twin ends) : handle = other := by
  have types := represents.coherent.types
  refine represents.coherent.eq_of_endpoints_eq live twinLive (Filter.endpoints_eq_iff.mpr ?_)
  exact ⟨types.text?_inj joins.source twinJoins.source, types.text?_inj joins.dest twinJoins.dest⟩

/-- A line for a pair that has a filter. -/
theorem Represents.improve {handle : FilterId} {filter : Filter} {line : FilterLine}
    (live : graph.filter? handle = some filter) (joins : graph.types.Joins filter line.pair) :
    (graph.setSlot handle
      (some (filter.improve line.cost line.limit line.program))).Represents names
        (lines ++ [line]) := by
  obtain ⟨ends, listed, endsJoins, settles⟩ := represents.exists_pair live
  obtain rfl : ends = line.pair := endsJoins.unique joins
  have old : line.pair ∈ lines.map FilterLine.pair :=
    FilterLine.mem_pairs.mp (List.mem_of_getElem? listed)
  have samePairs := FilterLine.pairs_append_of_mem old
  have sameEnds := filter.endpoints_improve line.cost line.limit line.program
  refine ⟨represents.coherent.setSlot live sameEnds, represents.texts, ?_, ?_⟩
  · rw [samePairs, ← represents.size, setSlot, Array.size_setIfInBounds]
  · intro other ends otherListed
    rw [samePairs] at otherListed
    rw [filter?_setSlot (index_lt_of_filter? live)]
    by_cases here : other = handle
    · rw [here, listed] at otherListed
      cases otherListed
      rw [if_pos here, here, FilterLine.offers_append_of_eq]
      refine ⟨_, rfl, ⟨?_, ?_⟩, ?_⟩
      · rw [filter.source_improve]
        exact joins.source
      · rw [filter.dest_improve]
        exact joins.dest
      · rw [sameEnds]
        exact settles.improve (line.offer handle)
    · obtain ⟨twin, twinLive, twinJoins, twinSettles⟩ := represents.stored other ends otherListed
      have apart : line.pair ≠ ends := by
        rintro rfl
        exact here (represents.handle_unique twinLive twinJoins live joins)
      rw [if_neg here, FilterLine.offers_append_of_ne lines apart]
      exact ⟨twin, twinLive, twinJoins, twinSettles⟩

/-- A line for a pair that has no filter. -/
theorem Represents.create {source dest : MediaTypeId} {line : FilterLine}
    (joins : graph.types.Joins ⟨source, dest, line.cost, line.limit.getD 0, line.program⟩ line.pair)
    (new : line.pair ∉ lines.map FilterLine.pair) (absent : graph.lookupDirect? source dest = none)
    (room : graph.slots.size < handleCount) :
    (graph.pushSlot ⟨source, dest, line.cost, line.limit.getD 0, line.program⟩).Represents names
      (lines ++ [line]) := by
  have known := And.intro (TypeRegistry.contains_of_text? joins.source)
    (TypeRegistry.contains_of_text? joins.dest)
  refine ⟨represents.coherent.pushSlot room known absent, represents.texts, ?_, ?_⟩
  · rw [FilterLine.pairs_append_of_notMem new, List.length_append, ← represents.size, pushSlot,
      Array.size_push]
    rfl
  · intro other ends listed
    rw [FilterLine.pairs_append_of_notMem new] at listed
    rw [filter?_pushSlot room]
    by_cases last : other = .ofIndex graph.slots.size
    · rw [last, FilterId.index_ofIndex room, represents.size, List.getElem?_concat_length] at listed
      cases listed
      rw [if_pos last, FilterLine.offers_append_of_eq, FilterLine.offers_of_notMem new]
      exact ⟨_, rfl, joins, Settles.create source dest (line.offer other)⟩
    · have below : other.index < (FilterLine.pairs lines).length := by
        have inside := (List.getElem?_eq_some_iff.mp listed).1
        have differs : other.index ≠ (FilterLine.pairs lines).length := by
          rw [← represents.size, ← FilterId.index_ofIndex room]
          exact fun same => last (FilterId.index_inj.mp same)
        rw [List.length_append, List.length_singleton] at inside
        omega
      rw [List.getElem?_append_left below] at listed
      have apart : line.pair ≠ ends := by
        rintro rfl
        exact new (FilterLine.mem_pairs.mp (List.mem_of_getElem? listed))
      rw [if_neg last, FilterLine.offers_append_of_ne lines apart]
      exact represents.stored other ends listed

section Offer

variable {line : FilterLine} {source dest : MediaTypeId}
  (sourceNamed : graph.types.text? source = some line.source)
  (destNamed : graph.types.text? dest = some line.dest)
include sourceNamed destNamed

theorem Represents.lookupDirect?_eq_none_iff :
    graph.lookupDirect? source dest = none ↔ line.pair ∉ lines.map FilterLine.pair := by
  rw [← FilterLine.mem_pairs, Option.eq_none_iff_forall_ne_some]
  constructor
  · intro absent member
    obtain ⟨position, listed⟩ := List.mem_iff_getElem?.mp member
    obtain ⟨filter, _, live, joins, _⟩ := represents.stored_at listed
    refine absent (.ofIndex position)
      (represents.coherent.lookupDirect?_eq_some_iff.mpr ⟨filter, live, ?_, ?_⟩)
    · exact represents.coherent.types.text?_inj joins.source sourceNamed
    · exact represents.coherent.types.text?_inj joins.dest destNamed
  · intro new handle found
    obtain ⟨filter, live, rfl, rfl⟩ := represents.coherent.lookupDirect?_eq_some_iff.mp found
    obtain ⟨ends, listed, joins, _⟩ := represents.exists_pair live
    have same : ends = line.pair := joins.unique ⟨sourceNamed, destNamed⟩
    exact new (same ▸ List.mem_of_getElem? listed)

/-- **A further line** improves the filter of its pair, or creates it as the last one. -/
theorem Represents.offer {handle : FilterId}
    (offered : graph.offerFilter source dest line.cost line.limit line.program =
      .ok (handle, changed)) : changed.Represents names (lines ++ [line]) := by
  obtain ⟨_, ⟨filter, live, rfl, rfl, rfl⟩ | ⟨absent, room, _, rfl⟩⟩ :=
    represents.coherent.offerFilter_cases offered
  · exact represents.improve live ⟨sourceNamed, destNamed⟩
  · have new := (represents.lookupDirect?_eq_none_iff sourceNamed destNamed).mp absent
    exact represents.create ⟨sourceNamed, destNamed⟩ new absent room

/-- A line is accepted as long as the different pairs have handles. -/
theorem Represents.exists_offerFilter
    (room : (FilterLine.pairs (lines ++ [line])).length ≤ handleCount) :
    ∃ handle changed, graph.offerFilter source dest line.cost line.limit line.program =
      .ok (handle, changed) := by
  have known := And.intro (TypeRegistry.contains_of_text? sourceNamed)
    (TypeRegistry.contains_of_text? destNamed)
  refine represents.coherent.exists_offerFilter known (fun absent => ?_) _ _ _
  have new := (represents.lookupDirect?_eq_none_iff sourceNamed destNamed).mp absent
  rw [FilterLine.pairs_append_of_notMem new, List.length_append, ← represents.size] at room
  exact room

end Offer

/-! ## The list of filters -/

/-- No slot is empty. -/
theorem Represents.none_notMem_slots : none ∉ graph.slots.toList := by
  intro member
  obtain ⟨position, inside⟩ := List.mem_iff_getElem?.mp member
  rw [Array.getElem?_toList] at inside
  have below : position < graph.slots.size := (Array.getElem?_eq_some_iff.mp inside).1
  rw [represents.size] at below
  obtain ⟨filter, slot, _⟩ := represents.stored_at (List.getElem?_eq_getElem below)
  rw [inside] at slot
  cases slot

/-- The filters are listed by their handles. -/
theorem Represents.getElem?_filters (position : Nat) :
    graph.filters[position]? =
      graph.slots[position]?.join.map (FilterId.ofIndex position, ·) := by
  obtain ⟨filters, full⟩ := exists_map_some represents.none_notMem_slots
  rw [← Array.getElem?_toList, FilterGraph.filters, full]
  simp only [List.zipIdx_map, List.filterMap_map, Function.comp_def, Prod.map, id, Option.map_some,
    List.filterMap_eq_map', List.getElem?_map, List.getElem?_zipIdx]
  cases filters[position]? <;> simp

/-- What is listed in each place: the filter of the pair in that place, under that handle. -/
theorem Represents.listed_at (position : Nat) :
    (∃ ends filter, (FilterLine.pairs lines)[position]? = some ends ∧
        graph.filters[position]? = some (.ofIndex position, filter) ∧
        graph.filter? (.ofIndex position) = some filter ∧ graph.types.Joins filter ends ∧
        Settles filter.endpoints (FilterLine.offers lines ends (.ofIndex position)) filter) ∨
      ((FilterLine.pairs lines)[position]? = none ∧ graph.filters[position]? = none) := by
  rw [represents.getElem?_filters]
  cases listed : (FilterLine.pairs lines)[position]? with
  | some ends =>
      obtain ⟨filter, slot, live, joins, settles⟩ := represents.stored_at listed
      exact .inl ⟨ends, filter, rfl, by rw [slot]; rfl, live, joins, settles⟩
  | none =>
      have beyond := List.getElem?_eq_none_iff.mp listed
      rw [← represents.size] at beyond
      refine .inr ⟨rfl, ?_⟩
      rw [Array.getElem?_eq_none beyond]
      rfl

/-- **The filters connect the pairs, in the same order.** -/
theorem Represents.map_filters :
    graph.filters.map (fun entry =>
        (graph.types.text? entry.2.source, graph.types.text? entry.2.dest)) =
      (FilterLine.pairs lines).map fun ends => (some ends.1, some ends.2) := by
  apply List.ext_getElem?
  intro position
  rw [List.getElem?_map, List.getElem?_map]
  obtain ⟨ends, filter, listed, stored, _, joins, _⟩ | ⟨beyond, nothing⟩ :=
    represents.listed_at position
  · rw [listed, stored, Option.map_some, Option.map_some, joins.source, joins.dest]
  · rw [beyond, nothing]
    rfl

end Represents

end FilterGraph

end PrintPlanner
