import Mathlib.Data.Finset.Card
import Mathlib.Data.List.Perm.Basic
import PrintPlanner.Proofs.Graph.Offers
import PrintPlanner.Proofs.Graph.Refusals
import PrintPlanner.Proofs.Graph.Tables

/-!
# Filters declared in any order

A list of filters is declared by offering one after the other to a graph that has none.  What is
declared for a pair of types comes to a filter of least cost for that pair (`Filter.Wins`), in
whatever order the list is taken.  If entries of least cost for one pair are never at odds
(`Filter.TiesAgree`), any two orders lead to the same filters, though under other handles
(`FilterGraph.Declared.sameUpToHandles`).  Nothing is refused as long as there are handles for all
pairs of the list (`FilterGraph.Declared.acceptsAll_iff`).
-/

set_option autoImplicit false

namespace PrintPlanner

namespace Filter

/-- The offer of the filter as it stands. -/
def declaration (filter : Filter) : GraphEdit :=
  .addLimitedFilter filter.source filter.dest filter.cost filter.maxSize filter.program

/-! ## Which entry of a pair wins -/

/-- The filter is an entry that costs no more than any other entry for its pair. -/
structure CheapestIn (filter : Filter) (entries : List Filter) : Prop where
  listed : filter ∈ entries
  least : ∀ other ∈ entries, other.endpoints = filter.endpoints → filter.cost ≤ other.cost

instance {filter : Filter} {entries : List Filter} : Decidable (filter.CheapestIn entries) :=
  decidable_of_iff (filter ∈ entries ∧
      ∀ other ∈ entries, other.endpoints = filter.endpoints → filter.cost ≤ other.cost)
    ⟨fun both => ⟨both.1, both.2⟩, fun cheapest => ⟨cheapest.listed, cheapest.least⟩⟩

/-- Entries of least cost for one pair have the same size limit and the same program. -/
def TiesAgree (entries : List Filter) : Prop :=
  ∀ first ∈ entries, ∀ second ∈ entries, first.endpoints = second.endpoints →
    first.CheapestIn entries → second.CheapestIn entries →
      first.maxSize = second.maxSize ∧ first.program = second.program

instance {entries : List Filter} : Decidable (TiesAgree entries) :=
  inferInstanceAs (Decidable (∀ first ∈ entries, ∀ second ∈ entries, _ → _ → _ → _ ∧ _))

/-- What the entries leave for a pair: a cheapest entry, or nothing if the pair has none. -/
inductive Wins (ends : Endpoints) (entries : List Filter) : Option Filter → Prop where
  | missing (absent : ∀ entry ∈ entries, entry.endpoints ≠ ends) : Wins ends entries none
  | stored {filter : Filter} (connects : filter.endpoints = ends)
      (cheapest : filter.CheapestIn entries) : Wins ends entries (some filter)

/-- The number of pairs for which there is an entry. -/
def pairCount (entries : List Filter) : Nat := (entries.map endpoints).toFinset.card

variable {ends : Endpoints} {entries reordered : List Filter} {entry filter : Filter}
  {before : Option Filter}

theorem CheapestIn.perm (cheapest : filter.CheapestIn entries) (perm : entries.Perm reordered) :
    filter.CheapestIn reordered where
  listed := perm.mem_iff.mp cheapest.listed
  least := fun other member => cheapest.least other (perm.mem_iff.mpr member)

theorem Wins.perm (wins : Wins ends entries before) (perm : entries.Perm reordered) :
    Wins ends reordered before := by
  cases wins with
  | missing absent => exact .missing fun entry member => absent entry (perm.mem_iff.mpr member)
  | stored connects cheapest => exact .stored connects (cheapest.perm perm)

/-- Cheapest entries of one pair are the same if ties agree. -/
theorem CheapestIn.unique {other : Filter} (ties : TiesAgree entries)
    (cheapest : filter.CheapestIn entries) (otherCheapest : other.CheapestIn entries)
    (same : filter.endpoints = other.endpoints) : filter = other := by
  have cost : filter.cost = other.cost :=
    UInt32.le_antisymm (cheapest.least other otherCheapest.listed same.symm)
      (otherCheapest.least filter cheapest.listed same)
  obtain ⟨limit, program⟩ :=
    ties filter cheapest.listed other otherCheapest.listed same cheapest otherCheapest
  obtain ⟨source, dest⟩ := Filter.endpoints_eq_iff.mp same
  cases filter
  cases other
  rw [Filter.mk.injEq]
  exact ⟨source, dest, cost, limit, program⟩

theorem Wins.unique {other : Option Filter} (ties : TiesAgree entries)
    (wins : Wins ends entries before) (otherWins : Wins ends entries other) : before = other := by
  cases wins with
  | missing absent =>
      cases otherWins with
      | missing => rfl
      | stored connects cheapest => exact absurd connects (absent _ cheapest.listed)
  | stored connects cheapest =>
      cases otherWins with
      | missing absent => exact absurd connects (absent _ cheapest.listed)
      | stored otherConnects otherCheapest =>
          rw [cheapest.unique ties otherCheapest (connects.trans otherConnects.symm)]

/-! ## One more entry -/

/-- An entry for another pair does not matter. -/
theorem Wins.append_of_ne (wins : Wins ends entries before) (other : entry.endpoints ≠ ends) :
    Wins ends (entries ++ [entry]) before := by
  cases wins with
  | missing absent =>
      refine .missing fun former member => ?_
      rcases List.mem_append.mp member with old | latest
      · exact absent former old
      · rwa [List.mem_singleton.mp latest]
  | stored connects cheapest =>
      refine .stored connects ⟨List.mem_append_left _ cheapest.listed, fun former member same => ?_⟩
      rcases List.mem_append.mp member with old | latest
      · exact cheapest.least former old same
      · rw [List.mem_singleton.mp latest] at same
        exact absurd (same.trans connects) other

/-- The first entry of its pair wins. -/
theorem Wins.append_first (wins : Wins entry.endpoints entries none) :
    Wins entry.endpoints (entries ++ [entry]) (some entry) := by
  cases wins with
  | missing absent =>
      refine .stored rfl ⟨List.mem_append_right _ (List.mem_singleton_self entry), ?_⟩
      intro former member same
      rcases List.mem_append.mp member with old | latest
      · exact absurd same (absent former old)
      · rw [List.mem_singleton.mp latest]
        exact UInt32.le_refl _

/-- A filter improved by an entry that states a limit is the old filter or the entry, whichever
costs less. -/
theorem improve_eq_ite (same : filter.endpoints = entry.endpoints) :
    filter.improve entry.cost (some entry.maxSize) entry.program =
      if entry.cost < filter.cost then entry else filter := by
  obtain ⟨source, dest⟩ := Filter.endpoints_eq_iff.mp same
  cases entry
  cases filter
  cases source
  cases dest
  rfl

/-- A further entry of its pair wins if it is cheaper. -/
theorem Wins.improve (wins : Wins entry.endpoints entries (some filter)) :
    Wins entry.endpoints (entries ++ [entry])
      (some (filter.improve entry.cost (some entry.maxSize) entry.program)) := by
  cases wins with
  | stored connects cheapest =>
      rw [improve_eq_ite connects]
      by_cases cheaper : entry.cost < filter.cost
      · rw [if_pos cheaper]
        refine .stored rfl ⟨List.mem_append_right _ (List.mem_singleton_self entry), ?_⟩
        intro former member same
        rcases List.mem_append.mp member with old | latest
        · have dearer := cheapest.least former old (same.trans connects.symm)
          exact UInt32.le_of_lt (UInt32.lt_of_lt_of_le cheaper dearer)
        · rw [List.mem_singleton.mp latest]
          exact UInt32.le_refl _
      · rw [if_neg cheaper]
        refine .stored connects ⟨List.mem_append_left _ cheapest.listed, ?_⟩
        intro former member same
        rcases List.mem_append.mp member with old | latest
        · exact cheapest.least former old same
        · rw [List.mem_singleton.mp latest]
          exact UInt32.not_lt.mp cheaper

/-! ## The number of pairs -/

theorem toFinset_append_single (entries : List Filter) (entry : Filter) :
    ((entries ++ [entry]).map endpoints).toFinset =
      insert entry.endpoints (entries.map endpoints).toFinset := by
  ext ends
  simp [eq_comm]

theorem pairCount_append_of_mem (member : entry.endpoints ∈ entries.map endpoints) :
    pairCount (entries ++ [entry]) = pairCount entries := by
  rw [pairCount, toFinset_append_single, Finset.card_insert_of_mem (List.mem_toFinset.mpr member),
    pairCount]

theorem pairCount_append_of_notMem (fresh : entry.endpoints ∉ entries.map endpoints) :
    pairCount (entries ++ [entry]) = pairCount entries + 1 := by
  have absent := mt List.mem_toFinset.mp fresh
  rw [pairCount, toFinset_append_single, Finset.card_insert_of_notMem absent, pairCount]

theorem pairCount_le_append (first second : List Filter) :
    pairCount first ≤ pairCount (first ++ second) := by
  refine Finset.card_le_card fun ends member => ?_
  rw [List.mem_toFinset] at member ⊢
  rw [List.map_append]
  exact List.mem_append_left _ member

theorem pairCount_perm (perm : entries.Perm reordered) :
    pairCount entries = pairCount reordered := by
  rw [pairCount, pairCount, List.toFinset_eq_of_perm _ _ (perm.map endpoints)]

end Filter

namespace FilterGraph

open PrintPlanner.Filter

variable {graph changed base : FilterGraph} {entries rest : List Filter} {entry : Filter}
  {handle : FilterId}

/-! ## Declaring one filter -/

theorem perform_declaration
    (offered : graph.offerFilter entry.source entry.dest entry.cost (some entry.maxSize)
      entry.program = .ok (handle, changed)) :
    graph.perform entry.declaration = (.filter (.ok handle), changed) := by
  simp [declaration, perform, addLimitedFilter, offered, settle]

/-- A declaration that is not refused is a successful offer. -/
theorem exists_offerFilter_of_accepted
    (accepted : (graph.perform entry.declaration).1.isRefused = false) :
    ∃ handle, graph.offerFilter entry.source entry.dest entry.cost (some entry.maxSize)
      entry.program = .ok (handle, (graph.perform entry.declaration).2) := by
  cases offered : graph.offerFilter entry.source entry.dest entry.cost (some entry.maxSize)
    entry.program with
  | error error =>
      simp [declaration, perform, addLimitedFilter, offered, settle, EditAnswer.isRefused,
        Except.isOk, Except.toBool] at accepted
  | ok pair => exact ⟨pair.1, by rw [perform_declaration offered]⟩

/-! ## Declaring a list of filters -/

/-- The graph is what the entries make of `base`: every pair has the filter that wins among its
entries, and every pair with an entry has used up one handle. -/
structure Declared (graph base : FilterGraph) (entries : List Filter) : Prop where
  coherent : graph.Coherent
  types : graph.types = base.types
  size : graph.slots.size = base.slots.size + pairCount entries
  wins : ∀ ends, Wins ends entries ((graph.pairFilter? ends).map Prod.snd)

/-- A graph without filters is what no entries make of it. -/
theorem Declared.start (coherent : base.Coherent) (filterless : base.filters = []) :
    base.Declared base [] where
  coherent := coherent
  types := rfl
  size := rfl
  wins := by
    intro ends
    cases pair : base.pairFilter? ends with
    | none => exact .missing fun _ member => absurd member List.not_mem_nil
    | some found =>
        obtain ⟨live, _⟩ := coherent.pairFilter?_eq_some_iff.mp pair
        have listed := coherent.mem_filters.mpr live
        rw [filterless] at listed
        exact absurd listed List.not_mem_nil

/-- A pair has a filter exactly if it has an entry. -/
theorem Declared.pairFilter?_eq_none_iff (declared : graph.Declared base entries)
    {ends : Endpoints} : graph.pairFilter? ends = none ↔ ends ∉ entries.map endpoints := by
  have wins := declared.wins ends
  cases pair : graph.pairFilter? ends with
  | none =>
      rw [pair] at wins
      cases wins with
      | missing absent => simpa using absent
  | some found =>
      rw [pair] at wins
      cases wins with
      | stored connects cheapest =>
          simpa using ⟨found.2, cheapest.listed, connects⟩

/-- **What a further declaration makes of the graph.** -/
theorem Declared.offer (declared : graph.Declared base entries)
    (offered : graph.offerFilter entry.source entry.dest entry.cost (some entry.maxSize)
      entry.program = .ok (handle, changed)) : changed.Declared base (entries ++ [entry]) := by
  have coherent := declared.coherent
  refine ⟨coherent.offerFilter offered, ?_, ?_, fun ends => ?_⟩
  · rw [coherent.types_offerFilter offered, declared.types]
  · obtain ⟨_, ⟨filter, live, start, finish, rfl⟩ | ⟨absent, _, _, rfl⟩⟩ :=
      coherent.offerFilter_cases offered
    · have pair : graph.pairFilter? entry.endpoints = some (handle, filter) :=
        coherent.pairFilter?_eq_some_iff.mpr ⟨live, Filter.endpoints_eq_iff.mpr ⟨start, finish⟩⟩
      have known : entry.endpoints ∈ entries.map endpoints := by
        by_contra fresh
        rw [declared.pairFilter?_eq_none_iff.mpr fresh] at pair
        contradiction
      rw [pairCount_append_of_mem known, ← declared.size, setSlot, Array.size_setIfInBounds]
    · have fresh : entry.endpoints ∉ entries.map endpoints :=
        declared.pairFilter?_eq_none_iff.mp (by simp [pairFilter?, endpoints, absent])
      rw [pairCount_append_of_notMem fresh, ← Nat.add_assoc, ← declared.size, pushSlot,
        Array.size_push]
  · by_cases same : entry.endpoints = ends
    · subst same
      have wins := declared.wins entry.endpoints
      rcases coherent.pairFilter?_offerFilter offered with
        ⟨before, after⟩ | ⟨filter, before, after⟩
      · rw [endpoints, after]
        rw [endpoints, before] at wins
        exact wins.append_first
      · rw [endpoints, after]
        rw [endpoints, before] at wins
        exact wins.improve
    · rw [coherent.pairFilter?_offerFilter_of_ne offered same]
      exact (declared.wins ends).append_of_ne same

/-- **A run of declarations of which none is refused makes of the graph what its entries make of
it.** -/
theorem Declared.after (declared : graph.Declared base entries)
    (accepted : graph.AcceptsAll (rest.map declaration)) :
    (graph.after (rest.map declaration)).Declared base (entries ++ rest) := by
  induction rest generalizing graph entries with
  | nil =>
      rw [List.append_nil]
      exact declared
  | cons entry rest ih =>
      rw [List.map_cons, acceptsAll_cons] at accepted
      obtain ⟨handle, offered⟩ := exists_offerFilter_of_accepted accepted.1
      have onward := ih (declared.offer offered) accepted.2
      rwa [List.append_assoc, List.singleton_append] at onward

/-- **No declaration is refused exactly if there is a handle for every pair.** -/
theorem Declared.acceptsAll_iff (declared : graph.Declared base entries)
    (registered : ∀ entry ∈ rest, base.types.contains entry.source = true ∧
      base.types.contains entry.dest = true) :
    graph.AcceptsAll (rest.map declaration) ↔
      base.slots.size + pairCount (entries ++ rest) ≤ handleCount := by
  constructor
  · intro accepted
    have whole := declared.after accepted
    rw [← whole.size]
    exact whole.coherent.slots_size_le
  · intro room
    induction rest generalizing graph entries with
    | nil => exact acceptsAll_nil
    | cons entry rest ih =>
        obtain ⟨⟨sourceKnown, destKnown⟩, others⟩ := List.forall_mem_cons.mp registered
        have split : entries ++ entry :: rest = entries ++ [entry] ++ rest := by simp
        rw [← declared.types] at sourceKnown destKnown
        have free : graph.lookupDirect? entry.source entry.dest = none →
            graph.slots.size < handleCount := by
          intro absent
          have fresh : entry.endpoints ∉ entries.map endpoints :=
            declared.pairFilter?_eq_none_iff.mp (by simp [pairFilter?, endpoints, absent])
          have counted := pairCount_append_of_notMem fresh
          have prefixCount := pairCount_le_append (entries ++ [entry]) rest
          rw [declared.size]
          rw [split] at room
          omega
        obtain ⟨handle, changed, offered⟩ := declared.coherent.exists_offerFilter
          ⟨sourceKnown, destKnown⟩ free entry.cost (some entry.maxSize) entry.program
        rw [List.map_cons, acceptsAll_cons, perform_declaration offered]
        refine ⟨rfl, ih (declared.offer offered) others ?_⟩
        rwa [← split]

/-! ## Graphs with the same filters -/

/-- The graphs have the same types and, under whatever handles, the same filters. -/
structure SameUpToHandles (first second : FilterGraph) : Prop where
  types : first.types = second.types
  filters : (first.filters.map Prod.snd).Perm (second.filters.map Prod.snd)

theorem SameUpToHandles.symm {first second : FilterGraph} (same : first.SameUpToHandles second) :
    second.SameUpToHandles first :=
  ⟨same.types.symm, same.filters.symm⟩

theorem Coherent.mem_map_snd_filters (coherent : graph.Coherent) {filter : Filter} :
    filter ∈ graph.filters.map Prod.snd ↔ ∃ handle, graph.filter? handle = some filter := by
  rw [List.mem_map]
  constructor
  · rintro ⟨⟨handle, listed⟩, member, rfl⟩
    exact ⟨handle, coherent.mem_filters.mp member⟩
  · rintro ⟨handle, live⟩
    exact ⟨(handle, filter), coherent.mem_filters.mpr live, rfl⟩

/-- A filter is live if it is the one of its pair. -/
theorem Coherent.exists_live_iff (coherent : graph.Coherent) {filter : Filter} :
    (∃ handle, graph.filter? handle = some filter) ↔
      (graph.pairFilter? filter.endpoints).map Prod.snd = some filter := by
  constructor
  · rintro ⟨handle, live⟩
    rw [coherent.pairFilter?_eq_some_iff.mpr ⟨live, rfl⟩]
    rfl
  · intro stands
    obtain ⟨⟨handle, found⟩, pair, rfl⟩ := Option.map_eq_some_iff.mp stands
    exact ⟨handle, (coherent.pairFilter?_eq_some_iff.mp pair).1⟩

/-- Graphs with the same filter for every pair have the same filters. -/
theorem Coherent.sameUpToHandles {first second : FilterGraph} (coherent : first.Coherent)
    (secondCoherent : second.Coherent) (types : first.types = second.types)
    (pairs : ∀ ends, (first.pairFilter? ends).map Prod.snd =
      (second.pairFilter? ends).map Prod.snd) : first.SameUpToHandles second := by
  have nodup : ∀ {graph : FilterGraph}, graph.Coherent → (graph.filters.map Prod.snd).Nodup := by
    intro graph coherent
    apply List.pairwise_map.mpr
    exact coherent.pairwise_endpoints_filters.imp fun apart same => apart (congrArg endpoints same)
  refine ⟨types, (List.perm_ext_iff_of_nodup (nodup coherent) (nodup secondCoherent)).mpr ?_⟩
  intro filter
  rw [coherent.mem_map_snd_filters, secondCoherent.mem_map_snd_filters, coherent.exists_live_iff,
    secondCoherent.exists_live_iff, pairs]

/-- **The order of the entries does not matter, up to handles.** -/
theorem Declared.sameUpToHandles {first second : FilterGraph} {reordered : List Filter}
    (declared : first.Declared base entries) (secondDeclared : second.Declared base reordered)
    (perm : entries.Perm reordered) (ties : TiesAgree entries) : first.SameUpToHandles second := by
  refine declared.coherent.sameUpToHandles secondDeclared.coherent
    (declared.types.trans secondDeclared.types.symm) fun ends => ?_
  exact (declared.wins ends).unique ties ((secondDeclared.wins ends).perm perm.symm)

end FilterGraph

end PrintPlanner
