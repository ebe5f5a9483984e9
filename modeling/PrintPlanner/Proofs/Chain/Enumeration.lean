import PrintPlanner.Chain.Enumeration
import PrintPlanner.Proofs.Chain.SimpleWalk

/-!
# The chains of the enumeration

The exhaustive enumeration lists exactly the simple walks into the destination
(`FilterGraph.Coherent.mem_chainsFrom_self`).  What a search in either mode has to return
is a selection from the enumeration (`FilterGraph.select`): the first of the cheapest
chains, or the first chain.  A selection from two lists joined is found by comparing the
selections from the two (`FilterGraph.select_append`).
-/

set_option autoImplicit false

namespace PrintPlanner.FilterGraph

/-! ## Members of the enumeration -/

/-- The chains that begin with a given filter. -/
def chainsVia (graph : FilterGraph) (size : UInt64) (dest : MediaTypeId)
    (visited : List MediaTypeId) (entry : FilterId × Filter) : List (List FilterId) :=
  if entry.2.dest ≠ dest ∧ entry.2.dest ∉ visited ∧ entry.2.accepts size ∧
      entry.2.dest ∈ graph.types.handles then
    (graph.chainsFrom size dest (entry.2.dest :: visited) entry.2.dest).map (entry.1 :: ·)
  else []

theorem chainsFrom_eq (graph : FilterGraph) (size : UInt64) (dest : MediaTypeId)
    (visited : List MediaTypeId) (current : MediaTypeId) :
    graph.chainsFrom size dest visited current =
      graph.directChains size current dest ++
        (graph.filtersFrom current).flatMap (graph.chainsVia size dest visited) := by
  rw [chainsFrom]
  congr 1

section Members

variable {graph : FilterGraph} (coherent : graph.Coherent) {size : UInt64}
  {dest current : MediaTypeId} {visited : List MediaTypeId}
include coherent

theorem Coherent.mem_directChains {handles : List FilterId} :
    handles ∈ graph.directChains size current dest ↔
      ∃ handle filter, handles = [handle] ∧ graph.filter? handle = some filter ∧
        filter.source = current ∧ filter.dest = dest ∧ filter.accepts size = true := by
  constructor
  · intro member
    unfold directChains at member
    split at member
    · cases member
    · rename_i handle pair
      obtain ⟨filter, live, start, arrive⟩ := coherent.lookupDirect?_eq_some_iff.mp pair
      simp only [live] at member
      split at member
      · rename_i takes
        exact ⟨handle, filter, List.mem_singleton.mp member, live, start, arrive, takes⟩
      · cases member
  · rintro ⟨handle, filter, rfl, live, start, arrive, takes⟩
    have pair := coherent.lookupDirect?_eq_some_iff.mpr ⟨filter, live, start, arrive⟩
    simp [directChains, pair, live, takes]

theorem Coherent.mem_chainsFrom_cons {handle : FilterId} {rest : List FilterId} :
    handle :: rest ∈ graph.chainsFrom size dest visited current ↔
      ∃ filter, graph.filter? handle = some filter ∧ filter.source = current ∧
        filter.accepts size = true ∧
        ((filter.dest = dest ∧ rest = []) ∨
          (filter.dest ≠ dest ∧ filter.dest ∉ visited ∧
            rest ∈ graph.chainsFrom size dest (filter.dest :: visited) filter.dest)) := by
  rw [chainsFrom_eq, List.mem_append, coherent.mem_directChains, List.mem_flatMap]
  constructor
  · rintro (⟨_, filter, single, live, start, arrive, takes⟩ | ⟨entry, leaves, member⟩)
    · cases single
      exact ⟨filter, live, start, takes, .inl ⟨arrive, rfl⟩⟩
    · unfold chainsVia at member
      split at member
      · rename_i onward
        obtain ⟨tail, listed, same⟩ := List.mem_map.mp member
        cases same
        obtain ⟨live, start⟩ := coherent.mem_filtersFrom.mp leaves
        exact ⟨entry.2, live, start, onward.2.2.1, .inr ⟨onward.1, onward.2.1, listed⟩⟩
      · cases member
  · rintro ⟨filter, live, start, takes, ⟨arrive, rfl⟩ | ⟨passes, fresh, listed⟩⟩
    · exact .inl ⟨handle, filter, rfl, live, start, arrive, takes⟩
    · refine .inr ⟨(handle, filter), coherent.mem_filtersFrom.mpr ⟨live, start⟩, ?_⟩
      have known := coherent.mem_handles.mpr (coherent.registered handle filter live).2
      rw [chainsVia, if_pos ⟨passes, fresh, takes, known⟩]
      exact List.mem_map_of_mem listed

theorem Coherent.nil_notMem_chainsFrom :
    [] ∉ graph.chainsFrom size dest visited current := by
  rw [chainsFrom_eq, List.mem_append, coherent.mem_directChains, List.mem_flatMap]
  rintro (⟨_, _, same, _⟩ | ⟨entry, _, member⟩)
  · cases same
  · unfold chainsVia at member
    split at member
    · obtain ⟨_, _, same⟩ := List.mem_map.mp member
      cases same
    · cases member

/-- The enumeration lists the walks into the destination that enter every type at most once
and none that is visited already. -/
theorem Coherent.mem_chainsFrom {handles : List FilterId} (destAhead : dest ∉ visited) :
    handles ∈ graph.chainsFrom size dest visited current ↔
      handles ≠ [] ∧ graph.Walk size current handles dest ∧ (graph.destsOf handles).Nodup ∧
        ∀ place ∈ graph.destsOf handles, place ∉ visited := by
  induction handles generalizing visited current with
  | nil => simp [coherent.nil_notMem_chainsFrom]
  | cons handle rest ih =>
      rw [coherent.mem_chainsFrom_cons, walk_cons_iff]
      constructor
      · rintro ⟨filter, live, start, takes, ⟨rfl, rfl⟩ | ⟨passes, fresh, listed⟩⟩
        · exact ⟨List.cons_ne_nil _ _, ⟨filter, live, start, takes, .nil _⟩,
            by simp [destsOf_cons live], by simp [destsOf_cons live, destAhead]⟩
        · have ahead : dest ∉ filter.dest :: visited := by simp [passes.symm, destAhead]
          obtain ⟨_, walk, nodup, avoids⟩ := (ih ahead).mp listed
          refine ⟨List.cons_ne_nil _ _, ⟨filter, live, start, takes, walk⟩, ?_, ?_⟩
          · rw [destsOf_cons live]
            exact List.nodup_cons.mpr
              ⟨fun again => avoids _ again (List.mem_cons_self ..), nodup⟩
          · rw [destsOf_cons live]
            intro place entered
            rcases List.mem_cons.mp entered with rfl | later
            · exact fresh
            · exact fun seen => avoids place later (List.mem_cons_of_mem _ seen)
      · rintro ⟨_, ⟨filter, live, start, takes, walk⟩, nodup, avoids⟩
        rw [destsOf_cons live] at nodup avoids
        obtain ⟨once, nodupRest⟩ := List.nodup_cons.mp nodup
        refine ⟨filter, live, start, takes, ?_⟩
        by_cases arrives : filter.dest = dest
        · -- A walk that has arrived stops there, or it would enter its destination twice.
          refine .inl ⟨arrives, ?_⟩
          by_contra proceeds
          exact once (arrives ▸ walk.dest_mem_destsOf proceeds)
        · have ahead : dest ∉ filter.dest :: visited := by
            simp [Ne.symm arrives, destAhead]
          refine .inr ⟨arrives, avoids _ (List.mem_cons_self ..), (ih ahead).mpr ?_⟩
          refine ⟨walk.ne_nil arrives, walk, nodupRest, fun place entered seen => ?_⟩
          rcases List.mem_cons.mp seen with rfl | seen
          · exact once entered
          · exact avoids place (List.mem_cons_of_mem _ entered) seen

/-- **Between different types the enumeration lists the simple walks.** -/
theorem Coherent.mem_chainsFrom_self {handles : List FilterId} (apart : current ≠ dest) :
    handles ∈ graph.chainsFrom size dest [current] current ↔
      graph.SimpleWalk size current handles dest := by
  rw [coherent.mem_chainsFrom (by simpa using apart.symm)]
  constructor
  · rintro ⟨_, walk, nodup, avoids⟩
    exact ⟨walk, nodup, fun back => avoids current back (List.mem_singleton_self _)⟩
  · rintro ⟨walk, nodup, leaves⟩
    refine ⟨walk.ne_nil apart, walk, nodup, fun place entered seen => leaves ?_⟩
    exact List.mem_singleton.mp seen ▸ entered

/-- The chains of the enumeration are not longer than there are types to visit. -/
theorem Coherent.length_le_of_mem_chainsFrom {handles : List FilterId} (destAhead : dest ∉ visited)
    (listed : handles ∈ graph.chainsFrom size dest visited current) :
    handles.length ≤ graph.types.size := by
  obtain ⟨_, walk, nodup, _⟩ := (coherent.mem_chainsFrom destAhead).mp listed
  have within : graph.destsOf handles ⊆ graph.types.handles := fun place entered =>
    coherent.mem_handles.mpr (coherent.contains_of_mem_destsOf entered)
  have bound := (List.Nodup.subperm nodup within).length_le
  rwa [walk.length_destsOf, TypeRegistry.length_handles] at bound

/-- The cost of an enumerated chain fits into a long word. -/
theorem Coherent.costOf_lt_of_mem_chainsFrom {handles : List FilterId} (destAhead : dest ∉ visited)
    (listed : handles ∈ graph.chainsFrom size dest visited current) :
    graph.costOf handles < UInt64.size :=
  costOf_lt (Nat.le_trans (coherent.length_le_of_mem_chainsFrom destAhead listed)
    coherent.types.size_le)

end Members

/-! ## Selecting one chain -/

/-- Which of two selections stands: in either mode the first, unless the aim is the least
cost and the second costs less. -/
def prefer (graph : FilterGraph) :
    SearchMode → Option (List FilterId) → Option (List FilterId) → Option (List FilterId)
  | _, none, other => other
  | _, some chain, none => some chain
  | .firstFound, some chain, some _ => some chain
  | .cheapest, some chain, some other =>
      if graph.costOf chain ≤ graph.costOf other then some chain else some other

/-- The chain that a search has to choose from all chains: the first of the cheapest, or the
first. -/
def select (graph : FilterGraph) : SearchMode → List (List FilterId) → Option (List FilterId)
  | .cheapest, chains => graph.firstCheapest chains
  | .firstFound, chains => chains.head?

section Selection

variable {graph : FilterGraph} {mode : SearchMode}

@[simp] theorem prefer_none_left (other : Option (List FilterId)) :
    graph.prefer mode none other = other := by
  cases other <;> rfl

@[simp] theorem prefer_none_right (best : Option (List FilterId)) :
    graph.prefer mode best none = best := by
  cases best <;> rfl

theorem prefer_firstFound_some (chain : List FilterId) (other : Option (List FilterId)) :
    graph.prefer .firstFound (some chain) other = some chain := by
  cases other <;> rfl

theorem prefer_assoc (first second third : Option (List FilterId)) :
    graph.prefer mode (graph.prefer mode first second) third =
      graph.prefer mode first (graph.prefer mode second third) := by
  cases first with
  | none => simp
  | some one =>
    cases second with
    | none => simp
    | some two =>
      cases third with
      | none => simp
      | some three =>
        cases mode with
        | firstFound => rfl
        | cheapest =>
            by_cases left : graph.costOf one ≤ graph.costOf two <;>
              by_cases right : graph.costOf two ≤ graph.costOf three <;>
              by_cases outer : graph.costOf one ≤ graph.costOf three <;>
              first
              | omega
              | simp [prefer, left, right, outer]

@[simp] theorem select_nil : graph.select mode [] = none := by
  cases mode <;> rfl

theorem select_cons (chain : List FilterId) (rest : List (List FilterId)) :
    graph.select mode (chain :: rest) =
      graph.prefer mode (some chain) (graph.select mode rest) := by
  cases mode with
  | firstFound => rw [prefer_firstFound_some]; rfl
  | cheapest =>
      simp only [select, firstCheapest]
      cases graph.firstCheapest rest <;> rfl

/-- Of two lists of chains joined, one of the two selections is selected. -/
theorem select_append (first second : List (List FilterId)) :
    graph.select mode (first ++ second) =
      graph.prefer mode (graph.select mode first) (graph.select mode second) := by
  induction first with
  | nil => simp
  | cons chain rest ih => rw [List.cons_append, select_cons, select_cons, ih, prefer_assoc]

theorem prefer_mem {first second : Option (List FilterId)} {chain : List FilterId}
    (chosen : graph.prefer mode first second = some chain) :
    first = some chain ∨ second = some chain := by
  unfold prefer at chosen
  split at chosen
  · exact .inr chosen
  · exact .inl chosen
  · exact .inl chosen
  · split at chosen
    · exact .inl chosen
    · exact .inr chosen

theorem select_mem {chains : List (List FilterId)} {chain : List FilterId}
    (chosen : graph.select mode chains = some chain) : chain ∈ chains := by
  induction chains with
  | nil => simp at chosen
  | cons first rest ih =>
      rw [select_cons] at chosen
      rcases prefer_mem chosen with same | later
      · cases same
        exact List.mem_cons_self ..
      · exact List.mem_cons_of_mem _ (ih later)

theorem select_eq_none_iff {chains : List (List FilterId)} :
    graph.select mode chains = none ↔ chains = [] := by
  cases chains with
  | nil => simp
  | cons first rest =>
      rw [select_cons]
      cases graph.select mode rest with
      | none => simp
      | some other =>
          cases mode
          · simp only [prefer]
            split <;> simp
          · simp [prefer]

/-- With the least cost as the aim, neither of two selections costs less than the one that
stands. -/
theorem costOf_prefer_le {first second : Option (List FilterId)} {chain other : List FilterId}
    (chosen : graph.prefer .cheapest first second = some chain)
    (offered : first = some other ∨ second = some other) :
    graph.costOf chain ≤ graph.costOf other := by
  unfold prefer at chosen
  split at chosen
  · simp_all
  · simp_all
  · simp_all
  · split at chosen <;> cases chosen <;> rcases offered with same | same <;> cases same <;> omega

/-- With the least cost as the aim, no chain costs less than the selected one. -/
theorem costOf_select_le {chains : List (List FilterId)} {chain : List FilterId}
    (chosen : graph.select .cheapest chains = some chain) :
    ∀ other ∈ chains, graph.costOf chain ≤ graph.costOf other := by
  induction chains generalizing chain with
  | nil => simp
  | cons first rest ih =>
      rw [select_cons] at chosen
      intro other listed
      rcases List.mem_cons.mp listed with rfl | later
      · exact costOf_prefer_le chosen (.inl rfl)
      · cases best : graph.select .cheapest rest with
        | none =>
            rw [select_eq_none_iff.mp best] at later
            cases later
        | some least =>
            exact Nat.le_trans (costOf_prefer_le chosen (.inr best)) (ih best other later)

/-- The same filter in front of all chains is in front of the selected one. -/
theorem select_map_cons (handle : FilterId) (chains : List (List FilterId)) :
    graph.select mode (chains.map (handle :: ·)) =
      (graph.select mode chains).map (handle :: ·) := by
  induction chains with
  | nil => simp
  | cons chain rest ih =>
      rw [List.map_cons, select_cons, select_cons, ih]
      cases graph.select mode rest with
      | none => simp
      | some other =>
          cases mode with
          | firstFound => rfl
          | cheapest =>
              simp only [prefer, Option.map_some, costOf, Nat.add_le_add_iff_left]
              split <;> rfl

/-- The selection depends on the costs of the chains alone. -/
theorem select_congr {older : FilterGraph} {chains : List (List FilterId)}
    (same : ∀ chain ∈ chains, graph.costOf chain = older.costOf chain) :
    graph.select mode chains = older.select mode chains := by
  induction chains with
  | nil => rw [select_nil, select_nil]
  | cons chain rest ih =>
      obtain ⟨first, others⟩ := List.forall_mem_cons.mp same
      rw [select_cons, select_cons, ih others]
      cases best : older.select mode rest with
      | none => rw [prefer_none_right, prefer_none_right]
      | some other =>
          cases mode with
          | firstFound => rfl
          | cheapest => rw [prefer, prefer, first, others other (select_mem best)]

end Selection

end PrintPlanner.FilterGraph
