import PrintPlanner.Proofs.Fixture.Build
import PrintPlanner.Proofs.Graph.Improvements

/-!
# What a loader makes of its declarations

A loader first registers all names and then adds the filters, resolving their names again, and a
filter without a size limit counts as one with the limit zero.  This is how a fixture is built from
the same declarations in another order (`Declaration.loadingOrder`,
`Declaration.loadAll_eq_ok_iff`).  So a list of declarations loaded into the empty graph is what it
says: the types in order of first mention and one filter for each pair in order of first
declaration, which is the first of the cheapest that are declared for the pair
(`Declaration.loadAll_empty`).
-/

set_option autoImplicit false

namespace PrintPlanner

open Text

/-- The line with the limit zero, if it states none. -/
def FilterLine.stated (line : FilterLine) : FilterLine :=
  { line with limit := some (line.limit.getD 0) }

/-- The line costs less than every line before it, and no more than any after it. -/
def FilterLine.IsFirstCheapest (lines : List FilterLine) (line : FilterLine) : Prop :=
  ∃ front back, lines = front ++ line :: back ∧ (∀ other ∈ front, line.cost < other.cost) ∧
    ∀ other ∈ back, line.cost ≤ other.cost

theorem FilterLine.pairs_map_stated (lines : List FilterLine) :
    pairs (lines.map stated) = pairs lines := by
  rw [pairs, List.map_map, pairs]
  rfl

theorem FilterLine.offers_map_stated (lines : List FilterLine) (ends : String × String)
    (handle : FilterId) :
    offers (lines.map stated) ends handle = (offers lines ends handle).map Offer.stated := by
  rw [offers, offers, List.filter_map, List.map_map, List.map_map]
  rfl

/-- A filter whose lines state their limits carries the first of the cheapest lines. -/
theorem Settles.exists_isFirstCheapest {ends : Endpoints} {lines : List FilterLine}
    {texts : String × String} {handle : FilterId} {filter : Filter}
    (settles : Settles ends (FilterLine.offers (lines.map FilterLine.stated) texts handle) filter) :
    ∃ line, FilterLine.IsFirstCheapest (lines.filter (·.pair = texts)) line ∧
      filter.cost = line.cost ∧ filter.maxSize = line.limit.getD 0 ∧
      filter.program = line.program := by
  obtain ⟨front, best, back, split, dearer, notCheaper, cost, program⟩ :=
    settles.exists_firstCheapest
  rw [FilterLine.offers_map_stated] at settles split
  rw [FilterLine.offers, List.map_map] at split
  obtain ⟨before, rest, whole, rfl, others⟩ := List.map_eq_append_iff.mp split
  obtain ⟨line, after, rfl, rfl, rfl⟩ := List.map_eq_cons_iff.mp others
  have dearerLines : ∀ other ∈ before, line.cost < other.cost := fun other member =>
    dearer _ (List.mem_map_of_mem member)
  have noCheaperLines : ∀ other ∈ after, line.cost ≤ other.cost := fun other member =>
    notCheaper _ (List.mem_map_of_mem member)
  have dearerOffers : ∀ other ∈ before.map (FilterLine.offer handle),
      (line.offer handle).cost < other.cost := List.forall_mem_map.mpr dearerLines
  have noCheaperOffers : ∀ other ∈ after.map (FilterLine.offer handle),
      (line.offer handle).cost ≤ other.cost := List.forall_mem_map.mpr noCheaperLines
  have improved : (improvements (FilterLine.offers lines texts handle)).getLast? =
      some (line.offer handle) := by
    rw [FilterLine.offers, whole, List.map_append, List.map_cons,
      improvements_append_cons dearerOffers noCheaperOffers, List.getLast?_concat]
  exact ⟨line, ⟨before, after, whole, dearerLines, noCheaperLines⟩, cost,
    settles.maxSize_eq_of_stated improved, program⟩

namespace Declaration

/-- The filter of a declaration with its size limit stated. -/
def limited? : Declaration → Option Declaration
  | mediaType _ => none
  | filter source dest cost program => some (limitedFilter source dest cost 0 program)
  | limitedFilter source dest cost maxSize program =>
      some (limitedFilter source dest cost maxSize program)

/-- What a loader does, step by step: it declares all names and then all filters. -/
def loadingOrder (declarations : List Declaration) : List Declaration :=
  (declarations.flatMap names).map mediaType ++ declarations.filterMap limited?

/-! ## A loader builds a fixture -/

variable {graph changed : FilterGraph} {declarations : List Declaration}
  {source dest program : String} {cost : UInt32} {maxSize : UInt64}

theorem addNames_eq_ok_iff {names : List String} :
    addNames names graph = (.ok (), changed) ↔
      Fixture.build ((names.map mediaType).map .declare) graph = .ok changed := by
  induction names generalizing graph with
  | nil => simp [addNames, Fixture.build]
  | cons name rest ih =>
      rw [List.map_cons, Fixture.build_cons_eq_ok_iff, addNames]
      simp only [Fixture.declare_mediaType_eq_ok_iff, ← addName_eq_ok_iff]
      cases added : addName graph name with
      | error error => simp
      | ok pair => simp [ih, Prod.ext_iff]

theorem addNamedFilter_eq_ok_iff :
    addNamedFilter graph source dest cost maxSize program = (.ok (), changed) ↔
      Fixture.addLine graph source dest cost (some maxSize) program = .ok changed := by
  rw [Fixture.addLine_eq_ok_iff, addNamedFilter]
  simp only [← addName_eq_ok_iff]
  cases sourceAdded : addName graph source with
  | error error => simp
  | ok sourcePair =>
      obtain ⟨sourceId, first⟩ := sourcePair
      cases destAdded : addName first dest with
      | error error => simp [destAdded]
      | ok destPair =>
          obtain ⟨destId, second⟩ := destPair
          cases offered : second.addLimitedFilter sourceId destId cost maxSize program with
          | error error =>
              rw [FilterGraph.addLimitedFilter] at offered
              simp [destAdded, offered, FilterGraph.addLimitedFilter]
          | ok offer =>
              rw [FilterGraph.addLimitedFilter] at offered
              simp [destAdded, offered, FilterGraph.addLimitedFilter, Prod.ext_iff]

theorem addDeclaredFilter_eq_ok_iff {declaration : Declaration} :
    addDeclaredFilter graph declaration = (.ok (), changed) ↔
      Fixture.build (declaration.limited?.toList.map .declare) graph = .ok changed := by
  cases declaration with
  | mediaType name => simp [addDeclaredFilter, limited?, Fixture.build]
  | filter source dest cost program =>
      exact addNamedFilter_eq_ok_iff.trans
        (Fixture.build_single_eq_ok_iff (limitedFilter source dest cost 0 program)).symm
  | limitedFilter source dest cost maxSize program =>
      exact addNamedFilter_eq_ok_iff.trans
        (Fixture.build_single_eq_ok_iff (limitedFilter source dest cost maxSize program)).symm

theorem addDeclaredFilters_eq_ok_iff :
    addDeclaredFilters declarations graph = (.ok (), changed) ↔
      Fixture.build ((declarations.filterMap limited?).map .declare) graph = .ok changed := by
  induction declarations generalizing graph with
  | nil => simp [addDeclaredFilters, Fixture.build]
  | cons declaration rest ih =>
      have split : (declaration :: rest).filterMap limited? =
          declaration.limited?.toList ++ rest.filterMap limited? := by
        rw [List.filterMap_cons]
        cases declaration.limited? <;> rfl
      rw [split, List.map_append, Fixture.build_append_eq_ok_iff, addDeclaredFilters]
      simp only [← addDeclaredFilter_eq_ok_iff, ← ih]
      rcases addDeclaredFilter graph declaration with ⟨_ | _, middle⟩
      · simp
      · simp

/-- **A loader succeeds as the building of a fixture does, and leaves the same graph.** -/
theorem loadAll_eq_ok_iff :
    loadAll declarations graph = (.ok (), changed) ↔
      Fixture.build ((loadingOrder declarations).map .declare) graph = .ok changed := by
  rw [loadingOrder, List.map_append, Fixture.build_append_eq_ok_iff, loadAll]
  simp only [← addNames_eq_ok_iff, ← addDeclaredFilters_eq_ok_iff]
  rcases addNames (declarations.flatMap names) graph with ⟨_ | _, middle⟩
  · simp
  · simp

/-! ## What the loading order declares -/

theorem names_of_limited? {declaration limited : Declaration}
    (states : declaration.limited? = some limited) : limited.names = declaration.names := by
  cases declaration <;> cases states <;> rfl

theorem line?_of_limited? (declaration : Declaration) :
    declaration.limited?.bind line? = declaration.line?.map FilterLine.stated := by
  cases declaration <;> rfl

/-- The names are mentioned in the same order, and then some of them again. -/
theorem exists_names_loadingOrder (declarations : List Declaration) :
    ∃ again, (loadingOrder declarations).flatMap names = declarations.flatMap names ++ again ∧
      again ⊆ declarations.flatMap names := by
  refine ⟨(declarations.filterMap limited?).flatMap names, ?_, fun name member => ?_⟩
  · have once : (declarations.flatMap names).flatMap (fun name => names (mediaType name)) =
        declarations.flatMap names := List.flatMap_singleton' _
    rw [loadingOrder, List.flatMap_append, List.flatMap_map, once]
  · obtain ⟨limited, among, mentioned⟩ := List.mem_flatMap.mp member
    obtain ⟨declaration, declared, states⟩ := List.mem_filterMap.mp among
    rw [names_of_limited? states] at mentioned
    exact List.mem_flatMap.mpr ⟨declaration, declared, mentioned⟩

theorem valid_loadingOrder_iff : Valid (loadingOrder declarations) ↔ Valid declarations := by
  obtain ⟨again, split, old⟩ := exists_names_loadingOrder declarations
  rw [Valid, split, List.forall_mem_append]
  exact ⟨And.left, fun valid => ⟨valid, fun name member => valid name (old member)⟩⟩

theorem eraseDups_texts_loadingOrder :
    (texts (loadingOrder declarations)).eraseDups = (texts declarations).eraseDups := by
  obtain ⟨again, split, old⟩ := exists_names_loadingOrder declarations
  rw [texts, split, List.map_append]
  exact eraseDups_append_of_subset (List.map_subset _ old)

theorem lines_loadingOrder :
    lines (loadingOrder declarations) = (lines declarations).map FilterLine.stated := by
  have types : ((declarations.flatMap names).map mediaType).filterMap line? = [] := by
    rw [List.filterMap_map, List.filterMap_eq_nil_iff]
    exact fun _ _ => rfl
  rw [lines, loadingOrder, List.filterMap_append, types, List.nil_append, List.filterMap_filterMap,
    lines, List.map_filterMap]
  exact List.filterMap_congr fun declaration _ => line?_of_limited? declaration

theorem fits_loadingOrder_iff : Fits (loadingOrder declarations) ↔ Fits declarations := by
  have pairs : FilterLine.pairs (lines (loadingOrder declarations)) =
      FilterLine.pairs (lines declarations) := by
    rw [lines_loadingOrder, FilterLine.pairs_map_stated]
  constructor
  · rintro ⟨typeRoom, pairRoom⟩
    rw [eraseDups_texts_loadingOrder] at typeRoom
    rw [pairs] at pairRoom
    exact ⟨typeRoom, pairRoom⟩
  · rintro ⟨typeRoom, pairRoom⟩
    rw [← eraseDups_texts_loadingOrder] at typeRoom
    rw [← pairs] at pairRoom
    exact ⟨typeRoom, pairRoom⟩

/-! ## Loading into the empty graph -/

/-- **Loading succeeds exactly if all names are valid and there are handles enough.** -/
theorem loadAll_succeeds_iff :
    (loadAll declarations ∅).1 = .ok () ↔ Valid declarations ∧ Fits declarations := by
  rw [← valid_loadingOrder_iff, ← fits_loadingOrder_iff, ← Fixture.exists_build_iff]
  simp only [← loadAll_eq_ok_iff, Prod.ext_iff, exists_and_left, exists_eq', and_true]

/-- The loaded graph represents the names and the lines with their limits stated. -/
theorem represents_loadAll (succeeds : (loadAll declarations ∅).1 = .ok ()) :
    (loadAll declarations ∅).2.Represents (texts declarations)
      ((lines declarations).map FilterLine.stated) := by
  have built := loadAll_eq_ok_iff.mp (Prod.ext succeeds rfl)
  have represents := (Fixture.represents_build built).2
  rw [lines_loadingOrder] at represents
  exact represents.congr_names eraseDups_texts_loadingOrder

theorem addNames_append {first second : List String} {middle : FilterGraph}
    (added : addNames first graph = (.ok (), middle)) :
    addNames (first ++ second) graph = addNames second middle := by
  induction first generalizing graph with
  | nil =>
      cases added
      rfl
  | cons name rest ih =>
      rw [addNames] at added
      rw [List.cons_append, addNames]
      cases result : addName graph name with
      | error error =>
          rw [result] at added
          cases added
      | ok pair =>
          rw [result] at added
          exact ih added

/-- Valid names in front do not keep a name from being refused, as long as they have handles. -/
theorem loadAll_of_refusal? {good rest : List String} {bad : String} {error : CollaboratorError}
    (mentioned : declarations.flatMap names = good ++ bad :: rest)
    (valid : ∀ name ∈ good, IsTypeText name)
    (room : (good.map foldCase).eraseDups.length ≤ handleCount)
    (refused : refusal? bad = some error) : (loadAll declarations ∅).1 = .error error := by
  have once : (good.map mediaType).flatMap names = good := by
    rw [List.flatMap_map]
    exact List.flatMap_singleton' _
  have noLines : lines (good.map mediaType) = [] := by
    rw [lines, List.filterMap_map, List.filterMap_eq_nil_iff]
    exact fun _ _ => rfl
  have goodValid : Valid (good.map mediaType) := by
    rw [Valid, once]
    exact valid
  have goodFits : Fits (good.map mediaType) :=
    ⟨by rw [texts, once]; exact room, by rw [noLines]; exact Nat.zero_le _⟩
  obtain ⟨middle, built⟩ := Fixture.exists_build_iff.mpr ⟨goodValid, goodFits⟩
  have added : addNames good ∅ = (.ok (), middle) := addNames_eq_ok_iff.mpr built
  rw [loadAll, mentioned, addNames_append added, addNames, addName_of_refusal? refused]

/-- The graph has the types and the filters that are declared. -/
structure HeldBy (declarations : List Declaration) (graph : FilterGraph) : Prop where
  /-- The types are the different names in lower case, in order of first mention. -/
  types : graph.types.types.toList.map MediaType.text = (texts declarations).eraseDups
  /-- The filters connect the different pairs, in order of first declaration. -/
  pairs : graph.filters.map (fun entry =>
      (graph.types.text? entry.2.source, graph.types.text? entry.2.dest)) =
    (FilterLine.pairs (lines declarations)).map fun ends => (some ends.1, some ends.2)
  /-- Each filter carries the first of the cheapest lines for its pair. -/
  filters : ∀ handle filter ends, (handle, filter) ∈ graph.filters →
    graph.types.Joins filter ends →
      ∃ line, FilterLine.IsFirstCheapest ((lines declarations).filter (·.pair = ends)) line ∧
        filter.cost = line.cost ∧ filter.maxSize = line.limit.getD 0 ∧
        filter.program = line.program

theorem heldBy_loadAll (succeeds : (loadAll declarations ∅).1 = .ok ()) :
    HeldBy declarations (loadAll declarations ∅).2 := by
  have represents := represents_loadAll succeeds
  refine ⟨represents.texts, ?_, fun handle filter ends listed joins => ?_⟩
  · rw [← FilterLine.pairs_map_stated]
    exact represents.map_filters
  · have live := represents.coherent.mem_filters.mp listed
    obtain ⟨other, _, otherJoins, settles⟩ := represents.exists_pair live
    obtain rfl : other = ends := otherJoins.unique joins
    exact settles.exists_isFirstCheapest

/-- **A loaded graph equals its declarations.**  Loading a list of declarations into the empty graph
succeeds exactly if every mentioned name is the text of a media type, unless there are more types or
pairs than handles.  The error is otherwise that of the first name which is not.  What has been
loaded are the declared types and, for each pair, the first of the cheapest declared filters. -/
theorem loadAll_empty (declarations : List Declaration) :
    let load := (DeclarationSource.listed declarations).loader.load ∅
    (load.1 = .ok () ↔ Valid declarations ∧ Fits declarations) ∧
      (∀ good bad rest, declarations.flatMap names = good ++ bad :: rest →
        (∀ name ∈ good, IsTypeText name) → ¬ IsTypeText bad →
          (good.map foldCase).eraseDups.length ≤ handleCount →
            ∃ error, refusal? bad = some error ∧ load.1 = .error error) ∧
      (load.1 = .ok () → HeldBy declarations load.2) := by
  refine ⟨loadAll_succeeds_iff, ?_, heldBy_loadAll⟩
  intro good bad rest mentioned valid invalid room
  obtain ⟨error, refused⟩ := Option.ne_none_iff_exists'.mp (mt refusal?_eq_none_iff.mp invalid)
  exact ⟨error, refused, loadAll_of_refusal? mentioned valid room refused⟩

/-- Three offers for one pair, the cheapest of which comes twice, after another pair and a type. -/
def mixedDeclarations : List Declaration := [
  .filter "Image/PNG" "text/plain" 1 "ocr", .mediaType "printer/office",
  .filter "text/plain" "application/pdf" 9 "slow",
  .limitedFilter "Text/Plain" "Application/PDF" 4 100 "texttopdf",
  .filter "text/plain" "application/pdf" 4 "late"]

/-- The same declarations with a name that has no slash and one that has no second part. -/
def faultyDeclarations : List Declaration :=
  mixedDeclarations ++ [.filter "text/plain" "pdf" 1 "cut", .mediaType "text/"]

/-- The first of the cheapest offers counts, with its limit, and the first faulty name is to
blame. -/
theorem loadAll_empty_mixed :
    let load := (DeclarationSource.listed mixedDeclarations).loader.load ∅
    (load.1 = .ok () ∧
        load.2.types.types.toList.map MediaType.text =
          ["image/png", "text/plain", "printer/office", "application/pdf"] ∧
        load.2.filters = [(⟨0⟩, ⟨⟨0⟩, ⟨1⟩, 1, 0, "ocr"⟩),
          (⟨1⟩, ⟨⟨1⟩, ⟨3⟩, 4, 100, "texttopdf"⟩)]) ∧
      ((DeclarationSource.listed faultyDeclarations).loader.load ∅).1 =
        .error (.other "bad type name \"pdf\"") := by
  obtain ⟨succeeds_iff, _, holds⟩ := loadAll_empty mixedDeclarations
  have succeeds := succeeds_iff.mpr (by decide +kernel)
  have texts : (texts mixedDeclarations).eraseDups =
      ["image/png", "text/plain", "printer/office", "application/pdf"] := by decide +kernel
  refine ⟨⟨succeeds, (holds succeeds).types.trans texts, by decide +kernel⟩, ?_⟩
  have split : faultyDeclarations.flatMap names =
      (mixedDeclarations.flatMap names ++ ["text/plain"]) ++ "pdf" :: ["text/"] := rfl
  obtain ⟨error, refused, outcome⟩ := (loadAll_empty faultyDeclarations).2.1 _ _ _ split
    (by decide +kernel) (by decide +kernel) (by decide +kernel)
  have blamed : refusal? "pdf" = some (.other "bad type name \"pdf\"") := by decide +kernel
  rw [outcome, Option.some.inj (refused.symm.trans blamed)]

end Declaration

end PrintPlanner
