import PrintPlanner.Proofs.Fixture.Represents

/-!
# Building a graph from declarations

A fixture is built declaration by declaration, and each types and filters by name.  One declaration
adds its names and its filter line to what the graph represents
(`FilterGraph.Represents.declare`), so a whole list adds all of its names and lines
(`FilterGraph.Represents.build`).  The building succeeds exactly if all names are valid and there
are handles for all of them and for all pairs (`Fixture.exists_build_iff`).
-/

set_option autoImplicit false

namespace PrintPlanner

open Text

/-! ## The steps of a declaration -/

namespace Fixture

open FilterGraph

/-- Adds a filter between two names, with a size limit if one is stated. -/
def addLine (graph : FilterGraph) (source dest : String) (cost : UInt32) (limit : Option UInt64)
    (program : String) : Except FixtureFault FilterGraph := do
  let (sourceId, destId, graph) ← addEnds graph source dest
  ((graph.offerFilter sourceId destId cost limit program).mapError .filter).map Prod.snd

variable {graph changed : FilterGraph} {source dest name program : String} {cost : UInt32}
  {limit : Option UInt64}

theorem declare_mediaType_eq_ok_iff :
    declare graph (.mediaType name) = .ok changed ↔
      ∃ handle, addName graph name = .ok (handle, changed) := by
  cases added : addName graph name with
  | error fault => simp [declare, added, Except.map]
  | ok pair => simp [declare, added, Except.map, Prod.ext_iff]

theorem addLine_eq_ok_iff :
    addLine graph source dest cost limit program = .ok changed ↔
      ∃ sourceId first destId second handle, addName graph source = .ok (sourceId, first) ∧
        addName first dest = .ok (destId, second) ∧
        second.offerFilter sourceId destId cost limit program = .ok (handle, changed) := by
  unfold addLine addEnds
  cases sourceAdded : addName graph source with
  | error fault => simp [bind, Except.bind]
  | ok sourcePair =>
      obtain ⟨sourceId, first⟩ := sourcePair
      cases destAdded : addName first dest with
      | error fault => simp [bind, Except.bind, destAdded]
      | ok destPair =>
          obtain ⟨destId, second⟩ := destPair
          cases offered : second.offerFilter sourceId destId cost limit program with
          | error fault =>
              simp [bind, Except.bind, destAdded, offered, Except.mapError, Except.map]
          | ok offer =>
              simp [bind, Except.bind, destAdded, offered, Except.mapError, Except.map,
                Prod.ext_iff]

/-- Building goes declaration by declaration. -/
theorem build_cons_eq_ok_iff {declaration : Declaration} {rest : List Declaration} :
    build ((declaration :: rest).map .declare) graph = .ok changed ↔
      ∃ middle, declare graph declaration = .ok middle ∧
        build (rest.map .declare) middle = .ok changed := by
  rw [List.map_cons, build, apply]
  cases declare graph declaration with
  | error fault => simp [bind, Except.bind]
  | ok middle => simp [bind, Except.bind]

theorem build_single_eq_ok_iff (declaration : Declaration) :
    build [.declare declaration] graph = .ok changed ↔ declare graph declaration = .ok changed := by
  rw [build, apply]
  cases declare graph declaration with
  | error fault => simp [bind, Except.bind]
  | ok middle => simp [bind, Except.bind, build]

theorem build_append_eq_ok_iff {first second : List FixtureStep} :
    build (first ++ second) graph = .ok changed ↔
      ∃ middle, build first graph = .ok middle ∧ build second middle = .ok changed := by
  induction first generalizing graph with
  | nil => simp [build]
  | cons step rest ih =>
      rw [List.cons_append, build, build]
      cases apply graph step with
      | error fault => simp [bind, Except.bind]
      | ok middle => exact ih

theorem isTypeText_of_addName {handle : MediaTypeId}
    (added : addName graph name = .ok (handle, changed)) : IsTypeText name := by
  obtain ⟨media, parsed, _⟩ := addName_eq_ok_iff.mp added
  exact MediaType.exists_parse_iff.mp ⟨media, parsed⟩

end Fixture

/-! ## What a declaration adds -/

namespace FilterGraph

variable {graph changed : FilterGraph} {names : List String} {lines : List FilterLine}
  {source dest name program : String} {cost : UInt32} {limit : Option UInt64}
  {declaration : Declaration} {declarations : List Declaration}

section Represents

variable (represents : graph.Represents names lines)
include represents

theorem Represents.addName {handle : MediaTypeId}
    (added : Fixture.addName graph name = .ok (handle, changed)) :
    changed.Represents (names ++ [foldCase name]) lines ∧
      changed.types.text? handle = some (foldCase name) := by
  obtain ⟨media, parsed, inserted⟩ := Fixture.addName_eq_ok_iff.mp added
  have mentioned := represents.mention inserted
  rw [MediaType.text_of_parse parsed] at mentioned
  obtain ⟨types, stored, rfl⟩ := insertType_cases inserted
  have found := represents.coherent.types.get?_insert stored
  exact ⟨mentioned, TypeRegistry.text?_eq_some_iff.mpr
    ⟨media, found, MediaType.text_of_parse parsed⟩⟩

theorem Represents.exists_addName (valid : IsTypeText name)
    (room : (names ++ [foldCase name]).eraseDups.length ≤ handleCount) :
    ∃ handle changed, Fixture.addName graph name = .ok (handle, changed) := by
  obtain ⟨media, parsed⟩ := MediaType.exists_parse_iff.mpr valid
  rw [← MediaType.text_of_parse parsed] at room
  obtain ⟨handle, changed, inserted⟩ := represents.exists_insertType room
  exact ⟨handle, changed, Fixture.addName_eq_ok_iff.mpr ⟨media, parsed, inserted⟩⟩

theorem Represents.addLine
    (added : Fixture.addLine graph source dest cost limit program = .ok changed) :
    (IsTypeText source ∧ IsTypeText dest) ∧
      changed.Represents (names ++ [foldCase source, foldCase dest])
        (lines ++ [⟨foldCase source, foldCase dest, cost, limit, program⟩]) := by
  obtain ⟨sourceId, first, destId, second, handle, sourceAdded, destAdded, offered⟩ :=
    Fixture.addLine_eq_ok_iff.mp added
  obtain ⟨firstRepresents, sourceNamed⟩ := represents.addName sourceAdded
  obtain ⟨secondRepresents, destNamed⟩ := firstRepresents.addName destAdded
  obtain ⟨_, _, inserted⟩ := Fixture.addName_eq_ok_iff.mp destAdded
  have stillNamed := (extends_of_insertType inserted).text? sourceNamed
  rw [List.append_assoc, List.singleton_append] at secondRepresents
  exact ⟨⟨Fixture.isTypeText_of_addName sourceAdded, Fixture.isTypeText_of_addName destAdded⟩,
    secondRepresents.offer stillNamed destNamed offered⟩

theorem Represents.exists_addLine (sourceValid : IsTypeText source) (destValid : IsTypeText dest)
    (typeRoom : (names ++ [foldCase source, foldCase dest]).eraseDups.length ≤ handleCount)
    (pairRoom : (FilterLine.pairs
      (lines ++ [⟨foldCase source, foldCase dest, cost, limit, program⟩])).length ≤ handleCount) :
    ∃ changed, Fixture.addLine graph source dest cost limit program = .ok changed := by
  have split : names ++ [foldCase source, foldCase dest] =
      names ++ [foldCase source] ++ [foldCase dest] := by simp
  rw [split] at typeRoom
  have sourceRoom := Nat.le_trans (length_eraseDups_le_append _ _) typeRoom
  obtain ⟨sourceId, first, sourceAdded⟩ := represents.exists_addName sourceValid sourceRoom
  obtain ⟨firstRepresents, sourceNamed⟩ := represents.addName sourceAdded
  obtain ⟨destId, second, destAdded⟩ := firstRepresents.exists_addName destValid typeRoom
  obtain ⟨secondRepresents, destNamed⟩ := firstRepresents.addName destAdded
  obtain ⟨_, _, inserted⟩ := Fixture.addName_eq_ok_iff.mp destAdded
  have stillNamed := (extends_of_insertType inserted).text? sourceNamed
  obtain ⟨handle, changed, offered⟩ :=
    secondRepresents.exists_offerFilter stillNamed destNamed pairRoom
  exact ⟨changed, Fixture.addLine_eq_ok_iff.mpr
    ⟨sourceId, first, destId, second, handle, sourceAdded, destAdded, offered⟩⟩

/-- **One declaration** adds its names and its line. -/
theorem Represents.declare (declared : Fixture.declare graph declaration = .ok changed) :
    (∀ name ∈ declaration.names, IsTypeText name) ∧
      changed.Represents (names ++ declaration.names.map foldCase)
        (lines ++ declaration.line?.toList) := by
  cases declaration with
  | mediaType name =>
      obtain ⟨handle, added⟩ := Fixture.declare_mediaType_eq_ok_iff.mp declared
      have valid := Fixture.isTypeText_of_addName added
      refine ⟨by simpa [Declaration.names] using valid, ?_⟩
      simpa [Declaration.names, Declaration.line?] using (represents.addName added).1
  | filter source dest cost program =>
      obtain ⟨valid, added⟩ := represents.addLine declared
      exact ⟨by simpa [Declaration.names] using valid, added⟩
  | limitedFilter source dest cost maxSize program =>
      obtain ⟨valid, added⟩ := represents.addLine declared
      exact ⟨by simpa [Declaration.names] using valid, added⟩

theorem Represents.exists_declare (valid : ∀ name ∈ declaration.names, IsTypeText name)
    (typeRoom : (names ++ declaration.names.map foldCase).eraseDups.length ≤ handleCount)
    (pairRoom : (FilterLine.pairs (lines ++ declaration.line?.toList)).length ≤ handleCount) :
    ∃ changed, Fixture.declare graph declaration = .ok changed := by
  cases declaration with
  | mediaType name =>
      obtain ⟨handle, changed, added⟩ :=
        represents.exists_addName (valid name (List.mem_singleton_self name)) typeRoom
      exact ⟨changed, Fixture.declare_mediaType_eq_ok_iff.mpr ⟨handle, added⟩⟩
  | filter source dest cost program =>
      exact represents.exists_addLine (valid source (by simp [Declaration.names]))
        (valid dest (by simp [Declaration.names])) typeRoom pairRoom
  | limitedFilter source dest cost maxSize program =>
      exact represents.exists_addLine (valid source (by simp [Declaration.names]))
        (valid dest (by simp [Declaration.names])) typeRoom pairRoom

end Represents

/-! ## What a list of declarations adds -/

/-- **A fixture represents all names and lines of its declarations.** -/
theorem Represents.build (represents : graph.Represents names lines)
    (built : Fixture.build (declarations.map .declare) graph = .ok changed) :
    Declaration.Valid declarations ∧
      changed.Represents (names ++ Declaration.texts declarations)
        (lines ++ Declaration.lines declarations) := by
  induction declarations generalizing graph names lines with
  | nil =>
      cases built
      exact ⟨fun _ member => absurd member List.not_mem_nil,
        by simpa [Declaration.texts, Declaration.lines] using represents⟩
  | cons declaration rest ih =>
      obtain ⟨middle, declared, onward⟩ := Fixture.build_cons_eq_ok_iff.mp built
      obtain ⟨valid, middleRepresents⟩ := represents.declare declared
      obtain ⟨restValid, all⟩ := ih middleRepresents onward
      rw [List.append_assoc, List.append_assoc] at all
      rw [Declaration.texts_cons, Declaration.lines_cons]
      exact ⟨Declaration.valid_cons_iff.mpr ⟨valid, restValid⟩, all⟩

theorem Represents.exists_build (represents : graph.Represents names lines)
    (valid : Declaration.Valid declarations)
    (typeRoom : (names ++ Declaration.texts declarations).eraseDups.length ≤ handleCount)
    (pairRoom : (FilterLine.pairs (lines ++ Declaration.lines declarations)).length ≤
      handleCount) :
    ∃ changed, Fixture.build (declarations.map .declare) graph = .ok changed := by
  induction declarations generalizing graph names lines with
  | nil => exact ⟨graph, rfl⟩
  | cons declaration rest ih =>
      obtain ⟨here, others⟩ := Declaration.valid_cons_iff.mp valid
      rw [Declaration.texts_cons, ← List.append_assoc] at typeRoom
      rw [Declaration.lines_cons, ← List.append_assoc] at pairRoom
      obtain ⟨middle, declared⟩ := represents.exists_declare here
        (Nat.le_trans (length_eraseDups_le_append _ _) typeRoom)
        (Nat.le_trans (FilterLine.length_pairs_le_append _ _) pairRoom)
      obtain ⟨changed, built⟩ := ih (represents.declare declared).2 others typeRoom pairRoom
      exact ⟨changed, Fixture.build_cons_eq_ok_iff.mpr ⟨middle, declared, built⟩⟩

end FilterGraph

namespace Fixture

variable {declarations : List Declaration} {built : FilterGraph}

theorem represents_build
    (succeeds : build (declarations.map .declare) ∅ = .ok built) :
    Declaration.Valid declarations ∧
      built.Represents (Declaration.texts declarations) (Declaration.lines declarations) :=
  FilterGraph.represents_empty.build succeeds

/-- **Out of nothing a graph is built exactly if all names are valid and there are handles
enough.** -/
theorem exists_build_iff :
    (∃ built, build (declarations.map .declare) ∅ = .ok built) ↔
      Declaration.Valid declarations ∧ Declaration.Fits declarations := by
  constructor
  · rintro ⟨built, succeeds⟩
    obtain ⟨valid, represents⟩ := represents_build succeeds
    refine ⟨valid, ?_, ?_⟩
    · rw [← represents.texts, List.length_map]
      exact represents.coherent.types.size_le
    · rw [← represents.size]
      exact represents.coherent.slots_size_le
  · rintro ⟨valid, fits⟩
    exact FilterGraph.represents_empty.exists_build valid fits.types fits.pairs

end Fixture

end PrintPlanner
