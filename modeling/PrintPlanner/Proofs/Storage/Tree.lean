import PrintPlanner.Storage.Tree

/-!
# Paths in a directory tree

A path to a directory can be walked in two parts, the second from where the first leads
(`DirectoryTree.walk_append`), and it still leads there after a file has been put anywhere that is
no directory (`DirectoryTree.walk_putFile`).  Making a directory that is there already does nothing
(`DirectoryTree.makeDirectories_of_locate`).
-/

set_option autoImplicit false

namespace PrintPlanner.DirectoryTree

variable {tree : DirectoryTree} {number : Nat} {name path : String}

theorem pathFault?_eq_none_iff :
    pathFault? path = none ↔ '\x00' ∉ path.toList ∧ path.utf8ByteSize ≤ pathLimit := by
  unfold pathFault?
  rw [List.contains_eq_mem]
  split
  · simp_all
  · split <;> simp_all

theorem locate_of_pathFault?_eq_none (fine : pathFault? path = none) :
    tree.locate path = tree.walk root (Path.components path) := by
  rw [locate, fine]

/-- What a path leads to, its components lead to. -/
theorem pathFault?_of_locate {entry : TreeEntry} (located : tree.locate path = .ok entry) :
    pathFault? path = none ∧ tree.walk root (Path.components path) = .ok entry := by
  unfold locate at located
  split at located
  · contradiction
  · rename_i fine
    exact ⟨fine, located⟩

/-! ## Walks -/

/-- A name that something in a directory can have. -/
structure IsEntryName (name : String) : Prop where
  ne_dot : name ≠ "."
  ne_dots : name ≠ ".."
  short : name.utf8ByteSize ≤ nameLimit

/-- Where one component leads from a directory. -/
inductive Steps (tree : DirectoryTree) (number : Nat) : String → Nat → Prop where
  | stay : Steps tree number "." number
  | up : Steps tree number ".." (tree.parentOf number)
  | down {name : String} {next : Nat} (named : IsEntryName name)
      (entered : tree.entry? number name = some (.directory next)) : Steps tree number name next

theorem walk_of_steps {component : String} {next : Nat}
    (step : tree.Steps number component next) (rest : List String) :
    tree.walk number (component :: rest) = tree.walk next rest := by
  rw [walk]
  cases step with
  | stay => rw [if_pos rfl]
  | up => rw [if_neg (by decide), if_pos rfl]
  | down named entered =>
      rw [if_neg named.ne_dot, if_neg named.ne_dots, if_neg (Nat.not_lt.mpr named.short), entered]

theorem walk_entry (named : IsEntryName name) :
    tree.walk number [name] =
      match tree.entry? number name with
      | none => .error .noSuchFile
      | some entry => .ok entry := by
  rw [walk, if_neg named.ne_dot, if_neg named.ne_dots, if_neg (Nat.not_lt.mpr named.short)]
  cases tree.entry? number name with
  | none => rfl
  | some entry => cases entry <;> rfl

theorem steps_of_walk {component : String} {rest : List String} {place : Nat}
    (leads : tree.walk number (component :: rest) = .ok (.directory place)) :
    ∃ next, tree.Steps number component next ∧ tree.walk next rest = .ok (.directory place) := by
  rw [walk] at leads
  split at leads
  · rename_i dot
    exact ⟨number, dot ▸ .stay, leads⟩
  rename_i notDot
  split at leads
  · rename_i dots
    exact ⟨tree.parentOf number, dots ▸ .up, leads⟩
  rename_i notDots
  split at leads
  · contradiction
  rename_i short
  split at leads
  · contradiction
  · rename_i next entered
    exact ⟨next, .down ⟨notDot, notDots, Nat.not_lt.mp short⟩ entered, leads⟩
  · split at leads <;> cases leads

/-- A walk goes on from where its first part leads. -/
theorem walk_append {place : Nat} {first : List String}
    (leads : tree.walk number first = .ok (.directory place)) (second : List String) :
    tree.walk number (first ++ second) = tree.walk place second := by
  induction first generalizing number with
  | nil =>
      cases leads
      rfl
  | cons component rest ih =>
      obtain ⟨next, step, onward⟩ := steps_of_walk leads
      rw [List.cons_append, walk_of_steps step, ih onward]

/-- On the way to a directory there are only directories. -/
theorem exists_walk_of_append {place : Nat} {first second : List String}
    (leads : tree.walk number (first ++ second) = .ok (.directory place)) :
    ∃ middle, tree.walk number first = .ok (.directory middle) ∧
      tree.walk middle second = .ok (.directory place) := by
  induction first generalizing number with
  | nil => exact ⟨number, rfl, leads⟩
  | cons component rest ih =>
      obtain ⟨next, step, onward⟩ := steps_of_walk leads
      obtain ⟨middle, before, after⟩ := ih onward
      exact ⟨middle, (walk_of_steps step rest).trans before, after⟩

/-- Single dots lead nowhere else. -/
theorem walk_dots {dots : List String} (idle : ∀ dot ∈ dots, dot = ".") :
    tree.walk number dots = .ok (.directory number) := by
  induction dots with
  | nil => rfl
  | cons dot rest ih =>
      obtain ⟨rfl, later⟩ := List.forall_mem_cons.mp idle
      exact (walk_of_steps .stay rest).trans (ih later)

/-! ## Entries that are put in -/

theorem entry?_put (entry : TreeEntry) {place : Nat} {other : String}
    (present : number < tree.directories.size) :
    entry? (tree.put number name entry) place other =
      if place = number ∧ other = name then some entry else tree.entry? place other := by
  simp only [put, entry?, Array.getElem?_modify]
  by_cases here : number = place
  · subst here
    simp only [true_and, if_true, Array.getElem?_eq_getElem present, Option.map_some,
      Option.bind_some, Std.TreeMap.getElem?_insert, Std.compare_eq_iff_eq]
    simp only [eq_comm]
  · rw [if_neg here, if_neg (fun both => here both.1.symm)]

theorem parentOf_put (entry : TreeEntry) (place : Nat) :
    (tree.put number name entry).parentOf place = tree.parentOf place := by
  simp only [parentOf, put, Array.getElem?_modify]
  by_cases here : number = place
  · rw [if_pos here]
    cases tree.directories[place]? <;> rfl
  · rw [if_neg here]

theorem size_put (entry : TreeEntry) :
    (tree.put number name entry).directories.size = tree.directories.size := by
  simp [put]

/-- Putting in a file blocks no way, if no directory stood under its name. -/
theorem Steps.putFile {bytes : List UInt8} {place next : Nat} {component : String}
    (present : number < tree.directories.size)
    (vacant : ∀ inner, tree.entry? number name ≠ some (.directory inner))
    (step : tree.Steps place component next) :
    (tree.put number name (.file bytes)).Steps place component next := by
  cases step with
  | stay => exact .stay
  | up => exact parentOf_put (.file bytes) place ▸ .up
  | down named entered =>
      refine .down named ?_
      rw [entry?_put _ present, if_neg, entered]
      rintro ⟨rfl, rfl⟩
      exact vacant next entered

theorem walk_putFile {bytes : List UInt8} {place start : Nat} {components : List String}
    (present : number < tree.directories.size)
    (vacant : ∀ inner, tree.entry? number name ≠ some (.directory inner))
    (leads : tree.walk start components = .ok (.directory place)) :
    (tree.put number name (.file bytes)).walk start components = .ok (.directory place) := by
  induction components generalizing start with
  | nil => exact leads
  | cons component rest ih =>
      obtain ⟨next, step, onward⟩ := steps_of_walk leads
      exact (walk_of_steps (step.putFile present vacant) rest).trans (ih onward)

/-! ## Places of files -/

section Place

variable {above : List String} (fine : pathFault? path = none)
  (ends : Path.components path = above ++ [name])
  (leads : tree.walk root above = .ok (.directory number)) (named : IsEntryName name)
include fine ends leads named

theorem locateNew_of_walk : tree.locateNew path = .ok (number, name) := by
  have dotless : ¬(name = "." ∨ name = "..") := not_or.mpr ⟨named.ne_dot, named.ne_dots⟩
  rw [locateNew, fine, ends]
  simp only [List.getLast?_concat, List.dropLast_concat, leads, if_neg dotless,
    if_neg (Nat.not_lt.mpr named.short)]

theorem locate_of_walk :
    tree.locate path =
      match tree.entry? number name with
      | none => .error .noSuchFile
      | some entry => .ok entry := by
  rw [locate_of_pathFault?_eq_none fine, ends, walk_append leads, walk_entry named]

end Place

/-- A file is put where there is no directory. -/
theorem writeFile_of_locateNew (located : tree.locateNew path = .ok (number, name))
    (vacant : ∀ inner, tree.entry? number name ≠ some (.directory inner)) (bytes : List UInt8) :
    tree.writeFile path bytes = .ok (tree.put number name (.file bytes)) := by
  simp only [writeFile, located]

/-! ## Directories that are there -/

/-- A directory cannot be made again. -/
theorem makeDirectory_of_locate (located : tree.locate path = .ok (.directory number)) :
    tree.makeDirectory path = .error .fileExists := by
  obtain ⟨fine, leads⟩ := pathFault?_of_locate located
  unfold makeDirectory
  cases last : (Path.components path).getLast? with
  | none => simp only [locateNew, fine, last]
  | some name =>
      obtain ⟨above, ends⟩ := List.getLast?_eq_some_iff.mp last
      rw [ends] at leads
      obtain ⟨middle, before, after⟩ := exists_walk_of_append leads
      obtain ⟨next, step, _⟩ := steps_of_walk after
      cases step with
      | stay => simp [locateNew, fine, ends, before]
      | up => simp [locateNew, fine, ends, before]
      | down named entered =>
          simp [locateNew_of_walk fine ends before named, entered]

/-- Making a directory that is there, with all that it lies in, does nothing. -/
theorem makeDirectories_of_locate (located : tree.locate path = .ok (.directory number)) :
    tree.makeDirectories path = (.ok (), tree) := by
  have leads : tree.leadsToDirectory path = true := by rw [leadsToDirectory, located]
  have nothing : tree.makeOutermost [] (Path.ancestors path) = (.ok [], tree) := by
    unfold Path.ancestors
    split
    · rfl
    · rw [makeOutermost, makeDirectory_of_locate located]
      simp only [leads, if_true]
  rw [makeDirectories, nothing]
  rfl

end PrintPlanner.DirectoryTree
