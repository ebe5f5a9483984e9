import PrintPlanner.Proofs.Json.Scalars

/-!
# Skipping values

A value is skipped without recursion: the lists and objects that are still open are kept in a stack.
What a stack still asks for is written down as `Json.Closes`, and a run that succeeds has passed
over a value and what closes the stack (`Json.exists_of_skipNested`).  The other way round, a value
of the grammar is passed over from any stack, and the run goes on behind it as it does behind any
other value (`Json.Passes`).  Together a value is skipped exactly if it is one of the grammar
(`Json.skipValue_eq_ok_iff`).
-/

set_option autoImplicit false

namespace PrintPlanner.Json

/-- What a run does behind a value, or behind the opening byte of a container if that is not
`entered` yet. -/
def proceed (entered : Bool) (limit : List UInt8) (containers : List Container)
    (bytes : List UInt8) : Except Fault (List UInt8) := do
  let (containers, rest) ← closeContainers entered containers bytes
  if containers.isEmpty then .ok rest
  else do
    let rest ← skipKey containers rest
    skipNested limit containers rest

theorem skipNested_cons (mark : UInt8) (limit : List UInt8) (containers : List Container)
    (bytes : List UInt8) :
    skipNested (mark :: limit) containers bytes = (do
      let (opened, rest) ← skipStart bytes
      proceed opened.isNone limit (opened.toList ++ containers) rest) :=
  rfl

/-! ## What was skipped is a value -/

/-- One or more entries of a container. -/
inductive IsEntries (container : Container) : List UInt8 → Prop where
  | entries {lead label gap value rest : List UInt8} (front : IsGap lead)
      (labelled : IsLabel container label) (blank : IsGap gap) (isValue : IsValue value)
      (others : IsPhrase (.entries container false) rest) :
      IsEntries container (lead ++ (label ++ (gap ++ (value ++ rest))))

/-- The bytes are what is left of the containers that are open.  Of the innermost one, the `first`
entry may still be to come. -/
inductive Closes : (first : Bool) → List Container → List UInt8 → Prop where
  | nil {first : Bool} : Closes first [] []
  | close {first : Bool} {innermost : Container} {outer : List Container}
      {body tail : List UInt8} (entries : IsPhrase (.entries innermost first) body)
      (closed : Closes false outer tail) :
      Closes first (innermost :: outer) (body ++ innermost.closer :: tail)

/-- The bytes are what is left of the containers that are open, and another entry of the innermost
one has to come next. -/
inductive Continues : List Container → List UInt8 → Prop where
  | nil : Continues [] []
  | entry {innermost : Container} {outer : List Container} {body tail : List UInt8}
      (entries : IsEntries innermost body) (closed : Closes false outer tail) :
      Continues (innermost :: outer) (body ++ innermost.closer :: tail)

theorem IsEntries.gap_append {container : Container} {gap body : List UInt8}
    (entries : IsEntries container body) (blank : IsGap gap) :
    IsEntries container (gap ++ body) := by
  cases entries with
  | entries front labelled inner isValue others =>
      rw [← List.append_assoc]
      exact .entries (blank.append front) labelled inner isValue others

theorem IsEntries.isPhrase {container : Container} {body : List UInt8}
    (entries : IsEntries container body) : IsPhrase (.entries container true) body := by
  cases entries with
  | entries front labelled blank isValue others =>
      exact .next (.first front) labelled blank isValue others

theorem IsEntries.behind_comma {container : Container} {gap body : List UInt8}
    (entries : IsEntries container body) (blank : IsGap gap) :
    IsPhrase (.entries container false) (gap ++ byte ',' :: body) := by
  cases entries with
  | entries front labelled inner isValue others =>
      have separated := IsSeparator.comma blank front
      have phrase := IsPhrase.next separated labelled inner isValue others
      rwa [List.append_assoc] at phrase

/-- What is passed over while containers are closed belongs to what is left of them. -/
theorem exists_of_closeContainers {entered : Bool} {containers inner : List Container}
    {bytes rest : List UInt8}
    (close : closeContainers entered containers bytes = .ok (inner, rest)) :
    ∃ lead, bytes = lead ++ rest ∧
      ∀ {after}, Continues inner after → Closes (!entered) containers (lead ++ after) := by
  induction containers generalizing entered bytes with
  | nil =>
      cases close
      refine ⟨[], rfl, fun continues => ?_⟩
      cases continues
      exact .nil
  | cons innermost outer ih =>
      unfold closeContainers at close
      split at close
      · cases close
      rename_i b others skipped
      obtain ⟨gap, rfl, blank, _⟩ := skipBlanks_eq_cons_iff.mp skipped
      split at close
      -- Behind a value, a comma says that an entry comes next.
      · rename_i comma
        cases close
        rw [Bool.and_eq_true, beq_iff_eq] at comma
        obtain ⟨rfl, rfl⟩ := comma
        refine ⟨gap ++ [byte ','], by simp, fun continues => ?_⟩
        cases continues with
        | entry entries closed =>
            have whole : Closes false _ _ := .close (entries.behind_comma blank) closed
            simpa using whole
      split at close
      -- The innermost container ends, and is a value of the one around it.
      · rename_i closer
        obtain ⟨lead, rfl, closes⟩ := ih close
        refine ⟨gap ++ innermost.closer :: lead, by simp [closer], fun continues => ?_⟩
        rw [List.append_assoc]
        exact .close (.done blank) (closes continues)
      split at close
      · cases close
      -- Behind an opening byte, the first entry comes without a comma.
      · rename_i early
        cases close
        rw [Bool.not_eq_true] at early
        subst early
        refine ⟨gap, rfl, fun continues => ?_⟩
        cases continues with
        | entry entries closed =>
            rw [← List.append_assoc]
            exact .close (entries.gap_append blank).isPhrase closed

theorem readColon_eq_ok_iff {bytes rest : List UInt8} :
    readColon bytes = .ok rest ↔ ∃ gap, bytes = gap ++ byte ':' :: rest ∧ IsGap gap := by
  constructor
  · intro read
    unfold readColon at read
    split at read
    · cases read
    · rename_i b others skipped
      obtain ⟨gap, rfl, blank, _⟩ := skipBlanks_eq_cons_iff.mp skipped
      split at read
      · rename_i colon
        cases read
        exact ⟨gap, by rw [colon], blank⟩
      · cases read
  · rintro ⟨gap, rfl, blank⟩
    rw [readColon, blank.skipBlanks_append_cons (by decide)]
    rfl

theorem exists_of_skipKey {innermost : Container} {outer : List Container}
    {bytes rest : List UInt8} (skip : skipKey (innermost :: outer) bytes = .ok rest) :
    ∃ gap label, bytes = gap ++ (label ++ rest) ∧ IsGap gap ∧ IsLabel innermost label := by
  cases innermost with
  | list =>
      cases skip
      exact ⟨[], [], rfl, isGap_nil, .list⟩
  | object =>
      rw [skipKey] at skip
      split at skip
      · cases skip
      rename_i b others skipped
      obtain ⟨gap, rfl, blank, _⟩ := skipBlanks_eq_cons_iff.mp skipped
      split at skip
      · rename_i quote
        obtain ⟨_, key, colon⟩ := bind_eq_ok_iff.mp skip
        obtain ⟨body, rfl, isBody⟩ := skipString_eq_ok_iff.mp key
        obtain ⟨inner, rfl, innerBlank⟩ := readColon_eq_ok_iff.mp colon
        exact ⟨gap, b :: (body ++ [byte '"']) ++ (inner ++ [byte ':']), by simp, blank,
          .object ⟨body, by rw [quote], isBody⟩ innerBlank⟩
      · cases skip

/-- A run that succeeds has passed over a value and what is left of the open containers. -/
theorem exists_of_skipNested {limit bytes rest : List UInt8} {containers : List Container}
    (skip : skipNested limit containers bytes = .ok rest) :
    ∃ gap value tail, bytes = gap ++ (value ++ (tail ++ rest)) ∧ IsGap gap ∧ IsValue value ∧
      Closes false containers tail := by
  induction limit generalizing containers bytes with
  | nil => cases skip
  | cons mark limit ih =>
      rw [skipNested_cons] at skip
      obtain ⟨⟨opened, behind⟩, start, run⟩ := bind_eq_ok_iff.mp skip
      obtain ⟨gap, lead, rfl, blank, starts⟩ := exists_of_skipStart start
      dsimp only [proceed] at run
      obtain ⟨⟨inner, later⟩, close, run⟩ := bind_eq_ok_iff.mp run
      obtain ⟨front, rfl, closes⟩ := exists_of_closeContainers close
      -- Nothing is open any more, or the smaller limit has sufficed for the value of the next entry
      -- and all that is left behind it.
      have continued : ∃ after, later = after ++ rest ∧ Continues inner after := by
        cases inner with
        | nil =>
            cases run
            exact ⟨[], rfl, .nil⟩
        | cons innermost outer =>
            obtain ⟨_, key, run⟩ := bind_eq_ok_iff.mp run
            obtain ⟨keyGap, label, rfl, keyBlank, labelled⟩ := exists_of_skipKey key
            obtain ⟨valueGap, value, tail, rfl, valueBlank, isValue, closed⟩ := ih run
            cases closed with
            | close others closed =>
                exact ⟨_, by simp, .entry (.entries keyBlank labelled valueBlank isValue others)
                  closed⟩
      obtain ⟨after, rfl, continues⟩ := continued
      have closed := closes continues
      rw [← List.append_assoc front]
      generalize front ++ after = tail at closed
      cases starts with
      | scalar scalar => exact ⟨gap, lead, tail, rfl, blank, .scalar scalar, closed⟩
      | opening container =>
          cases closed with
          | close entries closed =>
              exact ⟨gap, _, _, by simp, blank, .container entries, closed⟩

/-! ## A value is skipped -/

theorem isBlankByte_iff {b : UInt8} :
    isBlankByte b = true ↔ b = 0x20 ∨ b = 0x0a ∨ b = 0x09 ∨ b = 0x0d := by
  simp [isBlankByte, or_assoc]

/-- A number ends at a blank. -/
theorem IsGap.endsNumber {gap rest : List UInt8} (blank : IsGap gap) (ends : EndsNumber rest) :
    EndsNumber (gap ++ rest) := by
  cases gap with
  | nil => exact ends
  | cons b others =>
      rcases isBlankByte_iff.mp (blank b List.mem_cons_self) with rfl | rfl | rfl | rfl
      all_goals exact ⟨rfl, rfl, rfl⟩

theorem endsNumber_closer (container : Container) (rest : List UInt8) :
    EndsNumber (container.closer :: rest) := by
  cases container
  all_goals exact ⟨rfl, rfl, rfl⟩

theorem IsSeparator.endsNumber {separator : List UInt8} (separated : IsSeparator false separator)
    (rest : List UInt8) : EndsNumber (separator ++ rest) := by
  cases separated with
  | comma front =>
      rw [List.append_assoc]
      exact front.endsNumber ⟨rfl, rfl, rfl⟩

/-- A number ends behind the value of an entry. -/
theorem endsNumber_of_isPhrase {container : Container} {body : List UInt8}
    (others : IsPhrase (.entries container false) body) (rest : List UInt8) :
    EndsNumber (body ++ container.closer :: rest) := by
  cases others with
  | done blank => exact blank.endsNumber (endsNumber_closer container rest)
  | next separated =>
      rw [List.append_assoc]
      exact separated.endsNumber _

/-- A byte that an entry may start with: no blank, and no end of a container. -/
structure IsFront (b : UInt8) : Prop where
  notBlank : isBlankByte b = false
  notCloser : ∀ container : Container, b ≠ container.closer

instance (b : UInt8) : Decidable (IsFront b) :=
  decidable_of_iff (isBlankByte b = false ∧ b ≠ byte ']' ∧ b ≠ 0x7d)
    ⟨fun ⟨blank, list, object⟩ => ⟨blank, fun container => by cases container <;> assumption⟩,
      fun front => ⟨front.notBlank, front.notCloser .list, front.notCloser .object⟩⟩

theorem isFront_of_isDigit {b : UInt8} (digit : isDigit b = true) : IsFront b := by
  refine ⟨isBlankByte_of_isDigit digit, fun container => ne_of_isDigit digit ?_⟩
  cases container <;> rfl

theorem IsScalar.exists_cons {bytes : List UInt8} (scalar : IsScalar bytes) :
    ∃ b others, bytes = b :: others ∧ IsFront b := by
  cases scalar with
  | null => exact ⟨_, _, rfl, by decide⟩
  | bool value => cases value <;> exact ⟨_, _, rfl, by decide⟩
  | positive digits =>
      obtain ⟨b, others, rfl, digit⟩ := digits.exists_cons
      exact ⟨b, others, rfl, isFront_of_isDigit digit⟩
  | negative digits => exact ⟨_, _, rfl, by decide⟩
  | string quoted =>
      obtain ⟨body, rfl, _⟩ := quoted
      exact ⟨_, _, rfl, by decide⟩

theorem IsValue.exists_cons {value : List UInt8} (isValue : IsValue value) :
    ∃ b others, value = b :: others ∧ IsFront b := by
  cases isValue with
  | scalar scalar => exact scalar.exists_cons
  | @container container body entries => exact ⟨_, _, rfl, by cases container <;> decide⟩

theorem closeContainers_comma {gap : List UInt8} (blank : IsGap gap) (innermost : Container)
    (outer : List Container) (rest : List UInt8) :
    closeContainers true (innermost :: outer) (gap ++ byte ',' :: rest) =
      .ok (innermost :: outer, rest) := by
  rw [closeContainers, blank.skipBlanks_append_cons (by decide)]
  rfl

theorem closeContainers_closer {gap : List UInt8} (blank : IsGap gap) (entered : Bool)
    (innermost : Container) (outer : List Container) (rest : List UInt8) :
    closeContainers entered (innermost :: outer) (gap ++ innermost.closer :: rest) =
      closeContainers true outer rest := by
  have notBlank : isBlankByte innermost.closer = false := by cases innermost <;> rfl
  have notComma : innermost.closer ≠ byte ',' := by cases innermost <;> decide
  rw [closeContainers, blank.skipBlanks_append_cons notBlank]
  simp [notComma]

theorem closeContainers_front {gap : List UInt8} (blank : IsGap gap) {b : UInt8}
    (front : IsFront b) (innermost : Container) (outer : List Container) (rest : List UInt8) :
    closeContainers false (innermost :: outer) (gap ++ b :: rest) =
      .ok (innermost :: outer, b :: rest) := by
  rw [closeContainers, blank.skipBlanks_append_cons front.notBlank]
  simp [front.notCloser innermost]

/-- The key and the colon of an entry are passed over. -/
theorem skipKey_object {gap label : List UInt8} (blank : IsGap gap)
    (labelled : IsLabel .object label) (outer : List Container) (rest : List UInt8) :
    skipKey (.object :: outer) (gap ++ (label ++ rest)) = .ok rest := by
  cases labelled with
  | object quoted inner =>
      obtain ⟨body, rfl, isBody⟩ := quoted
      have key : ∀ after, skipString (body ++ byte '"' :: after) = .ok after := fun after =>
        skipString_eq_ok_iff.mpr ⟨body, rfl, isBody⟩
      simp only [List.cons_append, List.append_assoc, List.nil_append]
      rw [skipKey, blank.skipBlanks_append_cons (by decide)]
      exact bind_eq_ok_iff.mpr ⟨_, key _, readColon_eq_ok_iff.mpr ⟨_, rfl, inner⟩⟩

theorem proceed_of_entry {entered : Bool} {containers : List Container} {innermost : Container}
    {outer : List Container} {bytes behind rest : List UInt8} (limit : List UInt8)
    (close : closeContainers entered containers bytes = .ok (innermost :: outer, behind))
    (key : skipKey (innermost :: outer) behind = .ok rest) :
    proceed entered limit containers bytes = skipNested limit (innermost :: outer) rest := by
  rw [proceed, close]
  change (skipKey (innermost :: outer) behind >>= fun rest =>
    skipNested limit (innermost :: outer) rest) = _
  rw [key]
  rfl

/-- Behind a separator, the run goes on with the value of the next entry. -/
theorem proceed_next {first : Bool} {innermost : Container}
    {separator label gap value : List UInt8} (separated : IsSeparator first separator)
    (labelled : IsLabel innermost label) (blank : IsGap gap) (isValue : IsValue value)
    (limit : List UInt8) (outer : List Container) (rest : List UInt8) :
    ∃ left, IsGap left ∧
      proceed (!first) limit (innermost :: outer)
          (separator ++ (label ++ (gap ++ (value ++ rest)))) =
        skipNested limit (innermost :: outer) (left ++ (value ++ rest)) := by
  cases separated with
  | first separated =>
      cases innermost with
      -- The blanks before the first value of a list are skipped with the ones before its label.
      | list =>
          cases labelled
          obtain ⟨b, others, rfl, front⟩ := isValue.exists_cons
          refine ⟨[], isGap_nil, proceed_of_entry limit ?_ rfl⟩
          rw [List.nil_append, ← List.append_assoc]
          exact closeContainers_front (separated.append blank) front _ _ _
      | object =>
          have key := skipKey_object isGap_nil labelled outer (gap ++ (value ++ rest))
          cases labelled with
          | object quoted =>
              obtain ⟨body, rfl, _⟩ := quoted
              have close := closeContainers_front separated (show IsFront (byte '"') by decide)
                .object outer
              exact ⟨gap, blank, proceed_of_entry limit (close _) key⟩
  | comma front behind =>
      rw [List.append_assoc, List.cons_append]
      have close := closeContainers_comma front innermost outer
      cases innermost with
      | list =>
          cases labelled
          refine ⟨_, behind.append blank, proceed_of_entry limit (close _) ?_⟩
          rw [List.append_assoc]
          rfl
      | object =>
          exact ⟨gap, blank, proceed_of_entry limit (close _)
            (skipKey_object behind labelled outer _)⟩

/-- A run passes over a phrase and goes on behind it.  That takes no more bytes of the limit than
the phrase has, so a limit as long as the text suffices for all of it. -/
def Passes : Phrase → List UInt8 → Prop
  | .value, value => ∀ (gap limit : List UInt8) (containers : List Container) (rest : List UInt8),
      IsGap gap → EndsNumber rest → value.length ≤ limit.length →
        ∃ left, limit.length ≤ left.length + value.length ∧
          skipNested limit containers (gap ++ (value ++ rest)) = proceed true left containers rest
  | .entries container first, body => ∀ (limit : List UInt8) (outer : List Container)
      (rest : List UInt8), body.length ≤ limit.length →
        ∃ left, limit.length ≤ left.length + body.length ∧
          proceed (!first) limit (container :: outer) (body ++ container.closer :: rest) =
            proceed true left outer rest

theorem IsPhrase.passes {phrase : Phrase} {bytes : List UInt8} (isPhrase : IsPhrase phrase bytes) :
    Passes phrase bytes := by
  induction isPhrase with
  | scalar scalar =>
      intro gap limit containers rest blank ends room
      obtain ⟨b, others, rfl, _⟩ := scalar.exists_cons
      cases limit with
      | nil => cases room
      | cons mark limit =>
          refine ⟨limit, by simp, ?_⟩
          rw [skipNested_cons, (Starts.scalar scalar).skip blank fun _ => ends]
          rfl
  | @container container body entries ih =>
      intro gap limit containers rest blank ends room
      cases limit with
      | nil => cases room
      | cons mark limit =>
          simp only [List.length_cons, List.length_append, List.length_nil] at room ⊢
          obtain ⟨left, few, passed⟩ := ih limit containers rest (by omega)
          refine ⟨left, by omega, ?_⟩
          have start :
              skipStart (gap ++ ([container.opener] ++ (body ++ container.closer :: rest))) =
                .ok (some container, body ++ container.closer :: rest) :=
            (Starts.opening container).skip blank nofun
          have shape : container.opener :: (body ++ [container.closer]) ++ rest =
              [container.opener] ++ (body ++ container.closer :: rest) := by simp
          rw [skipNested_cons, shape, start]
          exact passed
  | @done container first gap blank =>
      intro limit outer rest room
      refine ⟨limit, by omega, ?_⟩
      rw [proceed, closeContainers_closer blank]
      rfl
  | @next container first separator label gap value rest separated labelled blank isValue others
      valuePasses othersPass =>
      intro limit outer after room
      simp only [List.length_append] at room ⊢
      obtain ⟨valueGap, valueBlank, entered⟩ := proceed_next separated labelled blank isValue limit
        outer (rest ++ container.closer :: after)
      obtain ⟨middle, few, passedValue⟩ := valuePasses valueGap limit (container :: outer) _
        valueBlank (endsNumber_of_isPhrase others after) (by omega)
      obtain ⟨left, fewer, passedOthers⟩ := othersPass middle outer after (by omega)
      refine ⟨left, by omega, ?_⟩
      simp only [List.append_assoc]
      exact entered.trans (passedValue.trans passedOthers)

/-- **A value is skipped exactly if it is one of the grammar**, provided that the byte behind it
ends a number. -/
theorem skipValue_eq_ok_iff {bytes rest : List UInt8} (ends : EndsNumber rest) :
    skipValue bytes = .ok rest ↔
      ∃ gap value, bytes = gap ++ (value ++ rest) ∧ IsGap gap ∧ IsValue value := by
  constructor
  · intro skip
    obtain ⟨gap, value, tail, rfl, blank, isValue, closed⟩ := exists_of_skipNested skip
    cases closed
    exact ⟨gap, value, rfl, blank, isValue⟩
  · rintro ⟨gap, value, rfl, blank, isValue⟩
    have room : value.length ≤ (gap ++ (value ++ rest)).length := by
      simp only [List.length_append]
      omega
    obtain ⟨left, _, passed⟩ := isValue.passes gap _ [] rest blank ends room
    exact passed

end PrintPlanner.Json
