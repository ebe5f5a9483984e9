import PrintPlanner.Proofs.Json.Strings

/-!
# Reading booleans, keys and closing bytes

Each of these readers passes over blanks and then decides by the next byte.  What it accepts is
stated as the bytes that it has passed over and the ones that are left.
-/

set_option autoImplicit false

namespace PrintPlanner.Json

variable {bytes rest : List UInt8}

theorem readBool_eq_ok_iff {value : Bool} :
    readBool bytes = .ok (value, rest) ↔
      ∃ gap, bytes = gap ++ ((boolLiteral value).map byte ++ rest) ∧ IsGap gap := by
  constructor
  · intro read
    unfold readBool at read
    split at read
    · cases read
    rename_i b others skipped
    obtain ⟨gap, rfl, blank, _⟩ := skipBlanks_eq_cons_iff.mp skipped
    split at read
    · rename_i letter
      obtain ⟨_, literal, same⟩ := map_eq_ok_iff.mp read
      cases same
      exact ⟨gap, by rw [letter, readLiteral_eq_ok_iff.mp literal]; rfl, blank⟩
    split at read
    · rename_i letter
      obtain ⟨_, literal, same⟩ := map_eq_ok_iff.mp read
      cases same
      exact ⟨gap, by rw [letter, readLiteral_eq_ok_iff.mp literal]; rfl, blank⟩
    · cases read
  · rintro ⟨gap, rfl, blank⟩
    rw [readBool, blank.skipBlanks_append]
    cases value with
    | true => exact map_eq_ok_iff.mpr ⟨rest, readLiteral_append ['r', 'u', 'e'] rest, rfl⟩
    | false => exact map_eq_ok_iff.mpr ⟨rest, readLiteral_append ['a', 'l', 's', 'e'] rest, rfl⟩

/-! ## The end of a list -/

theorem closeList_eq_none_iff :
    closeList bytes = (none, rest) ↔ ∃ gap, bytes = gap ++ byte ']' :: rest ∧ IsGap gap := by
  constructor
  · intro close
    unfold closeList at close
    split at close
    · cases close
    rename_i b others skipped
    obtain ⟨gap, rfl, blank, _⟩ := skipBlanks_eq_cons_iff.mp skipped
    split at close
    · rename_i closer
      cases close
      exact ⟨gap, by rw [closer], blank⟩
    split at close
    · split at close
      · cases close
      split at close <;> cases close
    · cases close
  · rintro ⟨gap, rfl, blank⟩
    rw [closeList, blank.skipBlanks_append_cons (by decide)]
    rfl

/-! ## The next field or entry -/

theorem readKey_eq_ok_iff {found : Option String} :
    ((readString bytes).map fun (text, rest) => (some text, rest)) = .ok (found, rest) ↔
      ∃ name key, found = some name ∧ byte '"' :: bytes = key ++ rest ∧ IsString key name := by
  rw [map_eq_ok_iff]
  constructor
  · rintro ⟨⟨name, _⟩, read, same⟩
    cases same
    obtain ⟨body, rfl, spells⟩ := readString_eq_ok_iff.mp read
    exact ⟨name, _, rfl, by simp, body, rfl, spells⟩
  · rintro ⟨name, _, rfl, split, body, rfl, spells⟩
    simp only [List.cons_append, List.append_assoc, List.nil_append, List.cons.injEq,
      true_and] at split
    exact ⟨(name, rest), readString_eq_ok_iff.mpr ⟨body, split, spells⟩, rfl⟩

/-- The bytes go on with the key of a field, which is taken in with what separates it from the field
before, or with the end of the object, which is left where it is. -/
inductive HasNextKey (first : Bool) (rest : List UInt8) : Option String → List UInt8 → Prop where
  | closer {gap others : List UInt8} (blank : IsGap gap) (closes : rest = 0x7d :: others) :
      HasNextKey first rest none (gap ++ rest)
  | key {separator key : List UInt8} {name : String} (separated : IsSeparator first separator)
      (named : IsString key name) : HasNextKey first rest (some name) (separator ++ (key ++ rest))

theorem nextKey_eq_ok_iff {first : Bool} {found : Option String} :
    nextKey first bytes = .ok (found, rest) ↔ HasNextKey first rest found bytes := by
  constructor
  · intro read
    unfold nextKey at read
    dsimp only at read
    split at read
    · cases read
    rename_i b others skipped
    obtain ⟨gap, rfl, blank, _⟩ := skipBlanks_eq_cons_iff.mp skipped
    split at read
    · rename_i closer
      cases read
      exact .closer blank (by rw [closer])
    split at read
    · rename_i isFirst
      subst isFirst
      split at read
      · rename_i quote
        obtain ⟨name, key, rfl, split, named⟩ := readKey_eq_ok_iff.mp read
        rw [quote, split]
        exact .key (.first blank) named
      · cases read
    · rename_i notFirst
      rw [Bool.not_eq_true] at notFirst
      subst notFirst
      split at read
      · rename_i comma
        split at read
        · cases read
        rename_i c after skipped'
        obtain ⟨inner, rfl, innerBlank, _⟩ := skipBlanks_eq_cons_iff.mp skipped'
        split at read
        · cases read
        split at read
        · rename_i quote
          obtain ⟨name, key, rfl, split, named⟩ := readKey_eq_ok_iff.mp read
          have whole : HasNextKey false rest (some name) _ := .key (.comma blank innerBlank) named
          rw [comma, quote, split]
          simpa using whole
        · cases read
      · cases read
  · intro next
    cases next with
    | closer blank closes =>
        subst closes
        rw [nextKey, blank.skipBlanks_append_cons (by decide)]
        rfl
    | key separated named =>
        have read (text) (string : byte '"' :: text = _ ++ rest) :=
          readKey_eq_ok_iff.mpr ⟨_, _, rfl, string, named⟩
        obtain ⟨body, rfl, _⟩ := named
        cases separated with
        | first blank =>
            rw [nextKey, List.cons_append, blank.skipBlanks_append_cons (by decide)]
            exact read _ rfl
        | comma front behind =>
            rw [nextKey, List.append_assoc, List.cons_append,
              front.skipBlanks_append_cons (by decide)]
            dsimp only
            rw [if_neg (by decide), if_neg (by decide), if_pos rfl, List.cons_append,
              behind.skipBlanks_append_cons (by decide)]
            exact read _ rfl

/-- The bytes go on with an entry, which is left where it starts, or with the end of the list. -/
inductive HasNextEntry (first : Bool) : Option (List UInt8) → List UInt8 → Prop where
  | closer {gap others : List UInt8} (blank : IsGap gap) :
      HasNextEntry first none (gap ++ byte ']' :: others)
  | entry {separator others : List UInt8} {b : UInt8} (separated : IsSeparator first separator)
      (notBlank : isBlankByte b = false) (notCloser : b ≠ byte ']') :
      HasNextEntry first (some (b :: others)) (separator ++ b :: others)

theorem nextEntry_eq_ok_iff {first : Bool} {found : Option (List UInt8)} :
    nextEntry first bytes = .ok found ↔ HasNextEntry first found bytes := by
  constructor
  · intro read
    unfold nextEntry at read
    split at read
    · cases read
    rename_i b others skipped
    obtain ⟨gap, rfl, blank, notBlank⟩ := skipBlanks_eq_cons_iff.mp skipped
    split at read
    · rename_i closer
      cases read
      rw [closer]
      exact .closer blank
    rename_i notCloser
    split at read
    · rename_i isFirst
      subst isFirst
      cases read
      exact .entry (.first blank) notBlank notCloser
    · rename_i notFirst
      rw [Bool.not_eq_true] at notFirst
      subst notFirst
      split at read
      · rename_i comma
        split at read
        · cases read
        rename_i c after skipped'
        obtain ⟨inner, rfl, innerBlank, notBlank'⟩ := skipBlanks_eq_cons_iff.mp skipped'
        split at read
        · cases read
        · rename_i notCloser'
          cases read
          have whole : HasNextEntry false (some (c :: after)) _ :=
            .entry (.comma blank innerBlank) notBlank' notCloser'
          rw [comma]
          simpa using whole
      · cases read
  · intro next
    cases next with
    | closer blank =>
        rw [nextEntry, blank.skipBlanks_append_cons (by decide)]
        rfl
    | entry separated notBlank notCloser =>
        cases separated with
        | first blank =>
            rw [nextEntry, blank.skipBlanks_append_cons notBlank]
            dsimp only
            rw [if_neg notCloser, if_pos rfl]
        | comma front behind =>
            rw [nextEntry, List.append_assoc, List.cons_append,
              front.skipBlanks_append_cons (by decide)]
            dsimp only
            rw [if_neg (by decide), if_neg (by decide), if_pos rfl,
              behind.skipBlanks_append_cons notBlank]
            dsimp only
            rw [if_neg notCloser]

end PrintPlanner.Json
