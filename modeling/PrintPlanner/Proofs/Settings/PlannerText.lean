import PrintPlanner.Proofs.Json.Nesting
import PrintPlanner.Proofs.Json.Reading
import PrintPlanner.Settings.Grammar

/-!
# Reading planner settings

Planner settings are read from the bytes that are some, and from no others
(`PlannerConfig.decode_eq_ok_iff`).  The fields of an object are read one after the other; what was
read before a field only decides whether that field may still be the setting.
-/

set_option autoImplicit false

namespace PrintPlanner.PlannerConfig

open Json

/-- A number ends behind the value of a field. -/
theorem endsNumber_of_isFields {given : List Bool} {body : List UInt8}
    (fields : IsFields false given body) (rest : List UInt8) :
    EndsNumber (body ++ 0x7d :: rest) := by
  cases fields with
  | done blank => exact blank.endsNumber (endsNumber_closer .object rest)
  | next separated =>
      rw [List.append_assoc]
      exact separated.endsNumber _

theorem IsField.length_pos {given : Option Bool} {field : List UInt8}
    (isField : IsField given field) : 0 < field.length := by
  cases isField <;> simp only [List.length_append, List.length_cons] <;> omega

/-- What was read is the fields of an object.  At most one of them gives a value to the setting, and
none if an earlier one did. -/
theorem exists_of_readFields {fields : Nat} {first : Bool} {setting result : Option Bool}
    {bytes rest : List UInt8}
    (read : readFields fields first setting bytes = .ok (result, rest)) :
    ∃ given body others, bytes = body ++ rest ∧ rest = 0x7d :: others ∧
      IsFields first given body ∧ setting.toList ++ given = result.toList := by
  induction fields generalizing first setting bytes with
  | zero => cases read
  | succ fields ih =>
      obtain ⟨⟨found, behind⟩, key, run⟩ := bind_eq_ok_iff.mp read
      have next := nextKey_eq_ok_iff.mp key
      cases next with
      | closer blank closes =>
          cases run
          exact ⟨[], _, _, rfl, closes, .done blank, by simp⟩
      | key separated named =>
          dsimp only at run
          split at run
          · rename_i same
            subst same
            split at run
            · cases run
            · rename_i unset
              obtain ⟨_, colon, run⟩ := bind_eq_ok_iff.mp run
              obtain ⟨⟨value, _⟩, literal, run⟩ := bind_eq_ok_iff.mp run
              obtain ⟨given, body, others, rfl, closes, isFields, whole⟩ := ih run
              obtain ⟨between, rfl, front⟩ := readColon_eq_ok_iff.mp colon
              obtain ⟨gap, rfl, blank⟩ := readBool_eq_ok_iff.mp literal
              -- A second value would have been refused, so this is the one that the rest leaves.
              rw [Option.not_isSome_iff_eq_none] at unset
              subst unset
              exact ⟨_, _, others, by simp, closes,
                .next separated (.setting named front blank) isFields, whole⟩
          · rename_i differs
            obtain ⟨_, colon, run⟩ := bind_eq_ok_iff.mp run
            obtain ⟨_, skip, run⟩ := bind_eq_ok_iff.mp run
            -- What the value ends before is known only once the rest has been read.
            obtain ⟨given, body, others, rfl, rfl, isFields, whole⟩ := ih run
            obtain ⟨between, rfl, front⟩ := readColon_eq_ok_iff.mp colon
            obtain ⟨gap, value, rfl, blank, isValue⟩ :=
              (skipValue_eq_ok_iff (endsNumber_of_isFields isFields others)).mp skip
            exact ⟨_, _, others, by simp, rfl,
              .next separated (.other named differs front blank isValue) isFields, whole⟩

/-- Fields are read if at most one of them gives a value to the setting, and none if an earlier one
did. -/
theorem IsFields.read {first : Bool} {given : List Bool} {body : List UInt8}
    (isFields : IsFields first given body) {fields : Nat} {setting result : Option Bool}
    (room : body.length < fields) (whole : setting.toList ++ given = result.toList)
    (others : List UInt8) :
    readFields fields first setting (body ++ 0x7d :: others) = .ok (result, 0x7d :: others) := by
  induction isFields generalizing fields setting with
  | done blank =>
      cases fields with
      | zero => cases room
      | succ fields =>
          obtain rfl : setting = result := by
            cases setting <;> cases result <;> simp_all
          exact bind_eq_ok_iff.mpr ⟨_, nextKey_eq_ok_iff.mpr (.closer blank rfl), rfl⟩
  | @next first given values separator field rest separated isField further ih =>
      cases fields with
      | zero => cases room
      | succ fields =>
          have shorter : rest.length < fields := by
            have positive := isField.length_pos
            simp only [List.length_append] at room
            omega
          cases isField with
          | @setting key between gap value named front behind =>
              have unset : setting = none := by
                cases setting with
                | none => rfl
                | some earlier => cases result <;> simp at whole
              subst unset
              have later : readFields fields false (some value) (rest ++ 0x7d :: others) =
                  .ok (result, 0x7d :: others) := ih shorter whole
              simp only [List.append_assoc, List.cons_append]
              refine bind_eq_ok_iff.mpr ⟨_, nextKey_eq_ok_iff.mpr (.key separated named), ?_⟩
              dsimp only
              rw [if_pos rfl]
              refine bind_eq_ok_iff.mpr ⟨_, readColon_eq_ok_iff.mpr ⟨between, rfl, front⟩, ?_⟩
              exact bind_eq_ok_iff.mpr ⟨_, readBool_eq_ok_iff.mpr ⟨gap, rfl, behind⟩, later⟩
          | @other key between gap value name named differs front behind isValue =>
              have later : readFields fields false setting (rest ++ 0x7d :: others) =
                  .ok (result, 0x7d :: others) := ih shorter whole
              have skip := (skipValue_eq_ok_iff (endsNumber_of_isFields further others)).mpr
                ⟨gap, value, rfl, behind, isValue⟩
              simp only [List.append_assoc, List.cons_append]
              refine bind_eq_ok_iff.mpr ⟨_, nextKey_eq_ok_iff.mpr (.key separated named), ?_⟩
              dsimp only
              rw [if_neg differs]
              refine bind_eq_ok_iff.mpr ⟨_, readColon_eq_ok_iff.mpr ⟨between, rfl, front⟩, ?_⟩
              exact bind_eq_ok_iff.mpr ⟨_, skip, later⟩

theorem exists_of_read {bytes rest : List UInt8} {config : PlannerConfig}
    (done : read bytes = .ok (config, rest)) :
    ∃ gap settings, bytes = gap ++ (settings ++ rest) ∧ IsGap gap ∧ IsSettings config settings := by
  unfold read at done
  split at done
  · cases done
  rename_i b others skipped
  obtain ⟨gap, rfl, blank, _⟩ := skipBlanks_eq_cons_iff.mp skipped
  refine ⟨gap, ?_⟩
  split at done
  · rename_i bracket
    obtain ⟨found, next, entries⟩ := bind_eq_ok_iff.mp done
    cases nextEntry_eq_ok_iff.mp next with
    | closer =>
        obtain ⟨⟨_, _⟩, same, closing⟩ := bind_eq_ok_iff.mp entries
        cases same
        dsimp only at closing
        split at closing
        · cases closing
        rename_i after closed
        cases closing
        obtain ⟨inner, behind, innerBlank⟩ := closeList_eq_none_iff.mp closed
        exact ⟨_, by rw [bracket, behind]; simp, blank, .nothing innerBlank⟩
    | entry separated =>
        cases separated with
        | first front =>
            obtain ⟨⟨value, _⟩, literal, closing⟩ := bind_eq_ok_iff.mp entries
            obtain ⟨valueGap, entry, valueBlank⟩ := readBool_eq_ok_iff.mp literal
            dsimp only at closing
            split at closing
            · cases closing
            rename_i after closed
            cases closing
            obtain ⟨inner, rfl, innerBlank⟩ := closeList_eq_none_iff.mp closed
            exact ⟨_, by rw [bracket, entry]; simp, blank,
              .value value (front.append valueBlank) innerBlank⟩
  split at done
  · rename_i brace
    obtain ⟨⟨setting, _⟩, fields, closing⟩ := bind_eq_ok_iff.mp done
    obtain ⟨given, body, after, rfl, rfl, isFields, whole⟩ := exists_of_readFields fields
    cases closing
    cases setting with
    | none =>
        cases whole
        exact ⟨_, by rw [brace]; simp, blank, .unset isFields⟩
    | some value =>
        cases whole
        exact ⟨_, by rw [brace]; simp, blank, .set isFields⟩
  · cases done

/-- Settings are read behind any blanks. -/
theorem IsSettings.read {config : PlannerConfig} {settings : List UInt8}
    (isSettings : IsSettings config settings) {gap : List UInt8} (blank : IsGap gap)
    (rest : List UInt8) :
    PlannerConfig.read (gap ++ (settings ++ rest)) = .ok (config, rest) := by
  have skipped (bytes : List UInt8) :
      PlannerConfig.read (gap ++ bytes) = PlannerConfig.read bytes := by
    rw [PlannerConfig.read, PlannerConfig.read, blank.skipBlanks_append]
  have room (body : List UInt8) : body.length < (body ++ 0x7d :: rest).length + 1 := by
    rw [List.length_append]
    omega
  rw [skipped]
  cases isSettings with
  | @nothing inner innerBlank =>
      have closed : closeList (inner ++ byte ']' :: rest) = (none, rest) :=
        closeList_eq_none_iff.mpr ⟨inner, rfl, innerBlank⟩
      simp only [List.cons_append, List.append_assoc, List.nil_append]
      refine bind_eq_ok_iff.mpr ⟨none, nextEntry_eq_ok_iff.mpr (.closer innerBlank), ?_⟩
      refine bind_eq_ok_iff.mpr ⟨_, rfl, ?_⟩
      dsimp only
      rw [closed]
  | @value before after value front behind =>
      have closed : closeList (after ++ byte ']' :: rest) = (none, rest) :=
        closeList_eq_none_iff.mpr ⟨after, rfl, behind⟩
      have next (tail : List UInt8) :
          nextEntry true (before ++ ((boolLiteral value).map byte ++ tail)) =
            .ok (some ((boolLiteral value).map byte ++ tail)) := by
        obtain ⟨b, others, split, isFront⟩ := (IsScalar.bool value).exists_cons
        rw [split]
        exact nextEntry_eq_ok_iff.mpr
          (.entry (.first front) isFront.notBlank (isFront.notCloser .list))
      simp only [List.cons_append, List.append_assoc, List.nil_append]
      refine bind_eq_ok_iff.mpr ⟨_, next _, ?_⟩
      refine bind_eq_ok_iff.mpr ⟨_, readBool_eq_ok_iff.mpr ⟨[], rfl, isGap_nil⟩, ?_⟩
      dsimp only
      rw [closed]
  | @unset body fields =>
      have read : readFields ((body ++ 0x7d :: rest).length + 1) true none (body ++ 0x7d :: rest) =
          .ok (none, 0x7d :: rest) := fields.read (room body) rfl rest
      simp only [List.cons_append, List.append_assoc, List.nil_append]
      exact bind_eq_ok_iff.mpr ⟨_, read, rfl⟩
  | @set value body fields =>
      have read : readFields ((body ++ 0x7d :: rest).length + 1) true none (body ++ 0x7d :: rest) =
          .ok (some value, 0x7d :: rest) := fields.read (room body) rfl rest
      simp only [List.cons_append, List.append_assoc, List.nil_append]
      exact bind_eq_ok_iff.mpr ⟨_, read, rfl⟩

/-- **Planner settings are read from the bytes that are some, and from no others.** -/
theorem decode_eq_ok_iff {bytes : List UInt8} {config : PlannerConfig} :
    Stored.decode bytes = .ok config ↔ InGaps (IsSettings config) bytes := by
  refine readWhole_eq_ok_iff.trans ⟨?_, ?_⟩
  · rintro ⟨after, done, behind⟩
    obtain ⟨before, settings, rfl, front, isSettings⟩ := exists_of_read done
    exact ⟨before, settings, after, rfl, front, isSettings, behind⟩
  · rintro ⟨before, settings, after, rfl, front, isSettings, behind⟩
    exact ⟨after, isSettings.read front after, behind⟩

end PrintPlanner.PlannerConfig
