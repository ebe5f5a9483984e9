import Mathlib.Data.Int.ModEq
import PrintPlanner.Signature.Fingerprint

/-!
# Fingerprints of similar byte strings

Taking in a byte can be undone, so a difference between two byte strings survives whatever bytes
come before and after it.  A single byte makes such a difference, and so does a word of four bytes
(`Fingerprint.separated_bytes32`), though its bytes might have made up for each other.

For a word the argument is about integers.  A byte moves the state by a drift of at most 255, so
two words move it by gaps of at most 510, which the later steps multiply by powers of the factor
2^40 + 435.  Gaps this small add up to a multiple of 2^64 only if all of them are zero
(`Fingerprint.gaps_eq_zero_of_dvd`).
-/

set_option autoImplicit false

namespace PrintPlanner.Fingerprint

/-! ## One step -/

theorem factor_mul_inverse : factor * 0xce965057aff6957b = 1 := by decide

/-- The multiplication of a step can be undone. -/
theorem mul_factor_inj {left right : UInt64} :
    left * factor = right * factor ↔ left = right := by
  refine ⟨fun same => ?_, fun same => by rw [same]⟩
  have undone := congrArg (· * 0xce965057aff6957b) same
  simpa only [UInt64.mul_assoc, factor_mul_inverse, UInt64.mul_one] using undone

theorem step_inj_state {left right : UInt64} {byte : UInt8} :
    step left byte = step right byte ↔ left = right := by
  rw [step, step, mul_factor_inj, UInt64.xor_left_inj]

theorem step_inj_byte {state : UInt64} {left right : UInt8} :
    step state left = step state right ↔ left = right := by
  rw [step, step, mul_factor_inj, UInt64.xor_right_inj]
  refine ⟨fun same => ?_, fun same => by rw [same]⟩
  simpa using congrArg UInt64.toUInt8 same

/-! ## Byte strings that are told apart -/

/-- From every state the two byte strings lead to different fingerprints. -/
def Separated (left right : List UInt8) : Prop :=
  ∀ state, left.foldl step state ≠ right.foldl step state

variable {left right : List UInt8}

theorem Separated.append_left (separated : Separated left right) (front : List UInt8) :
    Separated (front ++ left) (front ++ right) := by
  intro state
  rw [List.foldl_append, List.foldl_append]
  exact separated _

/-- The same bytes lead from different states to different fingerprints. -/
theorem foldl_step_inj_state {bytes : List UInt8} {first second : UInt64} :
    bytes.foldl step first = bytes.foldl step second ↔ first = second := by
  induction bytes generalizing first second with
  | nil => rfl
  | cons byte bytes ih => exact ih.trans step_inj_state

theorem Separated.append_right (separated : Separated left right) (back : List UInt8) :
    Separated (left ++ back) (right ++ back) := by
  intro state same
  rw [List.foldl_append, List.foldl_append, foldl_step_inj_state] at same
  exact separated state same

/-! ## One byte -/

/-- The byte strings have the same length and differ at just one place. -/
def DifferInOneByte (left right : List UInt8) : Prop :=
  left.length = right.length ∧ (left.zip right).countP (fun pair => pair.1 ≠ pair.2) = 1

instance : Decidable (DifferInOneByte left right) :=
  inferInstanceAs (Decidable (_ ∧ _))

theorem eq_of_countP_eq_zero (sameLength : left.length = right.length)
    (same : (left.zip right).countP (fun pair => pair.1 ≠ pair.2) = 0) : left = right := by
  induction left generalizing right with
  | nil => exact (List.length_eq_zero_iff.mp sameLength.symm).symm
  | cons byte left ih =>
      cases right with
      | nil => cases sameLength
      | cons other right =>
          rw [List.zip_cons_cons, List.countP_cons] at same
          obtain rfl : byte = other := by
            by_contra apart
            simp [apart] at same
          rw [ih (Nat.succ.inj sameLength) (Nat.add_eq_zero_iff.mp same).1]

/-- What is the same at all places but one is the same before and after it. -/
theorem DifferInOneByte.exists_split (differ : DifferInOneByte left right) :
    ∃ front back byte other, left = front ++ byte :: back ∧ right = front ++ other :: back ∧
      byte ≠ other := by
  obtain ⟨sameLength, once⟩ := differ
  induction left generalizing right with
  | nil => simp at once
  | cons byte left ih =>
      cases right with
      | nil => cases sameLength
      | cons other right =>
          have tailLength : left.length = right.length := Nat.succ.inj sameLength
          rw [List.zip_cons_cons, List.countP_cons] at once
          by_cases same : byte = other
          · subst same
            obtain ⟨front, back, first, second, rfl, rfl, apart⟩ :=
              ih tailLength (by simpa using once)
            exact ⟨byte :: front, back, first, second, rfl, rfl, apart⟩
          · obtain rfl := eq_of_countP_eq_zero tailLength (by simpa [same] using once)
            exact ⟨[], left, byte, other, rfl, rfl, same⟩

/-- **A change of one byte is seen.** -/
theorem DifferInOneByte.separated (differ : DifferInOneByte left right) :
    Separated left right := by
  obtain ⟨front, back, byte, other, rfl, rfl, apart⟩ := differ.exists_split
  have single : Separated [byte] [other] := fun state same => apart (step_inj_byte.mp same)
  exact (single.append_right back).append_left front

/-! ## Drifts and gaps -/

/-- How far a byte moves the state before it is multiplied. -/
def drift (state : UInt64) (byte : UInt8) : Int :=
  (state ^^^ byte.toUInt64).toNat - state.toNat

theorem drift_bounds (state : UInt64) (byte : UInt8) :
    -255 ≤ drift state byte ∧ drift state byte ≤ 255 := by
  have high : (state ^^^ byte.toUInt64).toNat / 2 ^ 8 = state.toNat / 2 ^ 8 := by
    rw [UInt64.toNat_xor, Nat.xor_div_two_pow, UInt8.toNat_toUInt64,
      Nat.div_eq_of_lt byte.toNat_lt, Nat.xor_zero]
  unfold drift
  omega

theorem drift_inj {state : UInt64} {byte other : UInt8} :
    drift state byte = drift state other ↔ byte = other := by
  refine ⟨fun same => ?_, fun same => by rw [same]⟩
  have sums : state ^^^ byte.toUInt64 = state ^^^ other.toUInt64 := by
    apply UInt64.toNat_inj.mp
    unfold drift at same
    omega
  have steps : step state byte = step state other := by rw [step, step, sums]
  exact step_inj_byte.mp steps

theorem step_modEq (state : UInt64) (byte : UInt8) :
    ((step state byte).toNat : Int) ≡
      (state.toNat + drift state byte) * 0x100000001b3 [ZMOD 2 ^ 64] := by
  have sum : (state.toNat : Int) + drift state byte = (state ^^^ byte.toUInt64).toNat := by
    simp [drift]
  rw [sum, step, UInt64.toNat_mul]
  push_cast
  exact Int.mod_modEq _ _

theorem step_gap_modEq (first second : UInt64) (byte other : UInt8) :
    ((step first byte).toNat - (step second other).toNat : Int) ≡
      (first.toNat - second.toNat + (drift first byte - drift second other)) * 0x100000001b3
        [ZMOD 2 ^ 64] := by
  have both := (step_modEq first byte).sub (step_modEq second other)
  rwa [← sub_mul, add_sub_add_comm] at both

/-- The gaps between the drifts of two byte strings, each from a state of its own. -/
def gaps (first second : UInt64) : List UInt8 → List UInt8 → List Int
  | byte :: bytes, other :: others =>
      (drift first byte - drift second other) ::
        gaps (step first byte) (step second other) bytes others
  | _, _ => []

/-- What has become of the distance of two states after some gaps. -/
def distanceAfter (distance : Int) : List Int → Int
  | [] => distance
  | gap :: rest => distanceAfter ((distance + gap) * 0x100000001b3) rest

theorem distanceAfter_modEq {distance other : Int} (same : distance ≡ other [ZMOD 2 ^ 64])
    (gaps : List Int) : distanceAfter distance gaps ≡ distanceAfter other gaps [ZMOD 2 ^ 64] := by
  induction gaps generalizing distance other with
  | nil => exact same
  | cons gap rest ih => exact ih ((same.add_right gap).mul_right _)

/-- The gaps settle how far apart two fingerprints are, modulo 2^64. -/
theorem foldl_step_modEq (sameLength : left.length = right.length) (first second : UInt64) :
    ((left.foldl step first).toNat - (right.foldl step second).toNat : Int) ≡
      distanceAfter (first.toNat - second.toNat) (gaps first second left right)
        [ZMOD 2 ^ 64] := by
  induction left generalizing right first second with
  | nil =>
      cases right with
      | nil => exact .refl _
      | cons other right => cases sameLength
  | cons byte left ih =>
      cases right with
      | nil => cases sameLength
      | cons other right =>
          have onward := ih (Nat.succ.inj sameLength) (step first byte) (step second other)
          exact onward.trans (distanceAfter_modEq (step_gap_modEq first second byte other) _)

theorem gaps_bounds (first second : UInt64) (left right : List UInt8) :
    ∀ gap ∈ gaps first second left right, -510 ≤ gap ∧ gap ≤ 510 := by
  induction left generalizing first second right with
  | nil => simp [gaps]
  | cons byte left ih =>
      cases right with
      | nil => simp [gaps]
      | cons other right =>
          intro gap member
          rcases List.mem_cons.mp member with rfl | later
          · have firstBounds := drift_bounds first byte
            have secondBounds := drift_bounds second other
            omega
          · exact ih _ _ _ gap later

/-- Byte strings of one length without a gap from a common state are the same. -/
theorem eq_of_gaps_eq_zero (sameLength : left.length = right.length) (state : UInt64)
    (closed : ∀ gap ∈ gaps state state left right, gap = 0) : left = right := by
  induction left generalizing right state with
  | nil => exact (List.length_eq_zero_iff.mp sameLength.symm).symm
  | cons byte left ih =>
      cases right with
      | nil => cases sameLength
      | cons other right =>
          obtain ⟨first, rest⟩ := List.forall_mem_cons.mp closed
          obtain rfl := drift_inj.mp (sub_eq_zero.mp first)
          rw [ih (Nat.succ.inj sameLength) _ rest]

/-! ## Words of four bytes -/

/-- Four small gaps add up to a multiple of 2^64 only if all of them are zero. -/
theorem gaps_eq_zero_of_dvd {first second third fourth : Int}
    (firstSmall : -510 ≤ first ∧ first ≤ 510) (secondSmall : -510 ≤ second ∧ second ≤ 510)
    (thirdSmall : -510 ≤ third ∧ third ≤ 510) (fourthSmall : -510 ≤ fourth ∧ fourth ≤ 510)
    (multiple : 2 ^ 64 ∣ ((first * 0x100000001b3 + second) * 0x100000001b3 + third) *
      0x100000001b3 + fourth) :
    first = 0 ∧ second = 0 ∧ third = 0 ∧ fourth = 0 := by
  obtain ⟨quotient, total⟩ := multiple
  -- Modulo 2^40 the factor is 435, and what the gaps then add up to is less than 2^40.
  have low : ((first * 435 + second) * 435 + third) * 435 + fourth = 0 := by omega
  -- What remains are the terms with one factor 2^40; those with more vanish modulo 2^64.
  have high : 2 ^ 24 ∣ 3 * 435 ^ 2 * first + 2 * 435 * second + third := by omega
  -- Each gap is too small for more than one carry, so little is left of the higher ones.
  have carryThree : ((first * 435 + second) * 435 + third).natAbs ≤ 1 := by omega
  have carryTwo : (first * 435 + second).natAbs ≤ 1 := by omega
  have carryOne : first.natAbs ≤ 1 := by omega
  have highZero : 3 * 435 ^ 2 * first + 2 * 435 * second + third = 0 := by omega
  omega

theorem foldl_step_word_inj {state : UInt64} {a b c d a' b' c' d' : UInt8}
    (same : [a, b, c, d].foldl step state = [a', b', c', d'].foldl step state) :
    [a, b, c, d] = [a', b', c', d'] := by
  have sameLength : [a, b, c, d].length = [a', b', c', d'].length := rfl
  have vanishes := foldl_step_modEq sameLength state state
  have bounds := gaps_bounds state state [a, b, c, d] [a', b', c', d']
  apply eq_of_gaps_eq_zero sameLength state
  rw [same, sub_self, sub_self] at vanishes
  simp only [gaps, List.forall_mem_cons, distanceAfter, zero_add] at vanishes bounds ⊢
  obtain ⟨firstSmall, secondSmall, thirdSmall, fourthSmall, _⟩ := bounds
  -- The last multiplication is by an odd number, so the sum before it is a multiple already.
  have coprime : Int.gcd (2 ^ 64) 0x100000001b3 = 1 := by decide
  have multiple := Int.dvd_of_dvd_mul_left_of_gcd_one
    (Int.modEq_zero_iff_dvd.mp vanishes.symm) coprime
  obtain ⟨first, second, third, fourth⟩ :=
    gaps_eq_zero_of_dvd firstSmall secondSmall thirdSmall fourthSmall multiple
  exact ⟨first, second, third, fourth, by simp⟩

theorem bytes32_injective : Function.Injective bytes32 := by
  intro left right same
  have digits : left.toNat % 256 = right.toNat % 256 ∧
      left.toNat / 2 ^ 8 % 256 = right.toNat / 2 ^ 8 % 256 ∧
      left.toNat / 2 ^ 16 % 256 = right.toNat / 2 ^ 16 % 256 ∧
      left.toNat / 2 ^ 24 % 256 = right.toNat / 2 ^ 24 % 256 := by
    simpa [bytes32, ← UInt8.toNat_inj, Nat.shiftRight_eq_div_pow] using same
  have leftSmall := left.toNat_lt
  have rightSmall := right.toNat_lt
  apply UInt32.toNat_inj.mp
  omega

theorem bytes64_injective : Function.Injective bytes64 := by
  intro left right same
  have digits : left.toNat % 256 = right.toNat % 256 ∧
      left.toNat / 2 ^ 8 % 256 = right.toNat / 2 ^ 8 % 256 ∧
      left.toNat / 2 ^ 16 % 256 = right.toNat / 2 ^ 16 % 256 ∧
      left.toNat / 2 ^ 24 % 256 = right.toNat / 2 ^ 24 % 256 ∧
      left.toNat / 2 ^ 32 % 256 = right.toNat / 2 ^ 32 % 256 ∧
      left.toNat / 2 ^ 40 % 256 = right.toNat / 2 ^ 40 % 256 ∧
      left.toNat / 2 ^ 48 % 256 = right.toNat / 2 ^ 48 % 256 ∧
      left.toNat / 2 ^ 56 % 256 = right.toNat / 2 ^ 56 % 256 := by
    simpa [bytes64, ← UInt8.toNat_inj, Nat.shiftRight_eq_div_pow] using same
  have leftSmall := left.toNat_lt
  have rightSmall := right.toNat_lt
  apply UInt64.toNat_inj.mp
  omega

/-- **Every change of a word of four bytes is seen.** -/
theorem separated_bytes32 {left right : UInt32} (apart : left ≠ right) :
    Separated (bytes32 left) (bytes32 right) :=
  fun _ same => apart (bytes32_injective (foldl_step_word_inj same))

end PrintPlanner.Fingerprint
