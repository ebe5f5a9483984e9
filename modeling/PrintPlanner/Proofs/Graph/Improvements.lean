import Mathlib.Data.List.Induction
import PrintPlanner.Proofs.Graph.Offers

/-!
# Which offers a filter is made of

Cost and program of a filter are those of the first of the cheapest offers for its pair, which is
also the last offer that improved the filter (`Settles.exists_firstCheapest`).  The size limit is
that offer's too if every offer states one.

An offer without a limit leaves a limit standing that an earlier improvement has stated.  Had every
offer without a limit stated the limit zero instead, the filter would be the same but for such a
limit that outlives the offer it came with (`Settles.maxSize_ne_iff`).
-/

set_option autoImplicit false

namespace PrintPlanner

/-- The offer with the limit zero, if it states none. -/
def Offer.stated (offer : Offer) : Offer := { offer with limit := some (offer.limit.getD 0) }

/-- The last improvement states no limit, and the last limit that came with an improvement is the
given one, which is not zero. -/
structure LimitOutlives (offers : List Offer) (limit : UInt64) : Prop where
  silent : ∃ last, (improvements offers).getLast? = some last ∧ last.limit = none
  standing : ((improvements offers).filterMap Offer.limit).getLast? = some limit
  nonzero : limit ≠ 0

/-- The last improvement is the first of the cheapest offers. -/
theorem improvements_append_cons {front back : List Offer} {best : Offer}
    (dearer : ∀ other ∈ front, best.cost < other.cost)
    (notCheaper : ∀ other ∈ back, best.cost ≤ other.cost) :
    improvements (front ++ best :: back) = improvements front ++ [best] := by
  induction back using List.reverseRecOn with
  | nil => rw [improvements_append_single, if_pos dearer]
  | append_singleton back latest ih =>
      obtain ⟨others, last⟩ := List.forall_mem_append.mp notCheaper
      have noImprovement :
          ¬ ∀ former ∈ front ++ best :: back, latest.cost < former.cost := fun cheaper =>
        UInt32.not_lt.mpr (last latest (List.mem_singleton_self latest)) (cheaper best (by simp))
      have split : front ++ best :: (back ++ [latest]) = (front ++ best :: back) ++ [latest] := by
        simp
      rw [split, improvements_append_single, if_neg noImprovement, List.append_nil, ih others]

theorem improvementsAfter_map_stated (earlier offers : List Offer) :
    improvementsAfter (earlier.map Offer.stated) (offers.map Offer.stated) =
      (improvementsAfter earlier offers).map Offer.stated := by
  induction offers generalizing earlier with
  | nil => rfl
  | cons offer rest ih =>
      have onward := ih (earlier ++ [offer])
      rw [List.map_append, List.map_singleton] at onward
      rw [List.map_cons, improvementsAfter, improvementsAfter, onward, List.map_append]
      congr 1
      rw [apply_ite (List.map Offer.stated)]
      simp only [List.forall_mem_map]
      rfl

/-- Stating limits does not change which offers improve a filter. -/
theorem improvements_map_stated (offers : List Offer) :
    improvements (offers.map Offer.stated) = (improvements offers).map Offer.stated :=
  improvementsAfter_map_stated [] offers

theorem getLast?_limit_stated {offers : List Offer} {last : Offer}
    (improved : (improvements offers).getLast? = some last) :
    ((improvements (offers.map Offer.stated)).filterMap Offer.limit).getLast? =
      some (last.limit.getD 0) := by
  obtain ⟨init, split⟩ := List.getLast?_eq_some_iff.mp improved
  rw [improvements_map_stated, split]
  simp [Offer.stated]

section Settles

variable {ends : Endpoints} {offers : List Offer} {filter twin : Filter}

/-- **A filter carries the first of the cheapest offers,** apart from the limit. -/
theorem Settles.exists_firstCheapest (settles : Settles ends offers filter) :
    ∃ front best back, offers = front ++ best :: back ∧
      (∀ other ∈ front, best.cost < other.cost) ∧ (∀ other ∈ back, best.cost ≤ other.cost) ∧
      filter.cost = best.cost ∧ filter.program = best.program := by
  obtain ⟨best, found, program⟩ := Option.map_eq_some_iff.mp settles.earliest
  obtain ⟨attained, front, back, rfl, before⟩ := List.find?_eq_some_iff_append.mp found
  have cost : best.cost = filter.cost := of_decide_eq_true attained
  refine ⟨front, best, back, rfl, fun other member => ?_, fun other member => ?_, cost.symm,
    program.symm⟩
  · have differs : other.cost ≠ filter.cost := by simpa using before other member
    rw [cost]
    exact UInt32.lt_of_le_of_ne (settles.least other (by simp [member])) differs.symm
  · rw [cost]
    exact settles.least other (by simp [member])

/-- There is a last improvement. -/
theorem Settles.exists_last (settles : Settles ends offers filter) :
    ∃ last, (improvements offers).getLast? = some last := by
  obtain ⟨front, best, back, rfl, dearer, notCheaper, _⟩ := settles.exists_firstCheapest
  rw [improvements_append_cons dearer notCheaper]
  exact ⟨best, by simp⟩

/-- If all limits are stated, the filter carries that of the last improvement. -/
theorem Settles.maxSize_eq_of_stated (settles : Settles ends (offers.map Offer.stated) filter)
    {last : Offer} (improved : (improvements offers).getLast? = some last) :
    filter.maxSize = last.limit.getD 0 := by
  rw [settles.limit, getLast?_limit_stated improved, Option.getD_some]

/-- Had all limits been stated, the filter would be the same but for the limit. -/
theorem Settles.stated (settles : Settles ends offers filter) {last : Offer}
    (improved : (improvements offers).getLast? = some last) :
    Settles ends (offers.map Offer.stated) { filter with maxSize := last.limit.getD 0 } where
  connects := settles.connects
  least := List.forall_mem_map.mpr settles.least
  earliest := by
    rw [List.find?_map, Option.map_map]
    exact settles.earliest
  limit := by rw [getLast?_limit_stated improved, Option.getD_some]

variable (settles : Settles ends offers filter)
  (twinSettles : Settles ends (offers.map Offer.stated) twin)
include settles twinSettles

theorem Settles.twin_eq : twin = { filter with maxSize := twin.maxSize } := by
  obtain ⟨last, improved⟩ := settles.exists_last
  have same := twinSettles.unique (settles.stated improved)
  rw [same]

theorem Settles.maxSize_of_outlives {limit : UInt64} (outlives : LimitOutlives offers limit) :
    filter.maxSize = limit ∧ twin.maxSize = 0 := by
  obtain ⟨last, improved, silent⟩ := outlives.silent
  refine ⟨?_, ?_⟩
  · rw [settles.limit, outlives.standing, Option.getD_some]
  · rw [twinSettles.maxSize_eq_of_stated improved, silent, Option.getD_none]

/-- **The two differ exactly by a limit that has outlived its offer.** -/
theorem Settles.maxSize_ne_iff :
    filter.maxSize ≠ twin.maxSize ↔ ∃ limit, LimitOutlives offers limit := by
  constructor
  · intro differ
    obtain ⟨last, improved⟩ := settles.exists_last
    have twinLimit := twinSettles.maxSize_eq_of_stated improved
    obtain ⟨init, split⟩ := List.getLast?_eq_some_iff.mp improved
    have limit := settles.limit
    cases stated : last.limit with
    | some value =>
        rw [stated] at twinLimit
        refine absurd ?_ differ
        rw [twinLimit, limit, split]
        simp [stated]
    | none =>
        rw [stated] at twinLimit
        cases standing : ((improvements offers).filterMap Offer.limit).getLast? with
        | none =>
            rw [standing] at limit
            exact absurd (limit.trans twinLimit.symm) differ
        | some value =>
            rw [standing] at limit
            refine ⟨value, ⟨last, improved, stated⟩, standing, fun zero => differ ?_⟩
            rw [limit, twinLimit, zero]
            rfl
  · rintro ⟨limit, outlives⟩ same
    obtain ⟨stands, zero⟩ := settles.maxSize_of_outlives twinSettles outlives
    exact outlives.nonzero (stands.symm.trans (same.trans zero))

end Settles

end PrintPlanner
