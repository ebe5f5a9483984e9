import PrintPlanner.Proofs.Signature.Bytes
import PrintPlanner.Signature.Basic
import PrintPlanner.Text.Utf8

/-!
# Reading edges back from their bytes

The bytes of inbound edges follow each other without any lengths, and two of the four parts of an
edge vary in length.  Each of these is a text that ends at its first byte zero, as long as the text
has no character NUL itself.  The words in between may hold zeros, but have a fixed length.  So the
first edge can be told from what comes after it (`InboundEdge.bytes_append_inj`), and the bytes of
any number of edges are those of no other list (`InboundEdge.flatMap_bytes_inj`).
-/

set_option autoImplicit false

namespace PrintPlanner

/-- What stands before the first of several marks is determined. -/
theorem append_mark_inj {α : Type} {mark : α} {left right rest others : List α}
    (leftFree : mark ∉ left) (rightFree : mark ∉ right) :
    left ++ mark :: rest = right ++ mark :: others ↔ left = right ∧ rest = others := by
  refine ⟨fun same => ?_, fun ⟨sameFront, sameRest⟩ => by rw [sameFront, sameRest]⟩
  induction left generalizing right with
  | nil =>
      cases right with
      | nil => exact ⟨rfl, (List.cons.inj same).2⟩
      | cons first right =>
          rw [(List.cons.inj same).1] at rightFree
          exact absurd List.mem_cons_self rightFree
  | cons first left ih =>
      cases right with
      | nil =>
          rw [(List.cons.inj same).1] at leftFree
          exact absurd List.mem_cons_self leftFree
      | cons other right =>
          obtain ⟨rfl, later⟩ := List.cons.inj same
          obtain ⟨rfl, sameRest⟩ := ih (fun member => leftFree (List.mem_cons_of_mem _ member))
            (fun member => rightFree (List.mem_cons_of_mem _ member)) later
          exact ⟨rfl, sameRest⟩

/-- Texts without NUL that are followed by a byte zero are determined by their bytes. -/
theorem Text.utf8_append_zero_inj {left right : String} {rest others : List UInt8}
    (leftFree : '\x00' ∉ left.toList) (rightFree : '\x00' ∉ right.toList) :
    utf8 left ++ 0 :: rest = utf8 right ++ 0 :: others ↔ left = right ∧ rest = others := by
  rw [append_mark_inj (mt zero_mem_utf8_iff.mp leftFree) (mt zero_mem_utf8_iff.mp rightFree),
    utf8_inj]

namespace InboundEdge

open Fingerprint

/-- The texts of an edge have no character NUL. -/
structure Delimited (edge : InboundEdge) : Prop where
  source : '\x00' ∉ edge.source.toList
  program : '\x00' ∉ edge.program.toList

variable {edge other : InboundEdge} {edges others : List InboundEdge}

/-- **An edge is determined by bytes that begin with its own.** -/
theorem bytes_append_inj {rest later : List UInt8} (delimited : edge.Delimited)
    (otherDelimited : other.Delimited) (same : edge.bytes ++ rest = other.bytes ++ later) :
    edge = other ∧ rest = later := by
  have split : ∀ (edge : InboundEdge) (rest : List UInt8), edge.bytes ++ rest =
      Text.utf8 edge.source ++ 0 :: (bytes32 edge.cost ++
        (bytes64 edge.maxSize ++ (Text.utf8 edge.program ++ 0 :: rest))) := by
    simp [bytes]
  rw [split, split, Text.utf8_append_zero_inj delimited.source otherDelimited.source] at same
  obtain ⟨sources, words⟩ := same
  obtain ⟨costs, sizes⟩ := List.append_inj words rfl
  obtain ⟨limits, texts⟩ := List.append_inj sizes rfl
  obtain ⟨programs, rests⟩ :=
    (Text.utf8_append_zero_inj delimited.program otherDelimited.program).mp texts
  refine ⟨?_, rests⟩
  cases edge
  cases other
  rw [mk.injEq]
  exact ⟨sources, bytes32_injective costs, bytes64_injective limits, programs⟩

theorem bytes_ne_nil (edge : InboundEdge) : edge.bytes ≠ [] := by
  simp [bytes]

/-- **Edges are determined by their bytes**, and so is how many there are. -/
theorem flatMap_bytes_inj (delimited : ∀ edge ∈ edges, edge.Delimited)
    (otherDelimited : ∀ edge ∈ others, edge.Delimited) :
    edges.flatMap bytes = others.flatMap bytes ↔ edges = others := by
  refine ⟨fun same => ?_, fun same => by rw [same]⟩
  induction edges generalizing others with
  | nil =>
      cases others with
      | nil => rfl
      | cons other others =>
          have none := (List.append_eq_nil_iff.mp same.symm).1
          exact absurd none other.bytes_ne_nil
  | cons edge edges ih =>
      cases others with
      | nil => exact absurd (List.append_eq_nil_iff.mp same).1 edge.bytes_ne_nil
      | cons other others =>
          obtain ⟨first, rest⟩ := List.forall_mem_cons.mp delimited
          obtain ⟨otherFirst, otherRest⟩ := List.forall_mem_cons.mp otherDelimited
          obtain ⟨rfl, later⟩ := bytes_append_inj first otherFirst same
          rw [ih rest otherRest later]

end InboundEdge

end PrintPlanner
