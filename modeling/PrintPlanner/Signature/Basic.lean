import PrintPlanner.Signature.Fingerprint
import PrintPlanner.Signature.InboundEdge

/-!
# Sink signatures

Many printers are fed by the same filters.  The signature of a destination is the
number of its inbound edges with the fingerprint of their bytes in ascending order:
for each edge the source text, a zero byte, the cost in four bytes, the size limit
in eight, the program text, and a zero byte.
-/

set_option autoImplicit false

namespace PrintPlanner

/-- The bytes that stand for an edge in a fingerprint. -/
def InboundEdge.bytes (edge : InboundEdge) : List UInt8 :=
  Text.utf8 edge.source ++ [0] ++ Fingerprint.bytes32 edge.cost ++
    Fingerprint.bytes64 edge.maxSize ++ Text.utf8 edge.program ++ [0]

/-- What is remembered of a destination's inbound filters. -/
structure SinkSignature where
  edgeCount : Nat
  hash : UInt64
deriving DecidableEq, Repr

namespace SinkSignature

instance : Ord SinkSignature := ⟨compareLex (compareOn edgeCount) (compareOn hash)⟩

instance : Std.TransOrd SinkSignature :=
  inferInstanceAs (Std.TransCmp (compareLex (compareOn edgeCount) (compareOn hash)))

instance : Std.LawfulEqOrd SinkSignature where
  eq_of_compare := by
    intro left right equal
    have both : compareLex (compareOn edgeCount) (compareOn hash) left right = .eq := equal
    simp only [compareLex, compareOn, Ordering.then_eq_eq, Std.compare_eq_iff_eq] at both
    cases left
    cases right
    simp_all

/-- The signature of a list of edges. -/
def ofEdges (edges : List InboundEdge) : SinkSignature :=
  ⟨edges.length, Fingerprint.ofBytes (edges.flatMap InboundEdge.bytes)⟩

end SinkSignature

/-- The signature of the filters into `dest`. -/
def FilterGraph.signature (graph : FilterGraph) (dest : MediaTypeId) : SinkSignature :=
  .ofEdges (graph.inboundEdges dest)

end PrintPlanner
