import Mathlib.Data.Multiset.MapFold
import PrintPlanner.Proofs.Graph.Alignment
import PrintPlanner.Proofs.Signature.Decoding
import PrintPlanner.Proofs.Signature.Sources

/-!
# Signatures and profiles

The profile of a destination is the multiset of its filters as they look from outside, with one
placeholder for all printers' types (`FilterGraph.inboundProfile`).  A signature depends on the
profile alone: handles, the order of creation, the spelling of names and whatever else the graph
holds or has held leave no trace in it (`FilterGraph.signature_eq_of_inboundProfile_eq`), in graphs
that may even have had their registry replaced.

Conversely the bytes that a signature is the fingerprint of determine the profile, as long as no
program has a character NUL (`FilterGraph.signatureBytes_eq_iff`).  So destinations with different
profiles and equal signatures must be a collision of the fingerprint.
-/

set_option autoImplicit false

namespace PrintPlanner

/-! ## What is seen of a filter -/

namespace InboundEdge

/-- A filter as it looks from outside.  The text `printer/*` stands for every printer's type, and a
source that the registry does not hold has no text. -/
def described (types : TypeRegistry) (filter : Filter) : InboundEdge where
  source := (types.get? filter.source).elim "" fun media =>
    if media.superType = "printer" then "printer/*" else media.superType ++ "/" ++ media.subType
  cost := filter.cost
  maxSize := filter.maxSize
  program := filter.program

theorem described_eq_ofFilter (types : TypeRegistry) (filter : Filter) :
    described types filter = ofFilter types filter := by
  rw [described, ofFilter, sourceText]
  congr 1
  cases types.get? filter.source with
  | none => rfl
  | some media =>
      simp only [Option.elim_some, MediaType.isSink, MediaType.sinkSuperType, beq_iff_eq]
      rfl

/-- A name of a media type has no character NUL. -/
theorem nul_notMem_of_isName {part : NamePart} {text : String} (valid : IsName part text) :
    '\x00' ∉ text.toList := by
  intro member
  have clean := valid.clean '\x00' member
  contradiction

theorem nul_notMem_sourceText (types : TypeRegistry) (source : MediaTypeId) :
    '\x00' ∉ (sourceText types source).toList := by
  unfold sourceText
  split
  · decide
  · rename_i media _
    split
    · decide
    · simp only [MediaType.text, TypeName.text, String.toList_append, List.mem_append, not_or]
      exact ⟨⟨nul_notMem_of_isName media.superType_isName, by decide⟩,
        nul_notMem_of_isName media.subType_isName⟩

end InboundEdge

namespace FilterGraph

variable {graph other : FilterGraph} {dest target : MediaTypeId}

/-- The filters into a destination as they look from outside, each as often as it occurs. -/
def inboundProfile (graph : FilterGraph) (dest : MediaTypeId) : Multiset InboundEdge :=
  ((graph.filters.filter (·.2.dest = dest)).map fun entry =>
    InboundEdge.described graph.types entry.2 : List InboundEdge)

/-- The bytes whose fingerprint a signature has. -/
def signatureBytes (graph : FilterGraph) (dest : MediaTypeId) : List UInt8 :=
  (graph.inboundEdges dest).flatMap InboundEdge.bytes

/-! ## Edges and profiles -/

/-- The inbound edges are the profile in ascending order. -/
theorem Aligned.coe_inboundEdges (aligned : graph.Aligned) (dest : MediaTypeId) :
    (graph.inboundEdges dest : Multiset InboundEdge) = graph.inboundProfile dest := by
  rw [inboundEdges, Multiset.coe_eq_coe.mpr (InboundEdge.sorted_perm _), aligned.filtersInto_eq,
    inboundProfile]
  simp only [InboundEdge.described_eq_ofFilter]

/-- **Inbound edges and profiles determine each other.** -/
theorem Aligned.inboundEdges_eq_iff (aligned : graph.Aligned) (otherAligned : other.Aligned) :
    graph.inboundEdges dest = other.inboundEdges target ↔
      graph.inboundProfile dest = other.inboundProfile target := by
  rw [← aligned.coe_inboundEdges, ← otherAligned.coe_inboundEdges, Multiset.coe_eq_coe]
  refine ⟨fun same => .of_eq same, fun perm => ?_⟩
  have first := InboundEdge.sorted_perm ((graph.filtersInto dest).map fun entry =>
    .ofFilter graph.types entry.2)
  have second := InboundEdge.sorted_perm ((other.filtersInto target).map fun entry =>
    .ofFilter other.types entry.2)
  exact InboundEdge.sorted_eq_of_perm ((first.symm.trans perm).trans second)

/-- **A signature depends on the profile alone,** however the graphs were built. -/
theorem signature_eq_of_inboundProfile_eq (built : graph.Built) (otherBuilt : other.Built)
    (same : graph.inboundProfile dest = other.inboundProfile target) :
    (graph.signature dest).edgeCount = (other.signature target).edgeCount ∧
      (graph.signature dest).hash = (other.signature target).hash := by
  have edges := (built.aligned.inboundEdges_eq_iff otherBuilt.aligned).mpr same
  rw [signature, signature, edges]
  exact ⟨rfl, rfl⟩

/-- The laser printer takes text, PDF and what another printer makes. -/
def laserEdits : List GraphEdit := [
  .addType "text" "plain", .addType "application" "pdf", .addSinkType "laser",
  .addSinkType "stage", .addLimitedFilter ⟨0⟩ ⟨2⟩ 10 4096 "texttolaser",
  .addFilter ⟨1⟩ ⟨2⟩ 20 "pdftolaser", .addFilter ⟨3⟩ ⟨2⟩ 0 "finish"]

/-- The ink printer comes to the same after a detour: a filter is removed and added again, another
one is improved, and a third leads elsewhere. -/
def inkEdits : List GraphEdit := [
  .addSinkType "ink", .addSinkType "dither", .addType "Application" "PDF",
  .addFilter ⟨1⟩ ⟨0⟩ 9 "draft", .addFilter ⟨2⟩ ⟨0⟩ 20 "pdftolaser", .removeFilter ⟨0⟩,
  .addType "TEXT" "Plain", .addFilter ⟨3⟩ ⟨1⟩ 1 "halftone", .query,
  .addLimitedFilter ⟨3⟩ ⟨0⟩ 30 1 "slow", .addFilter ⟨1⟩ ⟨0⟩ 0 "finish",
  .addLimitedFilter ⟨3⟩ ⟨0⟩ 10 4096 "texttolaser"]

/-- The laser printer and the ink printer have the same signature, although the handles of their
filters differ. -/
theorem signature_laser_eq_ink :
    ((empty.after laserEdits).Built ∧ (empty.after inkEdits).Built ∧
        (empty.after laserEdits).inboundProfile ⟨2⟩ = (empty.after inkEdits).inboundProfile ⟨0⟩) ∧
      (((empty.after laserEdits).signature ⟨2⟩).edgeCount =
          ((empty.after inkEdits).signature ⟨0⟩).edgeCount ∧
        ((empty.after laserEdits).signature ⟨2⟩).hash =
          ((empty.after inkEdits).signature ⟨0⟩).hash) ∧
      ((empty.after laserEdits).filtersInto ⟨2⟩).map Prod.fst = [⟨0⟩, ⟨1⟩, ⟨2⟩] ∧
      ((empty.after inkEdits).filtersInto ⟨0⟩).map Prod.fst = [⟨1⟩, ⟨3⟩, ⟨4⟩] := by
  have laserBuilt : (empty.after laserEdits).Built := Reachable.built ⟨laserEdits, rfl⟩
  have inkBuilt : (empty.after inkEdits).Built := Reachable.built ⟨inkEdits, rfl⟩
  have same : (empty.after laserEdits).inboundProfile ⟨2⟩ =
      (empty.after inkEdits).inboundProfile ⟨0⟩ := by decide +kernel
  refine ⟨⟨laserBuilt, inkBuilt, same⟩,
    signature_eq_of_inboundProfile_eq laserBuilt inkBuilt same, ?_, ?_⟩
  · decide +kernel
  · decide +kernel

/-- The names of the sources are part of the bytes: these are others after text and the stage have
changed places under the filters. -/
example :
    let renamed := (∅ : TypeRegistry).after [.addSinkType "stage", .addType "application" "pdf",
      .addSinkType "laser", .addType "text" "plain"]
    ((empty.after laserEdits).replaceTypes renamed).signatureBytes ⟨2⟩ ≠
      (empty.after laserEdits).signatureBytes ⟨2⟩ := by
  decide +kernel

/-! ## Bytes and profiles -/

theorem hash_signature (graph : FilterGraph) (dest : MediaTypeId) :
    (graph.signature dest).hash = Fingerprint.ofBytes (graph.signatureBytes dest) := rfl

/-- No program of a filter into the destination has a character NUL. -/
def ProgramsDelimited (graph : FilterGraph) (dest : MediaTypeId) : Prop :=
  ∀ entry ∈ graph.filters, entry.2.dest = dest → '\x00' ∉ entry.2.program.toList

instance (graph : FilterGraph) (dest : MediaTypeId) : Decidable (graph.ProgramsDelimited dest) :=
  inferInstanceAs (Decidable (∀ entry ∈ graph.filters, _))

theorem Aligned.delimited_of_mem_inboundEdges (aligned : graph.Aligned)
    (programs : graph.ProgramsDelimited dest) :
    ∀ edge ∈ graph.inboundEdges dest, edge.Delimited := by
  intro edge listed
  rw [← Multiset.mem_coe, aligned.coe_inboundEdges, inboundProfile, Multiset.mem_coe,
    List.mem_map] at listed
  obtain ⟨⟨handle, filter⟩, listed, rfl⟩ := listed
  obtain ⟨stored, here⟩ := List.mem_filter.mp listed
  rw [InboundEdge.described_eq_ofFilter]
  exact ⟨InboundEdge.nul_notMem_sourceText graph.types filter.source,
    programs (handle, filter) stored (of_decide_eq_true here)⟩

/-- **The bytes of a signature determine the profile** and the other way round, unless a program
has a character NUL. -/
theorem signatureBytes_eq_iff (built : graph.Built) (otherBuilt : other.Built)
    (programs : graph.ProgramsDelimited dest) (otherPrograms : other.ProgramsDelimited target) :
    ((graph.signature dest).hash = Fingerprint.ofBytes (graph.signatureBytes dest) ∧
        (other.signature target).hash = Fingerprint.ofBytes (other.signatureBytes target)) ∧
      (graph.signatureBytes dest = other.signatureBytes target ↔
        graph.inboundProfile dest = other.inboundProfile target) := by
  refine ⟨⟨graph.hash_signature dest, other.hash_signature target⟩, ?_⟩
  rw [← built.aligned.inboundEdges_eq_iff otherBuilt.aligned]
  exact InboundEdge.flatMap_bytes_inj (built.aligned.delimited_of_mem_inboundEdges programs)
    (otherBuilt.aligned.delimited_of_mem_inboundEdges otherPrograms)

/-- A printer with two filters, which cost next to nothing and limit no job. -/
def twoFilters : List GraphEdit := [
  .addType "application" "pdf", .addType "text" "plain", .addSinkType "laser",
  .addFilter ⟨0⟩ ⟨2⟩ 1 "a", .addFilter ⟨1⟩ ⟨2⟩ 1 "b"]

/-- The same printer with one filter in place of the two. -/
def joinedFilter (program : String) : List GraphEdit := [
  .addType "application" "pdf", .addType "text" "plain", .addSinkType "laser",
  .addFilter ⟨0⟩ ⟨2⟩ 1 program]

/-- One filter is not taken for two. -/
theorem signatureBytes_twoFilters_ne_joined :
    ((empty.after twoFilters).Built ∧ (empty.after (joinedFilter "atext/plainb")).Built ∧
        (empty.after twoFilters).ProgramsDelimited ⟨2⟩ ∧
        (empty.after (joinedFilter "atext/plainb")).ProgramsDelimited ⟨2⟩) ∧
      (empty.after twoFilters).signatureBytes ⟨2⟩ ≠
        (empty.after (joinedFilter "atext/plainb")).signatureBytes ⟨2⟩ := by
  have built : (empty.after twoFilters).Built := Reachable.built ⟨twoFilters, rfl⟩
  have joinedBuilt : (empty.after (joinedFilter "atext/plainb")).Built :=
    Reachable.built ⟨joinedFilter "atext/plainb", rfl⟩
  have programs : (empty.after twoFilters).ProgramsDelimited ⟨2⟩ := by decide +kernel
  have joinedPrograms : (empty.after (joinedFilter "atext/plainb")).ProgramsDelimited ⟨2⟩ := by
    decide +kernel
  have different : (empty.after twoFilters).inboundProfile ⟨2⟩ ≠
      (empty.after (joinedFilter "atext/plainb")).inboundProfile ⟨2⟩ := by
    decide +kernel
  exact ⟨⟨built, joinedBuilt, programs, joinedPrograms⟩,
    mt (signatureBytes_eq_iff built joinedBuilt programs joinedPrograms).2.mp different⟩

/-- A program with characters NUL can end one filter and spell out another. -/
example :
    let joined := joinedFilter
      "a\x00text/plain\x00\x01\x00\x00\x00\x00\x00\x00\x00\x00\x00\x00\x00b"
    (empty.after twoFilters).signatureBytes ⟨2⟩ = (empty.after joined).signatureBytes ⟨2⟩ ∧
      (empty.after twoFilters).inboundProfile ⟨2⟩ ≠ (empty.after joined).inboundProfile ⟨2⟩ := by
  decide +kernel

end FilterGraph

end PrintPlanner
