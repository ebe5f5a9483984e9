import PrintPlanner.Proofs.Reach.Agreement
import PrintPlanner.Proofs.Reach.Stability
import PrintPlanner.Proofs.Signature.Sources

/-!
# When answers may be shared

The inbound edges of a destination do not tell what leads to its producers.  Two destinations have
the same answer if they are fed alike: by the same document types and, apart from that, by
destinations that are fed alike in turn, such as the private prefilter stages of two printers
(`FilterGraph.FedAlike`).  One of them may even belong to an older graph, as long as nothing has
come to lead to a document type in between (`FilterGraph.Coherent.reachableSources_eq_of_fedAlike`).
For printers that are fed by document types only, perhaps beside themselves, it is enough that the
inbound edges are the same (`FilterGraph.Coherent.fedAlike_of_inboundEdges_eq`).
-/

set_option autoImplicit false

namespace PrintPlanner.FilterGraph

/-- Paired destinations of a graph and of an older one are fed by the same document types and by
paired destinations.  What a destination gives to itself does not count. -/
structure FedAlike (graph older : FilterGraph) (pairs : List (MediaTypeId × MediaTypeId)) :
    Prop where
  not_document : ∀ pair ∈ pairs,
    ¬ graph.types.IsDocument pair.1 ∧ ¬ older.types.IsDocument pair.2
  forth : ∀ pair ∈ pairs, ∀ source ∈ graph.producersOf pair.1, source = pair.1 ∨
    (older.types.IsDocument source ∧ source ∈ older.producersOf pair.2) ∨
    ∃ twin ∈ older.producersOf pair.2, (source, twin) ∈ pairs
  back : ∀ pair ∈ pairs, ∀ twin ∈ older.producersOf pair.2, twin = pair.2 ∨
    (older.types.IsDocument twin ∧ twin ∈ graph.producersOf pair.1) ∨
    ∃ source ∈ graph.producersOf pair.1, (source, twin) ∈ pairs

instance {graph older : FilterGraph} {pairs : List (MediaTypeId × MediaTypeId)} :
    Decidable (graph.FedAlike older pairs) :=
  decidable_of_iff (_ ∧ _ ∧ _) ⟨fun ⟨not_document, forth, back⟩ => ⟨not_document, forth, back⟩,
    fun alike => ⟨alike.not_document, alike.forth, alike.back⟩⟩

/-- The destination is no document type, and nothing but document types and the destination
itself is converted into it. -/
structure SelfContained (graph : FilterGraph) (sink : MediaTypeId) : Prop where
  not_document : ¬ graph.types.IsDocument sink
  fed : ∀ source ∈ graph.producersOf sink, source ≠ sink → graph.types.IsDocument source

variable {graph older : FilterGraph} {sink former source : MediaTypeId}

/-- A destination that is no document type is answered with all document types that lead to it
in few filters. -/
theorem listed_iff_of_not_document (final : ¬ graph.types.IsDocument sink) :
    graph.Listed source sink ↔
      graph.types.IsDocument source ∧ graph.Within (maxReachDepth + 1) source sink := by
  rw [TypeRegistry.isDocument_iff]
  constructor
  · exact fun listed => ⟨⟨listed.registered, listed.document⟩, listed.within⟩
  · rintro ⟨⟨registered, document⟩, near⟩
    refine ⟨registered, document, fun _ => near, ?_⟩
    rintro rfl
    exact absurd (TypeRegistry.isDocument_iff.mpr ⟨registered, document⟩) final

section Coherent

variable (coherent : graph.Coherent)
include coherent

/-- The answer for a destination is a set of just the types that are listed for it. -/
theorem Coherent.exists_reachableSources (dest : MediaTypeId) :
    ∃ set, graph.reachableSources dest = .ok set ∧ ∀ media, media ∈ set ↔
      ∃ source, graph.Listed source dest ∧ graph.types.get? source = some media := by
  obtain ⟨sources, listed, nodup, member⟩ := coherent.exists_reachableSourceIds dest
  obtain ⟨set, answer, _, holds⟩ := coherent.mem_reachableSources_of_listed listed nodup
    fun source among => ((member source).mp among).registered
  refine ⟨set, answer, fun media => ?_⟩
  rw [holds]
  simp only [member]

section Alike

variable {pairs : List (MediaTypeId × MediaTypeId)} (olderCoherent : older.Coherent)
  (undisturbed : graph.Undisturbed older) (alike : graph.FedAlike older pairs)
include olderCoherent undisturbed alike

/-- Document types are as near to a destination as to the older one that it is paired with. -/
theorem Coherent.within_iff_of_fedAlike (document : graph.types.IsDocument source) {bound : Nat}
    (paired : (sink, former) ∈ pairs) :
    graph.Within bound source sink ↔
      older.types.IsDocument source ∧ older.Within bound source former := by
  induction bound generalizing sink former with
  | zero =>
      obtain ⟨final, olderFinal⟩ := alike.not_document _ paired
      rw [within_zero_iff, within_zero_iff]
      exact iff_of_false (fun same => final (same ▸ document))
        fun both => olderFinal (both.2 ▸ both.1)
  | succ bound ih =>
      obtain ⟨final, olderFinal⟩ := alike.not_document _ paired
      rw [coherent.within_succ_iff_back, olderCoherent.within_succ_iff_back]
      constructor
      · rintro (rfl | ⟨middle, near, feeds⟩)
        · exact absurd document final
        · rcases alike.forth _ paired middle feeds with
            rfl | ⟨target, olderFeeds⟩ | ⟨twin, olderFeeds, next⟩
          · obtain ⟨olderDocument, olderNear⟩ := (ih paired).mp near
            have farther := olderNear.mono (Nat.le_succ bound)
            exact ⟨olderDocument, olderCoherent.within_succ_iff_back.mp farther⟩
          · have olderNear := (undisturbed.within_iff middle target bound source).mp near
            exact ⟨undisturbed.isDocument_of_within olderCoherent target olderNear document,
              .inr ⟨middle, olderNear, olderFeeds⟩⟩
          · obtain ⟨olderDocument, olderNear⟩ := (ih next).mp near
            exact ⟨olderDocument, .inr ⟨twin, olderNear, olderFeeds⟩⟩
      · rintro ⟨olderDocument, rfl | ⟨twin, near, feeds⟩⟩
        · exact absurd olderDocument olderFinal
        · rcases alike.back _ paired twin feeds with
            rfl | ⟨target, nowFeeds⟩ | ⟨middle, nowFeeds, next⟩
          · have nowNear := (ih paired).mpr ⟨olderDocument, near⟩
            exact coherent.within_succ_iff_back.mp (nowNear.mono (Nat.le_succ bound))
          · have nowNear := (undisturbed.within_iff twin target bound source).mpr near
            exact .inr ⟨twin, nowNear, nowFeeds⟩
          · exact .inr ⟨middle, (ih next).mpr ⟨olderDocument, near⟩, nowFeeds⟩

/-- The same types are listed for paired destinations. -/
theorem Coherent.listed_iff_of_fedAlike (paired : (sink, former) ∈ pairs) :
    graph.Listed source sink ↔ older.Listed source former := by
  obtain ⟨final, olderFinal⟩ := alike.not_document _ paired
  rw [listed_iff_of_not_document final, listed_iff_of_not_document olderFinal]
  constructor
  · rintro ⟨document, near⟩
    exact (coherent.within_iff_of_fedAlike olderCoherent undisturbed alike document paired).mp near
  · rintro ⟨olderDocument, near⟩
    have document := undisturbed.types.isDocument olderDocument
    exact ⟨document, (coherent.within_iff_of_fedAlike olderCoherent undisturbed alike document
      paired).mpr ⟨olderDocument, near⟩⟩

/-- **Destinations that are fed alike have equal answers,** where nothing has come to lead to a
document type from the one graph to the other. -/
theorem Coherent.reachableSources_eq_of_fedAlike (paired : (sink, former) ∈ pairs) :
    graph.reachableSources sink = older.reachableSources former := by
  obtain ⟨set, answer, holds⟩ := coherent.exists_reachableSources sink
  obtain ⟨olderSet, olderAnswer, olderHolds⟩ := olderCoherent.exists_reachableSources former
  have listed_iff : ∀ {source}, graph.Listed source sink ↔ older.Listed source former :=
    coherent.listed_iff_of_fedAlike olderCoherent undisturbed alike paired
  rw [answer, olderAnswer]
  congr 1
  apply Std.ExtTreeSet.ext_mem
  intro media
  rw [holds, olderHolds]
  refine exists_congr fun source => ?_
  rw [listed_iff]
  refine and_congr_right fun listed => ?_
  obtain ⟨stored, found⟩ := TypeRegistry.contains_iff_get?.mp listed.registered
  rw [found, undisturbed.types source stored found]

end Alike

/-- Self-contained destinations with equal inbound edges are fed alike. -/
theorem Coherent.fedAlike_of_inboundEdges_eq (olderCoherent : older.Coherent)
    (extension : graph.types.Extends older.types)
    (same : graph.inboundEdges sink = older.inboundEdges former)
    (contained : graph.SelfContained sink) (formerContained : older.SelfContained former) :
    graph.FedAlike older [(sink, former)] := by
  have feeds_iff : ∀ {middle}, graph.types.IsDocument middle →
      (middle ∈ graph.producersOf sink ↔
        middle ∈ older.producersOf former ∧ older.types.IsDocument middle) :=
    coherent.mem_producersOf_of_inboundEdges_eq olderCoherent extension same
  refine ⟨?_, ?_, ?_⟩ <;> rw [List.forall_mem_singleton]
  · exact ⟨contained.not_document, formerContained.not_document⟩
  · intro source feeds
    refine (eq_or_ne source sink).imp_right fun apart => .inl ?_
    exact ((feeds_iff (contained.fed source feeds apart)).mp feeds).symm
  · intro twin feeds
    refine (eq_or_ne twin former).imp_right fun apart => .inl ?_
    have document := formerContained.fed twin feeds apart
    exact ⟨document, (feeds_iff (extension.isDocument document)).mpr ⟨feeds, document⟩⟩

end Coherent

end PrintPlanner.FilterGraph
