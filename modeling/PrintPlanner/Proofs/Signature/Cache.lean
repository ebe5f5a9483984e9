import PrintPlanner.Signature.Cache

/-!
# What a lookup leaves in the cache

A lookup answers from an entry or with a sweep, and leaves at most one entry more, which is the
answer that it gave.  A cache that is switched off answers with a sweep and stays empty.
-/

set_option autoImplicit false

namespace PrintPlanner.SignatureCache

variable {cache : SignatureCache} {graph : FilterGraph} {dest : MediaTypeId}

theorem getElem?_entries_new (enabled : Bool) (signature : SinkSignature) :
    (new enabled).entries[signature]? = none :=
  Std.TreeMap.getElem?_emptyc

theorem getElem?_entries_clear (cache : SignatureCache) (signature : SinkSignature) :
    cache.clear.entries[signature]? = none :=
  Std.TreeMap.getElem?_emptyc

theorem tryReuse_of_hit (on : cache.enabled = true) {types : TypeSet}
    (hit : cache.entries[graph.signature dest]? = some types) :
    cache.tryReuse graph dest =
      (some types, { cache with stats.hits := cache.stats.hits + 1 }) := by
  simp only [tryReuse, on, Bool.not_true, Bool.false_eq_true, if_false, hit]

theorem tryReuse_of_miss (on : cache.enabled = true)
    (miss : cache.entries[graph.signature dest]? = none) :
    cache.tryReuse graph dest = (none, { cache with stats.misses := cache.stats.misses + 1 }) := by
  simp only [tryReuse, on, Bool.not_true, Bool.false_eq_true, if_false, miss]

theorem store_of_held (on : cache.enabled = true) {known : TypeSet}
    (held : cache.entries[graph.signature dest]? = some known) (types : TypeSet) :
    cache.store graph dest types = (false, cache) := by
  have present : cache.entries.contains (graph.signature dest) = true := by
    rw [Std.TreeMap.contains_eq_isSome_getElem?, held, Option.isSome_some]
  simp only [store, on, present, Bool.not_true, Bool.false_eq_true, if_false, if_true]

theorem store_of_missing (on : cache.enabled = true)
    (missing : cache.entries[graph.signature dest]? = none) (types : TypeSet) :
    cache.store graph dest types =
      (true,
        { cache with
          entries := cache.entries.insert (graph.signature dest) types
          stats.stores := cache.stats.stores + 1 }) := by
  have absent : cache.entries.contains (graph.signature dest) = false := by
    rw [Std.TreeMap.contains_eq_isSome_getElem?, missing, Option.isSome_none]
  simp only [store, on, absent, Bool.not_true, Bool.false_eq_true, if_false]

theorem reachableSources_of_disabled (off : cache.enabled = false) :
    cache.reachableSources graph dest = (graph.reachableSources dest, cache) := by
  simp only [reachableSources, tryReuse, off, Bool.not_false, if_true]
  cases graph.reachableSources dest with
  | error fault => rfl
  | ok types => simp [store, off]

theorem reachableSources_of_hit (on : cache.enabled = true) {types : TypeSet}
    (hit : cache.entries[graph.signature dest]? = some types) :
    cache.reachableSources graph dest =
      (.ok types, { cache with stats.hits := cache.stats.hits + 1 }) := by
  simp only [reachableSources, tryReuse_of_hit on hit]

theorem reachableSources_of_miss (on : cache.enabled = true)
    (miss : cache.entries[graph.signature dest]? = none) :
    cache.reachableSources graph dest =
      match graph.reachableSources dest with
      | .error fault => (.error fault, { cache with stats.misses := cache.stats.misses + 1 })
      | .ok types =>
          (.ok types,
            { cache with
              entries := cache.entries.insert (graph.signature dest) types
              stats := ⟨cache.stats.hits, cache.stats.misses + 1, cache.stats.stores + 1⟩ }) := by
  simp only [reachableSources, tryReuse_of_miss on miss]
  cases graph.reachableSources dest with
  | error fault => rfl
  | ok types =>
      -- The answer is stored in the cache that has counted the miss, which has the same entries.
      let counted : SignatureCache := { cache with stats.misses := cache.stats.misses + 1 }
      have countedOn : counted.enabled = true := on
      have stored := store_of_missing countedOn miss types
      exact congrArg (fun outcome => (Except.ok types, outcome.2)) stored

/-- A cache that is switched on answers with the entry of the signature, or else with a sweep. -/
theorem fst_reachableSources (on : cache.enabled = true) :
    (cache.reachableSources graph dest).1 =
      (cache.entries[graph.signature dest]?).elim (graph.reachableSources dest) .ok := by
  cases found : cache.entries[graph.signature dest]? with
  | some types =>
      rw [reachableSources_of_hit on found]
      rfl
  | none =>
      rw [reachableSources_of_miss on found]
      cases graph.reachableSources dest <;> rfl

/-- Whether it is on or off, a lookup is answered in one of these two ways. -/
theorem fst_reachableSources_cases (cache : SignatureCache) (graph : FilterGraph)
    (dest : MediaTypeId) :
    (∃ types, cache.entries[graph.signature dest]? = some types ∧
        (cache.reachableSources graph dest).1 = .ok types) ∨
      (cache.reachableSources graph dest).1 = graph.reachableSources dest := by
  cases on : cache.enabled with
  | false => exact .inr (by rw [reachableSources_of_disabled on])
  | true =>
      rw [fst_reachableSources on]
      cases cache.entries[graph.signature dest]? with
      | some types => exact .inl ⟨types, rfl, rfl⟩
      | none => exact .inr rfl

/-- Looking up does not switch. -/
@[simp] theorem enabled_reachableSources (cache : SignatureCache) (graph : FilterGraph)
    (dest : MediaTypeId) :
    (cache.reachableSources graph dest).2.enabled = cache.enabled := by
  cases on : cache.enabled with
  | false => rw [reachableSources_of_disabled on, on]
  | true =>
      cases found : cache.entries[graph.signature dest]? with
      | some types => rw [reachableSources_of_hit on found, on]
      | none =>
          rw [reachableSources_of_miss on found]
          split <;> exact on

/-- After a lookup every entry is an old one, or the answer of that lookup. -/
theorem entries_reachableSources {signature : SinkSignature} {types : TypeSet}
    (held : (cache.reachableSources graph dest).2.entries[signature]? = some types) :
    cache.entries[signature]? = some types ∨
      (graph.signature dest = signature ∧ graph.reachableSources dest = .ok types) := by
  cases on : cache.enabled with
  | false =>
      rw [reachableSources_of_disabled on] at held
      exact .inl held
  | true =>
      cases found : cache.entries[graph.signature dest]? with
      | some known =>
          rw [reachableSources_of_hit on found] at held
          exact .inl held
      | none =>
          rw [reachableSources_of_miss on found] at held
          split at held
          · exact .inl held
          · rename_i swept answer
            rw [Std.TreeMap.getElem?_insert] at held
            split at held
            · rename_i same
              cases held
              exact .inr ⟨Std.compare_eq_iff_eq.mp same, answer⟩
            · exact .inl held

end PrintPlanner.SignatureCache
