import PrintPlanner.Reach.Sweep
import PrintPlanner.Signature.Basic

/-!
# The signature cache

The cache shares reachability answers between destinations with equal signatures.
The first answer stored under a signature stays until the cache is cleared.  A cache
that is switched off remembers nothing and counts nothing; clearing keeps the
counters.
-/

set_option autoImplicit false

namespace PrintPlanner

/-- How often lookups found an answer, how often they found none, and how many
answers were stored.  The counters wrap around at `2 ^ 64`. -/
structure CacheStats where
  hits : UInt64
  misses : UInt64
  stores : UInt64
deriving DecidableEq, Repr

/-- Reachability answers by signature. -/
structure SignatureCache where
  enabled : Bool
  entries : Std.TreeMap SinkSignature TypeSet
  stats : CacheStats

namespace SignatureCache

/-- The cache without answers, switched on or off for good. -/
def new (enabled : Bool) : SignatureCache := ⟨enabled, ∅, ⟨0, 0, 0⟩⟩

/-- The number of signatures with an answer. -/
def size (cache : SignatureCache) : Nat := cache.entries.size

/-- The answer remembered for a destination's signature. -/
def tryReuse (cache : SignatureCache) (graph : FilterGraph) (dest : MediaTypeId) :
    Option TypeSet × SignatureCache :=
  if !cache.enabled then (none, cache)
  else
    match cache.entries[graph.signature dest]? with
    | some types =>
        (some types, { cache with stats.hits := cache.stats.hits + 1 })
    | none => (none, { cache with stats.misses := cache.stats.misses + 1 })

/-- Remembers an answer for a destination's signature, unless there is one already. -/
def store (cache : SignatureCache) (graph : FilterGraph) (dest : MediaTypeId)
    (types : TypeSet) : Bool × SignatureCache :=
  if !cache.enabled then (false, cache)
  else
    let signature := graph.signature dest
    if cache.entries.contains signature then (false, cache)
    else
      (true,
        { cache with
          entries := cache.entries.insert signature types
          stats.stores := cache.stats.stores + 1 })

/-- The sources that reach `dest`, as remembered, or else as swept and then remembered. -/
def reachableSources (cache : SignatureCache) (graph : FilterGraph) (dest : MediaTypeId) :
    Except SearchFault TypeSet × SignatureCache :=
  match cache.tryReuse graph dest with
  | (some types, cache) => (.ok types, cache)
  | (none, cache) =>
      match graph.reachableSources dest with
      | .error fault => (.error fault, cache)
      | .ok types => (.ok types, (cache.store graph dest types).2)

/-- Forgets every answer. -/
def clear (cache : SignatureCache) : SignatureCache := { cache with entries := ∅ }

end SignatureCache

end PrintPlanner
