import PrintPlanner.Signature.Cache

/-!
# Histories of a cache

The calls that a signature cache receives, each with the graph that it is about, are
written down as data.
-/

set_option autoImplicit false

namespace PrintPlanner

/-- A call of the cache. -/
inductive CacheCall where
  | tryReuse (graph : FilterGraph) (dest : MediaTypeId)
  | store (graph : FilterGraph) (dest : MediaTypeId) (types : TypeSet)
  | reachableSources (graph : FilterGraph) (dest : MediaTypeId)
  | clear

/-- What a call of the cache returns. -/
inductive CacheReply where
  | reused (types : Option TypeSet)
  | stored (inserted : Bool)
  | reachable (result : Except SearchFault TypeSet)
  | cleared

namespace SignatureCache

/-- Carries out a call. -/
def perform (cache : SignatureCache) : CacheCall → CacheReply × SignatureCache
  | .tryReuse graph dest => (cache.tryReuse graph dest).map .reused id
  | .store graph dest types => (cache.store graph dest types).map .stored id
  | .reachableSources graph dest => (cache.reachableSources graph dest).map .reachable id
  | .clear => (.cleared, cache.clear)

/-- The cache after some calls. -/
def after (cache : SignatureCache) : List CacheCall → SignatureCache
  | [] => cache
  | call :: rest => (cache.perform call).2.after rest

@[simp] theorem after_nil (cache : SignatureCache) : cache.after [] = cache := rfl

@[simp] theorem after_cons (cache : SignatureCache) (call : CacheCall) (rest : List CacheCall) :
    cache.after (call :: rest) = (cache.perform call).2.after rest := rfl

end SignatureCache

end PrintPlanner
