import Mathlib.Data.List.DropRight
import PrintPlanner.Proofs.Signature.Cache
import PrintPlanner.Signature.History

/-!
# The cache as a map in which the first writer wins

What a cache remembers is told by its calls alone: under each signature the first set that was
offered since the last clear, be it by a store or by a sweep (`CacheCall.remembered`).  Replies,
size and counters follow from that for every sequence of calls, whatever the graphs of the calls
are.  The counters wrap around, so they are known modulo `2 ^ 64`, and exactly as long as less is
counted.  A cache that is switched off stays as it was made
(`SignatureCache.firstWriterWins_after`).
-/

set_option autoImplicit false

namespace PrintPlanner

namespace CacheCall

/-! ## What calls amount to -/

/-- The set that the call has for a signature: one to be stored, or one found by a sweep. -/
def offer? : CacheCall → Option (SinkSignature × TypeSet)
  | tryReuse _ _ | clear => none
  | store graph dest types => some (graph.signature dest, types)
  | reachableSources graph dest =>
      (graph.reachableSources dest).toOption.map fun types => (graph.signature dest, types)

/-- The signature that the call looks up. -/
def lookup? : CacheCall → Option SinkSignature
  | tryReuse graph dest | reachableSources graph dest => some (graph.signature dest)
  | store _ _ _ | clear => none

def isClear : CacheCall → Bool
  | clear => true
  | tryReuse _ _ | store _ _ _ | reachableSources _ _ => false

/-- What the calls since the last clear have offered. -/
def recentOffers (calls : List CacheCall) : List (SinkSignature × TypeSet) :=
  (calls.rtakeWhile fun call => !call.isClear).filterMap offer?

/-- The first set that was offered for the signature since the last clear. -/
def remembered (calls : List CacheCall) (signature : SinkSignature) : Option TypeSet :=
  ((recentOffers calls).find? (·.1 = signature)).map Prod.snd

/-- What the call inserts where some sets are known: an offer for a signature without a set. -/
def insertion? (known : SinkSignature → Option TypeSet) (call : CacheCall) :
    Option (SinkSignature × TypeSet) :=
  call.offer?.filter fun offer => (known offer.1).isNone

/-- What the call finds where some sets are known. -/
def hit? (known : SinkSignature → Option TypeSet) (call : CacheCall) : Option TypeSet :=
  call.lookup?.bind known

/-- The calls, each with the calls before it, after some earlier ones. -/
def steps (earlier : List CacheCall) : List CacheCall → List (List CacheCall × CacheCall)
  | [] => []
  | call :: rest => (earlier, call) :: steps (earlier ++ [call]) rest

/-- The set was inserted under the signature, and no clear came after that. -/
def InsertedSince (calls : List CacheCall) (signature : SinkSignature) (types : TypeSet) : Prop :=
  ∃ before call after, calls = before ++ call :: after ∧
    (∀ later ∈ after, later.isClear = false) ∧
    call.insertion? (remembered before) = some (signature, types)

/-- All insertions, forgotten ones included. -/
def insertions (calls : List CacheCall) : List (SinkSignature × TypeSet) :=
  (steps [] calls).filterMap fun (earlier, call) => call.insertion? (remembered earlier)

/-- All sets that were found. -/
def hits (calls : List CacheCall) : List TypeSet :=
  (steps [] calls).filterMap fun (earlier, call) => call.hit? (remembered earlier)

/-- All lookups, found or not. -/
def lookups (calls : List CacheCall) : List SinkSignature := calls.filterMap lookup?

/-! ## One more call -/

/-- The set that the call offers for a signature. -/
def offerFor? (call : CacheCall) (signature : SinkSignature) : Option TypeSet :=
  (call.offer?.filter (·.1 = signature)).map Prod.snd

section Offer

variable {call : CacheCall} {signature : SinkSignature} {types : TypeSet}

theorem offerFor?_of_none (offers : call.offer? = none) : call.offerFor? signature = none := by
  rw [offerFor?, offers]
  rfl

theorem offerFor?_of_offer (offers : call.offer? = some (signature, types))
    (other : SinkSignature) :
    call.offerFor? other = if signature = other then some types else none := by
  rw [offerFor?, offers]
  by_cases same : signature = other <;> simp [same, Option.filter]

theorem offerFor?_eq_some_iff :
    call.offerFor? signature = some types ↔ call.offer? = some (signature, types) := by
  constructor
  · intro offers
    obtain ⟨⟨place, offered⟩, kept, rfl⟩ := Option.map_eq_some_iff.mp offers
    obtain ⟨made, same⟩ := Option.filter_eq_some_iff.mp kept
    have here : place = signature := of_decide_eq_true same
    rw [made, here]
  · intro offers
    rw [offerFor?_of_offer offers, if_pos rfl]

/-- What is inserted is offered for a signature without a set. -/
theorem insertion?_eq_some_iff {sets : SinkSignature → Option TypeSet} :
    call.insertion? sets = some (signature, types) ↔
      call.offer? = some (signature, types) ∧ sets signature = none := by
  rw [insertion?, Option.filter_eq_some_iff, Option.isNone_iff_eq_none]

/-- Where a set is known for its signature, an offer is not inserted. -/
theorem insertion?_of_held {sets : SinkSignature → Option TypeSet} {known : TypeSet}
    (held : sets signature = some known) (offers : ∀ offer ∈ call.offer?, offer.1 = signature) :
    call.insertion? sets = none := by
  rw [insertion?, Option.filter_eq_none_iff]
  intro offer offered
  rw [offers offer offered, held]
  simp

theorem isClear_of_lookup? (asks : call.lookup? = some signature) : call.isClear = false := by
  cases call with
  | clear => cases asks
  | tryReuse _ _ | store _ _ _ | reachableSources _ _ => rfl

theorem isClear_of_offer? {offer : SinkSignature × TypeSet} (offers : call.offer? = some offer) :
    call.isClear = false := by
  cases call with
  | clear => cases offers
  | tryReuse _ _ | store _ _ _ | reachableSources _ _ => rfl

end Offer

section Append

variable (calls : List CacheCall) (call : CacheCall)

theorem remembered_append_single (signature : SinkSignature) :
    remembered (calls ++ [call]) signature =
      if call.isClear then none
      else (remembered calls signature).or (call.offerFor? signature) := by
  rw [remembered, recentOffers, List.rtakeWhile_concat]
  cases call.isClear with
  | true => rfl
  | false =>
      simp only [Bool.not_false, if_true, List.filterMap_append, List.find?_append, Option.map_or,
        Bool.false_eq_true, if_false, remembered, recentOffers, offerFor?]
      congr 1
      cases offered : call.offer? with
      | none => simp [offered]
      | some offer => by_cases same : offer.1 = signature <;> simp [offered, same, Option.filter]

theorem steps_append_single (earlier : List CacheCall) :
    steps earlier (calls ++ [call]) = steps earlier calls ++ [(earlier ++ calls, call)] := by
  induction calls generalizing earlier with
  | nil => simp [steps]
  | cons first rest ih => simp [steps, ih]

theorem insertions_append_single :
    insertions (calls ++ [call]) =
      insertions calls ++ (call.insertion? (remembered calls)).toList := by
  rw [insertions, steps_append_single, List.filterMap_append, insertions, List.nil_append]
  cases found : call.insertion? (remembered calls) <;> simp [found]

theorem hits_append_single :
    hits (calls ++ [call]) = hits calls ++ (call.hit? (remembered calls)).toList := by
  rw [hits, steps_append_single, List.filterMap_append, hits, List.nil_append]
  cases found : call.hit? (remembered calls) <;> simp [found]

theorem lookups_append_single :
    lookups (calls ++ [call]) = lookups calls ++ call.lookup?.toList := by
  rw [lookups, List.filterMap_append, lookups]
  cases found : call.lookup? <;> simp [found]

/-- Only lookups find sets. -/
theorem length_hits_le : (hits calls).length ≤ (lookups calls).length := by
  induction calls using List.reverseRecOn with
  | nil => exact Nat.le_refl 0
  | append_singleton calls call ih =>
      rw [hits_append_single, lookups_append_single, List.length_append, List.length_append]
      refine Nat.add_le_add ih ?_
      cases asked : call.lookup? with
      | none => simp [hit?, asked]
      | some signature => exact Option.length_toList_le

end Append

section Inserted

variable {calls : List CacheCall} {call : CacheCall} {signature : SinkSignature} {types : TypeSet}

theorem not_insertedSince_nil : ¬ InsertedSince [] signature types := by
  rintro ⟨before, call, after, split, _⟩
  simp at split

/-- A set was inserted by the last call, or before it if that is no clear. -/
theorem insertedSince_append_single :
    InsertedSince (calls ++ [call]) signature types ↔
      call.insertion? (remembered calls) = some (signature, types) ∨
        call.isClear = false ∧ InsertedSince calls signature types := by
  constructor
  · rintro ⟨before, first, after, split, stays, inserts⟩
    rcases List.eq_nil_or_concat after with rfl | ⟨front, last, rfl⟩
    · obtain ⟨rfl, same⟩ := List.append_inj' split rfl
      cases same
      exact .inl inserts
    · rw [List.concat_eq_append] at split stays
      rw [← List.cons_append, ← List.append_assoc] at split
      obtain ⟨rfl, same⟩ := List.append_inj' split rfl
      cases same
      obtain ⟨older, latest⟩ := List.forall_mem_append.mp stays
      exact .inr ⟨latest call (List.mem_singleton_self call), before, first, front, rfl, older,
        inserts⟩
  · rintro (inserts | ⟨stays, before, first, after, rfl, older, inserts⟩)
    · exact ⟨calls, call, [], rfl, fun _ member => absurd member List.not_mem_nil, inserts⟩
    · refine ⟨before, first, after ++ [call], by simp, ?_, inserts⟩
      exact List.forall_mem_append.mpr ⟨older, List.forall_mem_singleton.mpr stays⟩

/-- **A set is remembered exactly if it was inserted and no clear came after that.** -/
theorem remembered_eq_some_iff :
    remembered calls signature = some types ↔ InsertedSince calls signature types := by
  induction calls using List.reverseRecOn with
  | nil => exact iff_of_false (fun held => by cases held) not_insertedSince_nil
  | append_singleton calls call ih =>
      rw [remembered_append_single, insertedSince_append_single, ← ih, insertion?_eq_some_iff]
      cases clears : call.isClear with
      | true =>
          have offersNothing : call.offer? ≠ some (signature, types) := by
            intro offers
            rw [isClear_of_offer? offers] at clears
            contradiction
          simp [offersNothing]
      | false =>
          cases old : remembered calls signature with
          | none => simp [offerFor?_eq_some_iff]
          | some known => simp

end Inserted

end CacheCall

namespace SignatureCache

open CacheCall

/-! ## What one call does to the cache -/

/-- What a call does to a cache that is switched on. -/
inductive CacheStep (cache : SignatureCache) : CacheCall → SignatureCache → Prop where
  | cleared : CacheStep cache .clear cache.clear
  /-- A lookup finds a set, whatever a sweep would have found. -/
  | found {call : CacheCall} {signature : SinkSignature} {known : TypeSet}
      (asks : call.lookup? = some signature) (held : cache.entries[signature]? = some known)
      (offers : ∀ offer ∈ call.offer?, offer.1 = signature) :
      CacheStep cache call { cache with stats.hits := cache.stats.hits + 1 }
  /-- A lookup finds no set, and nothing is swept. -/
  | missed {call : CacheCall} {signature : SinkSignature} (asks : call.lookup? = some signature)
      (missing : cache.entries[signature]? = none) (offers : call.offer? = none) :
      CacheStep cache call { cache with stats.misses := cache.stats.misses + 1 }
  /-- A lookup finds no set, and what a sweep finds is inserted. -/
  | swept {call : CacheCall} {signature : SinkSignature} {types : TypeSet}
      (asks : call.lookup? = some signature) (missing : cache.entries[signature]? = none)
      (offers : call.offer? = some (signature, types)) :
      CacheStep cache call
        { cache with
          entries := cache.entries.insert signature types
          stats := ⟨cache.stats.hits, cache.stats.misses + 1, cache.stats.stores + 1⟩ }
  /-- A store comes too late. -/
  | refused {call : CacheCall} {signature : SinkSignature} {types known : TypeSet}
      (asks : call.lookup? = none) (held : cache.entries[signature]? = some known)
      (offers : call.offer? = some (signature, types)) : CacheStep cache call cache
  | stored {call : CacheCall} {signature : SinkSignature} {types : TypeSet}
      (asks : call.lookup? = none) (missing : cache.entries[signature]? = none)
      (offers : call.offer? = some (signature, types)) :
      CacheStep cache call
        { cache with
          entries := cache.entries.insert signature types
          stats.stores := cache.stats.stores + 1 }

/-- **Every call is one of these steps.** -/
theorem cacheStep_perform {cache : SignatureCache} (on : cache.enabled = true) (call : CacheCall) :
    CacheStep cache call (cache.perform call).2 := by
  cases call with
  | clear => exact .cleared
  | tryReuse graph dest =>
      show CacheStep cache _ (cache.tryReuse graph dest).2
      cases entry : cache.entries[graph.signature dest]? with
      | some known =>
          rw [tryReuse_of_hit on entry]
          exact .found rfl entry (by simp [offer?])
      | none =>
          rw [tryReuse_of_miss on entry]
          exact .missed rfl entry rfl
  | store graph dest types =>
      show CacheStep cache _ (cache.store graph dest types).2
      cases entry : cache.entries[graph.signature dest]? with
      | some known =>
          rw [store_of_held on entry]
          exact .refused rfl entry rfl
      | none =>
          rw [store_of_missing on entry]
          exact .stored rfl entry rfl
  | reachableSources graph dest =>
      show CacheStep cache _ (cache.reachableSources graph dest).2
      cases entry : cache.entries[graph.signature dest]? with
      | some known =>
          rw [reachableSources_of_hit on entry]
          refine .found rfl entry fun offer offered => ?_
          obtain ⟨types, _, rfl⟩ := Option.map_eq_some_iff.mp offered
          rfl
      | none =>
          rw [reachableSources_of_miss on entry]
          cases swept : graph.reachableSources dest with
          | error fault => exact .missed rfl entry (by simp [offer?, swept, Except.toOption])
          | ok types => exact .swept rfl entry (by simp [offer?, swept, Except.toOption])

section Entries

variable {entries : Std.TreeMap SinkSignature TypeSet} {call : CacheCall}
  {signature : SinkSignature}

/-- What is held stays, whatever is offered for it. -/
theorem or_offerFor?_of_held {known : TypeSet} (held : entries[signature]? = some known)
    (offers : ∀ offer ∈ call.offer?, offer.1 = signature) (other : SinkSignature) :
    (entries[other]?).or (call.offerFor? other) = entries[other]? := by
  cases offered : call.offer? with
  | none => rw [offerFor?_of_none offered, Option.or_none]
  | some offer =>
      obtain ⟨place, types⟩ := offer
      have here : place = signature := offers (place, types) offered
      rw [offerFor?_of_offer offered, here]
      by_cases same : signature = other
      · rw [← same, held, Option.some_or]
      · rw [if_neg same, Option.or_none]

theorem getElem?_insert_eq_or {types : TypeSet} (missing : entries[signature]? = none)
    (offers : call.offer? = some (signature, types)) (other : SinkSignature) :
    (entries.insert signature types)[other]? =
      (entries[other]?).or (call.offerFor? other) := by
  rw [offerFor?_of_offer offers, Std.TreeMap.getElem?_insert]
  by_cases same : signature = other
  · rw [if_pos same, ← same, missing, if_pos Std.compare_self, Option.none_or]
  · rw [if_neg same, if_neg (mt Std.compare_eq_iff_eq.mp same), Option.or_none]

end Entries

section Step

variable {cache after : SignatureCache} {call : CacheCall} (step : CacheStep cache call after)
include step

theorem CacheStep.enabled_eq : after.enabled = cache.enabled := by
  cases step <;> rfl

/-- **An offer is kept unless there is a set already,** until the next clear. -/
theorem CacheStep.getElem?_entries (signature : SinkSignature) :
    after.entries[signature]? =
      if call.isClear then none
      else (cache.entries[signature]?).or (call.offerFor? signature) := by
  cases step with
  | cleared => exact getElem?_entries_clear cache signature
  | found asks held offers =>
      rw [isClear_of_lookup? asks]
      exact (or_offerFor?_of_held held offers signature).symm
  | missed asks missing offers =>
      rw [isClear_of_lookup? asks, offerFor?_of_none offers, Option.or_none]
      rfl
  | swept asks missing offers =>
      rw [isClear_of_lookup? asks]
      exact getElem?_insert_eq_or missing offers signature
  | refused asks held offers =>
      rw [isClear_of_offer? offers]
      exact (or_offerFor?_of_held held (by simp [offers]) signature).symm
  | stored asks missing offers =>
      rw [isClear_of_offer? offers]
      exact getElem?_insert_eq_or missing offers signature

/-- The counters go up by what the call finds, looks up and inserts. -/
theorem CacheStep.stats_eq :
    after.stats.hits =
        cache.stats.hits + .ofNat (call.hit? (cache.entries[·]?)).toList.length ∧
      after.stats.hits + after.stats.misses =
        cache.stats.hits + cache.stats.misses + .ofNat call.lookup?.toList.length ∧
      after.stats.stores =
        cache.stats.stores + .ofNat (call.insertion? (cache.entries[·]?)).toList.length := by
  have stays : ∀ count : UInt64, count = count + .ofNat 0 :=
    fun count => (UInt64.add_zero count).symm
  have hit : ∀ hits misses : UInt64, hits + 1 + misses = hits + misses + 1 := by
    intro hits misses
    rw [UInt64.add_assoc, UInt64.add_comm 1, UInt64.add_assoc]
  cases step with
  | cleared => exact ⟨stays _, stays _, stays _⟩
  | found asks held offers =>
      rw [hit?, asks, Option.bind_some, held, insertion?_of_held held offers]
      exact ⟨rfl, hit _ _, stays _⟩
  | missed asks missing offers =>
      rw [hit?, asks, Option.bind_some, missing, insertion?, offers]
      exact ⟨stays _, (UInt64.add_assoc _ _ 1).symm, stays _⟩
  | swept asks missing offers =>
      rw [hit?, asks, Option.bind_some, missing, insertion?_eq_some_iff.mpr ⟨offers, missing⟩]
      exact ⟨stays _, (UInt64.add_assoc _ _ 1).symm, rfl⟩
  | refused asks held offers =>
      rw [hit?, asks, insertion?_of_held held (by simp [offers])]
      exact ⟨stays _, stays _, stays _⟩
  | stored asks missing offers =>
      rw [hit?, asks, insertion?_eq_some_iff.mpr ⟨offers, missing⟩]
      exact ⟨stays _, stays _, rfl⟩

end Step

/-! ## A whole run -/

/-- The cache is switched on and holds what the calls amount to. -/
structure Follows (calls : List CacheCall) (cache : SignatureCache) : Prop where
  enabled : cache.enabled = true
  entries : ∀ signature, cache.entries[signature]? = remembered calls signature
  hits : cache.stats.hits = .ofNat (hits calls).length
  lookups : cache.stats.hits + cache.stats.misses = .ofNat (lookups calls).length
  stores : cache.stats.stores = .ofNat (insertions calls).length

theorem follows_new : Follows [] (new true) where
  enabled := rfl
  entries := getElem?_entries_new true
  hits := rfl
  lookups := rfl
  stores := rfl

section Follows

variable {calls : List CacheCall} {cache : SignatureCache} (follows : Follows calls cache)
include follows

/-- One more call is followed too. -/
theorem Follows.perform (call : CacheCall) : Follows (calls ++ [call]) (cache.perform call).2 := by
  have step := cacheStep_perform follows.enabled call
  have sets : (cache.entries[·]?) = remembered calls := funext follows.entries
  obtain ⟨hits, lookups, stores⟩ := step.stats_eq
  rw [sets, follows.hits] at hits
  rw [follows.lookups] at lookups
  rw [sets, follows.stores] at stores
  refine ⟨step.enabled_eq.trans follows.enabled, fun signature => ?_, ?_, ?_, ?_⟩
  · rw [step.getElem?_entries, remembered_append_single, follows.entries]
  · rw [hits, hits_append_single, List.length_append, UInt64.ofNat_add]
  · rw [lookups, lookups_append_single, List.length_append, UInt64.ofNat_add]
  · rw [stores, insertions_append_single, List.length_append, UInt64.ofNat_add]

theorem Follows.after (rest : List CacheCall) : Follows (calls ++ rest) (cache.after rest) := by
  induction rest generalizing calls cache with
  | nil =>
      rw [List.append_nil]
      exact follows
  | cons call rest ih =>
      have onward := ih (follows.perform call)
      rwa [List.append_assoc, List.singleton_append] at onward

/-- Before a counter wraps around, hits and misses are as many as the lookups. -/
theorem Follows.lookups_exact (few : (CacheCall.lookups calls).length < UInt64.size) :
    cache.stats.hits.toNat = (CacheCall.hits calls).length ∧
      cache.stats.hits.toNat + cache.stats.misses.toNat = (CacheCall.lookups calls).length := by
  have within := length_hits_le calls
  have hits : cache.stats.hits.toNat = (CacheCall.hits calls).length := by
    rw [follows.hits, UInt64.toNat_ofNat_of_lt' (Nat.lt_of_le_of_lt within few)]
  have sum := congrArg UInt64.toNat follows.lookups
  rw [UInt64.toNat_add, UInt64.toNat_ofNat_of_lt' few] at sum
  have bound := cache.stats.misses.toNat_lt
  rw [UInt64.size] at few
  refine ⟨hits, ?_⟩
  omega

/-- There is an entry for every signature with an insertion since the last clear, and no other. -/
theorem Follows.mem_keys_iff {signature : SinkSignature} :
    signature ∈ cache.entries.keys ↔ ∃ types, InsertedSince calls signature types := by
  rw [Std.TreeMap.mem_keys, Std.TreeMap.mem_iff_isSome_getElem?, follows.entries,
    Option.isSome_iff_exists]
  exact exists_congr fun types => remembered_eq_some_iff

end Follows

/-! ## Switched on and switched off -/

/-- After the calls the cache behaves as a map in which the first writer wins. -/
structure FirstWriterWins (calls : List CacheCall) (cache : SignatureCache) : Prop where
  tryReuse : ∀ graph dest,
    (cache.tryReuse graph dest).1 = remembered calls (graph.signature dest)
  tryReuse_eq_some_iff : ∀ graph dest types, (cache.tryReuse graph dest).1 = some types ↔
    InsertedSince calls (graph.signature dest) types
  store_eq_true_iff : ∀ graph dest types, (cache.store graph dest types).1 = true ↔
    ∀ known, ¬ InsertedSince calls (graph.signature dest) known
  reachableSources : ∀ graph dest, (cache.reachableSources graph dest).1 =
    (remembered calls (graph.signature dest)).elim (graph.reachableSources dest) .ok
  /-- The size is the number of signatures with an insertion since the last clear. -/
  size : ∃ signatures : List SinkSignature, signatures.Nodup ∧
    (∀ signature, signature ∈ signatures ↔ ∃ types, InsertedSince calls signature types) ∧
    cache.size = signatures.length
  /-- The counters wrap around. -/
  hits : cache.stats.hits = .ofNat (CacheCall.hits calls).length
  lookups : cache.stats.hits + cache.stats.misses = .ofNat (CacheCall.lookups calls).length
  stores : cache.stats.stores = .ofNat (insertions calls).length
  /-- Before that they are the numbers of lookups and insertions. -/
  lookups_exact : (CacheCall.lookups calls).length < UInt64.size →
    cache.stats.hits.toNat = (CacheCall.hits calls).length ∧
      cache.stats.hits.toNat + cache.stats.misses.toNat = (CacheCall.lookups calls).length
  stores_exact : (insertions calls).length < UInt64.size →
    cache.stats.stores.toNat = (insertions calls).length
  clear : cache.clear.stats = cache.stats

/-- The cache holds nothing, finds nothing, takes nothing and counts nothing. -/
structure Inert (cache : SignatureCache) : Prop where
  tryReuse : ∀ graph dest, (cache.tryReuse graph dest).1 = none
  store : ∀ graph dest types, (cache.store graph dest types).1 = false
  reachableSources : ∀ graph dest,
    (cache.reachableSources graph dest).1 = graph.reachableSources dest
  size : cache.size = 0
  stats : cache.stats = ⟨0, 0, 0⟩

theorem Follows.firstWriterWins {calls : List CacheCall} {cache : SignatureCache}
    (follows : Follows calls cache) : FirstWriterWins calls cache := by
  have found : ∀ graph dest,
      (cache.tryReuse graph dest).1 = remembered calls (graph.signature dest) := by
    intro graph dest
    rw [← follows.entries]
    cases entry : cache.entries[graph.signature dest]? with
    | some known => rw [tryReuse_of_hit follows.enabled entry]
    | none => rw [tryReuse_of_miss follows.enabled entry]
  refine ⟨found, fun graph dest types => ?_, fun graph dest types => ?_, fun graph dest => ?_,
    ⟨cache.entries.keys, Std.TreeMap.nodup_keys, fun _ => follows.mem_keys_iff,
      Std.TreeMap.length_keys.symm⟩, follows.hits, follows.lookups, follows.stores,
    follows.lookups_exact, fun few => ?_, rfl⟩
  · rw [found, remembered_eq_some_iff]
  · simp only [← remembered_eq_some_iff, ← Option.eq_none_iff_forall_ne_some]
    rw [← follows.entries]
    cases entry : cache.entries[graph.signature dest]? with
    | some known => simp [store_of_held follows.enabled entry]
    | none => simp [store_of_missing follows.enabled entry]
  · rw [fst_reachableSources follows.enabled, follows.entries]
  · rw [follows.stores, UInt64.toNat_ofNat_of_lt' few]

theorem inert_new : Inert (new false) where
  tryReuse := fun _ _ => rfl
  store := fun _ _ _ => rfl
  reachableSources := by
    intro graph dest
    rw [reachableSources_of_disabled rfl]
  size := Std.TreeMap.size_emptyc
  stats := rfl

/-- No call changes a new cache that is switched off. -/
theorem perform_new_false (call : CacheCall) : ((new false).perform call).2 = new false := by
  cases call with
  | tryReuse graph dest => rfl
  | store graph dest types => rfl
  | reachableSources graph dest =>
      show ((new false).reachableSources graph dest).2 = new false
      rw [reachableSources_of_disabled rfl]
  | clear => rfl

/-- **After any calls a cache that is switched on is a map in which the first writer wins, and one
that is switched off is as it was made.** -/
theorem firstWriterWins_after (calls : List CacheCall) :
    FirstWriterWins calls ((new true).after calls) ∧
      (new false).after calls = new false ∧ Inert ((new false).after calls) := by
  have untouched : (new false).after calls = new false := by
    induction calls with
    | nil => rfl
    | cons call rest ih => rw [after_cons, perform_new_false, ih]
  refine ⟨(follows_new.after calls).firstWriterWins, untouched, ?_⟩
  rw [untouched]
  exact inert_new

end SignatureCache

end PrintPlanner
