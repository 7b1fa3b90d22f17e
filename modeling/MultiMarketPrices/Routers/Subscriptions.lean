import MultiMarketPrices.Routers.PubSub

/-!
# The router as a relation

What the operations of `PubSubDataRouter` do to the two indexes, one pair of a
key and a subscriber at a time, and the plain relation that the router
implements.
-/

namespace MultiMarketPrices.Routers

open Finmaps

section Tables

variable {Key SubscriberId DataCallback : Type*}
  [DecidableEq Key] [DecidableEq SubscriberId]
  (key : Key) (subscriberId : SubscriberId)
  (routingTable : RoutingTable Key SubscriberId DataCallback)
  (regIdToKeys : RegIdStore Key SubscriberId)

/-- The callback registered for a key by a subscriber. -/
def callbackOf : Option DataCallback :=
  (routingTable.lookup key).bind fun callbacks => callbacks.lookup subscriberId

/-- The keys listed for a subscriber. -/
def keysOf : Finset Key := (regIdToKeys.lookup subscriberId).getD ∅

/-- No key without callbacks. -/
def NoEmptyKey : Prop :=
  Everywhere (fun callbacks => callbacks.keys ≠ ∅) routingTable

/-- No subscriber without keys. -/
def NoEmptySubscriber : Prop :=
  Everywhere (fun keys => keys ≠ ∅) regIdToKeys

variable {key subscriberId routingTable regIdToKeys}

theorem lookup_callbacksWithout (other : SubscriberId)
    (callbacks : Finmap fun _ : SubscriberId => DataCallback) :
    ((callbacksWithout subscriberId callbacks).bind
        fun callbacks => callbacks.lookup other) =
      if other = subscriberId then none else callbacks.lookup other := by
  rw [callbacksWithout]
  split
  · split
    · next hnone =>
        rw [← lookup_erase_if, Option.bind_none, eq_comm, Finmap.lookup_eq_none,
          ← Finmap.mem_keys, hnone]
        exact Finset.notMem_empty other
    · rw [Option.bind_some, lookup_erase_if]
  · next hmem =>
      rw [Option.bind_some]
      split
      · next heq => rw [heq, Finmap.lookup_eq_none.mpr hmem]
      · rfl

theorem callbackOf_removeFromRoutingTable (other : Key)
    (otherId : SubscriberId) :
    callbackOf other otherId
        (removeFromRoutingTable key subscriberId routingTable).2 =
      if other = key ∧ otherId = subscriberId then none
      else callbackOf other otherId routingTable := by
  rw [callbackOf, lookup_removeFromRoutingTable, callbackOf]
  by_cases hkey : other = key
  · subst hkey
    rw [if_pos rfl, Option.bind_assoc]
    cases routingTable.lookup other with
    | none => simp
    | some callbacks =>
        rw [Option.bind_some, Option.bind_some, lookup_callbacksWithout]
        simp
  · simp [hkey]

theorem removeFromRoutingTable_found :
    (removeFromRoutingTable key subscriberId routingTable).1 =
      (callbackOf key subscriberId routingTable).isSome := by
  rw [removeFromRoutingTable, callbackOf]
  split
  · next callbacks hlookup =>
      rw [hlookup, Option.bind_some]
      split
      · next hmem => exact (Finmap.lookup_isSome.mpr hmem).symm
      · next hmem =>
          rw [Finmap.lookup_eq_none.mpr hmem]
          rfl
  · next hlookup => rw [hlookup, Option.bind_none, Option.isSome_none]

theorem NoEmptyKey.remove (htable : NoEmptyKey routingTable) :
    NoEmptyKey (removeFromRoutingTable key subscriberId routingTable).2 := by
  rw [removeFromRoutingTable]
  split
  · split
    · split
      · exact htable.erase
      · next hsome => exact htable.insert hsome
    · exact htable
  · exact htable

theorem keysOf_removeFromRegIdStore (otherId : SubscriberId) :
    keysOf otherId (removeFromRegIdStore key subscriberId regIdToKeys).2 =
      if otherId = subscriberId then (keysOf otherId regIdToKeys).erase key
      else keysOf otherId regIdToKeys := by
  by_cases hid : otherId = subscriberId
  · subst hid
    rw [if_pos rfl]
    unfold removeFromRegIdStore keysOf
    split
    · next hlookup => simp [hlookup]
    · next keys hlookup =>
        rw [hlookup, Option.getD_some]
        split
        · split
          · next hnone => simp [hnone]
          · rw [Finmap.lookup_insert, Option.getD_some]
        · next hmem =>
            rw [hlookup, Option.getD_some, Finset.erase_eq_of_notMem hmem]
  · rw [if_neg hid]
    unfold removeFromRegIdStore keysOf
    split
    · rfl
    · split
      · split
        · rw [lookup_erase_if, if_neg hid]
        · rw [lookup_insert_if, if_neg hid]
      · rfl

theorem removeFromRegIdStore_found :
    (removeFromRegIdStore key subscriberId regIdToKeys).1 =
      decide (key ∈ keysOf subscriberId regIdToKeys) := by
  rw [removeFromRegIdStore, keysOf]
  split
  · next hlookup => simp [hlookup]
  · next keys hlookup =>
      rw [hlookup, Option.getD_some]
      split <;> simp_all

theorem NoEmptySubscriber.remove (hstore : NoEmptySubscriber regIdToKeys) :
    NoEmptySubscriber
      (removeFromRegIdStore key subscriberId regIdToKeys).2 := by
  rw [removeFromRegIdStore]
  split
  · exact hstore
  · split
    · split
      · exact hstore.erase
      · next hsome => exact hstore.insert hsome
    · exact hstore

omit [DecidableEq Key] in
theorem keysOf_erase (otherId : SubscriberId) :
    keysOf otherId (regIdToKeys.erase subscriberId) =
      if otherId = subscriberId then ∅ else keysOf otherId regIdToKeys := by
  rw [keysOf, lookup_erase_if, keysOf]
  split <;> rfl

/-! ## Additions, and the removal of all keys -/

/-- Registering a callback that was not there. -/
theorem callbackOf_insert {callback : DataCallback} (other : Key)
    (otherId : SubscriberId) :
    callbackOf other otherId (routingTable.insert key
        (((routingTable.lookup key).getD ∅).insert subscriberId callback)) =
      if other = key ∧ otherId = subscriberId then some callback
      else callbackOf other otherId routingTable := by
  rw [callbackOf, lookup_insert_if, callbackOf]
  by_cases hkey : other = key
  · subst hkey
    rw [if_pos rfl, Option.bind_some, lookup_insert_if]
    cases routingTable.lookup other <;> simp
  · simp [hkey]

theorem keysOf_insert (otherId : SubscriberId) :
    keysOf otherId (regIdToKeys.insert subscriberId
        (insert key ((regIdToKeys.lookup subscriberId).getD ∅))) =
      if otherId = subscriberId then insert key (keysOf otherId regIdToKeys)
      else keysOf otherId regIdToKeys := by
  rw [keysOf, lookup_insert_if, keysOf]
  split
  · next hid => rw [hid, Option.getD_some]
  · rfl

theorem callbackOf_foldl (keys : Multiset Key) (other : Key)
    (otherId : SubscriberId) :
    callbackOf other otherId (keys.foldl (fun routingTable key =>
        (removeFromRoutingTable key subscriberId routingTable).2)
        routingTable) =
      if other ∈ keys ∧ otherId = subscriberId then none
      else callbackOf other otherId routingTable := by
  induction keys using Multiset.induction_on generalizing routingTable with
  | empty => simp
  | cons key keys ih =>
      rw [Multiset.foldl_cons, ih, callbackOf_removeFromRoutingTable]
      by_cases hid : otherId = subscriberId
      · by_cases hkey : other = key <;> simp [hid, hkey]
      · simp [hid]

theorem callbackOf_removeAll (keys : Finset Key) (other : Key)
    (otherId : SubscriberId) :
    callbackOf other otherId (removeAll keys subscriberId routingTable) =
      if other ∈ keys ∧ otherId = subscriberId then none
      else callbackOf other otherId routingTable := by
  rw [removeAll, callbackOf_foldl]
  simp only [Finset.mem_val]

theorem NoEmptyKey.removeAll (htable : NoEmptyKey routingTable)
    (keys : Finset Key) :
    NoEmptyKey (removeAll keys subscriberId routingTable) := by
  rw [Routers.removeAll]
  induction keys.val using Multiset.induction_on generalizing routingTable with
  | empty => exact htable
  | cons key keys ih =>
      rw [Multiset.foldl_cons]
      exact ih htable.remove

end Tables

/-! ## The relation -/

inductive Operation (Key SubscriberId DataCallback KeyedDataCallback : Type*)
  | consume (key : Key) (subscriberId : SubscriberId) (callback : DataCallback)
  | consumeEveryThing (subscriberId : SubscriberId)
      (callback : KeyedDataCallback)
  | unregister (key : Key) (subscriberId : SubscriberId)
  | unregisterAll (subscriberId : SubscriberId)
  | unregisterFromEverything (subscriberId : SubscriberId)

/-- Who has registered what, by key and for everything. -/
structure Subscriptions (Key SubscriberId DataCallback
    KeyedDataCallback : Type*) where
  keyed : Key → SubscriberId → Option DataCallback
  everything : SubscriberId → Option KeyedDataCallback

variable {Key SubscriberId Data DataCallback KeyedDataCallback : Type*}

namespace Subscriptions

def initial : Subscriptions Key SubscriberId DataCallback KeyedDataCallback where
  keyed _ _ := none
  everything _ := none

variable [DecidableEq Key] [DecidableEq SubscriberId]

/-- Set the registration of one key and subscriber. -/
def setKeyed (key : Key) (subscriberId : SubscriberId)
    (callback : Option DataCallback)
    (subscriptions : Subscriptions Key SubscriberId DataCallback
      KeyedDataCallback) :
    Subscriptions Key SubscriberId DataCallback KeyedDataCallback :=
  { subscriptions with
    keyed := fun other otherId =>
      if other = key ∧ otherId = subscriberId then callback
      else subscriptions.keyed other otherId }

/-- Set the registration of one subscriber for everything. -/
def setEverything (subscriberId : SubscriberId)
    (callback : Option KeyedDataCallback)
    (subscriptions : Subscriptions Key SubscriberId DataCallback
      KeyedDataCallback) :
    Subscriptions Key SubscriberId DataCallback KeyedDataCallback :=
  { subscriptions with
    everything := fun otherId =>
      if otherId = subscriberId then callback
      else subscriptions.everything otherId }

open Classical in
/-- The first registration counts; a removal tells whether there was one. -/
noncomputable def perform
    (subscriptions : Subscriptions Key SubscriberId DataCallback
      KeyedDataCallback) :
    Operation Key SubscriberId DataCallback KeyedDataCallback →
      Bool × Subscriptions Key SubscriberId DataCallback KeyedDataCallback
  | .consume key subscriberId callback =>
      if subscriptions.keyed key subscriberId = none then
        (true, subscriptions.setKeyed key subscriberId (some callback))
      else
        (false, subscriptions)
  | .consumeEveryThing subscriberId callback =>
      if subscriptions.everything subscriberId = none then
        (true, subscriptions.setEverything subscriberId (some callback))
      else
        (false, subscriptions)
  | .unregister key subscriberId =>
      ((subscriptions.keyed key subscriberId).isSome,
        subscriptions.setKeyed key subscriberId none)
  | .unregisterAll subscriberId =>
      (decide ((∃ key, (subscriptions.keyed key subscriberId).isSome) ∨
          (subscriptions.everything subscriberId).isSome),
        { keyed := fun other otherId =>
            if otherId = subscriberId then none
            else subscriptions.keyed other otherId
          everything := fun otherId =>
            if otherId = subscriberId then none
            else subscriptions.everything otherId })
  | .unregisterFromEverything subscriberId =>
      ((subscriptions.everything subscriberId).isSome,
        subscriptions.setEverything subscriberId none)

theorem unregisterAll_answer
    (subscriptions : Subscriptions Key SubscriberId DataCallback
      KeyedDataCallback) (subscriberId : SubscriberId) :
    (subscriptions.perform (.unregisterAll subscriberId)).1 = true ↔
      (∃ key, (subscriptions.keyed key subscriberId).isSome) ∨
        (subscriptions.everything subscriberId).isSome := by
  simp [perform]

end Subscriptions

variable [DecidableEq Key] [DecidableEq SubscriberId]

def PubSubDataRouter.perform
    (router : PubSubDataRouter Key SubscriberId DataCallback
      KeyedDataCallback) :
    Operation Key SubscriberId DataCallback KeyedDataCallback →
      Bool × PubSubDataRouter Key SubscriberId DataCallback KeyedDataCallback
  | .consume key subscriberId callback =>
      router.consume key subscriberId callback
  | .consumeEveryThing subscriberId callback =>
      router.consumeEveryThing subscriberId callback
  | .unregister key subscriberId => router.unregister key subscriberId
  | .unregisterAll subscriberId => router.unregisterAll subscriberId
  | .unregisterFromEverything subscriberId =>
      router.unregisterFromEverything subscriberId

/-- The two indexes hold the same pairs and nothing empty. -/
structure PubSubDataRouter.Exact
    (router : PubSubDataRouter Key SubscriberId DataCallback
      KeyedDataCallback) : Prop where
  hkeys : NoEmptyKey router.routingTable
  hsubscribers : NoEmptySubscriber router.regIdToKeys
  hinverse : ∀ key subscriberId,
    key ∈ keysOf subscriberId router.regIdToKeys ↔
      (callbackOf key subscriberId router.routingTable).isSome

/-- The router holds the registrations of the relation. -/
structure Refines
    (router : PubSubDataRouter Key SubscriberId DataCallback KeyedDataCallback)
    (subscriptions : Subscriptions Key SubscriberId DataCallback
      KeyedDataCallback) : Prop where
  hexact : router.Exact
  hkeyed : ∀ key subscriberId,
    callbackOf key subscriberId router.routingTable =
      subscriptions.keyed key subscriberId
  heverything : ∀ subscriberId,
    router.everythingSubscribers.lookup subscriberId =
      subscriptions.everything subscriberId

/-! ## Each operation refines the relation -/

namespace Refines

variable
  {router : PubSubDataRouter Key SubscriberId DataCallback KeyedDataCallback}
  {subscriptions : Subscriptions Key SubscriberId DataCallback
    KeyedDataCallback}

theorem consume_of_some {key : Key} {subscriberId : SubscriberId}
    {found : DataCallback}
    (hfound : callbackOf key subscriberId router.routingTable = some found)
    (callback : DataCallback) :
    router.consume key subscriberId callback = (false, router) := by
  obtain ⟨callbacks, hlookup, hcallback⟩ := Option.bind_eq_some_iff.mp hfound
  simp [PubSubDataRouter.consume, hlookup, hcallback]

theorem consume_of_none {key : Key} {subscriberId : SubscriberId}
    (hnone : callbackOf key subscriberId router.routingTable = none)
    (callback : DataCallback) :
    router.consume key subscriberId callback =
      (true, { router with
        routingTable := router.routingTable.insert key
          (((router.routingTable.lookup key).getD ∅).insert subscriberId
            callback)
        regIdToKeys := router.insertKey key subscriberId }) := by
  rw [PubSubDataRouter.consume]
  cases hlookup : router.routingTable.lookup key with
  | none => rfl
  | some callbacks =>
      have hcallback : callbacks.lookup subscriberId = none := by
        simpa [callbackOf, hlookup] using hnone
      simp only [hcallback, Option.getD_some]

theorem empty : Refines (PubSubDataRouter.empty : PubSubDataRouter Key
    SubscriberId DataCallback KeyedDataCallback) .initial where
  hexact := by
    refine ⟨everywhere_empty, everywhere_empty, fun key subscriberId => ?_⟩
    simp [PubSubDataRouter.empty, keysOf, callbackOf]
  hkeyed key subscriberId := by
    simp [PubSubDataRouter.empty, callbackOf, Subscriptions.initial]
  heverything subscriberId := by
    simp [PubSubDataRouter.empty, Subscriptions.initial]

theorem consume (hrefines : Refines router subscriptions) (key : Key)
    (subscriberId : SubscriberId) (callback : DataCallback) :
    (router.consume key subscriberId callback).1 =
        (subscriptions.perform (.consume key subscriberId callback)).1 ∧
      Refines (router.consume key subscriberId callback).2
        (subscriptions.perform (.consume key subscriberId callback)).2 := by
  have hkeyed := hrefines.hkeyed key subscriberId
  cases hfound : callbackOf key subscriberId router.routingTable with
  | some found =>
      rw [consume_of_some hfound, Subscriptions.perform, ← hkeyed, hfound,
        if_neg (by simp)]
      exact ⟨rfl, hrefines⟩
  | none =>
      rw [consume_of_none hfound, Subscriptions.perform, ← hkeyed, hfound,
        if_pos rfl]
      have hexact := hrefines.hexact
      refine ⟨rfl, ⟨?_, ?_, ?_⟩, ?_, hrefines.heverything⟩
      · apply hexact.hkeys.insert
        rw [← Finset.nonempty_iff_ne_empty]
        exact ⟨subscriberId, by simp [Finmap.mem_keys]⟩
      · exact hexact.hsubscribers.insert (Finset.insert_ne_empty _ _)
      · intro other otherId
        simp only [PubSubDataRouter.insertKey, keysOf_insert, callbackOf_insert]
        have hinverse := hexact.hinverse other otherId
        by_cases hid : otherId = subscriberId <;>
          by_cases hkey : other = key <;> simp [hid, hkey] at hinverse ⊢ <;>
            exact hinverse
      · intro other otherId
        simp only [callbackOf_insert, Subscriptions.setKeyed,
          hrefines.hkeyed other otherId]

theorem consumeEveryThing (hrefines : Refines router subscriptions)
    (subscriberId : SubscriberId) (callback : KeyedDataCallback) :
    (router.consumeEveryThing subscriberId callback).1 =
        (subscriptions.perform (.consumeEveryThing subscriberId callback)).1 ∧
      Refines (router.consumeEveryThing subscriberId callback).2
        (subscriptions.perform
          (.consumeEveryThing subscriberId callback)).2 := by
  have heverything := hrefines.heverything subscriberId
  cases hfound : router.everythingSubscribers.lookup subscriberId with
  | some found =>
      rw [hfound] at heverything
      simp only [PubSubDataRouter.consumeEveryThing, hfound,
        Subscriptions.perform, ← heverything]
      exact ⟨rfl, hrefines⟩
  | none =>
      rw [hfound] at heverything
      simp only [PubSubDataRouter.consumeEveryThing, hfound,
        Subscriptions.perform, ← heverything, if_true]
      refine ⟨trivial, ⟨hrefines.hexact.1, hrefines.hexact.2,
        hrefines.hexact.3⟩, hrefines.hkeyed, fun otherId => ?_⟩
      rw [lookup_insert_if, hrefines.heverything, Subscriptions.setEverything]

theorem unregisterFromEverything (hrefines : Refines router subscriptions)
    (subscriberId : SubscriberId) :
    (router.unregisterFromEverything subscriberId).1 =
        (subscriptions.perform (.unregisterFromEverything subscriberId)).1 ∧
      Refines (router.unregisterFromEverything subscriberId).2
        (subscriptions.perform
          (.unregisterFromEverything subscriberId)).2 := by
  simp only [PubSubDataRouter.unregisterFromEverything, Subscriptions.perform,
    ← hrefines.heverything subscriberId]
  refine ⟨?_, ⟨hrefines.hexact.1, hrefines.hexact.2, hrefines.hexact.3⟩,
    hrefines.hkeyed, fun otherId => ?_⟩
  · rw [Bool.eq_iff_iff, decide_eq_true_iff, Finmap.lookup_isSome]
  · rw [lookup_erase_if, hrefines.heverything, Subscriptions.setEverything]

theorem unregister (hrefines : Refines router subscriptions) (key : Key)
    (subscriberId : SubscriberId) :
    (router.unregister key subscriberId).1 =
        (subscriptions.perform (.unregister key subscriberId)).1 ∧
      Refines (router.unregister key subscriberId).2
        (subscriptions.perform (.unregister key subscriberId)).2 := by
  have hexact := hrefines.hexact
  have hkeyed := hrefines.hkeyed key subscriberId
  have hinverse := hexact.hinverse key subscriberId
  simp only [PubSubDataRouter.unregister, removeFromRoutingTable_found,
    removeFromRegIdStore_found, Subscriptions.perform, ← hkeyed]
  split
  · next hfound =>
      refine ⟨?_, ⟨?_, ?_, ?_⟩, ?_, hrefines.heverything⟩
      · rw [hfound, decide_eq_true (hinverse.mpr hfound)]
      · exact hexact.hkeys.remove
      · exact hexact.hsubscribers.remove
      · intro other otherId
        simp only [keysOf_removeFromRegIdStore,
          callbackOf_removeFromRoutingTable]
        have hother := hexact.hinverse other otherId
        by_cases hid : otherId = subscriberId
        · subst hid
          by_cases hkey : other = key <;> simp [hkey, hother]
        · simp [hid, hother]
      · intro other otherId
        rw [callbackOf_removeFromRoutingTable, hrefines.hkeyed,
          Subscriptions.setKeyed]
  · next hmissing =>
      have hnone : callbackOf key subscriberId router.routingTable = none := by
        simpa using hmissing
      have hsame : ∀ other otherId, callbackOf other otherId
          (removeFromRoutingTable key subscriberId router.routingTable).2 =
            callbackOf other otherId router.routingTable := by
        intro other otherId
        rw [callbackOf_removeFromRoutingTable]
        split
        · next hpair => rw [hpair.1, hpair.2, hnone]
        · rfl
      refine ⟨by rw [hnone]; rfl, ⟨hexact.hkeys.remove, hexact.hsubscribers,
        fun other otherId => ?_⟩, fun other otherId => ?_,
        hrefines.heverything⟩
      · rw [hsame]
        exact hexact.hinverse other otherId
      · simp only [Subscriptions.setKeyed]
        rw [hsame, hrefines.hkeyed]
        split
        · next hpair => rw [hpair.1, hpair.2, ← hkeyed, hnone]
        · rfl

theorem unregisterAll (hrefines : Refines router subscriptions)
    (subscriberId : SubscriberId) :
    (router.unregisterAll subscriberId).1 =
        (subscriptions.perform (.unregisterAll subscriberId)).1 ∧
      Refines (router.unregisterAll subscriberId).2
        (subscriptions.perform (.unregisterAll subscriberId)).2 := by
  have hexact := hrefines.hexact
  have hlisted : ∀ key, key ∈ keysOf subscriberId router.regIdToKeys ↔
      (subscriptions.keyed key subscriberId).isSome := by
    intro key
    rw [hexact.hinverse, hrefines.hkeyed]
  have heverything : ∀ otherId,
      (router.everythingSubscribers.erase subscriberId).lookup otherId =
        if otherId = subscriberId then none
        else subscriptions.everything otherId := by
    intro otherId
    rw [lookup_erase_if, hrefines.heverything]
  rw [PubSubDataRouter.unregisterAll]
  cases hlookup : router.regIdToKeys.lookup subscriberId with
  | none =>
      have hnone : ∀ key, subscriptions.keyed key subscriberId = none := by
        intro key
        have hkey := hlisted key
        rw [keysOf, hlookup, Option.getD_none] at hkey
        simpa using hkey
      refine ⟨?_, ⟨hexact.hkeys, hexact.hsubscribers, hexact.hinverse⟩, ?_,
        heverything⟩
      · rw [(hrefines.unregisterFromEverything subscriberId).1]
        simp [Subscriptions.perform, hnone]
      · intro other otherId
        simp only [PubSubDataRouter.unregisterFromEverything,
          hrefines.hkeyed, Subscriptions.perform]
        split
        · next hid => rw [hid, hnone]
        · rfl
  | some keys =>
      have hkeys : keysOf subscriberId router.regIdToKeys = keys := by
        rw [keysOf, hlookup, Option.getD_some]
      have hcallbacks : ∀ other otherId, callbackOf other otherId
          (removeAll keys subscriberId router.routingTable) =
            if otherId = subscriberId then none
            else callbackOf other otherId router.routingTable := by
        intro other otherId
        rw [callbackOf_removeAll, ← hkeys]
        by_cases hid : otherId = subscriberId
        · subst hid
          have hother := hexact.hinverse other otherId
          by_cases hmem : other ∈ keysOf otherId router.regIdToKeys
          · simp [hmem]
          · simpa [hmem] using hother
        · simp [hid]
      refine ⟨?_, ⟨hexact.hkeys.removeAll keys, hexact.hsubscribers.erase, ?_⟩,
        ?_, heverything⟩
      · obtain ⟨key, hkey⟩ := Finset.nonempty_iff_ne_empty.mpr
          (hexact.hsubscribers subscriberId keys hlookup)
        have hsome := (hlisted key).mp (hkeys ▸ hkey)
        exact ((subscriptions.unregisterAll_answer subscriberId).mpr
          (.inl ⟨key, hsome⟩)).symm
      · intro other otherId
        simp only [keysOf_erase, hcallbacks]
        split
        · simp
        · exact hexact.hinverse other otherId
      · intro other otherId
        simp only [hcallbacks, hrefines.hkeyed, Subscriptions.perform]

theorem perform (hrefines : Refines router subscriptions)
    (operation : Operation Key SubscriberId DataCallback KeyedDataCallback) :
    (router.perform operation).1 = (subscriptions.perform operation).1 ∧
      Refines (router.perform operation).2
        (subscriptions.perform operation).2 := by
  cases operation with
  | consume key subscriberId callback =>
      exact hrefines.consume key subscriberId callback
  | consumeEveryThing subscriberId callback =>
      exact hrefines.consumeEveryThing subscriberId callback
  | unregister key subscriberId => exact hrefines.unregister key subscriberId
  | unregisterAll subscriberId => exact hrefines.unregisterAll subscriberId
  | unregisterFromEverything subscriberId =>
      exact hrefines.unregisterFromEverything subscriberId

end Refines

/-! ## Delivery -/

/-- The calls that data of a key leads to. -/
def Subscriptions.Invokes (subscriptions : Subscriptions Key SubscriberId
      DataCallback KeyedDataCallback) (key : Key) (data : Data) :
    Invocation Key SubscriberId Data DataCallback KeyedDataCallback → Prop
  | .keyed subscriberId callback sent =>
      sent = data ∧ subscriptions.keyed key subscriberId = some callback
  | .everything subscriberId callback sentKey sent =>
      sentKey = key ∧ sent = data ∧
        subscriptions.everything subscriberId = some callback

section Delivery

variable
  {router : PubSubDataRouter Key SubscriberId DataCallback KeyedDataCallback}
  {subscriptions : Subscriptions Key SubscriberId DataCallback
    KeyedDataCallback}

/-- The calls of `produce` in one expression. -/
theorem produce_calls (key : Key) (data : Data) :
    (router.produce key data).2 =
      (((router.routingTable.lookup key).getD ∅).entries.map fun entry =>
          Invocation.keyed entry.1 entry.2 data) +
        router.everythingSubscribers.entries.map fun entry =>
          Invocation.everything entry.1 entry.2 key data := by
  rw [PubSubDataRouter.produce]
  cases router.routingTable.lookup key with
  | some callbacks => rfl
  | none => exact (zero_add _).symm

theorem mem_produce_iff (hrefines : Refines router subscriptions) (key : Key)
    (data : Data) (invocation : Invocation Key SubscriberId Data DataCallback
      KeyedDataCallback) :
    invocation ∈ (router.produce key data).2 ↔
      subscriptions.Invokes key data invocation := by
  have hkeyed : ∀ subscriberId callback,
      (⟨subscriberId, callback⟩ : Σ _ : SubscriberId, DataCallback) ∈
          ((router.routingTable.lookup key).getD ∅).entries ↔
        subscriptions.keyed key subscriberId = some callback := by
    intro subscriberId callback
    rw [← hrefines.hkeyed, ← Finmap.lookup_eq_some_iff, callbackOf]
    cases router.routingTable.lookup key <;> simp
  rw [produce_calls, Multiset.mem_add, Multiset.mem_map, Multiset.mem_map]
  cases invocation with
  | keyed subscriberId callback sent =>
      constructor
      · rintro (⟨entry, hentry, heq⟩ | ⟨entry, -, heq⟩)
        · obtain ⟨rfl, rfl, rfl⟩ := Invocation.keyed.inj heq
          exact ⟨rfl, (hkeyed _ _).mp hentry⟩
        · cases heq
      · rintro ⟨rfl, hcallback⟩
        exact .inl ⟨_, (hkeyed _ _).mpr hcallback, rfl⟩
  | everything subscriberId callback sentKey sent =>
      constructor
      · rintro (⟨entry, -, heq⟩ | ⟨entry, hentry, heq⟩)
        · cases heq
        · obtain ⟨rfl, rfl, rfl, rfl⟩ := Invocation.everything.inj heq
          refine ⟨rfl, rfl, ?_⟩
          rw [← hrefines.heverything]
          exact Finmap.lookup_eq_some_iff.mpr hentry
      · rintro ⟨rfl, rfl, hcallback⟩
        rw [← hrefines.heverything] at hcallback
        exact .inr ⟨_, Finmap.lookup_eq_some_iff.mp hcallback, rfl⟩

theorem nodup_produce (key : Key) (data : Data) :
    (router.produce key data).2.Nodup := by
  rw [produce_calls, Multiset.nodup_add]
  refine ⟨?_, ?_, ?_⟩
  · apply Multiset.Nodup.map _ (Finmap.nodup_entries _)
    rintro ⟨_, _⟩ ⟨_, _⟩ heq
    obtain ⟨rfl, rfl, -⟩ := Invocation.keyed.inj heq
    rfl
  · apply Multiset.Nodup.map _ (Finmap.nodup_entries _)
    rintro ⟨_, _⟩ ⟨_, _⟩ heq
    obtain ⟨rfl, rfl, -⟩ := Invocation.everything.inj heq
    rfl
  · rw [Multiset.disjoint_left]
    intro invocation hfirst hsecond
    obtain ⟨first, -, rfl⟩ := Multiset.mem_map.mp hfirst
    obtain ⟨second, -, heq⟩ := Multiset.mem_map.mp hsecond
    cases heq

/-- The result tells whether anything was called. -/
theorem produce_answer (hexact : router.Exact) (key : Key) (data : Data) :
    (router.produce key data).1 = true ↔ (router.produce key data).2 ≠ 0 := by
  rw [PubSubDataRouter.produce]
  cases hlookup : router.routingTable.lookup key with
  | none => simp [entries_eq_zero_iff]
  | some callbacks =>
      have hsome : callbacks.entries ≠ 0 :=
        fun hnone => hexact.hkeys key callbacks hlookup
          (entries_eq_zero_iff.mp hnone)
      simp [hsome]

end Delivery

/-! ## Any sequence of operations -/

/-- The router after a sequence of operations, with their results. -/
def PubSubDataRouter.performAll (operations : List (Operation Key SubscriberId
      DataCallback KeyedDataCallback)) :
    List Bool × PubSubDataRouter Key SubscriberId DataCallback
      KeyedDataCallback :=
  Runs.replies PubSubDataRouter.perform .empty operations

/-- The relation after the same operations. -/
noncomputable def Subscriptions.performAll (operations : List (Operation Key
      SubscriberId DataCallback KeyedDataCallback)) :
    List Bool × Subscriptions Key SubscriberId DataCallback KeyedDataCallback :=
  Runs.replies Subscriptions.perform .initial operations

theorem refines_performAll (operations : List (Operation Key SubscriberId
      DataCallback KeyedDataCallback)) :
    (PubSubDataRouter.performAll operations).1 =
        (Subscriptions.performAll operations).1 ∧
      Refines (PubSubDataRouter.performAll operations).2
        (Subscriptions.performAll operations).2 :=
  Runs.replies_refines Refines
    (fun _ _ operation hrefines => hrefines.perform operation) .empty operations

/-- Over any sequence of operations the router answers as the relation does and
holds its registrations in two exact inverse indexes.  The next `unregister`
tells whether the pair was registered and removes it alone, the next
`unregisterAll` removes what the subscriber has registered alone, and data of a
key calls each registered callback once and nothing else. -/
theorem router_refines_subscriptions (operations : List (Operation Key
      SubscriberId DataCallback KeyedDataCallback)) :
    let router := (PubSubDataRouter.performAll operations).2
    let subscriptions := (Subscriptions.performAll operations).2
    (PubSubDataRouter.performAll operations).1 =
        (Subscriptions.performAll operations).1 ∧
      Refines router subscriptions ∧
      (∀ key subscriberId,
        ((router.unregister key subscriberId).1 = true ↔
          (callbackOf key subscriberId router.routingTable).isSome) ∧
        Refines (router.unregister key subscriberId).2
          (subscriptions.setKeyed key subscriberId none)) ∧
      (∀ subscriberId,
        Refines (router.unregisterAll subscriberId).2
          { keyed := fun other otherId =>
              if otherId = subscriberId then none
              else subscriptions.keyed other otherId
            everything := fun otherId =>
              if otherId = subscriberId then none
              else subscriptions.everything otherId }) ∧
      ∀ key (data : Data),
        (router.produce key data).2.Nodup ∧
        (∀ invocation, invocation ∈ (router.produce key data).2 ↔
          subscriptions.Invokes key data invocation) ∧
        ((router.produce key data).1 = true ↔
          (router.produce key data).2 ≠ 0) := by
  intro router subscriptions
  obtain ⟨hanswers, hrefines⟩ := refines_performAll operations
  refine ⟨hanswers, hrefines, ?_, ?_, ?_⟩
  · intro key subscriberId
    obtain ⟨hanswer, hnext⟩ := hrefines.unregister key subscriberId
    refine ⟨?_, hnext⟩
    rw [hanswer, hrefines.hkeyed]
    exact Iff.rfl
  · exact fun subscriberId => (hrefines.unregisterAll subscriberId).2
  · exact fun key data => ⟨nodup_produce key data,
      mem_produce_iff hrefines key data, produce_answer hrefines.hexact key data⟩

/-- A second registration is refused, and the first one stays. -/
example :
    let performed : List Bool × PubSubDataRouter String ℕ String Unit :=
      PubSubDataRouter.performAll
        [.consume "BTC:trade" 1 "first", .consume "BTC:trade" 1 "second"]
    performed.1 = [true, false] ∧
      callbackOf "BTC:trade" 1 performed.2.routingTable = some "first" := by
  decide

end MultiMarketPrices.Routers
