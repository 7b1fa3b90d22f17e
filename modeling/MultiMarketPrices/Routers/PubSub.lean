import MultiMarketPrices.Core.Finmaps
import MultiMarketPrices.Core.Runs

/-!
# The publish-subscribe router

`PubSubDataRouter` of CrazyRouters.hpp keeps its keyed registrations twice, by
key with the callbacks and by subscriber with the keys.  Over any sequence of
its operations the two indexes hold the same pairs and no empty entry, and the
router behaves as one relation between keys, subscribers and callbacks.

The maps are `Finmap`s; what a call invokes is a multiset, since the order of
an `unordered_map` is not specified.
-/

namespace MultiMarketPrices.Routers

/-- A call of a callback; the subscriber tells whose it is. -/
inductive Invocation (Key SubscriberId Data DataCallback
    KeyedDataCallback : Type*)
  | keyed (subscriberId : SubscriberId) (callback : DataCallback) (data : Data)
  | everything (subscriberId : SubscriberId) (callback : KeyedDataCallback)
      (key : Key) (data : Data)

/-- `m_routingTable` -/
abbrev RoutingTable (Key SubscriberId DataCallback : Type*) :=
  Finmap fun _ : Key => Finmap fun _ : SubscriberId => DataCallback

/-- `m_regIdToKeys` -/
abbrev RegIdStore (Key SubscriberId : Type*) :=
  Finmap fun _ : SubscriberId => Finset Key

structure PubSubDataRouter (Key SubscriberId DataCallback
    KeyedDataCallback : Type*) where
  routingTable : RoutingTable Key SubscriberId DataCallback
  regIdToKeys : RegIdStore Key SubscriberId
  everythingSubscribers : Finmap fun _ : SubscriberId => KeyedDataCallback

section Tables

variable {Key SubscriberId DataCallback : Type*}
  [DecidableEq Key] [DecidableEq SubscriberId]

def removeFromRoutingTable (key : Key) (subscriberId : SubscriberId)
    (routingTable : RoutingTable Key SubscriberId DataCallback) :
    Bool × RoutingTable Key SubscriberId DataCallback :=
  match routingTable.lookup key with
  | some callbacks =>
      if subscriberId ∈ callbacks then
        (true,
          if (callbacks.erase subscriberId).keys = ∅ then
            routingTable.erase key
          else
            routingTable.insert key (callbacks.erase subscriberId))
      else
        (false, routingTable)
  | none => (false, routingTable)

def removeFromRegIdStore (key : Key) (subscriberId : SubscriberId)
    (regIdToKeys : RegIdStore Key SubscriberId) :
    Bool × RegIdStore Key SubscriberId :=
  match regIdToKeys.lookup subscriberId with
  | none => (false, regIdToKeys)
  | some keys =>
      if key ∈ keys then
        (true,
          if keys.erase key = ∅ then regIdToKeys.erase subscriberId
          else regIdToKeys.insert subscriberId (keys.erase key))
      else
        (false, regIdToKeys)

/-- What a removal leaves of the callbacks of its key. -/
def callbacksWithout (subscriberId : SubscriberId)
    (callbacks : Finmap fun _ : SubscriberId => DataCallback) :
    Option (Finmap fun _ : SubscriberId => DataCallback) :=
  if subscriberId ∈ callbacks then
    if (callbacks.erase subscriberId).keys = ∅ then none
    else some (callbacks.erase subscriberId)
  else
    some callbacks

theorem lookup_removeFromRoutingTable (key other : Key)
    (subscriberId : SubscriberId)
    (routingTable : RoutingTable Key SubscriberId DataCallback) :
    (removeFromRoutingTable key subscriberId routingTable).2.lookup other =
      if other = key then
        (routingTable.lookup key).bind (callbacksWithout subscriberId)
      else
        routingTable.lookup other := by
  rw [removeFromRoutingTable]
  split
  · next callbacks hlookup =>
      rw [hlookup, Option.bind_some, callbacksWithout]
      split
      · split
        · rw [Finmaps.lookup_erase_if]
        · rw [Finmaps.lookup_insert_if]
      · split
        · next heq => rw [heq, hlookup]
        · rfl
  · next hlookup =>
      split
      · next heq => rw [heq, hlookup, Option.bind_none]
      · rfl

/-- The keys of a subscriber may be removed in any order. -/
instance (subscriberId : SubscriberId) : RightCommutative fun
    (routingTable : RoutingTable Key SubscriberId DataCallback) (key : Key) =>
      (removeFromRoutingTable key subscriberId routingTable).2 where
  right_comm routingTable first second := by
    by_cases heq : first = second
    · rw [heq]
    · apply Finmap.ext_lookup
      intro other
      simp only [lookup_removeFromRoutingTable, if_neg heq,
        if_neg (Ne.symm heq)]
      by_cases hfirst : other = first
      · rw [if_neg (hfirst ▸ heq), if_pos hfirst, if_pos hfirst]
      · by_cases hsecond : other = second
        · rw [if_pos hsecond, if_neg hfirst, if_pos hsecond]
        · rw [if_neg hsecond, if_neg hfirst, if_neg hfirst, if_neg hsecond]

/-- The loop of `unregisterAll`. -/
def removeAll (keys : Finset Key) (subscriberId : SubscriberId)
    (routingTable : RoutingTable Key SubscriberId DataCallback) :
    RoutingTable Key SubscriberId DataCallback :=
  keys.val.foldl (fun routingTable key =>
    (removeFromRoutingTable key subscriberId routingTable).2) routingTable

end Tables

namespace PubSubDataRouter

variable {Key SubscriberId Data DataCallback KeyedDataCallback : Type*}
  [DecidableEq Key] [DecidableEq SubscriberId]

def empty : PubSubDataRouter Key SubscriberId DataCallback KeyedDataCallback :=
  ⟨∅, ∅, ∅⟩

variable (router : PubSubDataRouter Key SubscriberId DataCallback
  KeyedDataCallback) (key : Key) (subscriberId : SubscriberId)

/-- The result of `produce`, and what it invokes. -/
def produce (data : Data) : Bool × Multiset (Invocation Key SubscriberId Data
    DataCallback KeyedDataCallback) :=
  let everything := router.everythingSubscribers.entries.map fun entry =>
    Invocation.everything entry.1 entry.2 key data
  match router.routingTable.lookup key with
  | some callbacks =>
      (true, (callbacks.entries.map fun entry =>
        Invocation.keyed entry.1 entry.2 data) + everything)
  | none => (decide (router.everythingSubscribers.keys ≠ ∅), everything)

/-- `m_regIdToKeys[subscriberId].insert(key)` -/
def insertKey : RegIdStore Key SubscriberId :=
  router.regIdToKeys.insert subscriberId
    (insert key ((router.regIdToKeys.lookup subscriberId).getD ∅))

def consume (callback : DataCallback) : Bool × PubSubDataRouter Key SubscriberId
    DataCallback KeyedDataCallback :=
  match router.routingTable.lookup key with
  | some callbacks =>
      match callbacks.lookup subscriberId with
      | none =>
          (true, { router with
            routingTable := router.routingTable.insert key
              (callbacks.insert subscriberId callback)
            regIdToKeys := router.insertKey key subscriberId })
      | some _ => (false, router)
  | none =>
      (true, { router with
        routingTable := router.routingTable.insert key
          (Finmap.singleton subscriberId callback)
        regIdToKeys := router.insertKey key subscriberId })

def consumeEveryThing (callback : KeyedDataCallback) : Bool × PubSubDataRouter
    Key SubscriberId DataCallback KeyedDataCallback :=
  match router.everythingSubscribers.lookup subscriberId with
  | some _ => (false, router)
  | none =>
      (true, { router with
        everythingSubscribers :=
          router.everythingSubscribers.insert subscriberId callback })

def unregisterFromEverything : Bool × PubSubDataRouter Key SubscriberId
    DataCallback KeyedDataCallback :=
  (decide (subscriberId ∈ router.everythingSubscribers),
    { router with
      everythingSubscribers :=
        router.everythingSubscribers.erase subscriberId })

/-- The second removal is made only if the first one found something. -/
def unregister : Bool × PubSubDataRouter Key SubscriberId DataCallback
    KeyedDataCallback :=
  let removed := removeFromRoutingTable key subscriberId router.routingTable
  if removed.1 then
    let unlisted := removeFromRegIdStore key subscriberId router.regIdToKeys
    (unlisted.1,
      { router with routingTable := removed.2, regIdToKeys := unlisted.2 })
  else
    (false, { router with routingTable := removed.2 })

def unregisterAll : Bool × PubSubDataRouter Key SubscriberId DataCallback
    KeyedDataCallback :=
  let everything := router.unregisterFromEverything subscriberId
  match router.regIdToKeys.lookup subscriberId with
  | some keys =>
      (true, { everything.2 with
        routingTable := removeAll keys subscriberId router.routingTable
        regIdToKeys := router.regIdToKeys.erase subscriberId })
  | none => everything

end PubSubDataRouter

end MultiMarketPrices.Routers
