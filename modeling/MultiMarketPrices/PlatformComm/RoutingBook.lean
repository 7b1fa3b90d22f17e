import Mathlib

/-!
# The routing book

`symbolToDestTopics` with its two bookkeeping functions.  A key is removed with
its last topic, so that a key in the book always has a topic.
-/

namespace MultiMarketPrices.PlatformComm

structure RoutingBook where
  symbolToDestTopics : Finmap fun _ : String => Finset String
  nonempty : ∀ key topics, symbolToDestTopics.lookup key = some topics →
    topics.Nonempty

namespace RoutingBook

def empty : RoutingBook where
  symbolToDestTopics := ∅
  nonempty key topics hlookup := by simp at hlookup

variable (book : RoutingBook) (key destTopic : String)

/-- The destination topics booked for a key. -/
def topics : Finset String := (book.symbolToDestTopics.lookup key).getD ∅

def handleBookKeepingForSubscription : Bool × RoutingBook :=
  match hlookup : book.symbolToDestTopics.lookup key with
  | none =>
      (true,
        { symbolToDestTopics := book.symbolToDestTopics.insert key {destTopic}
          nonempty := by
            intro other topics hother
            by_cases heq : other = key
            · subst heq
              rw [Finmap.lookup_insert] at hother
              exact Option.some.inj hother ▸ Finset.singleton_nonempty _
            · rw [Finmap.lookup_insert_of_ne _ heq] at hother
              exact book.nonempty other topics hother })
  | some destTopics =>
      (decide (destTopic ∉ destTopics),
        { symbolToDestTopics :=
            book.symbolToDestTopics.insert key (insert destTopic destTopics)
          nonempty := by
            intro other topics hother
            by_cases heq : other = key
            · subst heq
              rw [Finmap.lookup_insert] at hother
              exact Option.some.inj hother ▸ Finset.insert_nonempty _ _
            · rw [Finmap.lookup_insert_of_ne _ heq] at hother
              exact book.nonempty other topics hother })

def handleBookKeepingForUnsubscription : Bool × RoutingBook :=
  match book.symbolToDestTopics.lookup key with
  | none => (false, book)
  | some destTopics =>
      if destTopic ∈ destTopics then
        (true,
          if hempty : destTopics.erase destTopic = ∅ then
            { symbolToDestTopics := book.symbolToDestTopics.erase key
              nonempty := by
                intro other topics hother
                by_cases heq : other = key
                · subst heq
                  simp at hother
                · rw [Finmap.lookup_erase_ne heq] at hother
                  exact book.nonempty other topics hother }
          else
            { symbolToDestTopics :=
                book.symbolToDestTopics.insert key (destTopics.erase destTopic)
              nonempty := by
                intro other topics hother
                by_cases heq : other = key
                · subst heq
                  rw [Finmap.lookup_insert] at hother
                  exact Option.some.inj hother ▸
                    Finset.nonempty_iff_ne_empty.mpr hempty
                · rw [Finmap.lookup_insert_of_ne _ heq] at hother
                  exact book.nonempty other topics hother })
      else
        (false, book)

def handleBookKeeping (isSub : Bool) : Bool × RoutingBook :=
  if isSub then book.handleBookKeepingForSubscription key destTopic
  else book.handleBookKeepingForUnsubscription key destTopic

/-- The map holds the keys that have a topic. -/
theorem lookup_eq :
    book.symbolToDestTopics.lookup key =
      if book.topics key = ∅ then none else some (book.topics key) := by
  rw [topics]
  cases hlookup : book.symbolToDestTopics.lookup key with
  | none => simp
  | some destTopics =>
      have hsome := book.nonempty key destTopics hlookup
      simp [hsome.ne_empty]

/-- The topics of the keys determine the map. -/
theorem symbolToDestTopics_eq_iff {first second : RoutingBook} :
    first.symbolToDestTopics = second.symbolToDestTopics ↔
      ∀ key, first.topics key = second.topics key := by
  constructor
  · intro heq key
    rw [topics, topics, heq]
  · intro htopics
    apply Finmap.ext_lookup
    intro key
    rw [lookup_eq, lookup_eq, htopics]

/-! ## What the bookkeeping does to the topics -/

@[simp]
theorem topics_empty : empty.topics key = ∅ := rfl

theorem subscription_accepted :
    (book.handleBookKeepingForSubscription key destTopic).1 =
      decide (destTopic ∉ book.topics key) := by
  rw [handleBookKeepingForSubscription]
  split <;> next hlookup => simp [topics, hlookup]

theorem topics_subscription (other : String) :
    (book.handleBookKeepingForSubscription key destTopic).2.topics other =
      if other = key then insert destTopic (book.topics key)
      else book.topics other := by
  by_cases heq : other = key
  · subst heq
    rw [handleBookKeepingForSubscription]
    split <;> next hlookup => simp [topics, hlookup, Finmap.lookup_insert]
  · rw [handleBookKeepingForSubscription]
    split <;> simp [topics, heq, Finmap.lookup_insert_of_ne]

theorem unsubscription_accepted :
    (book.handleBookKeepingForUnsubscription key destTopic).1 =
      decide (destTopic ∈ book.topics key) := by
  rw [handleBookKeepingForUnsubscription]
  cases hlookup : book.symbolToDestTopics.lookup key with
  | none => simp [topics, hlookup]
  | some destTopics =>
      by_cases hmem : destTopic ∈ destTopics <;> simp [topics, hlookup, hmem]

theorem topics_unsubscription (other : String) :
    (book.handleBookKeepingForUnsubscription key destTopic).2.topics other =
      if other = key then (book.topics key).erase destTopic
      else book.topics other := by
  rw [handleBookKeepingForUnsubscription]
  cases hlookup : book.symbolToDestTopics.lookup key with
  | none =>
      by_cases heq : other = key
      · subst heq
        simp [topics, hlookup]
      · simp [heq]
  | some destTopics =>
      by_cases hmem : destTopic ∈ destTopics
      · by_cases hempty : destTopics.erase destTopic = ∅
        · by_cases heq : other = key
          · subst heq
            simp [topics, hlookup, hmem, hempty]
          · simp [topics, hmem, hempty, heq, Finmap.lookup_erase_ne]
        · by_cases heq : other = key
          · subst heq
            simp [topics, hlookup, hmem, hempty, Finmap.lookup_insert]
          · simp [topics, hmem, hempty, heq, Finmap.lookup_insert_of_ne]
      · by_cases heq : other = key
        · subst heq
          simp [topics, hlookup, hmem]
        · simp [hmem, heq]

/-- A subscription is accepted when the pair is new, an unsubscription when it
is booked. -/
theorem bookKeeping_accepted (isSub : Bool) :
    (book.handleBookKeeping key destTopic isSub).1 =
      if isSub then decide (destTopic ∉ book.topics key)
      else decide (destTopic ∈ book.topics key) := by
  cases isSub with
  | true => exact book.subscription_accepted key destTopic
  | false => exact book.unsubscription_accepted key destTopic

theorem topics_bookKeeping (isSub : Bool) (other : String) :
    (book.handleBookKeeping key destTopic isSub).2.topics other =
      if other = key then
        if isSub then insert destTopic (book.topics key)
        else (book.topics key).erase destTopic
      else book.topics other := by
  cases isSub with
  | true => exact book.topics_subscription key destTopic other
  | false => exact book.topics_unsubscription key destTopic other

/-- The map changes exactly when the bookkeeping accepts. -/
theorem bookKeeping_changes (isSub : Bool) :
    (book.handleBookKeeping key destTopic isSub).2.symbolToDestTopics ≠
        book.symbolToDestTopics ↔
      (book.handleBookKeeping key destTopic isSub).1 = true := by
  rw [Ne, symbolToDestTopics_eq_iff, bookKeeping_accepted, not_iff_comm]
  constructor
  · intro hrefused other
    rw [topics_bookKeeping]
    split
    · next heq => cases isSub <;> simp_all
    · rfl
  · intro htopics
    have hkey := htopics key
    rw [topics_bookKeeping, if_pos rfl] at hkey
    cases isSub <;> simpa using hkey

end RoutingBook

end MultiMarketPrices.PlatformComm
