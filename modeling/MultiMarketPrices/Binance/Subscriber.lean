import MultiMarketPrices.Binance.Feed
import MultiMarketPrices.MiddleWare.Consumption

/-!
# From the exchange's frames to a subscriber

The gateway writes the records of a price to the topics that are booked, and
one of these is consumed by a component with a loop of its own.  The broker
keeps a topic's records in the order in which they are written.  The records of
one task may be written in any order, since they come from hash maps, and the
topic also takes whatever is no price.
-/

namespace MultiMarketPrices.Binance

open PlatformComm MiddleWare

/-- The record that `producerFunc` sends for an effect, if it is for the
topic. -/
def packetTo (serialize : Json → String) (destTopic : String) :
    PlatformComm.Effect → Option Packet
  | .produce topic msgType key payload =>
      if topic = destTopic then
        (producerPacket topic msgType key (serialize payload) []).2.head?
      else none
  | _ => none

/-- The type of the record is that of a trade or of a depth. -/
def isPrice (packet : Packet) : Bool :=
  match packet.headers.lookup HeaderKey.messageType with
  | some msgType => msgType = "trade_update" || msgType = "depth_update"
  | none => false

/-- The record is a trade or a depth of the key. -/
def isPriceOf (key : String) (packet : Packet) : Bool :=
  isPrice packet && packet.key = key

def priceOf (key : String) : Except String Packet → Option Packet
  | .ok packet => (some packet).filter (isPriceOf key)
  | .error _ => none

/-- A gateway, and a component that consumes one of the topics. -/
structure Subscriber where
  feed : Feed
  loop : ConsumptionLoop

inductive SubscriberEvent
  /-- a step of the gateway, with the records it writes to the topic -/
  | feed (event : FeedEvent) (packets : List Packet)
  | loop (event : LoopEvent)
  /-- something else is written to the topic -/
  | other (record : Except String Packet)

/-- The calls of `producerFunc` that an event makes about prices. -/
def Feed.sends (platform : Platform) (feed : Feed) :
    FeedEvent → Multiset PlatformComm.Effect
  | .work =>
      match feed.waiting with
      | .price key data :: _ =>
          match (onBinance platform).onPriceDataFromExchange
            feed.system.record.gateway.book key data with
          | .ok calls => calls
          | .error _ => 0
      | _ => 0
  | _ => 0

/-- Neither the broker's part nor the end of the process. -/
def IsConsumers : LoopEvent → Bool
  | .append _ | .restart => false
  | _ => true

namespace Subscriber

def start (msgNo : ℤ) : Subscriber := ⟨.start msgNo, .initial⟩

def written (records : List (Except String Packet)) (loop : ConsumptionLoop) :
    ConsumptionLoop :=
  { loop with log := loop.log ++ records }

def step (platform : Platform) (serialize : Json → String) (destTopic : String)
    (subscriber : Subscriber) : SubscriberEvent → Option Subscriber
  | .feed event packets =>
      if (packets : Multiset Packet) =
          (subscriber.feed.sends platform event).filterMap
            (packetTo serialize destTopic) then
        (subscriber.feed.step platform event).map fun feed =>
          ⟨feed, written (packets.map .ok) subscriber.loop⟩
      else none
  | .loop event =>
      if IsConsumers event then
        (subscriber.loop.step event).map fun loop =>
          { subscriber with loop := loop }
      else none
  | .other (.ok packet) =>
      if isPrice packet then none
      else
        some
          { subscriber with loop := written [.ok packet] subscriber.loop }
  | .other (.error error) =>
      some { subscriber with loop := written [.error error] subscriber.loop }

/-- The tasks that the gateway's worker performs. -/
def performed (subscriber : Subscriber) : SubscriberEvent → List WorkerTask
  | .feed event _ => subscriber.feed.performed event
  | _ => []

/-- The price of the key at an offset, if there is one. -/
def priceAt (subscriber : Subscriber) (key : String) (offset : ℕ) :
    Option Packet :=
  subscriber.loop.log[offset]?.bind (priceOf key)

/-- The component has caught up with the broker. -/
def Drained (subscriber : Subscriber) : Prop :=
  subscriber.loop.waiting = [] ∧ subscriber.loop.rest = [] ∧
    subscriber.loop.position = subscriber.loop.log.length

/-! ## What one step does -/

variable {platform : Platform} {serialize : Json → String}
  {destTopic : String} {subscriber next : Subscriber}

/-- What an event can do. -/
inductive Stepped (platform : Platform) (serialize : Json → String)
    (destTopic : String) (subscriber : Subscriber) :
    SubscriberEvent → Subscriber → Prop
  | feed (event : FeedEvent) (packets : List Packet) (feed : Feed)
      (hpackets : (packets : Multiset Packet) =
        (subscriber.feed.sends platform event).filterMap
          (packetTo serialize destTopic))
      (hstep : subscriber.feed.step platform event = some feed) :
      Stepped platform serialize destTopic subscriber (.feed event packets)
        ⟨feed, written (packets.map .ok) subscriber.loop⟩
  | loop (event : LoopEvent) (loop : ConsumptionLoop)
      (hconsumers : IsConsumers event = true)
      (hstep : subscriber.loop.step event = some loop) :
      Stepped platform serialize destTopic subscriber (.loop event)
        { subscriber with loop := loop }
  | other (record : Except String Packet)
      (hother : ∀ packet, record = .ok packet → isPrice packet = false) :
      Stepped platform serialize destTopic subscriber (.other record)
        { subscriber with loop := written [record] subscriber.loop }

theorem stepped_of_step {event : SubscriberEvent}
    (hstep : subscriber.step platform serialize destTopic event =
      some next) :
    Stepped platform serialize destTopic subscriber event next := by
  cases event with
  | feed event packets =>
      rw [step] at hstep
      split at hstep
      · next hpackets =>
          obtain ⟨feed, hfeed, rfl⟩ := Option.map_eq_some_iff.mp hstep
          exact .feed event packets feed hpackets hfeed
      · cases hstep
  | loop event =>
      rw [step] at hstep
      split at hstep
      · next hconsumers =>
          obtain ⟨loop, hloop, rfl⟩ := Option.map_eq_some_iff.mp hstep
          exact .loop event loop hconsumers hloop
      · cases hstep
  | other record =>
      cases record with
      | error error =>
          obtain rfl := Option.some.inj hstep
          exact .other (.error error) (by simp)
      | ok packet =>
          rw [step] at hstep
          split at hstep
          · cases hstep
          · next hprice =>
              obtain rfl := Option.some.inj hstep
              refine .other (.ok packet) fun other hother => ?_
              obtain rfl := Except.ok.inj hother
              simpa using hprice

/-! ## What is written -/

/-- A record is a price of the key exactly if the effect was one. -/
theorem packetTo_isPriceOf (key : String) (effect : PlatformComm.Effect) :
    (packetTo serialize destTopic effect).filter (isPriceOf key) =
      if IsPriceOf key destTopic effect then
        packetTo serialize destTopic effect
      else none := by
  cases effect with
  | request | control | entered => rfl
  | produce topic msgType recordKey payload =>
      by_cases htopic : topic = destTopic
      · simp only [packetTo, producerPacket, if_pos htopic]
        split_ifs <;>
          simp_all [isPriceOf, isPrice, IsPriceOf, Option.filter]
        tauto
      · simp [packetTo, htopic, IsPriceOf]

/-- Of the records that are written, the prices of a key are those of the
effects that are. -/
theorem filter_packets {key : String} {packets : List Packet}
    {sends : Multiset PlatformComm.Effect} {due : List PlatformComm.Effect}
    (hpackets : (packets : Multiset Packet) =
      sends.filterMap (packetTo serialize destTopic))
    (hsends : sends.filter (IsPriceOf key destTopic) =
      (due : Multiset PlatformComm.Effect)) (hdue : due.length ≤ 1) :
    packets.filter (isPriceOf key) =
      due.filterMap (packetTo serialize destTopic) := by
  have hsame : ((packets.filter (isPriceOf key) : List Packet) :
      Multiset Packet) =
      (due.filterMap (packetTo serialize destTopic) : List Packet) := by
    calc
      ((packets.filter (isPriceOf key) : List Packet) : Multiset Packet)
        = (packets : Multiset Packet).filter (isPriceOf key ·) := by
          rw [Multiset.filter_coe]
          simp
      _ = sends.filterMap fun effect =>
            (packetTo serialize destTopic effect).filter (isPriceOf key) := by
          rw [hpackets, Multiset.filter_filterMap]
          simp
      _ = (sends.filter (IsPriceOf key destTopic)).filterMap
            (packetTo serialize destTopic) := by
          rw [Multiset.filterMap_filter]
          simp only [packetTo_isPriceOf]
      _ = (due.filterMap (packetTo serialize destTopic) : List Packet) := by
          rw [hsends, Multiset.filterMap_coe]
  rw [Multiset.coe_eq_coe] at hsame
  match due, hdue with
  | [], _ => exact List.perm_nil.mp hsame
  | [effect], _ =>
      cases heffect : packetTo serialize destTopic effect with
      | none =>
          rw [List.filterMap_cons_none heffect] at hsame ⊢
          exact List.perm_nil.mp hsame
      | some packet =>
          rw [List.filterMap_cons_some heffect] at hsame ⊢
          exact List.perm_singleton.mp hsame

theorem filterMap_ok (key : String) (packets : List Packet) :
    (packets.map Except.ok).filterMap (priceOf key) =
      packets.filter (isPriceOf key) := by
  induction packets with
  | nil => rfl
  | cons packet packets ih =>
      rw [List.map_cons, List.filter_cons, List.filterMap_cons, ih]
      cases hprice : isPriceOf key packet <;>
        simp [priceOf, Option.filter, hprice]

/-- What an event sends about a key is what is due for the tasks it performs. -/
theorem sends_due {key : String} (hkey : key ≠ instrumentWildCard)
    {feed after : Feed} {tasks : List WorkerTask} {event : FeedEvent}
    (hrun : Runs.run (Desk.step platform) Desk.start tasks = some feed.desk)
    (hstep : feed.step platform event = some after) :
    (feed.sends platform event).filter (IsPriceOf key destTopic) =
        (due platform key destTopic
          (PairHistory.ofEvents (onBinance platform) key destTopic
            (callbacks tasks)) (feed.performed event) :
              Multiset PlatformComm.Effect) ∧
      (due platform key destTopic
        (PairHistory.ofEvents (onBinance platform) key destTopic
          (callbacks tasks)) (feed.performed event)).length ≤ 1 := by
  cases Feed.stepped_of_step hstep with
  | moved | connects | fails | runPosted | passed | update | init | arrive =>
      exact ⟨rfl, Nat.zero_le 1⟩
  | rebalance => exact ⟨rfl, Nat.zero_le 1⟩
  | work task waiting _ hwaiting hperform =>
      cases task with
      | gateway event =>
          simp [Feed.sends, Feed.performed, hwaiting, due]
      | price updated data =>
          rw [Feed.perform] at hperform
          split at hperform
          · next calls hcalls =>
              simp only [Feed.sends, Feed.performed, hwaiting, List.take,
                hcalls, due, List.append_nil]
              exact ⟨Desk.filter_calls_of_run hkey hrun hcalls,
                Desk.dueRecord_length_le _⟩
          · cases hperform

/-! ## What is consumed -/

theorem inOrder_written {first loop : ConsumptionLoop}
    (hinOrder : first.InOrder loop) (records : List (Except String Packet)) :
    first.InOrder (written records loop) := by
  induction records generalizing loop with
  | nil => simpa [written] using hinOrder
  | cons record records ih =>
      have hone : first.InOrder { loop with log := loop.log ++ [record] } :=
        @ConsumptionLoop.InOrder.step loop _ first (.append record) hinOrder
          (by simp) rfl
      simpa [written] using ih hone

/-- The price records of a key are those due, and the component consumes its
topic in order. -/
structure Served (platform : Platform) (serialize : Json → String)
    (destTopic key : String) (tasks : List WorkerTask)
    (subscriber : Subscriber) : Prop where
  hdesk : Runs.run (Desk.step platform) Desk.start tasks =
    some subscriber.feed.desk
  hlog : subscriber.loop.log.filterMap (priceOf key) =
    (due platform key destTopic .empty tasks).filterMap
      (packetTo serialize destTopic)
  hinOrder : ConsumptionLoop.InOrder .initial subscriber.loop

theorem Served.step {key : String} (hkey : key ≠ instrumentWildCard)
    {tasks : List WorkerTask} {event : SubscriberEvent}
    (hserved : Served platform serialize destTopic key tasks subscriber)
    (hstep : subscriber.step platform serialize destTopic event =
      some next) :
    Served platform serialize destTopic key
      (tasks ++ subscriber.performed event) next := by
  obtain ⟨hdesk, hlog, hinOrder⟩ := hserved
  cases stepped_of_step hstep with
  | feed event packets feed hpackets hfeed =>
      obtain ⟨hsends, hdue⟩ := @sends_due platform destTopic key hkey
        subscriber.feed feed tasks event hdesk hfeed
      refine ⟨?_, ?_, inOrder_written hinOrder _⟩
      · rw [Runs.run_append, hdesk]
        exact Feed.desk_step hfeed
      · rw [performed, Desk.due_append, List.filterMap_append, ← hlog]
        simp only [written]
        rw [List.filterMap_append, filterMap_ok,
          filter_packets hpackets hsends hdue]
        rfl
  | loop event loop hconsumers hloop =>
      have hlogs : loop.log = subscriber.loop.log := by
        cases ConsumptionLoop.stepped_of_step hloop with
        | append => cases hconsumers
        | _ => rfl
      refine ⟨?_, ?_, ?_⟩
      · simpa [performed] using hdesk
      · simpa [performed, hlogs] using hlog
      · apply hinOrder.step _ hloop
        rintro rfl
        cases hconsumers
  | other record hother =>
      refine ⟨?_, ?_, inOrder_written hinOrder _⟩
      · simpa [performed] using hdesk
      · have hnone : priceOf key record = none := by
          cases record with
          | error error => rfl
          | ok packet =>
              simp [priceOf, Option.filter, isPriceOf, hother packet rfl]
        simpa [performed, written, hnone] using hlog

theorem served_of_run {key : String} (hkey : key ≠ instrumentWildCard)
    {msgNo : ℤ} {events : List SubscriberEvent}
    (hrun : Runs.run (step platform serialize destTopic) (start msgNo) events =
      some subscriber) :
    Served platform serialize destTopic key
      (Runs.outputs (step platform serialize destTopic) performed
        (start msgNo) events) subscriber := by
  induction events using List.reverseRecOn generalizing subscriber with
  | nil =>
      obtain rfl : start msgNo = subscriber := by simpa using hrun
      refine ⟨rfl, rfl, ?_⟩
      exact ConsumptionLoop.Fresh.inOrder ⟨rfl, rfl, Nat.le_refl 0⟩
  | append_singleton events event ih =>
      obtain ⟨middle, hmiddle, hlast⟩ := Runs.run_concat_eq_some.mp hrun
      rw [Runs.outputs_concat hmiddle hlast]
      exact (ih hmiddle).step hkey hlast

/-- Reading a log offset by offset. -/
theorem filterMap_range {Item Part : Type*} (log : List Item)
    (read : Item → Option Part) {count : ℕ} (hcount : count ≤ log.length) :
    (List.range' 0 count).filterMap (fun offset => log[offset]?.bind read) =
      (log.take count).filterMap read := by
  induction count with
  | zero => simp
  | succ count ih =>
      have hlast : count < log.length := hcount
      rw [List.range'_1_concat, List.filterMap_append, ih (Nat.le_of_lt hlast),
        List.take_succ_eq_append_getElem hlast, List.filterMap_append]
      simp [List.getElem?_eq_getElem hlast, List.filterMap_cons]

/-- What is handled, waits or is left of the batch are the prices polled. -/
theorem filterMap_polled (key : String)
    (hinOrder : ConsumptionLoop.InOrder .initial subscriber.loop) :
    (subscriber.loop.handled ++ subscriber.loop.waiting ++
        subscriber.loop.rest.filter subscriber.loop.isRecord).filterMap
        (subscriber.priceAt key) =
      (subscriber.loop.log.take subscriber.loop.position).filterMap
        (priceOf key) := by
  have hrecord : ∀ offset,
      (if subscriber.loop.isRecord offset then subscriber.priceAt key offset
        else none) = subscriber.priceAt key offset := by
    intro offset
    split
    · rfl
    · next hother =>
        rw [priceAt]
        cases hat : subscriber.loop.log[offset]? with
        | none => rfl
        | some record =>
            cases record with
            | error error => rfl
            | ok packet => simp [ConsumptionLoop.isRecord, hat] at hother
  rw [hinOrder.hrecords, ConsumptionLoop.initial, List.nil_append,
    List.filterMap_filter]
  simp only [hrecord, ConsumptionLoop.polledSince, Nat.sub_zero]
  exact filterMap_range subscriber.loop.log (priceOf key) hinOrder.hposition

/-- Whatever the order in which the gateway, the broker and the component go on,
the component has handled the prices of a key that were due to its topic, each
once, in their order and without a gap, up to the point where it stands; and all
of them once it has caught up. -/
theorem handled_prefix_due (platform : Platform) (serialize : Json → String)
    (destTopic : String) (msgNo : ℤ) (events : List SubscriberEvent)
    (subscriber : Subscriber)
    (hrun : Runs.run (step platform serialize destTopic) (start msgNo) events =
      some subscriber)
    (key : String) (hkey : key ≠ instrumentWildCard) :
    subscriber.loop.handled.filterMap (subscriber.priceAt key) <+:
        (due platform key destTopic .empty
          (Runs.outputs (step platform serialize destTopic) performed
            (start msgNo) events)).filterMap
              (packetTo serialize destTopic) ∧
      (subscriber.Drained →
        subscriber.loop.handled.filterMap (subscriber.priceAt key) =
          (due platform key destTopic .empty
            (Runs.outputs (step platform serialize destTopic) performed
              (start msgNo) events)).filterMap
                (packetTo serialize destTopic)) := by
  obtain ⟨-, hlog, hinOrder⟩ := served_of_run hkey hrun
  have hpolled := filterMap_polled key hinOrder
  rw [← hlog]
  constructor
  · apply List.IsPrefix.trans _
      ((List.take_prefix subscriber.loop.position _).filterMap (priceOf key))
    rw [← hpolled, List.append_assoc, List.filterMap_append]
    exact List.prefix_append _ _
  · rintro ⟨hwaiting, hrest, hposition⟩
    rw [hwaiting, hrest, hposition, List.take_length] at hpolled
    simpa using hpolled

/-- The record of the client's trade. -/
def tradePacket : Packet :=
  ⟨"first_topic", "BTC:trade", [("message_type", "trade_update")], "trade"⟩

/-- The session connects, a client subscribes, a trade comes, and the client
consumes it. -/
def tradeConsumed : List SubscriberEvent :=
  [.feed (.socket .handshake) [], .feed .init [],
    .feed (.rebalance .partitionAssigned 0) [],
    .feed (.arrive (.message 0 "subscribe" firstText)) [],
    .feed (.frame tradeFrame) [], .feed .work [], .feed .work [tradePacket],
    .loop .start, .loop .check, .loop (.poll 10), .loop .next,
    .loop .commitAsync, .loop .work]

theorem handled_prefix_due_of_tradeConsumed :
    ∃ subscriber, Runs.run
        (step Feed.oneClient (fun _ => "trade") "first_topic") (start 0)
        tradeConsumed = some subscriber ∧
      subscriber.loop.handled.filterMap (subscriber.priceAt "BTC:trade") =
        [tradePacket] ∧
      subscriber.loop.handled.filterMap (subscriber.priceAt "BTC:trade") <+:
        (due Feed.oneClient "BTC:trade" "first_topic" .empty
          (Runs.outputs (step Feed.oneClient (fun _ => "trade") "first_topic")
            performed (start 0) tradeConsumed)).filterMap
              (packetTo (fun _ => "trade") "first_topic") := by
  obtain ⟨subscriber, hrun, hhandled⟩ : ∃ subscriber, Runs.run
        (step Feed.oneClient (fun _ => "trade") "first_topic") (start 0)
        tradeConsumed = some subscriber ∧
      subscriber.loop.handled.filterMap (subscriber.priceAt "BTC:trade") =
        [tradePacket] := by
    have hfirst : (start 0).step Feed.oneClient (fun _ => "trade")
        "first_topic" (.feed (.socket .handshake) []) = some
          ⟨{ Feed.start 0 with
              system := { System.start 0 with link := .handshaken 0 }
              connectedOnce := true }, .initial⟩ := by
      rw [step, if_pos]
      · simp only [start, Feed.step_handshake]
        rfl
      · rfl
    rw [tradeConsumed, Runs.run_cons, hfirst, Option.bind_some]
    exact ⟨_, rfl, rfl⟩
  exact ⟨subscriber, hrun, hhandled,
    (handled_prefix_due Feed.oneClient (fun _ => "trade") "first_topic" 0
      tradeConsumed subscriber hrun "BTC:trade" (by decide)).1⟩

end Subscriber

end MultiMarketPrices.Binance
