import MultiMarketPrices.Core.Finmaps
import MultiMarketPrices.Core.Runs
import MultiMarketPrices.MiddleWare.Interface
import MultiMarketPrices.PlatformComm.PartitionFsm
import MultiMarketPrices.PlatformComm.RoutingBook

/-!
# The platform side of the gateway

The callbacks of PlatformComm.cpp over the routing book and the state machines
of the partitions: rebalances, subscribe and unsubscribe messages, sync-data
responses, and the fan-out of price data.  A handler answers with the new state
and what it sent, or with the exception that leaves it; a serialized payload is
the value it serializes.

`Handled` inverts the handlers: it lists everything one event can do.
-/

namespace MultiMarketPrices.PlatformComm

/-- A request, with the object it wraps. -/
inductive SubUnsubVariant
  | subRequest (request : Json.Object)
  | unsubRequest (request : Json.Object)

inductive MDUpdateVariant
  | tradeUpdate (update : Json)
  | depthUpdate (update : Json)
  | priceBlanking

inductive TopicAssignmentEvent
  | partitionAssigned
  | partitionRevoked
  deriving DecidableEq

/-- What the callbacks send, and the states the machines enter. -/
inductive Effect
  /-- `requestFunc`; the random request id is left out -/
  | request (payload : Json) (targetTopic : String)
  /-- `produceControl` -/
  | control (key : String) (cmd : SubUnsubVariant)
  /-- a call of `producerFunc`, whether or not it is refused -/
  | produce (topic msgType key : String) (payload : Json)
  /-- the machine of a partition runs `onEntry` of a state -/
  | entered (partition : ℤ) (state : FsmState)

/-- The call is not refused: a record goes to the broker.  Nothing depends on
the payload, and the callbacks add no headers. -/
def Effect.IsSent : Effect → Prop
  | .produce topic msgType key _ =>
      (MiddleWare.producerFunc topic msgType key "" ∅).1 = .ok
  | _ => False

instance : DecidablePred Effect.IsSent
  | .produce _ _ _ _ => inferInstanceAs (Decidable (_ = _))
  | .request _ _ | .control _ _ | .entered _ _ => .isFalse id

@[simp]
theorem Effect.isSent_produce {topic msgType key : String} {payload : Json} :
    (Effect.produce topic msgType key payload).IsSent ↔
      topic ≠ "" ∧ msgType ≠ "" ∧ key ≠ "" := by
  rw [IsSent, MiddleWare.producerFunc]
  split_ifs <;> simp_all

def FsmOutput.effect (partition : ℤ) : FsmOutput → Effect
  | .subFunc key => .control key (.subRequest [])
  | .unsubFunc key => .control key (.unsubRequest [])
  | .onEntry state => .entered partition state

/-- The globals that `PlatformComm::init` sets, and the code outside the
repository that the callbacks run on. -/
structure Platform where
  appId : String
  appGroup : String
  inTopic : String
  syncDataTopic : String
  syncDataRequestTopic : String
  gKeyGenFunc : SubUnsubVariant → Option String
  gKeyDisintegrationFunc : String → Except Thrown (String × String × String)
  /-- `json::parse` -/
  parse : String → Except Thrown Json
  /-- the machine engine of CPPFsm -/
  engine : perPartitionFSM.Engine

structure Gateway where
  book : RoutingBook
  partitionFSMs : Finmap fun _ : ℤ => Fsm

def Gateway.initial : Gateway := ⟨.empty, ∅⟩

inductive GatewayEvent
  /-- `rebalanceCallback` -/
  | rebalance (rebalanceType : TopicAssignmentEvent) (partition : ℤ)
  /-- `msgCb` -/
  | message (partition : ℤ) (msgType msg : String)
  /-- `responseCb` -/
  | response (msg : String) (isLast : Bool)

/-- `INSTRUMENT_WILD_CARD` -/
def instrumentWildCard : String := "*"

/-- A response that ends the download of partition 0. -/
def endOfDownloadText : String := "\x7b\"group\":\"group:in:0\"\x7d"

namespace Platform

/-- A platform on the reference engine that parses the texts of a table. -/
def ofTexts (gKeyGenFunc : SubUnsubVariant → Option String)
    (gKeyDisintegrationFunc : String → Except Thrown (String × String × String))
    (texts : List (String × Json)) : Platform where
  appId := "gateway"
  appGroup := "group"
  inTopic := "in"
  syncDataTopic := "sync_data"
  syncDataRequestTopic := "sync_data_requests"
  gKeyGenFunc := gKeyGenFunc
  gKeyDisintegrationFunc := gKeyDisintegrationFunc
  parse text :=
    match texts.lookup text with
    | some value => .ok value
    | none => .error .parse
  engine := perPartitionFSM.reference

/-- A platform on which only the end of the download of partition 0 parses. -/
def endOfDownload : Platform :=
  ofTexts (fun _ => none) (fun _ => .error .index)
    [(endOfDownloadText, .object [("group", .string "group:in:0")])]

variable (platform : Platform)

/-- The group identifier of a partition. -/
def group (partition : ℤ) : String :=
  platform.appGroup ++ ":" ++ platform.inTopic ++ ":" ++ toString partition

/-- Let the machine of a partition handle an event. -/
def handleEvent (partition : ℤ) (fsm : Fsm) (event : FsmEvent)
    (gateway : Gateway) : Except Thrown (Gateway × List Effect) :=
  (platform.engine.handleEvent fsm event).map fun answer =>
    ({ gateway with
        partitionFSMs := gateway.partitionFSMs.insert partition answer.1 },
      answer.2.map (FsmOutput.effect partition))

def rebalanceCallback (rebalanceType : TopicAssignmentEvent) (partition : ℤ)
    (gateway : Gateway) : Except Thrown (Gateway × List Effect) :=
  match rebalanceType, gateway.partitionFSMs.lookup partition with
  | .partitionAssigned, none =>
      .ok ({ gateway with
          partitionFSMs :=
            gateway.partitionFSMs.insert partition perPartitionFSM.start.1 },
        .request (.object [("group", .string (platform.group partition)),
            ("destination_topic", .string platform.appId)])
          platform.syncDataRequestTopic ::
        perPartitionFSM.start.2.map (FsmOutput.effect partition))
  | .partitionAssigned, some existingFSM =>
      platform.handleEvent partition existingFSM .assign gateway
  | .partitionRevoked, some existingFSM =>
      platform.handleEvent partition existingFSM .revoke gateway
  | .partitionRevoked, none => .ok (gateway, [])

/-- The routing key and destination topic of a sub/unsub message, or nothing
when no key can be generated. -/
def subUnsubRequest (isSub : Bool) (msg : String) :
    Except Thrown (Option (String × String)) :=
  (platform.parse msg).bind fun value => value.asObject.bind fun obj =>
    match platform.gKeyGenFunc
      (if isSub then .subRequest obj else .unsubRequest obj) with
    | none => .ok none
    | some routingKey => (obj.cStrAt "destination_topic").map fun destTopic =>
        some (routingKey, destTopic)

/-- The report of an accepted message on the sync-data topic. -/
def syncDataUpdate (partition : ℤ) (routingKey destTopic : String)
    (isSub : Bool) : Effect :=
  .produce platform.syncDataTopic "sync_data_update" platform.appId
    (.object [("group", .string (platform.group partition)),
      ("key", .string routingKey),
      ("action", .string (if isSub then "subscribe" else "unsubscribe")),
      ("destination_topic", .string destTopic)])

/-- Reports on the sync-data topic are not refused. -/
def CanReport : Prop := platform.syncDataTopic ≠ "" ∧ platform.appId ≠ ""

theorem syncDataUpdate_isSent {partition : ℤ} {routingKey destTopic : String}
    {isSub : Bool} :
    (platform.syncDataUpdate partition routingKey destTopic isSub).IsSent ↔
      platform.CanReport := by
  simp [syncDataUpdate, CanReport]

/-- The type of a subscribe or unsubscribe message. -/
def messageType (isSub : Bool) : String :=
  if isSub then "subscribe" else "unsubscribe"

theorem messageType_known (isSub : Bool) :
    messageType isSub = "subscribe" ∨ messageType isSub = "unsubscribe" := by
  cases isSub <;> simp [messageType]

theorem decide_messageType (isSub : Bool) :
    decide (messageType isSub = "subscribe") = isSub := by
  cases isSub <;> decide

def msgCb (partition : ℤ) (msgType msg : String) (gateway : Gateway) :
    Except Thrown (Gateway × List Effect) :=
  if msgType = "subscribe" ∨ msgType = "unsubscribe" then
    match gateway.partitionFSMs.lookup partition with
    | none => .ok (gateway, [])
    | some existingFSM =>
        let isSub := decide (msgType = "subscribe")
        (platform.subUnsubRequest isSub msg).bind fun
          | none => .ok (gateway, [])
          | some (routingKey, destTopic) =>
              let kept :=
                gateway.book.handleBookKeeping routingKey destTopic isSub
              if kept.1 then
                (platform.handleEvent partition existingFSM
                  (.subUnsub routingKey isSub)
                  { gateway with book := kept.2 }).map fun answer =>
                    (answer.1, answer.2 ++
                      [platform.syncDataUpdate partition routingKey destTopic
                        isSub])
              else
                .ok ({ gateway with book := kept.2 }, [])
  else
    .ok (gateway, [])

/-- The partition a response is for. -/
def groupPartition (group : String) : Option ℤ :=
  match Text.split ':' group with
  | [_, _, partition] => some (Text.atoi partition)
  | _ => none

/-- `json::parse(msg, ec)` leaves a null when it fails. -/
def responseObject (msg : String) : Except Thrown Json.Object :=
  match platform.parse msg with
  | .ok value => value.asObject
  | .error _ => Json.asObject .null

def responseCb (msg : String) (isLast : Bool) (gateway : Gateway) :
    Except Thrown (Gateway × List Effect) :=
  (platform.responseObject msg).bind fun jsonObj =>
    (jsonObj.cStrAt "group").bind fun group =>
      match groupPartition group with
      | none => .ok (gateway, [])
      | some partition =>
          match gateway.partitionFSMs.lookup partition with
          | none => .ok (gateway, [])
          | some existingFSM =>
              platform.handleEvent partition existingFSM
                (if isLast then .downloadEnd jsonObj
                  else .subscriptionRecord jsonObj)
                gateway

/-- The three callbacks that change the state. -/
def handle (gateway : Gateway) :
    GatewayEvent → Except Thrown (Gateway × List Effect)
  | .rebalance rebalanceType partition =>
      platform.rebalanceCallback rebalanceType partition gateway
  | .message partition msgType msg =>
      platform.msgCb partition msgType msg gateway
  | .response msg isLast => platform.responseCb msg isLast gateway

/-! ## Price data -/

/-- The blanking of a key on its topics. -/
def blanking (key : String) (destTopics : Finset String) :
    Except Thrown (Multiset Effect) :=
  (platform.gKeyDisintegrationFunc key).map fun (symbol, type, exchange) =>
    destTopics.val.map fun destTopic =>
      .produce destTopic "price_blanked" "NULL"
        (.object [("symbol", .string symbol), ("type", .string type),
          ("exchange", .string exchange)])

/-- The calls of `producerFunc` for an update, in no particular order.  An
exception at one key of the book is taken to come before any call. -/
def onPriceDataFromExchange (book : RoutingBook) (key : String)
    (data : MDUpdateVariant) : Except Thrown (Multiset Effect) :=
  if key = instrumentWildCard then
    match data with
    | .priceBlanking =>
        let blanked := book.symbolToDestTopics.entries.map fun entry =>
          platform.blanking entry.1 entry.2
        if ∀ records ∈ blanked, records.isOk then
          .ok (blanked.bind fun records => records.toOption.getD 0)
        else
          .error .index
    | _ => .ok 0
  else
    match book.symbolToDestTopics.lookup key with
    | none => .ok 0
    | some destTopics =>
        match data with
        | .tradeUpdate update => .ok (destTopics.val.map fun destTopic =>
            .produce destTopic "trade_update" key update)
        | .depthUpdate update => .ok (destTopics.val.map fun destTopic =>
            .produce destTopic "depth_update" key update)
        | .priceBlanking => platform.blanking key destTopics

theorem onPriceDataFromExchange_trade {key : String}
    (hkey : key ≠ instrumentWildCard) (book : RoutingBook) (update : Json) :
    platform.onPriceDataFromExchange book key (.tradeUpdate update) =
      .ok ((book.topics key).val.map fun destTopic =>
        .produce destTopic "trade_update" key update) := by
  rw [RoutingBook.topics]
  cases hlookup : book.symbolToDestTopics.lookup key <;>
    simp [onPriceDataFromExchange, hkey, hlookup]

theorem onPriceDataFromExchange_depth {key : String}
    (hkey : key ≠ instrumentWildCard) (book : RoutingBook) (update : Json) :
    platform.onPriceDataFromExchange book key (.depthUpdate update) =
      .ok ((book.topics key).val.map fun destTopic =>
        .produce destTopic "depth_update" key update) := by
  rw [RoutingBook.topics]
  cases hlookup : book.symbolToDestTopics.lookup key <;>
    simp [onPriceDataFromExchange, hkey, hlookup]

/-- A trade update of a key is produced for the topics that have booked it. -/
theorem produces_trade_iff {book : RoutingBook} {key destTopic : String}
    (hkey : key ≠ instrumentWildCard) (update : Json) :
    (∃ records, platform.onPriceDataFromExchange book key
        (.tradeUpdate update) = .ok records ∧
      .produce destTopic "trade_update" key update ∈ records) ↔
      destTopic ∈ book.topics key := by
  simp [platform.onPriceDataFromExchange_trade hkey]

theorem produces_depth_iff {book : RoutingBook} {key destTopic : String}
    (hkey : key ≠ instrumentWildCard) (update : Json) :
    (∃ records, platform.onPriceDataFromExchange book key
        (.depthUpdate update) = .ok records ∧
      .produce destTopic "depth_update" key update ∈ records) ↔
      destTopic ∈ book.topics key := by
  simp [platform.onPriceDataFromExchange_depth hkey]

/-- It is sent to those that are not empty. -/
theorem sends_trade_iff {book : RoutingBook} {key destTopic : String}
    (hkey : key ≠ instrumentWildCard) (hname : key ≠ "") (update : Json) :
    (∃ calls, platform.onPriceDataFromExchange book key
        (.tradeUpdate update) = .ok calls ∧
      .produce destTopic "trade_update" key update ∈
        calls.filter Effect.IsSent) ↔
      destTopic ∈ book.topics key ∧ destTopic ≠ "" := by
  simp [platform.onPriceDataFromExchange_trade hkey, hname]

theorem sends_depth_iff {book : RoutingBook} {key destTopic : String}
    (hkey : key ≠ instrumentWildCard) (hname : key ≠ "") (update : Json) :
    (∃ calls, platform.onPriceDataFromExchange book key
        (.depthUpdate update) = .ok calls ∧
      .produce destTopic "depth_update" key update ∈
        calls.filter Effect.IsSent) ↔
      destTopic ∈ book.topics key ∧ destTopic ≠ "" := by
  simp [platform.onPriceDataFromExchange_depth hkey, hname]

/-- Price data of a booked key reaches each of its topics. -/
theorem mem_onPriceDataFromExchange {book : RoutingBook}
    {key destTopic : String} {data : MDUpdateVariant}
    (hkey : key ≠ instrumentWildCard) (hdata : data ≠ .priceBlanking)
    (htopic : destTopic ∈ book.topics key) :
    ∃ records msgType payload,
      platform.onPriceDataFromExchange book key data = .ok records ∧
      .produce destTopic msgType key payload ∈ records := by
  cases data with
  | tradeUpdate update =>
      obtain ⟨records, hproduced⟩ :=
        (platform.produces_trade_iff hkey update).mpr htopic
      exact ⟨records, "trade_update", update, hproduced⟩
  | depthUpdate update =>
      obtain ⟨records, hproduced⟩ :=
        (platform.produces_depth_iff hkey update).mpr htopic
      exact ⟨records, "depth_update", update, hproduced⟩
  | priceBlanking => exact absurd rfl hdata

end Platform

/-- The event is a subscribe or unsubscribe message about a pair. -/
def GatewayEvent.IsAbout (platform : Platform) (isSub : Bool)
    (key destTopic : String) : GatewayEvent → Prop
  | .message _ msgType msg => msgType = Platform.messageType isSub ∧
      platform.subUnsubRequest isSub msg = .ok (some (key, destTopic))
  | _ => False

instance (platform : Platform) (isSub : Bool) (key destTopic : String) :
    DecidablePred (GatewayEvent.IsAbout platform isSub key destTopic)
  | .message _ _ _ => inferInstanceAs (Decidable (_ ∧ _))
  | .rebalance _ _ | .response _ _ => .isFalse id

/-! ## What one event can do -/

/-- Every machine is in a configuration its runs can reach. -/
def Gateway.Sound (gateway : Gateway) : Prop :=
  ∀ partition fsm, gateway.partitionFSMs.lookup partition = some fsm → fsm.Sound

def TopicAssignmentEvent.fsmEvent : TopicAssignmentEvent → FsmEvent
  | partitionAssigned => .assign
  | partitionRevoked => .revoke

/-- The ways in which `event` takes `gateway` to `next`, sending `effects`. -/
inductive Handled (platform : Platform) (gateway : Gateway)
    (event : GatewayEvent) (next : Gateway) (effects : List Effect) : Prop
  | ignored
      (hevent : ∀ rebalanceType partition,
        event = .rebalance rebalanceType partition →
          rebalanceType = .partitionRevoked ∧
            gateway.partitionFSMs.lookup partition = none)
      (htopics : ∀ key, next.book.topics key = gateway.book.topics key)
      (hfsms : next.partitionFSMs = gateway.partitionFSMs)
      (heffects : effects = [])
  | created (partition : ℤ)
      (hevent : event = .rebalance .partitionAssigned partition)
      (hnew : gateway.partitionFSMs.lookup partition = none)
      (hbook : next.book = gateway.book)
      (hfsms : next.partitionFSMs =
        gateway.partitionFSMs.insert partition ⟨.downloading, []⟩)
      (heffects : effects =
        [.request (.object [("group", .string (platform.group partition)),
            ("destination_topic", .string platform.appId)])
          platform.syncDataRequestTopic,
        .entered partition .downloading])
  | rebalanced (rebalanceType : TopicAssignmentEvent) (partition : ℤ)
      (fsm after : Fsm) (out : List FsmOutput)
      (hevent : event = .rebalance rebalanceType partition)
      (hfsm : gateway.partitionFSMs.lookup partition = some fsm)
      (hrespond : fsm.respond rebalanceType.fsmEvent = .ok (after, out))
      (hbook : next.book = gateway.book)
      (hfsms : next.partitionFSMs =
        gateway.partitionFSMs.insert partition after)
      (heffects : effects = out.map (FsmOutput.effect partition))
  | booked (partition : ℤ) (msg : String) (isSub : Bool)
      (key destTopic : String) (fsm after : Fsm) (out : List FsmOutput)
      (hevent : event = .message partition (Platform.messageType isSub) msg)
      (hrequest : platform.subUnsubRequest isSub msg =
        .ok (some (key, destTopic)))
      (haccepted :
        (gateway.book.handleBookKeeping key destTopic isSub).1 = true)
      (hfsm : gateway.partitionFSMs.lookup partition = some fsm)
      (hrespond : fsm.respond (.subUnsub key isSub) = .ok (after, out))
      (hbook : next.book =
        (gateway.book.handleBookKeeping key destTopic isSub).2)
      (hfsms : next.partitionFSMs =
        gateway.partitionFSMs.insert partition after)
      (heffects : effects = out.map (FsmOutput.effect partition) ++
        [platform.syncDataUpdate partition key destTopic isSub])
  | responded (msg : String) (isLast : Bool) (dict : Json.Object)
      (group : String) (partition : ℤ) (fsm after : Fsm) (out : List FsmOutput)
      (hevent : event = .response msg isLast)
      (hparse : platform.responseObject msg = .ok dict)
      (hgroup : dict.cStrAt "group" = .ok group)
      (hpartition : Platform.groupPartition group = some partition)
      (hfsm : gateway.partitionFSMs.lookup partition = some fsm)
      (hrespond : fsm.respond
        (if isLast then .downloadEnd dict else .subscriptionRecord dict) =
          .ok (after, out))
      (hbook : next.book = gateway.book)
      (hfsms : next.partitionFSMs =
        gateway.partitionFSMs.insert partition after)
      (heffects : effects = out.map (FsmOutput.effect partition))

variable {platform : Platform} {gateway next : Gateway}
  {event : GatewayEvent} {effects : List Effect}

theorem handleEvent_eq_ok {partition : ℤ} {fsm : Fsm} {event : FsmEvent}
    (hsound : fsm.Sound)
    (hhandle : platform.handleEvent partition fsm event gateway =
      .ok (next, effects)) :
    ∃ after out, fsm.respond event = .ok (after, out) ∧
      next.book = gateway.book ∧
      next.partitionFSMs = gateway.partitionFSMs.insert partition after ∧
      effects = out.map (FsmOutput.effect partition) := by
  rw [Platform.handleEvent, handleEvent_eq_respond platform.engine hsound,
    map_eq_ok] at hhandle
  obtain ⟨⟨after, out⟩, hrespond, heq⟩ := hhandle
  obtain ⟨rfl, rfl⟩ := Prod.mk.inj heq
  exact ⟨after, out, hrespond, rfl, rfl, rfl⟩

theorem handled_rebalance {rebalanceType : TopicAssignmentEvent}
    {partition : ℤ} (hsound : gateway.Sound)
    (hhandle : platform.rebalanceCallback rebalanceType partition gateway =
      .ok (next, effects)) :
    Handled platform gateway (.rebalance rebalanceType partition) next
      effects := by
  cases hfsm : gateway.partitionFSMs.lookup partition with
  | none =>
      cases rebalanceType with
      | partitionAssigned =>
          simp only [Platform.rebalanceCallback, hfsm, Except.ok.injEq,
            Prod.mk.injEq] at hhandle
          obtain ⟨rfl, rfl⟩ := hhandle
          exact .created partition rfl hfsm rfl rfl rfl
      | partitionRevoked =>
          simp only [Platform.rebalanceCallback, hfsm, Except.ok.injEq,
            Prod.mk.injEq] at hhandle
          obtain ⟨rfl, rfl⟩ := hhandle
          refine .ignored ?_ (fun _ => rfl) rfl rfl
          intro otherType other heq
          obtain ⟨rfl, rfl⟩ := GatewayEvent.rebalance.inj heq
          exact ⟨rfl, hfsm⟩
  | some fsm =>
      have hhandled : platform.handleEvent partition fsm
          rebalanceType.fsmEvent gateway = .ok (next, effects) := by
        cases rebalanceType <;>
          simpa [Platform.rebalanceCallback, hfsm,
            TopicAssignmentEvent.fsmEvent] using hhandle
      obtain ⟨after, out, hrespond, hbook, hfsms, heffects⟩ :=
        handleEvent_eq_ok (hsound partition fsm hfsm) hhandled
      exact .rebalanced rebalanceType partition fsm after out rfl hfsm hrespond
        hbook hfsms heffects

/-- A bookkeeping that is refused leaves the topics as they were. -/
theorem topics_of_refused {book : RoutingBook} {key destTopic : String}
    {isSub : Bool}
    (hrefused : (book.handleBookKeeping key destTopic isSub).1 ≠ true)
    (other : String) :
    (book.handleBookKeeping key destTopic isSub).2.topics other =
      book.topics other := by
  rw [RoutingBook.bookKeeping_accepted] at hrefused
  rw [RoutingBook.topics_bookKeeping]
  by_cases heq : other = key
  · subst heq
    cases isSub with
    | true => simpa using hrefused
    | false => simpa using hrefused
  · rw [if_neg heq]

/-- An event that changes neither the topics nor a machine. -/
theorem handled_of_ignored (hevent : ∀ rebalanceType partition,
      event ≠ .rebalance rebalanceType partition)
    {book : RoutingBook}
    (htopics : ∀ key, book.topics key = gateway.book.topics key)
    (hhandle : (Except.ok ({ gateway with book := book }, []) :
      Except Thrown (Gateway × List Effect)) = .ok (next, effects)) :
    Handled platform gateway event next effects := by
  obtain ⟨rfl, rfl⟩ := Prod.mk.inj (Except.ok.inj hhandle)
  exact .ignored (fun _ _ heq => absurd heq (hevent _ _)) htopics rfl rfl

theorem handled_message {partition : ℤ} {msgType msg : String}
    (hsound : gateway.Sound)
    (hhandle : platform.msgCb partition msgType msg gateway =
      .ok (next, effects)) :
    Handled platform gateway (.message partition msgType msg) next
      effects := by
  rw [Platform.msgCb] at hhandle
  by_cases htype : msgType = "subscribe" ∨ msgType = "unsubscribe"
  · rw [if_pos htype] at hhandle
    cases hfsm : gateway.partitionFSMs.lookup partition with
    | none =>
        simp only [hfsm] at hhandle
        exact handled_of_ignored (by simp) (fun _ => rfl) hhandle
    | some fsm =>
        simp only [hfsm] at hhandle
        obtain ⟨request, hrequest, hhandle⟩ := bind_eq_ok.mp hhandle
        match request, hrequest, hhandle with
        | none, _, hhandle =>
            exact handled_of_ignored (by simp) (fun _ => rfl) hhandle
        | some (key, destTopic), hrequest, hhandle =>
            simp only at hhandle
            split at hhandle
            · next haccepted =>
                obtain ⟨answer, hanswer, heq⟩ := map_eq_ok.mp hhandle
                obtain ⟨rfl, rfl⟩ := Prod.mk.inj heq
                obtain ⟨after, out, hrespond, hbook, hfsms, heffects⟩ :=
                  handleEvent_eq_ok (hsound partition fsm hfsm) hanswer
                have hmsgType : msgType =
                    Platform.messageType (decide (msgType = "subscribe")) := by
                  by_cases hsub : msgType = "subscribe"
                  · simp [Platform.messageType, hsub]
                  · simp [Platform.messageType, htype.resolve_left hsub]
                exact .booked partition msg _ key destTopic fsm after out
                  (by rw [← hmsgType]) hrequest haccepted hfsm hrespond hbook
                  hfsms (by rw [heffects])
            · next hrefused =>
                exact handled_of_ignored (by simp) (topics_of_refused hrefused)
                  hhandle
  · rw [if_neg htype] at hhandle
    exact handled_of_ignored (by simp) (fun _ => rfl) hhandle

theorem handled_response {msg : String} {isLast : Bool}
    (hsound : gateway.Sound)
    (hhandle : platform.responseCb msg isLast gateway = .ok (next, effects)) :
    Handled platform gateway (.response msg isLast) next effects := by
  obtain ⟨dict, hparse, hhandle⟩ := bind_eq_ok.mp hhandle
  obtain ⟨group, hgroup, hhandle⟩ := bind_eq_ok.mp hhandle
  cases hpartition : Platform.groupPartition group with
  | none =>
      simp only [hpartition] at hhandle
      exact handled_of_ignored (by simp) (fun _ => rfl) hhandle
  | some partition =>
      simp only [hpartition] at hhandle
      cases hfsm : gateway.partitionFSMs.lookup partition with
      | none =>
          simp only [hfsm] at hhandle
          exact handled_of_ignored (by simp) (fun _ => rfl) hhandle
      | some fsm =>
          simp only [hfsm] at hhandle
          obtain ⟨after, out, hrespond, hbook, hfsms, heffects⟩ :=
            handleEvent_eq_ok (hsound partition fsm hfsm) hhandle
          exact .responded msg isLast dict group partition fsm after out rfl
            hparse hgroup hpartition hfsm hrespond hbook hfsms heffects

theorem handled_of_handle (hsound : gateway.Sound)
    (hhandle : platform.handle gateway event = .ok (next, effects)) :
    Handled platform gateway event next effects := by
  cases event with
  | rebalance rebalanceType partition => exact handled_rebalance hsound hhandle
  | message partition msgType msg => exact handled_message hsound hhandle
  | response msg isLast => exact handled_response hsound hhandle

section Message

variable {partition : ℤ} {isSub : Bool} {msg key destTopic : String} {fsm : Fsm}

/-- A message that changes nothing sends nothing. -/
theorem msgCb_of_refused
    (hfsm : gateway.partitionFSMs.lookup partition = some fsm)
    (hrequest : platform.subUnsubRequest isSub msg =
      .ok (some (key, destTopic)))
    (hrefused : (gateway.book.handleBookKeeping key destTopic isSub).1 ≠ true) :
    platform.msgCb partition (Platform.messageType isSub) msg gateway =
      .ok ({ gateway with
        book := (gateway.book.handleBookKeeping key destTopic isSub).2 }, [])
    := by
  simp [Platform.msgCb, Platform.messageType_known isSub, hfsm,
    Platform.decide_messageType, hrequest, Except.bind, hrefused]

/-- A message that changes the book goes to the machine and is reported. -/
theorem msgCb_of_accepted (hsound : fsm.Sound)
    (hfsm : gateway.partitionFSMs.lookup partition = some fsm)
    (hrequest : platform.subUnsubRequest isSub msg =
      .ok (some (key, destTopic)))
    (haccepted : (gateway.book.handleBookKeeping key destTopic isSub).1 = true)
    {after : Fsm} {out : List FsmOutput}
    (hrespond : fsm.respond (.subUnsub key isSub) = .ok (after, out)) :
    platform.msgCb partition (Platform.messageType isSub) msg gateway =
      .ok ({ book := (gateway.book.handleBookKeeping key destTopic isSub).2
             partitionFSMs := gateway.partitionFSMs.insert partition after },
        out.map (FsmOutput.effect partition) ++
          [platform.syncDataUpdate partition key destTopic isSub]) := by
  simp [Platform.msgCb, Platform.messageType_known isSub, hfsm,
    Platform.decide_messageType, hrequest, Except.bind, haccepted,
    Platform.handleEvent, handleEvent_eq_respond platform.engine hsound,
    hrespond, Except.map]

/-- A message on an operational partition, computed. -/
theorem msgCb_of_operational
    (hfsm : gateway.partitionFSMs.lookup partition = some fsm)
    (hoperational : fsm.state = .operational)
    (hrequest : platform.subUnsubRequest isSub msg =
      .ok (some (key, destTopic))) :
    platform.msgCb partition (Platform.messageType isSub) msg gateway =
      if (gateway.book.handleBookKeeping key destTopic isSub).1 then
        .ok ({ book := (gateway.book.handleBookKeeping key destTopic isSub).2
               partitionFSMs := gateway.partitionFSMs.insert partition fsm },
          [.control key (if isSub then .subRequest [] else .unsubRequest []),
            platform.syncDataUpdate partition key destTopic isSub])
      else
        .ok ({ gateway with
          book := (gateway.book.handleBookKeeping key destTopic isSub).2 },
          []) := by
  have hanswer : platform.engine.handleEvent fsm (.subUnsub key isSub) =
      .ok (fsm, [if isSub then .subFunc key else .unsubFunc key]) :=
    platform.engine.stays fsm _ _ (by
      obtain ⟨state, deferred⟩ := fsm
      obtain rfl : state = .operational := hoperational
      rfl)
  simp only [Platform.msgCb, if_pos (Platform.messageType_known isSub), hfsm,
    Platform.decide_messageType, hrequest, Except.bind, Platform.handleEvent,
    hanswer, Except.map]
  cases isSub <;> rfl

end Message

/-- Only a message about a pair changes whether it is booked. -/
theorem Handled.mem_topics_iff {key destTopic : String}
    (hhandled : Handled platform gateway event next effects)
    (hother : ∀ isSub, ¬ event.IsAbout platform isSub key destTopic) :
    destTopic ∈ next.book.topics key ↔ destTopic ∈ gateway.book.topics key := by
  cases hhandled with
  | ignored _ htopics => rw [htopics]
  | created _ _ _ hbook => rw [hbook]
  | rebalanced _ _ _ _ _ _ _ _ hbook => rw [hbook]
  | responded _ _ _ _ _ _ _ _ _ _ _ _ _ _ hbook => rw [hbook]
  | booked partition msg isSub otherKey otherTopic fsm after out hevent hrequest
      haccepted hfsm hrespond hbook =>
      have hpair : ¬ (otherKey = key ∧ otherTopic = destTopic) := by
        rintro ⟨rfl, rfl⟩
        exact hother isSub (hevent ▸ ⟨rfl, hrequest⟩)
      rw [hbook, RoutingBook.topics_bookKeeping]
      split
      · next hkey =>
          have hne : destTopic ≠ otherTopic :=
            fun heq => hpair ⟨hkey.symm, heq.symm⟩
          cases isSub <;> simp [hne, hkey]
      · exact Iff.rfl

/-- A message with a key changes the book as the bookkeeping does. -/
theorem msgCb_book {partition : ℤ} {fsm : Fsm} {isSub : Bool}
    {msg key destTopic : String}
    (hfsm : gateway.partitionFSMs.lookup partition = some fsm)
    (hrequest : platform.subUnsubRequest isSub msg =
      .ok (some (key, destTopic)))
    (hhandle : platform.msgCb partition (Platform.messageType isSub) msg
      gateway = .ok (next, effects)) :
    next.book = (gateway.book.handleBookKeeping key destTopic isSub).2 := by
  simp only [Platform.msgCb, if_pos (Platform.messageType_known isSub), hfsm,
    Platform.decide_messageType, hrequest, Except.bind] at hhandle
  split at hhandle
  · obtain ⟨answer, hanswer, heq⟩ := map_eq_ok.mp hhandle
    obtain ⟨rfl, -⟩ := Prod.mk.inj heq
    obtain ⟨delivered, -, rfl⟩ := map_eq_ok.mp hanswer
    rfl
  · obtain ⟨rfl, -⟩ := Prod.mk.inj (Except.ok.inj hhandle)
    rfl

/-- A response about a known partition goes to its machine. -/
theorem responseCb_of_partition {msg group : String} {isLast : Bool}
    {dict : Json.Object} {partition : ℤ} {fsm : Fsm}
    (hparse : platform.responseObject msg = .ok dict)
    (hgroup : dict.cStrAt "group" = .ok group)
    (hpartition : Platform.groupPartition group = some partition)
    (hfsm : gateway.partitionFSMs.lookup partition = some fsm) :
    platform.responseCb msg isLast gateway =
      platform.handleEvent partition fsm
        (if isLast then .downloadEnd dict else .subscriptionRecord dict)
        gateway := by
  simp [Platform.responseCb, hparse, hgroup, hpartition, hfsm, Except.bind]

theorem sound_initial : Gateway.initial.Sound := by
  intro partition fsm hfsm
  simp [Gateway.initial] at hfsm

theorem Gateway.Sound.insert (hsound : gateway.Sound) {partition : ℤ}
    {after : Fsm} (hafter : after.Sound)
    (hfsms : next.partitionFSMs =
      gateway.partitionFSMs.insert partition after) : next.Sound := by
  have heverywhere : Finmaps.Everywhere Fsm.Sound next.partitionFSMs := by
    rw [hfsms]
    exact Finmaps.Everywhere.insert hsound hafter
  exact heverywhere

/-- Every handler keeps the machines in reachable configurations. -/
theorem Handled.sound (hhandled : Handled platform gateway event next effects)
    (hsound : gateway.Sound) : next.Sound := by
  cases hhandled with
  | ignored _ _ hfsms =>
      intro partition fsm hfsm
      exact hsound partition fsm (hfsms ▸ hfsm)
  | created partition _ _ _ hfsms => exact hsound.insert sound_start hfsms
  | rebalanced _ partition fsm after _ _ hfsm hrespond _ hfsms =>
      exact hsound.insert ((hsound partition fsm hfsm).respond hrespond) hfsms
  | booked partition _ _ _ _ fsm after _ _ _ _ hfsm hrespond _ hfsms =>
      exact hsound.insert ((hsound partition fsm hfsm).respond hrespond) hfsms
  | responded _ _ _ _ partition fsm after _ _ _ _ _ hfsm hrespond _ hfsms =>
      exact hsound.insert ((hsound partition fsm hfsm).respond hrespond) hfsms

/-! ## Runs -/

/-- A gateway with everything it has handled and sent so far. -/
structure Record where
  gateway : Gateway
  handled : List GatewayEvent
  effects : List Effect

namespace Record

def start : Record := ⟨.initial, [], []⟩

/-- One callback.  A run stops at an exception.  `handleResponse` catches and
reports those of `responseCb`, and the gateway goes on; the state that a handler
that throws leaves `CPPFsm` in is not modelled. -/
def step (platform : Platform) (record : Record) (event : GatewayEvent) :
    Option Record :=
  match platform.handle record.gateway event with
  | .ok (next, sent) =>
      some ⟨next, record.handled ++ [event], record.effects ++ sent⟩
  | .error _ => none

theorem step_eq_some {platform : Platform} {record next : Record}
    {event : GatewayEvent} (hstep : step platform record event = some next) :
    ∃ sent,
      platform.handle record.gateway event = .ok (next.gateway, sent) ∧
      next.handled = record.handled ++ [event] ∧
      next.effects = record.effects ++ sent := by
  rw [step] at hstep
  split at hstep
  · next gateway sent hhandle =>
      obtain rfl := Option.some.inj hstep
      exact ⟨sent, hhandle, rfl, rfl⟩
  · exact absurd hstep (by simp)

theorem step_sound {platform : Platform} {record next : Record}
    {event : GatewayEvent} (hsound : record.gateway.Sound)
    (hstep : step platform record event = some next) : next.gateway.Sound := by
  obtain ⟨sent, hhandle, -⟩ := step_eq_some hstep
  exact (handled_of_handle hsound hhandle).sound hsound

theorem sound_of_run {platform : Platform} {record finish : Record}
    {events : List GatewayEvent} (hsound : record.gateway.Sound)
    (hrun : Runs.run (step platform) record events = some finish) :
    finish.gateway.Sound :=
  Runs.run_invariant (fun record => record.gateway.Sound)
    (fun _ _ _ hbefore hstep => step_sound hbefore hstep) hsound hrun

/-- A run handles its events. -/
theorem handled_eq {platform : Platform} {record finish : Record}
    {events : List GatewayEvent}
    (hrun : Runs.run (step platform) record events = some finish) :
    finish.handled = record.handled ++ events := by
  induction events generalizing record with
  | nil =>
      obtain rfl : record = finish := by simpa using hrun
      simp
  | cons event events ih =>
      rw [Runs.run_cons, Option.bind_eq_some_iff] at hrun
      obtain ⟨next, hstep, hrest⟩ := hrun
      obtain ⟨sent, -, hhandled, -⟩ := step_eq_some hstep
      rw [ih hrest, hhandled]
      simp

end Record

end MultiMarketPrices.PlatformComm
