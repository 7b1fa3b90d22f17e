import MultiMarketPrices.Core.FlatJson
import MultiMarketPrices.MiddleWare.Correlation
import MultiMarketPrices.PlatformComm.Downloads
import MultiMarketPrices.PlatformComm.Groups

/-!
# Gateways and the sync-data service

Any number of gateways ask one sync-data service, SDPMock.cpp, for the
subscriptions of their partitions.  What they write to each other is in flight
until the consumer of its topic takes it, and it can be taken in any order.

A step is a rebalance or a client's message at a gateway, or the delivery of a
record, through the middleware of the component that takes it.
-/

namespace MultiMarketPrices.SDPMock

open PlatformComm hiding Effect
open MiddleWare

/-! ## The mock's request handler -/

/-- What the mock answers for a group. -/
def answer (group : String) : Json :=
  Json.flat [("group", group), ("message_type", MessageType.response)]

/-- The request handler that `main` passes to the middleware. -/
def requestHandlerFunc (codec : Codec) (reqId : UInt64) (reqpayload : String)
    (pendingRequestBook : PendingRequestBook) :
    Except Thrown (PendingRequestBook × List Effect) :=
  (codec.parse reqpayload).bind fun value => value.asObject.bind fun obj =>
    (obj.cStrAt "group").map fun group =>
      (respond reqId (codec.serialize (answer group)) true
        pendingRequestBook).2

/-- What an effect of the middleware comes to at the mock: its handler is
called for a request, and its other callbacks only log. -/
def perform (codec : Codec) :
    PendingRequestBook × List ProducerRecord → Effect →
      Except Thrown (PendingRequestBook × List ProducerRecord)
  | (pendingRequestBook, records), .send record =>
      .ok (pendingRequestBook, records ++ [record])
  | (pendingRequestBook, records), .requestHandlerFunc reqId reqpayload =>
      (requestHandlerFunc codec reqId reqpayload pendingRequestBook).map
        fun outcome => (outcome.1, records ++ outcome.2.filterMap sent)
  | state, _ => .ok state

/-- The mock takes a message. -/
def onMessage (codec : Codec) (mock : Component) (message : Message)
    (pendingRequestBook : PendingRequestBook) :
    Except Thrown (PendingRequestBook × List ProducerRecord) :=
  let outcome := mock.refinedMsgCallback message pendingRequestBook
  outcome.2.foldlM (perform codec) (outcome.1, [])

/-! ## The network -/

/-- The text is made from a C string and has no separator of group
identifiers. -/
def Plain (text : String) : Prop :=
  ':' ∉ text.toList ∧ '\x00' ∉ text.toList

/-- What `int32_t` holds. -/
def InInt32 (partition : ℤ) : Prop :=
  -2 ^ 31 ≤ partition ∧ partition < 2 ^ 31

instance : DecidablePred InInt32 :=
  fun _ => inferInstanceAs (Decidable (_ ∧ _))

/-- Gateways with topics of their own, and a service on another topic. -/
structure Network (Member : Type*) where
  codec : Codec
  platform : Member → Platform
  description : Member → String
  mock : Component
  /-- `syncDataRequestTopic` -/
  topic : String
  parses (member : Member) : (platform member).parse = codec.parse
  asksOn (member : Member) : (platform member).syncDataRequestTopic = topic
  topic_ne : topic ≠ ""
  appId_ne (member : Member) : (platform member).appId ≠ ""
  appId_ne_topic (member : Member) : (platform member).appId ≠ topic
  appId_injective : Function.Injective fun member => (platform member).appId
  plain (member : Member) :
    Plain (platform member).appGroup ∧ Plain (platform member).inTopic

/-- A gateway with the book of its middleware. -/
structure Station where
  record : Record
  pendingRequestBook : PendingRequestBook

structure Traffic (Member : Type*) where
  stations : Member → Station
  mockBook : PendingRequestBook
  /-- sent on the service's topic or the topic of a gateway, and not taken -/
  inFlight : List ProducerRecord

inductive NetworkEvent (Member : Type*)
  /-- `rebalanceCallback`, with the number its request would get -/
  | rebalance (member : Member) (rebalanceType : TopicAssignmentEvent)
      (partition : ℤ) (reqId : UInt64)
  /-- `msgCb` -/
  | command (member : Member) (partition : ℤ) (msgType msg : String)
  /-- the mock takes a record of its topic -/
  | serve (place : ℕ) (partition offset : ℤ)
  /-- a gateway takes a record of its topic -/
  | receive (member : Member) (place : ℕ) (partition offset : ℤ)

namespace Network

variable {Member : Type*} (network : Network Member)

/-- What a gateway tells the middleware. -/
def component (member : Member) : Component :=
  ⟨(network.platform member).appId, network.description member, false⟩

/-- The records that an effect of a rebalance sends to the service. -/
def asked (member : Member) (reqId : UInt64) :
    PlatformComm.Effect → List ProducerRecord
  | .request payload targetTopic =>
      ((network.component member).requestFunc reqId none
        (network.codec.serialize payload) targetTopic).2.filterMap sent
  | _ => []

variable [DecidableEq Member]

/-- A callback at a gateway, and what it sent. -/
def act (member : Member) (event : GatewayEvent) (traffic : Traffic Member) :
    Option (Traffic Member × List PlatformComm.Effect) :=
  let station := traffic.stations member
  match (network.platform member).handle station.record.gateway event with
  | .ok (next, sent) =>
      some
        ({ traffic with
            stations := Function.update traffic.stations member
              { station with
                record := ⟨next, station.record.handled ++ [event],
                  station.record.effects ++ sent⟩ } },
          sent)
  | .error _ => none

/-- The callback of the platform side for an effect of the middleware, if it
has one. -/
def callback : Effect → Option GatewayEvent
  | .responseCallback _ msg isLast => some (.response msg isLast)
  | .msgCallback message =>
      some (.message message.partition message.msgType message.payload)
  | _ => none

/-- A gateway takes a message.  Only rebalances ask the service. -/
def onMessage (member : Member) (message : Message)
    (traffic : Traffic Member) : Option (Traffic Member) :=
  let station := traffic.stations member
  let outcome := (network.component member).refinedMsgCallback message
    station.pendingRequestBook
  (outcome.2.filterMap callback).foldlM
    (fun traffic event => (network.act member event traffic).map Prod.fst)
    { traffic with
      stations := Function.update traffic.stations member
        { station with pendingRequestBook := outcome.1 } }

def step (traffic : Traffic Member) :
    NetworkEvent Member → Option (Traffic Member)
  | .rebalance member rebalanceType partition reqId =>
      if InInt32 partition then
        (network.act member (.rebalance rebalanceType partition) traffic).map
          fun (next, sent) =>
            { next with inFlight :=
                next.inFlight ++ sent.flatMap (network.asked member reqId) }
      else none
  | .command member partition msgType msg =>
      (network.act member (.message partition msgType msg) traffic).map
        Prod.fst
  | .serve place partition offset =>
      match traffic.inFlight[place]? with
      | none => none
      | some record =>
          if record.topic = network.topic then
            match SDPMock.onMessage network.codec network.mock
              (record.message partition offset) traffic.mockBook with
            | .ok (mockBook, records) => some
                { traffic with
                  mockBook := mockBook
                  inFlight := traffic.inFlight.eraseIdx place ++ records }
            | .error _ => none
          else none
  | .receive member place partition offset =>
      match traffic.inFlight[place]? with
      | none => none
      | some record =>
          if record.topic = (network.platform member).appId then
            network.onMessage member (record.message partition offset)
              { traffic with inFlight := traffic.inFlight.eraseIdx place }
          else none

end Network

def Traffic.start (Member : Type*) : Traffic Member where
  stations _ := ⟨.start, ∅⟩
  mockBook := ∅
  inFlight := []

end MultiMarketPrices.SDPMock
