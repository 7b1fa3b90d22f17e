import MultiMarketPrices.Binance.Malformed

/-!
# The list of the instruments

The responder goes through `symbolStore` and calls the callback of the request
for each symbol, and once more at the end.  Each call passes two books that know
the request, and only the last one strikes it from both.
-/

namespace MultiMarketPrices.Binance

open MiddleWare PlatformComm Routers

namespace MDGateway

/-- The message is a request for the instruments under the number, without a
request type and with a topic to answer on. -/
structure AsksInstruments (parse : String → Except Thrown Json)
    (message : Message) (reqId : UInt64) (destTopic : String) : Prop where
  hmsgType : message.msgType = MessageType.request
  hreqId : ∃ text, message.headers.lookup HeaderKey.reqId = some text ∧
    Text.stoull text = .ok reqId
  hdestTopic : message.headers.lookup HeaderKey.destTopic = some destTopic
  htopic : destTopic ≠ ""
  hreqType : message.headers.lookup HeaderKey.reqType = none
  hasks : Asks parse message.payload .instrumentList

/-- The records of the store in the order of its iteration, and an empty last
one. -/
def instrumentResponses (destTopic : String) (reqId : UInt64)
    (symbolStore : List (String × String)) : List ProducerRecord :=
  (symbolStore.map fun details =>
    responseRecord destTopic reqId details.2 false) ++
    [responseRecord destTopic reqId "" true]

variable {parse : String → Except Thrown Json} {message : Message}
  {reqId : UInt64} {destTopic : String}

/-- A request that `requestFunc` sends has a topic to answer on. -/
theorem asksInstruments_of_requestFunc {request : MiddleWare.Request}
    (hsent : .send request.record ∈ (request.component.requestFunc
      request.reqId request.reqType request.payload request.targetTopic).2)
    (hreqType : request.reqType = none)
    (hasks : Asks parse request.payload .instrumentList)
    (partition offset : ℤ) :
    AsksInstruments parse (request.record.message partition offset)
      request.reqId request.component.appId where
  hmsgType := by simp [ProducerRecord.message, MiddleWare.Request.record]
  hreqId := by
    refine ⟨Text.ofUInt64 request.reqId, ?_, Text.stoull_ofUInt64 _⟩
    simp [ProducerRecord.message, MiddleWare.Request.record, requestHeaders,
      hreqType]
  hdestTopic := by
    simp [ProducerRecord.message, MiddleWare.Request.record, requestHeaders,
      hreqType]
  htopic := (mem_requestFunc hsent).1
  hreqType := by
    simp [ProducerRecord.message, MiddleWare.Request.record, requestHeaders,
      hreqType]
  hasks := hasks

/-- The middleware enters the request and passes it on. -/
theorem AsksInstruments.handleRequest
    (hasks : AsksInstruments parse message reqId destTopic)
    {pendingRequestBook : PendingRequestBook}
    (hbook : reqId ∉ pendingRequestBook) :
    MiddleWare.handleRequest message pendingRequestBook =
      (true, pendingRequestBook.insert reqId destTopic,
        [.requestHandlerFunc reqId message.payload]) := by
  obtain ⟨text, htext, hread⟩ := hasks.hreqId
  simp [MiddleWare.handleRequest, admitRequest, hasks.hmsgType, htext, hread,
    hbook, hasks.hdestTopic, hasks.hreqType]

/-- The platform asks the router for the list. -/
theorem requestHandler_of_instruments {payLoad : String}
    (hasks : Asks parse payLoad .instrumentList) (reqId : UInt64) :
    requestHandler parse reqId payLoad =
      .ok (some (handleInstrumentListRequest reqId)) := by
  obtain ⟨asked, hasked, hreqType⟩ := requestHandler_of_asks hasks reqId
  rcases (asks_of_requestHandler hasked).2 with rfl | ⟨priceType, symbol, rfl⟩
  · exact hasked
  · cases priceType <;> cases hreqType

/-- The responder gives the records and the empty last one. -/
theorem responder_instruments (serialize : Json.Object → String)
    (symbolStore : List (String × String)) (router : MDReqResRouter)
    (reqId : UInt64) (client : RestApi.RestClient) :
    responder serialize symbolStore
        (RequestGateway.accepted router (handleInstrumentListRequest reqId))
        client =
      ⟨client,
        ((symbolStore.map fun details =>
          MDRespVariant.instrumentRecord details.2).map fun response =>
            (false, response)) ++ [(true, .instrumentRecord "")], none⟩ := by
  simp [responder, RequestGateway.accepted, handleInstrumentListRequest]

/-- A request that the router has not seen is answered in full while no
responder is called. -/
theorem request_instruments (serialize : Json.Object → String)
    (gateway : RequestGateway) (hserving : gateway.router.Serving)
    (hreturned : ∀ callback ∈ gateway.router.callbacks,
      ¬ callback.IsResponder)
    (hresponder : .instrumentList ∈ gateway.router.responders)
    (hbook : gateway.pendingRequestBook.lookup reqId = some destTopic)
    (hfresh : reqId ∉ gateway.router.pendingReqIds)
    (htopic : destTopic ≠ "") :
    ∃ log, gateway.request serialize (handleInstrumentListRequest reqId) =
      (gateway.answered (handleInstrumentListRequest reqId) log
        ((instrumentResponses destTopic reqId gateway.symbolStore).map
          .send), none) := by
  have hidle := (hserving.settled hreturned).2.1
  have hpayloads : ∀ response ∈ (gateway.symbolStore.map fun details =>
      MDRespVariant.instrumentRecord details.2) ++ [.instrumentRecord ""],
      ∃ payload, ResponseHandler.instrumentList.payload serialize response =
        some payload := by
    intro response hmem
    rcases List.mem_append.mp hmem with hrecord | hlast
    · obtain ⟨details, -, rfl⟩ := List.mem_map.mp hrecord
      exact ⟨details.2, rfl⟩
    · obtain rfl := List.mem_singleton.mp hlast
      exact ⟨"", rfl⟩
  obtain ⟨log, hafter⟩ := RequestGateway.request_answered
    (handleInstrumentListRequest reqId) hserving hresponder hbook hfresh hidle
    (responder_instruments serialize gateway.symbolStore gateway.router reqId
      gateway.client) hpayloads
  refine ⟨log, hafter.trans ?_⟩
  rw [RequestGateway.responsesTo_of_topic htopic]
  simp [instrumentResponses, RequestGateway.accepted,
    handleInstrumentListRequest, ResponseHandler.payload, Function.comp_def]

/-- A request for the instruments that is new to the middleware and the router
is answered, on the topic it names and before its handler returns, with each
record of the store and then one last response.  Its number is then in neither
book. -/
theorem instruments_listed (platform : Platform)
    (serialize : Json.Object → String) (component : Component)
    (gateway : MDGateway)
    (routerEvents : List (RouterEvent MDReqType UInt64
      (MDReqVariant × ResponseHandler) MDRespVariant))
    (hrouter : Runs.run ReqRespRouter.step ReqRespRouter.init routerEvents =
      some gateway.requests.router)
    (hreturned : ∀ callback ∈ gateway.requests.router.callbacks,
      ¬ callback.IsResponder)
    (hresponder : .instrumentList ∈ gateway.requests.router.responders)
    (message : Message) (reqId : UInt64) (destTopic : String)
    (hasks : AsksInstruments platform.parse message reqId destTopic)
    (hbook : reqId ∉ gateway.requests.pendingRequestBook)
    (hfresh : reqId ∉ gateway.requests.router.pendingReqIds) :
    ∃ listed, gateway.onMessage platform serialize component message =
        (listed, false) ∧
      listed.requests.effects = gateway.requests.effects ++
        (instrumentResponses destTopic reqId
          gateway.requests.symbolStore).map .send ∧
      reqId ∉ listed.requests.pendingRequestBook ∧
      reqId ∉ listed.requests.router.pendingReqIds := by
  have hserving : gateway.requests.router.Serving :=
    Runs.run_invariant ReqRespRouter.Serving
      (fun _ _ _ hbefore hstep => hbefore.step hstep)
      ReqRespRouter.serving_init hrouter
  obtain ⟨log, hlisted⟩ := request_instruments serialize
    { gateway.requests with
      pendingRequestBook :=
        gateway.requests.pendingRequestBook.insert reqId destTopic }
    hserving hreturned hresponder (Finmap.lookup_insert _) hfresh hasks.htopic
  simp only [onMessage, refinedMsgCallback_request component _ hasks.hmsgType,
    hasks.handleRequest hbook, deliver, RequestGateway.handle,
    requestHandler_of_instruments hasks.hasks, hlisted, if_true]
  exact ⟨_, rfl, rfl, Finmap.notMem_erase_self, Finmap.notMem_erase_self⟩

/-- Request 7 of a client for the instruments. -/
def instrumentRequest : MiddleWare.Request where
  component := ⟨"client", "", false⟩
  reqId := 7
  reqType := none
  payload := "instruments"
  targetTopic := "in"

/-- A platform that can parse it. -/
def instrumentPlatform : Platform :=
  .ofTexts keyGenFunc keyDisintegrationFunc
    [("instruments", .object [("message_type", .string "instrument_request")])]

/-- A gateway with two symbols. -/
def twoSymbols : MDGateway :=
  { assigned with
    requests := { assigned.requests with
      symbolStore := [("BTCUSDT", "bitcoin"), ("ETHUSDT", "ether")] } }

theorem instruments_listed_of_twoSymbols :
    ∃ listed, twoSymbols.onMessage instrumentPlatform (fun _ => "")
        gatewayComponent (instrumentRequest.record.message 0 0) =
          (listed, false) ∧
      listed.requests.effects =
        [.send (responseRecord "client" 7 "bitcoin" false),
          .send (responseRecord "client" 7 "ether" false),
          .send (responseRecord "client" 7 "" true)] ∧
      7 ∉ listed.requests.pendingRequestBook ∧
      7 ∉ listed.requests.router.pendingReqIds := by
  have hsent : .send instrumentRequest.record ∈
      (instrumentRequest.component.requestFunc instrumentRequest.reqId
        instrumentRequest.reqType instrumentRequest.payload
        instrumentRequest.targetTopic).2 := List.mem_singleton.mpr rfl
  exact instruments_listed instrumentPlatform (fun _ => "") gatewayComponent
    twoSymbols RequestGateway.registering rfl (by decide) (by decide) _ 7
    "client"
    (asksInstruments_of_requestFunc hsent rfl (.instrumentList _ rfl rfl) 0 0)
    (by decide) (by decide)

end MDGateway

end MultiMarketPrices.Binance
