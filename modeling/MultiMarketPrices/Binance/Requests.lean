import MultiMarketPrices.Binance.Snapshots
import MultiMarketPrices.MiddleWare.Correlation
import MultiMarketPrices.Routers.ServedInOrder

/-!
# Whether a request is answered or waits to be

A request that the middleware has accepted is held in two places: its number is
in the book of the middleware, and, once it is passed on, in the request router
with the callback of a responder.  The three responders of the gateway answer at
once, or leave a snapshot to the REST client.

A request that is not passed on stays in the book, where no answer will remove
it.
-/

namespace MultiMarketPrices.Binance

open MiddleWare PlatformComm RestApi Routers

abbrev MDReqResRouter :=
  GenericReqRespRouter MDReqType UInt64 (MDReqVariant × ResponseHandler)
    MDRespVariant

abbrev MDRequest := Routers.Request MDReqType UInt64
  (MDReqVariant × ResponseHandler)

/-- The responders that `onGatewayConnected` registers: what they answer at
once.  `std::get` throws for the request of another type. -/
def responder (serialize : Json.Object → String)
    (symbolStore : List (String × String)) (request : MDRequest)
    (client : RestClient) : SnapshotOutcome :=
  match request.route, request.reqData.1 with
  | .tradeSnapshot, .tradeSnapshotRequest symbol =>
      getSnapshot serialize symbol .trade client
  | .depthSnapshot, .depthSnapshotRequest symbol =>
      getSnapshot serialize symbol .depth client
  | .instrumentList, _ =>
      ⟨client,
        (symbolStore.map fun details =>
          (false, .instrumentRecord details.2)) ++
          [(true, .instrumentRecord "")],
        none⟩
  | _, _ => ⟨client, [], some .kind⟩

structure RequestGateway where
  pendingRequestBook : PendingRequestBook
  router : MDReqResRouter
  client : RestClient
  /-- in the order of its iteration -/
  symbolStore : List (String × String)
  /-- what the middleware has handed over -/
  effects : List MiddleWare.Effect

namespace RequestGateway

/-- The handler of the responses to a request. -/
def handleResponse (serialize : Json.Object → String) (request : MDRequest)
    (isLast : Bool) (response : MDRespVariant) (gateway : RequestGateway) :
    RequestGateway :=
  match request.reqData.2.payload serialize response with
  | none => gateway
  | some payload =>
      let answer := MiddleWare.respond request.reqId payload isLast
        gateway.pendingRequestBook
      { gateway with
        pendingRequestBook := answer.2.1
        effects := gateway.effects ++ answer.2.2 }

/-- The innermost callback of the router returns. -/
def returned (gateway : RequestGateway) : RequestGateway :=
  { gateway with
    router := (gateway.router.step .returns).getD gateway.router }

/-- The callback that the responder of a request was given is called. -/
def callBack (serialize : Json.Object → String) (request : MDRequest)
    (gateway : RequestGateway) (answer : Bool × MDRespVariant) :
    RequestGateway :=
  let called := { gateway with
    router := gateway.router.respond request answer.1 answer.2 }
  if request.reqId ∈ gateway.router.pendingReqIds then
    (called.handleResponse serialize request answer.1 answer.2).returned
  else called

/-- The responders run that the router calls until it returns to where `outer`
callbacks are under way; an exception leaves them all. -/
def serve (serialize : Json.Object → String) (outer : ℕ) :
    ℕ → RequestGateway → RequestGateway × Option Thrown
  | 0, gateway => (gateway, none)
  | fuel + 1, gateway =>
      match gateway.router.callbacks with
      | .responder request _ :: rest =>
          if rest.length < outer then (gateway, none)
          else
            let outcome := responder serialize gateway.symbolStore request
              gateway.client
            let answered := outcome.responses.foldl (callBack serialize request)
              { gateway with client := outcome.client }
            if outcome.thrown = none then
              serve serialize outer fuel answered.returned
            else
              ({ answered with router := { answered.router with
                callbacks := rest.drop (rest.length - outer) } },
                outcome.thrown)
      | _ => (gateway, none)

/-- `reqResMethods.request`; there are as many responders to call as requests
that have not been forwarded. -/
def request (serialize : Json.Object → String) (asked : RouterRequest)
    (gateway : RequestGateway) : RequestGateway × Option Thrown :=
  let router := (gateway.router.request asked.reqId asked.reqType
    (asked.reqData, asked.responseHandler)).2
  serve serialize gateway.router.callbacks.length
    (router.accepted.length - router.forwarded.length + 1)
    { gateway with router := router }

/-- The request handler of the gateway, until it returns or is left by an
exception. -/
def handle (parse : String → Except Thrown Json)
    (serialize : Json.Object → String) (reqId : UInt64) (payLoad : String)
    (gateway : RequestGateway) : RequestGateway × Option Thrown :=
  match requestHandler parse reqId payLoad with
  | .error thrown => (gateway, some thrown)
  | .ok none => (gateway, none)
  | .ok (some asked) => gateway.request serialize asked

/-! ## What is not abandoned -/

/-- The number is pending in the router, and a responder was called for it or
waits to be. -/
def Awaited (router : MDReqResRouter) (reqId : UInt64) : Prop :=
  ∃ request : MDRequest,
    router.pendingReqIds.lookup reqId = some request.ticket ∧
      (request ∈ router.held ∨
        (request ∈ router.pendingReqProcessors ∧
          request.route ∈ router.responders))

/-- The request has had its last response, or awaits one. -/
inductive Kept (reqId : UInt64) (destTopic : String)
    (before after : RequestGateway) : Prop
  | answered (effects : List MiddleWare.Effect) (respPayload : String)
      (heffects : after.effects = before.effects ++ effects)
      (hsent : .send (responseRecord destTopic reqId respPayload true) ∈
        effects)
      (hgone : reqId ∉ after.pendingRequestBook)
  | awaited (hawaited : Awaited after.router reqId)

/-- The responder of the type is called at once, and answers at once. -/
def AnswersAtOnce (gateway : RequestGateway) (reqType : MDReqType) : Prop :=
  gateway.router.reqPending = false ∧
    (reqType = .instrumentList ∨ gateway.client.connected = false)

/-! ## Answers that are given at once -/

variable {serialize : Json.Object → String} {request : MDRequest}
  {destTopic : String}

/-- What one answer changes, as far as the request is concerned. -/
theorem callBack_of_pending {gateway : RequestGateway} {entry : ℕ}
    {response : MDRespVariant} {payload : String}
    (hentry : gateway.router.pendingReqIds.lookup request.reqId = some entry)
    (hbook : gateway.pendingRequestBook.lookup request.reqId = some destTopic)
    (hpayload : request.reqData.2.payload serialize response = some payload)
    (isLast : Bool) :
    ∃ log, callBack serialize request gateway (isLast, response) =
      { gateway with
        pendingRequestBook :=
          if isLast then gateway.pendingRequestBook.erase request.reqId
          else gateway.pendingRequestBook
        effects := gateway.effects ++
          (producerFunc destTopic MessageType.response "Null" payload
            (responseHeaders request.reqId isLast)).2
        router := { gateway.router with
          pendingReqIds :=
            if isLast then gateway.router.pendingReqIds.erase request.reqId
            else gateway.router.pendingReqIds
          log := log } } := by
  have hmem : request.reqId ∈ gateway.router.pendingReqIds :=
    Finmap.mem_iff.mpr ⟨entry, hentry⟩
  cases isLast with
  | false =>
      refine ⟨gateway.router.log ++
        [.handled request.ticket false response], ?_⟩
      simp [callBack, hmem, ReqRespRouter.respond, hentry, handleResponse,
        hpayload, MiddleWare.respond, hbook, returned, ReqRespRouter.step,
        ReqRespRouter.finish]
  | true =>
      refine ⟨gateway.router.log ++
        [.handled request.ticket true response,
          .removed entry request.ticket], ?_⟩
      simp [callBack, hmem, ReqRespRouter.respond, hentry, handleResponse,
        hpayload, MiddleWare.respond, hbook, returned, ReqRespRouter.step,
        ReqRespRouter.finish, ReqRespRouter.eraseEntry]

/-- What the handler of the responses to a request hands over. -/
def responsesTo (serialize : Json.Object → String) (request : MDRequest)
    (destTopic : String) (answers : List (Bool × MDRespVariant)) :
    List MiddleWare.Effect :=
  answers.flatMap fun answer =>
    (producerFunc destTopic MessageType.response "Null"
      ((request.reqData.2.payload serialize answer.2).getD "")
      (responseHeaders request.reqId answer.1)).2

theorem foldl_callBack_updates {gateway : RequestGateway} {entry : ℕ}
    (hentry : gateway.router.pendingReqIds.lookup request.reqId = some entry)
    (hbook : gateway.pendingRequestBook.lookup request.reqId = some destTopic)
    (responses : List MDRespVariant)
    (hpayloads : ∀ response ∈ responses, ∃ payload,
      request.reqData.2.payload serialize response = some payload) :
    ∃ log,
      (responses.map fun response => (false, response)).foldl
          (callBack serialize request) gateway =
        { gateway with
          effects := gateway.effects ++ responsesTo serialize request destTopic
            (responses.map fun response => (false, response))
          router := { gateway.router with log := log } } := by
  induction responses generalizing gateway with
  | nil =>
      refine ⟨gateway.router.log, ?_⟩
      simp [responsesTo]
  | cons response responses ih =>
      rw [List.forall_mem_cons] at hpayloads
      obtain ⟨⟨payload, hpayload⟩, hrest⟩ := hpayloads
      obtain ⟨log, hfirst⟩ :=
        callBack_of_pending hentry hbook hpayload false
      rw [List.map_cons, List.foldl_cons, hfirst]
      have hentry' : ({ gateway with
          effects := gateway.effects ++
            (producerFunc destTopic MessageType.response "Null" payload
              (responseHeaders request.reqId false)).2
          router := { gateway.router with log := log } } :
            RequestGateway).router.pendingReqIds.lookup request.reqId =
          some entry := hentry
      obtain ⟨log', hfold⟩ := ih hentry' hbook hrest
      refine ⟨log', hfold.trans ?_⟩
      simp [responsesTo, hpayload, List.append_assoc]

/-- A request that is answered at once is gone from both places. -/
theorem foldl_callBack_all {gateway : RequestGateway} {entry : ℕ}
    (hentry : gateway.router.pendingReqIds.lookup request.reqId = some entry)
    (hbook : gateway.pendingRequestBook.lookup request.reqId = some destTopic)
    (responses : List MDRespVariant) (last : MDRespVariant)
    (hpayloads : ∀ response ∈ responses ++ [last], ∃ payload,
      request.reqData.2.payload serialize response = some payload) :
    ∃ log,
      ((responses.map fun response => (false, response)) ++
          [(true, last)]).foldl (callBack serialize request) gateway =
        { gateway with
          pendingRequestBook :=
            gateway.pendingRequestBook.erase request.reqId
          effects := gateway.effects ++ responsesTo serialize request destTopic
            ((responses.map fun response => (false, response)) ++
              [(true, last)])
          router := { gateway.router with
            pendingReqIds := gateway.router.pendingReqIds.erase request.reqId
            log := log } } := by
  obtain ⟨log, hfold⟩ := foldl_callBack_updates hentry hbook
    responses fun response hmem =>
      hpayloads response (List.mem_append_left _ hmem)
  obtain ⟨payload, hpayload⟩ := hpayloads last (by simp)
  rw [List.foldl_append, hfold, List.foldl_cons, List.foldl_nil]
  have hentry' : ({ gateway with
      effects := gateway.effects ++ responsesTo serialize request destTopic
        (responses.map fun response => (false, response))
      router := { gateway.router with log := log } } :
        RequestGateway).router.pendingReqIds.lookup request.reqId =
      some entry := hentry
  obtain ⟨log', hlast⟩ := callBack_of_pending hentry' hbook hpayload true
  refine ⟨log', hlast.trans ?_⟩
  simp [responsesTo, hpayload, List.append_assoc]

/-- Nothing is sent to no topic. -/
theorem responsesTo_empty_topic (answers : List (Bool × MDRespVariant)) :
    responsesTo serialize request "" answers = [] := by
  simp [responsesTo, producerFunc]

/-- Every response is sent to the topic that there is. -/
theorem responsesTo_of_topic (htopic : destTopic ≠ "")
    (answers : List (Bool × MDRespVariant)) :
    responsesTo serialize request destTopic answers =
      answers.map fun answer => .send (responseRecord destTopic request.reqId
        ((request.reqData.2.payload serialize answer.2).getD "") answer.1) := by
  rw [responsesTo, ← List.flatMap_pure_eq_map]
  apply List.flatMap_congr
  intro answer _
  rw [producerFunc_ok _ _ htopic (by decide) (by decide)]
  rfl

/-! ## What a responder does with a request -/

/-- The request that the router makes of what is asked. -/
def accepted (router : MDReqResRouter) (asked : RouterRequest) : MDRequest :=
  ⟨router.accepted.length, asked.reqId, asked.reqType,
    (asked.reqData, asked.responseHandler)⟩

variable {parse : String → Except Thrown Json} {reqId : UInt64}
  {payLoad : String} {asked : RouterRequest}

variable (serialize) in
/-- A snapshot of a connected client comes later. -/
theorem responder_later
    (hasked : requestHandler parse reqId payLoad = .ok (some asked))
    (hprice : asked.reqType ≠ .instrumentList) (router : MDReqResRouter)
    (symbolStore : List (String × String)) {client : RestClient}
    (hconnected : client.connected = true) :
    ∃ launched, responder serialize symbolStore (accepted router asked)
      client = ⟨launched, [], none⟩ := by
  rcases (asks_of_requestHandler hasked).2 with rfl | ⟨priceType, symbol, rfl⟩
  · exact absurd rfl hprice
  · cases priceType with
    | depth =>
        exact ⟨launch ⟨Text.upper symbol, .depth⟩ client, by
          simp [responder, accepted, priceRequest, getSnapshot, hconnected]⟩
    | trade =>
        exact ⟨launch ⟨Text.upper symbol, .trade⟩ client, by
          simp [responder, accepted, priceRequest, getSnapshot, hconnected]⟩

variable (serialize) in
/-- The list of the instruments, and the snapshot of a client that is not
connected, are given at once, and every response has a payload. -/
theorem responder_at_once
    (hasked : requestHandler parse reqId payLoad = .ok (some asked))
    (router : MDReqResRouter) (symbolStore : List (String × String))
    {client : RestClient}
    (hatOnce : asked.reqType = .instrumentList ∨ client.connected = false) :
    ∃ responses last,
      responder serialize symbolStore (accepted router asked) client =
        ⟨client, (responses.map fun response => (false, response)) ++
          [(true, last)], none⟩ ∧
      ∀ response ∈ responses ++ [last], ∃ payload,
        (accepted router asked).reqData.2.payload serialize response =
          some payload := by
  rcases (asks_of_requestHandler hasked).2 with rfl | ⟨priceType, symbol, rfl⟩
  · refine ⟨symbolStore.map fun details => .instrumentRecord details.2,
      .instrumentRecord "", ?_, ?_⟩
    · simp [responder, accepted, handleInstrumentListRequest]
    · intro response hmem
      obtain ⟨record, rfl⟩ : ∃ record, response = .instrumentRecord record := by
        rcases List.mem_append.mp hmem with hrecords | hlast
        · obtain ⟨details, -, rfl⟩ := List.mem_map.mp hrecords
          exact ⟨details.2, rfl⟩
        · exact ⟨"", List.mem_singleton.mp hlast⟩
      exact ⟨record, rfl⟩
  · have hconnected : client.connected = false := by
      rcases hatOnce with hlist | hconnected
      · cases priceType <;> cases hlist
      · exact hconnected
    refine ⟨[], .nullSnapShot, ?_, ?_⟩
    · cases priceType <;>
        simp [responder, accepted, priceRequest, getSnapshot, hconnected,
          Binance.callBack, SnapshotRequest.callback]
    · intro response hmem
      obtain rfl := List.mem_singleton.mp hmem
      exact ⟨_, rfl⟩

/-! ## The router takes the request -/

theorem serve_of_length_le {outer : ℕ} {gateway : RequestGateway}
    (hreturned : gateway.router.callbacks.length ≤ outer) (fuel : ℕ) :
    serve serialize outer fuel gateway = (gateway, none) := by
  cases fuel with
  | zero => rfl
  | succ fuel =>
      simp only [serve]
      split
      · next request queued rest hcallbacks =>
          rw [hcallbacks, List.length_cons] at hreturned
          rw [if_pos (by omega)]
      · rfl

variable {gateway : RequestGateway}

/-- A number that is pending is refused. -/
theorem request_of_pending
    (hpending : asked.reqId ∈ gateway.router.pendingReqIds) :
    gateway.request serialize asked = (gateway, none) := by
  have hrefused : (gateway.router.request asked.reqId asked.reqType
      (asked.reqData, asked.responseHandler)).2 = gateway.router := by
    rw [ReqRespRouter.request, if_pos hpending]
  simp only [request, hrefused]
  exact serve_of_length_le le_rfl _

/-- While a responder is called, a new request waits. -/
theorem request_of_busy
    (hfresh : asked.reqId ∉ gateway.router.pendingReqIds)
    (hbusy : gateway.router.reqPending = true) :
    gateway.request serialize asked =
      ({ gateway with router := { gateway.router with
          pendingReqIds := gateway.router.pendingReqIds.insert asked.reqId
            gateway.router.accepted.length
          accepted := gateway.router.accepted ++
            [accepted gateway.router asked]
          pendingReqProcessors := gateway.router.pendingReqProcessors ++
            [accepted gateway.router asked] } }, none) := by
  have hqueued : (gateway.router.request asked.reqId asked.reqType
      (asked.reqData, asked.responseHandler)).2 = { gateway.router with
        pendingReqIds := gateway.router.pendingReqIds.insert asked.reqId
          gateway.router.accepted.length
        accepted := gateway.router.accepted ++ [accepted gateway.router asked]
        pendingReqProcessors := gateway.router.pendingReqProcessors ++
          [accepted gateway.router asked] } := by
    rw [ReqRespRouter.request, if_neg hfresh, if_pos hbusy]
    rfl
  simp only [request, hqueued]
  apply serve_of_length_le
  exact le_rfl

/-- The gateway once the responder of a request is called. -/
def called (gateway : RequestGateway) (asked : RouterRequest) :
    RequestGateway :=
  { gateway with router := { gateway.router with
      reqPending := true
      pendingReqIds := gateway.router.pendingReqIds.insert asked.reqId
        gateway.router.accepted.length
      callbacks := .responder (accepted gateway.router asked) false ::
        gateway.router.callbacks
      accepted := gateway.router.accepted ++ [accepted gateway.router asked]
      forwarded := gateway.router.forwarded ++ [accepted gateway.router asked]
      held := gateway.router.held ++ [accepted gateway.router asked] } }

/-- Otherwise its responder is called, and the router returns when it does. -/
theorem request_of_idle (hserving : gateway.router.Serving)
    (hfresh : asked.reqId ∉ gateway.router.pendingReqIds)
    (hidle : gateway.router.reqPending = false)
    (hresponder : asked.reqType ∈ gateway.router.responders)
    {outcome : SnapshotOutcome}
    (houtcome : responder serialize gateway.symbolStore
      (accepted gateway.router asked) gateway.client = outcome)
    (hreturns : outcome.thrown = none) :
    gateway.request serialize asked =
      ((outcome.responses.foldl
        (callBack serialize (accepted gateway.router asked))
        { called gateway asked with client := outcome.client }).returned,
        none) := by
  have hforwarded := (hserving.idle_of_flag hidle).2
  have hcalled : (gateway.router.request asked.reqId asked.reqType
      (asked.reqData, asked.responseHandler)).2 =
        (called gateway asked).router := by
    simp [ReqRespRouter.request, hfresh, hidle, hresponder,
      ReqRespRouter.forward, called, accepted]
  have hfuel : (called gateway asked).router.accepted.length -
      (called gateway asked).router.forwarded.length + 1 = 1 := by
    simp [called, hforwarded]
  simp only [request, hcalled, hfuel]
  have hcallbacks : (called gateway asked).router.callbacks =
      .responder (accepted gateway.router asked) false ::
        gateway.router.callbacks := rfl
  simp only [serve, hcallbacks, lt_irrefl, if_false]
  rw [houtcome, if_pos hreturns]
  rfl

/-- The responder returns, and nothing has been waiting. -/
theorem returned_of_called {after : RequestGateway}
    {callbacks : List (Callback MDReqType UInt64
      (MDReqVariant × ResponseHandler))} {request : MDRequest}
    (hcallbacks : after.router.callbacks =
      .responder request false :: callbacks)
    (hqueue : after.router.pendingReqProcessors = []) :
    after.returned = { after with router := { after.router with
      reqPending := false
      callbacks := callbacks
      pendingReqProcessors := [] } } := by
  simp [returned, ReqRespRouter.step, hcallbacks, ReqRespRouter.finish, hqueue,
    ReqRespRouter.drain]

/-! ## Every exit of the handler -/

theorem not_kept_of_effects {before after : RequestGateway}
    (hsame : after.effects = before.effects)
    (hlost : ¬ Awaited after.router reqId) :
    ¬ Kept reqId destTopic before after := by
  intro hkept
  cases hkept with
  | awaited hawaited => exact hlost hawaited
  | answered effects respPayload heffects hsent hgone =>
      rw [hsame, List.self_eq_append_right] at heffects
      rw [heffects] at hsent
      exact absurd hsent List.not_mem_nil

theorem reqId_of_requestHandler
    (hasked : requestHandler parse reqId payLoad = .ok (some asked)) :
    asked.reqId = reqId := by
  rcases (asks_of_requestHandler hasked).2 with rfl | ⟨priceType, symbol, rfl⟩
  · rfl
  · rfl

/-- A request that waits for another responder awaits its own. -/
theorem request_busy (hresponder : asked.reqType ∈ gateway.router.responders)
    (hfresh : asked.reqId ∉ gateway.router.pendingReqIds)
    (hbusy : gateway.router.reqPending = true) :
    (gateway.request serialize asked).1.router.callbacks =
        gateway.router.callbacks ∧
      Awaited (gateway.request serialize asked).1.router asked.reqId := by
  rw [request_of_busy hfresh hbusy]
  refine ⟨rfl, accepted gateway.router asked, ?_, .inr ⟨?_, hresponder⟩⟩
  · exact Finmap.lookup_insert _
  · exact List.mem_append_right _ (List.mem_singleton.mpr rfl)

/-- A request whose responder left it to the client is awaited. -/
theorem request_later (hserving : gateway.router.Serving)
    (hresponder : asked.reqType ∈ gateway.router.responders)
    (hasked : requestHandler parse reqId payLoad = .ok (some asked))
    (hfresh : asked.reqId ∉ gateway.router.pendingReqIds)
    (hidle : gateway.router.reqPending = false)
    (hprice : asked.reqType ≠ .instrumentList)
    (hconnected : gateway.client.connected = true) :
    (gateway.request serialize asked).1.router.callbacks =
        gateway.router.callbacks ∧
      Awaited (gateway.request serialize asked).1.router asked.reqId := by
  obtain ⟨launched, houtcome⟩ := responder_later serialize
    hasked hprice gateway.router gateway.symbolStore hconnected
  have hqueue := (hserving.idle_of_flag hidle).1
  have hafter : (gateway.request serialize asked).1 =
      { gateway with
        client := launched
        router := { (called gateway asked).router with
          reqPending := false
          callbacks := gateway.router.callbacks
          pendingReqProcessors := [] } } := by
    rw [request_of_idle hserving hfresh hidle hresponder houtcome rfl]
    exact returned_of_called rfl hqueue
  rw [hafter]
  refine ⟨rfl, accepted gateway.router asked, ?_, .inl ?_⟩
  · exact Finmap.lookup_insert _
  · exact List.mem_append_right _ (List.mem_singleton.mpr rfl)

/-- The gateway once a request has been answered and its responder has
returned. -/
def answered (gateway : RequestGateway) (asked : RouterRequest)
    (log : List (Happening MDRespVariant))
    (effects : List MiddleWare.Effect) : RequestGateway :=
  { gateway with
    pendingRequestBook := gateway.pendingRequestBook.erase asked.reqId
    effects := gateway.effects ++ effects
    router := { (called gateway asked).router with
      reqPending := false
      callbacks := gateway.router.callbacks
      pendingReqProcessors := []
      pendingReqIds :=
        (called gateway asked).router.pendingReqIds.erase asked.reqId
      log := log } }

variable (asked) in
/-- What a request comes to that its responder answers at once. -/
theorem request_answered (hserving : gateway.router.Serving)
    (hresponder : asked.reqType ∈ gateway.router.responders)
    (hbook : gateway.pendingRequestBook.lookup asked.reqId = some destTopic)
    (hfresh : asked.reqId ∉ gateway.router.pendingReqIds)
    (hidle : gateway.router.reqPending = false)
    {responses : List MDRespVariant} {last : MDRespVariant}
    (houtcome : responder serialize gateway.symbolStore
        (accepted gateway.router asked) gateway.client =
      ⟨gateway.client, (responses.map fun response => (false, response)) ++
        [(true, last)], none⟩)
    (hpayloads : ∀ response ∈ responses ++ [last], ∃ payload,
      (accepted gateway.router asked).reqData.2.payload serialize response =
        some payload) :
    ∃ log, gateway.request serialize asked =
      (answered gateway asked log
        (responsesTo serialize (accepted gateway.router asked) destTopic
          ((responses.map fun response => (false, response)) ++
            [(true, last)])), none) := by
  have hqueue := (hserving.idle_of_flag hidle).1
  have hentry : ({ called gateway asked with
      client := gateway.client } : RequestGateway).router.pendingReqIds.lookup
        (accepted gateway.router asked).reqId =
      some gateway.router.accepted.length := Finmap.lookup_insert _
  obtain ⟨log, hfold⟩ := foldl_callBack_all hentry hbook responses last
    hpayloads
  refine ⟨log, ?_⟩
  rw [request_of_idle hserving hfresh hidle hresponder houtcome rfl, hfold]
  exact Prod.ext (returned_of_called rfl hqueue) rfl

/-- A request that is answered at once is in neither place, and was answered if
there is a topic to answer on. -/
theorem request_at_once (hserving : gateway.router.Serving)
    (hresponder : asked.reqType ∈ gateway.router.responders)
    (hasked : requestHandler parse reqId payLoad = .ok (some asked))
    (hbook : gateway.pendingRequestBook.lookup asked.reqId = some destTopic)
    (hfresh : asked.reqId ∉ gateway.router.pendingReqIds)
    (hatOnce : gateway.AnswersAtOnce asked.reqType) :
    (gateway.request serialize asked).1.router.callbacks =
        gateway.router.callbacks ∧
      (Kept asked.reqId destTopic gateway
        (gateway.request serialize asked).1 ↔ destTopic ≠ "") := by
  obtain ⟨responses, last, houtcome, hpayloads⟩ :=
    responder_at_once serialize hasked gateway.router
      gateway.symbolStore hatOnce.2
  obtain ⟨log, hafter⟩ := request_answered asked hserving hresponder hbook
    hfresh hatOnce.1 houtcome hpayloads
  have hlost : ¬ Awaited (gateway.request serialize asked).1.router
      asked.reqId := by
    rw [hafter]
    rintro ⟨request, hlookup, -⟩
    rw [answered, Finmap.lookup_erase] at hlookup
    cases hlookup
  constructor
  · rw [hafter]
    rfl
  · constructor
    · rintro hkept rfl
      refine not_kept_of_effects ?_ hlost hkept
      rw [hafter, responsesTo_empty_topic]
      exact List.append_nil _
    · intro htopic
      rw [hafter, responsesTo_of_topic htopic]
      exact .answered _ _ rfl (List.mem_map.mpr ⟨(true, last), by simp, rfl⟩)
        Finmap.notMem_erase_self

/-- A handler that asks the router for nothing has changed nothing. -/
theorem handle_of_not_asks (hasks : ¬ ∃ reqType, Asks parse payLoad reqType) :
    (gateway.handle parse serialize reqId payLoad).1 = gateway := by
  simp only [handle]
  split
  · rfl
  · rfl
  · next asked hasked =>
      exact absurd ⟨asked.reqType, (asks_of_requestHandler hasked).1⟩ hasks

theorem handle_of_pending (hpending : reqId ∈ gateway.router.pendingReqIds) :
    (gateway.handle parse serialize reqId payLoad).1 = gateway := by
  simp only [handle]
  split
  · rfl
  · rfl
  · next asked hasked =>
      rw [← reqId_of_requestHandler hasked] at hpending
      rw [request_of_pending hpending]

/-- Where nothing changes, a number in the book has to await a response. -/
theorem kept_self_iff
    (hbook : gateway.pendingRequestBook.lookup reqId = some destTopic) :
    Kept reqId destTopic gateway gateway ↔ Awaited gateway.router reqId := by
  constructor
  · intro hkept
    cases hkept with
    | awaited hawaited => exact hawaited
    | answered _ _ _ _ hgone =>
        exact absurd (Finmap.mem_iff.mpr ⟨destTopic, hbook⟩) hgone
  · exact .awaited

variable (serialize) in
/-- A request that is passed on is kept, unless it is answered at once and there
is no topic to answer on. -/
theorem kept_of_asks (hserving : gateway.router.Serving)
    (hresponders : ∀ reqType, reqType ∈ gateway.router.responders)
    (hbook : gateway.pendingRequestBook.lookup reqId = some destTopic)
    (hfresh : reqId ∉ gateway.router.pendingReqIds)
    (hasked : requestHandler parse reqId payLoad = .ok (some asked)) :
    (gateway.request serialize asked).1.router.callbacks =
        gateway.router.callbacks ∧
      (Kept reqId destTopic gateway (gateway.request serialize asked).1 ↔
        (gateway.AnswersAtOnce asked.reqType → destTopic ≠ "")) := by
  obtain rfl := reqId_of_requestHandler hasked
  have hresponder := hresponders asked.reqType
  by_cases hatOnce : gateway.AnswersAtOnce asked.reqType
  · simp only [hatOnce, true_imp_iff]
    exact request_at_once hserving hresponder hasked hbook hfresh hatOnce
  · have hawaited : (gateway.request serialize asked).1.router.callbacks =
          gateway.router.callbacks ∧
        Awaited (gateway.request serialize asked).1.router asked.reqId := by
      cases hflag : gateway.router.reqPending with
      | true => exact request_busy hresponder hfresh hflag
      | false =>
          rw [AnswersAtOnce, not_and, not_or, Bool.not_eq_false] at hatOnce
          obtain ⟨hprice, hconnected⟩ := hatOnce hflag
          exact request_later hserving hresponder hasked hfresh hflag hprice
            hconnected
    exact ⟨hawaited.1, fun _ hnow => absurd hnow hatOnce,
      fun _ => .awaited hawaited.2⟩

/-- The handler returns to the callbacks that were under way.  The request is
kept exactly when the number awaits a response in the router already, or is new
there and the payload asks for something, with a topic to answer on if the
answer is given at once. -/
theorem kept_iff (parse : String → Except Thrown Json)
    (serialize : Json.Object → String) (gateway : RequestGateway)
    (events : List (RouterEvent MDReqType UInt64
      (MDReqVariant × ResponseHandler) MDRespVariant))
    (hrun : Runs.run ReqRespRouter.step ReqRespRouter.init events =
      some gateway.router)
    (hresponders : ∀ reqType, reqType ∈ gateway.router.responders)
    (reqId : UInt64) (destTopic payLoad : String)
    (hbook : gateway.pendingRequestBook.lookup reqId = some destTopic) :
    (gateway.handle parse serialize reqId payLoad).1.router.callbacks =
        gateway.router.callbacks ∧
      (Kept reqId destTopic gateway
          (gateway.handle parse serialize reqId payLoad).1 ↔
        if reqId ∈ gateway.router.pendingReqIds then
          Awaited gateway.router reqId
        else
          ∃ reqType, Asks parse payLoad reqType ∧
            (gateway.AnswersAtOnce reqType → destTopic ≠ "")) := by
  have hserving : gateway.router.Serving :=
    Runs.run_invariant ReqRespRouter.Serving
      (fun _ _ _ hbefore hstep => hbefore.step hstep)
      ReqRespRouter.serving_init hrun
  by_cases hpending : reqId ∈ gateway.router.pendingReqIds
  · rw [handle_of_pending hpending, if_pos hpending]
    exact ⟨rfl, kept_self_iff hbook⟩
  · rw [if_neg hpending]
    by_cases hasks : ∃ reqType, Asks parse payLoad reqType
    · obtain ⟨reqType, hasks⟩ := hasks
      obtain ⟨asked, hasked, rfl⟩ := requestHandler_of_asks hasks reqId
      have hhandle : gateway.handle parse serialize reqId payLoad =
          gateway.request serialize asked := by
        simp only [handle, hasked]
      rw [hhandle]
      obtain ⟨hcallbacks, hkept⟩ := kept_of_asks serialize
        hserving hresponders hbook hpending hasked
      refine ⟨hcallbacks, hkept.trans ?_⟩
      constructor
      · exact fun htopic => ⟨asked.reqType, hasks, htopic⟩
      · rintro ⟨reqType, hsame, htopic⟩
        obtain ⟨other, hother, rfl⟩ := requestHandler_of_asks hsame reqId
        rw [hasked] at hother
        obtain rfl := Option.some.inj (Except.ok.inj hother)
        exact htopic
    · rw [handle_of_not_asks hasks, kept_self_iff hbook]
      refine ⟨rfl, iff_of_false ?_ ?_⟩
      · rintro ⟨request, hlookup, -⟩
        exact hpending (Finmap.mem_iff.mpr ⟨request.ticket, hlookup⟩)
      · rintro ⟨reqType, hasked, -⟩
        exact hasks ⟨reqType, hasked⟩

/-! ## A request that is dropped -/

def registering : List (RouterEvent MDReqType UInt64
    (MDReqVariant × ResponseHandler) MDRespVariant) :=
  [.registerAsResponder .tradeSnapshot, .registerAsResponder .depthSnapshot,
    .registerAsResponder .instrumentList]

/-- A gateway that has accepted request 7 from `client`, with nothing pending in
its router and no connection to the exchange. -/
def accepting : RequestGateway where
  pendingRequestBook := Finmap.insert 7 "client" ∅
  router := (Runs.run ReqRespRouter.step ReqRespRouter.init registering).getD
    ReqRespRouter.init
  client := RestClient.init "api.binance.com" "/api/v3"
  symbolStore := [("BTCUSDT", "bitcoin")]
  effects := []

/-- `json::parse` on the texts of three messages. -/
def parseMessage (text : String) : Except Thrown Json :=
  match text with
  | "instruments" =>
      .ok (.object [("message_type", .string "instrument_request")])
  | "unknown message" => .ok (.object [("message_type", .string "ticker")])
  | "unknown price type" =>
      .ok (.object [("message_type", .string "price_request"),
        ("symbol", .string "BTCUSDT"), ("type", .string "ticker")])
  | _ => .error .parse

theorem responders_accepting (reqType : MDReqType) :
    reqType ∈ accepting.router.responders := by
  cases reqType <;> decide

theorem kept_iff_of_instruments :
    Kept 7 "client" accepting
      (accepting.handle parseMessage (fun _ => "") 7 "instruments").1 := by
  refine (kept_iff parseMessage (fun _ => "") accepting registering rfl
    responders_accepting 7 "client" "instruments" rfl).2.mpr ?_
  rw [if_neg (by decide)]
  exact ⟨.instrumentList, .instrumentList _ rfl rfl, fun _ => by decide⟩

/-- A message of an unknown type, and a price request for an unknown type,
return and leave the number in the book with nothing to answer it. -/
theorem abandoned_of_unknown :
    (accepting.handle parseMessage (fun _ => "") 7 "unknown message") =
        (accepting, none) ∧
      (accepting.handle parseMessage (fun _ => "") 7 "unknown price type") =
        (accepting, none) ∧
      7 ∈ accepting.pendingRequestBook ∧
      ¬ Kept 7 "client" accepting accepting := by
  refine ⟨rfl, rfl, by decide, ?_⟩
  rw [kept_self_iff rfl]
  rintro ⟨request, hlookup, -⟩
  have hnone : accepting.router.pendingReqIds.lookup 7 = none := rfl
  rw [hnone] at hlookup
  cases hlookup

end RequestGateway

end MultiMarketPrices.Binance
