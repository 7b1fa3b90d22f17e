import MultiMarketPrices.Binance.Requests
import MultiMarketPrices.Core.Outputs
import MultiMarketPrices.Core.Tickets
import MultiMarketPrices.RestApi.Invocations

/-!
# From a request for a snapshot to its answer

The middleware takes a request, the gateway asks the exchange for a snapshot,
and the REST client serves what it is asked for one by one, over any number of
connections.  The callback that `getSnapshot` leaves with the client is known by
the ticket of its request, and holds the callback that the router gave to the
responder.

An exception of such a callback leaves `ioc.run()` and ends the process.  One of
the request handler ends with the message here.
-/

namespace MultiMarketPrices.Binance

open MiddleWare PlatformComm RestApi Routers

/-- A callback that a responder has left with the REST client. -/
structure SnapshotCall where
  /-- the request whose callback of the router it holds -/
  request : MDRequest
  snapshot : SnapshotRequest
  /-- the topic that the book names for the request when it is left -/
  destTopic : String

structure SnapshotService where
  gateway : RequestGateway
  /-- the callbacks left so far, with the tickets of their requests -/
  callbacks : List (ℕ × SnapshotCall)

inductive ServiceEvent
  /-- the middleware takes a message of type request -/
  | arrive (message : Message)
  /-- the strand runs a handler of the REST client, or others use it -/
  | rest (event : ClientEvent)

/-- What a request asks the exchange for, if it does. -/
def MDRequest.snapshot (request : MDRequest) : Option SnapshotRequest :=
  match request.reqData.1 with
  | .tradeSnapshotRequest symbol => some ⟨Text.upper symbol, .trade⟩
  | .depthSnapshotRequest symbol => some ⟨Text.upper symbol, .depth⟩
  | .instrumentListRequest => none

/-- What `launch` gives to the client, under the ticket. -/
def SnapshotRequest.get (apiVersion : String) (snapshot : SnapshotRequest)
    (ticket : ℕ) : PendingRequest :=
  let path := match snapshot.priceType with
    | .depth => "/depth"
    | .trade => "/trades"
  let query := match snapshot.priceType with
    | .depth => "symbol=" ++ snapshot.symbol ++ "&limit=5"
    | .trade => "symbol=" ++ snapshot.symbol ++ "&limit=1"
  ⟨apiVersion ++ path ++ "?" ++ query, .get, query, ticket⟩

namespace SnapshotService

/-- The responders are registered before the middleware is started. -/
def start (host apiVersion : String) (symbolStore : List (String × String)) :
    SnapshotService where
  gateway := {
    pendingRequestBook := ∅
    router := { ReqRespRouter.init with responders :=
      {.tradeSnapshot, .depthSnapshot, .instrumentList} }
    client := (RestClient.init host apiVersion).run
    symbolStore := symbolStore
    effects := [] }
  callbacks := []

/-- The callback left by the responder that was called last, if it asked the
client for anything. -/
def left (before after : RequestGateway) : List (ℕ × SnapshotCall) :=
  if before.client.tickets < after.client.tickets then
    after.router.held.getLast?.toList.filterMap fun request =>
      (MDRequest.snapshot request).map fun snapshot =>
        (before.client.tickets, ⟨request, snapshot,
          (after.pendingRequestBook.lookup request.reqId).getD ""⟩)
  else []

/-- What the middleware does about a request. -/
def perform (parse : String → Except Thrown Json)
    (serialize : Json.Object → String) (service : SnapshotService) :
    MiddleWare.Effect → SnapshotService
  | .requestHandlerFunc reqId msg =>
      let after := (service.gateway.handle parse serialize reqId msg).1
      ⟨after, service.callbacks ++ left service.gateway after⟩
  | effect =>
      { service with gateway := { service.gateway with
          effects := service.gateway.effects ++ [effect] } }

/-- The client calls a callback; the others do nothing here. -/
def invoke (serialize : Json.Object → String) (service : SnapshotService)
    (invocation : Invocation) : Option SnapshotService :=
  match service.callbacks.lookup invocation.request.ticket with
  | none => some service
  | some call =>
      match call.snapshot.callback serialize invocation.result
        invocation.ec with
      | .ok response =>
          some { service with gateway :=
            service.gateway.callBack serialize call.request (true, response) }
      | .error _ => none

def step (parse : String → Except Thrown Json)
    (serialize : Json.Object → String) (service : SnapshotService) :
    ServiceEvent → Option SnapshotService
  | .arrive message =>
      let outcome := handleRequest message service.gateway.pendingRequestBook
      if outcome.1 then
        some (outcome.2.2.foldl (perform parse serialize)
          { service with gateway := { service.gateway with
              pendingRequestBook := outcome.2.1 } })
      else none
  | .rest event =>
      (service.gateway.client.step parse event).bind fun outcome =>
        outcome.invocations.foldlM (invoke serialize)
          { service with gateway := { service.gateway with
              client := outcome.client } }

/-- What is sent when the client calls callbacks. -/
def sends (parse : String → Except Thrown Json)
    (serialize : Json.Object → String) (service : SnapshotService) :
    ServiceEvent → List MiddleWare.Effect
  | .arrive _ => []
  | .rest event =>
      match service.step parse serialize (.rest event) with
      | some next =>
          next.gateway.effects.drop service.gateway.effects.length
      | none => []

/-! ## What is asked for and how it is answered -/

/-- The callbacks that are still to be called for these requests. -/
def callsOf (service : SnapshotService) (requests : List PendingRequest) :
    List SnapshotCall :=
  Tickets.valuesOf service.callbacks PendingRequest.ticket requests

/-- The callbacks that have not been called. -/
def pending (service : SnapshotService) : List SnapshotCall :=
  service.callsOf service.gateway.client.backlog

/-- The message asked for the snapshot, and was accepted. -/
structure Asked (parse : String → Except Thrown Json) (message : Message)
    (call : SnapshotCall) : Prop where
  hreqId : ∃ text, message.headers.lookup HeaderKey.reqId = some text ∧
    Text.stoull text = .ok call.request.reqId
  hdestTopic : message.headers.lookup HeaderKey.destTopic =
    some call.destTopic
  hasked : ∃ priceType symbol,
    requestHandler parse call.request.reqId message.payload =
        .ok (some (priceRequest call.request.reqId priceType symbol
          priceType.text)) ∧
      call.snapshot = ⟨Text.upper symbol, priceType⟩ ∧
      call.request.reqData.2 = .price symbol priceType.text

/-- The number of the request is taken in the middleware and in the router. -/
structure Awaits (service : SnapshotService) (call : SnapshotCall) :
    Prop where
  hbook : service.gateway.pendingRequestBook.lookup call.request.reqId =
    some call.destTopic
  hrouter : service.gateway.router.pendingReqIds.lookup call.request.reqId =
    some call.request.ticket

/-- What came of a call: the body of the exchange's answer, unless there is
none. -/
structure SnapshotAnswer where
  /-- the ticket that the client gave to the request -/
  ticket : ℕ
  call : SnapshotCall
  body : Option String
  response : MDRespVariant

/-- The answer is that of the exchange to what was asked for, or is none. -/
structure SnapshotAnswer.Proper (parse : String → Except Thrown Json)
    (serialize : Json.Object → String) (apiVersion : String)
    (events : List ServiceEvent) (answer : SnapshotAnswer) : Prop where
  hbody : ∀ body, answer.body = some body → ∃ stream sni,
    .rest (.completed
      ⟨stream, .read (answer.call.snapshot.get apiVersion answer.ticket)⟩
        none sni body) ∈ events
  hresponse : match answer.body with
    | none => answer.response = .nullSnapShot
    | some body =>
        answer.call.snapshot.callback serialize
          (RestClient.responseResult parse body) none = .ok answer.response

/-- The record of the answer, if there is a topic to send it to. -/
def SnapshotAnswer.record (serialize : Json.Object → String)
    (answer : SnapshotAnswer) : List MiddleWare.Effect :=
  RequestGateway.responsesTo serialize answer.call.request
    answer.call.destTopic [(true, answer.response)]

/-! ## The service between two steps -/

/-- The router is not in use. -/
structure Idle (router : MDReqResRouter) : Prop where
  hcallbacks : router.callbacks = []
  hflag : router.reqPending = false
  hqueue : router.pendingReqProcessors = []
  horder : router.accepted = router.forwarded
  hresponders : ∀ reqType, reqType ∈ router.responders

theorem Idle.serving {router : MDReqResRouter} (hidle : Idle router) :
    router.Serving := by
  apply ReqRespRouter.Serving.idle _ hidle.hflag hidle.hqueue hidle.horder
  simp [hidle.hcallbacks]

/-- The service once these answers have been given, with these requests of the
client to be called back for. -/
structure Tended (parse : String → Except Thrown Json)
    (serialize : Json.Object → String) (apiVersion : String)
    (events : List ServiceEvent) (answers : List SnapshotAnswer)
    (requests : List PendingRequest) (service : SnapshotService) : Prop where
  hversion : service.gateway.client.apiVersion = apiVersion
  hphase : service.gateway.client.Phase
  hbelow : Tickets.Below service.gateway.client.tickets service.callbacks
  hissued : ∀ request ∈ requests,
    request.ticket < service.gateway.client.tickets
  hcalls : service.callbacks.map Prod.snd =
    answers.map SnapshotAnswer.call ++ service.callsOf requests
  hgets : ∀ request ∈ requests, ∀ call,
    service.callbacks.lookup request.ticket = some call →
    request = call.snapshot.get apiVersion request.ticket
  hasked : ∀ call ∈ service.callbacks.map Prod.snd, ∃ message,
    .arrive message ∈ events ∧ Asked parse message call
  hleft : ∀ answer ∈ answers,
    service.callbacks.lookup answer.ticket = some answer.call
  hproper : ∀ answer ∈ answers,
    answer.Proper parse serialize apiVersion events
  hawaits : ∀ call ∈ service.callsOf requests, service.Awaits call
  hdistinct : ((service.callsOf requests).map fun call =>
    call.request.reqId).Nodup
  hrouter : ∀ reqId ∈ service.gateway.router.pendingReqIds,
    ∃ call ∈ service.callsOf requests, call.request.reqId = reqId
  hidle : Idle service.gateway.router

section Tending

variable {parse : String → Except Thrown Json}
  {serialize : Json.Object → String} {apiVersion : String}
  {events : List ServiceEvent} {answers : List SnapshotAnswer}
  {requests : List PendingRequest} {service next : SnapshotService}

theorem Asked.reqData {message : Message} {call : SnapshotCall}
    (hasked : Asked parse message call) {response : MDRespVariant}
    (hresponse : response = .nullSnapShot ∨
      (∃ snapshot, response = .depthSnapshot snapshot) ∨
      ∃ snapshot, response = .tradeSnapshot snapshot) :
    ∃ payload,
      call.request.reqData.2.payload serialize response = some payload := by
  obtain ⟨priceType, symbol, -, -, hhandler⟩ := hasked.hasked
  rw [hhandler]
  rcases hresponse with rfl | ⟨snapshot, rfl⟩ | ⟨snapshot, rfl⟩
  · exact ⟨_, rfl⟩
  · exact ⟨snapshot, rfl⟩
  · exact ⟨snapshot, rfl⟩

/-- What a callback of `getSnapshot` makes of a response. -/
theorem of_callback {snapshot : SnapshotRequest} {result : Json.Object}
    {ec : Option RestApi.ErrorCode} {response : MDRespVariant}
    (hcallback : snapshot.callback serialize result ec = .ok response) :
    response = .nullSnapShot ∨
      (∃ snapshot, response = .depthSnapshot snapshot) ∨
      ∃ snapshot, response = .tradeSnapshot snapshot := by
  obtain ⟨symbol, priceType⟩ := snapshot
  cases ec with
  | some ec =>
      obtain rfl := Except.ok.inj hcallback
      exact .inl rfl
  | none =>
      cases priceType with
      | depth =>
          obtain ⟨object, -, rfl⟩ := map_eq_ok.mp hcallback
          exact .inr (.inl ⟨_, rfl⟩)
      | trade =>
          obtain ⟨object, -, rfl⟩ := map_eq_ok.mp hcallback
          exact .inr (.inr ⟨_, rfl⟩)

theorem SnapshotAnswer.Proper.mono {answer : SnapshotAnswer}
    (hproper : answer.Proper parse serialize apiVersion events)
    (more : List ServiceEvent) :
    answer.Proper parse serialize apiVersion (events ++ more) := by
  refine ⟨fun body hbody => ?_, hproper.hresponse⟩
  obtain ⟨stream, sni, hmem⟩ := hproper.hbody body hbody
  exact ⟨stream, sni, List.mem_append_left _ hmem⟩

theorem Tended.mono
    (htended : Tended parse serialize apiVersion events answers requests
      service) (more : List ServiceEvent) :
    Tended parse serialize apiVersion (events ++ more) answers requests
      service where
  hversion := htended.hversion
  hphase := htended.hphase
  hbelow := htended.hbelow
  hissued := htended.hissued
  hcalls := htended.hcalls
  hgets := htended.hgets
  hasked call hmem := by
    obtain ⟨message, harrive, hasked⟩ := htended.hasked call hmem
    exact ⟨message, List.mem_append_left _ harrive, hasked⟩
  hleft := htended.hleft
  hproper answer hmem := (htended.hproper answer hmem).mono more
  hawaits := htended.hawaits
  hdistinct := htended.hdistinct
  hrouter := htended.hrouter
  hidle := htended.hidle

theorem tended_start (host apiVersion : String)
    (symbolStore : List (String × String)) :
    Tended parse serialize apiVersion [] [] []
      (start host apiVersion symbolStore) where
  hversion := rfl
  hphase := (kept_start host apiVersion).hphase
  hbelow := by simp [start, Tickets.Below]
  hissued := by simp
  hcalls := rfl
  hgets := by simp
  hasked := by simp [start]
  hleft := by simp
  hproper := by simp
  hawaits := by simp [callsOf, Tickets.valuesOf]
  hdistinct := by simp [callsOf, Tickets.valuesOf]
  hrouter reqId hmem := by
    exact absurd hmem Finmap.notMem_empty
  hidle := by
    refine ⟨rfl, rfl, rfl, rfl, ?_⟩
    intro reqType
    cases reqType <;> simp [start]

/-! ## The client calls back -/

/-- What is known of the call of a callback. -/
def Answered (parse : String → Except Thrown Json)
    (events : List ServiceEvent) (invocation : Invocation) : Prop :=
  (∃ ec, invocation.ec = some ec) ∨
    invocation.ec = none ∧ ∃ stream sni body,
      invocation.result = RestClient.responseResult parse body ∧
      .rest (.completed ⟨stream, .read invocation.request⟩ none sni body) ∈
        events

theorem callsOf_cons (request : PendingRequest) :
    service.callsOf (request :: requests) =
      (service.callbacks.lookup request.ticket).toList ++
        service.callsOf requests := by
  rw [callsOf, Tickets.valuesOf, List.filterMap_cons]
  cases service.callbacks.lookup request.ticket <;> rfl

/-- The service once a callback has given the last answer to its request. -/
def answered (serialize : Json.Object → String) (answer : SnapshotAnswer)
    (log : List (Happening MDRespVariant)) (service : SnapshotService) :
    SnapshotService :=
  { service with gateway := { service.gateway with
      pendingRequestBook :=
        service.gateway.pendingRequestBook.erase answer.call.request.reqId
      effects := service.gateway.effects ++ answer.record serialize
      router := { service.gateway.router with
        pendingReqIds := service.gateway.router.pendingReqIds.erase
          answer.call.request.reqId
        log := log } } }

theorem responsesTo_singleton {request : MDRequest} {destTopic : String}
    {response : MDRespVariant} {payload : String}
    (hpayload : request.reqData.2.payload serialize response =
      some payload) :
    RequestGateway.responsesTo serialize request destTopic [(true, response)] =
      (producerFunc destTopic MessageType.response "Null" payload
        (responseHeaders request.reqId true)).2 := by
  simp [RequestGateway.responsesTo, hpayload]

/-- A callback that is called answers its request. -/
theorem invoke_of_call {call : SnapshotCall} {message : Message}
    {invocation : Invocation} {response : MDRespVariant}
    (hcall : service.callbacks.lookup invocation.request.ticket = some call)
    (hasked : Asked parse message call) (hawaits : service.Awaits call)
    (hcallback : call.snapshot.callback serialize invocation.result
      invocation.ec = .ok response) (body : Option String) :
    ∃ log, service.invoke serialize invocation =
      some (service.answered serialize
        ⟨invocation.request.ticket, call, body, response⟩ log) := by
  obtain ⟨payload, hpayload⟩ : ∃ payload,
      call.request.reqData.2.payload serialize response = some payload :=
    hasked.reqData (of_callback hcallback)
  obtain ⟨log, hback⟩ := RequestGateway.callBack_of_pending
    hawaits.hrouter hawaits.hbook hpayload true
  refine ⟨log, ?_⟩
  simp only [invoke, hcall, hcallback, hback, answered, SnapshotAnswer.record,
    responsesTo_singleton hpayload, if_true]

/-- The answer to the call that waits longest. -/
theorem Tended.answered {request : PendingRequest} {answer : SnapshotAnswer}
    (htended : Tended parse serialize apiVersion events answers
      (request :: requests) service)
    (hticket : answer.ticket = request.ticket)
    (hcall : service.callbacks.lookup request.ticket = some answer.call)
    (hproper : answer.Proper parse serialize apiVersion events)
    (log : List (Happening MDRespVariant)) :
    Tended parse serialize apiVersion events (answers ++ [answer]) requests
      (service.answered serialize answer log) := by
  have hcalls : service.callsOf (request :: requests) =
      answer.call :: service.callsOf requests := by
    rw [callsOf_cons, hcall]
    rfl
  have hdistinct := htended.hdistinct
  rw [hcalls, List.map_cons, List.nodup_cons] at hdistinct
  have hother : ∀ call ∈ service.callsOf requests,
      call.request.reqId ≠ answer.call.request.reqId := by
    intro call hmem hsame
    exact hdistinct.1 (List.mem_map.mpr ⟨call, hmem, hsame⟩)
  constructor
  case hversion => exact htended.hversion
  case hphase => exact htended.hphase
  case hbelow => exact htended.hbelow
  case hissued =>
    exact fun later hmem => htended.hissued later (List.mem_cons_of_mem _ hmem)
  case hcalls =>
    calc
      service.callbacks.map Prod.snd
        = answers.map SnapshotAnswer.call ++
            service.callsOf (request :: requests) := htended.hcalls
      _ = (answers ++ [answer]).map SnapshotAnswer.call ++
            service.callsOf requests := by
          rw [hcalls, List.map_append, List.append_assoc]
          rfl
  case hgets =>
    exact fun later hmem => htended.hgets later (List.mem_cons_of_mem _ hmem)
  case hasked => exact htended.hasked
  case hleft =>
    intro given hmem
    rcases List.mem_append.mp hmem with hearlier | hnow
    · exact htended.hleft given hearlier
    · rw [List.mem_singleton.mp hnow, hticket]
      exact hcall
  case hproper =>
    intro given hmem
    rcases List.mem_append.mp hmem with hearlier | hnow
    · exact htended.hproper given hearlier
    · exact List.mem_singleton.mp hnow ▸ hproper
  case hawaits =>
    intro call hmem
    have hawaits := htended.hawaits call
      (hcalls ▸ List.mem_cons_of_mem _ hmem)
    constructor
    · simp only [SnapshotService.answered]
      rw [Finmap.lookup_erase_ne (hother call hmem)]
      exact hawaits.hbook
    · simp only [SnapshotService.answered]
      rw [Finmap.lookup_erase_ne (hother call hmem)]
      exact hawaits.hrouter
  case hdistinct => exact hdistinct.2
  case hrouter =>
    intro reqId hmem
    simp only [SnapshotService.answered, Finmap.mem_erase] at hmem
    obtain ⟨call, hcallmem, hsame⟩ := htended.hrouter reqId hmem.2
    rw [hcalls, List.mem_cons] at hcallmem
    rcases hcallmem with rfl | hlater
    · exact absurd hsame.symm hmem.1
    · exact ⟨call, hlater, hsame⟩
  case hidle =>
    exact ⟨htended.hidle.hcallbacks, htended.hidle.hflag,
      htended.hidle.hqueue, htended.hidle.horder,
      htended.hidle.hresponders⟩

/-- Nobody has left a callback for the request. -/
theorem Tended.unasked {request : PendingRequest}
    (htended : Tended parse serialize apiVersion events answers
      (request :: requests) service)
    (hnone : service.callbacks.lookup request.ticket = none) :
    Tended parse serialize apiVersion events answers requests service := by
  have hcalls : service.callsOf (request :: requests) =
      service.callsOf requests := by
    rw [callsOf_cons, hnone]
    rfl
  obtain ⟨hversion, hphase, hbelow, hissued, hall, hgets, hasked, hleft,
    hproper, hawaits, hdistinct, hrouter, hidle⟩ := htended
  rw [hcalls] at hall hawaits hdistinct hrouter
  exact ⟨hversion, hphase, hbelow,
    fun later hmem => hissued later (List.mem_cons_of_mem _ hmem), hall,
    fun later hmem => hgets later (List.mem_cons_of_mem _ hmem), hasked,
    hleft, hproper, hawaits, hdistinct, hrouter, hidle⟩

/-- The answer of a callback is the exchange's answer to its own request. -/
theorem Tended.proper {invocation : Invocation} {call : SnapshotCall}
    {response : MDRespVariant}
    (htended : Tended parse serialize apiVersion events answers
      (invocation.request :: requests) service)
    (hcall : service.callbacks.lookup invocation.request.ticket = some call)
    (hanswered : Answered parse events invocation)
    (hcallback : call.snapshot.callback serialize invocation.result
      invocation.ec = .ok response) :
    ∃ body, SnapshotAnswer.Proper parse serialize apiVersion events
      ⟨invocation.request.ticket, call, body, response⟩ := by
  rcases hanswered with ⟨ec, hec⟩ | ⟨hec, stream, sni, body, hresult, hmem⟩
  · refine ⟨none, by simp, ?_⟩
    rw [hec] at hcallback
    exact (Except.ok.inj hcallback).symm
  · refine ⟨some body, ?_, ?_⟩
    · rintro text ⟨rfl⟩
      have hget := htended.hgets invocation.request List.mem_cons_self call
        hcall
      exact ⟨stream, sni, hget ▸ hmem⟩
    · rw [hec, hresult] at hcallback
      exact hcallback

theorem callBack_client (serialize : Json.Object → String)
    (request : MDRequest) (gateway : RequestGateway)
    (answer : Bool × MDRespVariant) :
    (gateway.callBack serialize request answer).client = gateway.client := by
  simp only [RequestGateway.callBack, RequestGateway.handleResponse,
    RequestGateway.returned]
  split
  · split <;> rfl
  · rfl

/-- A callback launches nothing and leaves no callback. -/
theorem invoke_same {invocation : Invocation}
    (hinvoke : service.invoke serialize invocation = some next) :
    next.gateway.client = service.gateway.client ∧
      next.callbacks = service.callbacks := by
  unfold invoke at hinvoke
  split at hinvoke
  · obtain rfl := Option.some.inj hinvoke
    exact ⟨rfl, rfl⟩
  · split at hinvoke
    · obtain rfl := Option.some.inj hinvoke
      exact ⟨callBack_client serialize _ _ _, rfl⟩
    · cases hinvoke

theorem foldlM_invoke_same {invocations : List Invocation}
    (hfold : invocations.foldlM (invoke serialize) service = some next) :
    next.gateway.client = service.gateway.client ∧
      next.callbacks = service.callbacks := by
  induction invocations generalizing service with
  | nil =>
      obtain rfl := Option.some.inj hfold
      exact ⟨rfl, rfl⟩
  | cons invocation invocations ih =>
      rw [List.foldlM_cons, Option.bind_eq_bind,
        Option.bind_eq_some_iff] at hfold
      obtain ⟨middle, hfirst, hrest⟩ := hfold
      rw [(ih hrest).1, (ih hrest).2]
      exact invoke_same hfirst

/-- All callbacks are called if none of them throws. -/
theorem exists_foldlM_invoke {invocations : List Invocation}
    (hreturn : ∀ invocation ∈ invocations, ∀ call,
      service.callbacks.lookup invocation.request.ticket = some call →
      ∃ response, call.snapshot.callback serialize invocation.result
        invocation.ec = .ok response) :
    ∃ next, invocations.foldlM (invoke serialize) service = some next := by
  induction invocations generalizing service with
  | nil => exact ⟨service, rfl⟩
  | cons invocation invocations ih =>
      rw [List.forall_mem_cons] at hreturn
      obtain ⟨hnow, hlater⟩ := hreturn
      obtain ⟨middle, hfirst⟩ :
          ∃ middle, service.invoke serialize invocation = some middle := by
        cases hcall : service.callbacks.lookup invocation.request.ticket with
        | none => exact ⟨service, by simp only [invoke, hcall]⟩
        | some call =>
            obtain ⟨response, hcallback⟩ := hnow call hcall
            exact ⟨_, by simp only [invoke, hcall, hcallback]; rfl⟩
      obtain ⟨next, hrest⟩ := ih fun invocation hmem call hcall =>
        hlater invocation hmem call ((invoke_same hfirst).2 ▸ hcall)
      exact ⟨next, by rw [List.foldlM_cons, hfirst]; exact hrest⟩

/-- The client calls back for its oldest requests. -/
theorem Tended.invokeAll {invocations : List Invocation}
    (htended : Tended parse serialize apiVersion events answers
      (invocations.map Invocation.request ++ requests) service)
    (hanswered : ∀ invocation ∈ invocations, Answered parse events invocation)
    (hfold : invocations.foldlM (invoke serialize) service = some next) :
    ∃ more : List SnapshotAnswer,
      Tended parse serialize apiVersion events (answers ++ more) requests
          next ∧
        next.gateway.effects = service.gateway.effects ++
          more.flatMap (SnapshotAnswer.record serialize) := by
  induction invocations generalizing service answers with
  | nil =>
      obtain rfl := Option.some.inj hfold
      exact ⟨[], by simpa using htended, by simp⟩
  | cons invocation invocations ih =>
      rw [List.foldlM_cons, Option.bind_eq_bind,
        Option.bind_eq_some_iff] at hfold
      obtain ⟨middle, hfirst, hrest⟩ := hfold
      rw [List.forall_mem_cons] at hanswered
      obtain ⟨hnow, hlater⟩ := hanswered
      rw [List.map_cons, List.cons_append] at htended
      cases hcall : service.callbacks.lookup invocation.request.ticket with
      | none =>
          simp only [invoke, hcall] at hfirst
          obtain rfl := Option.some.inj hfirst
          exact ih (htended.unasked hcall) hlater hrest
      | some call =>
          have hcalls : service.callsOf (invocation.request ::
              (invocations.map Invocation.request ++ requests)) =
              call :: service.callsOf
                (invocations.map Invocation.request ++ requests) := by
            rw [callsOf_cons, hcall]
            rfl
          have hmem : call ∈ service.callsOf (invocation.request ::
              (invocations.map Invocation.request ++ requests)) := by
            rw [hcalls]
            exact List.mem_cons_self
          obtain ⟨message, -, hasked⟩ := htended.hasked call (by
            rw [htended.hcalls]
            exact List.mem_append_right _ hmem)
          cases hcallback : call.snapshot.callback serialize
              invocation.result invocation.ec with
          | error thrown => simp [invoke, hcall, hcallback] at hfirst
          | ok response =>
              obtain ⟨body, hproper⟩ := htended.proper hcall hnow hcallback
              obtain ⟨log, hinvoke⟩ := invoke_of_call hcall hasked
                (htended.hawaits call hmem) hcallback body
              obtain rfl := Option.some.inj (hinvoke.symm.trans hfirst)
              obtain ⟨more, hmore, heffects⟩ :=
                ih (htended.answered rfl hcall hproper log) hlater hrest
              refine ⟨⟨invocation.request.ticket, call, body, response⟩ ::
                more, ?_, ?_⟩
              · simpa using hmore
              · rw [heffects]
                simp [SnapshotService.answered]

/-- A handler of the client, before it calls back. -/
theorem Tended.ofClient {event : ClientEvent} {outcome : Outcome}
    (htended : Tended parse serialize apiVersion events answers
      service.gateway.client.backlog service)
    (hstep : service.gateway.client.step parse event = some outcome) :
    Tended parse serialize apiVersion events answers
      (outcome.invocations.map Invocation.request ++ outcome.client.backlog)
      { service with gateway := { service.gateway with
          client := outcome.client } } := by
  obtain ⟨launched, hconserves⟩ := RestClient.step_conserves hstep
  have htickets : ∀ request ∈ launched,
      service.gateway.client.tickets ≤ request.ticket ∧
        request.ticket < outcome.client.tickets := by
    intro request hmem
    have hticket : request.ticket ∈ launched.map PendingRequest.ticket :=
      List.mem_map_of_mem hmem
    rw [hconserves.htickets, List.mem_range'_1] at hticket
    rwa [hconserves.hcount]
  have hlater := fun request hmem => (htickets request hmem).1
  have hcalls : ({ service with gateway := { service.gateway with
        client := outcome.client } } : SnapshotService).callsOf
      (outcome.invocations.map Invocation.request ++
        outcome.client.backlog) = service.pending := by
    simp only [callsOf, hconserves.hbacklog, Tickets.valuesOf_append,
      htended.hbelow.valuesOf_eq_nil hlater, List.append_nil]
    rfl
  constructor
  case hversion =>
    exact (RestClient.step_apiVersion hstep).trans htended.hversion
  case hphase => exact RestClient.step_phase htended.hphase hstep
  case hbelow =>
    apply htended.hbelow.mono
    simp [hconserves.hcount]
  case hissued =>
    intro request hmem
    rw [hconserves.hbacklog, List.mem_append] at hmem
    rcases hmem with hold | hnew
    · have hticket := htended.hissued request hold
      simp only [hconserves.hcount]
      omega
    · exact (htickets request hnew).2
  case hcalls =>
    rw [hcalls]
    exact htended.hcalls
  case hgets =>
    intro request hmem call hcall
    rw [hconserves.hbacklog, List.mem_append] at hmem
    rcases hmem with hold | hnew
    · exact htended.hgets request hold call hcall
    · rw [htended.hbelow.lookup_eq_none (hlater request hnew)] at hcall
      cases hcall
  case hasked => exact htended.hasked
  case hleft => exact htended.hleft
  case hproper => exact htended.hproper
  case hawaits =>
    rw [hcalls]
    exact fun call hmem =>
      ⟨(htended.hawaits call hmem).hbook, (htended.hawaits call hmem).hrouter⟩
  case hdistinct =>
    rw [hcalls]
    exact htended.hdistinct
  case hrouter =>
    rw [hcalls]
    exact htended.hrouter
  case hidle => exact htended.hidle

end Tending

end SnapshotService

end MultiMarketPrices.Binance
