import MultiMarketPrices.Binance.Requests
import MultiMarketPrices.Binance.ControlKeys

/-!
# Commands that cannot be read

A subscribe, unsubscribe or request message comes through the handlers of the
middleware to `msgCb` or to the request handler.  Both parse the payload and
read its members unguarded; only the generation of a key catches exceptions.
A request is entered in the book before its payload is looked at.
-/

namespace MultiMarketPrices.Binance

open MiddleWare PlatformComm Routers

/-- Everything that a message can reach. -/
structure MDGateway where
  system : System
  requests : RequestGateway

namespace MDGateway

/-- What the middleware hands over, in order; the flag tells that an exception
has escaped. -/
def deliver (platform : Platform) (serialize : Json.Object → String) :
    List MiddleWare.Effect → MDGateway → MDGateway × Bool
  | [], gateway => (gateway, false)
  | .requestHandlerFunc reqId msg :: rest, gateway =>
      let handled :=
        gateway.requests.handle platform.parse serialize reqId msg
      if handled.2 = none then
        deliver platform serialize rest { gateway with requests := handled.1 }
      else ({ gateway with requests := handled.1 }, true)
  | .msgCallback message :: rest, gateway =>
      match gateway.system.step platform (.gateway
        (.message message.partition message.msgType message.payload)) with
      | some system =>
          deliver platform serialize rest { gateway with system := system }
      | none => (gateway, true)
  | effect :: rest, gateway =>
      deliver platform serialize rest { gateway with
        requests := { gateway.requests with
          effects := gateway.requests.effects ++ [effect] } }

/-- A message that is consumed, with the callbacks that `PlatformComm::init`
gives to the middleware. -/
def onMessage (platform : Platform) (serialize : Json.Object → String)
    (component : Component) (message : Message) (gateway : MDGateway) :
    MDGateway × Bool :=
  let outcome := component.refinedMsgCallback message
    gateway.requests.pendingRequestBook
  deliver platform serialize outcome.2 { gateway with
    requests := { gateway.requests with pendingRequestBook := outcome.1 } }

/-! ## What a command has to say -/

def StringMember (members : Json.Object) (name : String) : Prop :=
  ∃ text, members.lookup name = some (.string text)

def WellFormedSubUnsub (parse : String → Except Thrown Json)
    (payload : String) : Prop :=
  ∃ members : Json.Object, parse payload = .ok (.object members) ∧
    StringMember members "symbol" ∧ StringMember members "type" ∧
    StringMember members "destination_topic"

def WellFormedRequest (parse : String → Except Thrown Json)
    (payload : String) : Prop :=
  ∃ (members : Json.Object) (text : String),
    parse payload = .ok (.object members) ∧
    members.lookup "message_type" = some (.string text) ∧
    (Text.cStr text = "price_request" →
      StringMember members "type" ∧ StringMember members "symbol")

/-- The payload has the members that a message of its type is read for. -/
def WellFormed (parse : String → Except Thrown Json) (message : Message) :
    Prop :=
  if message.msgType = MessageType.request then
    WellFormedRequest parse message.payload
  else WellFormedSubUnsub parse message.payload

/-- Nothing has changed, and no sync update was published.  A request that is
refused may be reported, and a ping is answered. -/
structure Untouched (before after : MDGateway) : Prop where
  hgateway : after.system.record.gateway = before.system.record.gateway
  hsent : after.system.record.effects = before.system.record.effects
  hposted : after.system.posted = before.system.posted
  hlink : after.system.link = before.system.link
  hbook : after.requests.pendingRequestBook =
    before.requests.pendingRequestBook
  hrouter : after.requests.router = before.requests.router
  heffects : ∃ effects,
    after.requests.effects = before.requests.effects ++ effects ∧
      ∀ record, MiddleWare.Effect.send record ∈ effects →
        record.headers.lookup HeaderKey.messageType ≠ some "sync_data_update"

/-- No exception escapes, and a malformed message changes nothing. -/
def DropsMalformed (platform : Platform) (message : Message)
    (gateway : MDGateway) (outcome : MDGateway × Bool) : Prop :=
  outcome.2 = false ∧
    (¬ WellFormed platform.parse message → Untouched gateway outcome.1)

/-- A request that is entered in the book and passed on. -/
def Recorded (message : Message) (pendingRequestBook : PendingRequestBook) :
    Prop :=
  ∃ text reqId destTopic,
    message.headers.lookup HeaderKey.reqId = some text ∧
    Text.stoull text = .ok reqId ∧ reqId ∉ pendingRequestBook ∧
    message.headers.lookup HeaderKey.destTopic = some destTopic ∧
    message.headers.lookup HeaderKey.reqType = none

/-- Nothing is read that is not there.  A request that is entered in the book
is well-formed; a command for a partition with a machine parses to an object
that has a topic if it has a symbol and a type. -/
def ReadSafely (platform : Platform) (message : Message)
    (gateway : MDGateway) : Prop :=
  if message.msgType = MessageType.request then
    Recorded message gateway.requests.pendingRequestBook →
      WellFormedRequest platform.parse message.payload
  else
    message.partition ∈ gateway.system.record.gateway.partitionFSMs →
      ∃ members : Json.Object,
        platform.parse message.payload = .ok (.object members) ∧
        (StringMember members "symbol" → StringMember members "type" →
          StringMember members "destination_topic")

variable {platform : Platform} {serialize : Json.Object → String}
  {gateway : MDGateway}

/-! ## Subscribe and unsubscribe messages -/

section SubUnsub

variable {system next : System} {partition : ℤ} {isSub : Bool} {msg : String}

/-- A key is generated from the symbol and the type. -/
theorem exists_generateKey_iff {members : Json.Object} :
    (∃ key, generateKeyFromSubUnsubRequest members = some key) ↔
      StringMember members "symbol" ∧ StringMember members "type" := by
  constructor
  · rintro ⟨key, hkey⟩
    obtain ⟨symbol, type, hsymbol, htype, -⟩ := generateKey_eq_some_iff.mp hkey
    exact ⟨⟨symbol, hsymbol⟩, ⟨type, htype⟩⟩
  · rintro ⟨⟨symbol, hsymbol⟩, ⟨type, htype⟩⟩
    exact ⟨_, generateKey_eq_some_iff.mpr ⟨symbol, type, hsymbol, htype, rfl⟩⟩

theorem cStrAt_of_stringMember {members : Json.Object} {name : String}
    (hmember : StringMember members name) :
    ∃ text, members.cStrAt name = .ok text := by
  obtain ⟨value, hvalue⟩ := hmember
  exact ⟨_, Json.Object.cStrAt_of_lookup hvalue⟩

theorem stringMember_of_cStrAt {members : Json.Object} {name text : String}
    (htext : members.cStrAt name = .ok text) : StringMember members name := by
  obtain ⟨value, hvalue, -⟩ := Json.Object.cStrAt_eq_ok.mp htext
  exact ⟨value, hvalue⟩

/-- What is taken is well-formed. -/
theorem wellFormed_of_request {key destTopic : String}
    (hrequest : (onBinance platform).subUnsubRequest isSub msg =
      .ok (some (key, destTopic))) :
    WellFormedSubUnsub platform.parse msg := by
  obtain ⟨members, hparse, hkey, htopic⟩ := request_eq_some_iff.mp hrequest
  obtain ⟨hsymbol, htype⟩ := exists_generateKey_iff.mp ⟨key, hkey⟩
  exact ⟨members, hparse, hsymbol, htype, stringMember_of_cStrAt htopic⟩

variable (isSub) in
/-- When the payload is read without an exception. -/
theorem subUnsubRequest_returns_iff :
    (∃ request, (onBinance platform).subUnsubRequest isSub msg =
        .ok request) ↔
      ∃ members : Json.Object, platform.parse msg = .ok (.object members) ∧
        (StringMember members "symbol" → StringMember members "type" →
          StringMember members "destination_topic") := by
  rw [subUnsubRequest_onBinance]
  constructor
  · rintro ⟨request, hrequest⟩
    obtain ⟨value, hparse, hobject⟩ := bind_eq_ok.mp hrequest
    obtain ⟨members, hmembers, hkeyed⟩ := bind_eq_ok.mp hobject
    obtain rfl := Json.asObject_eq_ok.mp hmembers
    refine ⟨members, hparse, fun hsymbol htype => ?_⟩
    obtain ⟨key, hkey⟩ := exists_generateKey_iff.mpr ⟨hsymbol, htype⟩
    simp only [hkey] at hkeyed
    obtain ⟨destTopic, htopic, -⟩ := map_eq_ok.mp hkeyed
    exact stringMember_of_cStrAt htopic
  · rintro ⟨members, hparse, htopic⟩
    simp only [hparse, Except.bind, Json.asObject_object]
    cases hkey : generateKeyFromSubUnsubRequest members with
    | none => exact ⟨none, rfl⟩
    | some key =>
        obtain ⟨hsymbol, htype⟩ := exists_generateKey_iff.mp ⟨key, hkey⟩
        obtain ⟨destTopic, hdestTopic⟩ :=
          cStrAt_of_stringMember (htopic hsymbol htype)
        exact ⟨some (key, destTopic), by simp only [hdestTopic, Except.map]⟩

/-- The session understands the command for a generated key. -/
theorem controlCall_of_generated {members : Json.Object} {key : String}
    (hkey : generateKeyFromSubUnsubRequest members = some key) (isSub : Bool)
    (partition : ℤ) :
    ∃ call, controlCall (FsmOutput.effect partition
      (if isSub then .subFunc key else .unsubFunc key)) = .ok call := by
  have hcolon := colon_mem_of_generateKey hkey
  cases isSub with
  | true =>
      obtain ⟨call, hcall, -⟩ := controlCall_of_colon_mem hcolon (.subRequest [])
      exact ⟨call, hcall⟩
  | false =>
      obtain ⟨call, hcall, -⟩ :=
        controlCall_of_colon_mem hcolon (.unsubRequest [])
      exact ⟨call, hcall⟩

/-- A machine answers a sub/unsub event with at most the command for the
key. -/
theorem exists_respond_subUnsub (fsm : Fsm) (key : String) (isSub : Bool) :
    ∃ after out, fsm.respond (.subUnsub key isSub) = .ok (after, out) ∧
      (out = [] ∨ out = [if isSub then .subFunc key else .unsubFunc key]) := by
  have hrespond := fsm.respond_subUnsub key isSub
  cases hstate : fsm.state with
  | downloading =>
      rw [hstate] at hrespond
      exact ⟨_, _, hrespond, .inl rfl⟩
  | operational =>
      rw [hstate] at hrespond
      exact ⟨_, _, hrespond, .inr rfl⟩
  | revoked =>
      rw [hstate] at hrespond
      exact ⟨_, _, hrespond, .inl rfl⟩

variable (platform) in
/-- The effects of a message that is taken become calls. -/
theorem controlCalls_of_generated {members : Json.Object} {key : String}
    (hkey : generateKeyFromSubUnsubRequest members = some key)
    {out : List FsmOutput} (isSub : Bool)
    (hout : out = [] ∨ out = [if isSub then .subFunc key else .unsubFunc key])
    (partition : ℤ) (destTopic : String) :
    ∃ calls, controlCalls (out.map (FsmOutput.effect partition) ++
      [platform.syncDataUpdate partition key destTopic isSub]) = .ok calls := by
  rcases hout with rfl | rfl
  · exact ⟨[], rfl⟩
  · obtain ⟨call, hcall⟩ := controlCall_of_generated hkey isSub partition
    refine ⟨call.toList, ?_⟩
    rw [List.map_singleton, List.singleton_append, controlCalls_reported, hcall]
    rfl

/-- Where there is no machine or no key, nothing is done. -/
theorem msgCb_of_ignored
    (hignored : system.record.gateway.partitionFSMs.lookup partition = none ∨
      (onBinance platform).subUnsubRequest isSub msg = .ok none) :
    (onBinance platform).msgCb partition (Platform.messageType isSub) msg
        system.record.gateway = .ok (system.record.gateway, []) := by
  simp only [Platform.msgCb, if_pos (Platform.messageType_known isSub),
    Platform.decide_messageType]
  split
  · rfl
  · next fsm hfsm =>
      rcases hignored with hnone | hrequest
      · exact absurd (hnone.symm.trans hfsm) (by simp)
      · rw [hrequest]
        rfl

/-- A message that is read is taken. -/
theorem step_of_request (hsound : system.record.gateway.Sound)
    {request : Option (String × String)}
    (hrequest : (onBinance platform).subUnsubRequest isSub msg = .ok request) :
    ∃ next, system.step platform (.gateway
      (.message partition (Platform.messageType isSub) msg)) = some next := by
  cases hfsm : system.record.gateway.partitionFSMs.lookup partition with
  | none => exact System.step_of_handle (msgCb_of_ignored (.inl hfsm)) rfl
  | some fsm =>
      cases request with
      | none =>
          exact System.step_of_handle (msgCb_of_ignored (.inr hrequest)) rfl
      | some pair =>
          obtain ⟨key, destTopic⟩ := pair
          by_cases haccepted : (system.record.gateway.book.handleBookKeeping key
              destTopic isSub).1 = true
          · obtain ⟨members, -, hkey, -⟩ := request_eq_some_iff.mp hrequest
            obtain ⟨after, out, hrespond, hout⟩ :=
              exists_respond_subUnsub fsm key isSub
            obtain ⟨calls, hcalls⟩ := controlCalls_of_generated
              (onBinance platform) hkey isSub hout partition destTopic
            exact System.step_of_handle (msgCb_of_accepted
              (hsound partition fsm hfsm) hfsm hrequest haccepted hrespond)
              hcalls
          · exact System.step_of_handle
              (msgCb_of_refused hfsm hrequest haccepted) rfl

/-- A message is taken without an exception exactly when its partition has no
machine or its payload is read without one. -/
theorem step_message_iff (hsound : system.record.gateway.Sound) :
    (∃ next, system.step platform (.gateway
        (.message partition (Platform.messageType isSub) msg)) = some next) ↔
      (partition ∈ system.record.gateway.partitionFSMs →
        ∃ request, (onBinance platform).subUnsubRequest isSub msg =
          .ok request) := by
  constructor
  · rintro ⟨next, hstep⟩ hmem
    obtain ⟨fsm, hfsm⟩ := Finmap.mem_iff.mp hmem
    obtain ⟨sent, calls, hhandle, -⟩ := System.step_gateway hstep
    simp only [Platform.handle, Platform.msgCb,
      if_pos (Platform.messageType_known isSub), Platform.decide_messageType,
      hfsm] at hhandle
    obtain ⟨request, hrequest, -⟩ := bind_eq_ok.mp hhandle
    exact ⟨request, hrequest⟩
  · intro hreturns
    by_cases hmem : partition ∈ system.record.gateway.partitionFSMs
    · obtain ⟨request, hrequest⟩ := hreturns hmem
      exact step_of_request hsound hrequest
    · exact System.step_of_handle
        (msgCb_of_ignored (.inl (Finmap.lookup_eq_none.mpr hmem))) rfl

/-- A message that is not well-formed changes nothing when it is taken. -/
theorem unchanged_of_step
    (hmalformed : ¬ WellFormedSubUnsub platform.parse msg)
    (hstep : system.step platform (.gateway
      (.message partition (Platform.messageType isSub) msg)) = some next) :
    next.record.gateway = system.record.gateway ∧
      next.record.effects = system.record.effects ∧
      next.posted = system.posted ∧ next.link = system.link := by
  obtain ⟨sent, calls, hhandle, hcalls, -, heffects, hposted, hlink⟩ :=
    System.step_gateway hstep
  have hignored : (onBinance platform).msgCb partition
      (Platform.messageType isSub) msg system.record.gateway =
        .ok (system.record.gateway, []) := by
    apply msgCb_of_ignored
    by_contra hread
    rw [not_or] at hread
    obtain ⟨fsm, hfsm⟩ := Option.ne_none_iff_exists'.mp hread.1
    simp only [Platform.handle, Platform.msgCb,
      if_pos (Platform.messageType_known isSub), Platform.decide_messageType,
      hfsm] at hhandle
    obtain ⟨request, hrequest, -⟩ := bind_eq_ok.mp hhandle
    cases request with
    | none => exact hread.2 hrequest
    | some pair => exact hmalformed (wellFormed_of_request hrequest)
  obtain ⟨hgateway, rfl⟩ :=
    Prod.mk.inj (Except.ok.inj (hhandle.symm.trans hignored))
  obtain rfl := Except.ok.inj hcalls
  exact ⟨hgateway, by simpa using heffects, by simpa using hposted, hlink⟩

end SubUnsub

/-! ## Requests -/

section Requests

variable {requests : RequestGateway} {asked : RouterRequest}
  {message : Message} {pendingRequestBook : PendingRequestBook}
  {parse : String → Except Thrown Json} {reqId : UInt64} {payload : String}

variable (serialize) in
/-- No responder is called, and none waits to be. -/
theorem request_of_unregistered (hserving : requests.router.Serving)
    (hfresh : asked.reqId ∉ requests.router.pendingReqIds)
    (hidle : requests.router.reqPending = false)
    (hnone : asked.reqType ∉ requests.router.responders) :
    (requests.request serialize asked).2 = none := by
  have hqueue := (hserving.idle_of_flag hidle).1
  simp only [RequestGateway.request,
    ReqRespRouter.request_unserved hfresh hidle hqueue hnone]
  rw [RequestGateway.serve_of_length_le]
  exact le_rfl

variable (serialize) in
/-- The router and the responders throw nothing. -/
theorem request_returns (hserving : requests.router.Serving)
    (hasked : requestHandler parse reqId payload = .ok (some asked)) :
    (requests.request serialize asked).2 = none := by
  by_cases hpending : asked.reqId ∈ requests.router.pendingReqIds
  · rw [RequestGateway.request_of_pending hpending]
  cases hflag : requests.router.reqPending with
  | true => rw [RequestGateway.request_of_busy hpending hflag]
  | false =>
      by_cases hresponder : asked.reqType ∈ requests.router.responders
      · by_cases hatOnce : asked.reqType = .instrumentList ∨
            requests.client.connected = false
        · obtain ⟨responses, last, houtcome, -⟩ :=
            RequestGateway.responder_at_once serialize hasked requests.router
              requests.symbolStore hatOnce
          rw [RequestGateway.request_of_idle hserving hpending hflag hresponder
            houtcome rfl]
        · rw [not_or, Bool.not_eq_false] at hatOnce
          obtain ⟨launched, houtcome⟩ := RequestGateway.responder_later
            serialize hasked hatOnce.1 requests.router requests.symbolStore
            hatOnce.2
          rw [RequestGateway.request_of_idle hserving hpending hflag hresponder
            houtcome rfl]
      · exact request_of_unregistered serialize hserving hpending hflag
          hresponder

/-- The members that a well-formed request has are all that is read. -/
theorem requestHandler_of_wellFormed
    (hwellFormed : WellFormedRequest parse payload) (reqId : UInt64) :
    ∃ asked, requestHandler parse reqId payload = .ok asked := by
  obtain ⟨members, text, hparse, htext, hprice⟩ := hwellFormed
  simp only [requestHandler, hparse, Except.bind, Json.asObject_object,
    Json.Object.cStrAt_of_lookup htext]
  split_ifs with hpriceRequest hinstruments
  · obtain ⟨htype, hsymbol⟩ := hprice hpriceRequest
    obtain ⟨priceTypeStr, hpriceTypeStr⟩ := cStrAt_of_stringMember htype
    obtain ⟨symbol, hsymbol⟩ := cStrAt_of_stringMember hsymbol
    simp only [handlePriceRequest, hpriceTypeStr, Except.bind, hsymbol,
      Except.map]
    split <;> exact ⟨_, rfl⟩
  · exact ⟨_, rfl⟩
  · exact ⟨_, rfl⟩

/-- What asks for something is well-formed. -/
theorem wellFormed_of_asks {reqType : MDReqType}
    (hasks : Asks parse payload reqType) : WellFormedRequest parse payload := by
  cases hasks with
  | price members priceType symbol hparse hmsgType hpriceType hsymbol =>
      obtain ⟨text, htext, -⟩ := Json.Object.cStrAt_eq_ok.mp hmsgType
      exact ⟨members, text, hparse, htext, fun _ =>
        ⟨stringMember_of_cStrAt hpriceType, stringMember_of_cStrAt hsymbol⟩⟩
  | instrumentList members hparse hmsgType =>
      obtain ⟨text, htext, hname⟩ := Json.Object.cStrAt_eq_ok.mp hmsgType
      refine ⟨members, text, hparse, htext, fun hprice => ?_⟩
      rw [hname] at hprice
      exact absurd hprice (by decide)

/-- A well-formed request that is passed on lets no exception escape. -/
theorem deliver_of_wellFormed
    (hwellFormed : WellFormedRequest platform.parse payload) (reqId : UInt64)
    (hserving : gateway.requests.router.Serving) :
    (deliver platform serialize [.requestHandlerFunc reqId payload]
      gateway).2 = false := by
  obtain ⟨asked, hasked⟩ := requestHandler_of_wellFormed hwellFormed reqId
  have hreturns : (gateway.requests.handle platform.parse serialize reqId
      payload).2 = none := by
    cases asked with
    | none => simp only [RequestGateway.handle, hasked]
    | some asked =>
        simp only [RequestGateway.handle, hasked]
        exact request_returns serialize hserving hasked
  simp only [deliver, hreturns, if_true]

/-- Any other request that is passed on changes nothing more, whether an
exception escapes or not. -/
theorem deliver_of_malformed
    (hmalformed : ¬ WellFormedRequest platform.parse payload) (reqId : UInt64) :
    (deliver platform serialize [.requestHandlerFunc reqId payload]
      gateway).1 = gateway := by
  have hsame : (gateway.requests.handle platform.parse serialize reqId
      payload).1 = gateway.requests :=
    RequestGateway.handle_of_not_asks
      fun ⟨_, hasks⟩ => hmalformed (wellFormed_of_asks hasks)
  simp only [deliver, hsame]
  split <;> rfl

end Requests

/-! ## What the middleware hands over -/

section HandedOver

variable {component : Component} {message : Message}
  {pendingRequestBook : PendingRequestBook}

/-- An error that is reported, or a response. -/
def IsReply : MiddleWare.Effect → Prop
  | .errCallback _ => True
  | .send record =>
      record.headers.lookup HeaderKey.messageType = some MessageType.response
  | _ => False

theorem isReply_of_special {reqId : UInt64} {reqType destTopic : String}
    {effect : MiddleWare.Effect}
    (hmem : effect ∈ handleSpecialRequest reqId reqType destTopic) :
    IsReply effect := by
  rw [handleSpecialRequest] at hmem
  split_ifs at hmem
  · obtain ⟨-, -, rfl⟩ := mem_producerFunc hmem
    exact Finmap.lookup_insert _
  · exact absurd hmem List.not_mem_nil

/-- A request is recorded and passed on, or leaves the book as it is. -/
theorem recorded_or_replied
    (hmsgType : message.msgType = MessageType.request) :
    (∃ reqId destTopic, Recorded message pendingRequestBook ∧
      reqId ∉ pendingRequestBook ∧
      (handleRequest message pendingRequestBook).2 =
        (pendingRequestBook.insert reqId destTopic,
          [.requestHandlerFunc reqId message.payload])) ∨
      ∃ replies, ¬ Recorded message pendingRequestBook ∧
        (∀ effect ∈ replies, IsReply effect) ∧
        (handleRequest message pendingRequestBook).2 =
          (pendingRequestBook, replies) := by
  cases received_of_handleRequest pendingRequestBook hmsgType with
  | reported error hrefused houtcome =>
      refine .inr ⟨_, ?_, ?_, houtcome⟩
      · rintro ⟨text, reqId, destTopic, htext, hread, hfresh, hdestTopic, -⟩
        exact hrefused text reqId destTopic htext hread hfresh hdestTopic
      · intro effect hmem
        obtain rfl := List.mem_singleton.mp hmem
        trivial
  | special text destTopic reqType reqId _ _ _ _ hreqType houtcome =>
      refine .inr ⟨_, ?_, fun _ => isReply_of_special, houtcome⟩
      rintro ⟨_, _, _, _, _, _, _, hnone⟩
      rw [hreqType] at hnone
      cases hnone
  | recorded text destTopic reqId htext hread hfresh hdestTopic hreqType
      houtcome =>
      exact .inl ⟨reqId, destTopic, ⟨text, reqId, destTopic, htext, hread,
        hfresh, hdestTopic, hreqType⟩, hfresh, houtcome⟩

/-- Replies go out one after the other. -/
theorem deliver_replies {replies : List MiddleWare.Effect}
    (hreplies : ∀ effect ∈ replies, IsReply effect) :
    deliver platform serialize replies gateway =
      ({ gateway with requests := { gateway.requests with
          effects := gateway.requests.effects ++ replies } }, false) := by
  induction replies generalizing gateway with
  | nil => simp [deliver]
  | cons effect replies ih =>
      rw [List.forall_mem_cons] at hreplies
      obtain ⟨heffect, hrest⟩ := hreplies
      cases effect with
      | send | errCallback => simp [deliver, ih hrest]
      | responseCallback | pongCallback | requestHandlerFunc | msgCallback
      | shutdown => exact absurd heffect id

theorem refinedMsgCallback_subUnsub {isSub : Bool}
    (hmsgType : message.msgType = Platform.messageType isSub) :
    component.refinedMsgCallback message pendingRequestBook =
      (pendingRequestBook, [.msgCallback message]) := by
  cases isSub <;>
    simp [Component.refinedMsgCallback, Component.handleLifecycle,
      MiddleWare.handleResponse, handleRequest, hmsgType, Platform.messageType]

end HandedOver

/-! ## Every command -/

section Commands

variable {component : Component} {message : Message}

theorem untouched_of_replies {replies : List MiddleWare.Effect}
    (hreplies : ∀ effect ∈ replies, IsReply effect) :
    Untouched gateway { gateway with requests := { gateway.requests with
      effects := gateway.requests.effects ++ replies } } where
  hgateway := rfl
  hsent := rfl
  hposted := rfl
  hlink := rfl
  hbook := rfl
  hrouter := rfl
  heffects := by
    refine ⟨replies, rfl, fun record hmem hupdate => ?_⟩
    have hresponse : record.headers.lookup HeaderKey.messageType =
        some MessageType.response := hreplies _ hmem
    rw [hresponse] at hupdate
    exact absurd hupdate (by decide)

variable (serialize component) in
theorem dropsMalformed_iff_of_subUnsub {isSub : Bool}
    (hsound : gateway.system.record.gateway.Sound)
    (hmsgType : message.msgType = Platform.messageType isSub) :
    DropsMalformed platform message gateway
        (gateway.onMessage platform serialize component message) ↔
      ReadSafely platform message gateway := by
  have hother : message.msgType ≠ MessageType.request := by
    rw [hmsgType]
    cases isSub <;> decide
  have hmessage : gateway.onMessage platform serialize component message =
      deliver platform serialize [.msgCallback message] gateway := by
    simp only [onMessage, refinedMsgCallback_subUnsub hmsgType]
  rw [hmessage, ReadSafely, if_neg hother, ←
    subUnsubRequest_returns_iff isSub, ← step_message_iff hsound]
  simp only [deliver, hmsgType]
  constructor
  · intro hdrops
    cases hstep : gateway.system.step platform (.gateway (.message
        message.partition (Platform.messageType isSub) message.payload)) with
    | none =>
        rw [hstep] at hdrops
        cases hdrops.1
    | some system => exact ⟨system, rfl⟩
  · rintro ⟨system, hstep⟩
    rw [hstep]
    refine ⟨rfl, fun hmalformed => ?_⟩
    rw [WellFormed, if_neg hother] at hmalformed
    obtain ⟨hgateway, hsent, hposted, hlink⟩ :=
      unchanged_of_step hmalformed hstep
    exact ⟨hgateway, hsent, hposted, hlink, rfl, rfl, [],
      (List.append_nil _).symm, by simp⟩

variable (platform serialize component) in
theorem dropsMalformed_iff_of_request
    (hserving : gateway.requests.router.Serving)
    (hmsgType : message.msgType = MessageType.request) :
    DropsMalformed platform message gateway
        (gateway.onMessage platform serialize component message) ↔
      ReadSafely platform message gateway := by
  simp only [DropsMalformed, WellFormed, ReadSafely, hmsgType, if_true,
    onMessage, refinedMsgCallback_request component _ hmsgType]
  rcases recorded_or_replied hmsgType with
    ⟨reqId, destTopic, hrecorded, hfresh, houtcome⟩ |
    ⟨replies, hrefused, hreplies, houtcome⟩
  · rw [houtcome]
    simp only [hrecorded, true_imp_iff]
    constructor
    · rintro ⟨-, huntouched⟩
      by_contra hmalformed
      have hbook := (huntouched hmalformed).hbook
      rw [deliver_of_malformed hmalformed] at hbook
      rw [← hbook] at hfresh
      exact hfresh (Finmap.mem_insert.mpr (.inl rfl))
    · intro hwellFormed
      refine ⟨?_, fun hmalformed => absurd hwellFormed hmalformed⟩
      exact deliver_of_wellFormed hwellFormed reqId hserving
  · rw [houtcome, deliver_replies hreplies]
    exact ⟨fun _ hrecorded => absurd hrecorded hrefused,
      fun _ => ⟨rfl, fun _ => untouched_of_replies hreplies⟩⟩

/-- In every reachable state, a subscribe, unsubscribe or request message is
handled without an exception, and dropped without trace if it is malformed,
exactly when it is read safely. -/
theorem dropsMalformed_iff_readSafely (platform : Platform)
    (serialize : Json.Object → String) (component : Component) (msgNo : ℤ)
    (gateway : MDGateway) (events : List SystemEvent)
    (hrun : Runs.run (System.step platform) (System.start msgNo) events =
      some gateway.system)
    (routerEvents : List (RouterEvent MDReqType UInt64
      (MDReqVariant × ResponseHandler) MDRespVariant))
    (hrouter : Runs.run ReqRespRouter.step ReqRespRouter.init routerEvents =
      some gateway.requests.router)
    (message : Message)
    (hmsgType : message.msgType = MessageType.request ∨
      ∃ isSub, message.msgType = Platform.messageType isSub) :
    DropsMalformed platform message gateway
        (gateway.onMessage platform serialize component message) ↔
      ReadSafely platform message gateway := by
  rcases hmsgType with hrequest | ⟨isSub, hsubUnsub⟩
  · have hserving : gateway.requests.router.Serving :=
      Runs.run_invariant ReqRespRouter.Serving
        (fun _ _ _ hbefore hstep => hbefore.step hstep)
        ReqRespRouter.serving_init hrouter
    exact dropsMalformed_iff_of_request platform serialize component hserving
      hrequest
  · obtain ⟨handled, hhandled⟩ := System.exists_record_run hrun
    have hsound : gateway.system.record.gateway.Sound :=
      Record.sound_of_run sound_initial hhandled
    exact dropsMalformed_iff_of_subUnsub serialize component hsound hsubUnsub

end Commands

/-! ## A payload that is not JSON -/

/-- A gateway that has been assigned partition 0 and serves no request. -/
def assigned : MDGateway where
  system := (Runs.run (System.step .endOfDownload) (System.start 0)
    [.gateway (.rebalance .partitionAssigned 0)]).getD (System.start 0)
  requests := {
    pendingRequestBook := ∅
    router := (Runs.run ReqRespRouter.step ReqRespRouter.init
      RequestGateway.registering).getD ReqRespRouter.init
    client := RestApi.RestClient.init "api.binance.com" "/api/v3"
    symbolStore := []
    effects := [] }

/-- A message on partition 0, a request being number 7 from `client`. -/
def commandMessage (msgType payload : String) : Message where
  topic := "in"
  partition := 0
  offset := 0
  msgType := msgType
  key := "client"
  headers := requestHeaders "client" 7 none
  payload := payload

def gatewayComponent : Component := ⟨"gateway", "", false⟩

/-- A subscribe message without a symbol is dropped. -/
theorem dropsMalformed_iff_readSafely_of_no_symbol :
    DropsMalformed .endOfDownload
      (commandMessage "subscribe" endOfDownloadText) assigned
      (assigned.onMessage .endOfDownload (fun _ => "") gatewayComponent
        (commandMessage "subscribe" endOfDownloadText)) := by
  refine (dropsMalformed_iff_readSafely .endOfDownload (fun _ => "")
    gatewayComponent 0 assigned [.gateway (.rebalance .partitionAssigned 0)] rfl
    RequestGateway.registering rfl _ (.inr ⟨true, rfl⟩)).mpr ?_
  rw [ReadSafely, if_neg (by decide)]
  intro _
  refine ⟨[("group", .string "group:in:0")], rfl, ?_⟩
  rintro ⟨text, hsymbol⟩
  cases hsymbol

/-- An exception escapes, and a request stays in the book. -/
theorem unparsed_command_throws :
    Runs.run (System.step .endOfDownload) (System.start 0)
        [.gateway (.rebalance .partitionAssigned 0)] = some assigned.system ∧
      Runs.run ReqRespRouter.step ReqRespRouter.init
        RequestGateway.registering = some assigned.requests.router ∧
      (assigned.onMessage .endOfDownload (fun _ => "") gatewayComponent
        (commandMessage "subscribe" "not json")).2 = true ∧
      (assigned.onMessage .endOfDownload (fun _ => "") gatewayComponent
        (commandMessage "request" "not json")).2 = true ∧
      7 ∈ (assigned.onMessage .endOfDownload (fun _ => "") gatewayComponent
        (commandMessage "request" "not json")).1.requests.pendingRequestBook ∧
      ¬ DropsMalformed .endOfDownload (commandMessage "subscribe" "not json")
        assigned (assigned.onMessage .endOfDownload (fun _ => "")
          gatewayComponent (commandMessage "subscribe" "not json")) := by
  refine ⟨rfl, rfl, rfl, rfl, by decide, ?_⟩
  rintro ⟨hreturns, -⟩
  exact absurd hreturns (by decide)

end MDGateway

end MultiMarketPrices.Binance
