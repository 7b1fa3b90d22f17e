import MultiMarketPrices.Core.Finmaps
import MultiMarketPrices.Core.Numerals

/-!
# The middleware

The request and response layer of MiddleWare/Interface.cpp over Kafka: what a
component writes to a topic, and how it reads what arrives.  A request names
itself by a decimal number in a header, and `PendingRequestBook` remembers the
topic to answer it on.

The functions answer with what they hand over, in order.  The callbacks of a
send are left out, and the exceptions of the two parts of the standard library
that throw are known by their `what()`.
-/

namespace MultiMarketPrices.MiddleWare

inductive APIError
  | ok
  | topicEmpty
  | msgTypeEmpty
  | keyEmpty
  | payloadEmpty
  | subscriptionFailed
  | invalidInstrumentType
  | nonExistentReqId
  | pongCallbackNotRegistered
  deriving DecidableEq

/-! ## The names on the wire -/

namespace HeaderKey

@[simp]
abbrev messageType : String := "message_type"

@[simp]
abbrev reqId : String := "reqId"

@[simp]
abbrev respId : String := "respId"

@[simp]
abbrev destTopic : String := "destTopic"

@[simp]
abbrev reqType : String := "reqType"

@[simp]
abbrev respType : String := "respType"

@[simp]
abbrev isLast : String := "isLast"

end HeaderKey

namespace MessageType

@[simp]
abbrev request : String := "request"

@[simp]
abbrev response : String := "response"

@[simp]
abbrev lastResponse : String := "last_response"

@[simp]
abbrev componentEnquiry : String := "component_enquiry"

@[simp]
abbrev componentEnquiryResponse : String := "component_enquiry_response"

@[simp]
abbrev requestStop : String := "request_stop"

end MessageType

/-- `ReqType::ping()` -/
@[simp]
abbrev ping : String := "ping"

/-- `RespType::pong()` -/
@[simp]
abbrev pong : String := "pong"

abbrev KeyValuePairs := Finmap fun _ : String => String

/-- Key reqId, value destination topic. -/
abbrev PendingRequestBook := Finmap fun _ : UInt64 => String

/-- What is written to a topic; the message type is one of the headers. -/
structure ProducerRecord where
  topic : String
  key : String
  headers : KeyValuePairs
  value : String
  deriving DecidableEq

/-- What the consumption loop passes on. -/
structure Message where
  topic : String
  partition : ℤ
  offset : ℤ
  msgType : String
  key : String
  headers : KeyValuePairs
  payload : String

/-- A record as it arrives; a record without a type has the empty one. -/
def ProducerRecord.message (record : ProducerRecord) (partition offset : ℤ) :
    Message where
  topic := record.topic
  partition := partition
  offset := offset
  msgType := (record.headers.lookup HeaderKey.messageType).getD ""
  key := record.key
  headers := record.headers
  payload := record.value

inductive Effect
  /-- `producer->send` -/
  | send (record : ProducerRecord)
  | errCallback (error : String)
  | responseCallback (reqId : UInt64) (msg : String) (isLast : Bool)
  | pongCallback (reqId : UInt64)
  | requestHandlerFunc (reqId : UInt64) (msg : String)
  | msgCallback (message : Message)
  /-- `g_shutdownRequested` is set -/
  | shutdown

/-- What a component tells the middleware when it starts. -/
structure Component where
  appId : String
  /-- `descriptionFunc()` -/
  description : String
  /-- whether there is a `pongCallback` -/
  pongCallback : Bool

/-! ## Sending -/

/-- The type of the message overrides a header of that name: it is written
first, and the receiver keeps the first. -/
def producerFunc (topic msgType key payload : String)
    (headers : KeyValuePairs) : APIError × List Effect :=
  if topic = "" then (.topicEmpty, [])
  else if msgType = "" then (.msgTypeEmpty, [])
  else if key = "" then (.keyEmpty, [])
  else
    (.ok, [.send {
      topic := topic
      key := key
      headers := headers.insert HeaderKey.messageType msgType
      value := payload }])

def requestHeaders (appId : String) (reqId : UInt64)
    (reqType : Option String) : KeyValuePairs :=
  let headers : KeyValuePairs :=
    (Finmap.insert HeaderKey.destTopic appId ∅).insert HeaderKey.reqId
      (Text.ofUInt64 reqId)
  match reqType with
  | some reqType => headers.insert HeaderKey.reqType reqType
  | none => headers

def Component.requestFunc (component : Component) (reqId : UInt64)
    (reqType : Option String) (payload targetTopic : String) :
    APIError × List Effect :=
  if reqType = some ping ∧ component.pongCallback = false then
    (.pongCallbackNotRegistered, [])
  else
    (.ok, (producerFunc targetTopic MessageType.request component.appId payload
      (requestHeaders component.appId reqId reqType)).2)

def responseHeaders (reqId : UInt64) (isLast : Bool) : KeyValuePairs :=
  (Finmap.insert HeaderKey.respId (Text.ofUInt64 reqId) ∅).insert
    HeaderKey.isLast (if isLast then "1" else "0")

/-- The result of `producerFunc` is not looked at. -/
def respond (reqId : UInt64) (respPayload : String) (isLast : Bool)
    (pendingRequestBook : PendingRequestBook) :
    APIError × PendingRequestBook × List Effect :=
  match pendingRequestBook.lookup reqId with
  | none =>
      (.nonExistentReqId, pendingRequestBook,
        [.errCallback ("Unknown reqId: " ++ Text.ofUInt64 reqId)])
  | some destTopic =>
      (.ok,
        if isLast then pendingRequestBook.erase reqId else pendingRequestBook,
        (producerFunc destTopic MessageType.response "Null" respPayload
          (responseHeaders reqId isLast)).2)

/-! ## Receiving -/

/-- What the header of a response is good for once its flag has been read. -/
def deliverResponse (pongCallback : Bool) (headers : KeyValuePairs)
    (reqIdStr msg : String) (isLast : Bool) : List Effect :=
  match Text.stoull reqIdStr with
  | .error what =>
      [.errCallback ("Invalid reqId in response header: " ++ reqIdStr ++
        ", error: " ++ what)]
  | .ok reqId =>
      if headers.lookup HeaderKey.respType = some pong then
        if pongCallback then [.pongCallback reqId] else []
      else [.responseCallback reqId msg isLast]

/-- The flag of a response is false when there is none. -/
def handleResponse (pongCallback : Bool) (message : Message) :
    Bool × List Effect :=
  if message.msgType ≠ MessageType.response ∧
      message.msgType ≠ MessageType.lastResponse then
    (false, [])
  else
    match message.headers.lookup HeaderKey.respId with
    | none => (true, [.errCallback "Missing reqId in response header"])
    | some reqIdStr =>
        let isLastStr := (message.headers.lookup HeaderKey.isLast).getD "0"
        if isLastStr ≠ "0" ∧ isLastStr ≠ "1" then
          (true, [.errCallback
            ("Invalid isLast value in response header: " ++ isLastStr)])
        else
          (true, deliverResponse pongCallback message.headers reqIdStr
            message.payload (isLastStr = "1"))

def pongHeaders (reqId : UInt64) : KeyValuePairs :=
  ((Finmap.insert HeaderKey.respId (Text.ofUInt64 reqId) ∅).insert
    HeaderKey.respType pong).insert HeaderKey.isLast "1"

def handleSpecialRequest (reqId : UInt64) (reqType destTopic : String) :
    List Effect :=
  if reqType = ping then
    (producerFunc destTopic MessageType.response "Null" ""
      (pongHeaders reqId)).2
  else []

/-- A request whose number could be read. -/
def admitRequest (reqIdStr : String) (reqId : UInt64) (message : Message)
    (pendingRequestBook : PendingRequestBook) :
    PendingRequestBook × List Effect :=
  if reqId ∈ pendingRequestBook then
    (pendingRequestBook,
      [.errCallback ("Duplicate reqId in request header: " ++ reqIdStr)])
  else
    match message.headers.lookup HeaderKey.destTopic with
    | none =>
        (pendingRequestBook,
          [.errCallback "Missing destTopic in request header"])
    | some destTopic =>
        match message.headers.lookup HeaderKey.reqType with
        | some reqType =>
            (pendingRequestBook, handleSpecialRequest reqId reqType destTopic)
        | none =>
            (pendingRequestBook.insert reqId destTopic,
              [.requestHandlerFunc reqId message.payload])

def handleRequest (message : Message)
    (pendingRequestBook : PendingRequestBook) :
    Bool × PendingRequestBook × List Effect :=
  if message.msgType ≠ MessageType.request then
    (false, pendingRequestBook, [])
  else
    match message.headers.lookup HeaderKey.reqId with
    | none =>
        (true, pendingRequestBook,
          [.errCallback "Missing reqId in request header"])
    | some reqIdStr =>
        match Text.stoull reqIdStr with
        | .error what =>
            (true, pendingRequestBook,
              [.errCallback ("Invalid reqId in request header: " ++ reqIdStr ++
                ", error: " ++ what)])
        | .ok reqId =>
            (true, admitRequest reqIdStr reqId message pendingRequestBook)

def Component.handleLifecycle (component : Component) (message : Message) :
    Bool × List Effect :=
  if message.msgType = MessageType.componentEnquiry then
    match message.headers.lookup HeaderKey.destTopic with
    | some destTopic =>
        (true, (producerFunc destTopic MessageType.componentEnquiryResponse
          component.appId component.description ∅).2)
    | none => (true, [])
  else if message.msgType = MessageType.requestStop then (true, [.shutdown])
  else (false, [])

/-- `refinedMsgCallback`: the first handler that knows the message takes it. -/
def Component.refinedMsgCallback (component : Component) (message : Message)
    (pendingRequestBook : PendingRequestBook) :
    PendingRequestBook × List Effect :=
  let lifecycle := component.handleLifecycle message
  let response := handleResponse component.pongCallback message
  let request := handleRequest message pendingRequestBook
  if lifecycle.1 then (pendingRequestBook, lifecycle.2)
  else if response.1 then (pendingRequestBook, response.2)
  else if request.1 then request.2
  else (pendingRequestBook, [.msgCallback message])

/-! ## What is sent can be read -/

theorem producerFunc_ok {topic msgType key : String} (payload : String)
    (headers : KeyValuePairs) (htopic : topic ≠ "") (hmsgType : msgType ≠ "")
    (hkey : key ≠ "") :
    producerFunc topic msgType key payload headers =
      (.ok, [.send {
        topic := topic
        key := key
        headers := headers.insert HeaderKey.messageType msgType
        value := payload }]) := by
  rw [producerFunc, if_neg htopic, if_neg hmsgType, if_neg hkey]

/-- What is sent names its topic, and nothing is sent to no topic. -/
theorem mem_producerFunc {topic msgType key payload : String}
    {headers : KeyValuePairs} {effect : Effect}
    (hmem : effect ∈ (producerFunc topic msgType key payload headers).2) :
    topic ≠ "" ∧ key ≠ "" ∧ effect = .send {
      topic := topic
      key := key
      headers := headers.insert HeaderKey.messageType msgType
      value := payload } := by
  rw [producerFunc] at hmem
  split_ifs at hmem with htopic hmsgType hkey
  · exact absurd hmem List.not_mem_nil
  · exact absurd hmem List.not_mem_nil
  · exact absurd hmem List.not_mem_nil
  · exact ⟨htopic, hkey, List.mem_singleton.mp hmem⟩

/-- A request passes the handlers that do not know it. -/
theorem refinedMsgCallback_request (component : Component) {message : Message}
    (pendingRequestBook : PendingRequestBook)
    (hmsgType : message.msgType = MessageType.request) :
    component.refinedMsgCallback message pendingRequestBook =
      (handleRequest message pendingRequestBook).2 := by
  have hlifecycle : component.handleLifecycle message = (false, []) := by
    simp [Component.handleLifecycle, hmsgType]
  have hresponse : handleResponse component.pongCallback message =
      (false, []) := by
    simp [handleResponse, hmsgType]
  have hrequest : (handleRequest message pendingRequestBook).1 = true := by
    simp only [handleRequest, hmsgType, ne_eq, not_true_eq_false, if_false]
    split
    · rfl
    · split <;> rfl
  simp only [Component.refinedMsgCallback, hlifecycle, hresponse, hrequest,
    Bool.false_eq_true, if_false, if_true]

/-- What a message of type request comes to. -/
inductive Received (message : Message) (pendingRequestBook : PendingRequestBook)
    (outcome : PendingRequestBook × List Effect) : Prop
  | reported (error : String)
      (hrefused : ∀ text reqId destTopic,
        message.headers.lookup HeaderKey.reqId = some text →
        Text.stoull text = .ok reqId → reqId ∉ pendingRequestBook →
        message.headers.lookup HeaderKey.destTopic ≠ some destTopic)
      (houtcome : outcome = (pendingRequestBook, [.errCallback error]))
  | special (text destTopic reqType : String) (reqId : UInt64)
      (htext : message.headers.lookup HeaderKey.reqId = some text)
      (hread : Text.stoull text = .ok reqId)
      (hfresh : reqId ∉ pendingRequestBook)
      (hdestTopic : message.headers.lookup HeaderKey.destTopic =
        some destTopic)
      (hreqType : message.headers.lookup HeaderKey.reqType = some reqType)
      (houtcome : outcome =
        (pendingRequestBook, handleSpecialRequest reqId reqType destTopic))
  | recorded (text destTopic : String) (reqId : UInt64)
      (htext : message.headers.lookup HeaderKey.reqId = some text)
      (hread : Text.stoull text = .ok reqId)
      (hfresh : reqId ∉ pendingRequestBook)
      (hdestTopic : message.headers.lookup HeaderKey.destTopic =
        some destTopic)
      (hreqType : message.headers.lookup HeaderKey.reqType = none)
      (houtcome : outcome = (pendingRequestBook.insert reqId destTopic,
        [.requestHandlerFunc reqId message.payload]))

theorem received_of_handleRequest {message : Message}
    (pendingRequestBook : PendingRequestBook)
    (hmsgType : message.msgType = MessageType.request) :
    Received message pendingRequestBook
      (handleRequest message pendingRequestBook).2 := by
  simp only [handleRequest, hmsgType, ne_eq, not_true_eq_false, if_false]
  cases htext : message.headers.lookup HeaderKey.reqId with
  | none => exact .reported _ (by simp [htext]) rfl
  | some text =>
      simp only
      cases hread : Text.stoull text with
      | error what =>
          refine .reported _ (fun other reqId _ hother hnumber => ?_) rfl
          obtain rfl := Option.some.inj (htext.symm.trans hother)
          rw [hread] at hnumber
          cases hnumber
      | ok reqId =>
          simp only [admitRequest]
          split
          · next hpending =>
              refine .reported _ (fun other _ _ hother hnumber hfresh => ?_) rfl
              obtain rfl := Option.some.inj (htext.symm.trans hother)
              obtain rfl := Except.ok.inj (hread.symm.trans hnumber)
              exact absurd hpending hfresh
          · next hfresh =>
              cases hdestTopic :
                  message.headers.lookup HeaderKey.destTopic with
              | none => exact .reported _ (by simp [hdestTopic]) rfl
              | some destTopic =>
                  cases hreqType :
                      message.headers.lookup HeaderKey.reqType with
                  | none =>
                      exact .recorded text destTopic reqId htext hread hfresh
                        hdestTopic hreqType rfl
                  | some reqType =>
                      exact .special text destTopic reqType reqId htext hread
                        hfresh hdestTopic hreqType rfl

end MultiMarketPrices.MiddleWare
