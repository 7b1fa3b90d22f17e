import MultiMarketPrices.MiddleWare.Correlation

/-!
# What becomes of a request

A request that arrives is recorded and passed on, answered with a pong, or
reported, unless it is of a special type that the middleware does not know: it
is then dropped.  What is sent in answer may be refused by `producerFunc`, and
neither `respond` nor `requestFunc` tells its caller.
-/

namespace MultiMarketPrices.MiddleWare

/-! ## A request that arrives -/

/-- The three things that may become of a request, each with all that it
changes and hands over. -/
inductive Settled (message : Message) (pendingRequestBook : PendingRequestBook)
    (outcome : PendingRequestBook × List Effect) : Prop
  | recorded (text destTopic : String) (reqId : UInt64)
      (htext : message.headers.lookup HeaderKey.reqId = some text)
      (hread : Text.stoull text = .ok reqId)
      (hdestTopic : message.headers.lookup HeaderKey.destTopic =
        some destTopic)
      (houtcome : outcome = (pendingRequestBook.insert reqId destTopic,
        [.requestHandlerFunc reqId message.payload]))
  | answered (text destTopic : String) (reqId : UInt64)
      (htext : message.headers.lookup HeaderKey.reqId = some text)
      (hread : Text.stoull text = .ok reqId)
      (hdestTopic : message.headers.lookup HeaderKey.destTopic =
        some destTopic)
      (hping : message.headers.lookup HeaderKey.reqType = some ping)
      (houtcome : outcome =
        (pendingRequestBook, [.send (pongRecord destTopic reqId)]))
  | reported (error : String)
      (houtcome : outcome = (pendingRequestBook, [.errCallback error]))

/-- A special request that is new and can be answered is a ping, and has a topic
to be answered on. -/
def SpecialIsPing (message : Message)
    (pendingRequestBook : PendingRequestBook) : Prop :=
  ∀ text reqId destTopic reqType,
    message.headers.lookup HeaderKey.reqId = some text →
    Text.stoull text = .ok reqId → reqId ∉ pendingRequestBook →
    message.headers.lookup HeaderKey.destTopic = some destTopic →
    message.headers.lookup HeaderKey.reqType = some reqType →
    reqType = ping ∧ destTopic ≠ ""

variable {message : Message} {pendingRequestBook : PendingRequestBook}

theorem handleSpecialRequest_ping {destTopic : String} (reqId : UInt64)
    (hdestTopic : destTopic ≠ "") :
    handleSpecialRequest reqId ping destTopic =
      [.send (pongRecord destTopic reqId)] := by
  rw [handleSpecialRequest, if_pos rfl,
    producerFunc_ok "" (pongHeaders reqId) hdestTopic (by decide) (by decide)]
  rfl

/-- Any other special request gets no answer. -/
theorem handleSpecialRequest_dropped {reqType destTopic : String}
    (reqId : UInt64) (hdropped : ¬ (reqType = ping ∧ destTopic ≠ "")) :
    handleSpecialRequest reqId reqType destTopic = [] := by
  rw [handleSpecialRequest]
  split
  · next hping =>
      obtain rfl : destTopic = "" := by
        by_contra hdestTopic
        exact hdropped ⟨hping, hdestTopic⟩
      rfl
  · rfl

/-- A request is settled exactly when it is not a new and complete request of a
special type other than a ping with a topic. -/
theorem settled_iff_specialIsPing (component : Component) (message : Message)
    (pendingRequestBook : PendingRequestBook)
    (hmsgType : message.msgType = MessageType.request) :
    Settled message pendingRequestBook
        (component.refinedMsgCallback message pendingRequestBook) ↔
      SpecialIsPing message pendingRequestBook := by
  rw [refinedMsgCallback_request component pendingRequestBook hmsgType]
  constructor
  · intro hsettled text reqId destTopic reqType htext hread hfresh hdestTopic
      hreqType
    by_contra hdropped
    have hnothing : (handleRequest message pendingRequestBook).2 =
        (pendingRequestBook, []) := by
      simp [handleRequest, hmsgType, htext, hread, admitRequest, hfresh,
        hdestTopic, hreqType, handleSpecialRequest_dropped reqId hdropped]
    rw [hnothing] at hsettled
    cases hsettled with
    | recorded _ _ _ _ _ _ houtcome => simp at houtcome
    | answered _ _ _ _ _ _ _ houtcome => simp at houtcome
    | reported error houtcome => simp at houtcome
  · intro hspecial
    cases received_of_handleRequest pendingRequestBook hmsgType with
    | reported error _ houtcome => exact .reported error houtcome
    | special text destTopic reqType reqId htext hread hfresh hdestTopic
        hreqType houtcome =>
        obtain ⟨rfl, htopic⟩ := hspecial text reqId destTopic reqType htext
          hread hfresh hdestTopic hreqType
        rw [handleSpecialRequest_ping reqId htopic] at houtcome
        exact .answered text destTopic reqId htext hread hdestTopic hreqType
          houtcome
    | recorded text destTopic reqId htext hread _ hdestTopic _ houtcome =>
        exact .recorded text destTopic reqId htext hread hdestTopic houtcome

/-- A request number 7 of a special type. -/
def specialRequest (reqType : String) : Message :=
  ((Request.record ⟨⟨"client", "", true⟩, 7, some reqType, "", "gateway"⟩
    ).message 0 0)

theorem settled_iff_specialIsPing_of_ping :
    Settled (specialRequest ping) ∅
        ((Component.mk "gateway" "" false).refinedMsgCallback
          (specialRequest ping) ∅) ↔
      SpecialIsPing (specialRequest ping) ∅ :=
  settled_iff_specialIsPing ⟨"gateway", "", false⟩ (specialRequest ping) ∅
    (by simp [specialRequest, ProducerRecord.message, Request.record])

/-- A special request that the middleware does not know is dropped. -/
theorem unknown_special_request_dropped :
    (specialRequest "trace").msgType = MessageType.request ∧
      (Component.mk "gateway" "" false).refinedMsgCallback
        (specialRequest "trace") ∅ = (∅, []) ∧
      ¬ Settled (specialRequest "trace") ∅
        ((Component.mk "gateway" "" false).refinedMsgCallback
          (specialRequest "trace") ∅) := by
  have hnothing : (Component.mk "gateway" "" false).refinedMsgCallback
      (specialRequest "trace") ∅ = (∅, []) := rfl
  refine ⟨by simp [specialRequest, ProducerRecord.message, Request.record],
    hnothing, ?_⟩
  rw [hnothing]
  intro hsettled
  cases hsettled with
  | recorded _ _ _ _ _ _ houtcome => simp at houtcome
  | answered _ _ _ _ _ _ _ houtcome => simp at houtcome
  | reported error houtcome => simp at houtcome

/-! ## A message that is sent -/

/-- `respond` answers what `producerFunc` has answered, and takes the request
out of the book only if the response was handed over.  It refuses a number that
is not in the book. -/
def RespondReports (reqId : UInt64) (respPayload : String) (isLast : Bool)
    (pendingRequestBook : PendingRequestBook) : Prop :=
  let outcome := respond reqId respPayload isLast pendingRequestBook
  match pendingRequestBook.lookup reqId with
  | none => outcome.1 ≠ .ok
  | some destTopic =>
      let sent := producerFunc destTopic MessageType.response "Null" respPayload
        (responseHeaders reqId isLast)
      outcome.1 = sent.1 ∧ (reqId ∉ outcome.2.1 → sent.1 = .ok)

/-- `requestFunc` answers what `producerFunc` has answered, unless it refuses a
ping. -/
def RequestReports (component : Component) (reqId : UInt64)
    (reqType : Option String) (payload targetTopic : String) : Prop :=
  (component.requestFunc reqId reqType payload targetTopic).1 =
    if reqType = some ping ∧ component.pongCallback = false then
      .pongCallbackNotRegistered
    else
      (producerFunc targetTopic MessageType.request component.appId payload
        (requestHeaders component.appId reqId reqType)).1

theorem producerFunc_noTopic (msgType key payload : String)
    (headers : KeyValuePairs) :
    producerFunc "" msgType key payload headers = (.topicEmpty, []) := rfl

theorem respondReports_iff (reqId : UInt64) (respPayload : String)
    (isLast : Bool) (pendingRequestBook : PendingRequestBook) :
    RespondReports reqId respPayload isLast pendingRequestBook ↔
      pendingRequestBook.lookup reqId ≠ some "" := by
  rw [RespondReports]
  cases hlookup : pendingRequestBook.lookup reqId with
  | none => simp [respond, hlookup]
  | some destTopic =>
      by_cases hdestTopic : destTopic = ""
      · subst hdestTopic
        simp [respond, hlookup, producerFunc_noTopic]
      · simp [respond, hlookup, hdestTopic,
          producerFunc_ok respPayload (responseHeaders reqId isLast) hdestTopic]

theorem requestReports_iff (component : Component) (reqId : UInt64)
    (reqType : Option String) (payload targetTopic : String) :
    RequestReports component reqId reqType payload targetTopic ↔
      (reqType = some ping ∧ component.pongCallback = false) ∨
        (targetTopic ≠ "" ∧ component.appId ≠ "") := by
  rw [RequestReports, Component.requestFunc]
  split
  · next hrefused => simp [hrefused]
  · next hsent =>
      rw [or_iff_right hsent, producerFunc]
      split_ifs with htopic hkey <;> simp_all

/-- The two functions report what became of a message exactly when it has a
topic, and a request also a key to be sent under, or is not sent at all; and a
request that was recorded is forgotten by its last response without an answer,
although `respond` says `Ok`, exactly when its reply topic is empty. -/
theorem reports_iff_topic (reqId : UInt64) (pendingRequestBook :
    PendingRequestBook) :
    (∀ respPayload isLast,
      RespondReports reqId respPayload isLast pendingRequestBook ↔
        pendingRequestBook.lookup reqId ≠ some "") ∧
    (∀ component reqType payload targetTopic,
      RequestReports component reqId reqType payload targetTopic ↔
        (reqType = some ping ∧ component.pongCallback = false) ∨
          (targetTopic ≠ "" ∧ component.appId ≠ "")) ∧
    ∀ message destTopic respPayload,
      (handleRequest message pendingRequestBook).2 =
        (pendingRequestBook.insert reqId destTopic,
          [.requestHandlerFunc reqId message.payload]) →
      (respond reqId respPayload true
          (handleRequest message pendingRequestBook).2.1 =
        (.ok, (pendingRequestBook.insert reqId destTopic).erase reqId, []) ↔
        destTopic = "") := by
  refine ⟨fun respPayload isLast => respondReports_iff reqId respPayload isLast
    pendingRequestBook, fun component => requestReports_iff component reqId, ?_⟩
  intro message destTopic respPayload hrecorded
  have hlookup : (pendingRequestBook.insert reqId destTopic).lookup reqId =
      some destTopic := Finmap.lookup_insert _
  rw [hrecorded]
  constructor
  · intro hforgotten
    by_contra hdestTopic
    rw [respond_of_lookup respPayload true hdestTopic hlookup] at hforgotten
    simp at hforgotten
  · rintro rfl
    simp [respond, hlookup, producerFunc_noTopic]

/-- A request to answer to no topic is recorded, and then forgotten. -/
theorem answer_to_no_topic :
    ∃ message, (handleRequest message ∅).2 =
        (Finmap.insert 7 "" ∅, [.requestHandlerFunc 7 ""]) ∧
      respond 7 "answer" true (Finmap.insert 7 "" ∅) = (.ok, ∅, []) ∧
      ¬ RespondReports 7 "answer" true (Finmap.insert 7 "" ∅) := by
  refine ⟨⟨"gateway", 0, 0, "request", "client",
    (Finmap.insert "destTopic" "" ∅).insert "reqId" "7", ""⟩, rfl, rfl, ?_⟩
  rw [respondReports_iff, Finmap.lookup_insert]
  simp

end MultiMarketPrices.MiddleWare
