import MultiMarketPrices.Core.Runs
import MultiMarketPrices.MiddleWare.Interface

/-!
# Answers reach the request they are for

Any number of requesters and one responder.  A message that was sent can be
handled at any time, again and again, and a response can be given at any time
too.  The responder knows a request by nothing but the number that its
requester chose; what it answers goes to the requester whose request was
accepted last under that number, and is read there as it was given.
-/

namespace MultiMarketPrices.MiddleWare

/-- The arguments of a call of `requestFunc`, and whose call it is. -/
structure Request where
  component : Component
  reqId : UInt64
  reqType : Option String
  payload : String
  targetTopic : String

def Request.record (request : Request) : ProducerRecord where
  topic := request.targetTopic
  key := request.component.appId
  headers := (requestHeaders request.component.appId request.reqId
    request.reqType).insert HeaderKey.messageType MessageType.request
  value := request.payload

def responseRecord (destTopic : String) (reqId : UInt64) (respPayload : String)
    (isLast : Bool) : ProducerRecord where
  topic := destTopic
  key := "Null"
  headers := (responseHeaders reqId isLast).insert HeaderKey.messageType
    MessageType.response
  value := respPayload

def pongRecord (destTopic : String) (reqId : UInt64) : ProducerRecord where
  topic := destTopic
  key := "Null"
  headers := (pongHeaders reqId).insert HeaderKey.messageType
    MessageType.response
  value := ""

/-! ## What is written can be read -/

theorem mem_requestFunc {request : Request} {effect : Effect}
    (hmem : effect ∈ (request.component.requestFunc request.reqId
      request.reqType request.payload request.targetTopic).2) :
    request.component.appId ≠ "" ∧ effect = .send request.record := by
  rw [Component.requestFunc] at hmem
  split at hmem
  · exact absurd hmem List.not_mem_nil
  · obtain ⟨-, happId, heffect⟩ := mem_producerFunc hmem
    exact ⟨happId, heffect⟩

theorem respond_of_lookup {reqId : UInt64} {destTopic : String}
    {pendingRequestBook : PendingRequestBook} (respPayload : String)
    (isLast : Bool) (hdestTopic : destTopic ≠ "")
    (hlookup : pendingRequestBook.lookup reqId = some destTopic) :
    respond reqId respPayload isLast pendingRequestBook =
      (.ok,
        if isLast then pendingRequestBook.erase reqId else pendingRequestBook,
        [.send (responseRecord destTopic reqId respPayload isLast)]) := by
  simp only [respond, hlookup]
  rw [producerFunc_ok respPayload (responseHeaders reqId isLast) hdestTopic
    (by decide) (by decide)]
  rfl

theorem handleResponse_responseRecord (pongCallback : Bool)
    (destTopic : String) (reqId : UInt64) (respPayload : String)
    (isLast : Bool) (partition offset : ℤ) :
    handleResponse pongCallback
        ((responseRecord destTopic reqId respPayload isLast).message partition
          offset) =
      (true, [.responseCallback reqId respPayload isLast]) := by
  cases isLast <;>
    simp [handleResponse, deliverResponse, ProducerRecord.message,
      responseRecord, responseHeaders, Text.stoull_ofUInt64]

theorem handleResponse_pongRecord (pongCallback : Bool)
    (destTopic : String) (reqId : UInt64) (partition offset : ℤ) :
    handleResponse pongCallback
        ((pongRecord destTopic reqId).message partition offset) =
      (true, if pongCallback then [.pongCallback reqId] else []) := by
  simp [handleResponse, deliverResponse, ProducerRecord.message, pongRecord,
    pongHeaders, Text.stoull_ofUInt64]

/-- How the responder reads a request. -/
theorem handleRequest_record (request : Request) (partition offset : ℤ)
    (pendingRequestBook : PendingRequestBook) :
    handleRequest (request.record.message partition offset)
        pendingRequestBook =
      (true,
        if request.reqId ∈ pendingRequestBook then
          (pendingRequestBook, [.errCallback
            ("Duplicate reqId in request header: " ++
              Text.ofUInt64 request.reqId)])
        else
          match request.reqType with
          | some reqType =>
              (pendingRequestBook, handleSpecialRequest request.reqId reqType
                request.component.appId)
          | none =>
              (pendingRequestBook.insert request.reqId
                  request.component.appId,
                [.requestHandlerFunc request.reqId request.payload])) := by
  cases hreqType : request.reqType <;>
    simp [handleRequest, admitRequest, ProducerRecord.message, Request.record,
      requestHeaders, hreqType, Text.stoull_ofUInt64]

theorem refinedMsgCallback_record (component : Component) (request : Request)
    (partition offset : ℤ) (pendingRequestBook : PendingRequestBook) :
    component.refinedMsgCallback (request.record.message partition offset)
        pendingRequestBook =
      (handleRequest (request.record.message partition offset)
        pendingRequestBook).2 := by
  apply refinedMsgCallback_request
  simp [ProducerRecord.message, Request.record]

/-! ## What has happened under a number -/

inductive Happening
  /-- the request handler was called for a request, with what was read of it -/
  | accepted (request : Request) (reqId : UInt64) (msg : String)
  /-- a response was sent -/
  | responded (reqId : UInt64) (isLast : Bool)

/-- The request was accepted under the number, no other has been since, and
there has been no last response. -/
def Open (log : List Happening) (reqId : UInt64) (request : Request) : Prop :=
  ∃ earlier later msg, log = earlier ++ .accepted request reqId msg :: later ∧
    (∀ other msg, .accepted other reqId msg ∉ later) ∧
    .responded reqId true ∉ later

theorem not_open_nil (reqId : UInt64) (request : Request) :
    ¬ Open [] reqId request := by
  rintro ⟨earlier, later, msg, hlog, -⟩
  simp at hlog

theorem Open.accepted {log : List Happening} {reqId : UInt64}
    {request : Request} (hopen : Open log reqId request) :
    ∃ msg, .accepted request reqId msg ∈ log := by
  obtain ⟨earlier, later, msg, rfl, -⟩ := hopen
  exact ⟨msg, by simp⟩

theorem open_concat {log : List Happening} {happening : Happening}
    {reqId : UInt64} {request : Request} :
    Open (log ++ [happening]) reqId request ↔
      (∃ msg, happening = .accepted request reqId msg) ∨
        (Open log reqId request ∧
          (∀ other msg, happening ≠ .accepted other reqId msg) ∧
          happening ≠ .responded reqId true) := by
  constructor
  · rintro ⟨earlier, later, msg, hlog, hnone, hlast⟩
    rcases List.eq_nil_or_concat later with rfl | ⟨later, final, rfl⟩
    · obtain ⟨-, hsame⟩ := List.append_inj' hlog rfl
      exact .inl ⟨msg, (List.cons.inj hsame).1⟩
    · rw [List.concat_eq_append, ← List.cons_append,
        ← List.append_assoc] at hlog
      obtain ⟨hbefore, hsame⟩ := List.append_inj' hlog rfl
      obtain rfl := (List.cons.inj hsame).1
      simp only [List.concat_eq_append, List.mem_append, List.mem_singleton,
        not_or] at hnone hlast
      exact .inr ⟨⟨earlier, later, msg, hbefore,
        fun other msg => (hnone other msg).1, hlast.1⟩,
        fun other msg => Ne.symm (hnone other msg).2, Ne.symm hlast.2⟩
  · rintro (⟨msg, rfl⟩ | ⟨⟨earlier, later, msg, rfl, hnone, hlast⟩, hother,
      hopen⟩)
    · exact ⟨log, [], msg, rfl, by simp, by simp⟩
    · refine ⟨earlier, later ++ [happening], msg, by simp, ?_, ?_⟩
      · intro other msg hmem
        rcases List.mem_append.mp hmem with hbefore | hnow
        · exact hnone other msg hbefore
        · exact hother other msg (List.mem_singleton.mp hnow).symm
      · intro hmem
        rcases List.mem_append.mp hmem with hbefore | hnow
        · exact hlast hbefore
        · exact hopen (List.mem_singleton.mp hnow).symm

/-- The book holds the reply topics of the requests that are open. -/
def Books (log : List Happening) (pendingRequestBook : PendingRequestBook) :
    Prop :=
  ∀ reqId appId, pendingRequestBook.lookup reqId = some appId ↔
    ∃ request, Open log reqId request ∧ request.component.appId = appId

variable {log : List Happening} {pendingRequestBook : PendingRequestBook}

theorem Books.accept (hbooks : Books log pendingRequestBook)
    (request : Request) (reqId : UInt64) (msg : String) :
    Books (log ++ [.accepted request reqId msg])
      (pendingRequestBook.insert reqId request.component.appId) := by
  intro other appId
  rw [Finmaps.lookup_insert_if]
  by_cases hsame : other = reqId
  · subst hsame
    rw [if_pos rfl, Option.some.injEq]
    constructor
    · rintro rfl
      exact ⟨request, open_concat.mpr (.inl ⟨msg, rfl⟩), rfl⟩
    · rintro ⟨found, hopen, rfl⟩
      rcases open_concat.mp hopen with ⟨msg', heq⟩ | ⟨-, hother, -⟩
      · rw [(Happening.accepted.inj heq).1]
      · exact absurd rfl (hother request msg)
  · rw [if_neg hsame, hbooks other appId]
    apply exists_congr
    intro found
    apply and_congr_left
    intro _
    rw [open_concat]
    constructor
    · intro hopen
      refine .inr ⟨hopen, fun _ _ heq => ?_, nofun⟩
      exact hsame (Happening.accepted.inj heq).2.1.symm
    · rintro (⟨msg', heq⟩ | ⟨hopen, -⟩)
      · exact absurd (Happening.accepted.inj heq).2.1.symm hsame
      · exact hopen

theorem Books.respond (hbooks : Books log pendingRequestBook) (reqId : UInt64)
    (isLast : Bool) :
    Books (log ++ [.responded reqId isLast])
      (if isLast then pendingRequestBook.erase reqId
        else pendingRequestBook) := by
  intro other appId
  have hlookup : (if isLast then pendingRequestBook.erase reqId
        else pendingRequestBook).lookup other = some appId ↔
      pendingRequestBook.lookup other = some appId ∧
        ¬ (isLast = true ∧ other = reqId) := by
    cases isLast with
    | false => simp
    | true =>
        simp only [if_true, Finmaps.lookup_erase_if]
        by_cases hsame : other = reqId <;> simp [hsame]
  rw [hlookup, hbooks other appId]
  constructor
  · rintro ⟨⟨found, hopen, happId⟩, hother⟩
    refine ⟨found, open_concat.mpr (.inr ⟨hopen, nofun, ?_⟩), happId⟩
    intro heq
    obtain ⟨rfl, rfl⟩ := Happening.responded.inj heq
    exact hother ⟨rfl, rfl⟩
  · rintro ⟨found, hopen, happId⟩
    rcases open_concat.mp hopen with ⟨msg, heq⟩ | ⟨hopen, -, hlast⟩
    · cases heq
    · refine ⟨⟨found, hopen, happId⟩, ?_⟩
      rintro ⟨rfl, rfl⟩
      exact hlast rfl

/-! ## Requesters and a responder -/

def sent : Effect → Option ProducerRecord
  | .send record => some record
  | _ => none

def accepts (request : Request) : Effect → Option Happening
  | .requestHandlerFunc reqId msg => some (.accepted request reqId msg)
  | _ => none

structure Exchange where
  /-- of the responder -/
  pendingRequestBook : PendingRequestBook
  /-- what the requesters have sent, and for which call -/
  requests : List (Request × ProducerRecord)
  /-- what the responder has sent -/
  responses : List ProducerRecord
  log : List Happening

inductive ExchangeEvent
  /-- a requester calls `requestFunc` -/
  | request (request : Request)
  /-- the loop of the responder passes on one of the requests that were sent -/
  | handle (place : ℕ) (partition offset : ℤ)
  /-- the responder calls `respond` -/
  | respond (reqId : UInt64) (respPayload : String) (isLast : Bool)

namespace Exchange

def init : Exchange := ⟨∅, [], [], []⟩

def request (request : Request) (exchange : Exchange) : Exchange :=
  let outcome := request.component.requestFunc request.reqId request.reqType
    request.payload request.targetTopic
  { exchange with
    requests := exchange.requests ++
      (outcome.2.filterMap sent).map fun record => (request, record) }

def handle (responder : Component) (request : Request) (message : Message)
    (exchange : Exchange) : Exchange :=
  let outcome :=
    responder.refinedMsgCallback message exchange.pendingRequestBook
  { exchange with
    pendingRequestBook := outcome.1
    responses := exchange.responses ++ outcome.2.filterMap sent
    log := exchange.log ++ outcome.2.filterMap (accepts request) }

def respond (reqId : UInt64) (respPayload : String) (isLast : Bool)
    (exchange : Exchange) : Exchange :=
  let outcome :=
    MiddleWare.respond reqId respPayload isLast exchange.pendingRequestBook
  { exchange with
    pendingRequestBook := outcome.2.1
    responses := exchange.responses ++ outcome.2.2.filterMap sent
    log := exchange.log ++
      if outcome.1 = .ok then [.responded reqId isLast] else [] }

def step (responder : Component) (exchange : Exchange) :
    ExchangeEvent → Option Exchange
  | .request request => some (exchange.request request)
  | .handle place partition offset =>
      exchange.requests[place]?.map fun entry =>
        exchange.handle responder entry.1 (entry.2.message partition offset)
  | .respond reqId respPayload isLast =>
      some (exchange.respond reqId respPayload isLast)

/-- What the responder knows agrees with what the requesters have asked. -/
structure Correlated (exchange : Exchange) : Prop where
  hbooks : Books exchange.log exchange.pendingRequestBook
  hrequests : ∀ entry ∈ exchange.requests,
    entry.1.component.appId ≠ "" ∧ entry.2 = entry.1.record
  haccepted : ∀ request reqId msg, .accepted request reqId msg ∈ exchange.log →
    (request, request.record) ∈ exchange.requests ∧
      reqId = request.reqId ∧ msg = request.payload
  hresponses : ∀ record ∈ exchange.responses, ∃ request,
    (request, request.record) ∈ exchange.requests ∧
      (record = pongRecord request.component.appId request.reqId ∨
        ∃ respPayload isLast, record = responseRecord request.component.appId
          request.reqId respPayload isLast)

variable {exchange next : Exchange}

theorem correlated_init : init.Correlated where
  hbooks reqId appId := by
    simp [init, not_open_nil]
  hrequests := by simp [init]
  haccepted := by simp [init]
  hresponses := by simp [init]

theorem Correlated.request (hcorrelated : exchange.Correlated)
    (request : Request) : (exchange.request request).Correlated where
  hbooks := hcorrelated.hbooks
  hrequests := by
    intro entry hmem
    rcases List.mem_append.mp hmem with hbefore | hnow
    · exact hcorrelated.hrequests entry hbefore
    · obtain ⟨record, hrecord, rfl⟩ := List.mem_map.mp hnow
      obtain ⟨effect, heffect, hsent⟩ := List.mem_filterMap.mp hrecord
      obtain ⟨happId, rfl⟩ := mem_requestFunc heffect
      exact ⟨happId, (Option.some.inj hsent).symm⟩
  haccepted other reqId msg hmem := by
    obtain ⟨hrequest, hread⟩ := hcorrelated.haccepted other reqId msg hmem
    exact ⟨List.mem_append_left _ hrequest, hread⟩
  hresponses record hmem := by
    obtain ⟨other, hother, hrecord⟩ := hcorrelated.hresponses record hmem
    exact ⟨other, List.mem_append_left _ hother, hrecord⟩

/-- What handling a request can do. -/
inductive Handled (exchange : Exchange) (request : Request) : Exchange → Prop
  | nothing : Handled exchange request exchange
  | ponged : Handled exchange request
      { exchange with
        responses := exchange.responses ++
          [pongRecord request.component.appId request.reqId] }
  | accepted (hfresh : request.reqId ∉ exchange.pendingRequestBook) :
      Handled exchange request
        { exchange with
          pendingRequestBook := exchange.pendingRequestBook.insert
            request.reqId request.component.appId
          log := exchange.log ++
            [.accepted request request.reqId request.payload] }

theorem handled_of_handle (responder : Component) (exchange : Exchange)
    {request : Request} (happId : request.component.appId ≠ "")
    (partition offset : ℤ) :
    Handled exchange request (exchange.handle responder request
      (request.record.message partition offset)) := by
  simp only [handle, refinedMsgCallback_record, handleRequest_record]
  by_cases hpending : request.reqId ∈ exchange.pendingRequestBook
  · simp only [hpending, if_true, List.filterMap_cons, List.filterMap_nil, sent,
      accepts, List.append_nil]
    exact .nothing
  · rw [if_neg hpending]
    cases hreqType : request.reqType with
    | none =>
        simp only [List.filterMap_cons, List.filterMap_nil, sent, accepts,
          List.append_nil]
        exact .accepted hpending
    | some reqType =>
        by_cases hping : reqType = ping
        · simp only [handleSpecialRequest, if_pos hping]
          rw [producerFunc_ok "" (pongHeaders request.reqId) happId
            (by decide) (by decide)]
          simp only [List.filterMap_cons, List.filterMap_nil, sent, accepts,
            List.append_nil]
          exact .ponged
        · simp only [handleSpecialRequest, hping, if_false,
            List.filterMap_nil, List.append_nil]
          exact .nothing

theorem Correlated.handle (hcorrelated : exchange.Correlated)
    {request : Request}
    (hrequest : (request, request.record) ∈ exchange.requests)
    (hhandled : Handled exchange request next) : next.Correlated := by
  cases hhandled with
  | nothing => exact hcorrelated
  | ponged =>
      refine ⟨hcorrelated.hbooks, hcorrelated.hrequests,
        hcorrelated.haccepted, ?_⟩
      intro record hmem
      rcases List.mem_append.mp hmem with hbefore | hnow
      · exact hcorrelated.hresponses record hbefore
      · exact ⟨request, hrequest, .inl (List.mem_singleton.mp hnow)⟩
  | accepted hfresh =>
      refine ⟨hcorrelated.hbooks.accept request request.reqId request.payload,
        hcorrelated.hrequests, ?_, hcorrelated.hresponses⟩
      intro other reqId msg hmem
      rcases List.mem_append.mp hmem with hbefore | hnow
      · exact hcorrelated.haccepted other reqId msg hbefore
      · obtain ⟨rfl, rfl, rfl⟩ :=
          Happening.accepted.inj (List.mem_singleton.mp hnow)
        exact ⟨hrequest, rfl, rfl⟩

/-- An open request was asked under its number by a requester with a topic. -/
theorem Correlated.of_open (hcorrelated : exchange.Correlated)
    {reqId : UInt64} {request : Request}
    (hopen : Open exchange.log reqId request) :
    (request, request.record) ∈ exchange.requests ∧
      reqId = request.reqId ∧ request.component.appId ≠ "" := by
  obtain ⟨msg, hmem⟩ := hopen.accepted
  obtain ⟨hrequest, hreqId, -⟩ :=
    hcorrelated.haccepted request reqId msg hmem
  exact ⟨hrequest, hreqId, (hcorrelated.hrequests _ hrequest).1⟩

/-- How the responder answers. -/
theorem Correlated.respond_of_open (hcorrelated : exchange.Correlated)
    {reqId : UInt64} {request : Request}
    (hopen : Open exchange.log reqId request) (respPayload : String)
    (isLast : Bool) :
    MiddleWare.respond reqId respPayload isLast exchange.pendingRequestBook =
      (.ok,
        if isLast then exchange.pendingRequestBook.erase reqId
          else exchange.pendingRequestBook,
        [.send (responseRecord request.component.appId reqId respPayload
          isLast)]) := by
  obtain ⟨-, -, happId⟩ := hcorrelated.of_open hopen
  exact respond_of_lookup respPayload isLast happId
    ((hcorrelated.hbooks reqId _).mpr ⟨request, hopen, rfl⟩)

theorem Correlated.respond_of_closed (hcorrelated : exchange.Correlated)
    {reqId : UInt64} (hclosed : ∀ request, ¬ Open exchange.log reqId request)
    (respPayload : String) (isLast : Bool) :
    MiddleWare.respond reqId respPayload isLast exchange.pendingRequestBook =
      (.nonExistentReqId, exchange.pendingRequestBook,
        [.errCallback ("Unknown reqId: " ++ Text.ofUInt64 reqId)]) := by
  have hnone : exchange.pendingRequestBook.lookup reqId = none := by
    by_contra hsome
    obtain ⟨appId, hlookup⟩ := Option.ne_none_iff_exists'.mp hsome
    obtain ⟨request, hopen, -⟩ := (hcorrelated.hbooks reqId appId).mp hlookup
    exact hclosed request hopen
  simp only [MiddleWare.respond, hnone]

theorem Correlated.respond (hcorrelated : exchange.Correlated)
    (reqId : UInt64) (respPayload : String) (isLast : Bool) :
    (exchange.respond reqId respPayload isLast).Correlated := by
  by_cases hexists : ∃ request, Open exchange.log reqId request
  · obtain ⟨request, hopen⟩ := hexists
    obtain ⟨hrequest, hreqId, -⟩ := hcorrelated.of_open hopen
    simp only [Exchange.respond,
      hcorrelated.respond_of_open hopen respPayload isLast]
    refine ⟨hcorrelated.hbooks.respond reqId isLast, hcorrelated.hrequests,
      ?_, ?_⟩
    · intro other otherId msg hmem
      rcases List.mem_append.mp hmem with hbefore | hnow
      · exact hcorrelated.haccepted other otherId msg hbefore
      · simp at hnow
    · intro record hmem
      rcases List.mem_append.mp hmem with hbefore | hnow
      · exact hcorrelated.hresponses record hbefore
      · refine ⟨request, hrequest, .inr ⟨respPayload, isLast, ?_⟩⟩
        rw [← hreqId]
        simpa [sent] using hnow
  · simp only [Exchange.respond, hcorrelated.respond_of_closed
      (not_exists.mp hexists) respPayload isLast]
    simp only [List.filterMap_cons, List.filterMap_nil, sent, List.append_nil,
      reduceCtorEq, if_false]
    exact hcorrelated

theorem Correlated.step {responder : Component}
    (hcorrelated : exchange.Correlated) {event : ExchangeEvent}
    (hstep : exchange.step responder event = some next) :
    next.Correlated := by
  cases event with
  | request request =>
      obtain rfl := Option.some.inj hstep
      exact hcorrelated.request request
  | handle place partition offset =>
      obtain ⟨entry, hentry, rfl⟩ := Option.map_eq_some_iff.mp hstep
      have hmem := List.mem_of_getElem? hentry
      obtain ⟨happId, hrecord⟩ := hcorrelated.hrequests entry hmem
      have hrequest : (entry.1, entry.1.record) ∈ exchange.requests := by
        rw [← hrecord]
        exact hmem
      rw [hrecord]
      exact hcorrelated.handle hrequest
        (handled_of_handle responder exchange happId partition offset)
  | respond reqId respPayload isLast =>
      obtain rfl := Option.some.inj hstep
      exact hcorrelated.respond reqId respPayload isLast

theorem Correlated.mem_iff (hcorrelated : exchange.Correlated)
    (reqId : UInt64) :
    reqId ∈ exchange.pendingRequestBook ↔
      ∃ request, Open exchange.log reqId request := by
  rw [Finmap.mem_iff]
  constructor
  · rintro ⟨appId, hlookup⟩
    obtain ⟨request, hopen, -⟩ := (hcorrelated.hbooks reqId appId).mp hlookup
    exact ⟨request, hopen⟩
  · rintro ⟨request, hopen⟩
    exact ⟨request.component.appId,
      (hcorrelated.hbooks reqId _).mpr ⟨request, hopen, rfl⟩⟩

/-- What was sent to a topic is read there as the answer to a request from
there. -/
theorem Correlated.answers (hcorrelated : exchange.Correlated)
    {record : ProducerRecord} (hrecord : record ∈ exchange.responses) :
    ∃ request, (request, request.record) ∈ exchange.requests ∧
      record.topic = request.component.appId ∧
      ∀ pongCallback partition offset reqId msg isLast,
        .responseCallback reqId msg isLast ∈ (handleResponse pongCallback
          (record.message partition offset)).2 → reqId = request.reqId := by
  obtain ⟨request, hrequest, rfl | ⟨respPayload, final, rfl⟩⟩ :=
    hcorrelated.hresponses record hrecord
  · refine ⟨request, hrequest, rfl, ?_⟩
    intro pongCallback partition offset reqId msg isLast hmem
    rw [handleResponse_pongRecord] at hmem
    cases pongCallback <;> simp at hmem
  · refine ⟨request, hrequest, rfl, ?_⟩
    intro pongCallback partition offset reqId msg isLast hmem
    rw [handleResponse_responseRecord] at hmem
    exact (Effect.responseCallback.inj (List.mem_singleton.mp hmem)).1

/-- After every interleaving a number is in the book exactly while a request
that was accepted under it is open; a response under it goes to the topic of
that requester, who reads it as it was given; under any other number nothing is
sent.  All that was ever sent to a topic answers a request from there. -/
theorem responses_correlated (responder : Component)
    (events : List ExchangeEvent) (exchange : Exchange)
    (hrun : Runs.run (step responder) init events = some exchange) :
    (∀ request reqId msg, .accepted request reqId msg ∈ exchange.log →
        (request, request.record) ∈ exchange.requests ∧
          reqId = request.reqId ∧ msg = request.payload) ∧
      (∀ reqId, reqId ∈ exchange.pendingRequestBook ↔
        ∃ request, Open exchange.log reqId request) ∧
      (∀ reqId request respPayload isLast, Open exchange.log reqId request →
        ∃ record, record.topic = request.component.appId ∧
          MiddleWare.respond reqId respPayload isLast
              exchange.pendingRequestBook =
            (.ok,
              if isLast then exchange.pendingRequestBook.erase reqId
                else exchange.pendingRequestBook,
              [.send record]) ∧
          ∀ pongCallback partition offset,
            handleResponse pongCallback (record.message partition offset) =
              (true, [.responseCallback reqId respPayload isLast])) ∧
      (∀ reqId respPayload isLast, reqId ∉ exchange.pendingRequestBook →
        MiddleWare.respond reqId respPayload isLast
            exchange.pendingRequestBook =
          (.nonExistentReqId, exchange.pendingRequestBook,
            [.errCallback ("Unknown reqId: " ++ Text.ofUInt64 reqId)])) ∧
      ∀ record ∈ exchange.responses, ∃ request,
        (request, request.record) ∈ exchange.requests ∧
          record.topic = request.component.appId ∧
          ∀ pongCallback partition offset reqId msg isLast,
            .responseCallback reqId msg isLast ∈ (handleResponse pongCallback
              (record.message partition offset)).2 →
            reqId = request.reqId := by
  have hcorrelated : exchange.Correlated :=
    Runs.run_invariant Correlated
      (fun _ _ _ hbefore hstep => hbefore.step hstep) correlated_init hrun
  refine ⟨hcorrelated.haccepted, hcorrelated.mem_iff, ?_, ?_,
    fun _ hrecord => hcorrelated.answers hrecord⟩
  · intro reqId request respPayload isLast hopen
    exact ⟨responseRecord request.component.appId reqId respPayload isLast,
      rfl, hcorrelated.respond_of_open hopen respPayload isLast,
      fun pongCallback => handleResponse_responseRecord pongCallback _ reqId
        respPayload isLast⟩
  · intro reqId respPayload isLast habsent
    apply hcorrelated.respond_of_closed
    intro request hopen
    exact habsent ((hcorrelated.mem_iff reqId).mpr ⟨request, hopen⟩)

/-- A request under number 7 from a component. -/
def seventh (appId payload : String) : Request :=
  ⟨⟨appId, "", false⟩, 7, none, payload, "gateway"⟩

/-- Two requesters choose one number; the second is refused until the first has
had its last response. -/
def sharedNumber : List ExchangeEvent :=
  [.request (seventh "first" "a"), .request (seventh "second" "b"),
    .handle 0 0 0, .handle 1 0 1, .respond 7 "for a" true, .handle 1 0 1]

theorem responses_correlated_of_sharedNumber :
    ∃ exchange, Runs.run (step ⟨"gateway", "", false⟩) init sharedNumber =
        some exchange ∧
      exchange.log = [.accepted (seventh "first" "a") 7 "a",
        .responded 7 true, .accepted (seventh "second" "b") 7 "b"] ∧
      ∃ record, record.topic = "second" ∧
        MiddleWare.respond 7 "for b" false exchange.pendingRequestBook =
          (.ok, exchange.pendingRequestBook, [.send record]) ∧
        handleResponse false (record.message 0 0) =
          (true, [.responseCallback 7 "for b" false]) := by
  obtain ⟨exchange, hrun, hlog⟩ :
      ∃ exchange, Runs.run (step ⟨"gateway", "", false⟩) init sharedNumber =
          some exchange ∧
        exchange.log = [.accepted (seventh "first" "a") 7 "a",
          .responded 7 true, .accepted (seventh "second" "b") 7 "b"] :=
    ⟨_, rfl, rfl⟩
  have hopen : Open exchange.log 7 (seventh "second" "b") := by
    refine ⟨[.accepted (seventh "first" "a") 7 "a", .responded 7 true], [], "b",
      hlog, ?_, ?_⟩ <;> simp
  obtain ⟨-, -, hresponds, -⟩ :=
    responses_correlated ⟨"gateway", "", false⟩ sharedNumber exchange hrun
  obtain ⟨record, htopic, hanswer, hread⟩ :=
    hresponds 7 (seventh "second" "b") "for b" false hopen
  exact ⟨exchange, hrun, hlog, record, htopic, hanswer, hread false 0 0⟩

end Exchange

end MultiMarketPrices.MiddleWare
