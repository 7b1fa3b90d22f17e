import MultiMarketPrices.Core.Json
import MultiMarketPrices.Core.Runs

/-!
# The REST client

`BinanceRestClient` (RestApi.h, RestApi.cpp) serves its queue of requests one at
a time over a connection that it makes again after every failure.  This module
translates its handlers.  The asynchronous operations that have been started
and the waits on its one timer are part of the state.

A callback is known by the ticket of its request, counted in the order of
launching, and a stream by how many were made before it.  The user agent of a
request, the delays of the timer and the number of bytes are left out.
-/

namespace MultiMarketPrices.RestApi

/-- The errors of `http::error` that `isFatalError` names, and the others. -/
inductive HttpError
  | badAlloc
  | badMethod
  | badVersion
  | badStatus
  | badReason
  | badField
  | badValue
  | badContentLength
  | badTransferEncoding
  | badChunk
  | badChunkExtension
  | badLineEnding
  | badObsFold
  | other (value : ℤ)
  deriving DecidableEq

/-- What the client distinguishes of a `beast::error_code`. -/
inductive ErrorCode
  /-- `net::error::operation_aborted` -/
  | operationAborted
  /-- `net::error::no_data` -/
  | noData
  /-- a code of `net::error::get_ssl_category()` -/
  | ssl (value : ℤ)
  | http (error : HttpError)
  | other (value : ℤ)
  deriving DecidableEq

def isFatalError : ErrorCode → Bool
  | .ssl _ => true
  | .http (.other _) => false
  | .http _ => true
  | _ => false

/-- `http::verb`; the client uses no other. -/
inductive Verb
  | get
  deriving DecidableEq

structure PendingRequest where
  target : String
  method : Verb
  query : String
  /-- stands for the callback -/
  ticket : ℕ
  deriving DecidableEq

structure HttpRequest where
  method : Verb
  target : String
  version : ℕ
  host : String
  deriving DecidableEq

/-- What `async_write` is given for a request. -/
def PendingRequest.httpRequest (host : String) (request : PendingRequest) :
    HttpRequest :=
  ⟨request.method, request.target, 11, host⟩

inductive Stage
  | resolve
  | connect
  | handshake
  | write (request : PendingRequest)
  /-- the read of the response to what was written for the request -/
  | read (request : PendingRequest)
  deriving DecidableEq

/-- The request of an HTTP operation. -/
def Stage.httpRequest? : Stage → Option PendingRequest
  | write request | read request => some request
  | _ => none

structure Operation where
  stream : ℕ
  stage : Stage
  deriving DecidableEq

/-- What a wait on the timer is for. -/
inductive Wait
  | retry
  | keepAlive
  deriving DecidableEq

structure RestClient where
  host : String
  apiVersion : String
  /-- the stream in use; the resolver is made anew with it -/
  stream : ℕ
  operations : List Operation
  /-- waits that have not expired; `cancel` and `expires_after` drop them, since
  the handlers do nothing when a wait is aborted -/
  armed : List Wait
  /-- waits that have expired and whose handlers have not run -/
  expired : List Wait
  /-- tasks of `launch_request` posted to the strand -/
  posted : List PendingRequest
  queue : List PendingRequest
  request : Option HttpRequest
  connected : Bool
  connectedOnce : Bool
  tickets : ℕ

/-- One call of a callback. -/
structure Invocation where
  /-- the request whose callback it is -/
  request : PendingRequest
  result : Json.Object
  ec : Option ErrorCode
  /-- the request that was written for the response, if there is one -/
  answered : Option PendingRequest

/-- What a handler leaves behind: the client, the callbacks it called, and the
argument of each call of `m_readyCallback`, where `none` is the null error. -/
structure Outcome where
  client : RestClient
  invocations : List Invocation
  ready : List (Option ErrorCode)

namespace RestClient

def init (host apiVersion : String) : RestClient where
  host := host
  apiVersion := apiVersion
  stream := 0
  operations := []
  armed := []
  expired := []
  posted := []
  queue := []
  request := none
  connected := false
  connectedOnce := false
  tickets := 0

/-- Start an operation on the stream in use. -/
def begin (stage : Stage) (client : RestClient) : RestClient :=
  { client with
    operations := client.operations ++ [⟨client.stream, stage⟩] }

def run (client : RestClient) : RestClient := client.begin .resolve

/-- `m_timer.cancel()`, and what `m_timer.expires_after` does to the waits. -/
def cancelTimer (client : RestClient) : RestClient :=
  { client with armed := [] }

def asyncWait (wait : Wait) (client : RestClient) : RestClient :=
  { client with armed := client.armed ++ [wait] }

/-! ## Requests -/

def launchRequest (path : String) (method : Verb) (query : String)
    (client : RestClient) : RestClient :=
  let target := client.apiVersion ++ path
  let target := if query = "" then target else target ++ "?" ++ query
  { client with
    posted := client.posted ++ [⟨target, method, query, client.tickets⟩]
    tickets := client.tickets + 1 }

/-- The code reads `m_queue.front()` unchecked. -/
def startNextRequest (client : RestClient) : RestClient :=
  match client.queue with
  | [] => client
  | current :: _ =>
      { client with request := some (current.httpRequest client.host) }.begin
        (.write current)

/-- `if (!m_queue.empty()) start_next_request();` -/
def serveNext (client : RestClient) : RestClient :=
  if client.queue = [] then client else client.startNextRequest

/-- The task that `launch_request` posts. -/
def push (request : PendingRequest) (client : RestClient) : RestClient :=
  let client := { client with queue := client.queue ++ [request] }
  if client.queue.length = 1 && client.connected then client.startNextRequest
  else client

def ping (client : RestClient) : RestClient :=
  client.launchRequest "/ping" .get ""

/-! ## Keeping the connection alive -/

def scheduleKeepAlive (client : RestClient) : RestClient :=
  client.cancelTimer.asyncWait .keepAlive

def keepAlive (client : RestClient) : RestClient :=
  if !client.connected then client
  else (if client.queue = [] then client.ping else client).scheduleKeepAlive

/-! ## Failures -/

/-- The calls of callbacks for requests that get no response. -/
def refusals (ec : ErrorCode) (requests : List PendingRequest) :
    List Invocation :=
  requests.map fun request => ⟨request, [], some ec, none⟩

def closeConnection (client : RestClient) : RestClient × List Invocation :=
  ({ client with queue := [] }, refusals .noData client.queue)

def fail (ec : ErrorCode) (client : RestClient) : Outcome :=
  if ec = .operationAborted then ⟨client, [], []⟩
  else
    let client := { client with connected := false }
    if isFatalError ec && !client.connectedOnce then
      let closed := client.cancelTimer.closeConnection
      ⟨{ closed.1 with queue := [] }, closed.2 ++ refusals ec closed.1.queue,
        [some ec]⟩
    else
      ⟨({ client with stream := client.stream + 1 }.cancelTimer).asyncWait
        .retry, [], []⟩

/-! ## Completions -/

def onResolve (ec : Option ErrorCode) (client : RestClient) : Outcome :=
  match ec with
  | some ec => client.fail ec
  | none => ⟨client.begin .connect, [], []⟩

/-- `sni` is the error that `SSL_set_tlsext_host_name` leaves, if it fails. -/
def onConnect (ec : Option ErrorCode) (sni : Option ℤ) (client : RestClient) :
    Outcome :=
  match ec, sni with
  | some ec, _ => client.fail ec
  | none, some value => client.fail (.ssl value)
  | none, none => ⟨client.begin .handshake, [], []⟩

def onHandshake (ec : Option ErrorCode) (client : RestClient) : Outcome :=
  match ec with
  | some ec => client.fail ec
  | none =>
      let client := { client with connected := true, connectedOnce := true }
      let client := client.cancelTimer.scheduleKeepAlive
      ⟨client.serveNext, [], [none]⟩

def doRead (request : PendingRequest) (client : RestClient) : RestClient :=
  client.begin (.read request)

def onWrite (request : PendingRequest) (ec : Option ErrorCode)
    (client : RestClient) : Outcome :=
  match ec with
  | some ec => client.fail ec
  | none => ⟨client.doRead request, [], []⟩

/-- The object that a callback is given for the body of a response. -/
def responseResult (parse : String → Except Thrown Json) (body : String) :
    Json.Object :=
  if body = "" then []
  else match (parse (Text.cStr body)).bind Json.asObject with
    | .ok obj =>
        if obj.contains "symbols" then [("symbols", obj.get "symbols")]
        else [("data", .object obj)]
    | .error _ => []

/-- The code reads `m_queue.front()` unchecked. -/
def onRead (parse : String → Except Thrown Json) (request : PendingRequest)
    (body : String) (ec : Option ErrorCode) (client : RestClient) : Outcome :=
  match ec with
  | some ec => client.fail ec
  | none =>
      match client.queue with
      | [] => ⟨client, [], []⟩
      | front :: rest =>
          let client := { client with queue := rest }
          ⟨client.serveNext,
            [⟨front, responseResult parse body, none, some request⟩], []⟩

/-- The handler of an operation, given how it completed. -/
def complete (parse : String → Except Thrown Json) (stage : Stage)
    (ec : Option ErrorCode) (sni : Option ℤ) (body : String)
    (client : RestClient) : Outcome :=
  match stage with
  | .resolve => client.onResolve ec
  | .connect => client.onConnect ec sni
  | .handshake => client.onHandshake ec
  | .write request => client.onWrite request ec
  | .read request => client.onRead parse request body ec

end RestClient

inductive ClientEvent
  /-- `launch_request` is called -/
  | launch (path : String) (method : Verb) (query : String)
  /-- the strand runs the oldest posted task -/
  | runPosted
  /-- an operation completes -/
  | completed (operation : Operation) (ec : Option ErrorCode) (sni : Option ℤ)
    (body : String)
  /-- the timer expires -/
  | expire
  /-- the handler of a wait that expired runs -/
  | timer (wait : Wait)

namespace RestClient

/-- One event on the strand.  An operation is aborted only on a stream that has
been replaced. -/
def step (parse : String → Except Thrown Json) (client : RestClient) :
    ClientEvent → Option Outcome
  | .launch path method query =>
      some ⟨client.launchRequest path method query, [], []⟩
  | .runPosted =>
      match client.posted with
      | [] => none
      | request :: rest =>
          some ⟨{ client with posted := rest }.push request, [], []⟩
  | .completed operation ec sni body =>
      if operation ∉ client.operations then none
      else if ec = some .operationAborted ∧
          operation.stream = client.stream then
        none
      else
        some ({ client with
          operations := client.operations.erase operation }.complete parse
            operation.stage ec sni body)
  | .expire =>
      some ⟨{ client with
        armed := []
        expired := client.expired ++ client.armed }, [], []⟩
  | .timer wait =>
      if wait ∉ client.expired then none
      else
        let client := { client with expired := client.expired.erase wait }
        match wait with
        | .retry => some ⟨client.run, [], []⟩
        | .keepAlive => some ⟨client.keepAlive, [], []⟩

/-! ## What the handlers do, by case -/

variable {client : RestClient}

/-- What an event can do.  An operation that completes was started, and its
completion is not that of an abort on the stream in use. -/
inductive Stepped (parse : String → Except Thrown Json) (client : RestClient) :
    ClientEvent → Outcome → Prop
  | launch (path : String) (method : Verb) (query : String) :
      Stepped parse client (.launch path method query)
        ⟨client.launchRequest path method query, [], []⟩
  | runPosted (request : PendingRequest) (rest : List PendingRequest)
      (hposted : client.posted = request :: rest) :
      Stepped parse client .runPosted
        ⟨{ client with posted := rest }.push request, [], []⟩
  | completed (operation : Operation) (ec : Option ErrorCode) (sni : Option ℤ)
      (body : String) (hmem : operation ∈ client.operations)
      (hec : ¬ (ec = some .operationAborted ∧
        operation.stream = client.stream)) :
      Stepped parse client (.completed operation ec sni body)
        ({ client with
          operations := client.operations.erase operation }.complete parse
            operation.stage ec sni body)
  | expire :
      Stepped parse client .expire
        ⟨{ client with
          armed := [], expired := client.expired ++ client.armed }, [], []⟩
  | retry (hmem : .retry ∈ client.expired) :
      Stepped parse client (.timer .retry)
        ⟨{ client with expired := client.expired.erase .retry }.run, [], []⟩
  | keepAlive (hmem : .keepAlive ∈ client.expired) :
      Stepped parse client (.timer .keepAlive)
        ⟨{ client with
          expired := client.expired.erase .keepAlive }.keepAlive, [], []⟩

theorem stepped_of_step {parse : String → Except Thrown Json}
    {event : ClientEvent} {outcome : Outcome}
    (hstep : client.step parse event = some outcome) :
    Stepped parse client event outcome := by
  cases event with
  | launch path method query =>
      obtain rfl := Option.some.inj hstep
      exact .launch path method query
  | runPosted =>
      simp only [step] at hstep
      split at hstep
      · exact absurd hstep (by simp)
      · next request rest hposted =>
          obtain rfl := Option.some.inj hstep
          exact .runPosted request rest hposted
  | completed operation ec sni body =>
      simp only [step] at hstep
      split_ifs at hstep with hmem hec
      obtain rfl := Option.some.inj hstep
      exact .completed operation ec sni body hmem hec
  | expire =>
      obtain rfl := Option.some.inj hstep
      exact .expire
  | timer wait =>
      simp only [step] at hstep
      split_ifs at hstep with hmem
      cases wait with
      | retry =>
          obtain rfl := Option.some.inj hstep
          exact .retry hmem
      | keepAlive =>
          obtain rfl := Option.some.inj hstep
          exact .keepAlive hmem

/-- Every handler of an operation treats an error alike. -/
theorem complete_of_failure (client : RestClient)
    (parse : String → Except Thrown Json) (stage : Stage) (ec : ErrorCode)
    (sni : Option ℤ) (body : String) :
    client.complete parse stage (some ec) sni body = client.fail ec := by
  cases stage <;> rfl

theorem startNextRequest_of_queue {current : PendingRequest}
    {rest : List PendingRequest} (hqueue : client.queue = current :: rest) :
    client.startNextRequest =
      { client with
        request := some (current.httpRequest client.host)
        operations := client.operations ++
          [⟨client.stream, .write current⟩] } := by
  rw [startNextRequest, hqueue]
  rfl

theorem serveNext_queue (client : RestClient) :
    client.serveNext.queue = client.queue := by
  rw [serveNext]
  cases hqueue : client.queue with
  | nil => rw [if_pos rfl, hqueue]
  | cons current rest =>
      rw [if_neg (by simp), startNextRequest_of_queue hqueue]
      exact hqueue

/-- A fatal failure before the first connection gives up. -/
theorem fail_of_fatal {ec : ErrorCode} (hec : ec ≠ .operationAborted)
    (hfatal : (isFatalError ec && !client.connectedOnce) = true) :
    client.fail ec =
      ⟨{ client with connected := false, armed := [], queue := [] },
        refusals .noData client.queue, [some ec]⟩ := by
  simp [fail, hec, hfatal, closeConnection, cancelTimer, refusals]

/-- Any other failure keeps the queue, and is retried on a new stream. -/
theorem fail_of_retry {ec : ErrorCode} (hec : ec ≠ .operationAborted)
    (hretry : (isFatalError ec && !client.connectedOnce) = false) :
    client.fail ec =
      ⟨{ client with
          connected := false, stream := client.stream + 1, armed := [.retry] },
        [], []⟩ := by
  simp [fail, hec, hretry, cancelTimer, asyncWait]

end RestClient

end MultiMarketPrices.RestApi
