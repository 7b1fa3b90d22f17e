import MultiMarketPrices.PlatformComm.Requests
import MultiMarketPrices.RestApi.Client

/-!
# Snapshots over the REST client

`getSnapshot` asks the exchange for the depth or the last trade of a symbol; the
callback that it leaves with the client takes the body of the response apart.
`on_read` has wrapped the body by then: an object becomes the member `data`, and
anything else becomes nothing.
-/

namespace MultiMarketPrices.Binance

open PlatformComm RestApi

/-- What the handlers of `getSnapshot` capture. -/
structure SnapshotRequest where
  symbol : String
  priceType : PriceType
  deriving DecidableEq

/-- The snapshot that `depthHandler` passes on. -/
def depthSnapshot (symbol : String) (obj : Json.Object) :
    Except Thrown Json.Object :=
  (obj.get "data").asObject.map fun depth =>
    depth.assign "symbol" (.string symbol)

/-- `arr[0]`, which the code does not check. -/
def firstOf : List Json → Except Thrown Json
  | [] => .error .index
  | first :: _ => .ok first

/-- The snapshot that `tradeHandler` passes on. -/
def tradeSnapshot (symbol : String) (obj : Json.Object) :
    Except Thrown Json.Object :=
  (((obj.get "data").asArray.bind firstOf).bind Json.asObject).map fun trade =>
    let trade := trade.assign "symbol" (.string symbol)
    let trade := trade.assign "qty" (trade.get "qty")
    let trade := trade.assign "quantity" (trade.get "qty")
    trade.erase "qty"

/-- The callback that `getSnapshot` gives to the client, up to the response that
the responder's callback makes of it. -/
def SnapshotRequest.callback (serialize : Json.Object → String)
    (request : SnapshotRequest) (obj : Json.Object) (ec : Option ErrorCode) :
    Except Thrown MDRespVariant :=
  match ec, request.priceType with
  | some _, _ => .ok .nullSnapShot
  | none, .depth =>
      (depthSnapshot request.symbol obj).map fun snapshot =>
        .depthSnapshot (serialize snapshot)
  | none, .trade =>
      (tradeSnapshot request.symbol obj).map fun snapshot =>
        .tradeSnapshot (serialize snapshot)

/-- What a call into the gateway leaves behind: the client, the calls of the
router's callback with their `isLast`, and an exception. -/
structure SnapshotOutcome where
  client : RestClient
  responses : List (Bool × MDRespVariant)
  thrown : Option Thrown

def launch (request : SnapshotRequest) (client : RestClient) : RestClient :=
  match request.priceType with
  | .depth =>
      client.launchRequest "/depth" .get
        ("symbol=" ++ request.symbol ++ "&limit=5")
  | .trade =>
      client.launchRequest "/trades" .get
        ("symbol=" ++ request.symbol ++ "&limit=1")

/-- The callback is called by a client that goes on when it returns. -/
def callBack (serialize : Json.Object → String) (request : SnapshotRequest)
    (obj : Json.Object) (ec : Option ErrorCode) (client returned : RestClient) :
    SnapshotOutcome :=
  match request.callback serialize obj ec with
  | .ok response => ⟨returned, [(true, response)], none⟩
  | .error thrown => ⟨client, [], some thrown⟩

/-- A client that is not connected calls back at once. -/
def getSnapshot (serialize : Json.Object → String)
    (symbolUnformatted : String) (priceType : PriceType)
    (client : RestClient) : SnapshotOutcome :=
  let request := ⟨Text.upper symbolUnformatted, priceType⟩
  if client.connected then ⟨launch request client, [], none⟩
  else callBack serialize request [] (some .noData) client client

/-- `on_read` when the request at the front of the queue is one of
`getSnapshot`: its callback runs outside of the `try`, before the request is
popped. -/
def onReadSnapshot (parse : String → Except Thrown Json)
    (serialize : Json.Object → String) (request : SnapshotRequest)
    (written : PendingRequest) (body : String) (client : RestClient) :
    SnapshotOutcome :=
  callBack serialize request (RestClient.responseResult parse body) none client
    (client.onRead parse written body none).client

/-! ## What a body should become -/

/-- The object that a body of the endpoint's own shape is about. -/
def ownData (parse : String → Except Thrown Json) (priceType : PriceType)
    (body : String) : Option Json.Object :=
  match priceType, parse body with
  | .depth, .ok (.object depth) => some depth
  | .trade, .ok (.array (.object trade :: _)) => some trade
  | _, _ => none

/-- The response for a body, which is the null snapshot unless the body has the
shape of its endpoint. -/
def Expected (parse : String → Except Thrown Json)
    (serialize : Json.Object → String) (request : SnapshotRequest)
    (body : String) (response : MDRespVariant) : Prop :=
  match ownData parse request.priceType body with
  | none => response = .nullSnapShot
  | some data => ∃ snapshot : Json.Object,
      snapshot.get "symbol" = .string request.symbol ∧
        match request.priceType with
        | .depth => response = .depthSnapshot (serialize snapshot)
        | .trade => response = .tradeSnapshot (serialize snapshot) ∧
            snapshot.get "quantity" = data.get "qty"

/-- The response is passed on once, as the last one, and the request popped. -/
structure Served (parse : String → Except Thrown Json)
    (serialize : Json.Object → String) (request : SnapshotRequest)
    (body : String) (client : RestClient) (outcome : SnapshotOutcome) :
    Prop where
  hreturned : outcome.thrown = none
  hpopped : outcome.client.queue = client.queue.tail
  hresponse : ∃ response, outcome.responses = [(true, response)] ∧
    Expected parse serialize request body response

/-! ## What becomes of it -/

variable {parse : String → Except Thrown Json}
  {serialize : Json.Object → String}

variable (parse) in
/-- What the callbacks find under `data`. -/
theorem get_responseResult (body : String) :
    (RestClient.responseResult parse body).get "data" = .null ∨
      ∃ depth : Json.Object,
        (RestClient.responseResult parse body).get "data" = .object depth ∧
        parse (Text.cStr body) = .ok (.object depth) ∧
        depth.contains "symbols" = false := by
  rw [RestClient.responseResult]
  split
  · exact .inl rfl
  · split
    · next depth hparse =>
        obtain ⟨value, hparse, hvalue⟩ := bind_eq_ok.mp hparse
        have hobject : value = .object depth := by
          cases value <;> cases hvalue
          rfl
        split
        · exact .inl rfl
        · next hsymbols =>
            exact .inr ⟨depth, rfl, hobject ▸ hparse,
              Bool.not_eq_true _ ▸ hsymbols⟩
    · exact .inl rfl

/-- A callback for trades throws whatever the body is. -/
theorem callback_trade (symbol body : String) :
    (SnapshotRequest.mk symbol .trade).callback serialize
        (RestClient.responseResult parse body) none = .error .kind := by
  simp only [SnapshotRequest.callback, tradeSnapshot]
  rcases get_responseResult parse body with hnull | ⟨depth, hdata, -⟩
  · rw [hnull]
    rfl
  · rw [hdata]
    rfl

theorem callback_depth (symbol : String) {body : String}
    {depth : Json.Object} (hbody : body ≠ "")
    (hparse : parse (Text.cStr body) = .ok (.object depth))
    (hsymbols : depth.contains "symbols" = false) :
    (SnapshotRequest.mk symbol .depth).callback serialize
        (RestClient.responseResult parse body) none =
      .ok (.depthSnapshot
        (serialize (depth.assign "symbol" (.string symbol)))) := by
  simp only [SnapshotRequest.callback, depthSnapshot,
    RestClient.responseResult, if_neg hbody, hparse, Except.bind,
    Json.asObject_object, hsymbols]
  rfl

/-- A callback for a depth that returns has found an object. -/
theorem of_callback_depth {symbol body : String} {response : MDRespVariant}
    (hcallback : (SnapshotRequest.mk symbol .depth).callback serialize
      (RestClient.responseResult parse body) none = .ok response) :
    ∃ depth : Json.Object, parse (Text.cStr body) = .ok (.object depth) ∧
      depth.contains "symbols" = false ∧
      response = .depthSnapshot
        (serialize (depth.assign "symbol" (.string symbol))) := by
  simp only [SnapshotRequest.callback, depthSnapshot] at hcallback
  rcases get_responseResult parse body with hnull |
    ⟨depth, hdata, hparse, hsymbols⟩
  · rw [hnull] at hcallback
    cases hcallback
  · rw [hdata] at hcallback
    exact ⟨depth, hparse, hsymbols, (Except.ok.inj hcallback).symm⟩

/-- The callback throws on every response, unless it is for a depth and finds
one. -/
theorem callback_throws_iff (request : SnapshotRequest) (body : String) :
    (∃ thrown, request.callback serialize
        (RestClient.responseResult parse body) none = .error thrown) ↔
      (request.priceType = .depth → ∀ depth,
        (RestClient.responseResult parse body).get "data" ≠
          .object depth) := by
  obtain ⟨symbol, priceType⟩ := request
  cases priceType with
  | trade =>
      refine iff_of_true ⟨.kind, callback_trade symbol body⟩ ?_
      intro htype
      cases htype
  | depth =>
      simp only [SnapshotRequest.callback, depthSnapshot]
      rcases get_responseResult parse body with hnull | ⟨depth, hdata, -⟩
      · rw [hnull]
        exact iff_of_true ⟨.kind, rfl⟩ (by simp)
      · apply iff_of_false
        · rw [hdata]
          rintro ⟨thrown, hthrown⟩
          cases hthrown
        · exact fun hnone => hnone trivial depth hdata

theorem object_of_expected {symbol body snapshot : String}
    (hexpected : Expected parse serialize ⟨symbol, .depth⟩ body
      (.depthSnapshot snapshot)) :
    ∃ depth, parse body = .ok (.object depth) := by
  cases hown : ownData parse .depth body with
  | none =>
      simp only [Expected, hown] at hexpected
      cases hexpected
  | some depth =>
      unfold ownData at hown
      split at hown
      · next hparse => exact ⟨_, hparse⟩
      · next htype _ => cases htype
      · cases hown

theorem onRead_queue {client : RestClient} {front : PendingRequest}
    {rest : List PendingRequest} (hqueue : client.queue = front :: rest)
    (written : PendingRequest) (body : String) :
    (client.onRead parse written body none).client.queue = rest := by
  simp only [RestClient.onRead, hqueue]
  rw [RestClient.serveNext_queue]

theorem not_served_trade (symbol body : String) (client : RestClient)
    (written : PendingRequest) :
    ¬ Served parse serialize ⟨symbol, .trade⟩ body client
      (onReadSnapshot parse serialize ⟨symbol, .trade⟩ written body
        client) := by
  intro hserved
  have hreturned := hserved.hreturned
  simp [onReadSnapshot, callBack, callback_trade] at hreturned

/-- What is served was an object in all of the body. -/
theorem object_of_served
    (hjson : ∀ text members, parse text = .ok (.object members) →
      text ≠ "" ∧ '\x00' ∉ text.toList)
    {symbol body : String} {client : RestClient} {written : PendingRequest}
    (hserved : Served parse serialize ⟨symbol, .depth⟩ body client
      (onReadSnapshot parse serialize ⟨symbol, .depth⟩ written body client)) :
    ∃ depth : Json.Object, parse body = .ok (.object depth) ∧
      depth.contains "symbols" = false := by
  have hreturned := hserved.hreturned
  obtain ⟨response, hresponses, hexpected⟩ := hserved.hresponse
  simp only [onReadSnapshot, callBack] at hreturned hresponses
  split at hreturned
  · next passed hcallback =>
      rw [hcallback] at hresponses
      obtain ⟨depth, htext, hsymbols, rfl⟩ := of_callback_depth hcallback
      obtain rfl : _ = response := by simpa using hresponses
      obtain ⟨data, hparse⟩ := object_of_expected hexpected
      have hnul := (hjson body data hparse).2
      rw [Text.cStr_eq_self hnul] at htext
      exact ⟨depth, htext, hsymbols⟩
  · cases hreturned

theorem served_of_object
    (hjson : ∀ text members, parse text = .ok (.object members) →
      text ≠ "" ∧ '\x00' ∉ text.toList)
    (symbol : String) {client : RestClient} {front : PendingRequest}
    {rest : List PendingRequest} (hqueue : client.queue = front :: rest)
    (written : PendingRequest) {body : String} {depth : Json.Object}
    (hparse : parse body = .ok (.object depth))
    (hsymbols : depth.contains "symbols" = false) :
    Served parse serialize ⟨symbol, .depth⟩ body client
      (onReadSnapshot parse serialize ⟨symbol, .depth⟩ written body
        client) := by
  obtain ⟨hbody, hnul⟩ := hjson body depth hparse
  have htext : parse (Text.cStr body) = .ok (.object depth) := by
    rw [Text.cStr_eq_self hnul, hparse]
  have houtcome : onReadSnapshot parse serialize ⟨symbol, .depth⟩ written
      body client =
      ⟨(client.onRead parse written body none).client,
        [(true, .depthSnapshot
          (serialize (depth.assign "symbol" (.string symbol))))],
        none⟩ := by
    simp only [onReadSnapshot, callBack,
      callback_depth symbol hbody htext hsymbols]
  rw [houtcome]
  constructor
  · rfl
  · rw [hqueue]
    exact onRead_queue hqueue written body
  · refine ⟨_, rfl, ?_⟩
    simp only [Expected, ownData, hparse]
    exact ⟨_, depth.get_assign "symbol" _, rfl⟩

/-- A response is served exactly when it is for a depth and its body is an
object that has no member `symbols`. -/
theorem snapshot_served_iff (parse : String → Except Thrown Json)
    (serialize : Json.Object → String)
    (hjson : ∀ text members, parse text = .ok (.object members) →
      text ≠ "" ∧ '\x00' ∉ text.toList)
    (request : SnapshotRequest) (client : RestClient)
    (written front : PendingRequest) (rest : List PendingRequest)
    (hqueue : client.queue = front :: rest) (body : String) :
    Served parse serialize request body client
        (onReadSnapshot parse serialize request written body client) ↔
      request.priceType = .depth ∧ ∃ depth : Json.Object,
        parse body = .ok (.object depth) ∧
          depth.contains "symbols" = false := by
  obtain ⟨symbol, priceType⟩ := request
  cases priceType with
  | trade =>
      apply iff_of_false (not_served_trade symbol body client written)
      rintro ⟨htype, -⟩
      cases htype
  | depth =>
      constructor
      · exact fun hserved => ⟨rfl, object_of_served hjson hserved⟩
      · rintro ⟨-, depth, hparse, hsymbols⟩
        exact served_of_object hjson symbol hqueue written hparse hsymbols

/-! ## A depth that is served and trades that are not -/

/-- A connected client that has written one request. -/
def awaiting (target query : String) : RestClient :=
  { RestClient.init "api.binance.com" "/api/v3" with
    connected := true
    connectedOnce := true
    queue := [⟨target, .get, query, 0⟩] }

def emptyDepthText : String := "\x7b\"bids\":[],\"asks\":[]\x7d"

def tradesText : String := "[\x7b\"id\":1,\"qty\":\"0.5\"\x7d]"

/-- `json::parse` on two bodies. -/
def parseBody (text : String) : Except Thrown Json :=
  if text = emptyDepthText then
    .ok (.object [("bids", .array []), ("asks", .array [])])
  else if text = tradesText then
    .ok (.array [.object [("id", .int64 1), ("qty", .string "0.5")]])
  else .error .parse

theorem snapshot_served_iff_of_emptyDepth :
    Served parseBody (fun _ => "serialized") ⟨"BTCUSDT", .depth⟩ emptyDepthText
      (awaiting "/api/v3/depth" "symbol=BTCUSDT&limit=5")
      (onReadSnapshot parseBody (fun _ => "serialized") ⟨"BTCUSDT", .depth⟩
        ⟨"/api/v3/depth", .get, "symbol=BTCUSDT&limit=5", 0⟩ emptyDepthText
        (awaiting "/api/v3/depth" "symbol=BTCUSDT&limit=5")) := by
  have hjson : ∀ text members, parseBody text = .ok (.object members) →
      text ≠ "" ∧ '\x00' ∉ text.toList := by
    intro text members hparse
    rw [parseBody] at hparse
    split at hparse
    · next htext =>
        subst htext
        exact ⟨by decide, by decide⟩
    · split at hparse <;> cases hparse
  refine (snapshot_served_iff parseBody (fun _ => "serialized") hjson
    ⟨"BTCUSDT", .depth⟩ (awaiting "/api/v3/depth" "symbol=BTCUSDT&limit=5")
    ⟨"/api/v3/depth", .get, "symbol=BTCUSDT&limit=5", 0⟩
    ⟨"/api/v3/depth", .get, "symbol=BTCUSDT&limit=5", 0⟩ [] rfl
    emptyDepthText).mpr ?_
  exact ⟨rfl, _, rfl, rfl⟩

/-- The answer to a request for the last trade: an array with one trade. -/
theorem trades_throw_out_of_onRead :
    (onReadSnapshot parseBody (fun _ => "serialized") ⟨"BTCUSDT", .trade⟩
        ⟨"/api/v3/trades", .get, "symbol=BTCUSDT&limit=1", 0⟩ tradesText
        (awaiting "/api/v3/trades" "symbol=BTCUSDT&limit=1")) =
      ⟨awaiting "/api/v3/trades" "symbol=BTCUSDT&limit=1", [], some .kind⟩ ∧
    ¬ Served parseBody (fun _ => "serialized") ⟨"BTCUSDT", .trade⟩ tradesText
      (awaiting "/api/v3/trades" "symbol=BTCUSDT&limit=1")
      (onReadSnapshot parseBody (fun _ => "serialized") ⟨"BTCUSDT", .trade⟩
        ⟨"/api/v3/trades", .get, "symbol=BTCUSDT&limit=1", 0⟩ tradesText
        (awaiting "/api/v3/trades" "symbol=BTCUSDT&limit=1")) := by
  have houtcome :
      onReadSnapshot parseBody (fun _ => "serialized") ⟨"BTCUSDT", .trade⟩
        ⟨"/api/v3/trades", .get, "symbol=BTCUSDT&limit=1", 0⟩ tradesText
        (awaiting "/api/v3/trades" "symbol=BTCUSDT&limit=1") =
      ⟨awaiting "/api/v3/trades" "symbol=BTCUSDT&limit=1", [],
        some .kind⟩ := by
    simp only [onReadSnapshot, callBack, callback_trade]
  refine ⟨houtcome, fun hserved => ?_⟩
  have hreturned := hserved.hreturned
  rw [houtcome] at hreturned
  cases hreturned

end MultiMarketPrices.Binance
