import MultiMarketPrices.Binance.Keys
import MultiMarketPrices.MiddleWare.Interface

/-!
# The requests that the platform passes on

What a request that the middleware has accepted asks of the request router, and
what the handler of its responses gives back to the middleware.
-/

namespace MultiMarketPrices.PlatformComm

open Binance

inductive MDReqType
  | tradeSnapshot
  | depthSnapshot
  | instrumentList
  deriving DecidableEq

/-- A request; the snapshot requests wrap the symbol. -/
inductive MDReqVariant
  | tradeSnapshotRequest (symbol : String)
  | depthSnapshotRequest (symbol : String)
  | instrumentListRequest
  deriving DecidableEq

/-- A response; all but the null snapshot wrap a serialized object. -/
inductive MDRespVariant
  | tradeSnapshot (snapshot : String)
  | depthSnapshot (snapshot : String)
  | instrumentRecord (record : String)
  | nullSnapShot
  deriving DecidableEq

/-- A handler of responses, with what it captures. -/
inductive ResponseHandler
  /-- of `handlePriceRequest` -/
  | price (symbol priceTypeStr : String)
  /-- of `handleInstrumentListRequest` -/
  | instrumentList
  deriving DecidableEq

/-- The arguments of `reqResMethods.request`. -/
structure RouterRequest where
  reqId : UInt64
  reqType : MDReqType
  reqData : MDReqVariant
  responseHandler : ResponseHandler
  deriving DecidableEq

/-- The payload that `respondFunc` is called with, if it is called; `serialize`
is `json::serialize`. -/
def ResponseHandler.payload (serialize : Json.Object → String) :
    ResponseHandler → MDRespVariant → Option String
  | price _ _, .tradeSnapshot snapshot => some snapshot
  | price _ _, .depthSnapshot snapshot => some snapshot
  | price _ _, .instrumentRecord _ => none
  | price symbol priceTypeStr, .nullSnapShot =>
      some (serialize [("message_type", .string "price_blanked"),
        ("symbol", .string symbol), ("type", .string priceTypeStr)])
  | instrumentList, .instrumentRecord record => some record
  | instrumentList, _ => none

def priceRequest (reqId : UInt64) (priceType : PriceType)
    (symbol priceTypeStr : String) : RouterRequest :=
  let isTrade := priceType = .trade
  { reqId := reqId
    reqType := if isTrade then .tradeSnapshot else .depthSnapshot
    reqData :=
      if isTrade then .tradeSnapshotRequest symbol
      else .depthSnapshotRequest symbol
    responseHandler := .price symbol priceTypeStr }

/-- A request for another price type is dropped. -/
def handlePriceRequest (reqId : UInt64) (obj : Json.Object) :
    Except Thrown (Option RouterRequest) :=
  (obj.cStrAt "type").bind fun priceTypeStr =>
    match strToPriceType priceTypeStr with
    | none => .ok none
    | some priceType => (obj.cStrAt "symbol").map fun symbol =>
        some (priceRequest reqId priceType symbol priceTypeStr)

def handleInstrumentListRequest (reqId : UInt64) : RouterRequest where
  reqId := reqId
  reqType := .instrumentList
  reqData := .instrumentListRequest
  responseHandler := .instrumentList

/-- The request handler that `init` gives to the middleware: what it asks of the
router, or the exception that leaves it.  A message of another type is
dropped. -/
def requestHandler (parse : String → Except Thrown Json) (reqId : UInt64)
    (payLoad : String) : Except Thrown (Option RouterRequest) :=
  ((parse payLoad).bind Json.asObject).bind fun obj =>
    (obj.cStrAt "message_type").bind fun msgType =>
      if msgType = "price_request" then handlePriceRequest reqId obj
      else if msgType = "instrument_request" then
        .ok (some (handleInstrumentListRequest reqId))
      else .ok none

/-- What a request has to say to be passed on. -/
inductive Asks (parse : String → Except Thrown Json) (payLoad : String) :
    MDReqType → Prop
  | price (members : Json.Object) (priceType : PriceType) (symbol : String)
      (hparse : parse payLoad = .ok (.object members))
      (hmsgType : members.cStrAt "message_type" = .ok "price_request")
      (hpriceType : members.cStrAt "type" = .ok priceType.text)
      (hsymbol : members.cStrAt "symbol" = .ok symbol) :
      Asks parse payLoad
        (if priceType = .trade then .tradeSnapshot else .depthSnapshot)
  | instrumentList (members : Json.Object)
      (hparse : parse payLoad = .ok (.object members))
      (hmsgType : members.cStrAt "message_type" = .ok "instrument_request") :
      Asks parse payLoad .instrumentList

variable {parse : String → Except Thrown Json} {reqId : UInt64}
  {payLoad : String}

theorem text_of_strToPriceType {priceTypeStr : String} {priceType : PriceType}
    (hpriceType : strToPriceType priceTypeStr = some priceType) :
    priceTypeStr = priceType.text := by
  rw [strToPriceType] at hpriceType
  split_ifs at hpriceType with hdepth htrade
  · rw [← Option.some.inj hpriceType, hdepth]
    rfl
  · rw [← Option.some.inj hpriceType, htrade]
    rfl

/-- The two kinds of requests that are passed on. -/
theorem asks_of_requestHandler {asked : RouterRequest}
    (hasked : requestHandler parse reqId payLoad = .ok (some asked)) :
    Asks parse payLoad asked.reqType ∧
      (asked = handleInstrumentListRequest reqId ∨
        ∃ (priceType : PriceType) (symbol : String),
          asked = priceRequest reqId priceType symbol priceType.text) := by
  obtain ⟨members, hobject, hasked⟩ := bind_eq_ok.mp hasked
  obtain ⟨value, hparse, hvalue⟩ := bind_eq_ok.mp hobject
  obtain rfl : value = .object members := by
    cases value <;> cases hvalue
    rfl
  obtain ⟨msgType, hmsgType, hasked⟩ := bind_eq_ok.mp hasked
  split_ifs at hasked with hprice hinstruments
  · subst hprice
    obtain ⟨priceTypeStr, htype, hasked⟩ := bind_eq_ok.mp hasked
    split at hasked
    · cases hasked
    · next priceType hpriceType =>
        obtain ⟨symbol, hsymbol, hsome⟩ := map_eq_ok.mp hasked
        obtain rfl := text_of_strToPriceType hpriceType
        obtain rfl := Option.some.inj hsome
        exact ⟨.price members priceType symbol hparse hmsgType htype hsymbol,
          .inr ⟨priceType, symbol, rfl⟩⟩
  · subst hinstruments
    obtain rfl := Option.some.inj (Except.ok.inj hasked)
    exact ⟨.instrumentList members hparse hmsgType, .inl rfl⟩
  · cases hasked

theorem requestHandler_of_asks {reqType : MDReqType}
    (hasks : Asks parse payLoad reqType) (reqId : UInt64) :
    ∃ asked, requestHandler parse reqId payLoad = .ok (some asked) ∧
      asked.reqType = reqType := by
  cases hasks with
  | price members priceType symbol hparse hmsgType hpriceType hsymbol =>
      refine ⟨priceRequest reqId priceType symbol priceType.text, ?_, rfl⟩
      simp [requestHandler, hparse, Except.bind, hmsgType, handlePriceRequest,
        hpriceType, strToPriceType_text, hsymbol, Except.map]
  | instrumentList members hparse hmsgType =>
      refine ⟨handleInstrumentListRequest reqId, ?_, rfl⟩
      simp [requestHandler, hparse, Except.bind, hmsgType]

end MultiMarketPrices.PlatformComm
