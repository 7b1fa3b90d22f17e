import MultiMarketPrices.PlatformComm.Gateway
import MultiMarketPrices.WebSockets.Session

/-!
# Keys and streams of the Binance gateway

A subscribe request names a symbol and a price type; its key joins the two, the
stream name lower-cases the symbol, and the key of a market update upper-cases
it again.  The round trip through the exchange therefore gives back the key of
a request exactly when its symbol has no lower-case letter.
-/

namespace MultiMarketPrices.Binance

open PlatformComm WebSockets

inductive PriceType
  | depth
  | trade
  deriving DecidableEq

def PriceType.text : PriceType → String
  | depth => "depth"
  | trade => "trade"

def strToPriceType (priceType : String) : Option PriceType :=
  if priceType = "depth" then some .depth
  else if priceType = "trade" then some .trade
  else none

/-- An exception on the way leaves no key. -/
def generateKeyFromSubUnsubRequest (subUnsubRequest : Json.Object) :
    Option String :=
  match subUnsubRequest.cStrAt "symbol",
    (subUnsubRequest.atKey "type").bind Json.asString with
  | .ok symbol, .ok type => some (symbol ++ ":" ++ type)
  | _, _ => none

def keyGenFunc : SubUnsubVariant → Option String
  | .subRequest request => generateKeyFromSubUnsubRequest request
  | .unsubRequest request => generateKeyFromSubUnsubRequest request

/-- `tokens[0]` and `tokens[1]` are read unchecked. -/
def keyDisintegrationFunc (key : String) :
    Except Thrown (String × String × String) :=
  match Text.split ':' key with
  | symbol :: type :: _ => .ok (symbol, type, "BINANCE")
  | _ => .error .index

/-- The common body of `subscribe` and `unsubscribe`: the call they make on the
session, if any.  They log a key without two tokens and read past its end. -/
def callFor (onTrade onDepth : String → Call) (key : String) :
    Except Thrown (Option Call) :=
  match Text.split ':' key with
  | symbol :: type :: _ =>
      .ok ((strToPriceType type).map fun priceType =>
        if priceType = .trade then onTrade (Text.lower symbol)
        else onDepth (Text.lower symbol))
  | _ => .error .index

def subscribe : String → Except Thrown (Option Call) :=
  callFor .subscribeTrade .subscribeDepth

def unsubscribe : String → Except Thrown (Option Call) :=
  callFor .unsubscribeTrade .unsubscribeDepth

/-! ## Market updates -/

def transformDepthForPlatForm (symbol : String) (obj : Json.Object) :
    Option Json.Object :=
  some (obj.assign "symbol" (.string symbol))

/-- The code takes the symbol too, and does not use it. -/
def transformTradeForPlatForm (obj : Json.Object) : Option Json.Object :=
  if !obj.contains "s" || !obj.contains "p" || !obj.contains "q" then none
  else
    let obj := obj.assign "symbol" (obj.get "s")
    let obj := obj.assign "price" (obj.get "p")
    let obj := obj.assign "quantity" (obj.get "q")
    some (((obj.erase "s").erase "p").erase "q")

/-- The key and the data that a frame is routed under, if any. -/
def onPriceUpdate (parse : String → Except Thrown Json) (update : String) :
    Except Thrown (Option (String × MDUpdateVariant)) :=
  (parse update).bind fun value => value.asObject.bind fun obj =>
    if !obj.contains "data" then .ok none
    else
      ((obj.get "stream").asString.map Text.cStr).bind fun symbolAndStream =>
        match Text.split '@' symbolAndStream with
        | symbol :: stream :: _ =>
            (obj.get "data").asObject.bind fun data =>
              let symbol := Text.upper symbol
              if Text.hasPart stream "trade" then
                .ok ((transformTradeForPlatForm data).map fun obj =>
                  (symbol ++ ":" ++ "trade", .tradeUpdate (.object obj)))
              else if Text.hasPart stream "depth" then
                .ok ((transformDepthForPlatForm symbol data).map fun obj =>
                  (symbol ++ ":" ++ "depth", .depthUpdate (.object obj)))
              else
                .ok none
        | _ => .ok none

/-- A frame that the code can turn into an update: an object with the stream's
name and an object of data, which for a trade has the members it renames. -/
def WellFormedFrame (parse : String → Except Thrown Json)
    (priceType : PriceType) (stream frame : String) : Prop :=
  ∃ members data : Json.Object, parse frame = .ok (.object members) ∧
    members.lookup "stream" = some (.string stream) ∧
    members.lookup "data" = some (.object data) ∧
    (priceType = .trade →
      data.contains "s" ∧ data.contains "p" ∧ data.contains "q")

/-! ## Keys of well-formed requests -/

/-- The key of a symbol and a price type. -/
def keyOf (symbol : String) (priceType : PriceType) : String :=
  symbol ++ ":" ++ priceType.text

/-- The stream of a symbol and a price type. -/
def streamOf (symbol : String) : PriceType → String
  | .trade => Text.lower symbol ++ "@trade"
  | .depth => Text.lower symbol ++ "@depth5"

theorem generateKey_eq_some_iff {obj : Json.Object} {key : String} :
    generateKeyFromSubUnsubRequest obj = some key ↔
      ∃ symbol type, obj.lookup "symbol" = some (.string symbol) ∧
        obj.lookup "type" = some (.string type) ∧
        Text.cStr symbol ++ ":" ++ type = key := by
  rw [generateKeyFromSubUnsubRequest]
  constructor
  · intro hkey
    split at hkey
    · next symbol type hsymbol htype =>
        obtain ⟨value, hvalue, rfl⟩ := Json.Object.cStrAt_eq_ok.mp hsymbol
        exact ⟨value, type, hvalue,
          Json.Object.asString_atKey_eq_ok.mp htype, Option.some.inj hkey⟩
    · exact absurd hkey (by simp)
  · rintro ⟨symbol, type, hsymbol, htype, rfl⟩
    rw [Json.Object.cStrAt_of_lookup hsymbol,
      Json.Object.asString_atKey_eq_ok.mpr htype]

theorem generateKey_eq {request : Json.Object} {symbol : String}
    {priceType : PriceType}
    (hsymbol : request.lookup "symbol" = some (.string symbol))
    (htype : request.lookup "type" = some (.string priceType.text)) :
    generateKeyFromSubUnsubRequest request =
      some (keyOf (Text.cStr symbol) priceType) :=
  generateKey_eq_some_iff.mpr ⟨symbol, priceType.text, hsymbol, htype, rfl⟩

/-- The key of a request has a colon. -/
theorem colon_mem_of_generateKey {request : Json.Object} {key : String}
    (hkey : generateKeyFromSubUnsubRequest request = some key) :
    ':' ∈ key.toList := by
  obtain ⟨symbol, type, -, -, rfl⟩ := generateKey_eq_some_iff.mp hkey
  simp [String.toList_append]

theorem generateKey_ne_wildCard {request : Json.Object} {key : String}
    (hkey : generateKeyFromSubUnsubRequest request = some key) :
    key ≠ instrumentWildCard := by
  rintro rfl
  exact absurd (colon_mem_of_generateKey hkey) (by decide)

theorem generateKey_ne_empty {request : Json.Object} {key : String}
    (hkey : generateKeyFromSubUnsubRequest request = some key) : key ≠ "" := by
  rintro rfl
  simpa using colon_mem_of_generateKey hkey

theorem split_keyOf {symbol : String} (hcolon : ':' ∉ symbol.toList)
    (priceType : PriceType) :
    Text.split ':' (keyOf symbol priceType) = [symbol, priceType.text] := by
  apply Text.split_eq_pair _ hcolon
  · cases priceType <;> decide
  · simp [keyOf, String.toList_append]

theorem strToPriceType_text (priceType : PriceType) :
    strToPriceType priceType.text = some priceType := by
  cases priceType <;> decide

/-- The session's call for a key is about its stream. -/
theorem callFor_keyOf {symbol : String} (hcolon : ':' ∉ symbol.toList)
    (priceType : PriceType) (onTrade onDepth : String → Call) :
    callFor onTrade onDepth (keyOf symbol priceType) =
      .ok (some (if priceType = .trade then onTrade (Text.lower symbol)
        else onDepth (Text.lower symbol))) := by
  rw [callFor, split_keyOf hcolon]
  simp [strToPriceType_text]

theorem subscribe_keyOf {symbol : String} (hcolon : ':' ∉ symbol.toList)
    (priceType : PriceType) :
    ∃ call, subscribe (keyOf symbol priceType) = .ok (some call) ∧
      call.method = .subscribe ∧ call.stream = streamOf symbol priceType := by
  rw [subscribe, callFor_keyOf hcolon]
  cases priceType <;> exact ⟨_, rfl, rfl, rfl⟩

theorem unsubscribe_keyOf {symbol : String} (hcolon : ':' ∉ symbol.toList)
    (priceType : PriceType) :
    ∃ call, unsubscribe (keyOf symbol priceType) = .ok (some call) ∧
      call.method = .unsubscribe ∧ call.stream = streamOf symbol priceType := by
  rw [unsubscribe, callFor_keyOf hcolon]
  cases priceType <;> exact ⟨_, rfl, rfl, rfl⟩

/-- The suffix that the session adds to a symbol. -/
def streamSuffix : PriceType → String
  | .trade => "trade"
  | .depth => "depth5"

theorem split_streamOf {symbol : String} (hat : '@' ∉ symbol.toList)
    (priceType : PriceType) :
    Text.split '@' (streamOf symbol priceType) =
      [Text.lower symbol, streamSuffix priceType] := by
  apply Text.split_eq_pair _ (Text.not_mem_lower (by decide) hat)
  · cases priceType <;> decide
  · cases priceType <;> simp [streamOf, streamSuffix, String.toList_append]

/-! ## The way back -/

theorem nul_not_mem_streamOf {symbol : String} (hnul : '\x00' ∉ symbol.toList)
    (priceType : PriceType) : '\x00' ∉ (streamOf symbol priceType).toList := by
  have hlower : '\x00' ∉ (Text.lower symbol).toList :=
    Text.not_mem_lower (by decide) hnul
  cases priceType with
  | trade =>
      rw [streamOf, String.toList_append, List.mem_append, not_or]
      exact ⟨hlower, by decide⟩
  | depth =>
      rw [streamOf, String.toList_append, List.mem_append, not_or]
      exact ⟨hlower, by decide⟩

/-- A well-formed frame of a stream is routed under the key of the upper-case
symbol. -/
theorem onPriceUpdate_streamOf {parse : String → Except Thrown Json}
    {symbol frame : String} {priceType : PriceType}
    (hat : '@' ∉ symbol.toList) (hnul : '\x00' ∉ symbol.toList)
    (hframe : WellFormedFrame parse priceType (streamOf symbol priceType)
      frame) :
    ∃ data, onPriceUpdate parse frame =
        .ok (some (keyOf (Text.upper symbol) priceType, data)) ∧
      data ≠ .priceBlanking := by
  obtain ⟨members, data, hparse, hstream, hdata, htrade⟩ := hframe
  have hname : ((members.get "stream").asString.map Text.cStr) =
      .ok (streamOf symbol priceType) := by
    simp only [Json.Object.get, hstream, Option.getD_some,
      Json.asString_string, Except.map]
    rw [Text.cStr_eq_self (nul_not_mem_streamOf hnul priceType)]
  have hsome : members.contains "data" = true := by
    simp [Json.Object.contains, hdata]
  have hobject : (members.get "data").asObject = .ok data := by
    simp [Json.Object.get, hdata]
  simp only [onPriceUpdate, hparse, Except.bind, Json.asObject_object, hsome,
    Bool.not_true, Bool.false_eq_true, if_false, hname,
    split_streamOf hat, hobject, Text.upper_lower]
  cases priceType with
  | trade =>
      obtain ⟨hs, hp, hq⟩ := htrade rfl
      rw [if_pos (by decide)]
      simp only [transformTradeForPlatForm, hs, hp, hq, Bool.not_true,
        Bool.or_self, Bool.false_eq_true, if_false, Option.map_some]
      exact ⟨_, rfl, by simp⟩
  | depth =>
      rw [if_neg (by decide), if_pos (by decide)]
      exact ⟨_, rfl, by simp⟩

theorem keyOf_left_inj {first second : String} {priceType : PriceType} :
    keyOf first priceType = keyOf second priceType ↔ first = second := by
  constructor
  · intro heq
    have hlists := congrArg String.toList heq
    simp only [keyOf, String.toList_append, List.append_cancel_right_eq]
      at hlists
    exact String.toList_inj.mp hlists
  · rintro rfl
    rfl

/-- A frame is fed to a key when it is routed under that very key, to all its
topics. -/
def Feeds (platform : Platform) (frame key : String) : Prop :=
  ∃ data, onPriceUpdate platform.parse frame = .ok (some (key, data)) ∧
    ∀ book destTopic, destTopic ∈ RoutingBook.topics book key →
      ∃ records msgType payload,
        platform.onPriceDataFromExchange book key data = .ok records ∧
        .produce destTopic msgType key payload ∈ records

theorem keyOf_ne_wildCard (symbol : String) (priceType : PriceType) :
    keyOf symbol priceType ≠ instrumentWildCard := by
  intro heq
  have hlists := congrArg String.toList heq
  have hcolon : ':' ∈ (keyOf symbol priceType).toList := by
    simp [keyOf, String.toList_append]
  rw [heq] at hcolon
  exact absurd hcolon (by decide)

/-- The round trip: for every accepted subscribe request, each well-formed
frame of the stream that the session subscribes for its key feeds that key,
exactly when the symbol has no lower-case letter. -/
theorem feeds_iff_upper (platform : Platform) (request : Json.Object)
    (symbol key frame : String) (priceType : PriceType) (call : Call)
    (hsymbol : request.lookup "symbol" = some (.string symbol))
    (htype : request.lookup "type" = some (.string priceType.text))
    (hcolon : ':' ∉ symbol.toList) (hat : '@' ∉ symbol.toList)
    (hkey : keyGenFunc (.subRequest request) = some key)
    (hcall : subscribe key = .ok (some call))
    (hframe : WellFormedFrame platform.parse priceType call.stream frame) :
    Feeds platform frame key ↔
      Text.upper (Text.cStr symbol) = Text.cStr symbol := by
  have hcolon' : ':' ∉ (Text.cStr symbol).toList :=
    fun hmem => hcolon (Text.mem_of_mem_cStr hmem)
  have hat' : '@' ∉ (Text.cStr symbol).toList :=
    fun hmem => hat (Text.mem_of_mem_cStr hmem)
  have heq : keyOf (Text.cStr symbol) priceType = key := by
    rw [keyGenFunc, generateKey_eq hsymbol htype] at hkey
    exact Option.some.inj hkey
  subst heq
  obtain ⟨posted, hposted, -, hstream⟩ := subscribe_keyOf hcolon' priceType
  obtain rfl : posted = call := by simpa [hposted] using hcall
  rw [hstream] at hframe
  obtain ⟨data, hupdate, hdata⟩ :=
    onPriceUpdate_streamOf hat' (Text.nul_not_mem_cStr symbol) hframe
  constructor
  · rintro ⟨fed, hfed, -⟩
    rw [hupdate] at hfed
    exact keyOf_left_inj.mp (Prod.mk.inj (Option.some.inj
      (Except.ok.inj hfed))).1
  · intro hupper
    rw [hupper] at hupdate
    refine ⟨data, hupdate, fun book destTopic htopic => ?_⟩
    exact platform.mem_onPriceDataFromExchange (keyOf_ne_wildCard _ _) hdata
      htopic

/-- A trade of BTC as the exchange frames it. -/
def tradeFrame : String :=
  "\x7b\"stream\":\"btc@trade\",\"data\":\x7b\"s\":\"BTC\"," ++
    "\"p\":\"1.5\",\"q\":\"2\"\x7d\x7d"

def tradeFrameData : Json.Object :=
  [("s", .string "BTC"), ("p", .string "1.5"), ("q", .string "2")]

/-- The Binance gateway, with `tradeFrame` to parse. -/
def tradePlatform : Platform :=
  .ofTexts keyGenFunc keyDisintegrationFunc
    [(tradeFrame, .object
      [("stream", .string "btc@trade"), ("data", .object tradeFrameData)])]

theorem tradeFrame_wellFormed :
    WellFormedFrame tradePlatform.parse .trade "btc@trade" tradeFrame :=
  ⟨_, tradeFrameData, rfl, rfl, rfl, fun _ => ⟨rfl, rfl, rfl⟩⟩

theorem feeds_iff_upper_BTC :
    Feeds tradePlatform tradeFrame "BTC:trade" ↔
      Text.upper (Text.cStr "BTC") = Text.cStr "BTC" :=
  feeds_iff_upper tradePlatform
    [("symbol", .string "BTC"), ("type", .string "trade")] "BTC" "BTC:trade"
    tradeFrame .trade (.subscribeTrade "btc") rfl rfl (by decide) (by decide)
    rfl rfl tradeFrame_wellFormed

/-- The stream of the lower-case symbol is fed by the same frames, and they are
routed under another key. -/
theorem lower_case_not_fed :
    keyGenFunc (.subRequest
        [("symbol", .string "btc"), ("type", .string "trade")]) =
      some "btc:trade" ∧
    subscribe "btc:trade" = .ok (some (.subscribeTrade "btc")) ∧
    WellFormedFrame tradePlatform.parse .trade
      (Call.subscribeTrade "btc").stream tradeFrame ∧
    ¬ Feeds tradePlatform tradeFrame "btc:trade" := by
  refine ⟨rfl, rfl, tradeFrame_wellFormed, ?_⟩
  rintro ⟨data, hfed, -⟩
  have hkeys : "BTC:trade" = "btc:trade" :=
    (Prod.mk.inj (Option.some.inj (Except.ok.inj hfed))).1
  exact absurd hkeys (by decide)

end MultiMarketPrices.Binance
