import MultiMarketPrices.Binance.Keys

/-!
# Frames from the exchange

`on_read` passes every payload that mentions a trade or a depth on to
`onPriceUpdate`, on the I/O thread, where nothing catches an exception.  What
the code makes of a frame is exactly what a well-shaped frame calls for,
provided that the frame is a JSON object whose `stream` and `data` are of the
kinds that the code takes them for.
-/

namespace MultiMarketPrices.Binance

open PlatformComm

variable {parse : String → Except Thrown Json} {payload : String}

/-- The part of `session::on_read` after the payload was taken from the
buffer. -/
def onRead (parse : String → Except Thrown Json) (payload : String) :
    Except Thrown (Option (String × MDUpdateVariant)) :=
  if Text.hasPart payload "@trade" || Text.hasPart payload "@depth" then
    onPriceUpdate parse payload
  else
    .ok none

/-! ## The updates a frame calls for -/

/-- The stream is `symbol@name`, where another `@` ends the name. -/
def Names (stream symbol name : String) : Prop :=
  ('@' ∉ symbol.toList ∧ '@' ∉ name.toList) ∧
    ∃ tail, stream.toList = symbol.toList ++ '@' :: (name.toList ++ tail) ∧
      (tail = [] ∨ ∃ more, tail = '@' :: more)

/-- Data under a stream's name is an update of a price type. -/
def IsUpdate (name : String) (data : Json.Object) : PriceType → Prop
  | .trade => Text.hasPart name "trade" ∧
      data.contains "s" ∧ data.contains "p" ∧ data.contains "q"
  | .depth => Text.hasPart name "trade" = false ∧ Text.hasPart name "depth"

/-- A well-shaped payload: an object with a stream's name, and data that is an
update of the price type for the symbol. -/
def Shaped (parse : String → Except Thrown Json) (payload : String)
    (priceType : PriceType) (symbol : String) (data : Json.Object) : Prop :=
  ∃ (members : Json.Object) (stream name : String),
    parse payload = .ok (.object members) ∧
    members.lookup "stream" = some (.string stream) ∧
    members.lookup "data" = some (.object data) ∧
    Names (Text.cStr stream) symbol name ∧ IsUpdate name data priceType

/-- The data of a trade with `s`, `p` and `q` under the platform's names and
everything else as it was. -/
structure RenamedTrade (data published : Json.Object) : Prop where
  hdistinct : published.Distinct
  hsymbol : published.lookup "symbol" = data.lookup "s"
  hprice : published.lookup "price" = data.lookup "p"
  hquantity : published.lookup "quantity" = data.lookup "q"
  hrenamed : ∀ key ∈ ["s", "p", "q"], published.lookup key = none
  hother : ∀ key ∉ ["s", "p", "q", "symbol", "price", "quantity"],
    published.lookup key = data.lookup key

/-- The data of a depth update with the symbol added. -/
structure NamedDepth (symbol : String) (data published : Json.Object) :
    Prop where
  hdistinct : published.Distinct
  hsymbol : published.lookup "symbol" = some (.string symbol)
  hother : ∀ key ≠ "symbol", published.lookup key = data.lookup key

/-- The published form of the data. -/
def Rewritten (symbol : String) (data published : Json.Object) :
    PriceType → Prop
  | .trade => RenamedTrade data published
  | .depth => NamedDepth symbol data published

def updateOf (update : Json) : PriceType → MDUpdateVariant
  | .trade => .tradeUpdate update
  | .depth => .depthUpdate update

/-! ## The rewrites -/

theorem transformDepth_named {data : Json.Object}
    (hdistinct : data.Distinct) (symbol : String) :
    ∃ published, transformDepthForPlatForm symbol data = some published ∧
      NamedDepth symbol data published := by
  refine ⟨_, rfl, hdistinct.assign _ _, ?_, fun key hkey => ?_⟩
  · rw [Json.Object.lookup_assign, if_pos rfl]
  · rw [Json.Object.lookup_assign, if_neg hkey]

/-- What is found in a trade's data once the new names are in place. -/
theorem lookup_assigned {data : Json.Object} (hs : data.contains "s" = true)
    (hp : data.contains "p" = true) (hq : data.contains "q" = true)
    (key : String) :
    (((data.assign "symbol" (data.get "s")).assign "price"
        (data.get "p")).assign "quantity" (data.get "q")).lookup key =
      if key = "quantity" then data.lookup "q"
      else if key = "price" then data.lookup "p"
      else if key = "symbol" then data.lookup "s"
      else data.lookup key := by
  rw [Json.Object.lookup_assign, Json.Object.lookup_assign,
    Json.Object.lookup_assign, Json.Object.lookup_of_contains hs,
    Json.Object.lookup_of_contains hp, Json.Object.lookup_of_contains hq]

/-- What is found once the old names are gone. -/
theorem lookup_erased {data : Json.Object} (hdistinct : data.Distinct)
    (hs : data.contains "s" = true) (hp : data.contains "p" = true)
    (hq : data.contains "q" = true) :
    (((data.erase "s").erase "p").erase "q").Distinct ∧
      ∀ key, (((data.erase "s").erase "p").erase "q").lookup key =
        if key = "q" then none else if key = "p" then none
        else if key = "s" then none else data.lookup key := by
  have hdistinct' := hdistinct.erase hs
  have hp' : (data.erase "s").contains "p" = true := by
    rw [Json.Object.contains, Json.Object.lookup_erase hdistinct hs,
      if_neg (by decide)]
    exact hp
  have hdistinct'' := hdistinct'.erase hp'
  have hq' : ((data.erase "s").erase "p").contains "q" = true := by
    rw [Json.Object.contains, Json.Object.lookup_erase hdistinct' hp',
      if_neg (by decide), Json.Object.lookup_erase hdistinct hs,
      if_neg (by decide)]
    exact hq
  refine ⟨hdistinct''.erase hq', fun key => ?_⟩
  rw [Json.Object.lookup_erase hdistinct'' hq',
    Json.Object.lookup_erase hdistinct' hp',
    Json.Object.lookup_erase hdistinct hs]

theorem transformTrade_renamed {data : Json.Object}
    (hdistinct : data.Distinct) (hs : data.contains "s" = true)
    (hp : data.contains "p" = true) (hq : data.contains "q" = true) :
    ∃ published, transformTradeForPlatForm data = some published ∧
      RenamedTrade data published := by
  have hassigned := lookup_assigned hs hp hq
  -- the three old names are still there when they are erased
  have hkept : ∀ key ∈ ["s", "p", "q"],
      (((data.assign "symbol" (data.get "s")).assign "price"
        (data.get "p")).assign "quantity" (data.get "q")).lookup key =
        data.lookup key := by
    intro key hkey
    rw [hassigned]
    simp only [List.mem_cons, List.not_mem_nil, or_false] at hkey
    obtain rfl | rfl | rfl := hkey <;> rfl
  obtain ⟨hdistinct', herased⟩ := lookup_erased
    (((hdistinct.assign "symbol" (data.get "s")).assign "price"
      (data.get "p")).assign "quantity" (data.get "q"))
    (by rw [Json.Object.contains, hkept "s" (by simp)]; exact hs)
    (by rw [Json.Object.contains, hkept "p" (by simp)]; exact hp)
    (by rw [Json.Object.contains, hkept "q" (by simp)]; exact hq)
  refine ⟨_, ?_, hdistinct', ?_, ?_, ?_, ?_, ?_⟩
  · simp only [transformTradeForPlatForm, hs, hp, hq, Bool.not_true,
      Bool.or_self, Bool.false_eq_true, if_false,
      Json.Object.get_assign_of_ne _ _ (show "p" ≠ "symbol" by decide),
      Json.Object.get_assign_of_ne _ _ (show "q" ≠ "price" by decide),
      Json.Object.get_assign_of_ne _ _ (show "q" ≠ "symbol" by decide)]
  · rw [herased, hassigned]
    rfl
  · rw [herased, hassigned]
    rfl
  · rw [herased, hassigned]
    rfl
  · intro key hkey
    rw [herased]
    simp only [List.mem_cons, List.not_mem_nil, or_false] at hkey
    obtain rfl | rfl | rfl := hkey <;> rfl
  · intro key hkey
    simp only [List.mem_cons, List.not_mem_nil, or_false, not_or] at hkey
    rw [herased, hassigned]
    simp [hkey]

/-! ## Routing -/

/-- The update made of data under a symbol and a stream's name, if any. -/
def routed (symbol name : String) (data : Json.Object) :
    Option (String × MDUpdateVariant) :=
  if Text.hasPart name "trade" then
    (transformTradeForPlatForm data).map fun obj =>
      (symbol ++ ":" ++ "trade", .tradeUpdate (.object obj))
  else if Text.hasPart name "depth" then
    (transformDepthForPlatForm symbol data).map fun obj =>
      (symbol ++ ":" ++ "depth", .depthUpdate (.object obj))
  else
    none

/-- Data that is an update is routed rewritten, under the symbol's key. -/
theorem routed_of_isUpdate {name : String} {data : Json.Object}
    {priceType : PriceType} (hdistinct : data.Distinct)
    (hupdate : IsUpdate name data priceType) (symbol : String) :
    ∃ published, Rewritten symbol data published priceType ∧
      routed symbol name data =
        some (keyOf symbol priceType, updateOf (.object published) priceType) := by
  cases priceType with
  | trade =>
      obtain ⟨htrade, hs, hp, hq⟩ := hupdate
      obtain ⟨published, htransform, hrenamed⟩ :=
        transformTrade_renamed hdistinct hs hp hq
      refine ⟨published, hrenamed, ?_⟩
      rw [routed, if_pos htrade, htransform]
      rfl
  | depth =>
      obtain ⟨htrade, hdepth⟩ := hupdate
      obtain ⟨published, htransform, hnamed⟩ :=
        transformDepth_named hdistinct symbol
      refine ⟨published, hnamed, ?_⟩
      rw [routed, if_neg (by simp [htrade]), if_pos hdepth, htransform]
      rfl

theorem isUpdate_of_routed {symbol name : String} {data : Json.Object}
    {published : String × MDUpdateVariant}
    (hrouted : routed symbol name data = some published) :
    ∃ priceType, IsUpdate name data priceType := by
  rw [routed] at hrouted
  split at hrouted
  · next htrade =>
      refine ⟨.trade, htrade, ?_⟩
      rw [transformTradeForPlatForm] at hrouted
      split at hrouted
      · simp at hrouted
      · next hall => simpa [and_assoc] using hall
  · next htrade =>
      split at hrouted
      · next hdepth => exact ⟨.depth, by simpa using htrade, hdepth⟩
      · exact absurd hrouted (by simp)

/-- The payload is an object, whose `stream` is a string if it has data at all,
and whose data is an object if the stream has an `@`. -/
def WellTyped (parse : String → Except Thrown Json) (payload : String) :
    Prop :=
  ∃ members : Json.Object, parse payload = .ok (.object members) ∧
    (members.contains "data" →
      ∃ stream, members.lookup "stream" = some (.string stream) ∧
        ('@' ∈ (Text.cStr stream).toList →
          ∃ data, members.lookup "data" = some (.object data)))

theorem onPriceUpdate_noData {members : Json.Object}
    (hparse : parse payload = .ok (.object members))
    (hdata : members.contains "data" = false) :
    onPriceUpdate parse payload = .ok none := by
  simp [onPriceUpdate, hparse, hdata, Except.bind]

theorem onPriceUpdate_stream {members : Json.Object} {stream : String}
    (hparse : parse payload = .ok (.object members))
    (hdata : members.contains "data" = true)
    (hstream : members.lookup "stream" = some (.string stream)) :
    onPriceUpdate parse payload =
      match Text.split '@' (Text.cStr stream) with
      | symbol :: name :: _ => (members.get "data").asObject.map fun data =>
          routed (Text.upper symbol) name data
      | _ => .ok none := by
  simp only [onPriceUpdate, hparse, Except.bind, Json.asObject_object, hdata,
    Bool.not_true, Bool.false_eq_true, if_false, Json.Object.get, hstream,
    Option.getD_some, Json.asString_string, Except.map]
  cases Text.split '@' (Text.cStr stream) with
  | nil => rfl
  | cons symbol others =>
      cases others with
      | nil => rfl
      | cons name others =>
          cases ((members.lookup "data").getD .null).asObject with
          | error thrown => rfl
          | ok data =>
              simp only [routed]
              split
              · rfl
              · split <;> rfl

/-- A well-typed payload is routed by its stream and its data, or passed
over. -/
theorem WellTyped.update_eq (htyped : WellTyped parse payload) :
    onPriceUpdate parse payload = .ok none ∨
      ∃ (members data : Json.Object) (stream symbol name : String),
        parse payload = .ok (.object members) ∧
        members.lookup "stream" = some (.string stream) ∧
        members.lookup "data" = some (.object data) ∧
        Names (Text.cStr stream) symbol name ∧
        onPriceUpdate parse payload =
          .ok (routed (Text.upper symbol) name data) := by
  obtain ⟨members, hparse, hkinds⟩ := htyped
  cases hdata : members.contains "data" with
  | false => exact .inl (onPriceUpdate_noData hparse hdata)
  | true =>
      obtain ⟨stream, hstream, hobject⟩ := hkinds hdata
      have hupdate := onPriceUpdate_stream hparse hdata hstream
      by_cases hat : '@' ∈ (Text.cStr stream).toList
      · obtain ⟨symbol, name, rest, hsplit⟩ := Text.split_of_mem hat
        obtain ⟨data, hlookup⟩ := hobject hat
        refine .inr ⟨members, data, stream, symbol, name, hparse, hstream,
          hlookup, Text.exists_split_eq_iff.mp ⟨rest, hsplit⟩, ?_⟩
        rw [hupdate, hsplit]
        simp [Json.Object.get, hlookup, Except.map]
      · left
        rw [hupdate]
        split
        · next symbol name rest hsplit =>
            obtain ⟨-, tail, htext, -⟩ :=
              Text.exists_split_eq_iff.mp ⟨rest, hsplit⟩
            rw [htext] at hat
            simp at hat
        · rfl

/-- An exception is thrown on every other payload. -/
theorem wellTyped_of_ok {update : Option (String × MDUpdateVariant)}
    (hupdate : onPriceUpdate parse payload = .ok update) :
    WellTyped parse payload := by
  obtain ⟨value, hparse, hobject⟩ := bind_eq_ok.mp hupdate
  obtain ⟨members, hmembers, hrest⟩ := bind_eq_ok.mp hobject
  obtain rfl := Json.asObject_eq_ok.mp hmembers
  refine ⟨members, hparse, fun hdata => ?_⟩
  rw [if_neg (by simp [hdata])] at hrest
  obtain ⟨text, htext, hrouted⟩ := bind_eq_ok.mp hrest
  obtain ⟨stream, hstream, rfl⟩ := map_eq_ok.mp htext
  refine ⟨stream, Json.Object.lookup_of_get
    (Json.asString_eq_ok.mp hstream) (by simp), fun hat => ?_⟩
  obtain ⟨symbol, name, rest, hsplit⟩ := Text.split_of_mem hat
  rw [hsplit] at hrouted
  obtain ⟨data, hdata, -⟩ := bind_eq_ok.mp hrouted
  exact ⟨data, Json.Object.lookup_of_get
    (Json.asObject_eq_ok.mp hdata) (by simp)⟩

/-! ## Every payload -/

/-- No exception is thrown, an update is published just when the payload has
the shape of one, and it is the data rewritten, under the upper-case symbol and
the price type. -/
def TurnsIntoUpdate (parse : String → Except Thrown Json) (payload : String) :
    Prop :=
  ∃ update, onRead parse payload = .ok update ∧
    ((∃ published, update = some published) ↔
      ∃ priceType symbol data, Shaped parse payload priceType symbol data) ∧
    ∀ priceType symbol data, Shaped parse payload priceType symbol data →
      ∃ published,
        Rewritten (Text.upper symbol) data published priceType ∧
        update = some (keyOf (Text.upper symbol) priceType,
          updateOf (.object published) priceType)

/-- What has the shape of an update is published rewritten. -/
theorem Shaped.published {priceType : PriceType} {symbol : String}
    {data : Json.Object}
    (hkeys : ∀ value, parse payload = .ok value → value.WellKeyed)
    (hshaped : Shaped parse payload priceType symbol data) :
    ∃ published, Rewritten (Text.upper symbol) data published priceType ∧
      onPriceUpdate parse payload =
        .ok (some (keyOf (Text.upper symbol) priceType,
          updateOf (.object published) priceType)) := by
  obtain ⟨members, stream, name, hparse, hstream, hdata, hnames, hisUpdate⟩ :=
    hshaped
  have hcontains : members.contains "data" = true := by
    simp [Json.Object.contains, hdata]
  have hdistinct : data.Distinct := ((hkeys _ hparse).member hdata).distinct
  obtain ⟨rest, hsplit⟩ := Text.exists_split_eq_iff.mpr hnames
  obtain ⟨published, hpublished, hrouted⟩ :=
    routed_of_isUpdate hdistinct hisUpdate (Text.upper symbol)
  refine ⟨published, hpublished, ?_⟩
  rw [onPriceUpdate_stream hparse hcontains hstream, hsplit, ← hrouted]
  simp [Json.Object.get, hdata, Except.map]

/-- A well-typed payload is published only if it has the shape of an update. -/
theorem WellTyped.shaped_of_published (htyped : WellTyped parse payload) :
    ∃ update, onPriceUpdate parse payload = .ok update ∧
      ∀ published, update = some published →
        ∃ priceType symbol data,
          Shaped parse payload priceType symbol data := by
  cases htyped.update_eq with
  | inl hnone => exact ⟨none, hnone, by simp⟩
  | inr hsome =>
      obtain ⟨members, data, stream, symbol, name, hparse, hstream, hdata,
        hnames, hupdate⟩ := hsome
      refine ⟨_, hupdate, fun published hrouted => ?_⟩
      obtain ⟨priceType, hisUpdate⟩ := isUpdate_of_routed hrouted
      exact ⟨priceType, symbol, data, members, stream, name, hparse, hstream,
        hdata, hnames, hisUpdate⟩

/-- A payload that `on_read` passes on is dealt with as it should be if and
only if it is an object with a stream and data of the right kinds, so far as
the code looks at them. -/
theorem turnsIntoUpdate_iff_wellTyped (parse : String → Except Thrown Json)
    (payload : String)
    (hpassed : Text.hasPart payload "@trade" ∨ Text.hasPart payload "@depth")
    (hkeys : ∀ value, parse payload = .ok value → value.WellKeyed) :
    TurnsIntoUpdate parse payload ↔ WellTyped parse payload := by
  have hread : onRead parse payload = onPriceUpdate parse payload := by
    rw [onRead, if_pos (by simpa using hpassed)]
  rw [TurnsIntoUpdate, hread]
  constructor
  · rintro ⟨update, hupdate, -⟩
    exact wellTyped_of_ok hupdate
  · intro htyped
    obtain ⟨update, hupdate, hshape⟩ := htyped.shaped_of_published
    have hpublished : ∀ priceType symbol data,
        Shaped parse payload priceType symbol data →
        ∃ published, Rewritten (Text.upper symbol) data published priceType ∧
          update = some (keyOf (Text.upper symbol) priceType,
            updateOf (.object published) priceType) := by
      intro priceType symbol data hshaped
      obtain ⟨published, hrewritten, hsame⟩ := hshaped.published hkeys
      rw [hupdate] at hsame
      exact ⟨published, hrewritten, Except.ok.inj hsame⟩
    refine ⟨update, hupdate, ⟨fun ⟨published, hsome⟩ => hshape _ hsome, ?_⟩,
      hpublished⟩
    rintro ⟨priceType, symbol, data, hshaped⟩
    obtain ⟨published, -, hsome⟩ := hpublished _ _ _ hshaped
    exact ⟨_, hsome⟩

/-- `on_read` throws on what it passes on and is not well typed. -/
theorem onRead_throws_iff :
    (∃ thrown, onRead parse payload = .error thrown) ↔
      (Text.hasPart payload "@trade" ∨ Text.hasPart payload "@depth") ∧
        ¬ WellTyped parse payload := by
  rw [onRead]
  split
  · next hpassed =>
      rw [and_iff_right (by simpa using hpassed)]
      constructor
      · rintro ⟨thrown, hthrown⟩ htyped
        obtain ⟨update, hupdate, -⟩ := htyped.shaped_of_published
        rw [hupdate] at hthrown
        cases hthrown
      · intro hill
        cases hupdate : onPriceUpdate parse payload with
        | error thrown => exact ⟨thrown, rfl⟩
        | ok update => exact absurd (wellTyped_of_ok hupdate) hill
  · next hpassed =>
      apply iff_of_false (by simp)
      rintro ⟨hnamed, -⟩
      exact hpassed (by simpa using hnamed)

theorem wellKeyed_tradeFrame (value : Json)
    (hparse : tradePlatform.parse tradeFrame = .ok value) :
    value.WellKeyed := by
  obtain rfl : Json.object [("stream", .string "btc@trade"),
      ("data", .object tradeFrameData)] = value := Except.ok.inj hparse
  refine .object _ (by decide) ?_
  simp only [List.forall_mem_cons, List.not_mem_nil, false_implies,
    implies_true, and_true]
  refine ⟨.string _, .object _ (by decide) ?_⟩
  simp only [tradeFrameData, List.forall_mem_cons, List.not_mem_nil,
    false_implies, implies_true, and_true]
  exact ⟨.string _, .string _, .string _⟩

theorem turnsIntoUpdate_iff_wellTyped_of_trade :
    TurnsIntoUpdate tradePlatform.parse tradeFrame ↔
      WellTyped tradePlatform.parse tradeFrame :=
  turnsIntoUpdate_iff_wellTyped tradePlatform.parse tradeFrame
    (.inl (by decide)) wellKeyed_tradeFrame

/-- A payload that only mentions a trade is passed on, and the exception of the
parser comes out of `on_read`. -/
theorem unparsed_payload_throws :
    Text.hasPart "@trade" "@trade" = true ∧
      onRead tradePlatform.parse "@trade" = .error .parse ∧
      ¬ TurnsIntoUpdate tradePlatform.parse "@trade" := by
  have hthrown : onRead tradePlatform.parse "@trade" = .error .parse := rfl
  refine ⟨by decide, hthrown, ?_⟩
  rintro ⟨update, hupdate, -⟩
  rw [hthrown] at hupdate
  exact absurd hupdate (by simp)

end MultiMarketPrices.Binance
