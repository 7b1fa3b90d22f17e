import MultiMarketPrices.Binance.System

/-!
# Keys as an encoding

The key of a request joins its symbol and its type with a colon, and a blanking
takes the key apart again.  The symbol goes through `c_str()`; nothing looks
for colons.
-/

namespace MultiMarketPrices.Binance

open PlatformComm

/-- A subscribe message that `msgCb` takes: the symbol and the type it gives,
and the key it is booked under. -/
structure Taken (platform : Platform) (msg symbol type key : String) :
    Prop where
  hrequest : ∃ obj destTopic, platform.parse msg = .ok (.object obj) ∧
    obj.lookup "symbol" = some (.string symbol) ∧
    obj.lookup "type" = some (.string type) ∧
    (onBinance platform).subUnsubRequest true msg = .ok (some (key, destTopic))

variable {platform : Platform} {msg symbol type key : String}

/-- Every message that is taken gives a symbol and a type. -/
theorem exists_taken {destTopic : String}
    (hrequest : (onBinance platform).subUnsubRequest true msg =
      .ok (some (key, destTopic))) :
    ∃ symbol type, Taken platform msg symbol type key := by
  obtain ⟨obj, hparse, hkey, -⟩ := request_eq_some_iff.mp hrequest
  obtain ⟨symbol, type, hsymbol, htype, -⟩ := generateKey_eq_some_iff.mp hkey
  exact ⟨symbol, type, ⟨obj, destTopic, hparse, hsymbol, htype, hrequest⟩⟩

/-- The key of a message that is taken. -/
theorem Taken.key_eq (htaken : Taken platform msg symbol type key) :
    key = Text.cStr symbol ++ ":" ++ type := by
  obtain ⟨obj, destTopic, hparse, hsymbol, htype, hrequest⟩ := htaken.hrequest
  obtain ⟨other, hother, hkey, -⟩ := request_eq_some_iff.mp hrequest
  obtain rfl : obj = other := by simpa [hparse] using hother
  have hkey' : generateKeyFromSubUnsubRequest obj =
      some (Text.cStr symbol ++ ":" ++ type) :=
    generateKey_eq_some_iff.mpr ⟨symbol, type, hsymbol, htype, rfl⟩
  exact Option.some.inj (hkey.symm.trans hkey')

/-! ## Taking a key apart -/

/-- No NUL in the symbol and no colon in the symbol or the type. -/
structure Plain (symbol type : String) : Prop where
  hnul : '\x00' ∉ symbol.toList
  hsymbol : ':' ∉ symbol.toList
  htype : ':' ∉ type.toList

/-- The key gives back the symbol and the type, and they are what `blanking`,
which makes all `price_blanked` messages, writes for the key. -/
def GivesBack (platform : Platform) (key symbol type : String) : Prop :=
  keyDisintegrationFunc key = .ok (symbol, type, "BINANCE") ∧
    ∀ destTopics, (onBinance platform).blanking key destTopics =
      .ok (destTopics.val.map fun destTopic =>
        .produce destTopic "price_blanked" "NULL"
          (.object [("symbol", .string symbol), ("type", .string type),
            ("exchange", .string "BINANCE")]))

theorem givesBack_iff :
    GivesBack platform key symbol type ↔
      keyDisintegrationFunc key = .ok (symbol, type, "BINANCE") := by
  constructor
  · exact fun hback => hback.1
  · intro hparts
    have hfunc : (onBinance platform).gKeyDisintegrationFunc key =
        .ok (symbol, type, "BINANCE") := hparts
    refine ⟨hparts, fun destTopics => ?_⟩
    rw [Platform.blanking, hfunc]
    rfl

theorem keyDisintegrationFunc_eq_ok_iff :
    keyDisintegrationFunc key = .ok (symbol, type, "BINANCE") ↔
      ∃ rest, Text.split ':' key = symbol :: type :: rest := by
  rw [keyDisintegrationFunc]
  constructor
  · intro hparts
    split at hparts
    · next first second rest hsplit =>
        simp only [Except.ok.injEq, Prod.mk.injEq, and_true] at hparts
        obtain ⟨rfl, rfl⟩ := hparts
        exact ⟨rest, hsplit⟩
    · exact absurd hparts (by simp)
  · rintro ⟨rest, hsplit⟩
    rw [hsplit]

/-- A key gives back its symbol and its type when they are plain. -/
theorem Taken.givesBack_iff_plain
    (htaken : Taken platform msg symbol type key) :
    GivesBack platform key symbol type ↔ Plain symbol type := by
  rw [givesBack_iff, keyDisintegrationFunc_eq_ok_iff, htaken.key_eq]
  have htext : (Text.cStr symbol ++ ":" ++ type).toList =
      (Text.cStr symbol).toList ++ ':' :: type.toList := by
    simp [String.toList_append]
  constructor
  · rintro ⟨rest, hsplit⟩
    obtain ⟨hfree, hjoined⟩ := Text.split_eq_iff.mp hsplit
    have hsymbol : ':' ∉ symbol.toList := hfree symbol (by simp)
    have hcolon : ':' ∉ (Text.cStr symbol).toList :=
      fun hmem => hsymbol (Text.mem_of_mem_cStr hmem)
    -- the first colon ends the symbol on both sides
    rw [htext, List.map_cons, List.map_cons,
      List.intercalate_cons_cons, List.append_assoc] at hjoined
    have hsame := (Text.pair_inj hcolon hsymbol hjoined).1
    refine ⟨?_, hsymbol, hfree type (by simp)⟩
    rw [← hsame]
    exact Text.nul_not_mem_cStr symbol
  · intro hplain
    rw [Text.cStr_eq_self hplain.hnul] at htext ⊢
    exact ⟨[], Text.split_eq_pair htext hplain.hsymbol hplain.htype⟩

/-- Plain requests with one key have one symbol and one type. -/
theorem Taken.eq_of_key_eq {msg' symbol' type' : String}
    (htaken : Taken platform msg symbol type key)
    (htaken' : Taken platform msg' symbol' type' key)
    (hplain : Plain symbol type) (hplain' : Plain symbol' type') :
    symbol = symbol' ∧ type = type' := by
  obtain ⟨rest, hsplit⟩ := keyDisintegrationFunc_eq_ok_iff.mp
    (htaken.givesBack_iff_plain.mpr hplain).1
  obtain ⟨rest', hsplit'⟩ := keyDisintegrationFunc_eq_ok_iff.mp
    (htaken'.givesBack_iff_plain.mpr hplain').1
  rw [hsplit] at hsplit'
  simp only [List.cons.injEq] at hsplit'
  exact ⟨hsplit'.1, hsplit'.2.1⟩

/-- Two subscribe requests have one key just when they have one symbol and one
type, and both keys give back what they were made of, if and only if both
requests are plain. -/
theorem unambiguous_iff_plain (platform : Platform)
    (msg symbol type key msg' symbol' type' key' : String)
    (htaken : Taken platform msg symbol type key)
    (htaken' : Taken platform msg' symbol' type' key') :
    ((key = key' ↔ symbol = symbol' ∧ type = type') ∧
        GivesBack platform key symbol type ∧
        GivesBack platform key' symbol' type') ↔
      Plain symbol type ∧ Plain symbol' type' := by
  rw [htaken.givesBack_iff_plain, htaken'.givesBack_iff_plain]
  constructor
  · exact fun hunambiguous => hunambiguous.2
  · rintro ⟨hplain, hplain'⟩
    refine ⟨⟨?_, ?_⟩, hplain, hplain'⟩
    · rintro rfl
      exact htaken.eq_of_key_eq htaken' hplain hplain'
    · rintro ⟨rfl, rfl⟩
      rw [htaken.key_eq, htaken'.key_eq]

/-- The object of a subscribe message for the client's topic. -/
def subscribeObject (symbol type : String) : Json.Object :=
  [("symbol", .string symbol), ("type", .string type),
    ("destination_topic", .string "client")]

/-- A gateway to which each message is the name of its object. -/
def subscribers : Platform :=
  .ofTexts keyGenFunc keyDisintegrationFunc
    [("plain", .object (subscribeObject "BTC" "trade")),
      ("early colon", .object (subscribeObject "A:B" "trade")),
      ("late colon", .object (subscribeObject "A" "B:trade"))]

theorem taken_plain : Taken subscribers "plain" "BTC" "trade" "BTC:trade" :=
  ⟨_, "client", rfl, rfl, rfl, rfl⟩

theorem unambiguous_iff_plain_of_BTC :
    (("BTC:trade" = "BTC:trade" ↔ "BTC" = "BTC" ∧ "trade" = "trade") ∧
        GivesBack subscribers "BTC:trade" "BTC" "trade" ∧
        GivesBack subscribers "BTC:trade" "BTC" "trade") ↔
      Plain "BTC" "trade" ∧ Plain "BTC" "trade" :=
  unambiguous_iff_plain subscribers "plain" "BTC" "trade" "BTC:trade" "plain"
    "BTC" "trade" "BTC:trade" taken_plain taken_plain

/-- Two requests for different symbols are booked under one key. -/
theorem colon_merges_keys :
    Taken subscribers "early colon" "A:B" "trade" "A:B:trade" ∧
    Taken subscribers "late colon" "A" "B:trade" "A:B:trade" ∧
    ¬ ("A:B:trade" = "A:B:trade" ↔ "A:B" = "A" ∧ "trade" = "B:trade") ∧
    ¬ GivesBack subscribers "A:B:trade" "A:B" "trade" := by
  refine ⟨⟨_, "client", rfl, rfl, rfl, rfl⟩, ⟨_, "client", rfl, rfl, rfl, rfl⟩,
    by decide, fun hback => ?_⟩
  have hsame := hback.1.symm.trans
    (rfl : keyDisintegrationFunc "A:B:trade" = .ok ("A", "B", "BINANCE"))
  have hsymbols := (Prod.mk.inj (Except.ok.inj hsame)).1
  exact absurd hsymbols (by decide)

end MultiMarketPrices.Binance
