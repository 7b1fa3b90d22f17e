import MultiMarketPrices.Binance.LiveStreams
import MultiMarketPrices.PlatformComm.Bookings

/-!
# The fan-out of price data

The worker runs the platform's callbacks and the price data of the exchange as
tasks, one after the other.  Data of a key goes to the topics booked for the
key at that moment, once each; the blanking of everything is the blanking of
each booked key.  A message may book the empty topic, for which `producerFunc`
takes no record.
-/

namespace MultiMarketPrices.Binance

open PlatformComm

inductive WorkerTask
  | gateway (event : GatewayEvent)
  /-- `onPriceDataFromExchange` -/
  | price (key : String) (data : MDUpdateVariant)

/-- The worker's state, with the price messages sent so far. -/
structure Worker where
  record : Record
  sent : Multiset Effect

namespace Worker

def start : Worker := ⟨.start, 0⟩

/-- One task; an exception ends the run. -/
def step (platform : Platform) (worker : Worker) : WorkerTask → Option Worker
  | .gateway event =>
      (Record.step (onBinance platform) worker.record event).map fun record =>
        { worker with record := record }
  | .price key data =>
      match (onBinance platform).onPriceDataFromExchange
        worker.record.gateway.book key data with
      | .ok calls => some
          { worker with sent := worker.sent + calls.filter Effect.IsSent }
      | .error _ => none

/-- The worker after it has sent some more. -/
def send (worker : Worker) (records : Multiset Effect) : Worker :=
  { worker with sent := worker.sent + records }

/-- The topics booked for a key. -/
def topics (worker : Worker) (key : String) : Finset String :=
  worker.record.gateway.book.topics key

/-- The keys in the book. -/
def bookedKeys (worker : Worker) : Finset String :=
  worker.record.gateway.book.symbolToDestTopics.keys

end Worker

/-- The callbacks among the tasks. -/
def callbacks (tasks : List WorkerTask) : List GatewayEvent :=
  tasks.filterMap fun task =>
    match task with
    | .gateway event => some event
    | .price _ _ => none

/-- The type of the messages that carry a kind of data. -/
def msgTypeOf : MDUpdateVariant → String
  | .tradeUpdate _ => "trade_update"
  | .depthUpdate _ => "depth_update"
  | .priceBlanking => "price_blanked"

/-- The record key and the payload with which data of a key is sent. -/
def Carries (key recordKey : String) (payload : Json) :
    MDUpdateVariant → Prop
  | .tradeUpdate update | .depthUpdate update =>
      recordKey = key ∧ payload = update
  | .priceBlanking => recordKey = "NULL" ∧
      ∀ symbol type exchange,
        keyDisintegrationFunc key = .ok (symbol, type, exchange) →
        payload = .object [("symbol", .string symbol), ("type", .string type),
          ("exchange", .string exchange)]

theorem msgTypeOf_ne_empty (data : MDUpdateVariant) : msgTypeOf data ≠ "" := by
  cases data <;> simp [msgTypeOf]

/-- There is a payload for every kind of data. -/
theorem exists_carries (key : String) (data : MDUpdateVariant) :
    ∃ recordKey payload, Carries key recordKey payload data := by
  cases data with
  | tradeUpdate update => exact ⟨key, update, rfl, rfl⟩
  | depthUpdate update => exact ⟨key, update, rfl, rfl⟩
  | priceBlanking =>
      cases hparts : keyDisintegrationFunc key with
      | error thrown => exact ⟨"NULL", .null, rfl, by simp [hparts]⟩
      | ok parts =>
          refine ⟨"NULL", .object [("symbol", .string parts.1),
            ("type", .string parts.2.1), ("exchange", .string parts.2.2)],
            rfl, ?_⟩
          intro symbol type exchange heq
          obtain rfl := Except.ok.inj (hparts.symm.trans heq)
          rfl

variable {platform : Platform}

/-- The key of a request can be taken apart. -/
theorem keyDisintegration_of_generated {request : Json.Object} {key : String}
    (hkey : generateKeyFromSubUnsubRequest request = some key) :
    ∃ symbol type, keyDisintegrationFunc key =
      .ok (symbol, type, "BINANCE") := by
  obtain ⟨symbol, type, rest, hsplit⟩ :=
    Text.split_of_mem (colon_mem_of_generateKey hkey)
  refine ⟨symbol, type, ?_⟩
  rw [keyDisintegrationFunc, hsplit]

/-- What is booked in a reachable state was requested. -/
theorem generated_of_booked {events : List GatewayEvent} {record : Record}
    {key destTopic : String}
    (hrun : Runs.run (Record.step (onBinance platform)) .start events =
      some record)
    (htopic : destTopic ∈ record.gateway.book.topics key) :
    ∃ request, generateKeyFromSubUnsubRequest request = some key := by
  by_contra hnone
  have hother : ∀ isSub event, ¬ GatewayEvent.IsAbout (onBinance platform)
      isSub key destTopic event := by
    intro isSub event habout
    cases event with
    | rebalance | response => exact habout
    | message partition msgType msg =>
        exact hnone (generateKey_of_request habout.2)
  have hwanted := (PairHistory.agrees_ofEvents hrun).hwanted.mpr htopic
  rw [(PairHistory.ofEvents_of_not_about hother _).1] at hwanted
  simp at hwanted

/-! ## One task -/

/-- The keys of a book can all be taken apart. -/
def Readable (book : RoutingBook) : Prop :=
  ∀ key destTopic, destTopic ∈ book.topics key →
    ∃ request, generateKeyFromSubUnsubRequest request = some key

variable {book : RoutingBook}

theorem Readable.of_run {events : List GatewayEvent} {record : Record}
    (hrun : Runs.run (Record.step (onBinance platform)) .start events =
      some record) : Readable record.gateway.book :=
  fun _ _ htopic => generated_of_booked hrun htopic

theorem Readable.of_lookup (hreadable : Readable book) {key : String}
    {destTopics : Finset String}
    (hlookup : book.symbolToDestTopics.lookup key = some destTopics) :
    ∃ request, generateKeyFromSubUnsubRequest request = some key := by
  obtain ⟨destTopic, hmem⟩ := book.nonempty key destTopics hlookup
  apply hreadable key destTopic
  rwa [RoutingBook.topics, hlookup]

/-- The key of a booked pair is not empty. -/
theorem Readable.key_ne_empty (hreadable : Readable book)
    {key destTopic : String} (htopic : destTopic ∈ book.topics key) :
    key ≠ "" := by
  obtain ⟨request, hrequest⟩ := hreadable key destTopic htopic
  exact generateKey_ne_empty hrequest

/-- Of the calls for the topics of a key, all but that for the empty topic send
a record. -/
theorem sent_of_key (hreadable : Readable book) {key recordKey : String}
    {payload : Json} {data : MDUpdateVariant}
    (hcarries : Carries key recordKey payload data) :
    ((book.topics key).val.map fun destTopic =>
        Effect.produce destTopic (msgTypeOf data) recordKey payload).filter
        Effect.IsSent =
      ((book.topics key).erase "").val.map fun destTopic =>
        .produce destTopic (msgTypeOf data) recordKey payload := by
  have hrecordKey : ∀ destTopic ∈ book.topics key, recordKey ≠ "" := by
    intro destTopic htopic
    have hkey := hreadable.key_ne_empty htopic
    cases data with
    | tradeUpdate | depthUpdate => exact hcarries.1 ▸ hkey
    | priceBlanking => simp [hcarries.1]
  rw [Multiset.filter_map]
  have hsame : (book.topics key).val.filter (Effect.IsSent ∘ fun destTopic =>
      Effect.produce destTopic (msgTypeOf data) recordKey payload) =
        ((book.topics key).filter (· ≠ "")).val := by
    refine Multiset.filter_congr fun destTopic htopic => ?_
    simp [msgTypeOf_ne_empty, hrecordKey destTopic htopic]
  rw [hsame, Finset.filter_ne']

variable (platform) in
theorem blanking_of_lookup (hreadable : Readable book) {key : String}
    {destTopics : Finset String}
    (hlookup : book.symbolToDestTopics.lookup key = some destTopics) :
    ∃ recordKey payload, Carries key recordKey payload .priceBlanking ∧
      (onBinance platform).blanking key destTopics =
        .ok (destTopics.val.map fun destTopic =>
          .produce destTopic "price_blanked" recordKey payload) := by
  obtain ⟨request, hrequest⟩ := hreadable.of_lookup hlookup
  obtain ⟨symbol, type, hkey⟩ := keyDisintegration_of_generated hrequest
  have hparts : (onBinance platform).gKeyDisintegrationFunc key =
      .ok (symbol, type, "BINANCE") := hkey
  refine ⟨"NULL", .object [("symbol", .string symbol), ("type", .string type),
    ("exchange", .string "BINANCE")], ⟨rfl, ?_⟩, ?_⟩
  · intro symbol' type' exchange' hparts'
    rw [hkey, Except.ok.injEq, Prod.mk.injEq, Prod.mk.injEq] at hparts'
    obtain ⟨rfl, rfl, rfl⟩ := hparts'
    rfl
  · rw [Platform.blanking, hparts]
    rfl

variable (platform) in
/-- Data of a key goes to the topics of the key. -/
theorem onPriceData_of_key (hreadable : Readable book) {key : String}
    (hkey : key ≠ instrumentWildCard) (data : MDUpdateVariant) :
    ∃ recordKey payload, Carries key recordKey payload data ∧
      (onBinance platform).onPriceDataFromExchange book key data =
        .ok ((book.topics key).val.map fun destTopic =>
          .produce destTopic (msgTypeOf data) recordKey payload) := by
  cases data with
  | tradeUpdate update =>
      exact ⟨key, update, ⟨rfl, rfl⟩,
        (onBinance platform).onPriceDataFromExchange_trade hkey book update⟩
  | depthUpdate update =>
      exact ⟨key, update, ⟨rfl, rfl⟩,
        (onBinance platform).onPriceDataFromExchange_depth hkey book update⟩
  | priceBlanking =>
      cases hlookup : book.symbolToDestTopics.lookup key with
      | none =>
          obtain ⟨recordKey, payload, hcarries⟩ :=
            exists_carries key .priceBlanking
          refine ⟨recordKey, payload, hcarries, ?_⟩
          simp [Platform.onPriceDataFromExchange, hkey, hlookup,
            RoutingBook.topics]
      | some destTopics =>
          obtain ⟨recordKey, payload, hcarries, hblanking⟩ :=
            blanking_of_lookup platform hreadable hlookup
          refine ⟨recordKey, payload, hcarries, ?_⟩
          simp only [Platform.onPriceDataFromExchange, if_neg hkey, hlookup,
            hblanking, RoutingBook.topics, Option.getD_some]
          rfl

variable (platform) in
/-- The blanking of everything is the blanking of each key. -/
theorem onPriceData_wildCard (hreadable : Readable book) :
    ∃ blanked : String → Multiset Effect,
      (∀ key ∈ book.symbolToDestTopics.keys,
        (onBinance platform).onPriceDataFromExchange book key .priceBlanking =
          .ok (blanked key)) ∧
      (onBinance platform).onPriceDataFromExchange book instrumentWildCard
          .priceBlanking =
        .ok (book.symbolToDestTopics.keys.val.bind blanked) := by
  have hentry : ∀ entry ∈ book.symbolToDestTopics.entries,
      book.symbolToDestTopics.lookup entry.1 = some entry.2 :=
    fun entry hentry => Finmap.lookup_eq_some_iff.mpr hentry
  have hok : ∀ entry ∈ book.symbolToDestTopics.entries, ∃ records,
      (onBinance platform).blanking entry.1 entry.2 = .ok records := by
    intro entry hmem
    obtain ⟨recordKey, payload, -, hblanking⟩ :=
      blanking_of_lookup platform hreadable (hentry entry hmem)
    exact ⟨_, hblanking⟩
  refine ⟨fun key => ((onBinance platform).blanking key
    (book.topics key)).toOption.getD 0, ?_, ?_⟩
  · intro key hkey
    obtain ⟨destTopics, hlookup⟩ :=
      Finmap.mem_iff.mp (Finmap.mem_keys.mp hkey)
    obtain ⟨request, hrequest⟩ := hreadable.of_lookup hlookup
    obtain ⟨records, hrecords⟩ :=
      hok ⟨key, destTopics⟩ (Finmap.lookup_eq_some_iff.mp hlookup)
    simp [Platform.onPriceDataFromExchange, hlookup, RoutingBook.topics,
      generateKey_ne_wildCard hrequest, hrecords, Except.toOption]
  · have hall : ∀ records ∈ book.symbolToDestTopics.entries.map
        (fun entry => (onBinance platform).blanking entry.1 entry.2),
        records.isOk := by
      intro records hmem
      obtain ⟨entry, hmember, rfl⟩ := Multiset.mem_map.mp hmem
      obtain ⟨records, hrecords⟩ := hok entry hmember
      rw [hrecords]
      rfl
    simp only [Platform.onPriceDataFromExchange, if_pos, if_pos hall,
      Except.ok.injEq]
    calc
      (book.symbolToDestTopics.entries.map fun entry =>
          (onBinance platform).blanking entry.1 entry.2).bind
          (fun records => records.toOption.getD 0)
        = book.symbolToDestTopics.entries.bind fun entry =>
            ((onBinance platform).blanking entry.1 entry.2).toOption.getD 0 :=
          Multiset.bind_map _ _ _
      _ = book.symbolToDestTopics.entries.bind fun entry =>
            ((onBinance platform).blanking entry.1
              (book.topics entry.1)).toOption.getD 0 := by
          refine Multiset.bind_congr fun entry hmem => ?_
          rw [RoutingBook.topics, hentry entry hmem, Option.getD_some]
      _ = book.symbolToDestTopics.keys.val.bind fun key =>
            ((onBinance platform).blanking key
              (book.topics key)).toOption.getD 0 := by
          have hkeys : book.symbolToDestTopics.keys.val =
            book.symbolToDestTopics.entries.map Sigma.fst := rfl
          rw [hkeys, Multiset.bind_map]

/-! ## Runs -/

namespace Worker

/-- The callbacks of a run take the gateway through a run of its own. -/
theorem record_run {tasks : List WorkerTask} {worker finish : Worker}
    (hrun : Runs.run (step platform) worker tasks = some finish) :
    Runs.run (Record.step (onBinance platform)) worker.record
      (callbacks tasks) = some finish.record := by
  induction tasks generalizing worker with
  | nil =>
      obtain rfl : worker = finish := by simpa using hrun
      rfl
  | cons task tasks ih =>
      rw [Runs.run_cons, Option.bind_eq_some_iff] at hrun
      obtain ⟨next, hstep, hrest⟩ := hrun
      cases task with
      | gateway event =>
          obtain ⟨record, hrecord, rfl⟩ := Option.map_eq_some_iff.mp hstep
          have hcallbacks : callbacks (.gateway event :: tasks) =
            event :: callbacks tasks := rfl
          rw [hcallbacks, Runs.run_cons, hrecord]
          exact ih hrest
      | price key data =>
          simp only [step] at hstep
          split at hstep
          · obtain rfl := Option.some.inj hstep
            have hnext := ih hrest
            exact hnext
          · simp at hstep

theorem step_price {worker : Worker} {key : String} {data : MDUpdateVariant}
    {calls : Multiset Effect}
    (hcalls : (onBinance platform).onPriceDataFromExchange
      worker.record.gateway.book key data = .ok calls) :
    worker.step platform (.price key data) =
      some (worker.send (calls.filter Effect.IsSent)) := by
  rw [step, hcalls]
  rfl

/-- In every state of every run of tasks, data of a key is sent once to each
topic but the empty one whose last message about the key was a subscription and
to no other, the blanking of everything is that of each booked key, and other
data of everything is not sent. -/
theorem fanOut_exact (platform : Platform) (tasks : List WorkerTask)
    (worker : Worker)
    (hrun : Runs.run (step platform) .start tasks = some worker) :
    (∀ key destTopic, destTopic ∈ worker.topics key ↔
        (PairHistory.ofEvents (onBinance platform) key destTopic
          (callbacks tasks)).wanted = true) ∧
      (∀ key data, key ≠ instrumentWildCard →
        ∃ recordKey payload, Carries key recordKey payload data ∧
          worker.step platform (.price key data) =
            some (worker.send
              (((worker.topics key).erase "").val.map fun destTopic =>
                .produce destTopic (msgTypeOf data) recordKey payload))) ∧
      (∃ blanked : String → Multiset Effect,
        (∀ key ∈ worker.bookedKeys,
          worker.step platform (.price key .priceBlanking) =
            some (worker.send (blanked key))) ∧
        worker.step platform (.price instrumentWildCard .priceBlanking) =
          some (worker.send (worker.bookedKeys.val.bind blanked))) ∧
      ∀ data, data ≠ .priceBlanking →
        worker.step platform (.price instrumentWildCard data) =
          some (worker.send 0) := by
  have hrecord := record_run hrun
  have hreadable := Readable.of_run hrecord
  refine ⟨?_, ?_, ?_, ?_⟩
  · intro key destTopic
    have hhandled : worker.record.handled = callbacks tasks := by
      simpa [start, Record.start] using Record.handled_eq hrecord
    rw [← hhandled]
    exact (PairHistory.agrees_ofEvents hrecord).hwanted.symm
  · intro key data hkey
    obtain ⟨recordKey, payload, hcarries, hcalls⟩ :=
      onPriceData_of_key platform hreadable hkey data
    refine ⟨recordKey, payload, hcarries, ?_⟩
    rw [step_price hcalls, sent_of_key hreadable hcarries]
    rfl
  · obtain ⟨blanked, hkeys, hall⟩ :=
      onPriceData_wildCard platform hreadable
    refine ⟨fun key => (blanked key).filter Effect.IsSent,
      fun key hkey => step_price (hkeys key hkey), ?_⟩
    rw [step_price hall, Multiset.filter_bind]
    rfl
  · intro data hdata
    have hnothing : (onBinance platform).onPriceDataFromExchange
        worker.record.gateway.book instrumentWildCard data = .ok 0 := by
      cases data with
      | tradeUpdate | depthUpdate => rfl
      | priceBlanking => exact absurd rfl hdata
    rw [step_price hnothing, Multiset.filter_zero]

/-- The worker after the first client has subscribed to BTC trades. -/
theorem fanOut_exact_of_one_client :
    ∃ worker, Runs.run (step twoClients) .start
        [.gateway (.rebalance .partitionAssigned 0),
          .gateway (.message 0 "subscribe" firstText)] = some worker ∧
      (worker.topics "BTC:trade").erase "" = {"first_topic"} ∧
      ∃ recordKey payload, Carries "BTC:trade" recordKey payload
          (.tradeUpdate .null) ∧
        worker.step twoClients (.price "BTC:trade" (.tradeUpdate .null)) =
          some (worker.send (((worker.topics "BTC:trade").erase "").val.map
            fun destTopic =>
              .produce destTopic "trade_update" recordKey payload)) := by
  obtain ⟨worker, hrun, htopics⟩ :
      ∃ worker, Runs.run (step twoClients) .start
          [.gateway (.rebalance .partitionAssigned 0),
            .gateway (.message 0 "subscribe" firstText)] = some worker ∧
        (worker.topics "BTC:trade").erase "" = {"first_topic"} :=
    ⟨_, rfl, rfl⟩
  exact ⟨worker, hrun, htopics, (fanOut_exact twoClients _ worker hrun).2.1
    "BTC:trade" (.tradeUpdate .null) (by decide)⟩

/-- The Binance gateway, with a request that names the empty topic to parse. -/
def emptyTopic : Platform :=
  .ofTexts keyGenFunc keyDisintegrationFunc
    [(requestText "", .object (requestObject ""))]

/-- The empty topic is booked like any other, and no update is sent to it. -/
theorem booked_empty_topic_gets_nothing :
    ∃ worker, Runs.run (step emptyTopic) .start
        [.gateway (.rebalance .partitionAssigned 0),
          .gateway (.message 0 "subscribe" (requestText ""))] =
            some worker ∧
      worker.topics "BTC:trade" = {""} ∧
      worker.step emptyTopic (.price "BTC:trade" (.tradeUpdate .null)) =
        some worker ∧
      worker.sent = 0 :=
  ⟨_, rfl, rfl, rfl, rfl⟩

end Worker

end MultiMarketPrices.Binance
