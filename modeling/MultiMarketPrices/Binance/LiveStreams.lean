import MultiMarketPrices.Binance.System

/-!
# Live streams and booked keys

The book keeps the destination topics of a key, and the session a plain set of
streams.  An accepted message is forwarded whatever the book holds, so the first
accepted unsubscription of a key stops its stream, also for the topics that
remain.  The two agree as long as every accepted unsubscription takes the last
topic of its key.
-/

namespace MultiMarketPrices.Binance

open PlatformComm WebSockets

structure WellFormedSymbol (symbol : String) : Prop where
  hupper : Text.upper symbol = symbol
  hcolon : ':' ∉ symbol.toList
  hat : '@' ∉ symbol.toList

theorem WellFormedSymbol.cStr {symbol : String}
    (hsymbol : WellFormedSymbol symbol) :
    WellFormedSymbol (Text.cStr symbol) where
  hupper := by
    rw [Text.upper_eq_self_iff]
    intro character hmem
    exact Text.upper_eq_self_iff.mp hsymbol.hupper character
      (Text.mem_of_mem_cStr hmem)
  hcolon hmem := hsymbol.hcolon (Text.mem_of_mem_cStr hmem)
  hat hmem := hsymbol.hat (Text.mem_of_mem_cStr hmem)

theorem streamOf_toList (symbol : String) (priceType : PriceType) :
    (streamOf symbol priceType).toList =
      (Text.lower symbol).toList ++ '@' :: (streamSuffix priceType).toList := by
  cases priceType <;> simp [streamOf, streamSuffix, String.toList_append]

theorem keyOf_toList (symbol : String) (priceType : PriceType) :
    (keyOf symbol priceType).toList =
      symbol.toList ++ ':' :: priceType.text.toList := by
  simp [keyOf, String.toList_append]

/-- Different keys have different streams. -/
theorem streamOf_inj {symbol symbol' : String} {priceType priceType' : PriceType}
    (hsymbol : WellFormedSymbol symbol) (hsymbol' : WellFormedSymbol symbol')
    (heq : streamOf symbol priceType = streamOf symbol' priceType') :
    symbol = symbol' ∧ priceType = priceType' := by
  have hlists := congrArg String.toList heq
  rw [streamOf_toList, streamOf_toList] at hlists
  have hparts := Text.pair_inj (Text.not_mem_lower (by decide) hsymbol.hat)
    (Text.not_mem_lower (by decide) hsymbol'.hat) hlists
  constructor
  · exact Text.lower_injective_on_upper hsymbol.hupper hsymbol'.hupper
      (String.toList_inj.mp hparts.1)
  · have hsuffix := String.toList_inj.mp hparts.2
    cases priceType <;> cases priceType' <;> simp_all [streamSuffix]

theorem keyOf_inj {symbol symbol' : String} {priceType priceType' : PriceType}
    (hcolon : ':' ∉ symbol.toList) (hcolon' : ':' ∉ symbol'.toList)
    (heq : keyOf symbol priceType = keyOf symbol' priceType') :
    symbol = symbol' ∧ priceType = priceType' := by
  have hlists := congrArg String.toList heq
  rw [keyOf_toList, keyOf_toList] at hlists
  have hparts := Text.pair_inj hcolon hcolon' hlists
  refine ⟨String.toList_inj.mp hparts.1, ?_⟩
  have htext := String.toList_inj.mp hparts.2
  cases priceType <;> cases priceType' <;> simp_all [PriceType.text]

/-- The message names a symbol, a price type and a destination topic. -/
def MessageNames (platform : Platform) (msg symbol : String)
    (priceType : PriceType) (destTopic : String) : Prop :=
  ∃ obj : Json.Object, platform.parse msg = .ok (.object obj) ∧
    obj.lookup "symbol" = some (.string symbol) ∧
    obj.lookup "type" = some (.string priceType.text) ∧
    obj.lookup "destination_topic" = some (.string destTopic)

theorem subUnsubRequest_eq {platform : Platform} {msg symbol destTopic : String}
    {priceType : PriceType} (isSub : Bool)
    (hmsg : MessageNames platform msg symbol priceType destTopic) :
    (onBinance platform).subUnsubRequest isSub msg =
      .ok (some (keyOf (Text.cStr symbol) priceType, Text.cStr destTopic)) := by
  obtain ⟨obj, hparse, hsymbol, htype, hdest⟩ := hmsg
  cases isSub <;>
    simp [Platform.subUnsubRequest, onBinance, hparse, Except.bind, keyGenFunc,
      generateKey_eq hsymbol htype, Json.Object.cStrAt_of_lookup hdest,
      Except.map]

/-! ## The statement -/

/-- A well-formed message on an operational partition, or anything the strand
and the link do. -/
def MessagesOnly (platform : Platform) (system : System) : SystemEvent → Prop
  | .gateway (.message partition msgType msg) =>
      (∃ isSub, msgType = Platform.messageType isSub) ∧
      (∃ symbol priceType destTopic, WellFormedSymbol symbol ∧
        MessageNames platform msg symbol priceType destTopic) ∧
      ∃ fsm, system.record.gateway.partitionFSMs.lookup partition = some fsm ∧
        fsm.state = .operational
  | .gateway _ => False
  | .runPosted | .session _ => True

/-- An unsubscription of a booked topic is of the last one of its key. -/
def TakesLastTopic (platform : Platform) (system : System)
    (event : SystemEvent) : Prop :=
  ∀ partition msg key destTopic,
    event = .gateway (.message partition "unsubscribe" msg) →
    (onBinance platform).subUnsubRequest false msg =
      .ok (some (key, destTopic)) →
    destTopic ∈ system.record.gateway.book.topics key →
    system.record.gateway.book.topics key = {destTopic}

/-- Once the posted calls have run, a stream is live exactly while its key has
a destination topic. -/
def LiveWhileWanted (system : System) : Prop :=
  ∀ symbol priceType, WellFormedSymbol symbol →
    (streamOf symbol priceType ∈ system.settled.liveSubscriptions ↔
      (system.record.gateway.book.topics (keyOf symbol priceType)).Nonempty)

/-- Nothing is booked and nothing subscribed. -/
structure Fresh (system : System) : Prop where
  hsound : system.record.gateway.Sound
  htopics : ∀ key, system.record.gateway.book.topics key = ∅
  hlive : system.settled.liveSubscriptions = ∅

/-! ## One message -/

variable {platform : Platform} {system next : System}

/-- What a message on an operational partition does to the topics and to the
live set. -/
theorem step_message {partition : ℤ} {isSub : Bool}
    {msg symbol destTopic : String} {priceType : PriceType} {fsm : Fsm}
    (hsymbol : WellFormedSymbol symbol)
    (hmsg : MessageNames platform msg symbol priceType destTopic)
    (hfsm : system.record.gateway.partitionFSMs.lookup partition = some fsm)
    (hoperational : fsm.state = .operational)
    (hstep : system.step platform
      (.gateway (.message partition (Platform.messageType isSub) msg)) =
        some next) :
    next.record.gateway.book =
        (system.record.gateway.book.handleBookKeeping
          (keyOf (Text.cStr symbol) priceType) (Text.cStr destTopic) isSub).2 ∧
      next.settled.liveSubscriptions =
        if (system.record.gateway.book.handleBookKeeping
          (keyOf (Text.cStr symbol) priceType) (Text.cStr destTopic) isSub).1
        then
          if isSub then insert (streamOf (Text.cStr symbol) priceType)
            system.settled.liveSubscriptions
          else system.settled.liveSubscriptions.erase
            (streamOf (Text.cStr symbol) priceType)
        else system.settled.liveSubscriptions := by
  have hcolon := hsymbol.cStr.hcolon
  obtain ⟨sent, calls, hhandle, hcalls, -, -, hposted, hlink⟩ :=
    System.step_gateway hstep
  have hcomputed : (onBinance platform).msgCb partition
      (Platform.messageType isSub) msg system.record.gateway =
        .ok (next.record.gateway, sent) := hhandle
  rw [msgCb_of_operational hfsm hoperational (subUnsubRequest_eq isSub hmsg)]
    at hcomputed
  split at hcomputed
  · next haccepted =>
      obtain ⟨hnext, rfl⟩ := Prod.mk.inj (Except.ok.inj hcomputed)
      refine ⟨by rw [← hnext], ?_⟩
      rw [if_pos haccepted, System.settled_gateway hposted hlink]
      obtain ⟨call, hcall, hmethod, hstream⟩ :=
        controlCall_keyOf hcolon priceType isSub
      rw [controlCalls_reported, hcall] at hcalls
      obtain rfl := Except.ok.inj hcalls
      cases isSub <;> simp [Call.liveAfter, hmethod, hstream]
  · next hrefused =>
      obtain ⟨hnext, rfl⟩ := Prod.mk.inj (Except.ok.inj hcomputed)
      refine ⟨by rw [← hnext], ?_⟩
      rw [if_neg hrefused, System.settled_gateway hposted hlink]
      simp only [controlCalls, Except.ok.injEq] at hcalls
      subst hcalls
      rfl

/-- The streams and the topics of other keys are as before. -/
theorem step_message_other {partition : ℤ} {isSub : Bool}
    {msg symbol destTopic other : String} {priceType otherType : PriceType}
    {fsm : Fsm} (hsymbol : WellFormedSymbol symbol)
    (hmsg : MessageNames platform msg symbol priceType destTopic)
    (hfsm : system.record.gateway.partitionFSMs.lookup partition = some fsm)
    (hoperational : fsm.state = .operational)
    (hother : WellFormedSymbol other)
    (hne : ¬ (other = Text.cStr symbol ∧ otherType = priceType))
    (hstep : system.step platform
      (.gateway (.message partition (Platform.messageType isSub) msg)) =
        some next) :
    next.record.gateway.book.topics (keyOf other otherType) =
        system.record.gateway.book.topics (keyOf other otherType) ∧
      (streamOf other otherType ∈ next.settled.liveSubscriptions ↔
        streamOf other otherType ∈ system.settled.liveSubscriptions) := by
  obtain ⟨hbook, hlive⟩ :=
    step_message hsymbol hmsg hfsm hoperational hstep
  have hkey : keyOf other otherType ≠ keyOf (Text.cStr symbol) priceType :=
    fun heq => hne (keyOf_inj hother.hcolon hsymbol.cStr.hcolon heq)
  have hstream :
      streamOf other otherType ≠ streamOf (Text.cStr symbol) priceType :=
    fun heq => hne (streamOf_inj hother hsymbol.cStr heq)
  constructor
  · rw [hbook, RoutingBook.topics_bookKeeping, if_neg hkey]
  · rw [hlive]
    cases isSub <;> split <;> simp [hstream]

/-- The stream and the topics of the message's own key. -/
theorem step_message_same {partition : ℤ} {isSub : Bool}
    {msg symbol destTopic : String} {priceType : PriceType} {fsm : Fsm}
    (hsymbol : WellFormedSymbol symbol)
    (hmsg : MessageNames platform msg symbol priceType destTopic)
    (hfsm : system.record.gateway.partitionFSMs.lookup partition = some fsm)
    (hoperational : fsm.state = .operational)
    (hstep : system.step platform
      (.gateway (.message partition (Platform.messageType isSub) msg)) =
        some next) :
    next.record.gateway.book.topics (keyOf (Text.cStr symbol) priceType) =
        (if isSub then insert (Text.cStr destTopic)
          (system.record.gateway.book.topics
            (keyOf (Text.cStr symbol) priceType))
        else (system.record.gateway.book.topics
          (keyOf (Text.cStr symbol) priceType)).erase (Text.cStr destTopic)) ∧
      (streamOf (Text.cStr symbol) priceType ∈
          next.settled.liveSubscriptions ↔
        if isSub then
          Text.cStr destTopic ∉ system.record.gateway.book.topics
              (keyOf (Text.cStr symbol) priceType) ∨
            streamOf (Text.cStr symbol) priceType ∈
              system.settled.liveSubscriptions
        else
          Text.cStr destTopic ∉ system.record.gateway.book.topics
              (keyOf (Text.cStr symbol) priceType) ∧
            streamOf (Text.cStr symbol) priceType ∈
              system.settled.liveSubscriptions) := by
  obtain ⟨hbook, hlive⟩ :=
    step_message hsymbol hmsg hfsm hoperational hstep
  constructor
  · rw [hbook, RoutingBook.topics_bookKeeping, if_pos rfl]
  · rw [hlive, RoutingBook.bookKeeping_accepted]
    cases isSub with
    | true =>
        by_cases hbooked : Text.cStr destTopic ∈
            system.record.gateway.book.topics
              (keyOf (Text.cStr symbol) priceType) <;>
          simp [hbooked]
    | false =>
        by_cases hbooked : Text.cStr destTopic ∈
            system.record.gateway.book.topics
              (keyOf (Text.cStr symbol) priceType) <;>
          simp [hbooked]

/-! ## Runs -/

/-- What is kept as long as every unsubscription takes the last topic. -/
structure InStep (system : System) : Prop where
  hsound : system.record.gateway.Sound
  hlive : LiveWhileWanted system

theorem Fresh.inStep (hfresh : Fresh system) : InStep system where
  hsound := hfresh.hsound
  hlive symbol priceType _ := by
    simp [hfresh.htopics, hfresh.hlive]

theorem System.step_sound {event : SystemEvent}
    (hsound : system.record.gateway.Sound)
    (hstep : system.step platform event = some next) :
    next.record.gateway.Sound := by
  cases event with
  | gateway event =>
      obtain ⟨sent, calls, hhandle, -⟩ := System.step_gateway hstep
      exact (handled_of_handle hsound hhandle).sound hsound
  | runPosted =>
      rw [(System.step_session (by simp) hstep).1]
      exact hsound
  | session event =>
      rw [(System.step_session (by simp) hstep).1]
      exact hsound

theorem InStep.step {event : SystemEvent} (hin : InStep system)
    (hallowed : MessagesOnly platform system event)
    (htakes : TakesLastTopic platform system event)
    (hstep : system.step platform event = some next) : InStep next := by
  refine ⟨System.step_sound hin.hsound hstep, ?_⟩
  intro other otherType hother
  have hbefore := hin.hlive other otherType hother
  cases event with
  | runPosted =>
      obtain ⟨hrecord, hlive⟩ := System.step_session (by simp) hstep
      rw [hrecord, hlive]
      exact hbefore
  | session event =>
      obtain ⟨hrecord, hlive⟩ := System.step_session (by simp) hstep
      rw [hrecord, hlive]
      exact hbefore
  | gateway event =>
  cases event with
  | rebalance => exact absurd hallowed id
  | response => exact absurd hallowed id
  | message partition msgType msg =>
      obtain ⟨⟨isSub, rfl⟩, ⟨symbol, priceType, destTopic, hsymbol, hmsg⟩, fsm,
        hfsm, hoperational⟩ := hallowed
      by_cases hsame : other = Text.cStr symbol ∧ otherType = priceType
      · obtain ⟨rfl, rfl⟩ := hsame
        obtain ⟨htopics, hlive⟩ :=
          step_message_same hsymbol hmsg hfsm hoperational hstep
        rw [htopics, hlive]
        cases isSub with
        | true =>
            simp only [if_true, Finset.insert_nonempty, iff_true]
            -- a repeated subscription is of a stream that is already live
            by_cases hbooked : Text.cStr destTopic ∈
                system.record.gateway.book.topics
                  (keyOf (Text.cStr symbol) otherType)
            · exact .inr (hbefore.mpr ⟨_, hbooked⟩)
            · exact .inl hbooked
        | false =>
            simp only [Bool.false_eq_true, if_false]
            by_cases hbooked : Text.cStr destTopic ∈
                system.record.gateway.book.topics
                  (keyOf (Text.cStr symbol) otherType)
            · have hlast := htakes partition msg _ _ rfl
                (subUnsubRequest_eq false hmsg) hbooked
              simp [hlast]
            · rw [Finset.erase_eq_of_notMem hbooked]
              simp [hbooked, hbefore]
      · obtain ⟨htopics, hlive⟩ := step_message_other hsymbol hmsg hfsm
          hoperational hother hsame hstep
        rw [htopics, hlive]
        exact hbefore

/-- An unsubscription that leaves a topic stops the stream all the same. -/
theorem not_liveWhileWanted {event : SystemEvent}
    (hallowed : MessagesOnly platform system event)
    (htakes : ¬ TakesLastTopic platform system event)
    (hstep : system.step platform event = some next) :
    ¬ LiveWhileWanted next := by
  simp only [TakesLastTopic, not_forall] at htakes
  obtain ⟨partition, msg, key, booked, rfl, hrequest, hbooked, hmore⟩ := htakes
  obtain ⟨-, ⟨symbol, priceType, destTopic, hsymbol, hmsg⟩, fsm, hfsm,
    hoperational⟩ := hallowed
  obtain ⟨rfl, rfl⟩ := Prod.mk.inj (Option.some.inj (Except.ok.inj
    ((subUnsubRequest_eq false hmsg).symm.trans hrequest)))
  have hunsubscribe : system.step platform
      (.gateway (.message partition (Platform.messageType false) msg)) =
        some next := hstep
  obtain ⟨htopics, hlive⟩ :=
    step_message_same hsymbol hmsg hfsm hoperational hunsubscribe
  simp only [Bool.false_eq_true, if_false] at htopics hlive
  intro hwanted
  have hempty := mt (hwanted _ priceType hsymbol.cStr).mpr
    (fun hstream => (hlive.mp hstream).1 hbooked)
  rw [htopics, Finset.not_nonempty_iff_eq_empty, Finset.erase_eq_empty_iff]
    at hempty
  rcases hempty with hnone | hsingle
  · simp [hnone] at hbooked
  · exact hmore hsingle

/-- In a run of messages on operational partitions, with the strand and the
link at work between them, the streams are live exactly while their keys have
topics in every state visited, exactly when every unsubscription of a booked
topic is of the last topic of its key. -/
theorem liveWhileWanted_iff_takesLastTopic (platform : Platform)
    (start : System) (hfresh : Fresh start) (events : List SystemEvent)
    (finish : System)
    (hallowed : Runs.EveryStep (System.step platform) (MessagesOnly platform)
      start events)
    (hrun : Runs.run (System.step platform) start events = some finish) :
    Runs.EveryStep (System.step platform) (TakesLastTopic platform) start
        events ↔
      ∀ initial, initial <+: events → ∀ system,
        Runs.run (System.step platform) start initial = some system →
        LiveWhileWanted system :=
  Runs.everyStep_iff_forall_good InStep LiveWhileWanted
    (fun _ hin => hin.hlive)
    (fun _ _ _ hin hmessage htakes hstep => hin.step hmessage htakes hstep)
    (fun _ _ _ _ hmessage htakes hstep =>
      not_liveWhileWanted hmessage htakes hstep)
    hfresh.inStep hallowed hrun

/-! ## Two clients of one key -/

/-- A request for the trades of BTC. -/
def requestText (destTopic : String) : String :=
  "\x7b\"symbol\":\"BTC\",\"type\":\"trade\"," ++
    "\"destination_topic\":\"" ++ destTopic ++ "\"\x7d"

/-- The object that the text of a request stands for. -/
def requestObject (destTopic : String) : Json.Object :=
  [("symbol", .string "BTC"), ("type", .string "trade"),
    ("destination_topic", .string destTopic)]

/-- The Binance gateway, with the requests of two clients to parse. -/
def twoClients : Platform :=
  .ofTexts keyGenFunc keyDisintegrationFunc
    [(requestText "first_topic", .object (requestObject "first_topic")),
      (requestText "second_topic", .object (requestObject "second_topic"))]

def firstText : String := requestText "first_topic"

def secondText : String := requestText "second_topic"

/-- Partition 0 is operational, and nothing is booked. -/
def operationalStart : System :=
  { System.start 0 with
    record := ⟨⟨.empty, (∅ : Finmap fun _ : ℤ => Fsm).insert 0
      ⟨.operational, []⟩⟩, [], []⟩ }

theorem fresh_operationalStart : Fresh operationalStart where
  hsound partition fsm hfsm := by
    by_cases heq : partition = 0
    · subst heq
      simp only [operationalStart, Finmap.lookup_insert, Option.some.injEq]
        at hfsm
      subst hfsm
      exact ⟨by simp, fun _ => rfl⟩
    · simp [operationalStart, Finmap.lookup_insert_of_ne _ heq] at hfsm
  htopics _ := rfl
  hlive := rfl

theorem wellFormedSymbol_BTC : WellFormedSymbol "BTC" :=
  ⟨by decide, by decide, by decide⟩

theorem messageNames_first :
    MessageNames twoClients firstText "BTC" .trade "first_topic" :=
  ⟨_, rfl, rfl, rfl, rfl⟩

theorem messageNames_second :
    MessageNames twoClients secondText "BTC" .trade "second_topic" :=
  ⟨_, rfl, rfl, rfl, rfl⟩

theorem messagesOnly_BTC {msg destTopic : String} (isSub : Bool)
    (hmsg : MessageNames twoClients msg "BTC" .trade destTopic)
    (hfsm : system.record.gateway.partitionFSMs.lookup 0 =
      some ⟨.operational, []⟩) :
    MessagesOnly twoClients system
      (.gateway (.message 0 (Platform.messageType isSub) msg)) :=
  ⟨⟨isSub, rfl⟩, ⟨"BTC", .trade, destTopic, wellFormedSymbol_BTC, hmsg⟩, _,
    hfsm, rfl⟩

theorem liveWhileWanted_iff_takesLastTopic_of_one_client :
    Runs.EveryStep (System.step twoClients) (TakesLastTopic twoClients)
        operationalStart
        [.gateway (.message 0 "subscribe" firstText),
          .gateway (.message 0 "unsubscribe" firstText), .runPosted] ↔
      ∀ initial, initial <+:
          [.gateway (.message 0 "subscribe" firstText),
            .gateway (.message 0 "unsubscribe" firstText), .runPosted] →
        ∀ system, Runs.run (System.step twoClients) operationalStart initial =
            some system →
          LiveWhileWanted system := by
  apply liveWhileWanted_iff_takesLastTopic twoClients operationalStart
    fresh_operationalStart _ _ ?_ rfl
  apply Runs.everyStep_cons (messagesOnly_BTC true messageNames_first rfl)
  intro subscribed hsubscribed
  obtain rfl := Option.some.inj hsubscribed
  apply Runs.everyStep_cons (messagesOnly_BTC false messageNames_first rfl)
  intro unsubscribed _
  exact Runs.everyStep_cons trivial fun _ _ => Runs.everyStep_nil _

/-- Two clients subscribe to one key, and the first one leaves. -/
theorem stream_stopped_for_second_client :
    ∃ finish,
      Runs.EveryStep (System.step twoClients) (MessagesOnly twoClients)
        operationalStart
        [.gateway (.message 0 "subscribe" firstText),
          .gateway (.message 0 "subscribe" secondText),
          .gateway (.message 0 "unsubscribe" firstText),
          .runPosted, .runPosted, .runPosted] ∧
      Runs.run (System.step twoClients) operationalStart
        [.gateway (.message 0 "subscribe" firstText),
          .gateway (.message 0 "subscribe" secondText),
          .gateway (.message 0 "unsubscribe" firstText),
          .runPosted, .runPosted, .runPosted] = some finish ∧
      finish.posted = [] ∧
      finish.record.gateway.book.topics "BTC:trade" = {"second_topic"} ∧
      "btc@trade" ∉ finish.link.session.liveSubscriptions := by
  refine ⟨_, ?_, rfl, rfl, rfl, by decide⟩
  apply Runs.everyStep_cons (messagesOnly_BTC true messageNames_first rfl)
  intro first hfirst
  obtain rfl := Option.some.inj hfirst
  apply Runs.everyStep_cons (messagesOnly_BTC true messageNames_second rfl)
  intro second hsecond
  obtain rfl := Option.some.inj hsecond
  apply Runs.everyStep_cons (messagesOnly_BTC false messageNames_first rfl)
  intro third _
  refine Runs.everyStep_cons trivial fun fourth _ => ?_
  refine Runs.everyStep_cons trivial fun fifth _ => ?_
  exact Runs.everyStep_cons trivial fun _ _ => Runs.everyStep_nil _

end MultiMarketPrices.Binance
