import MultiMarketPrices.Binance.Recovery
import MultiMarketPrices.PlatformComm.Bookings
import MultiMarketPrices.PlatformComm.PassedOn

/-!
# Revoked partitions

Entering `Revoked` touches neither the book nor the session.  What a partition's
messages have booked stays booked and subscribed, so that a revoked partition
has let its pairs go exactly when their last messages were unsubscriptions and
the machines had passed these on: a message that comes while the partition is
revoked still changes the book, but not the exchange.
-/

namespace MultiMarketPrices.Binance.Revocation

open PlatformComm WebSockets Recovery

def Revoked (partition : ℤ) (system : System) : Prop :=
  ∃ fsm, system.record.gateway.partitionFSMs.lookup partition = some fsm ∧
    fsm.state = .revoked

/-- The history of a pair over the events handled so far. -/
def history (platform : Platform) (key destTopic : String) (system : System) :
    PairHistory :=
  .ofEvents (onBinance platform) key destTopic system.record.handled

/-- The messages that booked the pair were all received on the partition. -/
def PairOnlyThrough (platform : Platform) (partition : ℤ)
    (key destTopic : String) (system : System) : Prop :=
  (history platform key destTopic system).bookers = {partition}

/-- The messages that booked the key, for whatever topic, were all received on
the partition. -/
def KeyOnlyThrough (platform : Platform) (partition : ℤ) (key : String)
    (system : System) : Prop :=
  (∃ destTopic,
    partition ∈ (history platform key destTopic system).bookers) ∧
  ∀ destTopic, (history platform key destTopic system).bookers ⊆ {partition}

/-- Some update of the key is sent to the topic. -/
def Published (platform : Platform) (book : RoutingBook)
    (key destTopic : String) : Prop :=
  ∃ update calls,
    (platform.onPriceDataFromExchange book key (.tradeUpdate update) =
        .ok calls ∧
      .produce destTopic "trade_update" key update ∈
        calls.filter Effect.IsSent) ∨
    (platform.onPriceDataFromExchange book key (.depthUpdate update) =
        .ok calls ∧
      .produce destTopic "depth_update" key update ∈
        calls.filter Effect.IsSent)

/-- The stream that `subscribe` asks for. -/
def streamOfKey (key : String) : Option String :=
  match subscribe key with
  | .ok (some call) => some call.stream
  | _ => none

/-- While the partition is revoked, nothing is published for the pairs booked
only through it, and the keys booked only through it have no live stream once
the posted calls have run. -/
def LetGo (platform : Platform) (partition : ℤ) (system : System) : Prop :=
  Revoked partition system →
    (∀ key destTopic, PairOnlyThrough platform partition key destTopic system →
      ¬ Published (onBinance platform) system.record.gateway.book key
        destTopic) ∧
    ∀ key stream, KeyOnlyThrough platform partition key system →
      streamOfKey key = some stream →
      stream ∉ system.settled.liveSubscriptions

/-- Whether the last key of a stream that was passed on was to be subscribed. -/
def lastPassedOn (stream : String) (passed : List (String × Bool)) :
    Option Bool :=
  (passed.filter fun command =>
    streamOfKey command.1 = some stream).getLast?.map Prod.snd

/-- While the partition is revoked, the last message about each pair booked only
through it, unless its topic is empty, was an unsubscription; and what the
machines last passed on, in the states in which the events so far found them,
about the stream of a key booked only through it was no subscription. -/
def Cleared (platform : Platform) (partition : ℤ) (system : System) : Prop :=
  Revoked partition system →
    (∀ key destTopic, PairOnlyThrough platform partition key destTopic system →
      destTopic ≠ "" → (history platform key destTopic system).wanted = false) ∧
    ∀ key stream, KeyOnlyThrough platform partition key system →
      streamOfKey key = some stream →
      lastPassedOn stream
        ((onBinance platform).passedOnBy system.record.handled) ≠ some true

/-- The partition's machine is revoked, if there is one. -/
def GivenUp (partition : ℤ) (system : System) : Prop :=
  ∀ fsm, system.record.gateway.partitionFSMs.lookup partition = some fsm →
    fsm.state = .revoked

/-- If all other members of a group have given the partition up, only the owner
publishes for pairs that messages on the partition alone have booked. -/
def OnlyPublisher {Member : Type*} (platforms : Member → Platform)
    (partition : ℤ) (owner : Member) (systems : Member → System) : Prop :=
  (∀ member, member ≠ owner → GivenUp partition (systems member)) →
  ∀ key destTopic,
    (∀ member, (history (platforms member) key destTopic
      (systems member)).bookers ⊆ {partition}) →
    ∀ member, Published (onBinance (platforms member))
        (systems member).record.gateway.book key destTopic →
      member = owner

/-! ## What the book and the session remember -/

/-- The session's call for a key that is passed on. -/
def callOf (command : String × Bool) : Option Call :=
  match controlCall (.control command.1
    (if command.2 then .subRequest [] else .unsubRequest [])) with
  | .ok call => call
  | .error _ => none

/-- Whichever calls are asked for, a key is read alike. -/
theorem callFor_cases (key : String) :
    (∀ onTrade onDepth, callFor onTrade onDepth key = .error .index) ∨
      (∀ onTrade onDepth, callFor onTrade onDepth key = .ok none) ∨
      (∃ symbol, ∀ onTrade onDepth,
        callFor onTrade onDepth key = .ok (some (onTrade symbol))) ∨
      ∃ symbol, ∀ onTrade onDepth,
        callFor onTrade onDepth key = .ok (some (onDepth symbol)) := by
  simp only [callFor]
  split
  · next symbol type rest _ =>
      cases strToPriceType type with
      | none => exact .inr (.inl fun _ _ => rfl)
      | some priceType =>
          cases priceType with
          | trade =>
              exact .inr (.inr (.inl ⟨Text.lower symbol, fun _ _ => rfl⟩))
          | depth =>
              exact .inr (.inr (.inr ⟨Text.lower symbol, fun _ _ => rfl⟩))
  · exact .inl fun _ _ => rfl

/-- The call is about the stream of the key. -/
theorem callOf_cases (command : String × Bool) :
    callOf command = none ∧ streamOfKey command.1 = none ∨
      ∃ call, callOf command = some call ∧
        streamOfKey command.1 = some call.stream ∧
        call.method = if command.2 then .subscribe else .unsubscribe := by
  obtain ⟨key, isSub⟩ := command
  rcases callFor_cases key with hkey | hkey | ⟨symbol, hkey⟩ | ⟨symbol, hkey⟩
  · left
    cases isSub <;>
      simp [callOf, controlCall, subscribe, unsubscribe, streamOfKey, hkey]
  · left
    cases isSub <;>
      simp [callOf, controlCall, subscribe, unsubscribe, streamOfKey, hkey]
  · right
    cases isSub <;>
      simp [callOf, controlCall, subscribe, unsubscribe, streamOfKey, hkey,
        Call.stream, Call.method]
  · right
    cases isSub <;>
      simp [callOf, controlCall, subscribe, unsubscribe, streamOfKey, hkey,
        Call.stream, Call.method]

theorem forwarded_singleton (effect : Effect) :
    forwarded [effect] = (effect.command.bind callOf).toList := by
  cases effect with
  | control key cmd =>
      cases cmd with
      | subRequest =>
          simp only [forwarded, controlCall, Effect.command, callOf,
            Option.bind_some, List.flatMap_singleton, if_true]
          cases subscribe key <;> rfl
      | unsubRequest =>
          simp only [forwarded, controlCall, Effect.command, callOf,
            Option.bind_some, List.flatMap_singleton, Bool.false_eq_true,
            if_false]
          cases unsubscribe key <;> rfl
  | request | produce | entered => rfl

theorem forwarded_eq (effects : List Effect) :
    forwarded effects =
      (effects.filterMap Effect.command).filterMap callOf := by
  induction effects with
  | nil => rfl
  | cons effect effects ih =>
      have hfirst : forwarded (effect :: effects) =
          forwarded [effect] ++ forwarded effects :=
        forwarded_append [effect] effects
      rw [hfirst, ih, forwarded_singleton, List.filterMap_cons]
      cases effect.command with
      | none => rfl
      | some command =>
          simp only [Option.bind_some, List.filterMap_cons]
          cases callOf command <;> rfl

theorem lastPassedOn_concat (stream : String) (passed : List (String × Bool))
    (command : String × Bool) :
    lastPassedOn stream (passed ++ [command]) =
      if streamOfKey command.1 = some stream then some command.2
      else lastPassedOn stream passed := by
  by_cases hstream : streamOfKey command.1 = some stream <;>
    simp [lastPassedOn, List.filter_append, hstream]

/-- A stream is live exactly if it was last passed on to be subscribed. -/
theorem mem_live_iff (stream : String) (passed : List (String × Bool)) :
    stream ∈ (passed.filterMap callOf).foldl
        (fun live call => call.liveAfter live) ∅ ↔
      lastPassedOn stream passed = some true := by
  induction passed using List.reverseRecOn with
  | nil => simp [lastPassedOn]
  | append_singleton passed command ih =>
      rw [List.filterMap_append, List.foldl_append, lastPassedOn_concat]
      rcases callOf_cases command with ⟨hcall, hnone⟩ |
        ⟨call, hcall, hstream, hmethod⟩
      · simp [hcall, hnone, ih]
      · simp only [hstream]
        rw [List.filterMap_cons_some hcall, List.filterMap_nil,
          List.foldl_cons, List.foldl_nil, Call.mem_liveAfter, ih, hmethod]
        by_cases hsame : call.stream = stream
        · cases command.2 <;> simp [hsame]
        · simp [hsame]

variable {platform : Platform}

theorem booked_of_published {book : RoutingBook} {key destTopic : String}
    (hpublished : Published platform book key destTopic) :
    destTopic ∈ book.topics key ∧ destTopic ≠ "" := by
  have hkey : key ≠ instrumentWildCard := by
    rintro rfl
    obtain ⟨update, calls, ⟨hcalls, hsent⟩ | ⟨hcalls, hsent⟩⟩ := hpublished
    · obtain rfl := Except.ok.inj hcalls
      simp at hsent
    · obtain rfl := Except.ok.inj hcalls
      simp at hsent
  obtain ⟨update, calls, ⟨hcalls, hsent⟩ | ⟨hcalls, hsent⟩⟩ := hpublished
  · obtain ⟨hcall, hnot⟩ := Multiset.mem_filter.mp hsent
    exact ⟨(platform.produces_trade_iff hkey update).mp ⟨calls, hcalls, hcall⟩,
      (Effect.isSent_produce.mp hnot).1⟩
  · obtain ⟨hcall, hnot⟩ := Multiset.mem_filter.mp hsent
    exact ⟨(platform.produces_depth_iff hkey update).mp ⟨calls, hcalls, hcall⟩,
      (Effect.isSent_produce.mp hnot).1⟩

theorem published_iff {book : RoutingBook} {key destTopic : String}
    (hkey : key ≠ instrumentWildCard) (hname : key ≠ "") :
    Published platform book key destTopic ↔
      destTopic ∈ book.topics key ∧ destTopic ≠ "" := by
  refine ⟨booked_of_published, fun hbooked => ?_⟩
  obtain ⟨calls, hsent⟩ :=
    (platform.sends_trade_iff hkey hname .null).mpr hbooked
  exact ⟨.null, calls, .inl hsent⟩

/-- A pair that was ever booked has the key of a request. -/
theorem generated_of_booker {key destTopic : String} {partition : ℤ}
    {system : System}
    (hbooker : partition ∈ (history platform key destTopic system).bookers) :
    ∃ request, generateKeyFromSubUnsubRequest request = some key := by
  by_contra hnone
  have hempty : (history platform key destTopic system).bookers = ∅ := by
    refine (PairHistory.ofEvents_of_not_about ?_ _).2
    intro isSub event habout
    cases event with
    | rebalance | response => exact habout
    | message partition msgType msg =>
        exact hnone (generateKey_of_request habout.2)
  simp [hempty] at hbooker

/-! ## One gateway -/

section Gateway

variable {partition msgNo : ℤ} {events : List SystemEvent} {system : System}

/-- A revoked partition has let go what was booked only through it exactly when
all of that was cleared. -/
theorem letGo_iff
    (hrun : Runs.run (System.step platform) (.start msgNo) events =
      some system) :
    LetGo platform partition system ↔ Cleared platform partition system := by
  obtain ⟨handled, hrecord⟩ := System.exists_record_run hrun
  have hhandled : system.record.handled = handled := by
    simpa [System.start, Record.start] using Record.handled_eq hrecord
  have hpairs : ∀ key destTopic,
      PairOnlyThrough platform partition key destTopic system →
      (¬ Published (onBinance platform) system.record.gateway.book key
        destTopic ↔ (destTopic ≠ "" →
          (history platform key destTopic system).wanted = false)) := by
    intro key destTopic honly
    obtain ⟨request, hrequest⟩ :=
      generated_of_booker (honly ▸ Finset.mem_singleton_self partition)
    have hagrees : PairHistory.Agrees key destTopic
        (history platform key destTopic system) system.record.gateway :=
      PairHistory.agrees_ofEvents hrecord
    rw [published_iff (generateKey_ne_wildCard hrequest)
      (generateKey_ne_empty hrequest), ← hagrees.hwanted, ← Bool.not_eq_true]
    tauto
  have hstreams : ∀ stream, stream ∉ system.settled.liveSubscriptions ↔
      lastPassedOn stream
        ((onBinance platform).passedOnBy system.record.handled) ≠
          some true := by
    intro stream
    rw [System.settled_of_run hrun, forwarded_eq, command_of_run hrecord,
      hhandled, mem_live_iff]
  constructor
  · intro hletGo hrevoked
    obtain ⟨hpublished, hlive⟩ := hletGo hrevoked
    constructor
    · intro key destTopic honly
      exact (hpairs key destTopic honly).mp (hpublished key destTopic honly)
    · intro key stream honly hstream
      exact (hstreams stream).mp (hlive key stream honly hstream)
  · intro hcleared hrevoked
    obtain ⟨hwanted, hlast⟩ := hcleared hrevoked
    constructor
    · intro key destTopic honly
      exact (hpairs key destTopic honly).mpr (hwanted key destTopic honly)
    · intro key stream honly hstream
      exact (hstreams stream).mpr (hlast key stream honly hstream)

/-- A gateway that has let the partition go publishes for no pair that messages
on the partition alone have booked. -/
theorem LetGo.not_published (hletGo : LetGo platform partition system)
    (hrun : Runs.run (System.step platform) (.start msgNo) events =
      some system) (hgivenUp : GivenUp partition system)
    {key destTopic : String}
    (hbookers : (history platform key destTopic system).bookers ⊆
      {partition}) :
    ¬ Published (onBinance platform) system.record.gateway.book key
      destTopic := by
  intro hpublished
  obtain ⟨handled, hrecord⟩ := System.exists_record_run hrun
  have hagrees : PairHistory.Agrees key destTopic
      (history platform key destTopic system) system.record.gateway :=
    PairHistory.agrees_ofEvents hrecord
  have hwanted := hagrees.hwanted.mpr (booked_of_published hpublished).1
  have honly : (history platform key destTopic system).bookers = {partition} :=
    (Finset.subset_singleton_iff.mp hbookers).resolve_left
      (PairHistory.bookers_nonempty hwanted).ne_empty
  have hassigned := PairHistory.bookers_subset_assigned _
    (honly ▸ Finset.mem_singleton_self partition)
  obtain ⟨fsm, hfsm⟩ :=
    Finmap.mem_iff.mp ((hagrees.hassigned partition).mp hassigned)
  exact (hletGo ⟨fsm, hfsm, hgivenUp fsm hfsm⟩).1 key destTopic honly hpublished

end Gateway

/-! ## A group of gateways -/

/-- In every state of a group of gateways, each in a run of its own, all members
have let go what was booked only through the partition wherever it is revoked,
and its owner is the only publisher for it, exactly when all of that was cleared
wherever the partition is revoked. -/
theorem letGo_iff_cleared {Member : Type*} (platforms : Member → Platform)
    (partition : ℤ) (owner : Member) (msgNo : Member → ℤ)
    (events : Member → List SystemEvent) (systems : Member → System)
    (hruns : ∀ member, Runs.run (System.step (platforms member))
      (.start (msgNo member)) (events member) = some (systems member)) :
    ((∀ member, LetGo (platforms member) partition (systems member)) ∧
        OnlyPublisher platforms partition owner systems) ↔
      ∀ member, Cleared (platforms member) partition (systems member) := by
  constructor
  · rintro ⟨hletGo, -⟩ member
    exact (letGo_iff (hruns member)).mp (hletGo member)
  · intro hcleared
    have hletGo : ∀ member,
        LetGo (platforms member) partition (systems member) :=
      fun member => (letGo_iff (hruns member)).mpr (hcleared member)
    refine ⟨hletGo, fun hgivenUp key destTopic hbookers member hpublished => ?_⟩
    by_contra hother
    exact (hletGo member).not_published (hruns member)
      (hgivenUp member hother) (hbookers member) hpublished

/-- One member has had the partition, and gives it up to the other one. -/
def handedOver : Bool → List SystemEvent
  | false =>
      [.gateway (.rebalance .partitionAssigned 0),
        .gateway (.response endOfDownloadText true),
        .gateway (.message 0 "subscribe" firstText),
        .gateway (.message 0 "unsubscribe" firstText),
        .gateway (.rebalance .partitionRevoked 0)]
  | true => [.gateway (.rebalance .partitionAssigned 0)]

theorem letGo_iff_cleared_of_handedOver :
    ∃ systems : Bool → System,
      (∀ member, Runs.run (System.step restarted) (.start 0)
        (handedOver member) = some (systems member)) ∧
      Revoked 0 (systems false) ∧
      (((∀ member, LetGo restarted 0 (systems member)) ∧
          OnlyPublisher (fun _ => restarted) 0 true systems) ↔
        ∀ member, Cleared restarted 0 (systems member)) := by
  obtain ⟨first, hfirst, hrevoked⟩ : ∃ system,
      Runs.run (System.step restarted) (.start 0) (handedOver false) =
        some system ∧ Revoked 0 system := ⟨_, rfl, _, rfl, rfl⟩
  obtain ⟨second, hsecond⟩ : ∃ system,
      Runs.run (System.step restarted) (.start 0) (handedOver true) =
        some system := ⟨_, rfl⟩
  have hruns : ∀ member, Runs.run (System.step restarted) (.start 0)
      (handedOver member) = some (cond member second first) :=
    Bool.forall_bool.mpr ⟨hfirst, hsecond⟩
  exact ⟨fun member => cond member second first, hruns, hrevoked,
    letGo_iff_cleared (fun _ => restarted) 0 true (fun _ => 0) handedOver _
      hruns⟩

/-- A partition that is revoked while a client is subscribed. -/
theorem revoked_pair_still_served :
    ∃ system, Runs.run (System.step restarted) (.start 0)
        [.gateway (.rebalance .partitionAssigned 0),
          .gateway (.response endOfDownloadText true),
          .gateway (.message 0 "subscribe" firstText),
          .runPosted,
          .gateway (.rebalance .partitionRevoked 0)] = some system ∧
      Revoked 0 system ∧
      PairOnlyThrough restarted 0 "BTC:trade" "first_topic" system ∧
      (∀ update, (onBinance restarted).onPriceDataFromExchange
        system.record.gateway.book "BTC:trade" (.tradeUpdate update) =
          .ok {.produce "first_topic" "trade_update" "BTC:trade" update}) ∧
      KeyOnlyThrough restarted 0 "BTC:trade" system ∧
      streamOfKey "BTC:trade" = some "btc@trade" ∧
      system.posted = [] ∧
      "btc@trade" ∈ system.link.session.liveSubscriptions := by
  refine ⟨_, rfl, ?_⟩
  have hrun : Runs.run (System.step restarted) (.start 0)
      [.gateway (.rebalance .partitionAssigned 0),
        .gateway (.response endOfDownloadText true),
        .gateway (.message 0 "subscribe" firstText),
        .runPosted,
        .gateway (.rebalance .partitionRevoked 0)] = some _ := rfl
  refine ⟨⟨_, rfl, rfl⟩, rfl, fun _ => rfl, ⟨⟨"first_topic", ?_⟩, ?_⟩, rfl, rfl,
    by decide⟩
  · decide
  · intro destTopic partition hbooker
    obtain ⟨handled, hrecord⟩ := System.exists_record_run hrun
    have hassigned := PairHistory.bookers_subset_assigned _ hbooker
    rw [(PairHistory.agrees_ofEvents hrecord).hassigned] at hassigned
    have hzero : partition ∈ (((((∅ : Finmap fun _ : ℤ => Fsm).insert 0
      _).insert 0 _).insert 0 _).insert 0 _) := hassigned
    simpa [Finmap.mem_insert, Finmap.notMem_empty] using hzero

end MultiMarketPrices.Binance.Revocation
