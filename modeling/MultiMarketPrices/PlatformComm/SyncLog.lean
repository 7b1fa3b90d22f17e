import MultiMarketPrices.PlatformComm.Bookings

/-!
# The sync-data log

Each accepted message is reported on the sync-data topic, whose provider
replays the reports after a crash; the producer refuses no report as long as
`Platform.CanReport`.  The replay of everything published gives
back the routing book at every moment.  The command to the exchange is a
different matter: the machine of a revoked partition drops it, so that the book
and the log change alone.
-/

namespace MultiMarketPrices.PlatformComm

/-- What a report on the sync-data topic says. -/
structure SyncChange where
  key : String
  destTopic : String
  action : String
  deriving DecidableEq

/-- The pairs of a key and a destination topic after a change. -/
def SyncChange.replay (pairs : Finset (String × String))
    (change : SyncChange) : Finset (String × String) :=
  if change.action = "subscribe" then
    insert (change.key, change.destTopic) pairs
  else if change.action = "unsubscribe" then
    pairs.erase (change.key, change.destTopic)
  else
    pairs

namespace Platform

variable (platform : Platform)

/-- The change that an effect reports, if it is a report. -/
def syncChange : Effect → Option SyncChange
  | .produce topic msgType _ (.object report) =>
      if topic = platform.syncDataTopic ∧ msgType = "sync_data_update" then
        match report.lookup "key", report.lookup "destination_topic",
          report.lookup "action" with
        | some (.string key), some (.string destTopic),
          some (.string action) => some ⟨key, destTopic, action⟩
        | _, _, _ => none
      else
        none
  | _ => none

/-- The reports among the effects, in order. -/
def syncLog (effects : List Effect) : List SyncChange :=
  effects.filterMap platform.syncChange

/-- The pairs that a reader of the log ends with. -/
def replayed (effects : List Effect) : Finset (String × String) :=
  (platform.syncLog effects).foldl SyncChange.replay ∅

/-- The command of an accepted message. -/
def command (isSub : Bool) : SubUnsubVariant :=
  if isSub then .subRequest [] else .unsubRequest []

@[simp]
theorem syncLog_nil : platform.syncLog [] = [] := rfl

theorem syncLog_append (first second : List Effect) :
    platform.syncLog (first ++ second) =
      platform.syncLog first ++ platform.syncLog second :=
  List.filterMap_append

theorem syncLog_syncDataUpdate (partition : ℤ) (key destTopic : String)
    (isSub : Bool) :
    platform.syncLog
        [platform.syncDataUpdate partition key destTopic isSub] =
      [⟨key, destTopic, messageType isSub⟩] := by
  simp [syncLog, syncDataUpdate, syncChange, List.lookup, messageType]

/-- A machine reports nothing by itself. -/
theorem syncLog_outputs (partition : ℤ) (out : List FsmOutput) :
    platform.syncLog (out.map (FsmOutput.effect partition)) = [] := by
  rw [syncLog, List.filterMap_eq_nil_iff]
  intro effect heffect
  obtain ⟨output, -, rfl⟩ := List.mem_map.mp heffect
  cases output <;> rfl

theorem replayed_append (first second : List Effect) :
    platform.replayed (first ++ second) =
      (platform.syncLog second).foldl SyncChange.replay
        (platform.replayed first) := by
  rw [replayed, syncLog_append, List.foldl_append, replayed]

end Platform

variable {platform : Platform} {gateway next : Gateway} {partition : ℤ}
  {isSub : Bool} {msg key destTopic : String} {fsm : Fsm}
  {effects : List Effect}

/-! ## Book, command and report -/

/-- The machine of the partition passes a command on, or keeps it for the end
of the download. -/
def CommandTaken (partition : ℤ) (isSub : Bool) (key : String)
    (gateway next : Gateway) (effects : List Effect) : Prop :=
  .control key (Platform.command isSub) ∈ effects ∨
    ∃ fsm after, gateway.partitionFSMs.lookup partition = some fsm ∧
      next.partitionFSMs.lookup partition = some after ∧
      after.deferred = fsm.deferred ++ [.subUnsub key isSub]

/-- A message changes the book, gives the machine its command and is reported
once, or does none of the three. -/
def ChangesTogether (platform : Platform) (partition : ℤ) (isSub : Bool)
    (key destTopic : String) (gateway next : Gateway) (effects : List Effect) :
    Prop :=
  (next.book.symbolToDestTopics ≠ gateway.book.symbolToDestTopics ∧
      CommandTaken partition isSub key gateway next effects ∧
      platform.syncLog effects =
        [⟨key, destTopic, Platform.messageType isSub⟩]) ∨
    (next.book.symbolToDestTopics = gateway.book.symbolToDestTopics ∧
      ¬ CommandTaken partition isSub key gateway next effects ∧
      platform.syncLog effects = [])

/-- A message about the pair would change the book. -/
def Gateway.IsChange (gateway : Gateway) (isSub : Bool)
    (key destTopic : String) : Prop :=
  isSub = true ↔ destTopic ∉ gateway.book.topics key

theorem isChange_iff_accepted :
    gateway.IsChange isSub key destTopic ↔
      (gateway.book.handleBookKeeping key destTopic isSub).1 = true := by
  rw [RoutingBook.bookKeeping_accepted, Gateway.IsChange]
  cases isSub <;> simp

/-- A machine that has no command to pass on. -/
theorem commandTaken_of_unchanged
    (hfsms : next.partitionFSMs.lookup partition =
      gateway.partitionFSMs.lookup partition)
    (hcontrol : ∀ command, Effect.control key command ∉ effects) :
    ¬ CommandTaken partition isSub key gateway next effects := by
  rintro (hmem | ⟨fsm, after, hfsm, hafter, hdeferred⟩)
  · exact hcontrol _ hmem
  · rw [hfsms, hfsm] at hafter
    obtain rfl := Option.some.inj hafter
    simp at hdeferred

/-- A machine takes a command unless it is revoked. -/
theorem commandTaken_iff {after : Fsm} {out : List FsmOutput}
    (hfsm : gateway.partitionFSMs.lookup partition = some fsm)
    (hrespond : fsm.respond (.subUnsub key isSub) = .ok (after, out))
    (platform : Platform) (destTopic : String) (book : RoutingBook) :
    CommandTaken partition isSub key gateway
        { book := book
          partitionFSMs := gateway.partitionFSMs.insert partition after }
        (out.map (FsmOutput.effect partition) ++
          [platform.syncDataUpdate partition key destTopic isSub]) ↔
      fsm.state ≠ .revoked := by
  rw [Fsm.respond_subUnsub] at hrespond
  have hafter : (gateway.partitionFSMs.insert partition after).lookup
      partition = some after := Finmap.lookup_insert _
  cases hstate : fsm.state with
  | downloading =>
      simp only [hstate, Except.ok.injEq, Prod.mk.injEq] at hrespond
      obtain ⟨rfl, -⟩ := hrespond
      exact ⟨fun _ => by simp, fun _ => .inr ⟨fsm, _, hfsm, hafter, rfl⟩⟩
  | operational =>
      simp only [hstate, Except.ok.injEq, Prod.mk.injEq] at hrespond
      obtain ⟨-, rfl⟩ := hrespond
      refine ⟨fun _ => by simp, fun _ => .inl ?_⟩
      cases isSub <;> simp [FsmOutput.effect, Platform.command]
  | revoked =>
      simp only [hstate, Except.ok.injEq, Prod.mk.injEq] at hrespond
      obtain ⟨rfl, rfl⟩ := hrespond
      rw [iff_false_right (by simp)]
      exact commandTaken_of_unchanged (hafter.trans hfsm.symm)
        (by simp [Platform.syncDataUpdate])

/-- One message, in any state whose machines are sound. -/
theorem changesTogether_of_sound (hsound : gateway.Sound)
    (hrequest : platform.subUnsubRequest isSub msg =
      .ok (some (key, destTopic))) :
    ∃ next effects, platform.msgCb partition (Platform.messageType isSub) msg
        gateway = .ok (next, effects) ∧
      (ChangesTogether platform partition isSub key destTopic gateway next
          effects ↔
        ∀ fsm, gateway.partitionFSMs.lookup partition = some fsm →
          gateway.IsChange isSub key destTopic → fsm.state ≠ .revoked) := by
  cases hfsm : gateway.partitionFSMs.lookup partition with
  | none =>
      have hanswer : platform.msgCb partition (Platform.messageType isSub) msg
          gateway = .ok (gateway, []) := by
        simp [Platform.msgCb, Platform.messageType_known isSub, hfsm]
      have htaken : ¬ CommandTaken partition isSub key gateway gateway [] :=
        commandTaken_of_unchanged rfl (by simp)
      exact ⟨gateway, [], hanswer,
        iff_of_true (.inr ⟨rfl, htaken, rfl⟩) (by simp)⟩
  | some fsm =>
      simp only [Option.some.injEq, forall_eq']
      rw [isChange_iff_accepted]
      have hchanges := gateway.book.bookKeeping_changes key destTopic isSub
      by_cases haccepted :
          (gateway.book.handleBookKeeping key destTopic isSub).1 = true
      · obtain ⟨⟨after, out⟩, hrespond⟩ :
            ∃ answer, fsm.respond (.subUnsub key isSub) = .ok answer :=
          ⟨_, fsm.respond_subUnsub key isSub⟩
        have hanswer := msgCb_of_accepted (hsound partition fsm hfsm) hfsm
          hrequest haccepted hrespond
        have hlog := platform.syncLog_syncDataUpdate partition key destTopic
          isSub
        refine ⟨_, _, hanswer, ?_⟩
        rw [forall_prop_of_true haccepted,
          ← commandTaken_iff hfsm hrespond platform destTopic
            (gateway.book.handleBookKeeping key destTopic isSub).2]
        simp [ChangesTogether, hchanges.mpr haccepted, hlog,
          Platform.syncLog_append, Platform.syncLog_outputs]
      · refine ⟨_, _, msgCb_of_refused hfsm hrequest haccepted,
          iff_of_true (.inr ⟨?_, ?_, rfl⟩) (fun htrue => absurd htrue haccepted)⟩
        · exact not_ne_iff.mp (mt hchanges.mp haccepted)
        · exact commandTaken_of_unchanged rfl (by simp)

/-- In every reachable state a well-formed message changes the book, the
exchange's subscriptions and the log together, exactly when it does not change
the book on a revoked partition. -/
theorem changesTogether_iff (platform : Platform) (events : List GatewayEvent)
    (record : Record)
    (hrun : Runs.run (Record.step platform) .start events = some record)
    (partition : ℤ) (isSub : Bool) (msg key destTopic : String)
    (hrequest : platform.subUnsubRequest isSub msg =
      .ok (some (key, destTopic))) :
    ∃ next effects, platform.msgCb partition (Platform.messageType isSub) msg
        record.gateway = .ok (next, effects) ∧
      (ChangesTogether platform partition isSub key destTopic record.gateway
          next effects ↔
        ∀ fsm, record.gateway.partitionFSMs.lookup partition = some fsm →
          record.gateway.IsChange isSub key destTopic →
            fsm.state ≠ .revoked) :=
  changesTogether_of_sound (Record.sound_of_run sound_initial hrun) hrequest

/-- A request for the trades of BTC. -/
def subscribeText : String :=
  "\x7b\"symbol\":\"BTC\",\"type\":\"trade\"," ++
    "\"destination_topic\":\"first_topic\"\x7d"

/-- Keys of a symbol and a type. -/
def symbolKeys : SubUnsubVariant → Option String
  | .subRequest request | .unsubRequest request =>
      ((request.cStrAt "symbol").bind fun symbol =>
        (request.cStrAt "type").map fun type =>
          symbol ++ ":" ++ type).toOption

/-- A platform on which the request and the end of the download parse. -/
def oneSubscription : Platform :=
  .ofTexts symbolKeys (fun _ => .error .index)
    [(endOfDownloadText, .object [("group", .string "group:in:0")]),
      (subscribeText, .object [("symbol", .string "BTC"),
        ("type", .string "trade"),
        ("destination_topic", .string "first_topic")])]

theorem changesTogether_iff_of_first_subscription :
    ∃ next effects, oneSubscription.msgCb 0 "subscribe" subscribeText
        Gateway.initial = .ok (next, effects) ∧
      (ChangesTogether oneSubscription 0 true "BTC:trade" "first_topic"
          .initial next effects ↔
        ∀ fsm, Gateway.initial.partitionFSMs.lookup 0 = some fsm →
          Gateway.initial.IsChange true "BTC:trade" "first_topic" →
            fsm.state ≠ .revoked) :=
  changesTogether_iff oneSubscription [] .start rfl 0 true subscribeText
    "BTC:trade" "first_topic" rfl

/-- A subscription on a partition that was operational and is revoked. -/
theorem booked_and_reported_without_command :
    ∃ record, Runs.run (Record.step oneSubscription) .start
        [.rebalance .partitionAssigned 0,
          .response endOfDownloadText true,
          .rebalance .partitionRevoked 0] = some record ∧
      ∃ next, oneSubscription.msgCb 0 "subscribe" subscribeText
          record.gateway = .ok (next,
            [oneSubscription.syncDataUpdate 0 "BTC:trade" "first_topic"
              true]) ∧
        record.gateway.book.topics "BTC:trade" = ∅ ∧
        next.book.topics "BTC:trade" = {"first_topic"} ∧
        ¬ ChangesTogether oneSubscription 0 true "BTC:trade" "first_topic"
          record.gateway next
          [oneSubscription.syncDataUpdate 0 "BTC:trade" "first_topic"
            true] := by
  refine ⟨_, rfl, _, rfl, rfl, rfl, ?_⟩
  rintro (⟨-, htaken, -⟩ | ⟨-, -, hlog⟩)
  · refine commandTaken_of_unchanged ?_ ?_ htaken
    · rfl
    · simp [Platform.syncDataUpdate]
  · rw [Platform.syncLog_syncDataUpdate] at hlog
    simp at hlog

/-! ## The replay -/

/-- The log gives back the pairs of the book. -/
def ReplaysTo (platform : Platform) (effects : List Effect)
    (book : RoutingBook) : Prop :=
  ∀ key destTopic,
    (key, destTopic) ∈ platform.replayed effects ↔ destTopic ∈ book.topics key

theorem ReplaysTo.congr {book other : RoutingBook} {sent : List Effect}
    (hreplays : ReplaysTo platform effects book)
    (htopics : ∀ key, other.topics key = book.topics key)
    (hlog : platform.syncLog sent = []) :
    ReplaysTo platform (effects ++ sent) other := by
  intro key destTopic
  rw [htopics, Platform.replayed_append, hlog]
  exact hreplays key destTopic

/-- A report replays to the book after its message. -/
theorem ReplaysTo.report {book : RoutingBook} {sent : List Effect}
    (hreplays : ReplaysTo platform effects book)
    (hlog : platform.syncLog sent =
      [⟨key, destTopic, Platform.messageType isSub⟩]) :
    ReplaysTo platform (effects ++ sent)
      (book.handleBookKeeping key destTopic isSub).2 := by
  intro other otherTopic
  rw [Platform.replayed_append, hlog, RoutingBook.topics_bookKeeping]
  have hbefore := hreplays other otherTopic
  by_cases hkey : other = key
  · subst hkey
    cases isSub <;>
      simp [SyncChange.replay, Platform.messageType, hbefore]
  · cases isSub <;>
      simp [SyncChange.replay, Platform.messageType, hbefore, hkey]

theorem ReplaysTo.step {event : GatewayEvent} {sent : List Effect}
    (hreplays : ReplaysTo platform effects gateway.book)
    (hhandled : Handled platform gateway event next sent) :
    ReplaysTo platform (effects ++ sent) next.book := by
  cases hhandled with
  | ignored _ htopics _ hsent =>
      exact hreplays.congr htopics (by rw [hsent, Platform.syncLog_nil])
  | created partition _ _ hbook _ hsent =>
      exact hreplays.congr (fun _ => by rw [hbook]) (by rw [hsent]; rfl)
  | rebalanced _ _ _ _ out _ _ _ hbook _ hsent =>
      exact hreplays.congr (fun _ => by rw [hbook])
        (by rw [hsent, Platform.syncLog_outputs])
  | responded _ _ _ _ _ _ _ out _ _ _ _ _ _ hbook _ hsent =>
      exact hreplays.congr (fun _ => by rw [hbook])
        (by rw [hsent, Platform.syncLog_outputs])
  | booked partition _ isSub key destTopic _ _ out _ _ _ _ _ hbook _ hsent =>
      rw [hbook]
      apply hreplays.report
      rw [hsent, Platform.syncLog_append, Platform.syncLog_outputs,
        Platform.syncLog_syncDataUpdate, List.nil_append]

theorem replaysTo_of_run {events : List GatewayEvent} {record : Record}
    (hrun : Runs.run (Record.step platform) .start events = some record) :
    ReplaysTo platform record.effects record.gateway.book := by
  have hkept := Runs.run_invariant
    (fun record => record.gateway.Sound ∧
      ReplaysTo platform record.effects record.gateway.book)
    (fun state event next hstate hstep => ?_)
    ⟨sound_initial, fun _ _ => by simp [Record.start, Platform.replayed,
      Gateway.initial]⟩ hrun
  · exact hkept.2
  · obtain ⟨sent, hhandle, -, heffects⟩ := Record.step_eq_some hstep
    have hhandled := handled_of_handle hstate.1 hhandle
    rw [heffects]
    exact ⟨hhandled.sound hstate.1, hstate.2.step hhandled⟩

/-- A message is reported when it changes the book, once, and is otherwise
silent. -/
theorem syncLog_of_message (hsound : gateway.Sound)
    (hfsm : gateway.partitionFSMs.lookup partition = some fsm)
    (hrequest : platform.subUnsubRequest isSub msg =
      .ok (some (key, destTopic))) :
    ∃ next sent, platform.msgCb partition (Platform.messageType isSub) msg
        gateway = .ok (next, sent) ∧
      ((gateway.IsChange isSub key destTopic ∧
          next.book.symbolToDestTopics ≠ gateway.book.symbolToDestTopics ∧
          platform.syncLog sent =
            [⟨key, destTopic, Platform.messageType isSub⟩]) ∨
        (¬ gateway.IsChange isSub key destTopic ∧
          next.book.symbolToDestTopics = gateway.book.symbolToDestTopics ∧
          platform.syncLog sent = [])) := by
  rw [isChange_iff_accepted]
  have hchanges := gateway.book.bookKeeping_changes key destTopic isSub
  by_cases haccepted :
      (gateway.book.handleBookKeeping key destTopic isSub).1 = true
  · obtain ⟨⟨after, out⟩, hrespond⟩ :
        ∃ answer, fsm.respond (.subUnsub key isSub) = .ok answer :=
      ⟨_, fsm.respond_subUnsub key isSub⟩
    refine ⟨_, _, msgCb_of_accepted (hsound partition fsm hfsm) hfsm
      hrequest haccepted hrespond,
      .inl ⟨haccepted, hchanges.mpr haccepted, ?_⟩⟩
    rw [Platform.syncLog_append, Platform.syncLog_outputs,
      Platform.syncLog_syncDataUpdate, List.nil_append]
  · exact ⟨_, _, msgCb_of_refused hfsm hrequest haccepted,
      .inr ⟨haccepted, not_ne_iff.mp (mt hchanges.mp haccepted), rfl⟩⟩

/-- In every state of every run the log replays to the book: its pairs are
those whose last message was a subscription, no key is left without topics, and
the next message is reported once if it changes the book and not at all
otherwise. -/
theorem log_replays_to_book (platform : Platform) (events : List GatewayEvent)
    (record : Record)
    (hrun : Runs.run (Record.step platform) .start events = some record) :
    (∀ key destTopic,
        (key, destTopic) ∈ platform.replayed record.effects ↔
          destTopic ∈ record.gateway.book.topics key) ∧
      (∀ key destTopic, destTopic ∈ record.gateway.book.topics key ↔
        (PairHistory.ofEvents platform key destTopic events).wanted = true) ∧
      (∀ key destTopics,
        record.gateway.book.symbolToDestTopics.lookup key = some destTopics →
          destTopics ≠ ∅) ∧
      ∀ partition isSub msg key destTopic,
        partition ∈ record.gateway.partitionFSMs →
        platform.subUnsubRequest isSub msg = .ok (some (key, destTopic)) →
        ∃ next sent, platform.msgCb partition (Platform.messageType isSub) msg
            record.gateway = .ok (next, sent) ∧
          ((record.gateway.IsChange isSub key destTopic ∧
              next.book.symbolToDestTopics ≠
                record.gateway.book.symbolToDestTopics ∧
              platform.syncLog sent =
                [⟨key, destTopic, Platform.messageType isSub⟩]) ∨
            (¬ record.gateway.IsChange isSub key destTopic ∧
              next.book.symbolToDestTopics =
                record.gateway.book.symbolToDestTopics ∧
              platform.syncLog sent = [])) := by
  have hhandled : record.handled = events := by
    simpa [Record.start] using Record.handled_eq hrun
  refine ⟨replaysTo_of_run hrun, ?_, ?_, ?_⟩
  · intro key destTopic
    rw [← hhandled]
    exact (PairHistory.agrees_ofEvents hrun).hwanted.symm
  · intro key destTopics hlookup
    exact (record.gateway.book.nonempty key destTopics hlookup).ne_empty
  · intro partition isSub msg key destTopic hknown hrequest
    obtain ⟨fsm, hfsm⟩ := Finmap.mem_iff.mp hknown
    exact syncLog_of_message (Record.sound_of_run sound_initial hrun) hfsm
      hrequest

/-- A subscription and its repetition. -/
def duplicateSubscription : List GatewayEvent :=
  [.rebalance .partitionAssigned 0, .message 0 "subscribe" subscribeText,
    .message 0 "subscribe" subscribeText]

theorem log_replays_to_book_of_duplicate :
    ∃ record, Runs.run (Record.step oneSubscription) .start
        duplicateSubscription = some record ∧
      oneSubscription.syncLog record.effects =
        [⟨"BTC:trade", "first_topic", "subscribe"⟩] ∧
      (("BTC:trade", "first_topic") ∈
          oneSubscription.replayed record.effects ↔
        "first_topic" ∈ record.gateway.book.topics "BTC:trade") := by
  obtain ⟨record, hrun, hlog⟩ :
      ∃ record, Runs.run (Record.step oneSubscription) .start
          duplicateSubscription = some record ∧
        oneSubscription.syncLog record.effects =
          [⟨"BTC:trade", "first_topic", "subscribe"⟩] := ⟨_, rfl, rfl⟩
  exact ⟨record, hrun, hlog,
    (log_replays_to_book oneSubscription _ record hrun).1 _ _⟩

end MultiMarketPrices.PlatformComm
