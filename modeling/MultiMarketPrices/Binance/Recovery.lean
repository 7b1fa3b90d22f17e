import MultiMarketPrices.Binance.LiveStreams

/-!
# Recovered subscriptions

While a partition downloads, each record of a subscription makes its machine
subscribe the stream again.  The book learns nothing from a record: after the
download a pair is served exactly when a message had booked it before, as far
as `producerFunc` takes records for its topic.
-/

namespace MultiMarketPrices.Binance.Recovery

open PlatformComm

/-- The event is a rebalance of the partition or a message about the pair. -/
def Concerns (platform : Platform) (partition : ℤ) (key destTopic : String) :
    GatewayEvent → Prop
  | .rebalance _ other => other = partition
  | .message _ msgType msg => ∃ isSub, msgType = Platform.messageType isSub ∧
      platform.subUnsubRequest isSub msg = .ok (some (key, destTopic))
  | .response _ _ => False

/-- The response is about the partition. -/
def ResponseFor (platform : Platform) (partition : ℤ) (msg : String)
    (dict : Json.Object) : Prop :=
  platform.responseObject msg = .ok dict ∧
    ∃ group, dict.cStrAt "group" = .ok group ∧
      Platform.groupPartition group = some partition

/-- A download of the partition's subscriptions that has not ended, and in which
a record names the pair.  Other events may come in between, as long as they do
not concern the pair. -/
structure Download (platform : Platform) (partition : ℤ)
    (key destTopic : String) (fsm : Fsm) (events : List GatewayEvent) :
    Prop where
  hdownloading : fsm.state = .downloading
  hnamed : ∃ msg dict, .response msg false ∈ events ∧
    ResponseFor platform partition msg dict ∧
    dict.cStrAt "key" = .ok key ∧
    dict.cStrAt "destination_topic" = .ok destTopic
  hnotEnded : ∀ msg dict, .response msg true ∈ events →
    ¬ ResponseFor platform partition msg dict
  hunconcerned : ∀ event ∈ events,
    ¬ Concerns platform partition key destTopic event

/-- Updates of the key are sent to the topic, and the unsubscription `msg` of
the pair is accepted, forwarded and reported. -/
structure Recovered (platform : Platform) (partition : ℤ)
    (key destTopic msg : String) (gateway : Gateway) : Prop where
  htrade : ∀ update, ∃ calls,
    platform.onPriceDataFromExchange gateway.book key (.tradeUpdate update) =
      .ok calls ∧
    .produce destTopic "trade_update" key update ∈
      calls.filter Effect.IsSent
  hdepth : ∀ update, ∃ calls,
    platform.onPriceDataFromExchange gateway.book key (.depthUpdate update) =
      .ok calls ∧
    .produce destTopic "depth_update" key update ∈
      calls.filter Effect.IsSent
  hunsubscribed : ∃ next sent,
    platform.msgCb partition "unsubscribe" msg gateway = .ok (next, sent) ∧
    destTopic ∉ next.book.topics key ∧
    .control key (.unsubRequest []) ∈ sent ∧
    controlCalls sent = (unsubscribe key).map Option.toList ∧
    platform.syncDataUpdate partition key destTopic false ∈ sent ∧
    (platform.syncDataUpdate partition key destTopic false).IsSent

/-! ## What other events leave alone -/

/-- The state of the partition's machine, its deferred revocations, and whether
the pair is booked. -/
structure Undisturbed (partition : ℤ) (key destTopic : String)
    (before after : Gateway) : Prop where
  hbooked : destTopic ∈ after.book.topics key ↔
    destTopic ∈ before.book.topics key
  hmachine : ∀ fsm, before.partitionFSMs.lookup partition = some fsm →
    ∃ still, after.partitionFSMs.lookup partition = some still ∧
      still.state = fsm.state ∧
      (.revoke ∈ still.deferred ↔ .revoke ∈ fsm.deferred)

variable {platform : Platform} {partition : ℤ} {key destTopic : String}
  {gateway next : Gateway} {event : GatewayEvent} {effects : List Effect}

theorem Undisturbed.refl (gateway : Gateway) :
    Undisturbed partition key destTopic gateway gateway :=
  ⟨Iff.rfl, fun fsm hfsm => ⟨fsm, hfsm, rfl, Iff.rfl⟩⟩

theorem Undisturbed.trans {first second third : Gateway}
    (hfirst : Undisturbed partition key destTopic first second)
    (hsecond : Undisturbed partition key destTopic second third) :
    Undisturbed partition key destTopic first third where
  hbooked := hsecond.hbooked.trans hfirst.hbooked
  hmachine fsm hfsm := by
    obtain ⟨middle, hmiddle, hstate, hrevoke⟩ := hfirst.hmachine fsm hfsm
    obtain ⟨last, hlast, hstate', hrevoke'⟩ := hsecond.hmachine middle hmiddle
    exact ⟨last, hlast, hstate'.trans hstate, hrevoke'.trans hrevoke⟩

theorem respond_subUnsub {fsm after : Fsm} {subUnsubKey : String} {isSub : Bool}
    {out : List FsmOutput}
    (hrespond : fsm.respond (.subUnsub subUnsubKey isSub) = .ok (after, out)) :
    after.state = fsm.state ∧
      (.revoke ∈ after.deferred ↔ .revoke ∈ fsm.deferred) := by
  cases responded_of_respond hrespond with
  | deferred _ _ hnext => simp [hnext]
  | commanded _ _ _ _ hnext => simp [hnext]
  | discarded hnext => simp [hnext]
  | recorded _ _ _ hevent => cases hevent
  | ended _ _ hevent => cases hevent
  | revoked _ hevent => cases hevent
  | assigned _ hevent => cases hevent

theorem respond_response {fsm after : Fsm} {isLast : Bool} {dict : Json.Object}
    {out : List FsmOutput}
    (hnotEnded : fsm.state = .downloading → isLast = false)
    (hrespond : fsm.respond
      (if isLast then .downloadEnd dict else .subscriptionRecord dict) =
        .ok (after, out)) : after = fsm := by
  obtain ⟨state, deferred⟩ := fsm
  cases state with
  | downloading =>
      obtain rfl : isLast = false := hnotEnded rfl
      obtain ⟨recorded, -, heq⟩ := map_eq_ok.mp hrespond
      exact (Prod.mk.inj heq).1.symm
  | operational | revoked =>
      cases isLast <;>
        exact (Prod.mk.inj (Except.ok.inj hrespond)).1.symm

/-- A machine of the partition that is put back with the same state and the
same deferred revocations. -/
theorem Undisturbed.of_insert {other : ℤ} {fsm after : Fsm}
    (hbooked : destTopic ∈ next.book.topics key ↔
      destTopic ∈ gateway.book.topics key)
    (hfsm : gateway.partitionFSMs.lookup other = some fsm)
    (hfsms : next.partitionFSMs = gateway.partitionFSMs.insert other after)
    (hsame : other = partition → after.state = fsm.state ∧
      (.revoke ∈ after.deferred ↔ .revoke ∈ fsm.deferred)) :
    Undisturbed partition key destTopic gateway next where
  hbooked := hbooked
  hmachine machine hmachine := by
    rw [hfsms]
    by_cases heq : partition = other
    · subst heq
      obtain rfl := Option.some.inj (hfsm.symm.trans hmachine)
      exact ⟨after, Finmap.lookup_insert _, hsame rfl⟩
    · rw [Finmap.lookup_insert_of_ne _ heq]
      exact ⟨machine, hmachine, rfl, Iff.rfl⟩

/-- An event that does not concern the pair, nor ends the download. -/
theorem undisturbed_of_handled
    (hhandled : Handled platform gateway event next effects)
    (hunconcerned : ¬ Concerns platform partition key destTopic event)
    {machine : Fsm}
    (hmachine : gateway.partitionFSMs.lookup partition = some machine)
    (hnotEnded : machine.state = .downloading →
      ∀ msg dict, event = .response msg true →
        ¬ ResponseFor platform partition msg dict) :
    Undisturbed partition key destTopic gateway next := by
  have hbooked : destTopic ∈ next.book.topics key ↔
      destTopic ∈ gateway.book.topics key := by
    apply hhandled.mem_topics_iff
    intro isSub habout
    cases event with
    | message other msgType msg => exact hunconcerned ⟨isSub, habout⟩
    | rebalance | response => exact habout
  cases hhandled with
  | ignored _ _ hfsms =>
      exact ⟨hbooked, fun fsm hfsm => ⟨fsm, hfsms ▸ hfsm, rfl, Iff.rfl⟩⟩
  | created other hevent hnew hbook hfsms =>
      subst hevent
      refine ⟨hbooked, fun fsm hfsm => ?_⟩
      have hne : partition ≠ other := fun heq => hunconcerned heq.symm
      exact ⟨fsm, by rw [hfsms, Finmap.lookup_insert_of_ne _ hne, hfsm], rfl,
        Iff.rfl⟩
  | rebalanced rebalanceType other fsm after out hevent hfsm hrespond hbook
      hfsms =>
      subst hevent
      exact .of_insert hbooked hfsm hfsms fun heq => absurd heq hunconcerned
  | booked other msg isSub otherKey otherTopic fsm after out hevent hrequest
      haccepted hfsm hrespond hbook hfsms =>
      exact .of_insert hbooked hfsm hfsms fun _ => respond_subUnsub hrespond
  | responded msg isLast dict group other fsm after out hevent hparse hgroup
      hpartition hfsm hrespond hbook hfsms =>
      subst hevent
      refine .of_insert hbooked hfsm hfsms fun heq => ?_
      subst heq
      obtain rfl := Option.some.inj (hfsm.symm.trans hmachine)
      have hsame : after = fsm := by
        refine respond_response (fun hstate => ?_) hrespond
        by_contra hlast
        have hlast : isLast = true := by simpa using hlast
        subst hlast
        exact hnotEnded hstate msg dict rfl
          ⟨hparse, group, hgroup, hpartition⟩
      rw [hsame]
      exact ⟨rfl, Iff.rfl⟩

theorem undisturbed_of_run {events : List GatewayEvent} {start finish : Record}
    {fsm : Fsm} (hsound : start.gateway.Sound)
    (hfsm : start.gateway.partitionFSMs.lookup partition = some fsm)
    (hunconcerned : ∀ event ∈ events,
      ¬ Concerns platform partition key destTopic event)
    (hnotEnded : fsm.state = .downloading →
      ∀ msg dict, .response msg true ∈ events →
        ¬ ResponseFor platform partition msg dict)
    (hrun : Runs.run (Record.step platform) start events = some finish) :
    finish.gateway.Sound ∧
      Undisturbed partition key destTopic start.gateway finish.gateway := by
  induction events generalizing start fsm with
  | nil =>
      obtain rfl : start = finish := by simpa using hrun
      exact ⟨hsound, .refl _⟩
  | cons event events ih =>
      rw [Runs.run_cons, Option.bind_eq_some_iff] at hrun
      obtain ⟨next, hstep, hrest⟩ := hrun
      rw [List.forall_mem_cons] at hunconcerned
      obtain ⟨sent, hhandle, -⟩ := Record.step_eq_some hstep
      have hfirst : Undisturbed partition key destTopic start.gateway
          next.gateway := by
        apply undisturbed_of_handled (handled_of_handle hsound hhandle)
          hunconcerned.1 hfsm
        rintro hstate msg dict rfl
        exact hnotEnded hstate msg dict List.mem_cons_self
      obtain ⟨still, hstill, hstate, -⟩ := hfirst.hmachine fsm hfsm
      have hothers := ih (Record.step_sound hsound hstep) hstill hunconcerned.2
        (fun hdownloading msg dict hmem =>
          hnotEnded (hstate.symm.trans hdownloading) msg dict
            (List.mem_cons_of_mem _ hmem)) hrest
      exact ⟨hothers.1, hfirst.trans hothers.2⟩

/-! ## The end of the download -/

theorem step_downloadEnd {start next : Record} {fsm : Fsm} {msg : String}
    {dict : Json.Object} (hsound : start.gateway.Sound)
    (hfsm : start.gateway.partitionFSMs.lookup partition = some fsm)
    (hstate : fsm.state = .downloading)
    (hend : ResponseFor platform partition msg dict)
    (hstep : Record.step platform start (.response msg true) = some next) :
    next.gateway.book = start.gateway.book ∧
      next.gateway.partitionFSMs.lookup partition =
        some ⟨(release fsm.deferred).1, []⟩ := by
  obtain ⟨hparse, group, hgroup, hpartition⟩ := hend
  obtain ⟨sent, hhandle, -⟩ := Record.step_eq_some hstep
  have hcomputed : platform.responseCb msg true start.gateway =
      .ok (next.gateway, sent) := hhandle
  rw [responseCb_of_partition hparse hgroup hpartition hfsm] at hcomputed
  obtain ⟨after, out, hrespond, hbook, hfsms, -⟩ :=
    handleEvent_eq_ok (hsound partition fsm hfsm) hcomputed
  obtain ⟨state, deferred⟩ := fsm
  obtain rfl : state = .downloading := hstate
  obtain ⟨rfl, -⟩ := Prod.mk.inj (Except.ok.inj hrespond)
  exact ⟨hbook, by rw [hfsms, Finmap.lookup_insert]⟩

/-! ## What the pair gets afterwards -/

/-- A revoked partition forwards no command. -/
theorem not_forwarded_of_revoked {msgType msg : String} {fsm : Fsm}
    (hsound : gateway.Sound)
    (hfsm : gateway.partitionFSMs.lookup partition = some fsm)
    (hrevoked : fsm.state = .revoked)
    (hhandle : platform.msgCb partition msgType msg gateway =
      .ok (next, effects)) {command : SubUnsubVariant} :
    .control key command ∉ effects := by
  intro hcontrol
  cases handled_message hsound hhandle with
  | ignored _ _ _ heffects => simp [heffects] at hcontrol
  | created _ hevent => simp at hevent
  | rebalanced _ _ _ _ _ hevent => simp at hevent
  | booked other _ isSub _ _ machine after out hevent _ _ hmachine hrespond _ _
      heffects =>
      obtain ⟨rfl, -, -⟩ := GatewayEvent.message.inj hevent
      obtain rfl := Option.some.inj (hfsm.symm.trans hmachine)
      obtain ⟨state, deferred⟩ := fsm
      obtain rfl : state = .revoked := hrevoked
      obtain ⟨-, rfl⟩ := Prod.mk.inj (Except.ok.inj hrespond)
      simp [heffects, Platform.syncDataUpdate] at hcontrol
  | responded _ _ _ _ _ _ _ _ hevent => simp at hevent

/-- After a download, a pair is served exactly when it is booked, the partition
not revoked, and no call of `producerFunc` for it is refused. -/
theorem recovered_iff {msg : String} {fsm : Fsm} (hsound : gateway.Sound)
    (hfsm : gateway.partitionFSMs.lookup partition = some fsm)
    (hended : fsm.state ≠ .downloading)
    (hrequest : (onBinance platform).subUnsubRequest false msg =
      .ok (some (key, destTopic))) :
    Recovered (onBinance platform) partition key destTopic msg gateway ↔
      destTopic ∈ gateway.book.topics key ∧ fsm.state = .operational ∧
        destTopic ≠ "" ∧ platform.CanReport := by
  obtain ⟨request, hgenerated⟩ := generateKey_of_request hrequest
  have hkey : key ≠ instrumentWildCard := generateKey_ne_wildCard hgenerated
  have hname : key ≠ "" := generateKey_ne_empty hgenerated
  constructor
  · intro hrecovered
    obtain ⟨hbooked, htopic⟩ :=
      (Platform.sends_trade_iff _ hkey hname .null).mp (hrecovered.htrade .null)
    obtain ⟨next, sent, hhandle, -, hcontrol, -, -, hreport⟩ :=
      hrecovered.hunsubscribed
    refine ⟨hbooked, ?_, htopic, (Platform.syncDataUpdate_isSent _).mp hreport⟩
    · by_contra hstate
      have hrevoked : fsm.state = .revoked := by
        cases hcase : fsm.state with
        | downloading => exact absurd hcase hended
        | operational => exact absurd hcase hstate
        | revoked => rfl
      exact not_forwarded_of_revoked hsound hfsm hrevoked hhandle hcontrol
  · rintro ⟨hbooked, hoperational, htopic, hreport⟩
    refine ⟨fun update => ?_, fun update => ?_, ?_⟩
    · exact (Platform.sends_trade_iff _ hkey hname update).mpr
        ⟨hbooked, htopic⟩
    · exact (Platform.sends_depth_iff _ hkey hname update).mpr
        ⟨hbooked, htopic⟩
    · have haccepted :
          (gateway.book.handleBookKeeping key destTopic false).1 = true := by
        simp [RoutingBook.bookKeeping_accepted, hbooked]
      have hcomputed := msgCb_of_operational hfsm hoperational hrequest
      rw [if_pos haccepted] at hcomputed
      refine ⟨_, _, hcomputed, ?_, by simp, ?_, by simp,
        (Platform.syncDataUpdate_isSent _).mpr hreport⟩
      · simp [RoutingBook.topics_bookKeeping]
      · simp only [controlCalls, controlCall, Bool.false_eq_true, if_false,
          Platform.syncDataUpdate, Except.bind, Except.map]
        cases unsubscribe key <;> simp

/-- After any download in which a record names a pair, the pair is served by
the gateway, until it is the subject of a message or the partition is
rebalanced, exactly when it had been booked before, no revocation was deferred,
its topic is not empty and the gateway can report. -/
theorem recovered_iff_booked (platform : Platform) (partition : ℤ)
    (key destTopic unsubscription endMsg : String) (endDict : Json.Object)
    (start finish : Record) (fsm : Fsm) (download later : List GatewayEvent)
    (hsound : start.gateway.Sound)
    (hfsm : start.gateway.partitionFSMs.lookup partition = some fsm)
    (hdownload : Download (onBinance platform) partition key destTopic fsm
      download)
    (hend : ResponseFor (onBinance platform) partition endMsg endDict)
    (hlater : ∀ event ∈ later,
      ¬ Concerns (onBinance platform) partition key destTopic event)
    (hrequest : (onBinance platform).subUnsubRequest false unsubscription =
      .ok (some (key, destTopic)))
    (hrun : Runs.run (Record.step (onBinance platform)) start
      (download ++ .response endMsg true :: later) = some finish) :
    Recovered (onBinance platform) partition key destTopic unsubscription
        finish.gateway ↔
      destTopic ∈ start.gateway.book.topics key ∧ .revoke ∉ fsm.deferred ∧
        destTopic ≠ "" ∧ platform.CanReport := by
  obtain ⟨downloaded, hrecords, hrun⟩ := Runs.run_append_eq_some.mp hrun
  rw [Runs.run_cons, Option.bind_eq_some_iff] at hrun
  obtain ⟨ended, hstep, hrest⟩ := hrun
  obtain ⟨hsoundDownloaded, hduring⟩ := undisturbed_of_run hsound hfsm
    hdownload.hunconcerned (fun _ => hdownload.hnotEnded) hrecords
  obtain ⟨machine, hmachine, hstate, hrevoke⟩ := hduring.hmachine fsm hfsm
  have hdownloading : machine.state = .downloading :=
    hstate.trans hdownload.hdownloading
  obtain ⟨hbook, hreleased⟩ :=
    step_downloadEnd hsoundDownloaded hmachine hdownloading hend hstep
  have hreleasedState : (release machine.deferred).1 ≠ .downloading ∧
      ((release machine.deferred).1 = .operational ↔
        .revoke ∉ machine.deferred) := by
    by_cases hmem : FsmEvent.revoke ∈ machine.deferred
    · simp [release_state_of_mem hmem, hmem]
    · simp [release_state_of_not_mem hmem, hmem]
  obtain ⟨hsoundFinish, hafter⟩ := undisturbed_of_run
    (Record.step_sound hsoundDownloaded hstep) hreleased hlater
    (fun heq => absurd heq hreleasedState.1) hrest
  obtain ⟨last, hlast, hlastState, -⟩ := hafter.hmachine _ hreleased
  rw [recovered_iff hsoundFinish hlast (hlastState ▸ hreleasedState.1) hrequest,
    hafter.hbooked, hbook, hduring.hbooked, hlastState, hreleasedState.2,
    hrevoke]

/-! ## A record of one subscription -/

/-- The text of a sync-data update for the trades of BTC. -/
def recordText : String :=
  "\x7b\"group\":\"group:in:0\",\"key\":\"BTC:trade\"," ++
    "\"action\":\"subscribe\",\"destination_topic\":\"first_topic\"\x7d"

def recordObject : Json.Object :=
  [("group", .string "group:in:0"), ("key", .string "BTC:trade"),
    ("action", .string "subscribe"),
    ("destination_topic", .string "first_topic")]

def endOfDownloadObject : Json.Object := [("group", .string "group:in:0")]

/-- The Binance gateway, with the texts of a download to parse. -/
def restarted : Platform :=
  .ofTexts keyGenFunc keyDisintegrationFunc
    [(recordText, .object recordObject),
      (endOfDownloadText, .object endOfDownloadObject),
      (firstText, .object (requestObject "first_topic"))]

theorem responseFor_record :
    ResponseFor (onBinance restarted) 0 recordText recordObject :=
  ⟨rfl, "group:in:0", rfl, rfl⟩

theorem responseFor_end :
    ResponseFor (onBinance restarted) 0 endOfDownloadText endOfDownloadObject :=
  ⟨rfl, "group:in:0", rfl, rfl⟩

theorem download_record {fsm : Fsm} (hstate : fsm.state = .downloading) :
    Download (onBinance restarted) 0 "BTC:trade" "first_topic" fsm
      [.response recordText false] where
  hdownloading := hstate
  hnamed := ⟨recordText, recordObject, by simp, responseFor_record, rfl, rfl⟩
  hnotEnded := by simp
  hunconcerned := by simp [Concerns]

theorem recovered_iff_booked_of_early_message :
    ∃ start finish,
      Runs.run (Record.step (onBinance restarted)) .start
        [.rebalance .partitionAssigned 0,
          .message 0 "subscribe" firstText] = some start ∧
      Runs.run (Record.step (onBinance restarted)) start
        [.response recordText false, .response endOfDownloadText true] =
          some finish ∧
      (Recovered (onBinance restarted) 0 "BTC:trade" "first_topic" firstText
          finish.gateway ↔
        "first_topic" ∈ start.gateway.book.topics "BTC:trade" ∧
          .revoke ∉ [FsmEvent.subUnsub "BTC:trade" true] ∧
          "first_topic" ≠ "" ∧ restarted.CanReport) := by
  refine ⟨_, _, rfl, rfl, ?_⟩
  have hstart : Runs.run (Record.step (onBinance restarted)) .start
      [.rebalance .partitionAssigned 0, .message 0 "subscribe" firstText] =
        some _ := rfl
  exact recovered_iff_booked restarted 0 "BTC:trade" "first_topic" firstText
    endOfDownloadText endOfDownloadObject _ _
    ⟨.downloading, [.subUnsub "BTC:trade" true]⟩ [.response recordText false] []
    (Record.sound_of_run sound_initial hstart) rfl (download_record rfl)
    responseFor_end (by simp) rfl rfl

/-- A gateway that was restarted: the stream of the recorded pair is subscribed
again, but its updates go nowhere and its unsubscription is refused. -/
theorem recorded_pair_not_served :
    ∃ finish, Runs.run (Record.step (onBinance restarted)) .start
        [.rebalance .partitionAssigned 0, .response recordText false,
          .response endOfDownloadText true] = some finish ∧
      .control "BTC:trade" (.subRequest []) ∈ finish.effects ∧
      (∀ update, (onBinance restarted).onPriceDataFromExchange
        finish.gateway.book "BTC:trade" (.tradeUpdate update) = .ok 0) ∧
      (onBinance restarted).msgCb 0 "unsubscribe" firstText finish.gateway =
        .ok (finish.gateway, []) := by
  refine ⟨_, rfl, ?_, fun _ => rfl, rfl⟩
  exact .tail _ (.tail _ (.head _))

end MultiMarketPrices.Binance.Recovery
