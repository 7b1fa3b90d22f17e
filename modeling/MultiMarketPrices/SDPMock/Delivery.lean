import MultiMarketPrices.SDPMock.Network

/-!
# Every download is answered

For a partition of a gateway, the requests and answers in flight are counted
together: one while its machine is downloading, and none otherwise.  A request
is answered by the delivery that takes it, an answer ends the download, and
the numbers of the requests play no part: the mock has answered a request
before it sees the next.
-/

namespace MultiMarketPrices.SDPMock

open PlatformComm hiding Effect
open MiddleWare

/-! ## Machines that are downloading -/

/-- The machine of a partition is downloading. -/
def downloading (partition : ℤ) (gateway : Gateway) : Bool :=
  (gateway.partitionFSMs.lookup partition).any fun fsm =>
    decide (fsm.state = .downloading)

theorem downloading_of_lookup {partition : ℤ} {gateway : Gateway} {fsm : Fsm}
    (hfsm : gateway.partitionFSMs.lookup partition = some fsm) :
    downloading partition gateway = decide (fsm.state = .downloading) := by
  rw [downloading, hfsm]
  rfl

theorem downloading_insert {gateway next : Gateway} {other : ℤ} {after : Fsm}
    (hfsms : next.partitionFSMs = gateway.partitionFSMs.insert other after)
    (partition : ℤ) :
    downloading partition next =
      if partition = other then decide (after.state = .downloading)
      else downloading partition gateway := by
  rw [downloading, downloading, hfsms, Finmaps.lookup_insert_if]
  split <;> rfl

theorem release_state_ne_downloading (events : List FsmEvent) :
    (release events).1 ≠ .downloading := by
  by_cases hrevoke : .revoke ∈ events
  · simp [release_state_of_mem hrevoke]
  · simp [release_state_of_not_mem hrevoke]

/-- The end of the download leaves the machine in another state. -/
theorem state_ne_of_downloadEnd {fsm after : Fsm} {dict : Json.Object}
    {out : List FsmOutput}
    (hrespond : fsm.respond (.downloadEnd dict) = .ok (after, out)) :
    after.state ≠ .downloading := by
  obtain ⟨state, deferred⟩ := fsm
  cases state with
  | downloading =>
      obtain ⟨rfl, -⟩ := Prod.mk.inj (Except.ok.inj hrespond)
      exact release_state_ne_downloading deferred
  | operational | revoked =>
      obtain ⟨rfl, -⟩ := Prod.mk.inj (Except.ok.inj hrespond)
      simp

/-- Nothing else makes it start or stop downloading, unless a revoked machine
is assigned. -/
theorem state_of_respond {fsm after : Fsm} {event : FsmEvent}
    {out : List FsmOutput} (hrespond : fsm.respond event = .ok (after, out))
    (hend : ∀ dict, event ≠ .downloadEnd dict)
    (hassign : fsm.state = .revoked → event ≠ .assign) :
    after.state = .downloading ↔ fsm.state = .downloading := by
  cases responded_of_respond hrespond with
  | recorded _ _ _ _ _ hnext => rw [hnext]
  | ended dict _ hevent => exact absurd hevent (hend dict)
  | deferred _ _ hnext => rw [hnext]
  | commanded _ _ _ _ hnext => rw [hnext]
  | revoked hstate _ hnext => simp [hnext, hstate]
  | assigned hstate hevent => exact absurd hevent (hassign hstate)
  | discarded hnext => rw [hnext]

/-- The download of the partition has ended and that of no other has. -/
structure Ended (partition : ℤ) (before after : Gateway) : Prop where
  hsound : after.Sound
  hself : downloading partition after = false
  hothers : ∀ other, other ≠ partition →
    downloading other after = downloading other before

/-! ## Requests and answers -/

namespace Network

variable {Member : Type*} (network : Network Member)

/-- What a gateway asks for a partition. -/
def body (member : Member) (partition : ℤ) : Json :=
  Json.flat [("group", (network.platform member).group partition),
    ("destination_topic", (network.platform member).appId)]

def request (member : Member) (partition : ℤ) (reqId : UInt64) :
    MiddleWare.Request where
  component := network.component member
  reqId := reqId
  reqType := none
  payload := network.codec.serialize (network.body member partition)
  targetTopic := network.topic

/-- The mock's answer to the request. -/
def reply (member : Member) (partition : ℤ) (reqId : UInt64) :
    ProducerRecord :=
  responseRecord (network.platform member).appId reqId
    (network.codec.serialize
      (answer ((network.platform member).group partition))) true

/-- The record asks for the partition of the gateway, or answers for it. -/
def IsAbout (member : Member) (partition : ℤ) (record : ProducerRecord) :
    Prop :=
  (record.topic = network.topic ∧
      record.key = (network.platform member).appId ∧
      record.value =
        network.codec.serialize (network.body member partition)) ∨
    (record.topic = (network.platform member).appId ∧
      record.value = network.codec.serialize
        (answer ((network.platform member).group partition)))

instance (member : Member) (partition : ℤ) :
    DecidablePred (network.IsAbout member partition) :=
  fun _ => inferInstanceAs (Decidable (_ ∨ _))

variable {network}

theorem group_inj {member : Member} {partition other : ℤ}
    (heq : (network.platform member).group partition =
      (network.platform member).group other) : partition = other :=
  Downloads.group_injective _ heq

/-- A request is about the partition it asks for. -/
theorem isAbout_request {member other : Member} {partition asked : ℤ}
    {reqId : UInt64} :
    network.IsAbout member partition
        (network.request other asked reqId).record ↔
      other = member ∧ asked = partition := by
  constructor
  · rintro (⟨-, hkey, hvalue⟩ | ⟨htopic, -⟩)
    · obtain rfl : other = member := network.appId_injective hkey
      have hbody := network.codec.serialize_injective (by simp) (by simp)
        hvalue
      simp only [List.cons.injEq, Prod.mk.injEq, true_and, and_true] at hbody
      exact ⟨rfl, group_inj hbody⟩
    · exact absurd htopic (Ne.symm (network.appId_ne_topic member))
  · rintro ⟨rfl, rfl⟩
    exact .inl ⟨rfl, rfl, rfl⟩

/-- An answer is about the partition it was asked for. -/
theorem isAbout_reply {member other : Member} {partition asked : ℤ}
    {reqId : UInt64} :
    network.IsAbout member partition (network.reply other asked reqId) ↔
      other = member ∧ asked = partition := by
  constructor
  · rintro (⟨htopic, -⟩ | ⟨htopic, hvalue⟩)
    · exact absurd htopic (network.appId_ne_topic other)
    · obtain rfl : other = member := network.appId_injective htopic
      have hbody := network.codec.serialize_injective (by simp) (by simp)
        hvalue
      simp only [List.cons.injEq, Prod.mk.injEq, true_and, and_true] at hbody
      exact ⟨rfl, group_inj hbody⟩
  · rintro ⟨rfl, rfl⟩
    exact .inr ⟨rfl, rfl⟩

/-- A request of a gateway for one of its partitions, or the answer to it. -/
def Genuine (network : Network Member) (record : ProducerRecord) : Prop :=
  ∃ member partition reqId, InInt32 partition ∧
    (record = (network.request member partition reqId).record ∨
      record = network.reply member partition reqId)

/-- What is in flight on the service's topic is a request. -/
theorem request_of_topic {record : ProducerRecord}
    (hgenuine : network.Genuine record)
    (htopic : record.topic = network.topic) :
    ∃ member partition reqId, InInt32 partition ∧
      record = (network.request member partition reqId).record := by
  obtain ⟨member, partition, reqId, hrange, rfl | rfl⟩ := hgenuine
  · exact ⟨member, partition, reqId, hrange, rfl⟩
  · exact absurd htopic (network.appId_ne_topic member)

/-- What is in flight on the topic of a gateway is an answer to it. -/
theorem reply_of_topic {record : ProducerRecord} {member : Member}
    (hgenuine : network.Genuine record)
    (htopic : record.topic = (network.platform member).appId) :
    ∃ partition reqId, InInt32 partition ∧
      record = network.reply member partition reqId := by
  obtain ⟨other, partition, reqId, hrange, rfl | rfl⟩ := hgenuine
  · exact absurd htopic.symm (network.appId_ne_topic member)
  · obtain rfl : other = member := network.appId_injective htopic
    exact ⟨partition, reqId, hrange, rfl⟩

/-! ## What a gateway asks for -/

theorem asked_request (member : Member) (partition : ℤ) (reqId : UInt64) :
    network.asked member reqId
        (.request (network.body member partition) network.topic) =
      [(network.request member partition reqId).record] := by
  have happId : (network.component member).appId ≠ "" :=
    network.appId_ne member
  rw [asked, Component.requestFunc, if_neg (by simp),
    producerFunc_ok _ _ network.topic_ne (by decide) happId]
  rfl

/-- What a machine does is no request. -/
theorem asked_effects (member : Member) (reqId : UInt64) (partition : ℤ)
    (out : List FsmOutput) :
    (out.map (FsmOutput.effect partition)).flatMap
      (network.asked member reqId) = [] := by
  rw [List.flatMap_eq_nil_iff]
  intro effect heffect
  obtain ⟨output, -, rfl⟩ := List.mem_map.mp heffect
  cases output <;> rfl

/-- A rebalance that makes a machine asks for its partition, and no other
rebalance asks for anything. -/
theorem asked_of_rebalance {member : Member} {gateway next : Gateway}
    {rebalanceType : TopicAssignmentEvent} {partition : ℤ}
    {effects : List PlatformComm.Effect} (reqId : UInt64)
    (hhandled : Handled (network.platform member) gateway
      (.rebalance rebalanceType partition) next effects) :
    effects.flatMap (network.asked member reqId) =
      if rebalanceType = .partitionAssigned ∧
          gateway.partitionFSMs.lookup partition = none then
        [(network.request member partition reqId).record]
      else [] := by
  cases hhandled with
  | ignored hevent _ _ heffects =>
      obtain ⟨rfl, -⟩ := hevent rebalanceType partition rfl
      simp [heffects]
  | created other hevent hnew _ _ heffects =>
      obtain ⟨rfl, rfl⟩ := GatewayEvent.rebalance.inj hevent
      rw [if_pos ⟨rfl, hnew⟩, heffects, network.asksOn,
        ← asked_request member partition reqId]
      exact List.append_nil _
  | rebalanced _ other _ _ _ hevent hfsm _ _ _ heffects =>
      obtain ⟨rfl, rfl⟩ := GatewayEvent.rebalance.inj hevent
      rw [if_neg (by simp [hfsm]), heffects, asked_effects]
  | booked _ _ _ _ _ _ _ _ hevent => simp at hevent
  | responded _ _ _ _ _ _ _ _ hevent => simp at hevent

/-! ## What a delivery does -/

theorem cStr_group (member : Member) (partition : ℤ) :
    Text.cStr ((network.platform member).group partition) =
      (network.platform member).group partition :=
  Platform.cStr_group (network.plain member).1.2 (network.plain member).2.2
    partition

/-- The mock's handler answers a request that is pending with the group it
names, and forgets it. -/
theorem requestHandlerFunc_body (member : Member) (partition : ℤ)
    (reqId : UInt64) {pendingRequestBook : PendingRequestBook}
    (hpending : pendingRequestBook.lookup reqId =
      some (network.platform member).appId) :
    requestHandlerFunc network.codec reqId
        (network.codec.serialize (network.body member partition))
        pendingRequestBook =
      .ok (pendingRequestBook.erase reqId,
        [.send (network.reply member partition reqId)]) := by
  have hread : network.codec.parse
      (network.codec.serialize (network.body member partition)) =
        .ok (network.body member partition) :=
    network.codec.reads _ (by simp)
  have hgroup : Json.Object.cStrAt
      [("group", .string ((network.platform member).group partition)),
        ("destination_topic", .string (network.platform member).appId)]
      "group" = .ok ((network.platform member).group partition) := by
    rw [Json.Object.cStrAt_of_lookup rfl, cStr_group]
  rw [requestHandlerFunc, hread]
  simp only [Except.bind, body, Json.flat, Json.asObject_object,
    List.map_cons, List.map_nil, hgroup, Except.map,
    respond_of_lookup _ _ (network.appId_ne member) hpending]
  rfl

/-- The mock answers a request at once, and its book is empty again. -/
theorem onMessage_request (member : Member) (partition : ℤ) (reqId : UInt64)
    (place offset : ℤ) :
    SDPMock.onMessage network.codec network.mock
        ((network.request member partition reqId).record.message place offset)
        ∅ =
      .ok (∅, [network.reply member partition reqId]) := by
  have herased : ((∅ : PendingRequestBook).insert reqId
      (network.platform member).appId).erase reqId = ∅ := by
    apply Finmap.ext_lookup
    intro other
    rw [Finmaps.lookup_erase_if, Finmaps.lookup_insert_if]
    split <;> rfl
  have hpending : ((∅ : PendingRequestBook).insert reqId
      (network.platform member).appId).lookup reqId =
        some (network.platform member).appId := Finmap.lookup_insert _
  have hhandled := requestHandlerFunc_body member partition reqId hpending
  rw [herased] at hhandled
  rw [SDPMock.onMessage, refinedMsgCallback_record, handleRequest_record,
    if_neg Finmap.notMem_empty]
  simp only [request, component, List.foldlM_cons, List.foldlM_nil, perform,
    hhandled]
  rfl

variable (network) in
/-- An answer ends the download of the partition it is for. -/
theorem handle_answer {member : Member} {partition : ℤ} {gateway : Gateway}
    (hsound : gateway.Sound) (hrange : InInt32 partition) :
    ∃ next effects, (network.platform member).handle gateway
        (.response (network.codec.serialize
          (answer ((network.platform member).group partition))) true) =
        .ok (next, effects) ∧ Ended partition gateway next := by
  have hparse : (network.platform member).responseObject
      (network.codec.serialize
        (answer ((network.platform member).group partition))) =
      .ok [("group", .string ((network.platform member).group partition)),
        ("message_type", .string MessageType.response)] := by
    rw [Platform.responseObject, network.parses, answer,
      network.codec.reads _ (by simp)]
    rfl
  have hgroup : Json.Object.cStrAt
      [("group", .string ((network.platform member).group partition)),
        ("message_type", .string MessageType.response)] "group" =
      .ok ((network.platform member).group partition) := by
    rw [Json.Object.cStrAt_of_lookup rfl, cStr_group]
  have hpartition : Platform.groupPartition
      ((network.platform member).group partition) = some partition := by
    rw [groupPartition_eq_some_iff,
      Platform.endsInPartition_group_iff hrange.1 hrange.2]
    exact ⟨(network.plain member).1.1, (network.plain member).2.1⟩
  cases hfsm : gateway.partitionFSMs.lookup partition with
  | none =>
      refine ⟨gateway, [], ?_, hsound, ?_, fun _ _ => rfl⟩
      · simp [Platform.handle, Platform.responseCb, hparse, hgroup,
          hpartition, hfsm, Except.bind]
      · simp [downloading, hfsm]
  | some fsm =>
      have hdelivered := @responseCb_of_partition _ _ _ _ true _ _ _ hparse
        hgroup hpartition hfsm
      rw [if_pos rfl, Platform.handleEvent, handleEvent_eq_respond
        (network.platform member).engine (hsound partition fsm hfsm)]
        at hdelivered
      obtain ⟨after, out, hrespond⟩ : ∃ after out, fsm.respond
          (.downloadEnd [("group",
              .string ((network.platform member).group partition)),
            ("message_type", .string MessageType.response)]) =
          .ok (after, out) := by
        obtain ⟨state, deferred⟩ := fsm
        cases state <;> exact ⟨_, _, rfl⟩
      rw [hrespond, Except.map] at hdelivered
      refine ⟨_, _, hdelivered, ?_, ?_, ?_⟩
      · exact hsound.insert ((hsound partition fsm hfsm).respond hrespond) rfl
      · rw [downloading_insert rfl, if_pos rfl]
        exact decide_eq_false (state_ne_of_downloadEnd hrespond)
      · intro other hother
        rw [downloading_insert rfl, if_neg hother]

end Network

/-! ## Steps -/

variable {Member : Type*} [DecidableEq Member] {network : Network Member}

/-- The platform side of a gateway. -/
def Traffic.gateway (traffic : Traffic Member) (member : Member) : Gateway :=
  (traffic.stations member).record.gateway

/-- The gateways of `next` other than `member` are those of `traffic`. -/
def SameOthers (member : Member) (traffic next : Traffic Member) : Prop :=
  ∀ other, other ≠ member → next.gateway other = traffic.gateway other

/-- What holds after every step: the machines are in configurations that they
can reach, the mock's book is empty, and what is in flight is a request or an
answer. -/
structure Synced (network : Network Member) (traffic : Traffic Member) :
    Prop where
  hsound : ∀ member, (traffic.gateway member).Sound
  hbook : traffic.mockBook = ∅
  hgenuine : ∀ record ∈ traffic.inFlight, network.Genuine record

/-- What an event can do. -/
inductive Stepped (network : Network Member) (traffic next : Traffic Member) :
    NetworkEvent Member → Prop
  | rebalanced (member : Member) (rebalanceType : TopicAssignmentEvent)
      (partition : ℤ) (reqId : UInt64) (effects : List PlatformComm.Effect)
      (hrange : InInt32 partition)
      (hhandled : Handled (network.platform member) (traffic.gateway member)
        (.rebalance rebalanceType partition) (next.gateway member) effects)
      (hothers : SameOthers member traffic next)
      (hbook : next.mockBook = traffic.mockBook)
      (hinFlight : next.inFlight = traffic.inFlight ++
        if rebalanceType = .partitionAssigned ∧
            (traffic.gateway member).partitionFSMs.lookup partition = none then
          [(network.request member partition reqId).record]
        else []) :
      Stepped network traffic next
        (.rebalance member rebalanceType partition reqId)
  | commanded (member : Member) (partition : ℤ) (msgType msg : String)
      (effects : List PlatformComm.Effect)
      (hhandled : Handled (network.platform member) (traffic.gateway member)
        (.message partition msgType msg) (next.gateway member) effects)
      (hothers : SameOthers member traffic next)
      (hbook : next.mockBook = traffic.mockBook)
      (hinFlight : next.inFlight = traffic.inFlight) :
      Stepped network traffic next (.command member partition msgType msg)
  | served (place : ℕ) (taken offset : ℤ) (member : Member) (partition : ℤ)
      (reqId : UInt64) (hrange : InInt32 partition)
      (hrecord : traffic.inFlight[place]? =
        some (network.request member partition reqId).record)
      (hgateways : ∀ other, next.gateway other = traffic.gateway other)
      (hbook : next.mockBook = ∅)
      (hinFlight : next.inFlight = traffic.inFlight.eraseIdx place ++
        [network.reply member partition reqId]) :
      Stepped network traffic next (.serve place taken offset)
  | received (member : Member) (place : ℕ) (taken offset : ℤ) (partition : ℤ)
      (reqId : UInt64)
      (hrecord : traffic.inFlight[place]? =
        some (network.reply member partition reqId))
      (hended : Ended partition (traffic.gateway member) (next.gateway member))
      (hothers : SameOthers member traffic next)
      (hbook : next.mockBook = traffic.mockBook)
      (hinFlight : next.inFlight = traffic.inFlight.eraseIdx place) :
      Stepped network traffic next (.receive member place taken offset)

variable {traffic next : Traffic Member}

theorem act_of_handle {member : Member} {event : GatewayEvent}
    {gateway : Gateway} {effects : List PlatformComm.Effect}
    (hhandle : (network.platform member).handle (traffic.gateway member)
      event = .ok (gateway, effects)) :
    ∃ after, network.act member event traffic = some (after, effects) ∧
      after.gateway member = gateway ∧ SameOthers member traffic after ∧
      after.mockBook = traffic.mockBook ∧
      after.inFlight = traffic.inFlight := by
  rw [Traffic.gateway] at hhandle
  simp only [Network.act, hhandle]
  refine ⟨_, rfl, ?_, fun other hother => ?_, rfl, rfl⟩
  · simp [Traffic.gateway]
  · simp [Traffic.gateway, Function.update_of_ne hother]

theorem handle_of_act {member : Member} {event : GatewayEvent}
    {effects : List PlatformComm.Effect}
    (hact : network.act member event traffic = some (next, effects)) :
    (network.platform member).handle (traffic.gateway member) event =
        .ok (next.gateway member, effects) ∧
      SameOthers member traffic next ∧ next.mockBook = traffic.mockBook ∧
      next.inFlight = traffic.inFlight := by
  cases hhandle : (network.platform member).handle (traffic.gateway member)
      event with
  | error thrown =>
      rw [Traffic.gateway] at hhandle
      simp [Network.act, hhandle] at hact
  | ok outcome =>
      obtain ⟨after, hafter, hgateway, hrest⟩ := act_of_handle hhandle
      obtain ⟨rfl, rfl⟩ := Prod.mk.inj
        (Option.some.inj (hafter.symm.trans hact))
      exact ⟨by rw [hgateway], hrest⟩

theorem refinedMsgCallback_responseRecord (component : Component)
    (destTopic : String) (reqId : UInt64) (respPayload : String)
    (isLast : Bool) (partition offset : ℤ)
    (pendingRequestBook : PendingRequestBook) :
    component.refinedMsgCallback
        ((responseRecord destTopic reqId respPayload isLast).message partition
          offset) pendingRequestBook =
      (pendingRequestBook, [.responseCallback reqId respPayload isLast]) := by
  have hlifecycle : component.handleLifecycle
      ((responseRecord destTopic reqId respPayload isLast).message partition
        offset) = (false, []) := by
    simp [Component.handleLifecycle, ProducerRecord.message, responseRecord]
  simp only [Component.refinedMsgCallback, hlifecycle,
    handleResponse_responseRecord, Bool.false_eq_true, if_false, if_true]

variable (network traffic) in
/-- A gateway takes an answer. -/
theorem onMessage_reply {member : Member} {partition : ℤ}
    (hsound : (traffic.gateway member).Sound) (hrange : InInt32 partition)
    (reqId : UInt64) (taken offset : ℤ) :
    ∃ after, network.onMessage member
        ((network.reply member partition reqId).message taken offset)
        traffic = some after ∧
      Ended partition (traffic.gateway member) (after.gateway member) ∧
      SameOthers member traffic after ∧ after.mockBook = traffic.mockBook ∧
      after.inFlight = traffic.inFlight := by
  let entered : Traffic Member := { traffic with
    stations := Function.update traffic.stations member
      (traffic.stations member) }
  have hentered : entered = traffic := by
    simp only [entered, Function.update_eq_self]
  obtain ⟨gateway, effects, hhandle, hended⟩ :=
    network.handle_answer hsound hrange
  obtain ⟨after, hact, hgateway, hrest⟩ := act_of_handle hhandle
  refine ⟨after, ?_, hgateway ▸ hended, hrest⟩
  rw [Network.onMessage, Network.reply, refinedMsgCallback_responseRecord]
  change (network.act member _ entered).map Prod.fst >>= pure = some after
  rw [hentered, hact]
  rfl

theorem stepped_of_step {event : NetworkEvent Member}
    (hsynced : Synced network traffic)
    (hstep : network.step traffic event = some next) :
    Stepped network traffic next event := by
  cases event with
  | rebalance member rebalanceType partition reqId =>
      rw [Network.step] at hstep
      split at hstep
      · next hrange =>
          obtain ⟨⟨after, effects⟩, hact, rfl⟩ :=
            Option.map_eq_some_iff.mp hstep
          obtain ⟨hhandle, hothers, hbook, hinFlight⟩ := handle_of_act hact
          have hhandled := handled_of_handle (hsynced.hsound member) hhandle
          refine .rebalanced member rebalanceType partition reqId effects
            hrange hhandled hothers hbook ?_
          rw [← Network.asked_of_rebalance reqId hhandled, ← hinFlight]
      · cases hstep
  | command member partition msgType msg =>
      obtain ⟨⟨after, effects⟩, hact, rfl⟩ := Option.map_eq_some_iff.mp hstep
      obtain ⟨hhandle, hothers, hbook, hinFlight⟩ := handle_of_act hact
      exact .commanded member partition msgType msg effects
        (handled_of_handle (hsynced.hsound member) hhandle) hothers hbook
        hinFlight
  | serve place taken offset =>
      rw [Network.step] at hstep
      split at hstep
      · cases hstep
      · next record hrecord =>
          split at hstep
          · next htopic =>
              obtain ⟨member, partition, reqId, hrange, rfl⟩ :=
                Network.request_of_topic (hsynced.hgenuine record
                  (List.mem_of_getElem? hrecord)) htopic
              rw [hsynced.hbook, Network.onMessage_request] at hstep
              obtain rfl := Option.some.inj hstep
              exact .served place taken offset member partition reqId hrange
                hrecord (fun _ => rfl) rfl rfl
          · cases hstep
  | receive member place taken offset =>
      rw [Network.step] at hstep
      split at hstep
      · cases hstep
      · next record hrecord =>
          split at hstep
          · next htopic =>
              obtain ⟨partition, reqId, hrange, rfl⟩ := Network.reply_of_topic
                (hsynced.hgenuine record (List.mem_of_getElem? hrecord)) htopic
              obtain ⟨after, hafter, hended, hothers, hbook, hinFlight⟩ :=
                onMessage_reply network
                  { traffic with
                    inFlight := traffic.inFlight.eraseIdx place }
                  (hsynced.hsound member) hrange reqId taken offset
              obtain rfl := Option.some.inj (hafter.symm.trans hstep)
              exact .received member place taken offset partition reqId hrecord
                hended hothers hbook hinFlight
          · cases hstep

/-! ## Counting what is in flight -/

/-- The requests and answers in flight about a partition of a gateway. -/
def awaited (network : Network Member) (member : Member) (partition : ℤ)
    (traffic : Traffic Member) : ℕ :=
  traffic.inFlight.countP fun record =>
    decide (network.IsAbout member partition record)

/-- One request or answer is in flight while the machine is downloading, and
none otherwise. -/
def OneForDownload (network : Network Member) (member : Member)
    (partition : ℤ) (traffic : Traffic Member) : Prop :=
  awaited network member partition traffic =
    (downloading partition (traffic.gateway member)).toNat

/-- The event does not assign the partition to the gateway while its machine is
revoked. -/
def NotReassigned (member : Member) (partition : ℤ) (traffic : Traffic Member) :
    NetworkEvent Member → Prop
  | .rebalance other .partitionAssigned asked _ =>
      other = member → asked = partition → ∀ fsm,
        (traffic.gateway member).partitionFSMs.lookup partition = some fsm →
        fsm.state ≠ .revoked
  | _ => True

omit [DecidableEq Member] in
theorem Synced.start (network : Network Member) :
    Synced network (Traffic.start Member) where
  hsound _ := sound_initial
  hbook := rfl
  hgenuine := by simp [Traffic.start]

theorem Synced.step {event : NetworkEvent Member}
    (hsynced : Synced network traffic)
    (hstep : network.step traffic event = some next) : Synced network next := by
  have hsoundOf : ∀ member, (next.gateway member).Sound →
      SameOthers member traffic next → ∀ other, (next.gateway other).Sound := by
    intro member hmember hothers other
    by_cases heq : other = member
    · exact heq ▸ hmember
    · rw [hothers other heq]
      exact hsynced.hsound other
  cases stepped_of_step hsynced hstep with
  | rebalanced member rebalanceType partition reqId effects hrange hhandled
      hothers hbook hinFlight =>
      refine ⟨hsoundOf member (hhandled.sound (hsynced.hsound member)) hothers,
        hbook.trans hsynced.hbook, fun record hrecord => ?_⟩
      rw [hinFlight, List.mem_append] at hrecord
      rcases hrecord with hold | hnew
      · exact hsynced.hgenuine record hold
      · split at hnew
        · obtain rfl := List.mem_singleton.mp hnew
          exact ⟨member, partition, reqId, hrange, .inl rfl⟩
        · cases hnew
  | commanded member partition msgType msg effects hhandled hothers hbook
      hinFlight =>
      exact ⟨hsoundOf member (hhandled.sound (hsynced.hsound member)) hothers,
        hbook.trans hsynced.hbook, hinFlight ▸ hsynced.hgenuine⟩
  | served place taken offset member partition reqId hrange hrecord hgateways
      hbook hinFlight =>
      refine ⟨fun other => hgateways other ▸ hsynced.hsound other, hbook,
        fun record hmem => ?_⟩
      rw [hinFlight, List.mem_append] at hmem
      rcases hmem with hold | hnew
      · exact hsynced.hgenuine record (List.mem_of_mem_eraseIdx hold)
      · obtain rfl := List.mem_singleton.mp hnew
        exact ⟨member, partition, reqId, hrange, .inr rfl⟩
  | received member place taken offset partition reqId hrecord hended hothers
      hbook hinFlight =>
      refine ⟨hsoundOf member hended.hsound hothers, hbook.trans hsynced.hbook,
        fun record hmem => ?_⟩
      rw [hinFlight] at hmem
      exact hsynced.hgenuine record (List.mem_of_mem_eraseIdx hmem)

/-! ## One event and the count -/

/-- A rebalance starts a download just when it makes the machine, unless it
assigns a revoked one. -/
theorem downloading_of_rebalance {platform : Platform} {gateway after : Gateway}
    {rebalanceType : TopicAssignmentEvent} {asked partition : ℤ}
    {effects : List PlatformComm.Effect}
    (hhandled : Handled platform gateway (.rebalance rebalanceType asked) after
      effects)
    (hguard : rebalanceType = .partitionAssigned → asked = partition → ∀ fsm,
      gateway.partitionFSMs.lookup partition = some fsm →
      fsm.state ≠ .revoked) :
    (downloading partition after).toNat =
      (downloading partition gateway).toNat +
        if rebalanceType = .partitionAssigned ∧
            gateway.partitionFSMs.lookup asked = none ∧ asked = partition then 1
        else 0 := by
  cases hhandled with
  | ignored hevent _ hfsms =>
      obtain ⟨rfl, -⟩ := hevent rebalanceType asked rfl
      simp [downloading, hfsms]
  | created other hevent hnew _ hfsms =>
      obtain ⟨rfl, rfl⟩ := GatewayEvent.rebalance.inj hevent
      rw [downloading_insert hfsms]
      by_cases heq : asked = partition
      · subst heq
        simp [downloading, hnew]
      · simp [heq, Ne.symm heq]
  | rebalanced _ other fsm machine out hevent hfsm hrespond _ hfsms =>
      obtain ⟨rfl, rfl⟩ := GatewayEvent.rebalance.inj hevent
      have hold : ¬ (rebalanceType = .partitionAssigned ∧
          gateway.partitionFSMs.lookup asked = none ∧ asked = partition) := by
        simp [hfsm]
      rw [if_neg hold, Nat.add_zero, downloading_insert hfsms]
      by_cases heq : asked = partition
      · subst heq
        have hstate := state_of_respond hrespond
          (by cases rebalanceType <;> simp [TopicAssignmentEvent.fsmEvent])
          (fun hrevoked hassign => by
            cases rebalanceType with
            | partitionAssigned => exact hguard rfl rfl fsm hfsm hrevoked
            | partitionRevoked =>
                simp [TopicAssignmentEvent.fsmEvent] at hassign)
        simp [downloading_of_lookup hfsm, hstate]
      · rw [if_neg (Ne.symm heq)]
  | booked _ _ _ _ _ _ _ _ hevent => simp at hevent
  | responded _ _ _ _ _ _ _ _ hevent => simp at hevent

/-- A client's message starts and ends no download. -/
theorem downloading_of_message {platform : Platform} {gateway after : Gateway}
    {taken : ℤ} {msgType msg : String} {effects : List PlatformComm.Effect}
    (hhandled : Handled platform gateway (.message taken msgType msg) after
      effects) (partition : ℤ) :
    downloading partition after = downloading partition gateway := by
  cases hhandled with
  | ignored _ _ hfsms => rw [downloading, downloading, hfsms]
  | created _ hevent => simp at hevent
  | rebalanced _ _ _ _ _ hevent => simp at hevent
  | booked other _ _ _ _ fsm _ _ _ _ _ hfsm hrespond _ hfsms =>
      rw [downloading_insert hfsms]
      split
      · next heq =>
          subst heq
          have hstate := state_of_respond hrespond (by simp) (by simp)
          simp [downloading_of_lookup hfsm, hstate]
      · rfl
  | responded _ _ _ _ _ _ _ _ hevent => simp at hevent

/-- Taking a record takes it off the count. -/
theorem countP_taken {A : Type*} {counted : A → Bool} {records : List A}
    {place : ℕ} {record : A} (hrecord : records[place]? = some record) :
    records.countP counted =
      (records.eraseIdx place).countP counted + (counted record).toNat := by
  obtain ⟨hplace, rfl⟩ := List.getElem?_eq_some_iff.mp hrecord
  rw [← (List.getElem_cons_eraseIdx_perm hplace).countP_eq, List.countP_cons]
  cases counted records[place] <;> rfl

theorem OneForDownload.step {event : NetworkEvent Member} {member : Member}
    {partition : ℤ} (hsynced : Synced network traffic)
    (hone : OneForDownload network member partition traffic)
    (hguard : NotReassigned member partition traffic event)
    (hstep : network.step traffic event = some next) :
    OneForDownload network member partition next := by
  rw [OneForDownload, awaited] at hone ⊢
  cases stepped_of_step hsynced hstep with
  | rebalanced other rebalanceType asked reqId effects hrange hhandled hothers
      hbook hinFlight =>
      rw [hinFlight, List.countP_append, hone]
      by_cases heq : other = member
      · subst heq
        rw [downloading_of_rebalance hhandled
          (fun htype => by subst htype; exact hguard rfl), Nat.add_right_inj]
        split
        · next hnew =>
            simp [Network.isAbout_request, hnew.1, hnew.2]
        · next hold =>
            rw [if_neg fun hnew => hold ⟨hnew.1, hnew.2.1⟩]
            rfl
      · rw [hothers member (Ne.symm heq)]
        split <;> simp [Network.isAbout_request, heq]
  | commanded other taken msgType msg effects hhandled hothers hbook
      hinFlight =>
      rw [hinFlight, hone]
      by_cases heq : other = member
      · subst heq
        rw [downloading_of_message hhandled]
      · rw [hothers member (Ne.symm heq)]
  | served place taken offset other asked reqId hrange hrecord hgateways hbook
      hinFlight =>
      rw [hgateways, ← hone, hinFlight, List.countP_append,
        countP_taken hrecord, Nat.add_right_inj]
      simp [Network.isAbout_request, Network.isAbout_reply, Bool.toNat,
        List.countP_singleton]
  | received other place taken offset asked reqId hrecord hended hothers hbook
      hinFlight =>
      rw [countP_taken hrecord, ← hinFlight] at hone
      by_cases heq : other = member
      · subst heq
        by_cases hsame : asked = partition
        · subst hsame
          have hcounted : decide (network.IsAbout other asked
              (network.reply other asked reqId)) = true :=
            decide_eq_true (Network.isAbout_reply.mpr ⟨rfl, rfl⟩)
          have hmost := Bool.toNat_le (downloading asked
            (traffic.gateway other))
          rw [hcounted, Bool.toNat_true] at hone
          rw [hended.hself, Bool.toNat_false]
          omega
        · rw [hended.hothers partition (Ne.symm hsame), ← hone]
          simp [Network.isAbout_reply, hsame]
      · rw [hothers member (Ne.symm heq), ← hone]
        simp [Network.isAbout_reply, heq]

/-- A revoked machine that is assigned downloads with nothing in flight. -/
theorem OneForDownload.not_of_reassigned {event : NetworkEvent Member}
    {member : Member} {partition : ℤ} (hsynced : Synced network traffic)
    (hone : OneForDownload network member partition traffic)
    (hguard : ¬ NotReassigned member partition traffic event)
    (hstep : network.step traffic event = some next) :
    ¬ OneForDownload network member partition next := by
  cases stepped_of_step hsynced hstep with
  | commanded | served | received => exact absurd trivial hguard
  | rebalanced other rebalanceType asked reqId effects hrange hhandled hothers
      hbook hinFlight =>
      cases rebalanceType with
      | partitionRevoked => exact absurd trivial hguard
      | partitionAssigned =>
          simp only [NotReassigned, Classical.not_imp, not_forall, not_not]
            at hguard
          obtain ⟨rfl, rfl, fsm, hfsm, hrevoked⟩ := hguard
          have hbefore : downloading asked (traffic.gateway other) = false := by
            simp [downloading_of_lookup hfsm, hrevoked]
          rw [if_neg (by simp [hfsm]), List.append_nil] at hinFlight
          rw [OneForDownload, awaited, hbefore, ← hinFlight] at hone
          rw [OneForDownload, awaited, hone]
          cases hhandled with
          | ignored hevent => simpa using (hevent _ _ rfl).1
          | created _ hevent hnew =>
              obtain ⟨-, rfl⟩ := GatewayEvent.rebalance.inj hevent
              simp [hfsm] at hnew
          | rebalanced _ _ fsm' after out hevent hfsm' hrespond _ hfsms =>
              obtain ⟨rfl, rfl⟩ := GatewayEvent.rebalance.inj hevent
              obtain rfl : fsm = fsm' := by simpa [hfsm] using hfsm'
              obtain ⟨state, deferred⟩ := fsm
              obtain rfl : state = .revoked := hrevoked
              obtain ⟨rfl, -⟩ := Prod.mk.inj (Except.ok.inj hrespond)
              simp [downloading_insert hfsms]
          | booked _ _ _ _ _ _ _ _ hevent => simp at hevent
          | responded _ _ _ _ _ _ _ _ hevent => simp at hevent

/-- What the steps keep for a partition of a gateway. -/
structure Awaiting (network : Network Member) (member : Member) (partition : ℤ)
    (traffic : Traffic Member) : Prop where
  hsynced : Synced network traffic
  hone : OneForDownload network member partition traffic

theorem Awaiting.step {event : NetworkEvent Member} {member : Member}
    {partition : ℤ} (hawaiting : Awaiting network member partition traffic)
    (hguard : NotReassigned member partition traffic event)
    (hstep : network.step traffic event = some next) :
    Awaiting network member partition next :=
  ⟨hawaiting.hsynced.step hstep,
    hawaiting.hone.step hawaiting.hsynced hguard hstep⟩

omit [DecidableEq Member] in
theorem Awaiting.start (network : Network Member) (member : Member)
    (partition : ℤ) : Awaiting network member partition (.start Member) :=
  ⟨.start network, rfl⟩

/-- One request or answer is in flight for a partition of a gateway while its
machine is downloading, and none otherwise, throughout a run exactly when the
gateway is never assigned the partition while its machine is revoked. -/
theorem oneForDownload_iff (network : Network Member) (member : Member)
    (partition : ℤ) (events : List (NetworkEvent Member))
    (finish : Traffic Member)
    (hrun : Runs.run network.step (.start Member) events = some finish) :
    Runs.EveryStep network.step (NotReassigned member partition)
        (.start Member) events ↔
      ∀ initial, initial <+: events → ∀ traffic,
        Runs.run network.step (.start Member) initial = some traffic →
        OneForDownload network member partition traffic :=
  Runs.everyStep_iff_forall_good (Awaiting network member partition)
    (OneForDownload network member partition)
    (fun _ hawaiting => hawaiting.hone)
    (fun _ _ _ hawaiting _ hguard hstep => hawaiting.step hguard hstep)
    (fun _ _ _ hawaiting _ hguard hstep =>
      hawaiting.hone.not_of_reassigned hawaiting.hsynced hguard hstep)
    (.start network member partition)
    (Runs.everyStep_of_forall _ fun _ _ => trivial) hrun

/-! ## Two gateways of a group -/

/-- A gateway of the group, on the reference engine. -/
def groupMember (appId : String) : Platform where
  appId := appId
  appGroup := "group"
  inTopic := "in"
  syncDataTopic := "sync_data"
  syncDataRequestTopic := "sync_data_requests"
  gKeyGenFunc _ := none
  gKeyDisintegrationFunc _ := .error .index
  parse := Codec.flat.parse
  engine := perPartitionFSM.reference

/-- Two gateways of the group and the mock. -/
def twoGateways : Network Bool where
  codec := .flat
  platform member := groupMember (if member then "second" else "first")
  description _ := ""
  mock := ⟨"SDPMock_1", "", false⟩
  topic := "sync_data_requests"
  parses _ := rfl
  asksOn _ := rfl
  topic_ne := by decide
  appId_ne := by decide
  appId_ne_topic := by decide
  appId_injective := by decide
  plain _ :=
    have hgroup : Plain "group" := by
      rw [Plain]
      decide
    have hin : Plain "in" := by
      rw [Plain]
      decide
    ⟨hgroup, hin⟩

/-- Both gateways ask under one number; the second one's download has ended and
the answer to the first one is in flight. -/
def twoDownloads : List (NetworkEvent Bool) :=
  [.rebalance false .partitionAssigned 0 7,
    .rebalance true .partitionAssigned 1 7,
    .serve 1 0 0, .serve 0 0 0, .receive true 0 0 0]

theorem oneForDownload_iff_of_two_downloads :
    Runs.EveryStep twoGateways.step (NotReassigned false 0) (.start Bool)
        twoDownloads ↔
      ∀ initial, initial <+: twoDownloads → ∀ traffic,
        Runs.run twoGateways.step (.start Bool) initial = some traffic →
        OneForDownload twoGateways false 0 traffic :=
  oneForDownload_iff twoGateways false 0 twoDownloads _ rfl

end MultiMarketPrices.SDPMock
