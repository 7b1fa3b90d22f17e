import MultiMarketPrices.Core.Settling
import MultiMarketPrices.SDPMock.Delivery

/-!
# Everything in flight arrives

A delivery takes one record and sends at most the answer to it, so deliveries
alone come to an end.  What they leave is a network in which no machine waits
for an answer, unless its partition was assigned while it was revoked.
-/

namespace MultiMarketPrices.SDPMock

open PlatformComm hiding Effect
open MiddleWare

variable {Member : Type*} [DecidableEq Member] {network : Network Member}
  {traffic next : Traffic Member}

/-- The event takes a record that is in flight. -/
def NetworkEvent.IsDelivery : NetworkEvent Member → Prop
  | .serve _ _ _ | .receive _ _ _ _ => True
  | _ => False

/-- How many deliveries are left: a request is delivered, and its answer. -/
def deliveriesLeft (network : Network Member) (traffic : Traffic Member) : ℕ :=
  traffic.inFlight.length +
    traffic.inFlight.countP fun record => decide (record.topic = network.topic)

theorem deliveriesLeft_step {event : NetworkEvent Member}
    (hsynced : Synced network traffic) (hdelivery : event.IsDelivery)
    (hstep : network.step traffic event = some next) :
    deliveriesLeft network next + 1 = deliveriesLeft network traffic := by
  rw [deliveriesLeft, deliveriesLeft]
  cases stepped_of_step hsynced hstep with
  | rebalanced | commanded => exact absurd hdelivery id
  | served place taken offset member partition reqId hrange hrecord hgateways
      hbook hinFlight =>
      obtain ⟨hplace, -⟩ := List.getElem?_eq_some_iff.mp hrecord
      have hrequest : decide
          ((network.request member partition reqId).record.topic =
            network.topic) = true := decide_eq_true rfl
      have hreply : decide ((network.reply member partition reqId).topic =
          network.topic) = false :=
        decide_eq_false (network.appId_ne_topic member)
      rw [hinFlight, List.length_append, List.length_eraseIdx_of_lt hplace,
        List.countP_append, countP_taken hrecord, hrequest]
      simp only [List.countP_singleton, hreply, List.length_singleton,
        Bool.toNat_true]
      simp only [Bool.false_eq_true, if_false]
      omega
  | received member place taken offset partition reqId hrecord hended hothers
      hbook hinFlight =>
      obtain ⟨hplace, -⟩ := List.getElem?_eq_some_iff.mp hrecord
      have hreply : decide ((network.reply member partition reqId).topic =
          network.topic) = false :=
        decide_eq_false (network.appId_ne_topic member)
      rw [hinFlight, List.length_eraseIdx_of_lt hplace, countP_taken hrecord,
        hreply, Bool.toNat_false]
      omega

/-- Whatever is in flight can be taken. -/
theorem exists_delivery (hsynced : Synced network traffic) {place : ℕ}
    (hplace : place < traffic.inFlight.length) :
    ∃ event after, NetworkEvent.IsDelivery event ∧
      network.step traffic event = some after ∧
      traffic.inFlight.eraseIdx place <+: after.inFlight := by
  have hrecord := List.getElem?_eq_getElem hplace
  obtain ⟨member, partition, reqId, hrange, heq | heq⟩ :=
    hsynced.hgenuine _ (List.getElem_mem hplace)
  · rw [heq] at hrecord
    refine ⟨.serve place 0 0, { traffic with
      mockBook := ∅
      inFlight := traffic.inFlight.eraseIdx place ++
        [network.reply member partition reqId] }, trivial, ?_,
      List.prefix_append _ _⟩
    have htopic : (network.request member partition reqId).record.topic =
      network.topic := rfl
    simp only [Network.step, hrecord, if_pos htopic, hsynced.hbook,
      Network.onMessage_request]
  · rw [heq] at hrecord
    obtain ⟨after, hafter, -, -, -, hinFlight⟩ :=
      onMessage_reply network
        { traffic with
          inFlight := traffic.inFlight.eraseIdx place }
        (hsynced.hsound member) hrange reqId 0 0
    refine ⟨.receive member place 0 0, after, trivial, ?_, by rw [hinFlight]⟩
    have htopic : (network.reply member partition reqId).topic =
      (network.platform member).appId := rfl
    simp only [Network.step, hrecord, if_pos htopic, hafter]

/-- A run of deliveries uses up what is left of them. -/
theorem run_deliveries {deliveries : List (NetworkEvent Member)}
    {finish : Traffic Member} (hsynced : Synced network traffic)
    (hdeliveries : ∀ event ∈ deliveries, NetworkEvent.IsDelivery event)
    (hrun : Runs.run network.step traffic deliveries = some finish) :
    Synced network finish ∧
      deliveries.length + deliveriesLeft network finish =
        deliveriesLeft network traffic := by
  have hevery : Runs.EveryStep network.step
      (fun _ event => NetworkEvent.IsDelivery event) traffic deliveries :=
    Runs.everyStep_of_forall traffic hdeliveries
  constructor
  · exact hevery.invariant (Synced network)
      (fun _ _ _ hbefore _ hstep => hbefore.step hstep) hsynced hrun
  · exact hevery.length_add_measure (fun _ _ _ hbefore hdelivery hstep =>
      ⟨hbefore.step hstep, deliveriesLeft_step hbefore hdelivery hstep⟩)
      hsynced hrun

omit [DecidableEq Member] in
variable (network) in
theorem inFlight_eq_nil_iff :
    traffic.inFlight = [] ↔ deliveriesLeft network traffic = 0 := by
  constructor
  · intro hnone
    simp [deliveriesLeft, hnone]
  · intro hleft
    apply List.length_eq_zero_iff.mp
    rw [deliveriesLeft] at hleft
    omega

/-- There is a run of deliveries that takes everything. -/
theorem exists_deliveries (hsynced : Synced network traffic) :
    ∃ deliveries finish,
      (∀ event ∈ deliveries, NetworkEvent.IsDelivery event) ∧
      Runs.run network.step traffic deliveries = some finish ∧
      finish.inFlight = [] := by
  obtain ⟨deliveries, finish, hevery, hrun, hnone⟩ :=
    Runs.exists_run_of_measure (fun _ _ _ hbefore hdelivery hstep =>
      ⟨hbefore.step hstep, deliveriesLeft_step hbefore hdelivery hstep⟩)
      (fun state hstate hleft => by
        have hplace : 0 < state.inFlight.length := by
          rw [List.length_pos_iff, ne_eq, inFlight_eq_nil_iff network]
          exact hleft
        obtain ⟨event, after, hdelivery, hstep, -⟩ :=
          exists_delivery hstate hplace
        exact ⟨event, after, hdelivery, hstep⟩) hsynced
  exact ⟨deliveries, finish, hevery.forall_mem hrun, hrun,
    (inFlight_eq_nil_iff network).mpr hnone⟩

omit [DecidableEq Member] in
theorem notReassigned_of_isDelivery {event : NetworkEvent Member}
    (hdelivery : event.IsDelivery) (member : Member) (partition : ℤ) :
    NotReassigned member partition traffic event := by
  cases event with
  | rebalance | command => exact absurd hdelivery id
  | serve | receive => trivial

/-- From every state that can be reached, whatever is in flight can be taken,
by a component that does not throw; deliveries alone take everything in a number
of steps that the state fixes; and when nothing is in flight no machine is
downloading, except that of a partition that was assigned while it was
revoked. -/
theorem downloads_settle (network : Network Member)
    (events : List (NetworkEvent Member)) (traffic : Traffic Member)
    (hrun : Runs.run network.step (.start Member) events = some traffic) :
    (∀ place < traffic.inFlight.length, ∃ event after,
      NetworkEvent.IsDelivery event ∧
      network.step traffic event = some after ∧
      traffic.inFlight.eraseIdx place <+: after.inFlight) ∧
    (∃ deliveries finish,
      (∀ event ∈ deliveries, NetworkEvent.IsDelivery event) ∧
      Runs.run network.step traffic deliveries = some finish ∧
      finish.inFlight = []) ∧
    ∀ deliveries finish,
      (∀ event ∈ deliveries, NetworkEvent.IsDelivery event) →
      Runs.run network.step traffic deliveries = some finish →
      deliveries.length ≤ deliveriesLeft network traffic ∧
      (finish.inFlight = [] ↔
        deliveries.length = deliveriesLeft network traffic) ∧
      (finish.inFlight = [] → ∀ member partition,
        Runs.EveryStep network.step (NotReassigned member partition)
          (.start Member) events →
        downloading partition (finish.gateway member) = false) := by
  have hsynced : Synced network traffic :=
    Runs.run_invariant (Synced network)
      (fun _ _ _ hbefore hstep => hbefore.step hstep) (.start network) hrun
  refine ⟨fun place hplace => exists_delivery hsynced hplace,
    exists_deliveries hsynced, fun deliveries finish hdeliveries hrest => ?_⟩
  obtain ⟨hfinish, hlength⟩ := run_deliveries hsynced hdeliveries hrest
  refine ⟨by omega, ?_, fun hnone member partition hevery => ?_⟩
  · rw [inFlight_eq_nil_iff network]
    omega
  · have hbefore : Awaiting network member partition traffic :=
      hevery.invariant _ (fun _ _ _ hkept hguard hstep =>
        hkept.step hguard hstep) (.start network member partition) hrun
    have hafter : Awaiting network member partition finish :=
      Runs.run_invariant_of_forall _
        (fun _ _ _ hkept hdelivery hstep => hkept.step
          (notReassigned_of_isDelivery hdelivery member partition) hstep)
        hbefore hdeliveries hrest
    have hcount := hafter.hone
    rw [OneForDownload, awaited, hnone] at hcount
    cases hstate : downloading partition (finish.gateway member) with
    | false => rfl
    | true => simp [hstate] at hcount

theorem downloads_settle_of_two_downloads :
    ∃ traffic,
      Runs.run twoGateways.step (.start Bool) twoDownloads = some traffic ∧
      ∃ deliveries finish,
        (∀ event ∈ deliveries, NetworkEvent.IsDelivery event) ∧
        Runs.run twoGateways.step traffic deliveries = some finish ∧
        finish.inFlight = [] :=
  ⟨_, rfl, (downloads_settle twoGateways twoDownloads _ rfl).2.1⟩

end MultiMarketPrices.SDPMock
