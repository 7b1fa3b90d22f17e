import MultiMarketPrices.PlatformComm.Ownership

/-!
# Sync-data requests and download phases

The request for a partition's subscriptions is sent by `rebalanceCallback` when
it creates the partition's machine, while the machine also enters `Downloading`
when it is assigned again after a revocation.  And an assignment that comes
while a revocation is deferred is lost, so that the end of the download revokes
the partition.  Either way a partition that is assigned again is never served.
-/

namespace MultiMarketPrices.PlatformComm

namespace Downloads

open Ownership

/-- A request for the subscriptions of a partition, by its group identifier. -/
def isRequestFor (platform : Platform) (partition : ℤ) : Effect → Bool
  | .request (.object members) _ =>
      match members.lookup "group" with
      | some (.string group) => decide (group = platform.group partition)
      | _ => false
  | _ => false

/-- An entry of a partition's machine into `Downloading`. -/
def isEntryOf (partition : ℤ) : Effect → Bool
  | .entered entered state =>
      decide (entered = partition) && decide (state = .downloading)
  | _ => false

/-- The requests sent for a partition so far. -/
def requests (platform : Platform) (partition : ℤ) (record : Record) : ℕ :=
  record.effects.countP (isRequestFor platform partition)

/-- The download phases of a partition so far. -/
def entries (partition : ℤ) (record : Record) : ℕ :=
  record.effects.countP (isEntryOf partition)

/-- The machine is operational, or the end of its download makes it so. -/
def CanOperate (platform : Platform) (fsm : Fsm) : Prop :=
  fsm.state = .operational ∨
    fsm.state = .downloading ∧ ∀ dict, ∃ after out,
      platform.engine.handleEvent fsm (.downloadEnd dict) = .ok (after, out) ∧
        after.state = .operational

/-- Each download phase of the partition was requested, and while the partition
is assigned its machine can become operational. -/
structure PhasesRequested (platform : Platform) (partition : ℤ)
    (record : Record) : Prop where
  hrequested : requests platform partition record = entries partition record
  hoperates : lastRebalance partition record.handled =
      some .partitionAssigned →
    ∃ fsm, record.gateway.partitionFSMs.lookup partition = some fsm ∧
      CanOperate platform fsm

/-- The machine is not revoked, and no revocation is deferred in it. -/
def Unrevoked (fsm : Fsm) : Prop :=
  fsm.state ≠ .revoked ∧ .revoke ∉ fsm.deferred

/-- The event does not assign the partition while its machine is revoked, or is
to be revoked at the end of its download. -/
def NotReassigned (partition : ℤ) (record : Record) (event : GatewayEvent) :
    Prop :=
  event = .rebalance .partitionAssigned partition →
    ∀ fsm, record.gateway.partitionFSMs.lookup partition = some fsm →
      Unrevoked fsm

/-! ## Machines that can operate -/

theorem canOperate_iff (platform : Platform) {fsm : Fsm}
    (hsound : fsm.Sound) : CanOperate platform fsm ↔ Unrevoked fsm := by
  have hended : ∀ dict, platform.engine.handleEvent fsm (.downloadEnd dict) =
      fsm.respond (.downloadEnd dict) :=
    fun dict => handleEvent_eq_respond platform.engine hsound _
  simp only [CanOperate, hended]
  obtain ⟨state, deferred⟩ := fsm
  cases state with
  | downloading =>
      by_cases hrevoke : FsmEvent.revoke ∈ deferred
      · simp [Fsm.respond, Unrevoked, hrevoke, release_state_of_mem hrevoke]
      · simp [Fsm.respond, Unrevoked, hrevoke, release_state_of_not_mem hrevoke]
  | operational =>
      obtain rfl : deferred = [] := hsound.hdeferred (by simp)
      simp [Unrevoked]
  | revoked => simp [Unrevoked]

/-- Only a revocation revokes. -/
theorem Unrevoked.respond {fsm after : Fsm} {event : FsmEvent}
    {out : List FsmOutput} (hunrevoked : Unrevoked fsm)
    (hother : event ≠ .revoke)
    (hrespond : fsm.respond event = .ok (after, out)) : Unrevoked after := by
  cases responded_of_respond hrespond with
  | recorded _ _ _ _ _ hnext => exact hnext ▸ hunrevoked
  | ended _ _ _ hnext =>
      subst hnext
      simp [Unrevoked, release_state_of_not_mem hunrevoked.2]
  | deferred _ _ hnext =>
      subst hnext
      refine ⟨hunrevoked.1, ?_⟩
      simp [hunrevoked.2, hother.symm]
  | commanded _ _ _ _ hnext => exact hnext ▸ hunrevoked
  | revoked _ hevent => exact absurd hevent hother
  | assigned hstate => exact absurd hstate hunrevoked.1
  | discarded hnext => exact hnext ▸ hunrevoked

/-! ## What one event adds -/

theorem group_injective (platform : Platform) {partition other : ℤ}
    (heq : platform.group partition = platform.group other) :
    partition = other := by
  have hlists := congrArg String.toList heq
  simp only [Platform.group, String.toList_append, List.append_cancel_left_eq,
    String.toList_inj] at hlists
  exact Int.repr_inj.mp hlists

theorem not_mem_release (events : List FsmEvent) :
    FsmOutput.onEntry .downloading ∉ (release events).2 := by
  induction events with
  | nil => simp [release]
  | cons event events ih =>
      cases event with
      | subUnsub key subscribe => cases subscribe <;> simpa [release] using ih
      | revoke => simp [release]
      | subscriptionRecord | downloadEnd | assign => simpa [release] using ih

/-- Only an assignment of a revoked machine enters `Downloading`. -/
theorem not_mem_respond {fsm after : Fsm} {event : FsmEvent}
    {out : List FsmOutput} (hrespond : fsm.respond event = .ok (after, out))
    (hother : fsm.state = .revoked → event ≠ .assign) :
    FsmOutput.onEntry .downloading ∉ out := by
  cases responded_of_respond hrespond with
  | recorded _ _ _ _ _ _ hout => simp [hout]
  | ended _ _ _ _ hout => simp [hout, not_mem_release]
  | deferred _ _ _ hout => simp [hout]
  | commanded _ subscribe _ _ _ hout => cases subscribe <;> simp [hout]
  | revoked _ _ _ hout => simp [hout]
  | assigned hstate hevent => exact absurd hevent (hother hstate)
  | discarded _ hout => simp [hout]

/-- What a machine sends is no request. -/
theorem countP_request_effects (platform : Platform) (partition other : ℤ)
    (out : List FsmOutput) :
    (out.map (FsmOutput.effect other)).countP
      (isRequestFor platform partition) = 0 := by
  rw [List.countP_eq_zero]
  intro effect heffect
  obtain ⟨output, -, rfl⟩ := List.mem_map.mp heffect
  cases output <;> simp [FsmOutput.effect, isRequestFor]

theorem countP_entry_effects {out : List FsmOutput}
    (hout : FsmOutput.onEntry .downloading ∉ out) (partition other : ℤ) :
    (out.map (FsmOutput.effect other)).countP (isEntryOf partition) = 0 := by
  rw [List.countP_eq_zero]
  intro effect heffect
  obtain ⟨output, houtput, rfl⟩ := List.mem_map.mp heffect
  cases output with
  | subFunc key => simp [FsmOutput.effect, isEntryOf]
  | unsubFunc key => simp [FsmOutput.effect, isEntryOf]
  | onEntry state =>
      have hstate : state ≠ .downloading := by
        rintro rfl
        exact hout houtput
      simp [FsmOutput.effect, isEntryOf, hstate]

/-- The entries of another partition's machine do not count. -/
theorem countP_entry_effects_of_ne {partition other : ℤ}
    (hne : other ≠ partition) (out : List FsmOutput) :
    (out.map (FsmOutput.effect other)).countP (isEntryOf partition) = 0 := by
  rw [List.countP_eq_zero]
  intro effect heffect
  obtain ⟨output, -, rfl⟩ := List.mem_map.mp heffect
  cases output <;> simp [FsmOutput.effect, isEntryOf, hne]

variable {platform : Platform} {gateway next : Gateway} {event : GatewayEvent}
  {sent : List Effect}

/-- Every event adds as many requests as entries, unless it assigns a revoked
machine. -/
theorem countP_eq_of_handled
    (hhandled : Handled platform gateway event next sent) {partition : ℤ}
    (hassigned : event = .rebalance .partitionAssigned partition →
      ∀ fsm, gateway.partitionFSMs.lookup partition = some fsm →
        fsm.state ≠ .revoked) :
    sent.countP (isRequestFor platform partition) =
      sent.countP (isEntryOf partition) := by
  cases hhandled with
  | ignored _ _ _ hsent => simp [hsent]
  | created other hevent hnew hbook hfsms hsent =>
      rw [hsent]
      by_cases heq : other = partition
      · subst heq
        simp [isRequestFor, isEntryOf]
      · have hgroup : platform.group other ≠ platform.group partition :=
          fun hgroup => heq (group_injective platform hgroup)
        simp [isRequestFor, isEntryOf, heq, hgroup]
  | rebalanced rebalanceType other fsm after out hevent hfsm hrespond hbook
      hfsms hsent =>
      rw [hsent, countP_request_effects]
      by_cases heq : other = partition
      · subst heq
        have hout := not_mem_respond hrespond (by
          intro hstate hassign
          cases rebalanceType with
          | partitionAssigned => exact hassigned hevent fsm hfsm hstate
          | partitionRevoked =>
              simp [TopicAssignmentEvent.fsmEvent] at hassign)
        rw [countP_entry_effects hout]
      · rw [countP_entry_effects_of_ne heq]
  | booked other msg isSub key destTopic fsm after out hevent hrequest
      haccepted hfsm hrespond hbook hfsms hsent =>
      have hout := not_mem_respond hrespond (by simp)
      rw [hsent, List.countP_append, List.countP_append,
        countP_request_effects, countP_entry_effects hout]
      simp [Platform.syncDataUpdate, isRequestFor, isEntryOf]
  | responded msg isLast dict group other fsm after out hevent hparse hgroup
      hpartition hfsm hrespond hbook hfsms hsent =>
      have hout := not_mem_respond hrespond (by cases isLast <;> simp)
      rw [hsent, countP_request_effects, countP_entry_effects hout]

/-- Assigning a revoked machine adds an entry and no request. -/
theorem countP_lt_of_reassigned {partition : ℤ}
    (hhandled : Handled platform gateway
      (.rebalance .partitionAssigned partition) next sent)
    {fsm : Fsm} (hfsm : gateway.partitionFSMs.lookup partition = some fsm)
    (hrevoked : fsm.state = .revoked) :
    sent.countP (isRequestFor platform partition) = 0 ∧
      sent.countP (isEntryOf partition) = 1 := by
  cases hhandled with
  | ignored hevent => simpa using (hevent _ _ rfl).1
  | created other hevent hnew =>
      obtain ⟨-, rfl⟩ := GatewayEvent.rebalance.inj hevent
      simp [hfsm] at hnew
  | rebalanced rebalanceType other fsm' after out hevent hfsm' hrespond hbook
      hfsms hsent =>
      obtain ⟨rfl, rfl⟩ := GatewayEvent.rebalance.inj hevent
      obtain rfl : fsm = fsm' := by simpa [hfsm] using hfsm'
      obtain ⟨state, deferred⟩ := fsm
      obtain rfl : state = .revoked := hrevoked
      obtain ⟨-, rfl⟩ := Prod.mk.inj (Except.ok.inj hrespond)
      simp [hsent, FsmOutput.effect, isRequestFor, isEntryOf]
  | booked _ _ _ _ _ _ _ _ hevent => simp at hevent
  | responded _ _ _ _ _ _ _ _ hevent => simp at hevent

/-- The partition has a machine with no revocation before it. -/
def Served (partition : ℤ) (gateway : Gateway) : Prop :=
  ∃ fsm, gateway.partitionFSMs.lookup partition = some fsm ∧ Unrevoked fsm

theorem served_insert {partition : ℤ} {after : Fsm}
    (hunrevoked : Unrevoked after)
    (hfsms : next.partitionFSMs =
      gateway.partitionFSMs.insert partition after) : Served partition next :=
  ⟨after, by rw [hfsms, Finmap.lookup_insert], hunrevoked⟩

theorem Served.of_ne {partition other : ℤ} {after : Fsm}
    (hserved : Served partition gateway) (hother : other ≠ partition)
    (hfsms : next.partitionFSMs =
      gateway.partitionFSMs.insert other after) : Served partition next := by
  obtain ⟨fsm, hfsm, hunrevoked⟩ := hserved
  refine ⟨fsm, ?_, hunrevoked⟩
  rw [hfsms, Finmap.lookup_insert_of_ne _ (Ne.symm hother), hfsm]

/-- A machine, the partition's or another one, is given an event. -/
theorem Served.of_respond {partition other : ℤ} {fsm after : Fsm}
    {given : FsmEvent} {out : List FsmOutput}
    (hserved : Served partition gateway)
    (hfsm : gateway.partitionFSMs.lookup other = some fsm)
    (hgiven : given ≠ .revoke) (hrespond : fsm.respond given = .ok (after, out))
    (hfsms : next.partitionFSMs =
      gateway.partitionFSMs.insert other after) : Served partition next := by
  by_cases heq : other = partition
  · subst heq
    obtain ⟨machine, hmachine, hunrevoked⟩ := hserved
    obtain rfl := Option.some.inj (hfsm.symm.trans hmachine)
    exact served_insert (hunrevoked.respond hgiven hrespond) hfsms
  · exact hserved.of_ne heq hfsms

/-- A partition that is assigned keeps being served if an assignment finds no
machine with a revocation before it. -/
theorem served_of_handled {partition : ℤ} {last : Option TopicAssignmentEvent}
    (hhandled : Handled platform gateway event next sent)
    (hbefore : last = some .partitionAssigned → Served partition gateway)
    (hassigned : event = .rebalance .partitionAssigned partition →
      ∀ fsm, gateway.partitionFSMs.lookup partition = some fsm → Unrevoked fsm)
    (hlast : (rebalanceOf partition event).or last =
      some .partitionAssigned) : Served partition next := by
  cases hhandled with
  | ignored hevent _ hfsms =>
      rw [Served, hfsms]
      cases event with
      | message | response => exact hbefore hlast
      | rebalance rebalanceType other =>
          obtain ⟨rfl, -⟩ := hevent _ _ rfl
          by_cases heq : other = partition
          · simp [rebalanceOf, heq] at hlast
          · rw [rebalanceOf, if_neg heq] at hlast
            exact hbefore hlast
  | created other hevent hnew hbook hfsms =>
      subst hevent
      by_cases heq : other = partition
      · subst heq
        exact served_insert (by simp [Unrevoked]) hfsms
      · rw [rebalanceOf, if_neg heq] at hlast
        exact (hbefore hlast).of_ne heq hfsms
  | rebalanced rebalanceType other fsm after out hevent hfsm hrespond _ hfsms =>
      subst hevent
      by_cases heq : other = partition
      · subst heq
        rw [rebalanceOf, if_pos rfl] at hlast
        obtain rfl : rebalanceType = .partitionAssigned :=
          Option.some.inj hlast
        have hunrevoked : Unrevoked after :=
          (hassigned rfl fsm hfsm).respond
            (by simp [TopicAssignmentEvent.fsmEvent]) hrespond
        exact served_insert hunrevoked hfsms
      · rw [rebalanceOf, if_neg heq] at hlast
        exact (hbefore hlast).of_ne heq hfsms
  | booked other msg isSub key destTopic fsm after out hevent _ _ hfsm
      hrespond _ hfsms =>
      subst hevent
      exact (hbefore hlast).of_respond hfsm (by simp) hrespond hfsms
  | responded msg isLast dict group other fsm after out hevent _ _ _ hfsm
      hrespond _ hfsms =>
      subst hevent
      exact (hbefore hlast).of_respond hfsm (by cases isLast <;> simp) hrespond
        hfsms

/-! ## Runs -/

/-- The machines are reachable and every phase was requested. -/
def Requested (platform : Platform) (partition : ℤ) (record : Record) : Prop :=
  record.gateway.Sound ∧ PhasesRequested platform partition record

theorem Requested.step {partition : ℤ} {record after : Record}
    (hrequested : Requested platform partition record)
    (hguard : NotReassigned partition record event)
    (hstep : Record.step platform record event = some after) :
    Requested platform partition after := by
  obtain ⟨hsound, hcounts, hoperates⟩ := hrequested
  obtain ⟨sent, hhandle, hevents, heffects⟩ := Record.step_eq_some hstep
  have hhandled := handled_of_handle hsound hhandle
  have hsoundAfter := hhandled.sound hsound
  refine ⟨hsoundAfter, ?_, ?_⟩
  · rw [requests, entries, heffects, List.countP_append, List.countP_append,
      countP_eq_of_handled hhandled fun hassign fsm hfsm =>
        (hguard hassign fsm hfsm).1]
    exact congrArg (· + _) hcounts
  · intro hlast
    rw [hevents, lastRebalance_concat] at hlast
    have hbefore : lastRebalance partition record.handled =
        some .partitionAssigned → Served partition record.gateway := by
      intro hassigned
      obtain ⟨fsm, hfsm, hcan⟩ := hoperates hassigned
      exact ⟨fsm, hfsm,
        (canOperate_iff platform (hsound partition fsm hfsm)).mp hcan⟩
    obtain ⟨fsm, hfsm, hunrevoked⟩ :=
      served_of_handled hhandled hbefore hguard hlast
    exact ⟨fsm, hfsm, (canOperate_iff platform
      (hsoundAfter partition fsm hfsm)).mpr hunrevoked⟩

/-- An assignment that comes while a revocation is deferred is lost. -/
theorem not_canOperate_of_deferred {partition : ℤ} {record after : Record}
    (hsound : record.gateway.Sound) {fsm : Fsm}
    (hfsm : record.gateway.partitionFSMs.lookup partition = some fsm)
    (hrevoke : .revoke ∈ fsm.deferred)
    (hstep : Record.step platform record
      (.rebalance .partitionAssigned partition) = some after) :
    lastRebalance partition after.handled = some .partitionAssigned ∧
      ∀ machine, after.gateway.partitionFSMs.lookup partition =
        some machine → ¬ CanOperate platform machine := by
  obtain ⟨sent, hhandle, hevents, -⟩ := Record.step_eq_some hstep
  have hstate : fsm.state = .downloading := by
    by_contra hother
    rw [(hsound partition fsm hfsm).hdeferred hother] at hrevoke
    simp at hrevoke
  constructor
  · rw [hevents, lastRebalance_concat, rebalanceOf, if_pos rfl]
    rfl
  · have hkept : after.gateway.partitionFSMs.lookup partition = some fsm := by
      cases handled_rebalance hsound hhandle with
      | ignored hevent => simpa using (hevent _ _ rfl).1
      | created other hevent hnew =>
          obtain ⟨-, rfl⟩ := GatewayEvent.rebalance.inj hevent
          simp [hfsm] at hnew
      | rebalanced rebalanceType other machine next out hevent hmachine hrespond
          _ hfsms =>
          obtain ⟨rfl, rfl⟩ := GatewayEvent.rebalance.inj hevent
          obtain rfl := Option.some.inj (hfsm.symm.trans hmachine)
          obtain ⟨state, deferred⟩ := fsm
          obtain rfl : state = .downloading := hstate
          obtain ⟨rfl, -⟩ := Prod.mk.inj (Except.ok.inj hrespond)
          rw [hfsms, Finmap.lookup_insert]
      | booked _ _ _ _ _ _ _ _ hevent => cases hevent
      | responded _ _ _ _ _ _ _ _ hevent => cases hevent
    intro machine hmachine hcan
    obtain rfl := Option.some.inj (hkept.symm.trans hmachine)
    exact ((canOperate_iff platform (hsound partition fsm hfsm)).mp hcan).2
      hrevoke

theorem Requested.not_of_reassigned {partition : ℤ} {record after : Record}
    (hrequested : Requested platform partition record)
    (hguard : ¬ NotReassigned partition record event)
    (hstep : Record.step platform record event = some after) :
    ¬ PhasesRequested platform partition after := by
  obtain ⟨rfl, hrevoked⟩ := Classical.not_imp.mp hguard
  push Not at hrevoked
  obtain ⟨fsm, hfsm, hrevoked⟩ := hrevoked
  intro hphases
  by_cases hstate : fsm.state = .revoked
  · obtain ⟨sent, hhandle, -, heffects⟩ := Record.step_eq_some hstep
    have hhandled := handled_of_handle hrequested.1 hhandle
    have hcounts := countP_lt_of_reassigned hhandled hfsm hstate
    have hbefore := hrequested.2.hrequested
    have hafter := hphases.hrequested
    rw [requests, entries] at hbefore
    rw [requests, entries, heffects, List.countP_append, List.countP_append,
      hcounts.1, hcounts.2, hbefore] at hafter
    omega
  · have hrevoke : FsmEvent.revoke ∈ fsm.deferred := by
      by_contra hnone
      exact hrevoked ⟨hstate, hnone⟩
    obtain ⟨hlast, hnot⟩ :=
      not_canOperate_of_deferred hrequested.1 hfsm hrevoke hstep
    obtain ⟨machine, hmachine, hcan⟩ := hphases.hoperates hlast
    exact hnot machine hmachine hcan

/-- Throughout a run the requests for a partition equal the entries of its
machine into `Downloading`, and the machine can become operational whenever the
partition is assigned, exactly when the partition is never assigned while its
machine is revoked or holds a deferred revocation. -/
theorem phasesRequested_iff_notReassigned (platform : Platform) (partition : ℤ)
    (events : List GatewayEvent) (finish : Record)
    (hrun : Runs.run (Record.step platform) .start events = some finish) :
    Runs.EveryStep (Record.step platform) (NotReassigned partition) .start
        events ↔
      ∀ initial, initial <+: events → ∀ record,
        Runs.run (Record.step platform) .start initial = some record →
        PhasesRequested platform partition record :=
  Runs.everyStep_iff_forall_good (Requested platform partition)
    (PhasesRequested platform partition)
    (fun _ hrequested => hrequested.2)
    (fun _ _ _ hrequested _ hguard hstep => hrequested.step hguard hstep)
    (fun _ _ _ hrequested _ hguard hstep =>
      hrequested.not_of_reassigned hguard hstep)
    ⟨sound_initial, rfl, by simp [Record.start, lastRebalance]⟩
    (Runs.everyStep_of_forall _ fun _ _ => trivial) hrun

theorem phasesRequested_iff_notReassigned_of_one_phase :
    Runs.EveryStep (Record.step Platform.endOfDownload) (NotReassigned 0) .start
        [.rebalance .partitionAssigned 0,
          .response endOfDownloadText true,
          .rebalance .partitionRevoked 0] ↔
      ∀ initial, initial <+:
          [.rebalance .partitionAssigned 0,
            .response endOfDownloadText true,
            .rebalance .partitionRevoked 0] →
        ∀ record,
          Runs.run (Record.step Platform.endOfDownload) .start initial =
            some record →
          PhasesRequested .endOfDownload 0 record :=
  phasesRequested_iff_notReassigned .endOfDownload 0 _ _ rfl

/-- A partition that is assigned, operational, revoked and assigned again. -/
theorem second_phase_not_requested :
    ∃ record, Runs.run (Record.step Platform.endOfDownload) .start
        [.rebalance .partitionAssigned 0,
          .response endOfDownloadText true,
          .rebalance .partitionRevoked 0,
          .rebalance .partitionAssigned 0] = some record ∧
      requests .endOfDownload 0 record = 1 ∧ entries 0 record = 2 :=
  ⟨_, rfl, rfl, rfl⟩

end Downloads

end MultiMarketPrices.PlatformComm
