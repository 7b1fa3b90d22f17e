import MultiMarketPrices.PlatformComm.Gateway

/-!
# The state of a machine and the ownership of its partition

A downloading machine defers a revocation, but has no handler for an
assignment.  Between rebalances that alternate, the machine therefore follows
them as long as no assignment comes while a revocation is deferred: that
assignment is lost, and the end of the download revokes an assigned partition.
-/

namespace MultiMarketPrices.PlatformComm.Ownership

/-- The rebalance type, if the event is a rebalance of the partition. -/
def rebalanceOf (partition : ℤ) : GatewayEvent → Option TopicAssignmentEvent
  | .rebalance rebalanceType other =>
      if other = partition then some rebalanceType else none
  | _ => none

/-- The last rebalance event of a partition. -/
def lastRebalance (partition : ℤ) (events : List GatewayEvent) :
    Option TopicAssignmentEvent :=
  (events.filterMap (rebalanceOf partition)).getLast?

/-- The rebalance events of a partition alternate, an assignment first. -/
def Alternating (partition : ℤ) (events : List GatewayEvent) : Prop :=
  ∀ initial rebalanceType,
    initial ++ [.rebalance rebalanceType partition] <+: events →
    (rebalanceType = .partitionRevoked ↔
      lastRebalance partition initial = some .partitionAssigned)

/-- No assignment while a revocation is deferred. -/
def NotLost (partition : ℤ) (record : Record) (event : GatewayEvent) : Prop :=
  event = .rebalance .partitionAssigned partition →
    ∀ fsm, record.gateway.partitionFSMs.lookup partition = some fsm →
      .revoke ∉ fsm.deferred

/-- Without deferred events, the machine is revoked exactly when the last
rebalance revoked its partition. -/
def Follows (fsm : Fsm) (last : Option TopicAssignmentEvent) : Prop :=
  fsm.deferred = [] →
    (fsm.state = .revoked ↔ last = some .partitionRevoked)

/-- The machine of the partition follows its rebalances, now and once the
download under way has ended. -/
def FollowsOwnership (platform : Platform) (partition : ℤ) (record : Record) :
    Prop :=
  ∀ fsm, record.gateway.partitionFSMs.lookup partition = some fsm →
    Follows fsm (lastRebalance partition record.handled) ∧
    ∀ dict after out,
      platform.engine.handleEvent fsm (.downloadEnd dict) = .ok (after, out) →
      Follows after (lastRebalance partition record.handled)

/-! ## The invariant -/

/-- The state of a machine, by the last rebalance of its partition. -/
def StateFits (fsm : Fsm) (last : Option TopicAssignmentEvent) : Prop :=
  match fsm.state with
  | .downloading =>
      .revoke ∈ fsm.deferred ↔ last = some .partitionRevoked
  | .operational => last = some .partitionAssigned
  | .revoked => last = some .partitionRevoked

/-- The machine of a partition fits its last rebalance; without a machine there
has been none. -/
def Fits (partition : ℤ) (gateway : Gateway)
    (last : Option TopicAssignmentEvent) : Prop :=
  (gateway.partitionFSMs.lookup partition = none → last = none) ∧
  ∀ fsm, gateway.partitionFSMs.lookup partition = some fsm →
    last ≠ none ∧ StateFits fsm last

structure Owned (partition : ℤ) (record : Record) : Prop where
  hsound : record.gateway.Sound
  hfits : Fits partition record.gateway
    (lastRebalance partition record.handled)

theorem lastRebalance_concat (partition : ℤ) (events : List GatewayEvent)
    (event : GatewayEvent) :
    lastRebalance partition (events ++ [event]) =
      (rebalanceOf partition event).or (lastRebalance partition events) := by
  cases hrebalance : rebalanceOf partition event <;>
    simp [lastRebalance, List.filterMap_append, hrebalance]

/-- The state after the end of a download. -/
theorem StateFits.ended {deferred : List FsmEvent}
    {last : Option TopicAssignmentEvent} (hsome : last ≠ none)
    (hfits : StateFits ⟨.downloading, deferred⟩ last) :
    StateFits ⟨(release deferred).1, []⟩ last := by
  by_cases hrevoke : FsmEvent.revoke ∈ deferred
  · rw [release_state_of_mem hrevoke]
    exact hfits.mp hrevoke
  · rw [release_state_of_not_mem hrevoke]
    have hlast : last ≠ some .partitionRevoked :=
      fun hlast => hrevoke (hfits.mpr hlast)
    match last, hsome, hlast with
    | some .partitionAssigned, _, _ => rfl

theorem StateFits.follows {fsm : Fsm} {last : Option TopicAssignmentEvent}
    (hfits : StateFits fsm last) : Follows fsm last := by
  intro hdeferred
  obtain ⟨state, deferred⟩ := fsm
  obtain rfl : deferred = [] := hdeferred
  cases state with
  | downloading =>
      have hlast : last ≠ some .partitionRevoked :=
        fun hlast => by simpa using hfits.mpr hlast
      simp [hlast]
  | operational =>
      have hlast : last = some .partitionAssigned := hfits
      simp [hlast]
  | revoked =>
      have hlast : last = some .partitionRevoked := hfits
      simp [hlast]

/-- Events other than rebalances keep the fit. -/
theorem StateFits.respond {fsm after : Fsm} {event : FsmEvent}
    {out : List FsmOutput} {last : Option TopicAssignmentEvent}
    (hsome : last ≠ none) (hfits : StateFits fsm last)
    (hassign : event ≠ .assign) (hrevoke : event ≠ .revoke)
    (hrespond : fsm.respond event = .ok (after, out)) :
    StateFits after last := by
  obtain ⟨state, deferred⟩ := fsm
  cases responded_of_respond hrespond with
  | recorded _ _ _ _ _ hnext => exact hnext ▸ hfits
  | ended _ hstate _ hnext =>
      subst hstate hnext
      exact hfits.ended hsome
  | deferred hstate _ hnext =>
      subst hstate hnext
      have hmem : FsmEvent.revoke ∈ deferred ++ [event] ↔
          FsmEvent.revoke ∈ deferred := by simp [hrevoke.symm]
      exact hmem.trans hfits
  | commanded _ _ _ _ hnext => exact hnext ▸ hfits
  | revoked _ hevent => exact absurd hevent hrevoke
  | assigned _ hevent => exact absurd hevent hassign
  | discarded hnext => exact hnext ▸ hfits

theorem Owned.followsOwnership {platform : Platform} {partition : ℤ}
    {record : Record} (howned : Owned partition record) :
    FollowsOwnership platform partition record := by
  intro fsm hfsm
  obtain ⟨hsome, hfits⟩ := howned.hfits.2 fsm hfsm
  refine ⟨hfits.follows, ?_⟩
  intro dict after out hended
  rw [handleEvent_eq_respond platform.engine (howned.hsound partition fsm hfsm)]
    at hended
  exact (hfits.respond hsome (by simp) (by simp) hended).follows

/-! ## What one event does to the invariant -/

/-- The event fits the alternation. -/
def Expected (partition : ℤ) (record : Record) (event : GatewayEvent) : Prop :=
  ∀ rebalanceType, event = .rebalance rebalanceType partition →
    (rebalanceType = .partitionRevoked ↔
      lastRebalance partition record.handled = some .partitionAssigned)

variable {platform : Platform} {partition : ℤ} {record next : Record}
  {event : GatewayEvent}

theorem expected_of_alternating {events : List GatewayEvent}
    (halternating : Alternating partition events) :
    Runs.EveryStep (Record.step platform) (Expected partition) .start
      events := by
  intro initial event hinitial record hrecord rebalanceType heq
  subst heq
  rw [Record.handled_eq hrecord]
  exact halternating initial rebalanceType hinitial

theorem fits_insert {gateway after : Gateway}
    {last : Option TopicAssignmentEvent} {fsm : Fsm} (hsome : last ≠ none)
    (hfits : StateFits fsm last)
    (hfsms : after.partitionFSMs =
      gateway.partitionFSMs.insert partition fsm) :
    Fits partition after last := by
  constructor
  · intro hnone
    simp [hfsms, Finmap.lookup_insert] at hnone
  · intro other hother
    rw [hfsms, Finmap.lookup_insert] at hother
    obtain rfl := Option.some.inj hother
    exact ⟨hsome, hfits⟩

theorem fits_of_ne {gateway after : Gateway} {other : ℤ}
    {last : Option TopicAssignmentEvent} {fsm : Fsm} (hne : other ≠ partition)
    (hbefore : Fits partition gateway last)
    (hfsms : after.partitionFSMs = gateway.partitionFSMs.insert other fsm) :
    Fits partition after last := by
  have hlookup : after.partitionFSMs.lookup partition =
      gateway.partitionFSMs.lookup partition := by
    rw [hfsms, Finmap.lookup_insert_of_ne _ hne.symm]
  simpa only [Fits, hlookup] using hbefore

/-- A machine that answers another event than a rebalance goes on fitting. -/
theorem fits_of_respond {gateway after : Gateway} {other : ℤ}
    {last : Option TopicAssignmentEvent} {fsm machine : Fsm}
    {event : FsmEvent} {out : List FsmOutput}
    (hbefore : Fits partition gateway last)
    (hfsm : gateway.partitionFSMs.lookup other = some fsm)
    (hassign : event ≠ .assign) (hrevoke : event ≠ .revoke)
    (hrespond : fsm.respond event = .ok (machine, out))
    (hfsms : after.partitionFSMs =
      gateway.partitionFSMs.insert other machine) :
    Fits partition after last := by
  by_cases heq : other = partition
  · subst heq
    obtain ⟨hsome, hfits⟩ := hbefore.2 fsm hfsm
    exact fits_insert hsome (hfits.respond hsome hassign hrevoke hrespond) hfsms
  · exact fits_of_ne heq hbefore hfsms

/-- A rebalance that fits the alternation and loses no assignment. -/
theorem StateFits.rebalanced {fsm after : Fsm} {out : List FsmOutput}
    {last : Option TopicAssignmentEvent} {rebalanceType : TopicAssignmentEvent}
    (hsome : last ≠ none) (hfits : StateFits fsm last)
    (hexpected : rebalanceType = .partitionRevoked ↔
      last = some .partitionAssigned)
    (hkept : rebalanceType = .partitionAssigned → .revoke ∉ fsm.deferred)
    (hrespond : fsm.respond rebalanceType.fsmEvent = .ok (after, out)) :
    StateFits after (some rebalanceType) := by
  obtain ⟨state, deferred⟩ := fsm
  cases rebalanceType with
  | partitionAssigned =>
      have hlast : last = some .partitionRevoked := by
        match last, hsome, hexpected with
        | some .partitionRevoked, _, _ => rfl
        | some .partitionAssigned, _, hexpected =>
            exact absurd (hexpected.mpr rfl) (by simp)
      cases state with
      | downloading => exact absurd (hfits.mpr hlast) (hkept rfl)
      | operational =>
          have hassigned : last = some .partitionAssigned := hfits
          simp [hlast] at hassigned
      | revoked =>
          obtain ⟨rfl, -⟩ := Prod.mk.inj (Except.ok.inj hrespond)
          simp [StateFits]
  | partitionRevoked =>
      have hlast : last = some .partitionAssigned := hexpected.mp rfl
      cases state with
      | downloading =>
          obtain ⟨rfl, -⟩ := Prod.mk.inj (Except.ok.inj hrespond)
          simp [StateFits, TopicAssignmentEvent.fsmEvent]
      | operational =>
          obtain ⟨rfl, -⟩ := Prod.mk.inj (Except.ok.inj hrespond)
          rfl
      | revoked =>
          have hrevoked : last = some .partitionRevoked := hfits
          simp [hlast] at hrevoked

theorem fits_of_handled {gateway after : Gateway} {sent : List Effect}
    {last : Option TopicAssignmentEvent}
    (hhandled : Handled platform gateway event after sent)
    (hbefore : Fits partition gateway last)
    (hexpected : ∀ rebalanceType, event = .rebalance rebalanceType partition →
      (rebalanceType = .partitionRevoked ↔ last = some .partitionAssigned))
    (hkept : event = .rebalance .partitionAssigned partition →
      ∀ fsm, gateway.partitionFSMs.lookup partition = some fsm →
        .revoke ∉ fsm.deferred) :
    Fits partition after ((rebalanceOf partition event).or last) := by
  cases hhandled with
  | ignored hevent _ hfsms _ =>
      have hrebalance : rebalanceOf partition event = none := by
        cases event with
        | rebalance rebalanceType other =>
            obtain ⟨rfl, hnew⟩ := hevent _ _ rfl
            have hne : other ≠ partition := by
              rintro rfl
              have hassigned := (hexpected _ rfl).mp rfl
              rw [hbefore.1 hnew] at hassigned
              simp at hassigned
            simp [rebalanceOf, hne]
        | message | response => rfl
      rw [hrebalance, Option.none_or]
      simpa only [Fits, hfsms] using hbefore
  | created other hevent hnew hbook hfsms _ =>
      subst hevent
      by_cases heq : other = partition
      · subst heq
        simp only [rebalanceOf, if_true, Option.some_or]
        exact fits_insert (by simp) (by simp [StateFits]) hfsms
      · simp only [rebalanceOf, heq, if_false, Option.none_or]
        exact fits_of_ne heq hbefore hfsms
  | rebalanced rebalanceType other fsm machine out hevent hfsm hrespond hbook
      hfsms _ =>
      subst hevent
      by_cases heq : other = partition
      · subst heq
        obtain ⟨hsome, hfits⟩ := hbefore.2 fsm hfsm
        simp only [rebalanceOf, if_true, Option.some_or]
        refine fits_insert (by simp) ?_ hfsms
        exact hfits.rebalanced hsome (hexpected _ rfl)
          (fun hassigned => hkept (by rw [hassigned]) fsm hfsm) hrespond
      · simp only [rebalanceOf, heq, if_false, Option.none_or]
        exact fits_of_ne heq hbefore hfsms
  | booked other msg isSub key destTopic fsm machine out hevent hrequest
      haccepted hfsm hrespond hbook hfsms _ =>
      subst hevent
      exact fits_of_respond hbefore hfsm (by simp) (by simp) hrespond hfsms
  | responded msg isLast dict group other fsm machine out hevent hparse hgroup
      hpartition hfsm hrespond hbook hfsms _ =>
      subst hevent
      exact fits_of_respond hbefore hfsm (by cases isLast <;> simp)
        (by cases isLast <;> simp) hrespond hfsms

theorem Owned.step (howned : Owned partition record)
    (hexpected : Expected partition record event)
    (hkept : NotLost partition record event)
    (hstep : Record.step platform record event = some next) :
    Owned partition next := by
  obtain ⟨sent, hhandle, hhandled, -⟩ := Record.step_eq_some hstep
  have hevent := handled_of_handle howned.hsound hhandle
  have hfits := fits_of_handled hevent howned.hfits hexpected hkept
  rw [← lastRebalance_concat, ← hhandled] at hfits
  exact ⟨hevent.sound howned.hsound, hfits⟩

/-- A lost assignment shows at the latest when the download ends. -/
theorem Owned.not_followsOwnership (howned : Owned partition record)
    (hlost : ¬ NotLost partition record event)
    (hstep : Record.step platform record event = some next) :
    ¬ FollowsOwnership platform partition next := by
  obtain ⟨rfl, hrevoke⟩ := Classical.not_imp.mp hlost
  push Not at hrevoke
  obtain ⟨fsm, hfsm, hrevoke⟩ := hrevoke
  obtain ⟨sent, hhandle, hhandled, -⟩ := Record.step_eq_some hstep
  have hlast : lastRebalance partition next.handled =
      some .partitionAssigned := by
    rw [hhandled, lastRebalance_concat]
    simp [rebalanceOf]
  have hsound := howned.hsound partition fsm hfsm
  obtain ⟨state, deferred⟩ := fsm
  have hstate : state = .downloading := by
    by_contra hstate
    have hnone : deferred = [] := hsound.hdeferred hstate
    simp [hnone] at hrevoke
  subst hstate
  have hkept : next.gateway.partitionFSMs.lookup partition =
      some ⟨.downloading, deferred⟩ := by
    cases handled_of_handle howned.hsound hhandle with
    | ignored hevent => simpa using (hevent _ _ rfl).1
    | created other hevent hnew =>
        obtain ⟨-, rfl⟩ := GatewayEvent.rebalance.inj hevent
        simp [hfsm] at hnew
    | rebalanced rebalanceType other machine after out hevent hmachine
        hrespond hbook hfsms =>
        obtain ⟨rfl, rfl⟩ := GatewayEvent.rebalance.inj hevent
        obtain rfl := Option.some.inj (hfsm.symm.trans hmachine)
        obtain ⟨rfl, -⟩ := Prod.mk.inj (Except.ok.inj hrespond)
        rw [hfsms, Finmap.lookup_insert]
    | booked _ _ _ _ _ _ _ _ hevent => simp at hevent
    | responded _ _ _ _ _ _ _ _ hevent => simp at hevent
  intro hfollows
  have hended := (hfollows _ hkept).2 [] ⟨.revoked, []⟩
    (.onEntry .operational :: (release deferred).2) (by
      rw [handleEvent_eq_respond platform.engine hsound]
      simp [Fsm.respond, release_state_of_mem hrevoke])
  have hrevoked := (hended rfl).mp rfl
  simp [hlast] at hrevoked

/-- With alternating rebalances, the machine of a partition follows them in
every state of a run, and once the download under way there has ended, exactly
when no assignment is handled while a revocation is deferred. -/
theorem followsOwnership_iff_notLost (platform : Platform) (partition : ℤ)
    (events : List GatewayEvent) (finish : Record)
    (halternating : Alternating partition events)
    (hrun : Runs.run (Record.step platform) .start events = some finish) :
    Runs.EveryStep (Record.step platform) (NotLost partition) .start events ↔
      ∀ initial, initial <+: events → ∀ record,
        Runs.run (Record.step platform) .start initial = some record →
        FollowsOwnership platform partition record :=
  Runs.everyStep_iff_forall_good (Owned partition)
    (FollowsOwnership platform partition)
    (fun _ howned => howned.followsOwnership)
    (fun _ _ _ howned hexpected hkept hstep =>
      howned.step hexpected hkept hstep)
    (fun _ _ _ howned _ hlost hstep => howned.not_followsOwnership hlost hstep)
    ⟨sound_initial, fun _ => rfl, fun _ hfsm => by
      simp [Record.start, Gateway.initial] at hfsm⟩
    (expected_of_alternating halternating) hrun

theorem followsOwnership_iff_notLost_of_two_rebalances :
    Runs.EveryStep (Record.step .endOfDownload) (NotLost 0) .start
        [.rebalance .partitionAssigned 0, .response endOfDownloadText true,
          .rebalance .partitionRevoked 0] ↔
      ∀ initial, initial <+:
          [.rebalance .partitionAssigned 0, .response endOfDownloadText true,
            .rebalance .partitionRevoked 0] →
        ∀ record,
          Runs.run (Record.step .endOfDownload) .start initial = some record →
          FollowsOwnership .endOfDownload 0 record := by
  apply followsOwnership_iff_notLost .endOfDownload 0 _ _ ?_ rfl
  intro initial rebalanceType hinitial
  match initial, hinitial with
  | [], hinitial =>
      simp at hinitial
      simp [hinitial, lastRebalance]
  | [_], hinitial => simp at hinitial
  | [_, _], hinitial =>
      simp at hinitial
      obtain ⟨rfl, rfl, rfl⟩ := hinitial
      exact ⟨fun _ => rfl, fun _ => rfl⟩
  | _ :: _ :: _ :: _, hinitial => simp at hinitial

/-- A revocation and an assignment that both come during the download. -/
theorem revoked_though_assigned :
    ∃ record fsm, Runs.run (Record.step .endOfDownload) .start
        [.rebalance .partitionAssigned 0, .rebalance .partitionRevoked 0,
          .rebalance .partitionAssigned 0,
          .response endOfDownloadText true] = some record ∧
      record.gateway.partitionFSMs.lookup 0 = some fsm ∧
      fsm.deferred = [] ∧ fsm.state = .revoked ∧
      lastRebalance 0 record.handled = some .partitionAssigned :=
  ⟨_, _, rfl, rfl, rfl, rfl, rfl⟩

end MultiMarketPrices.PlatformComm.Ownership
