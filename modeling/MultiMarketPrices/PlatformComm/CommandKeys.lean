import MultiMarketPrices.PlatformComm.Gateway

/-!
# Where the keys of control commands come from

A machine calls its functions for the key of a record that arrives while it
downloads, for the key of a command, and for the keys of the commands that it
has deferred.  So the control commands are about keys of a given kind as soon
as the records and the messages are.
-/

namespace MultiMarketPrices.PlatformComm

variable (allowed : String → Prop)

/-! ## One machine -/

/-- The key that a machine in this state is given is allowed. -/
def FsmEvent.KeyIn (state : FsmState) : FsmEvent → Prop
  | .subscriptionRecord dict => state = .downloading →
      ∀ key, dict.cStrAt "key" = .ok key → allowed key
  | .subUnsub key _ => allowed key
  | .downloadEnd _ | .revoke | .assign => True

def FsmOutput.KeyIn : FsmOutput → Prop
  | .subFunc key | .unsubFunc key => allowed key
  | .onEntry _ => True

def Fsm.KeysIn (fsm : Fsm) : Prop :=
  ∀ event ∈ fsm.deferred, event.KeyIn allowed .downloading

variable {allowed}

theorem keyIn_command {key : String} (hkey : allowed key) (subscribe : Bool) :
    FsmOutput.KeyIn allowed
      (if subscribe then .subFunc key else .unsubFunc key) := by
  cases subscribe <;> exact hkey

theorem keyIn_release {events : List FsmEvent}
    (hevents : ∀ event ∈ events, event.KeyIn allowed .downloading) :
    ∀ output ∈ (release events).2, output.KeyIn allowed := by
  induction events with
  | nil => simp [release]
  | cons event events ih =>
      rw [List.forall_mem_cons] at hevents
      obtain ⟨hevent, hrest⟩ := hevents
      cases event with
      | subUnsub key subscribe =>
          rw [release, List.forall_mem_cons]
          exact ⟨keyIn_command hevent subscribe, ih hrest⟩
      | revoke => simp [release, FsmOutput.KeyIn]
      | subscriptionRecord | downloadEnd | assign => exact ih hrest

theorem keysIn_start : Fsm.KeysIn allowed ⟨.downloading, []⟩ := by
  simp [Fsm.KeysIn]

theorem Fsm.KeysIn.deferred {fsm : Fsm} {event : FsmEvent}
    (hfsm : fsm.KeysIn allowed) (hevent : event.KeyIn allowed .downloading) :
    Fsm.KeysIn allowed { fsm with deferred := fsm.deferred ++ [event] } := by
  rw [KeysIn, List.forall_mem_append]
  exact ⟨hfsm, List.forall_mem_singleton.mpr hevent⟩

/-- A machine that is given allowed keys calls for allowed keys. -/
theorem Fsm.KeysIn.respond {fsm after : Fsm} {event : FsmEvent}
    {out : List FsmOutput} (hfsm : fsm.KeysIn allowed)
    (hevent : event.KeyIn allowed fsm.state)
    (hrespond : fsm.respond event = .ok (after, out)) :
    after.KeysIn allowed ∧ ∀ output ∈ out, output.KeyIn allowed := by
  cases responded_of_respond hrespond with
  | recorded dict key hstate hrecord hkey hnext hout =>
      subst hrecord hnext hout
      exact ⟨hfsm, List.forall_mem_singleton.mpr (hevent hstate key hkey)⟩
  | ended _ _ _ hnext hout =>
      subst hnext hout
      exact ⟨by simp [KeysIn],
        List.forall_mem_cons.mpr ⟨trivial, keyIn_release hfsm⟩⟩
  | deferred hstate _ hnext hout =>
      subst hnext hout
      rw [hstate] at hevent
      exact ⟨hfsm.deferred hevent, by simp⟩
  | commanded key subscribe _ hcommand hnext hout =>
      subst hcommand hnext hout
      exact ⟨hfsm,
        List.forall_mem_singleton.mpr (keyIn_command hevent subscribe)⟩
  | revoked _ _ hnext hout =>
      subst hnext hout
      exact ⟨by simp [KeysIn], List.forall_mem_singleton.mpr trivial⟩
  | assigned _ _ hnext hout =>
      subst hnext hout
      exact ⟨keysIn_start, List.forall_mem_singleton.mpr trivial⟩
  | discarded hnext hout =>
      subst hnext hout
      exact ⟨hfsm, by simp⟩

/-! ## The platform side -/

variable (allowed)

def Effect.KeyIn : Effect → Prop
  | .control key _ => allowed key
  | .request _ _ | .produce _ _ _ _ | .entered _ _ => True

def Gateway.KeysIn (gateway : Gateway) : Prop :=
  Finmaps.Everywhere (Fsm.KeysIn allowed) gateway.partitionFSMs

/-- A record that arrives while its partition downloads has an allowed key, if
it has a key at all. -/
def RecordKeyIn (platform : Platform) (gateway : Gateway) :
    GatewayEvent → Prop
  | .response msg false => ∀ dict group partition fsm key,
      platform.responseObject msg = .ok dict →
      dict.cStrAt "group" = .ok group →
      Platform.groupPartition group = some partition →
      gateway.partitionFSMs.lookup partition = some fsm →
      fsm.state = .downloading →
      dict.cStrAt "key" = .ok key → allowed key
  | _ => True

variable {allowed} {platform : Platform} {gateway next : Gateway}
  {event : GatewayEvent} {effects : List Effect}

theorem keyIn_effects {out : List FsmOutput} (partition : ℤ)
    (hout : ∀ output ∈ out, output.KeyIn allowed) :
    ∀ effect ∈ out.map (FsmOutput.effect partition), effect.KeyIn allowed := by
  rw [List.forall_mem_map]
  intro output hmem
  have hkey := hout output hmem
  cases output with
  | subFunc | unsubFunc | onEntry => exact hkey

theorem Gateway.KeysIn.insert (hgateway : gateway.KeysIn allowed)
    {partition : ℤ} {after : Fsm} (hafter : after.KeysIn allowed)
    (hfsms : next.partitionFSMs =
      gateway.partitionFSMs.insert partition after) : next.KeysIn allowed := by
  rw [KeysIn, hfsms]
  exact Finmaps.Everywhere.insert hgateway hafter

/-- If the messages and the records are about allowed keys, one event makes the
platform send control commands about allowed keys only. -/
theorem Handled.keysIn
    (hhandled : Handled platform gateway event next effects)
    (hgateway : gateway.KeysIn allowed)
    (hmessages : ∀ isSub msg key destTopic,
      platform.subUnsubRequest isSub msg = .ok (some (key, destTopic)) →
        allowed key)
    (hrecord : RecordKeyIn allowed platform gateway event) :
    next.KeysIn allowed ∧ ∀ effect ∈ effects, effect.KeyIn allowed := by
  cases hhandled with
  | ignored _ _ hfsms heffects =>
      subst heffects
      refine ⟨?_, by simp⟩
      rw [Gateway.KeysIn, hfsms]
      exact hgateway
  | created partition _ _ _ hfsms heffects =>
      subst heffects
      exact ⟨hgateway.insert keysIn_start hfsms, by simp [Effect.KeyIn]⟩
  | rebalanced rebalanceType partition fsm after out _ hfsm hrespond _ hfsms
      heffects =>
      subst heffects
      have hevent : rebalanceType.fsmEvent.KeyIn allowed fsm.state := by
        cases rebalanceType <;> trivial
      obtain ⟨hafter, hout⟩ :=
        (hgateway partition fsm hfsm).respond hevent hrespond
      exact ⟨hgateway.insert hafter hfsms, keyIn_effects partition hout⟩
  | booked partition msg isSub key destTopic fsm after out _ hrequest _ hfsm
      hrespond _ hfsms heffects =>
      subst heffects
      have hgiven : FsmEvent.KeyIn allowed fsm.state (.subUnsub key isSub) :=
        hmessages isSub msg key destTopic hrequest
      obtain ⟨hafter, hout⟩ :=
        (hgateway partition fsm hfsm).respond hgiven hrespond
      refine ⟨hgateway.insert hafter hfsms, ?_⟩
      rw [List.forall_mem_append]
      exact ⟨keyIn_effects partition hout,
        by simp [Platform.syncDataUpdate, Effect.KeyIn]⟩
  | responded msg isLast dict group partition fsm after out hevent hparse
      hgroup hpartition hfsm hrespond _ hfsms heffects =>
      subst hevent heffects
      have hgiven : FsmEvent.KeyIn allowed fsm.state
          (if isLast then .downloadEnd dict else .subscriptionRecord dict) := by
        cases isLast with
        | true => trivial
        | false =>
            intro hstate key hkey
            exact hrecord dict group partition fsm key hparse hgroup hpartition
              hfsm hstate hkey
      obtain ⟨hafter, hout⟩ :=
        (hgateway partition fsm hfsm).respond hgiven hrespond
      exact ⟨hgateway.insert hafter hfsms, keyIn_effects partition hout⟩

/-- A record that is not about an allowed key is passed on all the same. -/
theorem exists_control_of_record (hsound : gateway.Sound)
    (hrecord : ¬ RecordKeyIn allowed platform gateway event)
    (hhandle : platform.handle gateway event = .ok (next, effects)) :
    ∃ key, ¬ allowed key ∧ effects = [.control key (.subRequest [])] := by
  cases event with
  | rebalance | message => exact absurd trivial hrecord
  | response msg isLast =>
      cases isLast with
      | true => exact absurd trivial hrecord
      | false =>
          simp only [RecordKeyIn] at hrecord
          push Not at hrecord
          obtain ⟨dict, group, partition, ⟨state, deferred⟩, key, hparse,
            hgroup, hpartition, hfsm, hstate, hkey, hother⟩ := hrecord
          obtain rfl : state = .downloading := hstate
          rw [Platform.handle, responseCb_of_partition hparse hgroup hpartition
            hfsm] at hhandle
          obtain ⟨after, out, hrespond, -, -, rfl⟩ :=
            handleEvent_eq_ok (hsound partition _ hfsm) hhandle
          have hcomputed : Fsm.respond ⟨.downloading, deferred⟩
              (.subscriptionRecord dict) =
                .ok (⟨.downloading, deferred⟩, [.subFunc key]) := by
            simp [Fsm.respond, hkey, Except.map]
          obtain ⟨-, rfl⟩ :=
            Prod.mk.inj (Except.ok.inj (hcomputed.symm.trans hrespond))
          exact ⟨key, hother, rfl⟩

/-! ## Runs -/

variable (allowed) in
/-- The commands sent so far and those that are deferred are about allowed
keys. -/
structure Record.KeysIn (record : Record) : Prop where
  hsound : record.gateway.Sound
  hdeferred : record.gateway.KeysIn allowed
  hsent : ∀ effect ∈ record.effects, effect.KeyIn allowed

theorem Record.keysIn_start : Record.KeysIn allowed .start where
  hsound := sound_initial
  hdeferred := Finmaps.everywhere_empty
  hsent := by simp [Record.start]

theorem Record.KeysIn.step {record after : Record}
    (hrecord : record.KeysIn allowed)
    (hmessages : ∀ isSub msg key destTopic,
      platform.subUnsubRequest isSub msg = .ok (some (key, destTopic)) →
        allowed key)
    (hguard : RecordKeyIn allowed platform record.gateway event)
    (hstep : Record.step platform record event = some after) :
    after.KeysIn allowed := by
  obtain ⟨sent, hhandle, -, heffects⟩ := Record.step_eq_some hstep
  have hhandled := handled_of_handle hrecord.hsound hhandle
  obtain ⟨hdeferred, hsent⟩ :=
    hhandled.keysIn hrecord.hdeferred hmessages hguard
  refine ⟨hhandled.sound hrecord.hsound, hdeferred, ?_⟩
  rw [heffects, List.forall_mem_append]
  exact ⟨hrecord.hsent, hsent⟩

theorem Record.KeysIn.not_of_record {record after : Record}
    (hrecord : record.KeysIn allowed)
    (hguard : ¬ RecordKeyIn allowed platform record.gateway event)
    (hstep : Record.step platform record event = some after) :
    ¬ ∀ effect ∈ after.effects, effect.KeyIn allowed := by
  obtain ⟨sent, hhandle, -, heffects⟩ := Record.step_eq_some hstep
  obtain ⟨key, hother, rfl⟩ :=
    exists_control_of_record hrecord.hsound hguard hhandle
  intro hsent
  exact hother (hsent (.control key (.subRequest [])) (by simp [heffects]))

/-- All control commands of a run are about allowed keys exactly when the
records that arrive while their partitions download are, if the messages
are. -/
theorem Record.keysIn_iff (hmessages : ∀ isSub msg key destTopic,
      platform.subUnsubRequest isSub msg = .ok (some (key, destTopic)) →
        allowed key)
    {events : List GatewayEvent} {finish : Record}
    (hrun : Runs.run (Record.step platform) .start events = some finish) :
    Runs.EveryStep (Record.step platform)
        (fun record => RecordKeyIn allowed platform record.gateway) .start
        events ↔
      ∀ initial, initial <+: events → ∀ record,
        Runs.run (Record.step platform) .start initial = some record →
          ∀ effect ∈ record.effects, effect.KeyIn allowed :=
  Runs.everyStep_iff_forall_good (Record.KeysIn allowed)
    (fun record => ∀ effect ∈ record.effects, effect.KeyIn allowed)
    (fun _ hrecord => hrecord.hsent)
    (fun _ _ _ hrecord _ hguard hstep => hrecord.step hmessages hguard hstep)
    (fun _ _ _ hrecord _ hguard hstep => hrecord.not_of_record hguard hstep)
    Record.keysIn_start
    (Runs.everyStep_of_forall _ fun _ _ => trivial) hrun

end MultiMarketPrices.PlatformComm
