import MultiMarketPrices.Core.Outputs
import MultiMarketPrices.PlatformComm.Gateway

/-!
# What the machines pass on

Whether a message or a record reaches the exchange is decided by the state of
its partition's machine when it comes: an operational machine passes it on, a
downloading one passes records on and keeps messages for the end of its
download, unless a revocation was deferred before them, and a revoked one drops
everything.
-/

namespace MultiMarketPrices.PlatformComm

/-- The deferred keys that come before the first revocation, each with whether
it is to be subscribed. -/
def untilRevoked : List FsmEvent → List (String × Bool)
  | [] => []
  | .subUnsub key isSub :: events => (key, isSub) :: untilRevoked events
  | .revoke :: _ => []
  | _ :: events => untilRevoked events

/-- The keys that a machine passes on when it is given an event. -/
def Fsm.passesOn (fsm : Fsm) (event : FsmEvent) : List (String × Bool) :=
  match fsm.state, event with
  | .operational, .subUnsub key isSub => [(key, isSub)]
  | .downloading, .subscriptionRecord dict =>
      match dict.cStrAt "key" with
      | .ok key => [(key, true)]
      | .error _ => []
  | .downloading, .downloadEnd _ => untilRevoked fsm.deferred
  | _, _ => []

namespace Platform

variable (platform : Platform)

/-- The machine event that a message or a response amounts to, with its
partition.  A message that the book refuses is none. -/
def machineEvent (gateway : Gateway) : GatewayEvent → Option (ℤ × FsmEvent)
  | .rebalance _ _ => none
  | .message partition msgType msg =>
      if msgType = "subscribe" ∨ msgType = "unsubscribe" then
        let isSub := decide (msgType = "subscribe")
        match platform.subUnsubRequest isSub msg with
        | .ok (some (key, destTopic)) =>
            if (gateway.book.handleBookKeeping key destTopic isSub).1 then
              some (partition, .subUnsub key isSub)
            else none
        | _ => none
      else none
  | .response msg isLast =>
      match platform.responseObject msg with
      | .error _ => none
      | .ok dict =>
          match dict.cStrAt "group" with
          | .error _ => none
          | .ok group => (groupPartition group).map fun partition =>
              (partition,
                if isLast then .downloadEnd dict else .subscriptionRecord dict)

/-- The keys that an event makes a machine pass on, in the state in which the
event is handled. -/
def passedOn (gateway : Gateway) (event : GatewayEvent) :
    List (String × Bool) :=
  match platform.machineEvent gateway event with
  | none => []
  | some (partition, given) =>
      match gateway.partitionFSMs.lookup partition with
      | none => []
      | some fsm => fsm.passesOn given

/-- The keys that the machines pass on while events are handled, in order. -/
def passedOnBy (events : List GatewayEvent) : List (String × Bool) :=
  Runs.outputs (Record.step platform)
    (fun record => platform.passedOn record.gateway) .start events

end Platform

/-- The key of a control command, and whether it subscribes. -/
def Effect.command : Effect → Option (String × Bool)
  | .control key (.subRequest _) => some (key, true)
  | .control key (.unsubRequest _) => some (key, false)
  | _ => none

/-! ## The commands are what is passed on -/

variable {platform : Platform} {gateway next : Gateway} {partition : ℤ}
  {fsm after : Fsm} {given : FsmEvent} {out : List FsmOutput}
  {effects : List Effect}

theorem command_release (partition : ℤ) (events : List FsmEvent) :
    ((release events).2.map (FsmOutput.effect partition)).filterMap
      Effect.command = untilRevoked events := by
  induction events with
  | nil => rfl
  | cons event events ih =>
      cases event with
      | subUnsub key isSub =>
          cases isSub <;>
            simpa [release, untilRevoked, FsmOutput.effect, Effect.command]
              using ih
      | revoke => rfl
      | subscriptionRecord | downloadEnd | assign => exact ih

theorem command_respond (partition : ℤ)
    (hrespond : fsm.respond given = .ok (after, out)) :
    (out.map (FsmOutput.effect partition)).filterMap Effect.command =
      fsm.passesOn given := by
  obtain ⟨state, deferred⟩ := fsm
  cases state with
  | downloading =>
      cases given with
      | subscriptionRecord dict =>
          obtain ⟨key, hkey, heq⟩ := map_eq_ok.mp hrespond
          obtain ⟨-, rfl⟩ := Prod.mk.inj heq
          simp [Fsm.passesOn, hkey, FsmOutput.effect, Effect.command]
      | downloadEnd dict =>
          obtain ⟨-, rfl⟩ := Prod.mk.inj (Except.ok.inj hrespond)
          exact command_release partition deferred
      | subUnsub | revoke | assign =>
          obtain ⟨-, rfl⟩ := Prod.mk.inj (Except.ok.inj hrespond)
          rfl
  | operational =>
      cases given with
      | subUnsub key isSub =>
          obtain ⟨-, rfl⟩ := Prod.mk.inj (Except.ok.inj hrespond)
          cases isSub <;> rfl
      | subscriptionRecord | downloadEnd | revoke | assign =>
          obtain ⟨-, rfl⟩ := Prod.mk.inj (Except.ok.inj hrespond)
          rfl
  | revoked =>
      cases given <;>
        obtain ⟨-, rfl⟩ := Prod.mk.inj (Except.ok.inj hrespond) <;> rfl

/-- The machine of a partition is given an event. -/
theorem command_handleEvent (hsound : fsm.Sound)
    (hhandle : platform.handleEvent partition fsm given gateway =
      .ok (next, effects)) :
    effects.filterMap Effect.command = fsm.passesOn given := by
  obtain ⟨after, out, hrespond, -, -, rfl⟩ := handleEvent_eq_ok hsound hhandle
  exact command_respond partition hrespond

theorem command_rebalance {rebalanceType : TopicAssignmentEvent}
    (hsound : gateway.Sound)
    (hhandle : platform.rebalanceCallback rebalanceType partition gateway =
      .ok (next, effects)) : effects.filterMap Effect.command = [] := by
  cases hfsm : gateway.partitionFSMs.lookup partition with
  | none =>
      cases rebalanceType <;>
        simp only [Platform.rebalanceCallback, hfsm] at hhandle <;>
        obtain ⟨-, rfl⟩ := Prod.mk.inj (Except.ok.inj hhandle) <;> rfl
  | some fsm =>
      have hquiet : fsm.passesOn rebalanceType.fsmEvent = [] := by
        obtain ⟨state, deferred⟩ := fsm
        cases state <;> cases rebalanceType <;> rfl
      cases rebalanceType <;>
        simp only [Platform.rebalanceCallback, hfsm] at hhandle <;>
        exact (command_handleEvent (hsound partition fsm hfsm) hhandle).trans
          hquiet

/-- A message is for the machine of its own partition. -/
theorem machineEvent_message {msgType msg : String} {other : ℤ}
    (hgiven : platform.machineEvent gateway (.message partition msgType msg) =
      some (other, given)) : other = partition := by
  simp only [Platform.machineEvent] at hgiven
  split at hgiven
  · split at hgiven
    · split at hgiven
      · exact (Prod.mk.inj (Option.some.inj hgiven)).1.symm
      · cases hgiven
    · cases hgiven
  · cases hgiven

theorem passedOn_message_of_none {msgType msg : String}
    (hfsm : gateway.partitionFSMs.lookup partition = none) :
    platform.passedOn gateway (.message partition msgType msg) = [] := by
  rw [Platform.passedOn]
  split
  · rfl
  · next other given hgiven =>
      obtain rfl := machineEvent_message hgiven
      rw [hfsm]

theorem command_message {msgType msg : String} (hsound : gateway.Sound)
    (hhandle : platform.msgCb partition msgType msg gateway =
      .ok (next, effects)) :
    effects.filterMap Effect.command =
      platform.passedOn gateway (.message partition msgType msg) := by
  rw [Platform.msgCb] at hhandle
  split at hhandle
  · next htype =>
      cases hfsm : gateway.partitionFSMs.lookup partition with
      | none =>
          simp only [hfsm] at hhandle
          obtain ⟨-, rfl⟩ := Prod.mk.inj (Except.ok.inj hhandle)
          exact (passedOn_message_of_none hfsm).symm
      | some fsm =>
          simp only [hfsm] at hhandle
          obtain ⟨request, hrequest, hhandle⟩ := bind_eq_ok.mp hhandle
          rw [Platform.passedOn, Platform.machineEvent, if_pos htype]
          cases request with
          | none =>
              obtain ⟨-, rfl⟩ := Prod.mk.inj (Except.ok.inj hhandle)
              simp [hrequest]
          | some pair =>
              obtain ⟨key, destTopic⟩ := pair
              simp only [hrequest] at hhandle ⊢
              split at hhandle
              · next haccepted =>
                  obtain ⟨answer, hanswer, heq⟩ := map_eq_ok.mp hhandle
                  obtain ⟨-, rfl⟩ := Prod.mk.inj heq
                  have hcommand := command_handleEvent
                    (hsound partition fsm hfsm) hanswer
                  rw [List.filterMap_append, hcommand]
                  simp [haccepted, hfsm, Platform.syncDataUpdate,
                    Effect.command]
              · next hrefused =>
                  obtain ⟨-, rfl⟩ := Prod.mk.inj (Except.ok.inj hhandle)
                  simp [hrefused]
  · next htype =>
      obtain ⟨-, rfl⟩ := Prod.mk.inj (Except.ok.inj hhandle)
      rw [Platform.passedOn, Platform.machineEvent, if_neg htype]
      rfl

theorem command_response {msg : String} {isLast : Bool}
    (hsound : gateway.Sound)
    (hhandle : platform.responseCb msg isLast gateway = .ok (next, effects)) :
    effects.filterMap Effect.command =
      platform.passedOn gateway (.response msg isLast) := by
  obtain ⟨dict, hparse, hhandle⟩ := bind_eq_ok.mp hhandle
  obtain ⟨group, hgroup, hhandle⟩ := bind_eq_ok.mp hhandle
  rw [Platform.passedOn, Platform.machineEvent]
  simp only [hparse, hgroup]
  cases hpartition : Platform.groupPartition group with
  | none =>
      simp only [hpartition] at hhandle
      obtain ⟨-, rfl⟩ := Prod.mk.inj (Except.ok.inj hhandle)
      rfl
  | some partition =>
      simp only [hpartition] at hhandle
      simp only [Option.map_some]
      cases hfsm : gateway.partitionFSMs.lookup partition with
      | none =>
          simp only [hfsm] at hhandle
          obtain ⟨-, rfl⟩ := Prod.mk.inj (Except.ok.inj hhandle)
          rfl
      | some fsm =>
          simp only [hfsm] at hhandle
          exact command_handleEvent (hsound partition fsm hfsm) hhandle

/-- The commands that an event sends are what it makes a machine pass on. -/
theorem command_handle {event : GatewayEvent} (hsound : gateway.Sound)
    (hhandle : platform.handle gateway event = .ok (next, effects)) :
    effects.filterMap Effect.command = platform.passedOn gateway event := by
  cases event with
  | rebalance rebalanceType partition => exact command_rebalance hsound hhandle
  | message partition msgType msg => exact command_message hsound hhandle
  | response msg isLast => exact command_response hsound hhandle

/-- Along a run, the commands sent are what the machines passed on. -/
theorem command_of_run {record : Record} {events : List GatewayEvent}
    (hrun : Runs.run (Record.step platform) .start events = some record) :
    record.effects.filterMap Effect.command = platform.passedOnBy events := by
  induction events using List.reverseRecOn generalizing record with
  | nil =>
      obtain rfl : Record.start = record := by simpa using hrun
      rfl
  | append_singleton events event ih =>
      obtain ⟨middle, hmiddle, hstep⟩ := Runs.run_concat_eq_some.mp hrun
      obtain ⟨sent, hhandle, -, heffects⟩ := Record.step_eq_some hstep
      have hsound := Record.sound_of_run sound_initial hmiddle
      rw [heffects, List.filterMap_append, ih hmiddle,
        command_handle hsound hhandle, Platform.passedOnBy,
        Platform.passedOnBy, Runs.outputs_concat hmiddle hstep]

end MultiMarketPrices.PlatformComm
