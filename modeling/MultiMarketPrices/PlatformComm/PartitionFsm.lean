import MultiMarketPrices.Core.DeferringMachine
import MultiMarketPrices.Core.Json

/-!
# The per-partition state machine

The states and handlers of PerPartitionSM.h and PerPartitionSM.cpp as a
deferring machine.  Whatever engine runs it, a configuration reached from the
start has deferred only sub/unsub keys and revocations, and only while
downloading; for such configurations `handleEvent_eq_respond` says what an
event leads to, redelivery included.
-/

namespace MultiMarketPrices.PlatformComm

inductive FsmState
  | downloading
  | operational
  | revoked
  deriving DecidableEq

inductive FsmEvent
  | subscriptionRecord (dict : Json.Object)
  | downloadEnd (dict : Json.Object)
  | subUnsub (key : String) (subscribe : Bool)
  | revoke
  | assign

/-- What the states do besides changing: the calls of `m_subFunc` and
`m_unsubFunc`, and the entries into a state. -/
inductive FsmOutput
  | subFunc (key : String)
  | unsubFunc (key : String)
  | onEntry (state : FsmState)
  deriving DecidableEq

abbrev FsmReaction := Reaction FsmState FsmOutput Thrown

def Downloading.process : FsmEvent → FsmReaction
  | .subscriptionRecord dict =>
      match dict.cStrAt "key" with
      | .ok subscriptionKey => .stay [.subFunc subscriptionKey]
      | .error thrown => .throw thrown
  | .subUnsub _ _ => .defer
  | .revoke => .defer
  | .downloadEnd _ => .next .operational []
  | .assign => .discard

def Operational.process : FsmEvent → FsmReaction
  | .subUnsub key subscribe =>
      .stay [if subscribe then .subFunc key else .unsubFunc key]
  | .revoke => .next .revoked []
  | _ => .discard

def Revoked.process : FsmEvent → FsmReaction
  | .assign => .next .downloading []
  | _ => .discard

def perPartitionFSM : Machine FsmState FsmEvent FsmOutput Thrown where
  initial := .downloading
  process
    | .downloading => Downloading.process
    | .operational => Operational.process
    | .revoked => Revoked.process
  onEntry state := [.onEntry state]

abbrev Fsm := Machine.Config FsmState FsmEvent

/-! ## Redelivery -/

/-- The events `Downloading` defers. -/
def FsmEvent.Deferrable : FsmEvent → Prop
  | subUnsub _ _ | revoke => True
  | _ => False

/-- The state and the outputs after an operational machine was given deferred
events: the keys go out up to the first revocation. -/
def release : List FsmEvent → FsmState × List FsmOutput
  | [] => (.operational, [])
  | .subUnsub key subscribe :: rest =>
      ((release rest).1,
        (if subscribe then .subFunc key else .unsubFunc key) ::
          (release rest).2)
  | .revoke :: _ => (.revoked, [.onEntry .revoked])
  | _ :: rest => release rest

theorem release_state_of_mem {events : List FsmEvent}
    (hrevoke : FsmEvent.revoke ∈ events) : (release events).1 = .revoked := by
  induction events with
  | nil => simp at hrevoke
  | cons event events ih =>
      cases event with
      | revoke => rfl
      | subscriptionRecord | downloadEnd | subUnsub | assign =>
          exact ih (by simpa using hrevoke)

theorem release_state_of_not_mem {events : List FsmEvent}
    (hrevoke : FsmEvent.revoke ∉ events) :
    (release events).1 = .operational := by
  induction events with
  | nil => rfl
  | cons event events ih =>
      cases event with
      | revoke => simp at hrevoke
      | subscriptionRecord | downloadEnd | subUnsub | assign =>
          exact ih (by simpa using hrevoke)

/-- What a configuration of a run satisfies. -/
structure Fsm.Sound (fsm : Fsm) : Prop where
  hdeferrable : ∀ event ∈ fsm.deferred, FsmEvent.Deferrable event
  hdeferred : fsm.state ≠ .downloading → fsm.deferred = []

/-- The whole effect of one event on a sound configuration. -/
def Fsm.respond (fsm : Fsm) (event : FsmEvent) :
    Except Thrown (Fsm × List FsmOutput) :=
  match fsm.state, event with
  | .downloading, .subscriptionRecord dict =>
      (dict.cStrAt "key").map fun key => (fsm, [.subFunc key])
  | .downloading, .downloadEnd _ =>
      .ok (⟨(release fsm.deferred).1, []⟩,
        .onEntry .operational :: (release fsm.deferred).2)
  | .downloading, .subUnsub _ _ | .downloading, .revoke =>
      .ok ({ fsm with deferred := fsm.deferred ++ [event] }, [])
  | .operational, .subUnsub key subscribe =>
      .ok (fsm, [if subscribe then .subFunc key else .unsubFunc key])
  | .operational, .revoke => .ok (⟨.revoked, []⟩, [.onEntry .revoked])
  | .revoked, .assign => .ok (⟨.downloading, []⟩, [.onEntry .downloading])
  | _, _ => .ok (fsm, [])

/-- A sub/unsub event has an answer in every state. -/
theorem Fsm.respond_subUnsub (fsm : Fsm) (key : String) (isSub : Bool) :
    fsm.respond (.subUnsub key isSub) = .ok
      (match fsm.state with
        | .downloading =>
            ({ fsm with deferred := fsm.deferred ++ [.subUnsub key isSub] },
              [])
        | .operational => (fsm, [if isSub then .subFunc key else .unsubFunc key])
        | .revoked => (fsm, [])) := by
  obtain ⟨state, deferred⟩ := fsm
  cases state <;> rfl

variable (engine : perPartitionFSM.Engine)

theorem deliverAll_revoked {events : List FsmEvent}
    (hdeferrable : ∀ event ∈ events, FsmEvent.Deferrable event) :
    Machine.deliverAll engine.handleEvent ⟨.revoked, []⟩ events =
      .ok (⟨.revoked, []⟩, []) := by
  induction events with
  | nil => rfl
  | cons event events ih =>
      rw [List.forall_mem_cons] at hdeferrable
      have hdiscard : engine.handleEvent ⟨.revoked, []⟩ event =
          .ok (⟨.revoked, []⟩, []) := by
        apply engine.discards
        cases event with
        | assign => exact absurd hdeferrable.1 id
        | subscriptionRecord | downloadEnd | subUnsub | revoke => rfl
      rw [Machine.deliverAll, hdiscard]
      simp [Except.bind, Except.map, ih hdeferrable.2]

theorem deliverAll_operational {events : List FsmEvent}
    (hdeferrable : ∀ event ∈ events, FsmEvent.Deferrable event) :
    Machine.deliverAll engine.handleEvent ⟨.operational, []⟩ events =
      .ok (⟨(release events).1, []⟩, (release events).2) := by
  induction events with
  | nil => rfl
  | cons event events ih =>
      rw [List.forall_mem_cons] at hdeferrable
      cases event with
      | subUnsub key subscribe =>
          have hstay := engine.stays ⟨.operational, []⟩
            (.subUnsub key subscribe) _ rfl
          rw [Machine.deliverAll, hstay]
          simp [Except.bind, Except.map, ih hdeferrable.2, release]
      | revoke =>
          have hnext := engine.changes ⟨.operational, []⟩ .revoke _ _ rfl
          rw [Machine.deliverAll, hnext]
          simp [Except.bind, Except.map, Machine.deliverAll, release,
            perPartitionFSM, deliverAll_revoked engine hdeferrable.2]
      | subscriptionRecord | downloadEnd | assign =>
          exact absurd hdeferrable.1 id

/-- Every engine answers a sound configuration as `respond` says. -/
theorem handleEvent_eq_respond {fsm : Fsm} (hsound : fsm.Sound)
    (event : FsmEvent) :
    engine.handleEvent fsm event = fsm.respond event := by
  obtain ⟨state, deferred⟩ := fsm
  cases state with
  | downloading =>
      cases event with
      | subscriptionRecord dict =>
          cases hkey : dict.cStrAt "key" with
          | ok key =>
              rw [engine.stays _ _ [.subFunc key] (by
                simp [perPartitionFSM, Downloading.process, hkey])]
              simp [Fsm.respond, hkey, Except.map]
          | error thrown =>
              rw [engine.throws _ _ thrown (by
                simp [perPartitionFSM, Downloading.process, hkey])]
              simp [Fsm.respond, hkey, Except.map]
      | downloadEnd dict =>
          rw [engine.changes _ _ _ _ rfl]
          rw [deliverAll_operational engine hsound.hdeferrable]
          rfl
      | subUnsub key subscribe => exact engine.defers _ _ rfl
      | revoke => exact engine.defers _ _ rfl
      | assign => exact engine.discards _ _ rfl
  | operational =>
      obtain rfl : deferred = [] := hsound.hdeferred (by simp)
      cases event with
      | subUnsub key subscribe => exact engine.stays _ _ _ rfl
      | revoke =>
          rw [engine.changes ⟨.operational, []⟩ .revoke _ _ rfl]
          rfl
      | subscriptionRecord | downloadEnd | assign =>
          exact engine.discards _ _ rfl
  | revoked =>
      obtain rfl : deferred = [] := hsound.hdeferred (by simp)
      cases event with
      | assign =>
          rw [engine.changes ⟨.revoked, []⟩ .assign _ _ rfl]
          rfl
      | subscriptionRecord | downloadEnd | subUnsub | revoke =>
          exact engine.discards _ _ rfl

theorem sound_start : Fsm.Sound perPartitionFSM.start.1 where
  hdeferrable := by simp [Machine.start]
  hdeferred _ := rfl

/-- The ways in which an event takes a machine to `next`, with its outputs. -/
inductive Responded (fsm : Fsm) (event : FsmEvent) (next : Fsm)
    (out : List FsmOutput) : Prop
  | recorded (dict : Json.Object) (key : String)
      (hstate : fsm.state = .downloading)
      (hevent : event = .subscriptionRecord dict)
      (hkey : dict.cStrAt "key" = .ok key) (hnext : next = fsm)
      (hout : out = [.subFunc key])
  | ended (dict : Json.Object) (hstate : fsm.state = .downloading)
      (hevent : event = .downloadEnd dict)
      (hnext : next = ⟨(release fsm.deferred).1, []⟩)
      (hout : out = .onEntry .operational :: (release fsm.deferred).2)
  | deferred (hstate : fsm.state = .downloading) (hevent : event.Deferrable)
      (hnext : next = { fsm with deferred := fsm.deferred ++ [event] })
      (hout : out = [])
  | commanded (key : String) (subscribe : Bool)
      (hstate : fsm.state = .operational)
      (hevent : event = .subUnsub key subscribe) (hnext : next = fsm)
      (hout : out = [if subscribe then .subFunc key else .unsubFunc key])
  | revoked (hstate : fsm.state = .operational) (hevent : event = .revoke)
      (hnext : next = ⟨.revoked, []⟩) (hout : out = [.onEntry .revoked])
  | assigned (hstate : fsm.state = .revoked) (hevent : event = .assign)
      (hnext : next = ⟨.downloading, []⟩) (hout : out = [.onEntry .downloading])
  | discarded (hnext : next = fsm) (hout : out = [])

variable {fsm next : Fsm} {event : FsmEvent} {out : List FsmOutput}

theorem responded_of_respond
    (hrespond : fsm.respond event = .ok (next, out)) :
    Responded fsm event next out := by
  obtain ⟨state, deferred⟩ := fsm
  cases state with
  | downloading =>
      cases event with
      | subscriptionRecord dict =>
          obtain ⟨key, hkey, heq⟩ := map_eq_ok.mp hrespond
          obtain ⟨rfl, rfl⟩ := Prod.mk.inj heq
          exact .recorded dict key rfl rfl hkey rfl rfl
      | downloadEnd dict =>
          obtain ⟨rfl, rfl⟩ := Prod.mk.inj (Except.ok.inj hrespond)
          exact .ended dict rfl rfl rfl rfl
      | subUnsub | revoke =>
          obtain ⟨rfl, rfl⟩ := Prod.mk.inj (Except.ok.inj hrespond)
          exact .deferred rfl trivial rfl rfl
      | assign =>
          obtain ⟨rfl, rfl⟩ := Prod.mk.inj (Except.ok.inj hrespond)
          exact .discarded rfl rfl
  | operational =>
      cases event with
      | subUnsub key subscribe =>
          obtain ⟨rfl, rfl⟩ := Prod.mk.inj (Except.ok.inj hrespond)
          exact .commanded key subscribe rfl rfl rfl rfl
      | revoke =>
          obtain ⟨rfl, rfl⟩ := Prod.mk.inj (Except.ok.inj hrespond)
          exact .revoked rfl rfl rfl rfl
      | subscriptionRecord | downloadEnd | assign =>
          obtain ⟨rfl, rfl⟩ := Prod.mk.inj (Except.ok.inj hrespond)
          exact .discarded rfl rfl
  | revoked =>
      cases event with
      | assign =>
          obtain ⟨rfl, rfl⟩ := Prod.mk.inj (Except.ok.inj hrespond)
          exact .assigned rfl rfl rfl rfl
      | subscriptionRecord | downloadEnd | subUnsub | revoke =>
          obtain ⟨rfl, rfl⟩ := Prod.mk.inj (Except.ok.inj hrespond)
          exact .discarded rfl rfl

theorem Fsm.Sound.respond (hsound : fsm.Sound)
    (hrespond : fsm.respond event = .ok (next, out)) : next.Sound := by
  cases responded_of_respond hrespond with
  | recorded _ _ _ _ _ hnext => exact hnext ▸ hsound
  | ended _ _ _ hnext => exact hnext ▸ ⟨by simp, fun _ => rfl⟩
  | deferred hstate hevent hnext =>
      subst hnext
      refine ⟨?_, fun hother => absurd hstate hother⟩
      rw [List.forall_mem_append]
      exact ⟨hsound.hdeferrable, by simpa using hevent⟩
  | commanded _ _ _ _ hnext => exact hnext ▸ hsound
  | revoked _ _ hnext => exact hnext ▸ ⟨by simp, fun _ => rfl⟩
  | assigned _ _ hnext => exact hnext ▸ ⟨by simp, fun _ => rfl⟩
  | discarded hnext => exact hnext ▸ hsound

end MultiMarketPrices.PlatformComm
