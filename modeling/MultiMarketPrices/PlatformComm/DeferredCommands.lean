import MultiMarketPrices.PlatformComm.PartitionFsm

/-!
# What a partition's machine calls

Until it is revoked, a machine calls its functions for the records that arrive
while it downloads, and then, once the download has ended, for every command
that it was given, the deferred ones first.
-/

namespace MultiMarketPrices.PlatformComm

/-- The events that a machine gets besides the changes of the assignment. -/
def FsmEvent.IsDelivery : FsmEvent → Prop
  | subscriptionRecord _ | downloadEnd _ | subUnsub _ _ => True
  | revoke | assign => False

def FsmEvent.IsCommand : FsmEvent → Prop
  | subUnsub _ _ => True
  | _ => False

def FsmEvent.endsDownload : FsmEvent → Bool
  | downloadEnd _ => true
  | _ => false

def FsmOutput.isCall : FsmOutput → Bool
  | subFunc _ | unsubFunc _ => true
  | onEntry _ => false

/-- The calls for the records that arrive before the download ends.  A record
without a key makes the handler throw. -/
def recordCalls : List FsmEvent → Except Thrown (List FsmOutput)
  | [] => .ok []
  | .subscriptionRecord dict :: events =>
      (dict.cStrAt "key").bind fun key =>
        (recordCalls events).map fun calls => .subFunc key :: calls
  | .downloadEnd _ :: _ => .ok []
  | _ :: events => recordCalls events

/-- The calls for the commands. -/
def commandCalls : List FsmEvent → List FsmOutput
  | [] => []
  | .subUnsub key subscribe :: events =>
      (if subscribe then .subFunc key else .unsubFunc key) ::
        commandCalls events
  | _ :: events => commandCalls events

/-- The calls for a sequence of events, records first. -/
def expectedCalls (events : List FsmEvent) :
    Except Thrown (List FsmOutput) :=
  (recordCalls events).map fun calls =>
    calls ++ if events.any FsmEvent.endsDownload then commandCalls events
      else []

theorem commandCalls_append (first second : List FsmEvent) :
    commandCalls (first ++ second) =
      commandCalls first ++ commandCalls second := by
  induction first with
  | nil => rfl
  | cons event events ih =>
      cases event with
      | subUnsub key subscribe => simp [commandCalls, ih]
      | subscriptionRecord | downloadEnd | revoke | assign => exact ih

theorem isCall_of_mem_commandCalls {events : List FsmEvent}
    {output : FsmOutput} (hmem : output ∈ commandCalls events) :
    output.isCall = true := by
  induction events with
  | nil => simp [commandCalls] at hmem
  | cons event events ih =>
      cases event with
      | subUnsub key subscribe =>
          rcases List.mem_cons.mp hmem with rfl | hrest
          · cases subscribe <;> rfl
          · exact ih hrest
      | subscriptionRecord | downloadEnd | revoke | assign => exact ih hmem

theorem filter_commandCalls (events : List FsmEvent) :
    (commandCalls events).filter FsmOutput.isCall = commandCalls events :=
  List.filter_eq_self.mpr fun _ hmem => isCall_of_mem_commandCalls hmem

theorem release_commands {deferred : List FsmEvent}
    (hcommands : ∀ event ∈ deferred, FsmEvent.IsCommand event) :
    release deferred = (.operational, commandCalls deferred) := by
  induction deferred with
  | nil => rfl
  | cons event events ih =>
      rw [List.forall_mem_cons] at hcommands
      cases event with
      | subUnsub key subscribe => simp [release, commandCalls, ih hcommands.2]
      | subscriptionRecord | downloadEnd | revoke | assign =>
          exact absurd hcommands.1 id

theorem sound_downloading {deferred : List FsmEvent}
    (hcommands : ∀ event ∈ deferred, FsmEvent.IsCommand event) :
    Fsm.Sound ⟨.downloading, deferred⟩ where
  hdeferrable event hmem := by
    cases event with
    | subUnsub | revoke => trivial
    | subscriptionRecord | downloadEnd | assign =>
        exact absurd (hcommands _ hmem) id
  hdeferred hstate := absurd rfl hstate

theorem sound_operational : Fsm.Sound ⟨.operational, []⟩ where
  hdeferrable := by simp
  hdeferred _ := rfl

variable (engine : perPartitionFSM.Engine)

/-- After the download every command is called for at once. -/
theorem deliverAll_after_download {events : List FsmEvent}
    (hdeliveries : ∀ event ∈ events, FsmEvent.IsDelivery event) :
    Machine.deliverAll engine.handleEvent ⟨.operational, []⟩ events =
      .ok (⟨.operational, []⟩, commandCalls events) := by
  induction events with
  | nil => rfl
  | cons event events ih =>
      rw [List.forall_mem_cons] at hdeliveries
      rw [Machine.deliverAll, handleEvent_eq_respond engine sound_operational]
      cases event with
      | subUnsub key subscribe =>
          simp [Fsm.respond, Except.bind, Except.map, ih hdeliveries.2,
            commandCalls]
      | subscriptionRecord | downloadEnd =>
          simp [Fsm.respond, Except.bind, Except.map, ih hdeliveries.2,
            commandCalls]
      | revoke | assign => exact absurd hdeliveries.1 id

/-- The calls for the first event come before those for the rest. -/
theorem calls_cons {fsm next : Fsm} {event : FsmEvent} {out : List FsmOutput}
    (hanswer : engine.handleEvent fsm event = .ok (next, out))
    (events : List FsmEvent) :
    (Machine.deliverAll engine.handleEvent fsm (event :: events)).map
        (fun answer => answer.2.filter FsmOutput.isCall) =
      ((Machine.deliverAll engine.handleEvent next events).map
        fun answer => answer.2.filter FsmOutput.isCall).map
          (out.filter FsmOutput.isCall ++ ·) := by
  rw [Machine.deliverAll, hanswer]
  cases hrest : Machine.deliverAll engine.handleEvent next events with
  | error thrown => simp [Except.bind, Except.map, hrest]
  | ok answer => simp [Except.bind, Except.map, hrest]

/-- While it downloads, the machine has deferred the commands so far. -/
theorem deliverAll_downloading {deferred events : List FsmEvent}
    (hcommands : ∀ event ∈ deferred, FsmEvent.IsCommand event)
    (hdeliveries : ∀ event ∈ events, FsmEvent.IsDelivery event) :
    (Machine.deliverAll engine.handleEvent ⟨.downloading, deferred⟩ events).map
        (fun answer => answer.2.filter FsmOutput.isCall) =
      (recordCalls events).map fun calls => calls ++
        if events.any FsmEvent.endsDownload then
          commandCalls (deferred ++ events)
        else [] := by
  induction events generalizing deferred with
  | nil => rfl
  | cons event events ih =>
      rw [List.forall_mem_cons] at hdeliveries
      have hrespond := handleEvent_eq_respond engine
        (sound_downloading hcommands) event
      cases event with
      | subscriptionRecord dict =>
          have hsame : commandCalls
              (deferred ++ .subscriptionRecord dict :: events) =
                commandCalls (deferred ++ events) := by
            rw [commandCalls_append, commandCalls_append]
            rfl
          simp only [recordCalls, hsame, List.any_cons, FsmEvent.endsDownload,
            Bool.false_or]
          cases hkey : dict.cStrAt "key" with
          | error thrown =>
              simp only [Fsm.respond, hkey, Except.map] at hrespond
              rw [Machine.deliverAll, hrespond]
              rfl
          | ok key =>
              simp only [Fsm.respond, hkey, Except.map] at hrespond
              rw [calls_cons engine hrespond, ih hcommands hdeliveries.2]
              cases recordCalls events <;> rfl
      | downloadEnd dict =>
          have hafter := deliverAll_after_download engine hdeliveries.2
          have hcalls : commandCalls (deferred ++ .downloadEnd dict :: events) =
              commandCalls deferred ++ commandCalls events :=
            commandCalls_append _ _
          simp only [Fsm.respond, release_commands hcommands] at hrespond
          rw [calls_cons engine hrespond, hafter]
          simp [Except.map, recordCalls, FsmEvent.endsDownload, hcalls,
            FsmOutput.isCall, filter_commandCalls]
      | subUnsub key subscribe =>
          have hmore : ∀ event ∈ deferred ++ [.subUnsub key subscribe],
              FsmEvent.IsCommand event := by
            rw [List.forall_mem_append]
            exact ⟨hcommands, by simp [FsmEvent.IsCommand]⟩
          rw [calls_cons engine hrespond, ih hmore hdeliveries.2,
            List.append_assoc, List.singleton_append]
          simp only [recordCalls, List.any_cons, FsmEvent.endsDownload,
            Bool.false_or]
          cases recordCalls events <;> rfl
      | revoke | assign => exact absurd hdeliveries.1 id

/-- Until the first revocation a fresh machine calls its functions for the
records before the end of the download, in order, and from then on for all the
commands, in order; it throws at the first of these records that has no key. -/
theorem calls_eq_expectedCalls (events : List FsmEvent)
    (hdeliveries : ∀ event ∈ events, FsmEvent.IsDelivery event) :
    (Machine.deliverAll engine.handleEvent perPartitionFSM.start.1 events).map
        (fun answer => answer.2.filter FsmOutput.isCall) =
      expectedCalls events :=
  deliverAll_downloading engine (by simp) hdeliveries

/-- A download with a command before and after its end. -/
def downloadWithCommands : List FsmEvent :=
  [.subUnsub "BTC:trade" true,
    .subscriptionRecord [("key", .string "ETH:trade")], .downloadEnd [],
    .subscriptionRecord [("key", .string "XRP:trade")],
    .subUnsub "BTC:trade" false]

theorem calls_eq_expectedCalls_of_download :
    expectedCalls downloadWithCommands =
        .ok [.subFunc "ETH:trade", .subFunc "BTC:trade",
          .unsubFunc "BTC:trade"] ∧
      (Machine.deliverAll perPartitionFSM.reference.handleEvent
          perPartitionFSM.start.1 downloadWithCommands).map
          (fun answer => answer.2.filter FsmOutput.isCall) =
        expectedCalls downloadWithCommands :=
  ⟨rfl, calls_eq_expectedCalls perPartitionFSM.reference downloadWithCommands
    (by simp [downloadWithCommands, FsmEvent.IsDelivery])⟩

/-- A record without a key is not called for. -/
theorem record_without_key :
    Machine.deliverAll perPartitionFSM.reference.handleEvent
        perPartitionFSM.start.1
        [.subscriptionRecord [("group", .string "group:in:0")]] =
      .error .missing ∧
    ¬ ∃ config out key,
      Machine.deliverAll perPartitionFSM.reference.handleEvent
          perPartitionFSM.start.1
          [.subscriptionRecord [("group", .string "group:in:0")]] =
        .ok (config, out) ∧
      out.filter FsmOutput.isCall = [.subFunc key] := by
  refine ⟨rfl, ?_⟩
  rintro ⟨config, out, key, hdelivered, -⟩
  cases hdelivered

end MultiMarketPrices.PlatformComm
