import MultiMarketPrices.Binance.Keys
import MultiMarketPrices.WebSockets.Link

/-!
# The gateway and the session together

The control commands that the partitions' machines send become calls on the
session, which are posted to its strand and run in order.  One step of the
whole is a callback of the platform side, the run of the oldest posted call, or
an event of the session's link.
-/

namespace MultiMarketPrices.Binance

open PlatformComm WebSockets

/-- The platform side with the functions that `onGatewayConnected` passes. -/
def onBinance (platform : Platform) : Platform :=
  { platform with
    gKeyGenFunc := keyGenFunc
    gKeyDisintegrationFunc := keyDisintegrationFunc }

/-- Both kinds of message are read alike. -/
theorem subUnsubRequest_onBinance (platform : Platform) (isSub : Bool)
    (msg : String) :
    (onBinance platform).subUnsubRequest isSub msg =
      (platform.parse msg).bind fun value => value.asObject.bind fun obj =>
        match generateKeyFromSubUnsubRequest obj with
        | none => .ok none
        | some routingKey => (obj.cStrAt "destination_topic").map
            fun destTopic => some (routingKey, destTopic) := by
  cases isSub <;> rfl

/-- What a message that is taken parses to. -/
theorem request_eq_some_iff {platform : Platform} {isSub : Bool}
    {msg key destTopic : String} :
    (onBinance platform).subUnsubRequest isSub msg =
        .ok (some (key, destTopic)) ↔
      ∃ obj : Json.Object, platform.parse msg = .ok (.object obj) ∧
        generateKeyFromSubUnsubRequest obj = some key ∧
        obj.cStrAt "destination_topic" = .ok destTopic := by
  rw [subUnsubRequest_onBinance, bind_eq_ok]
  constructor
  · rintro ⟨value, hparse, hobject⟩
    obtain ⟨obj, hobj, hkeyed⟩ := bind_eq_ok.mp hobject
    obtain rfl := Json.asObject_eq_ok.mp hobj
    cases hkey : generateKeyFromSubUnsubRequest obj with
    | none => simp [hkey] at hkeyed
    | some routingKey =>
        simp only [hkey] at hkeyed
        obtain ⟨topic, htopic, heq⟩ := map_eq_ok.mp hkeyed
        obtain ⟨rfl, rfl⟩ := Prod.mk.inj (Option.some.inj heq)
        exact ⟨obj, hparse, hkey, htopic⟩
  · rintro ⟨obj, hparse, hkey, htopic⟩
    refine ⟨.object obj, hparse, bind_eq_ok.mpr ⟨obj, rfl, ?_⟩⟩
    simp only [hkey, htopic, Except.map]

/-- The key of a message is generated from the object it parses to. -/
theorem generateKey_of_request {platform : Platform} {isSub : Bool}
    {msg key destTopic : String}
    (hrequest : (onBinance platform).subUnsubRequest isSub msg =
      .ok (some (key, destTopic))) :
    ∃ obj, generateKeyFromSubUnsubRequest obj = some key := by
  obtain ⟨obj, -, hkey, -⟩ := request_eq_some_iff.mp hrequest
  exact ⟨obj, hkey⟩

/-- The handler of `consumeAllControl`: the call for an effect, if it is a
control command. -/
def controlCall : Effect → Except Thrown (Option Call)
  | .control key (.subRequest _) => subscribe key
  | .control key (.unsubRequest _) => unsubscribe key
  | _ => .ok none

/-- The calls that a handler's effects post to the strand. -/
def controlCalls : List Effect → Except Thrown (List Call)
  | [] => .ok []
  | effect :: effects =>
      (controlCall effect).bind fun call =>
        (controlCalls effects).map fun calls => call.toList ++ calls

/-- A report on the sync-data topic is no call. -/
theorem controlCalls_reported (effect : Effect) (platform : Platform)
    (partition : ℤ) (key destTopic : String) (isSub : Bool) :
    controlCalls [effect,
        platform.syncDataUpdate partition key destTopic isSub] =
      (controlCall effect).map Option.toList := by
  have hreport : controlCall
      (platform.syncDataUpdate partition key destTopic isSub) = .ok none := rfl
  cases hcall : controlCall effect <;>
    simp [controlCalls, hcall, hreport, Except.bind, Except.map]

/-- The call for the command of a key is about its stream. -/
theorem controlCall_keyOf {symbol : String} (hcolon : ':' ∉ symbol.toList)
    (priceType : PriceType) (isSub : Bool) :
    ∃ call,
      controlCall (.control (keyOf symbol priceType)
        (if isSub then .subRequest [] else .unsubRequest [])) =
          .ok (some call) ∧
      call.method = (if isSub then .subscribe else .unsubscribe) ∧
      call.stream = streamOf symbol priceType := by
  cases isSub with
  | true => exact subscribe_keyOf hcolon priceType
  | false => exact unsubscribe_keyOf hcolon priceType

/-- The calls among the effects, passing over commands that cannot be read. -/
def forwarded (effects : List Effect) : List Call :=
  effects.flatMap fun effect =>
    match controlCall effect with
    | .ok call => call.toList
    | .error _ => []

theorem forwarded_append (first second : List Effect) :
    forwarded (first ++ second) = forwarded first ++ forwarded second :=
  List.flatMap_append

theorem controlCalls_eq_forwarded {effects : List Effect} {calls : List Call}
    (hcalls : controlCalls effects = .ok calls) : calls = forwarded effects := by
  induction effects generalizing calls with
  | nil => exact (Except.ok.inj hcalls).symm
  | cons effect effects ih =>
      obtain ⟨call, hcall, hcalls⟩ := bind_eq_ok.mp hcalls
      obtain ⟨rest, hrest, rfl⟩ := map_eq_ok.mp hcalls
      have heffect : forwarded (effect :: effects) =
          call.toList ++ forwarded effects := by
        simp [forwarded, hcall]
      rw [ih hrest, heffect]

structure System where
  record : Record
  /-- calls posted to the strand that have not run, oldest first -/
  posted : List Call
  link : Link

inductive SystemEvent
  | gateway (event : GatewayEvent)
  | runPosted
  | session (event : LinkEvent)

namespace System

def start (msgNo : ℤ) : System := ⟨.start, [], .start msgNo⟩

def step (platform : Platform) (system : System) :
    SystemEvent → Option System
  | .gateway event =>
      match (onBinance platform).handle system.record.gateway event with
      | .ok (next, sent) =>
          match controlCalls sent with
          | .ok calls => some
              { system with
                record := ⟨next, system.record.handled ++ [event],
                  system.record.effects ++ sent⟩
                posted := system.posted ++ calls }
          | .error _ => none
      | .error _ => none
  | .runPosted =>
      match system.posted with
      | [] => none
      | call :: rest =>
          (system.link.step (.call call)).map fun link =>
            { system with posted := rest, link := link }
  | .session (.call _) => none
  | .session event =>
      (system.link.step event).map fun link => { system with link := link }

/-- The session once the posted calls have run. -/
def settled (system : System) : Session :=
  system.posted.foldl (fun session call => call.onStrand session)
    system.link.session

/-! ## What one step does -/

variable {platform : Platform} {system next : System}

theorem step_gateway {event : GatewayEvent}
    (hstep : system.step platform (.gateway event) = some next) :
    ∃ sent calls,
      (onBinance platform).handle system.record.gateway event =
        .ok (next.record.gateway, sent) ∧
      controlCalls sent = .ok calls ∧
      next.record.handled = system.record.handled ++ [event] ∧
      next.record.effects = system.record.effects ++ sent ∧
      next.posted = system.posted ++ calls ∧
      next.link = system.link := by
  simp only [step] at hstep
  split at hstep
  · next gateway sent hhandle =>
      split at hstep
      · next calls hcalls =>
          obtain rfl := Option.some.inj hstep
          exact ⟨sent, calls, hhandle, hcalls, rfl, rfl, rfl, rfl⟩
      · exact absurd hstep (by simp)
  · exact absurd hstep (by simp)

theorem step_of_handle {event : GatewayEvent} {gateway : Gateway}
    {sent : List Effect} {calls : List Call}
    (hhandle : (onBinance platform).handle system.record.gateway event =
      .ok (gateway, sent))
    (hcalls : controlCalls sent = .ok calls) :
    ∃ next, system.step platform (.gateway event) = some next := by
  simp only [step, hhandle, hcalls]
  exact ⟨_, rfl⟩

/-- A callback adds its calls to those that will run. -/
theorem settled_gateway {calls : List Call}
    (hposted : next.posted = system.posted ++ calls)
    (hlink : next.link = system.link) :
    next.settled.liveSubscriptions =
      calls.foldl (fun live call => call.liveAfter live)
        system.settled.liveSubscriptions := by
  rw [settled, settled, hposted, hlink, List.foldl_append,
    foldl_onStrand_liveSubscriptions calls]

/-- Neither the strand nor the link changes the platform side or the live set
that is settled. -/
theorem step_session {event : SystemEvent}
    (hevent : ∀ other, event ≠ .gateway other)
    (hstep : system.step platform event = some next) :
    next.record = system.record ∧
      next.settled.liveSubscriptions = system.settled.liveSubscriptions := by
  cases event with
  | gateway other => exact absurd rfl (hevent other)
  | runPosted =>
      simp only [step] at hstep
      split at hstep
      · exact absurd hstep (by simp)
      · next call rest hposted =>
          obtain ⟨link, hlink, rfl⟩ := Option.map_eq_some_iff.mp hstep
          obtain rfl := Option.some.inj hlink
          exact ⟨rfl, by simp [settled, hposted]⟩
  | session event =>
      cases event with
      | call call => simp [step] at hstep
      | release | written | writeFailed | error | handshake =>
          simp only [step, Option.map_eq_some_iff] at hstep
          obtain ⟨link, hlink, rfl⟩ := hstep
          refine ⟨rfl, ?_⟩
          rw [settled, settled, foldl_onStrand_liveSubscriptions,
            foldl_onStrand_liveSubscriptions,
            Link.step_liveSubscriptions (by simp) hlink]

/-- The platform side of a run of the whole is a run of the platform side. -/
theorem exists_record_run {finish : System} {events : List SystemEvent}
    (hrun : Runs.run (step platform) system events = some finish) :
    ∃ handled, Runs.run (Record.step (onBinance platform)) system.record
      handled = some finish.record := by
  induction events generalizing system with
  | nil =>
      obtain rfl : system = finish := by simpa using hrun
      exact ⟨[], rfl⟩
  | cons event events ih =>
      rw [Runs.run_cons, Option.bind_eq_some_iff] at hrun
      obtain ⟨next, hstep, hrest⟩ := hrun
      obtain ⟨handled, hhandled⟩ := ih hrest
      cases event with
      | gateway event =>
          obtain ⟨sent, calls, hhandle, -, hevents, heffects, -⟩ :=
            step_gateway hstep
          have hrecord : Record.step (onBinance platform) system.record event =
              some next.record := by
            rw [Record.step, hhandle]
            simp [← hevents, ← heffects]
          exact ⟨event :: handled, by simpa [hrecord] using hhandled⟩
      | runPosted | session =>
          rw [(step_session (by simp) hstep).1] at hhandled
          exact ⟨handled, hhandled⟩

/-- The live set that is settled is what the calls forwarded so far make of the
empty set. -/
theorem settled_of_run {msgNo : ℤ} {events : List SystemEvent}
    (hrun : Runs.run (step platform) (start msgNo) events = some system) :
    system.settled.liveSubscriptions =
      (forwarded system.record.effects).foldl
        (fun live call => call.liveAfter live) ∅ := by
  refine Runs.run_invariant
    (fun system => system.settled.liveSubscriptions =
      (forwarded system.record.effects).foldl
        (fun live call => call.liveAfter live) ∅)
    (fun system event next hsettled hstep => ?_) rfl hrun
  cases event with
  | gateway event =>
      obtain ⟨sent, calls, -, hcalls, -, heffects, hposted, hlink⟩ :=
        step_gateway hstep
      rw [settled_gateway hposted hlink, hsettled, heffects, forwarded_append,
        List.foldl_append, controlCalls_eq_forwarded hcalls]
  | runPosted | session =>
      obtain ⟨hrecord, hlive⟩ := step_session (by simp) hstep
      rw [hlive, hrecord, hsettled]

end System

end MultiMarketPrices.Binance
