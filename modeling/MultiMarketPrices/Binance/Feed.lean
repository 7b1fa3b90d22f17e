import MultiMarketPrices.Binance.Desk
import MultiMarketPrices.Binance.Frames
import MultiMarketPrices.Core.Outputs
import MultiMarketPrices.WebSockets.Connectivity

/-!
# From the exchange's frames to the consumers' records

The session reads frames and reports its connections on the strand, the
middleware's consumers bring messages, and all of them hand tasks to the one
worker, which performs them in order; only rebalances are performed where they
occur.  The whole is a run of the worker over the tasks performed, and of the
queue between the strand and the worker.
-/

namespace MultiMarketPrices.Binance

open PlatformComm WebSockets

/-- What the session's ready callback and the exchange's frames find. -/
structure Feed where
  system : System
  journal : List Entry
  /-- the static `clientConnectedOnce` -/
  connectedOnce : Bool
  /-- whether `init` has called `consumeAllUpdate` -/
  consuming : Bool
  /-- the worker's tasks, oldest first -/
  waiting : List WorkerTask

inductive FeedEvent
  | socket (event : LinkEvent)
  | runPosted
  /-- `on_read` gets a payload -/
  | frame (payload : String)
  /-- `PlatformComm::init` -/
  | init
  /-- a consumption loop pushes a message or a response -/
  | arrive (event : GatewayEvent)
  /-- the group's consumer calls `rebalanceCallback` -/
  | rebalance (rebalanceType : TopicAssignmentEvent) (partition : ℤ)
  /-- the worker performs its oldest task -/
  | work

/-- The blanking of everything. -/
def blankingTask : WorkerTask := .price instrumentWildCard .priceBlanking

/-- Only the consumer's own thread rebalances. -/
def WorkerTask.IsRebalance : WorkerTask → Bool
  | .gateway (.rebalance _ _) => true
  | _ => false

/-- The task is a trade or depth update. -/
def WorkerTask.CarriesPrice : WorkerTask → Prop
  | .price _ (.tradeUpdate _) | .price _ (.depthUpdate _) => True
  | _ => False

namespace Feed

def start (msgNo : ℤ) : Feed := ⟨.start msgNo, [], false, false, []⟩

def desk (feed : Feed) : Desk := ⟨feed.system.record, feed.journal⟩

def connected (feed : Feed) : Bool := feed.system.link.session.connected

/-- `produceUpdate`, which pushes a task once there is a consumer. -/
def produceUpdate (key : String) (data : MDUpdateVariant) (feed : Feed) :
    Feed :=
  if feed.consuming then
    { feed with waiting := feed.waiting ++ [.price key data] }
  else feed

/-- The session's ready callback.  An error before the first connection stops
the process. -/
def wsReady (feed : Feed) : Option ErrorCode → Option Feed
  | some _ =>
      if feed.connectedOnce then
        some (feed.produceUpdate instrumentWildCard .priceBlanking)
      else none
  | none => some { feed with connectedOnce := true }

/-- One task; an exception ends the run. -/
def perform (platform : Platform) (feed : Feed) : WorkerTask → Option Feed
  | .gateway event =>
      (feed.system.step platform (.gateway event)).map fun system =>
        { feed with
          system := system, journal := feed.journal ++ [.handled event] }
  | .price key data =>
      match (onBinance platform).onPriceDataFromExchange
        feed.system.record.gateway.book key data with
      | .ok calls => some
          { feed with
            journal := feed.journal ++ [.sent (calls.filter Effect.IsSent)] }
      | .error _ => none

def step (platform : Platform) (feed : Feed) : FeedEvent → Option Feed
  | .socket event =>
      (feed.system.step platform (.session event)).bind fun system =>
        (feed.system.link.ready event).foldlM wsReady
          { feed with system := system }
  | .runPosted =>
      (feed.system.step platform .runPosted).map fun system =>
        { feed with system := system }
  | .frame payload =>
      if feed.connectedOnce then
        match onRead platform.parse payload with
        | .ok (some (key, data)) => some (feed.produceUpdate key data)
        | .ok none => some feed
        | .error _ => none
      else none
  | .init =>
      if feed.connectedOnce && !feed.consuming then
        some { feed with consuming := true }
      else none
  | .arrive event =>
      if feed.consuming && !(WorkerTask.gateway event).IsRebalance then
        some { feed with waiting := feed.waiting ++ [.gateway event] }
      else none
  | .rebalance rebalanceType partition =>
      if feed.consuming then
        feed.perform platform (.gateway (.rebalance rebalanceType partition))
      else none
  | .work =>
      match feed.waiting with
      | [] => none
      | task :: waiting =>
          { feed with waiting := waiting }.perform platform task

/-! ## What an event pushes, takes and performs -/

/-- The tasks for what a frame or the ready callback produces. -/
def produced (platform : Platform) (feed : Feed) :
    FeedEvent → List WorkerTask
  | .socket event =>
      (feed.system.link.ready event).filterMap fun ec =>
        ec.map fun _ => blankingTask
  | .frame payload =>
      match onRead platform.parse payload with
      | .ok (some (key, data)) => [.price key data]
      | _ => []
  | _ => []

def pushed (platform : Platform) (feed : Feed) (event : FeedEvent) :
    List WorkerTask :=
  match event with
  | .arrive event => [.gateway event]
  | event => if feed.consuming then feed.produced platform event else []

def taken (feed : Feed) : FeedEvent → List WorkerTask
  | .work => feed.waiting.take 1
  | _ => []

def performed (feed : Feed) : FeedEvent → List WorkerTask
  | .work => feed.waiting.take 1
  | .rebalance rebalanceType partition =>
      [.gateway (.rebalance rebalanceType partition)]
  | _ => []

/-! ## What one step does -/

variable {platform : Platform} {feed next : Feed}

/-- What an event can do. -/
inductive Stepped (platform : Platform) (feed : Feed) : FeedEvent → Feed → Prop
  | moved (event : LinkEvent) (system : System)
      (hrecord : system.record = feed.system.record)
      (hready : feed.system.link.ready event = [])
      (hsame : system.link.session.connected = feed.connected) :
      Stepped platform feed (.socket event) { feed with system := system }
  | connects (event : LinkEvent) (system : System)
      (hrecord : system.record = feed.system.record)
      (hready : feed.system.link.ready event = [none])
      (hconnected : system.link.session.connected = true) :
      Stepped platform feed (.socket event)
        { feed with system := system, connectedOnce := true }
  | fails (event : LinkEvent) (ec : ErrorCode) (system : System)
      (hrecord : system.record = feed.system.record)
      (hready : feed.system.link.ready event = [some ec])
      (honce : feed.connectedOnce = true) :
      Stepped platform feed (.socket event)
        (produceUpdate instrumentWildCard .priceBlanking
          { feed with system := system })
  | runPosted (system : System)
      (hrecord : system.record = feed.system.record)
      (hsame : system.link.session.connected = feed.connected) :
      Stepped platform feed .runPosted { feed with system := system }
  | passed (payload : String)
      (hread : onRead platform.parse payload = .ok none) :
      Stepped platform feed (.frame payload) feed
  | update (payload key : String) (data : MDUpdateVariant)
      (hread : onRead platform.parse payload = .ok (some (key, data))) :
      Stepped platform feed (.frame payload) (feed.produceUpdate key data)
  | init (hconsuming : feed.consuming = false) :
      Stepped platform feed .init { feed with consuming := true }
  | arrive (event : GatewayEvent) (hconsuming : feed.consuming = true)
      (hother : (WorkerTask.gateway event).IsRebalance = false) :
      Stepped platform feed (.arrive event)
        { feed with waiting := feed.waiting ++ [.gateway event] }
  | rebalance (rebalanceType : TopicAssignmentEvent) (partition : ℤ)
      (next : Feed) (hconsuming : feed.consuming = true)
      (hperform : feed.perform platform
        (.gateway (.rebalance rebalanceType partition)) = some next) :
      Stepped platform feed (.rebalance rebalanceType partition) next
  | work (task : WorkerTask) (waiting : List WorkerTask) (next : Feed)
      (hwaiting : feed.waiting = task :: waiting)
      (hperform : { feed with waiting := waiting }.perform platform task =
        some next) :
      Stepped platform feed .work next

theorem link_of_session {system after : System} {event : LinkEvent}
    (hstep : system.step platform (.session event) = some after) :
    after.record = system.record ∧
      system.link.step event = some after.link := by
  cases event with
  | call call => simp [System.step] at hstep
  | release | written | writeFailed | error | handshake =>
      simp only [System.step, Option.map_eq_some_iff] at hstep
      obtain ⟨link, hlink, rfl⟩ := hstep
      exact ⟨rfl, hlink⟩

theorem stepped_of_step {event : FeedEvent}
    (hstep : feed.step platform event = some next) :
    Stepped platform feed event next := by
  cases event with
  | socket event =>
      obtain ⟨system, hsystem, hready⟩ := Option.bind_eq_some_iff.mp hstep
      obtain ⟨hrecord, hlink⟩ := link_of_session hsystem
      have hfails : ∀ ec, feed.system.link.ready event = [some ec] →
          Stepped platform feed (.socket event) next := by
        intro ec hsome
        rw [hsome, List.foldlM_cons, wsReady] at hready
        split at hready
        · next honce =>
            obtain rfl := Option.some.inj hready
            exact .fails event ec system hrecord hsome honce
        · cases hready
      cases Link.reports_of_step hlink with
      | nothing hnone hsame =>
          have hnone : feed.system.link.ready event = [] := hnone
          rw [hnone] at hready
          obtain rfl := Option.some.inj hready
          exact .moved event system hrecord hnone
            (congrArg Prod.fst hsame)
      | connected hnull hconnected =>
          have hnull : feed.system.link.ready event = [none] := hnull
          rw [hnull] at hready
          obtain rfl := Option.some.inj hready
          exact .connects event system hrecord hnull
            (congrArg Prod.fst hconnected)
      | disconnected ec hsome _ => exact hfails ec hsome
      | failed ec hsome _ _ => exact hfails ec hsome
  | runPosted =>
      obtain ⟨system, hsystem, rfl⟩ := Option.map_eq_some_iff.mp hstep
      refine .runPosted system (System.step_session (by simp) hsystem).1 ?_
      simp only [System.step] at hsystem
      split at hsystem
      · cases hsystem
      · next call rest hposted =>
          obtain ⟨link, hlink, rfl⟩ := Option.map_eq_some_iff.mp hsystem
          obtain rfl := Option.some.inj hlink
          exact congrArg Prod.fst
            (feed.system.link.session.onStrand_connectivity call)
  | frame payload =>
      rw [step] at hstep
      split at hstep
      · split at hstep
        · next key data hread =>
            obtain rfl := Option.some.inj hstep
            exact .update payload key data hread
        · next hread =>
            obtain rfl := Option.some.inj hstep
            exact .passed payload hread
        · cases hstep
      · cases hstep
  | init =>
      rw [step] at hstep
      split at hstep
      · next hboth =>
          obtain rfl := Option.some.inj hstep
          refine .init ?_
          simpa using (Bool.and_eq_true_iff.mp hboth).2
      · cases hstep
  | arrive event =>
      rw [step] at hstep
      split at hstep
      · next hboth =>
          obtain rfl := Option.some.inj hstep
          obtain ⟨hconsuming, hother⟩ := Bool.and_eq_true_iff.mp hboth
          exact .arrive event hconsuming (by simpa using hother)
      · cases hstep
  | rebalance rebalanceType partition =>
      rw [step] at hstep
      split at hstep
      · next hconsuming =>
          exact .rebalance rebalanceType partition next hconsuming hstep
      · cases hstep
  | work =>
      rw [step] at hstep
      split at hstep
      · cases hstep
      · next task waiting hwaiting =>
          exact .work task waiting next hwaiting hstep

/-- A task does to the worker what it does, and to nothing else. -/
theorem perform_spec {task : WorkerTask}
    (hperform : feed.perform platform task = some next) :
    feed.desk.step platform task = some next.desk ∧
      next.waiting = feed.waiting ∧ next.consuming = feed.consuming ∧
      next.connectedOnce = feed.connectedOnce ∧
      next.connected = feed.connected := by
  cases task with
  | gateway event =>
      obtain ⟨system, hsystem, rfl⟩ := Option.map_eq_some_iff.mp hperform
      obtain ⟨sent, calls, hhandle, -, hhandled, heffects, -, hlink⟩ :=
        System.step_gateway hsystem
      have hrecord : Record.step (onBinance platform) feed.system.record
          event = some system.record := by
        rw [Record.step, hhandle]
        simp [← hhandled, ← heffects]
      refine ⟨?_, rfl, rfl, rfl, congrArg (·.session.connected) hlink⟩
      rw [Desk.step, desk, hrecord]
      rfl
  | price key data =>
      rw [perform] at hperform
      split at hperform
      · next calls hcalls =>
          obtain rfl := Option.some.inj hperform
          refine ⟨?_, rfl, rfl, rfl, rfl⟩
          rw [Desk.step, desk, hcalls]
          rfl
      · cases hperform

/-! ## The queue and the worker -/

theorem produceUpdate_cases (feed : Feed) (key : String)
    (data : MDUpdateVariant) :
    feed.consuming = true ∧ feed.produceUpdate key data =
        { feed with waiting := feed.waiting ++ [.price key data] } ∨
      feed.consuming = false ∧ feed.produceUpdate key data = feed := by
  rw [produceUpdate]
  split
  · next hconsuming => exact .inl ⟨hconsuming, rfl⟩
  · next hidle => exact .inr ⟨by simpa using hidle, rfl⟩

theorem produceUpdate_waiting (feed : Feed) (key : String)
    (data : MDUpdateVariant) :
    (feed.produceUpdate key data).waiting = feed.waiting ++
      if feed.consuming then [.price key data] else [] := by
  rw [produceUpdate]
  split
  · rfl
  · rw [List.append_nil]

theorem produceUpdate_desk (feed : Feed) (key : String)
    (data : MDUpdateVariant) :
    (feed.produceUpdate key data).desk = feed.desk := by
  rw [produceUpdate]
  split <;> rfl

/-- What waits is added to at the end and taken from at the front. -/
theorem waiting_step {event : FeedEvent}
    (hstep : feed.step platform event = some next) :
    feed.waiting ++ feed.pushed platform event =
      feed.taken event ++ next.waiting := by
  cases stepped_of_step hstep with
  | moved event system _ hready _ => simp [pushed, produced, taken, hready]
  | connects event system _ hready _ => simp [pushed, produced, taken, hready]
  | fails event ec system _ hready _ =>
      rw [produceUpdate_waiting]
      simp [pushed, produced, taken, hready, blankingTask]
  | runPosted system | init => simp [pushed, produced, taken]
  | passed payload hread => simp [pushed, produced, taken, hread]
  | update payload key data hread =>
      rw [produceUpdate_waiting]
      simp [pushed, produced, taken, hread]
  | arrive event => rfl
  | rebalance rebalanceType partition next _ hperform =>
      simp [pushed, produced, taken, (perform_spec hperform).2.1]
  | work task waiting next hwaiting hperform =>
      simp [pushed, produced, taken, hwaiting, (perform_spec hperform).2.1]

/-- The worker performs what is performed. -/
theorem desk_step {event : FeedEvent}
    (hstep : feed.step platform event = some next) :
    Runs.run (Desk.step platform) feed.desk (feed.performed event) =
      some next.desk := by
  cases stepped_of_step hstep with
  | moved event system hrecord | connects event system hrecord
  | runPosted system hrecord => simp [performed, desk, hrecord]
  | fails event ec system hrecord =>
      have hsame : desk { feed with system := system } = feed.desk := by
        rw [desk, hrecord, desk]
      rw [produceUpdate_desk, hsame]
      rfl
  | passed | init | arrive => rfl
  | update payload key data hread =>
      rw [produceUpdate_desk]
      rfl
  | rebalance rebalanceType partition next _ hperform =>
      simp [performed, (perform_spec hperform).1]
  | work task waiting next hwaiting hperform =>
      have hdesk : feed.desk.step platform task = some next.desk :=
        (perform_spec hperform).1
      simp [performed, hwaiting, hdesk]

/-- No rebalance waits. -/
def NoRebalance (feed : Feed) : Prop :=
  ∀ task ∈ feed.waiting, task.IsRebalance = false

theorem NoRebalance.produceUpdate (hno : feed.NoRebalance) (key : String)
    (data : MDUpdateVariant) : (feed.produceUpdate key data).NoRebalance := by
  intro task hmem
  rw [produceUpdate_waiting, List.mem_append] at hmem
  rcases hmem with hold | hnew
  · exact hno task hold
  · split at hnew
    · obtain rfl := List.mem_singleton.mp hnew
      rfl
    · cases hnew

theorem NoRebalance.step {event : FeedEvent} (hno : feed.NoRebalance)
    (hstep : feed.step platform event = some next) :
    next.NoRebalance ∧
      (feed.performed event).filter (!·.IsRebalance) = feed.taken event := by
  cases stepped_of_step hstep with
  | moved | connects | runPosted | passed | init => exact ⟨hno, rfl⟩
  | fails event ec system =>
      have hmoved : NoRebalance { feed with system := system } := hno
      exact ⟨hmoved.produceUpdate _ _, rfl⟩
  | update payload key data => exact ⟨hno.produceUpdate key data, rfl⟩
  | arrive event _ hother =>
      refine ⟨fun task hmem => ?_, rfl⟩
      rcases List.mem_append.mp hmem with hold | hnew
      · exact hno task hold
      · exact List.mem_singleton.mp hnew ▸ hother
  | rebalance rebalanceType partition next _ hperform =>
      refine ⟨fun task hmem => hno task ?_, rfl⟩
      rwa [(perform_spec hperform).2.1] at hmem
  | work task waiting next hwaiting hperform =>
      rw [NoRebalance, hwaiting, List.forall_mem_cons] at hno
      refine ⟨fun other hmem => hno.2 other ?_, ?_⟩
      · rwa [(perform_spec hperform).2.1] at hmem
      · simp [performed, taken, hwaiting, hno.1]

/-- Along every run, the worker takes what was pushed in the order in which it
was pushed, once each; it performs nothing else but the rebalances; and a topic
that is not empty receives exactly the price records of a key whose update was
performed while the last message about the pair was a subscription, once each
and in order. -/
theorem delivered_in_order (platform : Platform) (msgNo : ℤ)
    (events : List FeedEvent) (feed : Feed)
    (hrun : Runs.run (step platform) (start msgNo) events = some feed) :
    Runs.outputs (step platform) (pushed platform) (start msgNo) events =
        Runs.outputs (step platform) taken (start msgNo) events ++
          feed.waiting ∧
      (Runs.outputs (step platform) performed (start msgNo) events).filter
          (!·.IsRebalance) =
        Runs.outputs (step platform) taken (start msgNo) events ∧
      ∀ key destTopic, key ≠ instrumentWildCard → destTopic ≠ "" →
        received key destTopic feed.journal =
          (due platform key destTopic .empty (Runs.outputs (step platform)
            performed (start msgNo) events)).map ({·}) := by
  refine ⟨?_, ?_, fun key destTopic hkey htopic => ?_⟩
  · exact Runs.append_outputs_eq Feed.waiting
      (fun _ _ _ hstep => waiting_step hstep) hrun
  · exact Runs.filter_outputs NoRebalance _
      (fun _ _ _ hno hstep => hno.step hstep) (by simp [NoRebalance, start])
      hrun
  · exact Desk.received_eq_due hkey htopic (Runs.run_outputs Feed.desk
      (fun _ _ _ hstep => desk_step hstep) hrun)

/-! ### One client of BTC trades -/

/-- The Binance gateway, with the request of one client and a trade to parse. -/
def oneClient : Platform :=
  .ofTexts keyGenFunc keyDisintegrationFunc
    [(firstText, .object (requestObject "first_topic")),
      (tradeFrame, .object
        [("stream", .string "btc@trade"), ("data", .object tradeFrameData)])]

theorem step_handshake (platform : Platform) (msgNo : ℤ) :
    (start msgNo).step platform (.socket .handshake) =
      some
        { start msgNo with
          system := { System.start msgNo with link := .handshaken msgNo }
          connectedOnce := true } := by
  have hsystem : (start msgNo).system.step platform (.session .handshake) =
      some { System.start msgNo with link := .handshaken msgNo } := by
    simp only [start, System.step, System.start, Link.step_handshake_start,
      Option.map_some]
  have hready : (start msgNo).system.link.ready .handshake = [none] :=
    Session.onHandshake_ready _
  rw [step, hsystem, Option.bind_some, hready]
  rfl

/-- The session connects, a client subscribes, and a trade comes. -/
def tradeComes : List FeedEvent :=
  [.socket .handshake, .init, .rebalance .partitionAssigned 0,
    .arrive (.message 0 "subscribe" firstText), .frame tradeFrame, .work, .work]

theorem delivered_in_order_of_one_client :
    ∃ feed, Runs.run (step oneClient) (start 0) tradeComes = some feed ∧
      feed.connected = true ∧
      received "BTC:trade" "first_topic" feed.journal =
        (due oneClient "BTC:trade" "first_topic" .empty
          (Runs.outputs (step oneClient) performed (start 0)
            tradeComes)).map ({·}) := by
  obtain ⟨feed, hrun, hconnected⟩ : ∃ feed,
      Runs.run (step oneClient) (start 0) tradeComes = some feed ∧
        feed.connected = true := by
    rw [tradeComes, Runs.run_cons, step_handshake, Option.bind_some]
    exact ⟨_, rfl, rfl⟩
  exact ⟨feed, hrun, hconnected,
    (delivered_in_order oneClient 0 tradeComes feed hrun).2.2 "BTC:trade"
      "first_topic" (by decide) (by decide)⟩

end Feed

/-! ## Prices before a blanking -/

/-- Each price among the tasks has a blanking of everything behind it. -/
def Covered : List WorkerTask → Prop
  | [] => True
  | task :: tasks =>
      (task.CarriesPrice → blankingTask ∈ tasks) ∧ Covered tasks

theorem covered_concat_blanking (tasks : List WorkerTask) :
    Covered (tasks ++ [blankingTask]) := by
  induction tasks with
  | nil => exact ⟨fun hprice => absurd hprice id, trivial⟩
  | cons task tasks ih => exact ⟨fun _ => by simp, ih⟩

theorem covered_concat {tasks : List WorkerTask} {task : WorkerTask}
    (hcovered : Covered tasks) (hother : ¬ task.CarriesPrice) :
    Covered (tasks ++ [task]) := by
  induction tasks with
  | nil => exact ⟨fun hprice => absurd hprice hother, trivial⟩
  | cons first tasks ih =>
      exact ⟨fun hprice => List.mem_append_left _ (hcovered.1 hprice),
        ih hcovered.2⟩

theorem not_covered_concat (tasks : List WorkerTask) {task : WorkerTask}
    (hprice : task.CarriesPrice) : ¬ Covered (tasks ++ [task]) := by
  induction tasks with
  | nil => exact fun hcovered => List.not_mem_nil (hcovered.1 hprice)
  | cons first tasks ih => exact fun hcovered => ih hcovered.2

variable {platform : Platform}

namespace Desk

variable {desk next finish : Desk} {tasks : List WorkerTask}

/-- A task other than a price leaves no booked pair with one, and the blanking
of everything leaves none in any case. -/
theorem blank_step {task : WorkerTask}
    (hrun : Runs.run (step platform) start tasks = some desk)
    (hother : ¬ task.CarriesPrice)
    (hblank : task = blankingTask ∨ desk.Blank platform)
    (hstep : desk.step platform task = some next) : next.Blank platform := by
  rcases hblank with rfl | hblank
  · exact blank_of_blanking hrun hstep
  · match task, hother with
    | .gateway event, _ => exact hblank.gateway hrun hstep
    | .price key .priceBlanking, _ => exact hblank.blanking hstep
    | .price key (.tradeUpdate _), hother
    | .price key (.depthUpdate _), hother => exact absurd trivial hother

/-- The first of some tasks whose prices are covered. -/
theorem blank_next {task : WorkerTask} {waiting : List WorkerTask}
    (hrun : Runs.run (step platform) start tasks = some desk)
    (hcovered : Covered (task :: waiting))
    (hblank : blankingTask ∈ task :: waiting ∨ desk.Blank platform)
    (hstep : desk.step platform task = some next) :
    blankingTask ∈ waiting ∨ next.Blank platform := by
  by_cases hlater : blankingTask ∈ waiting
  · exact .inl hlater
  · refine .inr (blank_step hrun (mt hcovered.1 hlater) ?_ hstep)
    rcases hblank with hmem | hblank
    · exact .inl ((List.mem_cons.mp hmem).resolve_right hlater).symm
    · exact .inr hblank

/-- Once tasks whose prices are covered have been performed, no booked pair is
left with a price. -/
theorem blank_of_covered {waiting : List WorkerTask}
    (hrun : Runs.run (step platform) start tasks = some desk)
    (hcovered : Covered waiting)
    (hblank : blankingTask ∈ waiting ∨ desk.Blank platform)
    (hrest : Runs.run (step platform) desk waiting = some finish) :
    finish.Blank platform := by
  induction waiting generalizing tasks desk with
  | nil =>
      obtain rfl : desk = finish := by simpa using hrest
      exact hblank.resolve_left List.not_mem_nil
  | cons task waiting ih =>
      rw [Runs.run_cons, Option.bind_eq_some_iff] at hrest
      obtain ⟨next, hstep, hrest⟩ := hrest
      have hnext : Runs.run (step platform) start (tasks ++ [task]) =
          some next := Runs.run_concat_eq_some.mpr ⟨desk, hrun, hstep⟩
      exact ih hnext hcovered.2 (blank_next hrun hcovered hblank hstep) hrest

end Desk

/-- What a frame is turned into is a price. -/
theorem carriesPrice_of_read {parse : String → Except Thrown Json}
    {payload key : String} {data : MDUpdateVariant}
    (hread : onRead parse payload = .ok (some (key, data))) :
    (WorkerTask.price key data).CarriesPrice := by
  rw [onRead] at hread
  split at hread
  · rcases (wellTyped_of_ok hread).update_eq with hnone |
      ⟨members, object, stream, symbol, name, -, -, -, -, hrouted⟩
    · simp [hnone] at hread
    · rw [hread, Except.ok.injEq, routed] at hrouted
      split at hrouted
      · obtain ⟨obj, -, heq⟩ := Option.map_eq_some_iff.mp hrouted.symm
        obtain ⟨rfl, rfl⟩ := Prod.mk.inj heq
        trivial
      · split at hrouted
        · obtain ⟨obj, -, heq⟩ := Option.map_eq_some_iff.mp hrouted.symm
          obtain ⟨rfl, rfl⟩ := Prod.mk.inj heq
          trivial
        · cases hrouted
  · cases hread

namespace Feed

variable {feed next : Feed}

/-! ## No stale price -/

/-- A frame that is a price is read while the session is connected. -/
def ReadWhileConnected (platform : Platform) (feed : Feed)
    (event : FeedEvent) : Prop :=
  ∀ payload key data, event = .frame payload →
    onRead platform.parse payload = .ok (some (key, data)) →
    feed.consuming = true → feed.connected = true

/-- While the session is not connected, each price that waits has a blanking
behind it, and once what waits has been performed no booked pair is left with a
price. -/
def NoStalePrice (platform : Platform) (feed : Feed) : Prop :=
  feed.connected = false → Covered feed.waiting ∧
    ∀ desk, Runs.run (Desk.step platform) feed.desk feed.waiting = some desk →
      desk.Blank platform

/-- What is kept as long as prices are read while connected. -/
structure Blanked (platform : Platform) (feed : Feed) : Prop where
  hdesk : ∃ tasks,
    Runs.run (Desk.step platform) .start tasks = some feed.desk
  hidle : feed.consuming = false →
    feed.waiting = [] ∧ feed.desk = .start
  hcovered : feed.connected = false → Covered feed.waiting
  hblank : feed.connected = false →
    blankingTask ∈ feed.waiting ∨ feed.desk.Blank platform

theorem blank_start : Desk.start.Blank platform := by
  intro key destTopic hbooked
  simp [Desk.topics, Desk.start, Record.start, Gateway.initial] at hbooked

theorem Blanked.start (msgNo : ℤ) : Blanked platform (start msgNo) where
  hdesk := ⟨[], rfl⟩
  hidle _ := ⟨rfl, rfl⟩
  hcovered _ := trivial
  hblank _ := .inr blank_start

theorem Blanked.noStalePrice (hblanked : feed.Blanked platform) :
    feed.NoStalePrice platform := by
  intro hconnected
  obtain ⟨tasks, hrun⟩ := hblanked.hdesk
  refine ⟨hblanked.hcovered hconnected, fun desk hrest => ?_⟩
  exact Desk.blank_of_covered hrun (hblanked.hcovered hconnected)
    (hblanked.hblank hconnected) hrest

/-- The blanking of everything blanks whatever waits. -/
theorem blanked_of_blanking
    (hdesk : ∃ tasks,
      Runs.run (Desk.step platform) .start tasks = some feed.desk)
    (hidle : feed.consuming = false →
      feed.waiting = [] ∧ feed.desk = .start) :
    Blanked platform
      (feed.produceUpdate instrumentWildCard .priceBlanking) := by
  rcases feed.produceUpdate_cases instrumentWildCard .priceBlanking with
    ⟨hconsuming, heq⟩ | ⟨hconsuming, heq⟩
  · rw [heq]
    refine ⟨hdesk, fun hnone => ?_, fun _ => covered_concat_blanking _,
      fun _ => .inl ?_⟩
    · exact absurd (hconsuming.symm.trans hnone) (by simp)
    · exact List.mem_append_right _ (List.mem_singleton.mpr rfl)
  · obtain ⟨hnone, hstart⟩ := hidle hconsuming
    rw [heq]
    refine ⟨hdesk, hidle, fun _ => ?_, fun _ => .inr ?_⟩
    · rw [hnone]
      trivial
    · rw [hstart]
      exact blank_start

theorem Blanked.step {event : FeedEvent} (hblanked : feed.Blanked platform)
    (hguard : feed.ReadWhileConnected platform event)
    (hstep : feed.step platform event = some next) :
    next.Blanked platform := by
  obtain ⟨tasks, hrun⟩ := hblanked.hdesk
  have hdesk : ∃ tasks,
      Runs.run (Desk.step platform) .start tasks = some next.desk :=
    ⟨tasks ++ feed.performed event,
      Runs.run_append_eq_some.mpr ⟨feed.desk, hrun, desk_step hstep⟩⟩
  cases stepped_of_step hstep with
  | moved event system hrecord _ hsame | runPosted system hrecord hsame =>
      have hkept : desk { feed with system := system } = feed.desk := by
        rw [desk, hrecord, desk]
      refine ⟨hdesk, fun hconsuming => ?_, fun hconnected => ?_,
        fun hconnected => ?_⟩
      · rw [hkept]
        exact hblanked.hidle hconsuming
      · exact hblanked.hcovered (hsame.symm.trans hconnected)
      · rw [hkept]
        exact hblanked.hblank (hsame.symm.trans hconnected)
  | connects event system hrecord _ hconnected =>
      have hkept : desk { feed with system := system, connectedOnce := true } =
          feed.desk := by
        rw [desk, hrecord, desk]
      refine ⟨hdesk, fun hconsuming => ?_, fun hdown => ?_, fun hdown => ?_⟩
      · rw [hkept]
        exact hblanked.hidle hconsuming
      · exact absurd (hconnected.symm.trans hdown) (by simp)
      · exact absurd (hconnected.symm.trans hdown) (by simp)
  | fails event ec system hrecord =>
      have hkept : desk { feed with system := system } = feed.desk := by
        rw [desk, hrecord, desk]
      rw [produceUpdate_desk] at hdesk
      apply blanked_of_blanking hdesk
      rw [hkept]
      exact hblanked.hidle
  | passed => exact hblanked
  | update payload key data hread =>
      rcases feed.produceUpdate_cases key data with
        ⟨hconsuming, heq⟩ | ⟨-, heq⟩
      · have hconnected := hguard payload key data rfl hread hconsuming
        rw [heq] at hdesk ⊢
        refine ⟨hdesk, fun hidle => ?_, fun hdown => ?_, fun hdown => ?_⟩
        · exact absurd (hconsuming.symm.trans hidle) (by simp)
        · exact absurd (hconnected.symm.trans hdown) (by simp)
        · exact absurd (hconnected.symm.trans hdown) (by simp)
      · rw [heq]
        exact hblanked
  | init hconsuming =>
      exact ⟨hdesk, fun hidle => absurd hidle (by simp), hblanked.hcovered,
        hblanked.hblank⟩
  | arrive event hconsuming =>
      refine ⟨hdesk, fun hidle => ?_, fun hdown => ?_, fun hdown => ?_⟩
      · exact absurd (hconsuming.symm.trans hidle) (by simp)
      · exact covered_concat (hblanked.hcovered hdown) (fun hprice => hprice)
      · exact (hblanked.hblank hdown).imp_left (List.mem_append_left _)
  | rebalance rebalanceType partition next hconsuming hperform =>
      obtain ⟨htask, hwaiting, hsameConsuming, -, hsame⟩ :=
        perform_spec hperform
      refine ⟨hdesk, fun hidle => ?_, fun hdown => ?_, fun hdown => ?_⟩
      · rw [hsameConsuming, hconsuming] at hidle
        cases hidle
      · rw [hwaiting]
        exact hblanked.hcovered (hsame.symm.trans hdown)
      · rw [hwaiting]
        refine (hblanked.hblank (hsame.symm.trans hdown)).imp_right
          fun hblank => ?_
        exact hblank.gateway hrun htask
  | work task waiting next hwaiting hperform =>
      obtain ⟨htask, hrest, hsameConsuming, -, hsame⟩ := perform_spec hperform
      have hcovered : next.connected = false → Covered (task :: waiting) := by
        intro hdown
        rw [← hwaiting]
        exact hblanked.hcovered (hsame.symm.trans hdown)
      refine ⟨hdesk, fun hidle => ?_, fun hdown => ?_, fun hdown => ?_⟩
      · have hnone := (hblanked.hidle (hsameConsuming.symm.trans hidle)).1
        rw [hwaiting] at hnone
        cases hnone
      · rw [hrest]
        exact (hcovered hdown).2
      · rw [hrest]
        refine Desk.blank_next hrun (hcovered hdown) ?_ htask
        rw [← hwaiting]
        exact hblanked.hblank (hsame.symm.trans hdown)

/-- A price that is read while the session is not connected waits with no
blanking behind it. -/
theorem not_noStalePrice {event : FeedEvent}
    (hguard : ¬ feed.ReadWhileConnected platform event)
    (hstep : feed.step platform event = some next) :
    ¬ next.NoStalePrice platform := by
  simp only [ReadWhileConnected, not_forall] at hguard
  obtain ⟨payload, key, data, rfl, hread, hconsuming, hdown⟩ := hguard
  cases stepped_of_step hstep with
  | passed _ hnone => simp [hread] at hnone
  | update _ other updated hother =>
      obtain ⟨rfl, rfl⟩ := Prod.mk.inj (Option.some.inj
        (Except.ok.inj (hread.symm.trans hother)))
      rw [produceUpdate, if_pos hconsuming]
      have hdown : feed.connected = false := by simpa using hdown
      exact fun hstale => not_covered_concat feed.waiting
        (carriesPrice_of_read hread) (hstale hdown).1

/-- Along a run, no state without a connection leaves a stale price behind
exactly if each price is read while the session is connected. -/
theorem noStalePrice_iff_readWhileConnected (platform : Platform) (msgNo : ℤ)
    (events : List FeedEvent) (finish : Feed)
    (hrun : Runs.run (step platform) (start msgNo) events = some finish) :
    Runs.EveryStep (step platform) (ReadWhileConnected platform)
        (start msgNo) events ↔
      ∀ initial, initial <+: events → ∀ feed,
        Runs.run (step platform) (start msgNo) initial = some feed →
        feed.NoStalePrice platform :=
  Runs.everyStep_iff_forall_good (Blanked platform) (NoStalePrice platform)
    (fun _ hblanked => hblanked.noStalePrice)
    (fun _ _ _ hblanked _ hguard hstep => hblanked.step hguard hstep)
    (fun _ _ _ _ _ hguard hstep => not_noStalePrice hguard hstep)
    (.start msgNo) (fun _ _ _ _ _ => trivial : Runs.EveryStep (step platform)
      (fun _ _ => True) (start msgNo) events) hrun

/-- A trade has come, and then the connection is lost. -/
theorem noStalePrice_iff_readWhileConnected_of_loss :
    ∃ finish, Runs.run (step oneClient) (start 0)
        (tradeComes ++ [.socket (.error (.other 104) .read)]) = some finish ∧
      finish.connected = false ∧ finish.waiting = [blankingTask] ∧
      (Runs.EveryStep (step oneClient) (ReadWhileConnected oneClient)
          (start 0) (tradeComes ++ [.socket (.error (.other 104) .read)]) ↔
        ∀ initial, initial <+:
          tradeComes ++ [.socket (.error (.other 104) .read)] → ∀ feed,
          Runs.run (step oneClient) (start 0) initial = some feed →
          feed.NoStalePrice oneClient) := by
  obtain ⟨finish, hrun, hdown, hwaiting⟩ : ∃ finish,
      Runs.run (step oneClient) (start 0)
          (tradeComes ++ [.socket (.error (.other 104) .read)]) =
            some finish ∧
        finish.connected = false ∧ finish.waiting = [blankingTask] := by
    rw [tradeComes, List.cons_append, Runs.run_cons, step_handshake,
      Option.bind_some]
    exact ⟨_, rfl, rfl, rfl⟩
  exact ⟨finish, hrun, hdown, hwaiting,
    noStalePrice_iff_readWhileConnected oneClient 0 _ finish hrun⟩

end Feed

end MultiMarketPrices.Binance
