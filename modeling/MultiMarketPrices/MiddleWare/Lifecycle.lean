import MultiMarketPrices.MiddleWare.Killing

/-!
# The life of a component

`initializeMiddleWare` looks at what it is given, connects, starts a thread for
the group's records and a timer for the heartbeats, subscribes to the
component's own topic and stays in the loop that consumes it until a stop is
asked for.  Then it says good-bye and takes the two loops down.  Signals,
requests to stop and calls of `shutdownFunc` come from other threads, at any
time.

An object that has been destroyed goes on in the model as if its memory were
still there.
-/

namespace MultiMarketPrices.MiddleWare

/-! ## What the function is given -/

/-- The codes of `kafka::Error` that are named. -/
inductive ErrorCode
  | noError
  | unknown
  | topicAlreadyExists
  | other (code : ℤ)
  deriving DecidableEq

structure Error where
  code : ErrorCode
  message : String
  deriving DecidableEq

/-- Of a function or a pointer, whether it is there. -/
structure InitParams where
  appId : String
  appGroup : String
  descriptionFunc : Bool
  heartBeatGenFunc : Bool
  heartbeatIntervalSec : UInt32
  timer : Bool
  kafkaWorker : Bool
  msgCallback : Bool
  initCallback : Bool
  responseCallback : Bool
  requestHandlerFunc : Bool
  minAvailableBrokers : UInt16
  exitCb : Bool

/-- What is looked at, in this order, and what is said if it holds. -/
def InitParams.checks (params : InitParams) : List (Bool × String) :=
  [(params.appId.isEmpty, "AppId is empty"),
    (params.appGroup.isEmpty, "AppGroup is empty"),
    (!params.descriptionFunc, "Description function is null"),
    (!params.heartBeatGenFunc, "HeartBeatGen function is null"),
    (params.heartbeatIntervalSec = 0, "Heartbeat interval cannot be zero"),
    (!params.timer, "Timer is null"),
    (!params.kafkaWorker, "Worker thread is null"),
    (!params.msgCallback, "Message callback is null"),
    (!params.initCallback, "Initialization callback is null"),
    (!params.responseCallback, "Response callback is None"),
    (!params.requestHandlerFunc, "Request handler function is None"),
    (params.minAvailableBrokers = 0,
      "Minimum available brokers cannot be zero")]

/-- What `errCallback` is called with, and the result. -/
def validateInitParams (params : InitParams) : Error × Bool :=
  match params.checks.find? Prod.fst with
  | some check => (⟨.unknown, check.2⟩, false)
  | none => (⟨.noError, ""⟩, true)

/-- `errCallback` is called in any case, and told that there is no error if
there is none. -/
theorem validateInitParams_spec (params : InitParams) :
    (∀ check ∈ params.checks, check.1 = false) ∧
        validateInitParams params = (⟨.noError, ""⟩, true) ∨
      ∃ check ∈ params.checks, check.1 = true ∧
        validateInitParams params = (⟨.unknown, check.2⟩, false) := by
  rw [validateInitParams]
  cases hfind : params.checks.find? Prod.fst with
  | none =>
      rw [List.find?_eq_none] at hfind
      exact .inl ⟨fun check hmem => by simpa using hfind check hmem, rfl⟩
  | some check =>
      exact .inr ⟨check, List.mem_of_find?_eq_some hfind,
        List.find?_some hfind, rfl⟩

/-- How the `try` block ends. -/
inductive Creation
  /-- the clients are made if the result of `createTopics` is accepted -/
  | createTopics (error : Error)
  | kafkaException (error : Error)
  | exception
  /-- anything else is thrown -/
  | other
  deriving DecidableEq

/-- What is reported, if anything.  A refused `createTopics` throws an `Error`,
which is no exception. -/
def Creation.reported : Creation → Option Error
  | .createTopics error =>
      if error.code ≠ .noError ∧ error.code ≠ .topicAlreadyExists then
        some ⟨.unknown, "Unknown error during middleware initialization"⟩
      else none
  | .kafkaException error => some error
  | .exception => some ⟨.unknown, ""⟩
  | .other =>
      some ⟨.unknown, "Unknown error during middleware initialization"⟩

/-! ## The threads -/

inductive LoopName
  | group
  | individual
  deriving DecidableEq

/-- What `initializeMiddleWare` does for others to see. -/
inductive Action
  | errCallback (error : Error)
  | initCallback
  | appUp
  | appDown
  | exitCb
  | producerClose
  | heartBeat
  deriving DecidableEq

/-- Where the thread of `initializeMiddleWare` stands. -/
inductive MainPhase
  | creating
  /-- returned before anything was started -/
  | failed
  | subscribing
  | initializing
  | announcing
  | looping
  | leaving
  | exiting
  | closing
  /-- in the destructor of a loop, which calls `kill` -/
  | destroying (name : LoopName)
  | found (name : LoopName)
  | acquiring (name : LoopName)
  | returned
  deriving DecidableEq

structure Lifecycle where
  thread : LoopName → LoopThread
  main : MainPhase
  /-- the timer for the heartbeats is installed -/
  heartbeats : Bool
  performed : List Action

inductive LifecycleEvent
  | create (result : Creation)
  /-- the subscription to the component's own topic -/
  | individualConsumerFunc (result : Option Error)
  /-- what comes next in `initializeMiddleWare` -/
  | proceed
  | start (name : LoopName)
  | loop (name : LoopName) (event : LoopEvent)
  | release (name : LoopName)
  /-- a signal, or a message of type `request_stop` -/
  | requestShutdown
  /-- another thread calls `shutdownFunc`, and `kill` in it looks at
  `m_running` -/
  | shutdownFunc
  /-- such a call, in `kill` -/
  | store
  | acquire
  | heartbeat

/-- Steps of the loop that depend on nothing but the loop. -/
def LoopEvent.IsLocal : LoopEvent → Bool
  | .start | .kill | .requestShutdown | .restart => false
  | _ => true

/-- The object that is destroyed next. -/
def LoopName.after : LoopName → MainPhase
  | .individual => .destroying .group
  | .group => .returned

/-- The threads and the timer have been started. -/
def MainPhase.Launched (main : MainPhase) : Prop :=
  main ≠ .creating ∧ main ≠ .failed

instance (main : MainPhase) : Decidable main.Launched :=
  inferInstanceAs (Decidable (_ ∧ _))

/-- The steps that are left of `initializeMiddleWare` count at most as much. -/
def MainPhase.left : MainPhase → ℕ
  | .creating => 16
  | .subscribing => 15
  | .initializing => 14
  | .announcing => 13
  | .looping => 12
  | .leaving => 11
  | .exiting => 10
  | .closing => 9
  | .destroying .individual => 8
  | .found .individual | .acquiring .individual => 5
  | .destroying .group => 4
  | .found .group | .acquiring .group => 1
  | .failed | .returned => 0

namespace Lifecycle

def start (params : InitParams) : Lifecycle where
  thread := fun _ => .initial
  main := if (validateInitParams params).2 then .creating else .failed
  heartbeats := false
  performed := [.errCallback (validateInitParams params).1]

def perform (action : Action) (life : Lifecycle) : Lifecycle :=
  { life with performed := life.performed ++ [action] }

/-- A step of a loop's thread, or of a call of `kill`. -/
def onThread (name : LoopName) (event : ThreadEvent) (life : Lifecycle) :
    Option Lifecycle :=
  ((life.thread name).step event).map fun thread =>
    { life with thread := Function.update life.thread name thread }

def goTo (main : MainPhase) (life : Lifecycle) : Lifecycle :=
  { life with main := main }

/-- `main` has found the loop running that it destroys. -/
def mainFound (life : Lifecycle) (name : LoopName) : ℕ :=
  if life.main = .found name then 1 else 0

def mainAcquiring (life : Lifecycle) (name : LoopName) : ℕ :=
  if life.main = .acquiring name then 1 else 0

/-- What comes next in `initializeMiddleWare`, where it is up to nobody
else. -/
def proceed (exitCb : Bool) (life : Lifecycle) : Option Lifecycle :=
  match life.main with
  | .initializing => some ((life.perform .initCallback).goTo .announcing)
  | .announcing => some ((life.perform .appUp).goTo .looping)
  | .leaving => some ((life.perform .appDown).goTo .exiting)
  | .exiting =>
      some ((if exitCb then life.perform .exitCb else life).goTo .closing)
  | .closing =>
      some ((life.perform .producerClose).goTo (.destroying .individual))
  | .destroying name =>
      (life.onThread name .test).map (goTo
        (if (life.thread name).loop.running then .found name else name.after))
  | .found name =>
      (life.onThread name .store).map (goTo (.acquiring name))
  | .acquiring name =>
      (life.onThread name .acquire).map (goTo name.after)
  | _ => none

/-- The thread that runs the loop is there to do so. -/
def MayRun (life : Lifecycle) : LoopName → Prop
  | .group => life.main.Launched
  | .individual => life.main = .looping

instance (life : Lifecycle) (name : LoopName) : Decidable (life.MayRun name) :=
  match name with
  | .group => inferInstanceAs (Decidable life.main.Launched)
  | .individual => inferInstanceAs (Decidable (life.main = .looping))

/-- Where `initializeMiddleWare` stands when the loop has been left. -/
def released (life : Lifecycle) : LoopName → MainPhase
  | .group => life.main
  | .individual => .leaving

def step (exitCb : Bool) (life : Lifecycle) :
    LifecycleEvent → Option Lifecycle
  | .create result =>
      if life.main = .creating then
        match result.reported with
        | some error =>
            some ((life.perform (.errCallback error)).goTo .failed)
        | none => some ({ life with heartbeats := true }.goTo .subscribing)
      else none
  | .individualConsumerFunc result =>
      if life.main = .subscribing then
        match result with
        | some error =>
            some ((life.perform (.errCallback error)).goTo
              (.destroying .group))
        | none => some (life.goTo .initializing)
      else none
  | .proceed => life.proceed exitCb
  | .start name =>
      if life.MayRun name then life.onThread name (.loop .start) else none
  | .loop name event =>
      if event.IsLocal then life.onThread name (.loop event) else none
  | .release name =>
      if life.MayRun name then
        (life.onThread name .release).map (goTo (life.released name))
      else none
  | .requestShutdown =>
      some { life with thread := fun name =>
        { life.thread name with
          loop := { (life.thread name).loop with shutdownRequested := true } } }
  | .shutdownFunc =>
      if .initCallback ∈ life.performed then
        { life with heartbeats := false }.onThread .individual .test
      else none
  | .store =>
      if life.mainFound .individual < (life.thread .individual).found then
        life.onThread .individual .store
      else none
  | .acquire =>
      if life.mainAcquiring .individual <
          (life.thread .individual).acquiring then
        life.onThread .individual .acquire
      else none
  | .heartbeat =>
      if life.heartbeats then some (life.perform .heartBeat) else none

/-! ## What one step does -/

variable {exitCb : Bool} {life next : Lifecycle}

/-- The state after a step of one of the threads. -/
def moved (life : Lifecycle) (name : LoopName) (thread : LoopThread)
    (main : MainPhase) : Lifecycle :=
  { life with thread := Function.update life.thread name thread, main := main }

/-- What an event can do. -/
inductive Stepped (exitCb : Bool) (life : Lifecycle) :
    LifecycleEvent → Lifecycle → Prop
  | createFails (result : Creation) (error : Error)
      (hmain : life.main = .creating)
      (hreported : result.reported = some error) :
      Stepped exitCb life (.create result)
        ((life.perform (.errCallback error)).goTo .failed)
  | created (result : Creation) (hmain : life.main = .creating)
      (hreported : result.reported = none) :
      Stepped exitCb life (.create result)
        ({ life with heartbeats := true }.goTo .subscribing)
  | subscribeFails (error : Error) (hmain : life.main = .subscribing) :
      Stepped exitCb life (.individualConsumerFunc (some error))
        ((life.perform (.errCallback error)).goTo (.destroying .group))
  | subscribed (hmain : life.main = .subscribing) :
      Stepped exitCb life (.individualConsumerFunc none)
        (life.goTo .initializing)
  | initialized (hmain : life.main = .initializing) :
      Stepped exitCb life .proceed
        ((life.perform .initCallback).goTo .announcing)
  | announced (hmain : life.main = .announcing) :
      Stepped exitCb life .proceed ((life.perform .appUp).goTo .looping)
  | left (hmain : life.main = .leaving) :
      Stepped exitCb life .proceed ((life.perform .appDown).goTo .exiting)
  | exited (hmain : life.main = .exiting) :
      Stepped exitCb life .proceed
        ((if exitCb then life.perform .exitCb else life).goTo .closing)
  | closed (hmain : life.main = .closing) :
      Stepped exitCb life .proceed
        ((life.perform .producerClose).goTo (.destroying .individual))
  | tested (name : LoopName) (thread : LoopThread)
      (hmain : life.main = .destroying name)
      (hthread : (life.thread name).step .test = some thread) :
      Stepped exitCb life .proceed (life.moved name thread
        (if (life.thread name).loop.running then .found name else name.after))
  | stored (name : LoopName) (thread : LoopThread)
      (hmain : life.main = .found name)
      (hthread : (life.thread name).step .store = some thread) :
      Stepped exitCb life .proceed (life.moved name thread (.acquiring name))
  | acquired (name : LoopName) (thread : LoopThread)
      (hmain : life.main = .acquiring name)
      (hthread : (life.thread name).step .acquire = some thread) :
      Stepped exitCb life .proceed (life.moved name thread name.after)
  | started (name : LoopName) (thread : LoopThread)
      (hmay : life.MayRun name)
      (hthread : (life.thread name).step (.loop .start) = some thread) :
      Stepped exitCb life (.start name) (life.moved name thread life.main)
  | loop (name : LoopName) (event : LoopEvent) (thread : LoopThread)
      (hlocal : event.IsLocal = true)
      (hthread : (life.thread name).step (.loop event) = some thread) :
      Stepped exitCb life (.loop name event) (life.moved name thread life.main)
  | release (name : LoopName) (thread : LoopThread)
      (hmay : life.MayRun name)
      (hthread : (life.thread name).step .release = some thread) :
      Stepped exitCb life (.release name)
        (life.moved name thread (life.released name))
  | requestShutdown :
      Stepped exitCb life .requestShutdown
        { life with thread := fun name =>
          { life.thread name with
            loop := { (life.thread name).loop with
              shutdownRequested := true } } }
  | shutdownFunc (thread : LoopThread)
      (hinit : .initCallback ∈ life.performed)
      (hthread : (life.thread .individual).step .test = some thread) :
      Stepped exitCb life .shutdownFunc
        ({ life with heartbeats := false }.moved .individual thread life.main)
  | callStored (thread : LoopThread)
      (hcall : life.mainFound .individual < (life.thread .individual).found)
      (hthread : (life.thread .individual).step .store = some thread) :
      Stepped exitCb life .store (life.moved .individual thread life.main)
  | callAcquired (thread : LoopThread)
      (hcall : life.mainAcquiring .individual <
        (life.thread .individual).acquiring)
      (hthread : (life.thread .individual).step .acquire = some thread) :
      Stepped exitCb life .acquire (life.moved .individual thread life.main)
  | heartbeat (hon : life.heartbeats = true) :
      Stepped exitCb life .heartbeat (life.perform .heartBeat)

theorem onThread_eq_some {name : LoopName} {event : ThreadEvent} :
    life.onThread name event = some next ↔
      ∃ thread, (life.thread name).step event = some thread ∧
        life.moved name thread life.main = next := by
  rw [onThread, Option.map_eq_some_iff]
  rfl

theorem stepped_of_proceed (hstep : life.proceed exitCb = some next) :
    Stepped exitCb life .proceed next := by
  unfold proceed at hstep
  split at hstep
  · next hmain =>
      obtain rfl := Option.some.inj hstep
      exact .initialized hmain
  · next hmain =>
      obtain rfl := Option.some.inj hstep
      exact .announced hmain
  · next hmain =>
      obtain rfl := Option.some.inj hstep
      exact .left hmain
  · next hmain =>
      obtain rfl := Option.some.inj hstep
      exact .exited hmain
  · next hmain =>
      obtain rfl := Option.some.inj hstep
      exact .closed hmain
  · next name hmain =>
      obtain ⟨middle, hmiddle, rfl⟩ := Option.map_eq_some_iff.mp hstep
      obtain ⟨thread, hthread, rfl⟩ := onThread_eq_some.mp hmiddle
      exact .tested name thread hmain hthread
  · next name hmain =>
      obtain ⟨middle, hmiddle, rfl⟩ := Option.map_eq_some_iff.mp hstep
      obtain ⟨thread, hthread, rfl⟩ := onThread_eq_some.mp hmiddle
      exact .stored name thread hmain hthread
  · next name hmain =>
      obtain ⟨middle, hmiddle, rfl⟩ := Option.map_eq_some_iff.mp hstep
      obtain ⟨thread, hthread, rfl⟩ := onThread_eq_some.mp hmiddle
      exact .acquired name thread hmain hthread
  · cases hstep

theorem stepped_of_step {event : LifecycleEvent}
    (hstep : life.step exitCb event = some next) :
    Stepped exitCb life event next := by
  cases event with
  | create result =>
      rw [step] at hstep
      split at hstep
      · next hmain =>
          split at hstep
          · next error hreported =>
              obtain rfl := Option.some.inj hstep
              exact .createFails result error hmain hreported
          · next hreported =>
              obtain rfl := Option.some.inj hstep
              exact .created result hmain hreported
      · cases hstep
  | individualConsumerFunc result =>
      unfold step at hstep
      dsimp only at hstep
      split at hstep
      · next hmain =>
          split at hstep
          · next error =>
              obtain rfl := Option.some.inj hstep
              exact .subscribeFails error hmain
          · obtain rfl := Option.some.inj hstep
            exact .subscribed hmain
      · cases hstep
  | proceed => exact stepped_of_proceed hstep
  | start name =>
      rw [step] at hstep
      split at hstep
      · next hmay =>
          obtain ⟨thread, hthread, rfl⟩ := onThread_eq_some.mp hstep
          exact .started name thread hmay hthread
      · cases hstep
  | loop name event =>
      rw [step] at hstep
      split at hstep
      · next hlocal =>
          obtain ⟨thread, hthread, rfl⟩ := onThread_eq_some.mp hstep
          exact .loop name event thread hlocal hthread
      · cases hstep
  | release name =>
      rw [step] at hstep
      split at hstep
      · next hmay =>
          obtain ⟨middle, hmiddle, rfl⟩ := Option.map_eq_some_iff.mp hstep
          obtain ⟨thread, hthread, rfl⟩ := onThread_eq_some.mp hmiddle
          exact .release name thread hmay hthread
      · cases hstep
  | requestShutdown =>
      obtain rfl := Option.some.inj hstep
      exact .requestShutdown
  | shutdownFunc =>
      rw [step] at hstep
      split at hstep
      · next hinit =>
          obtain ⟨thread, hthread, rfl⟩ := onThread_eq_some.mp hstep
          exact .shutdownFunc thread hinit hthread
      · cases hstep
  | store =>
      rw [step] at hstep
      split at hstep
      · next hcall =>
          obtain ⟨thread, hthread, rfl⟩ := onThread_eq_some.mp hstep
          exact .callStored thread hcall hthread
      · cases hstep
  | acquire =>
      rw [step] at hstep
      split at hstep
      · next hcall =>
          obtain ⟨thread, hthread, rfl⟩ := onThread_eq_some.mp hstep
          exact .callAcquired thread hcall hthread
      · cases hstep
  | heartbeat =>
      rw [step] at hstep
      split at hstep
      · next hon =>
          obtain rfl := Option.some.inj hstep
          exact .heartbeat hon
      · cases hstep

@[simp]
theorem moved_main (name : LoopName) (thread : LoopThread) (main : MainPhase) :
    (life.moved name thread main).main = main := rfl

@[simp]
theorem moved_thread_self (name : LoopName) (thread : LoopThread)
    (main : MainPhase) :
    (life.moved name thread main).thread name = thread := by
  simp only [moved, Function.update_self]

theorem moved_thread_of_ne {name other : LoopName} (hother : other ≠ name)
    (thread : LoopThread) (main : MainPhase) :
    (life.moved name thread main).thread other = life.thread other := by
  simp only [moved, Function.update_of_ne hother]

@[simp]
theorem moved_group_individual (thread : LoopThread) (main : MainPhase) :
    (life.moved .group thread main).thread .individual =
      life.thread .individual := rfl

@[simp]
theorem moved_individual_group (thread : LoopThread) (main : MainPhase) :
    (life.moved .individual thread main).thread .group = life.thread .group :=
  rfl

@[simp]
theorem moved_performed (name : LoopName) (thread : LoopThread)
    (main : MainPhase) :
    (life.moved name thread main).performed = life.performed := rfl

/-! ## The loops and those that kill them -/

theorem sound_moved {name : LoopName} {event : ThreadEvent}
    {thread : LoopThread} (hsound : ∀ name, (life.thread name).Sound)
    (hthread : (life.thread name).step event = some thread) (main : MainPhase)
    (other : LoopName) :
    ((life.moved name thread main).thread other).Sound := by
  by_cases hother : other = name
  · subst hother
    rw [moved_thread_self]
    exact (hsound other).step hthread
  · rw [moved_thread_of_ne hother]
    exact hsound other

theorem sound_step {event : LifecycleEvent}
    (hsound : ∀ name, (life.thread name).Sound)
    (hstep : life.step exitCb event = some next) (name : LoopName) :
    (next.thread name).Sound := by
  cases stepped_of_step hstep with
  | createFails | created | subscribeFails | subscribed | initialized
  | announced | left | closed | heartbeat => exact hsound name
  | exited =>
      cases exitCb <;> exact hsound name
  | tested _ _ _ hthread | stored _ _ _ hthread | acquired _ _ _ hthread
  | started _ _ _ hthread | loop _ _ _ _ hthread | release _ _ _ hthread
  | callStored _ _ hthread | callAcquired _ _ hthread =>
      exact sound_moved hsound hthread _ name
  | shutdownFunc thread hinit hthread =>
      exact @sound_moved { life with heartbeats := false } _ _ _ hsound hthread
        life.main name
  | requestShutdown =>
      obtain ⟨hcreated, hrunning, hreleased, hacquired⟩ := hsound name
      exact ⟨hcreated, hrunning, hreleased, hacquired⟩

/-- The calls of `kill` that belong to `main`. -/
structure Counted (life : Lifecycle) : Prop where
  hgroup : (life.thread .group).found = life.mainFound .group ∧
    (life.thread .group).acquiring = life.mainAcquiring .group ∧
    (0 < (life.thread .group).acquired → life.main = .returned)
  hindividual :
    life.mainFound .individual ≤ (life.thread .individual).found ∧
    life.mainAcquiring .individual ≤ (life.thread .individual).acquiring

/-- What comes before and after has nothing to do with `kill`. -/
theorem Counted.quiet (hcounted : life.Counted)
    (hthread : next.thread = life.thread)
    (hbefore : ∀ name, life.main ≠ .found name ∧ life.main ≠ .acquiring name)
    (hreturned : life.main ≠ .returned)
    (hafter : ∀ name, next.main ≠ .found name ∧ next.main ≠ .acquiring name) :
    next.Counted := by
  obtain ⟨⟨hfound, hwaits, hthrough⟩, -⟩ := hcounted
  constructor
  · rw [mainFound, if_neg (hbefore .group).1] at hfound
    rw [mainAcquiring, if_neg (hbefore .group).2] at hwaits
    rw [hthread, mainFound, mainAcquiring, if_neg (hafter .group).1,
      if_neg (hafter .group).2]
    exact ⟨hfound, hwaits, fun hgot => absurd (hthrough hgot) hreturned⟩
  · rw [mainFound, mainAcquiring, if_neg (hafter .individual).1,
      if_neg (hafter .individual).2]
    exact ⟨Nat.zero_le _, Nat.zero_le _⟩

/-- A step of a loop leaves the calls of `kill` alone. -/
theorem Counted.loop (hcounted : life.Counted) {name : LoopName}
    {thread : LoopThread}
    (hfound : thread.found = (life.thread name).found)
    (hwaits : thread.acquiring = (life.thread name).acquiring)
    (hthrough : thread.acquired = (life.thread name).acquired) :
    (life.moved name thread life.main).Counted := by
  obtain ⟨hgroup, hindividual⟩ := hcounted
  cases name with
  | group =>
      constructor
      · rw [moved_thread_self, hfound, hwaits, hthrough]
        exact hgroup
      · exact hindividual
  | individual =>
      constructor
      · exact hgroup
      · rw [moved_thread_self, hfound, hwaits]
        exact hindividual

theorem Counted.step {event : LifecycleEvent} (hcounted : life.Counted)
    (hstep : life.step exitCb event = some next) : next.Counted := by
  cases stepped_of_step hstep with
  | createFails _ _ hmain | created _ hmain | subscribeFails _ hmain
  | subscribed hmain | initialized hmain | announced hmain | left hmain
  | closed hmain =>
      apply hcounted.quiet
      · rfl
      all_goals simp [hmain, goTo]
  | exited hmain =>
      apply hcounted.quiet
      · cases exitCb <;> rfl
      all_goals simp [hmain, goTo]
  | tested name thread hmain hthread =>
      obtain ⟨⟨hfound, hwaits, hthrough⟩, hcalls⟩ := hcounted
      simp only [mainFound, mainAcquiring, hmain] at hfound hwaits hthrough
      cases LoopThread.stepped_of_step hthread with
      | found hrunning =>
          rw [if_pos hrunning]
          cases name <;> constructor <;>
            simp_all [mainFound, mainAcquiring]
      | missed hrunning =>
          rw [if_neg (by simp [hrunning])]
          cases name <;> constructor <;>
            simp_all [mainFound, mainAcquiring, LoopName.after]
  | stored name thread hmain hthread =>
      obtain ⟨⟨hfound, hwaits, hthrough⟩, hcalls⟩ := hcounted
      simp only [mainFound, mainAcquiring, hmain]
        at hfound hwaits hthrough hcalls
      cases LoopThread.stepped_of_step hthread with
      | store =>
          cases name <;> constructor <;>
            simp_all [mainFound, mainAcquiring]
  | acquired name thread hmain hthread =>
      obtain ⟨⟨hfound, hwaits, hthrough⟩, hcalls⟩ := hcounted
      simp only [mainFound, mainAcquiring, hmain]
        at hfound hwaits hthrough hcalls
      cases LoopThread.stepped_of_step hthread with
      | acquire =>
          cases name <;> constructor <;>
            simp_all [mainFound, mainAcquiring, LoopName.after]
  | started name thread hmay hthread | loop name event thread hlocal hthread =>
      cases LoopThread.stepped_of_step hthread with
      | loop => exact hcounted.loop rfl rfl rfl
  | release name thread hmay hthread =>
      cases LoopThread.stepped_of_step hthread with
      | release =>
        have hmoved := @Counted.loop life hcounted name
          { life.thread name with released := true } rfl rfl rfl
        cases name with
        | group => exact hmoved
        | individual =>
            have hmain : life.main = .looping := hmay
            apply hmoved.quiet
            · rfl
            all_goals simp [hmain, released]
  | requestShutdown => exact ⟨hcounted.hgroup, hcounted.hindividual⟩
  | heartbeat => exact ⟨hcounted.hgroup, hcounted.hindividual⟩
  | shutdownFunc thread hinit hthread =>
      obtain ⟨hgroup, hfound, hwaits⟩ := hcounted
      refine ⟨hgroup, ?_⟩
      rw [moved_thread_self]
      cases LoopThread.stepped_of_step hthread with
      | found => exact ⟨hfound.trans (Nat.le_succ _), hwaits⟩
      | missed => exact ⟨hfound, hwaits⟩
  | callStored thread hcall hthread =>
      obtain ⟨hgroup, hfound, hwaits⟩ := hcounted
      refine ⟨hgroup, ?_⟩
      rw [moved_thread_self]
      cases LoopThread.stepped_of_step hthread with
      | store => exact ⟨Nat.le_pred_of_lt hcall, hwaits.trans (Nat.le_succ _)⟩
  | callAcquired thread hcall hthread =>
      obtain ⟨hgroup, hfound, hwaits⟩ := hcounted
      refine ⟨hgroup, ?_⟩
      rw [moved_thread_self]
      cases LoopThread.stepped_of_step hthread with
      | acquire => exact ⟨hfound, Nat.le_pred_of_lt hcall⟩

end Lifecycle

end MultiMarketPrices.MiddleWare
