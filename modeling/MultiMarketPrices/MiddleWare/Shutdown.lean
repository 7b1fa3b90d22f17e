import MultiMarketPrices.MiddleWare.Script

/-!
# The end of a component

Once a stop has been requested, `initializeMiddleWare` and the loops come to
their end after a number of steps that the state bounds, and none of them gets
stuck, unless two calls of `kill` get into each other's way.  The thread of the
group's loop is detached, and nobody waits for it if it has not begun.
-/

namespace MultiMarketPrices.MiddleWare

/-! ## The steps that are left -/

/-- Steps of the thread that runs the loop. -/
def LoopEvent.IsOwn : LoopEvent → Bool
  | .start | .check | .poll _ | .next | .commitAsync => true
  | _ => false

namespace ConsumptionLoop

variable {loop next : ConsumptionLoop}

/-- How many steps a loop that has been asked to stop goes on at most. -/
def left (loop : ConsumptionLoop) : ℕ :=
  match loop.phase with
  | .created => 3
  | .checking => 2
  | .polling => loop.log.length - loop.position + 4
  | .handling rest => rest.length + 3
  | .closed => 1

theorem left_step {event : LoopEvent} (hown : event.IsOwn = true)
    (hflag : loop.shutdownRequested = true)
    (hstep : loop.step event = some next) :
    next.left < loop.left ∧ next.shutdownRequested = true := by
  cases stepped_of_step hstep with
  | append | noted | work | kill | requestShutdown | restart => cases hown
  | start hphase => simp [left, hphase, hflag]
  | checked hphase hgo =>
      rw [hgo.2] at hflag
      cases hflag
  | closed hphase => simp [left, hphase, hflag]
  | poll count polled hphase hpolled =>
      refine ⟨?_, hflag⟩
      simp only [left, hphase, List.length_range']
      omega
  | pushed offset rest hphase | reported offset rest hphase =>
      simp [left, hphase, hflag]
  | commitAsync hphase => simp [left, hphase, hflag]

/-- A loop that has not ended can go on. -/
theorem exists_own (hopen : loop.phase ≠ .closed) :
    ∃ event, LoopEvent.IsOwn event = true ∧
      (event = .start ∨ event.IsLocal = true) ∧
      (loop.step event).isSome = true := by
  cases hphase : loop.phase with
  | created => exact ⟨.start, rfl, .inl rfl, by simp [step, hphase]⟩
  | checking => exact ⟨.check, rfl, .inr rfl, by simp [step, hphase]⟩
  | polling => exact ⟨.poll 0, rfl, .inr rfl, by simp [step, hphase]⟩
  | handling rest =>
      cases rest with
      | nil => exact ⟨.commitAsync, rfl, .inr rfl, by simp [step, hphase]⟩
      | cons offset rest =>
          refine ⟨.next, rfl, .inr rfl, ?_⟩
          cases hrecord : loop.isRecord offset <;>
            simp [step, hphase, hrecord]
  | closed => exact absurd hphase hopen

end ConsumptionLoop

namespace LoopThread

variable {thread next : LoopThread}

/-- The steps that are left of the loop and of the calls of `kill` count at
most as much. -/
def left (thread : LoopThread) : ℕ :=
  (if thread.released then 0 else thread.loop.left) + 2 * thread.found +
    thread.acquiring

/-- Only a call of `kill` that finds the loop running makes more of them. -/
theorem left_test (hstep : thread.step .test = some next) :
    next.left = thread.left + (if thread.loop.running then 2 else 0) ∧
      next.loop = thread.loop := by
  cases stepped_of_step hstep with
  | found hrunning =>
      refine ⟨?_, rfl⟩
      simp only [left, hrunning, if_true]
      omega
  | missed hrunning => simp [hrunning]

theorem left_step {event : ThreadEvent} (hsound : thread.Sound)
    (hflag : thread.loop.shutdownRequested = true) (hevent : event ≠ .test)
    (hown : ∀ own, event = .loop own → own.IsOwn = true)
    (hstep : thread.step event = some next) :
    next.left < thread.left ∧ next.loop.shutdownRequested = true := by
  cases stepped_of_step hstep with
  | loop own loop hordinary hloop =>
      obtain ⟨hless, hkept⟩ :=
        ConsumptionLoop.left_step (hown own rfl) hflag hloop
      refine ⟨?_, hkept⟩
      cases hreleased : thread.released with
      | false =>
          simp only [left, hreleased, Bool.false_eq_true, if_false]
          omega
      | true =>
          have hclosed := hsound.hreleased hreleased
          cases ConsumptionLoop.stepped_of_step hloop with
          | append | noted | work | kill | requestShutdown | restart =>
              cases hown _ rfl
          | start hphase | checked hphase | closed hphase | poll _ _ hphase
          | pushed _ _ hphase | reported _ _ hphase | commitAsync hphase =>
              rw [hclosed] at hphase
              cases hphase
  | release hclosed hreleased =>
      refine ⟨?_, hflag⟩
      simp [left, hreleased, ConsumptionLoop.left, hclosed]
  | found | missed => exact absurd rfl hevent
  | store hfound =>
      refine ⟨?_, hflag⟩
      simp only [left, ConsumptionLoop.left]
      omega
  | acquire hwaits =>
      refine ⟨?_, hflag⟩
      simp only [left]
      omega

end LoopThread

/-- What `initializeMiddleWare`, the loops' threads and the calls of
`shutdownFunc` under way do by themselves. -/
def LifecycleEvent.IsOwn : LifecycleEvent → Bool
  | .create _ | .individualConsumerFunc _ | .proceed | .start _ | .release _
  | .store | .acquire => true
  | .loop _ event => event.IsOwn
  | _ => false

namespace Lifecycle

variable {exitCb : Bool} {life next : Lifecycle}

/-- How many such steps are left at most. -/
def stepsLeft (life : Lifecycle) : ℕ :=
  life.main.left + (life.thread .group).left + (life.thread .individual).left

/-- A stop has been requested. -/
def Flagged (life : Lifecycle) : Prop :=
  ∀ name, (life.thread name).loop.shutdownRequested = true

theorem Flagged.moved (hflagged : life.Flagged) {name : LoopName}
    {thread : LoopThread} (hthread : thread.loop.shutdownRequested = true)
    (main : MainPhase) : (life.moved name thread main).Flagged := by
  intro other
  by_cases hother : other = name
  · subst hother
    rw [moved_thread_self]
    exact hthread
  · rw [moved_thread_of_ne hother]
    exact hflagged other

/-- A step that a thread makes while `main` stays or goes on. -/
theorem stepsLeft_moved {name : LoopName} {thread : LoopThread}
    {main : MainPhase}
    (hless : main.left + thread.left <
      life.main.left + (life.thread name).left) :
    (life.moved name thread main).stepsLeft < life.stepsLeft := by
  cases name with
  | group =>
      simp only [stepsLeft, moved_main, moved_thread_self,
        moved_group_individual]
      omega
  | individual =>
      simp only [stepsLeft, moved_main, moved_thread_self,
        moved_individual_group]
      omega

theorem stepsLeft_step {event : LifecycleEvent}
    (hsound : ∀ name, (life.thread name).Sound) (hflagged : life.Flagged)
    (hown : event.IsOwn = true) (hstep : life.step exitCb event = some next) :
    next.stepsLeft < life.stepsLeft ∧ next.Flagged := by
  cases stepped_of_step hstep with
  | createFails _ _ hmain | created _ hmain | subscribeFails _ hmain
  | subscribed hmain | initialized hmain | announced hmain | left hmain
  | closed hmain =>
      refine ⟨?_, hflagged⟩
      simp [stepsLeft, goTo, perform, hmain, MainPhase.left]
  | exited hmain =>
      cases exitCb <;>
        exact ⟨by simp [stepsLeft, goTo, perform, hmain, MainPhase.left],
          hflagged⟩
  | tested name thread hmain hthread =>
      obtain ⟨hleft, hloop⟩ := LoopThread.left_test hthread
      refine ⟨stepsLeft_moved ?_, hflagged.moved ?_ _⟩
      · rw [hleft, hmain]
        cases name <;> split <;> simp [MainPhase.left, LoopName.after]
        all_goals omega
      · rw [hloop]
        exact hflagged name
  | stored name thread hmain hthread =>
      obtain ⟨hless, hkept⟩ := LoopThread.left_step (hsound name)
        (hflagged name) (by simp) (by simp) hthread
      refine ⟨stepsLeft_moved ?_, hflagged.moved hkept _⟩
      rw [hmain]
      cases name <;> simpa [MainPhase.left] using hless
  | acquired name thread hmain hthread =>
      obtain ⟨hless, hkept⟩ := LoopThread.left_step (hsound name)
        (hflagged name) (by simp) (by simp) hthread
      refine ⟨stepsLeft_moved ?_, hflagged.moved hkept _⟩
      rw [hmain]
      cases name <;> simp [MainPhase.left, LoopName.after]
      all_goals omega
  | started name thread hmay hthread =>
      obtain ⟨hless, hkept⟩ := LoopThread.left_step (hsound name)
        (hflagged name) (by simp) (by rintro _ ⟨⟩; rfl) hthread
      exact ⟨stepsLeft_moved (by omega), hflagged.moved hkept _⟩
  | loop name event thread hlocal hthread =>
      obtain ⟨hless, hkept⟩ := LoopThread.left_step (hsound name)
        (hflagged name) (by simp) (by rintro _ ⟨⟩; exact hown) hthread
      exact ⟨stepsLeft_moved (by omega), hflagged.moved hkept _⟩
  | release name thread hmay hthread =>
      obtain ⟨hless, hkept⟩ := LoopThread.left_step (hsound name)
        (hflagged name) (by simp) (by simp) hthread
      refine ⟨stepsLeft_moved ?_, hflagged.moved hkept _⟩
      cases name with
      | group => exact Nat.add_lt_add_left hless _
      | individual =>
          have hmain : life.main = .looping := hmay
          simp only [released, hmain, MainPhase.left]
          omega
  | callStored thread _ hthread | callAcquired thread _ hthread =>
      obtain ⟨hless, hkept⟩ := LoopThread.left_step (hsound .individual)
        (hflagged .individual) (by simp) (by simp) hthread
      exact ⟨stepsLeft_moved (by omega), hflagged.moved hkept _⟩
  | requestShutdown | shutdownFunc | heartbeat => cases hown

/-! ## Nobody gets stuck -/

/-- `kill` of the individual loop, in `shutdownFunc` or in the destructor, does
not find it running while another call is about to tell it to stop. -/
def OneAtATime (life : Lifecycle) (event : LifecycleEvent) : Prop :=
  event = .shutdownFunc ∨
      event = .proceed ∧ life.main = .destroying .individual →
    (life.thread .individual).loop.running = true →
      (life.thread .individual).found = 0

theorem claims_step {event : LifecycleEvent}
    (hsound : (life.thread .individual).Sound)
    (hone : (life.thread .individual).claims ≤ 1)
    (hguard : life.OneAtATime event)
    (hstep : life.step exitCb event = some next) :
    (next.thread .individual).claims ≤ 1 := by
  cases stepped_of_step hstep with
  | createFails | created | subscribeFails | subscribed | initialized
  | announced | left | closed | requestShutdown | heartbeat => exact hone
  | exited => cases exitCb <;> exact hone
  | tested name thread hmain hthread =>
      cases name with
      | group => exact hone
      | individual =>
          rw [moved_thread_self]
          exact hsound.claims_step_le hone (fun _ => hguard (.inr ⟨rfl, hmain⟩))
            hthread
  | shutdownFunc thread hinit hthread =>
      rw [moved_thread_self]
      exact hsound.claims_step_le hone (fun _ => hguard (.inl rfl)) hthread
  | stored name thread _ hthread | acquired name thread _ hthread
  | started name thread _ hthread | loop name _ thread _ hthread
  | release name thread _ hthread =>
      cases name with
      | group => exact hone
      | individual =>
          rw [moved_thread_self]
          exact (LoopThread.claims_step (by simp) hthread).trans_le hone
  | callStored thread _ hthread | callAcquired thread _ hthread =>
      rw [moved_thread_self]
      exact (LoopThread.claims_step (by simp) hthread).trans_le hone

/-- Something can be done by itself. -/
def CanGoOn (exitCb : Bool) (life : Lifecycle) : Prop :=
  ∃ event, LifecycleEvent.IsOwn event = true ∧
    (life.step exitCb event).isSome = true

theorem isSome_onThread {name : LoopName} {event : ThreadEvent}
    (hthread : ((life.thread name).step event).isSome = true) :
    (life.onThread name event).isSome = true := by
  rw [onThread, Option.isSome_map]
  exact hthread

/-- A loop that has not been left can go on. -/
theorem canGoOn_of_loop {name : LoopName} (hmay : life.MayRun name)
    (hopen : (life.thread name).released = false) : life.CanGoOn exitCb := by
  by_cases hclosed : (life.thread name).loop.phase = .closed
  · refine ⟨.release name, rfl, ?_⟩
    rw [step, if_pos hmay, Option.isSome_map]
    apply isSome_onThread
    rw [LoopThread.step, if_pos ⟨hclosed, hopen⟩]
    rfl
  · obtain ⟨event, hown, hstart | hlocal, henabled⟩ :=
      ConsumptionLoop.exists_own hclosed
    · subst hstart
      refine ⟨.start name, rfl, ?_⟩
      rw [step, if_pos hmay]
      apply isSome_onThread
      rw [LoopThread.step, if_pos, Option.isSome_map]
      · exact henabled
      · rfl
    · refine ⟨.loop name event, hown, ?_⟩
      rw [step, if_pos hlocal]
      apply isSome_onThread
      rw [LoopThread.step, if_pos, Option.isSome_map]
      · exact henabled
      · cases event <;> first | rfl | cases hlocal

theorem canGoOn_of_acquiring {name : LoopName}
    (hmain : life.main = .acquiring name)
    (hwaits : 0 < (life.thread name).acquiring)
    (hreleased : (life.thread name).released = true)
    (hfree : (life.thread name).acquired = 0) : life.CanGoOn exitCb := by
  refine ⟨.proceed, rfl, ?_⟩
  simp only [step, proceed, hmain, Option.isSome_map]
  apply isSome_onThread
  rw [LoopThread.step, if_pos ⟨hwaits, hreleased, hfree⟩]
  rfl

/-- `main` gets on unless it has come to an end. -/
theorem canGoOn_of_main (horderly : Orderly exitCb life)
    (hone : (life.thread .individual).claims ≤ 1)
    (hreturned : life.main ≠ .returned) (hfailed : life.main ≠ .failed) :
    life.CanGoOn exitCb := by
  obtain ⟨hsound, ⟨hgroup, hindividual⟩, hway⟩ := horderly
  cases hmain : life.main with
  | failed => exact absurd hmain hfailed
  | returned => exact absurd hmain hreturned
  | creating =>
      exact ⟨.create .exception, rfl, by simp [step, hmain, Creation.reported]⟩
  | subscribing =>
      exact ⟨.individualConsumerFunc none, rfl, by simp [step, hmain]⟩
  | initializing | announcing | leaving | exiting | closing =>
      exact ⟨.proceed, rfl, by simp [step, proceed, hmain]⟩
  | looping =>
      apply @canGoOn_of_loop exitCb life .individual hmain
      rcases hway with hway | ⟨hleft, -⟩
      · have hreleased := hway.hreleased
        rw [hmain] at hreleased
        simpa [MainPhase.left] using hreleased
      · rw [hmain] at hleft
        exact absurd hleft (by decide)
  | destroying name =>
      refine ⟨.proceed, rfl, ?_⟩
      simp only [step, proceed, hmain, Option.isSome_map]
      apply isSome_onThread
      rw [LoopThread.step]
      split <;> rfl
  | found name =>
      have hfound : 0 < (life.thread name).found := by
        cases name with
        | group => simp [hgroup.1, mainFound, hmain]
        | individual =>
            have hone := hindividual.1
            rw [mainFound, if_pos hmain] at hone
            exact hone
      refine ⟨.proceed, rfl, ?_⟩
      simp only [step, proceed, hmain, Option.isSome_map]
      apply isSome_onThread
      rw [LoopThread.step, if_pos hfound]
      rfl
  | acquiring name =>
      cases name with
      | group =>
          obtain ⟨-, hwaits, hthrough⟩ := hgroup
          rw [mainAcquiring, if_pos hmain] at hwaits
          have hfree : (life.thread .group).acquired = 0 := by
            by_contra hgot
            rw [hthrough (Nat.pos_of_ne_zero hgot)] at hmain
            cases hmain
          cases hreleased : (life.thread .group).released with
          | true => exact canGoOn_of_acquiring hmain (by omega) hreleased hfree
          | false =>
              apply @canGoOn_of_loop exitCb life .group _ hreleased
              rw [MayRun, hmain]
              exact ⟨by simp, by simp⟩
      | individual =>
          have hwaits := hindividual.2
          rw [mainAcquiring, if_pos hmain] at hwaits
          rw [LoopThread.claims] at hone
          apply canGoOn_of_acquiring hmain hwaits _ (by omega)
          rcases hway with hway | ⟨hleft, -⟩
          · apply hway.hreleased.mpr
            rw [hmain]
            decide
          · rw [hmain] at hleft
            exact absurd hleft (by decide)

/-- So does a call of `shutdownFunc` under way. -/
theorem canGoOn_of_call (horderly : Orderly exitCb life)
    (hone : (life.thread .individual).claims ≤ 1)
    (hended : life.main = .returned ∨ life.main = .failed)
    (hcall : 0 < (life.thread .individual).found +
      (life.thread .individual).acquiring) : life.CanGoOn exitCb := by
  obtain ⟨hsound, -, hway⟩ := horderly
  rw [LoopThread.claims] at hone
  by_cases hfound : 0 < (life.thread .individual).found
  · refine ⟨.store, rfl, ?_⟩
    have hmain : life.mainFound .individual = 0 := by
      rcases hended with hmain | hmain <;> simp [mainFound, hmain]
    rw [step, if_pos (by omega)]
    apply isSome_onThread
    rw [LoopThread.step, if_pos hfound]
    rfl
  · have hreleased : (life.thread .individual).released = true := by
      rcases hway with hway | ⟨-, hcreated, -⟩
      · apply hway.hreleased.mpr
        rcases hended with hmain | hmain
        · rw [hmain]
          decide
        · exact absurd hmain hway.hfailed
      · have hnone := ((hsound .individual).hcreated hcreated).2
        rw [LoopThread.claims] at hnone
        omega
    refine ⟨.acquire, rfl, ?_⟩
    have hmain : life.mainAcquiring .individual = 0 := by
      rcases hended with hmain | hmain <;> simp [mainAcquiring, hmain]
    rw [step, if_pos (by omega)]
    apply isSome_onThread
    rw [LoopThread.step, if_pos ⟨by omega, hreleased, by omega⟩]
    rfl

variable {params : InitParams}

theorem claims_of_run
    (haccepted : ∀ check ∈ params.checks, check.1 = false)
    {events : List LifecycleEvent}
    (halone : Runs.EveryStep (step params.exitCb) OneAtATime (start params)
      events)
    (hrun : Runs.run (step params.exitCb) (start params) events = some life) :
    (life.thread .individual).claims ≤ 1 := by
  have hboth : Orderly params.exitCb life ∧
      (life.thread .individual).claims ≤ 1 :=
    halone.invariant
      (fun life => Orderly params.exitCb life ∧
        (life.thread .individual).claims ≤ 1)
      (fun _ _ _ hbefore hguard hstep =>
        ⟨hbefore.1.step hstep,
          claims_step (hbefore.1.hsound .individual) hbefore.2 hguard hstep⟩)
      ⟨orderly_start haccepted, Nat.zero_le 1⟩ hrun
  exact hboth.2

/-- After a stop has been requested, `initializeMiddleWare`, the loops and the
calls of `shutdownFunc` make only as many steps as the state allows, whatever
their order; and unless two calls of `kill` have got into each other's way, they
do not get stuck before the function has returned and every call is through. -/
theorem returns_of_requestShutdown (params : InitParams)
    (haccepted : ∀ check ∈ params.checks, check.1 = false)
    (events : List LifecycleEvent) (life : Lifecycle)
    (hrun : Runs.run (step params.exitCb) (start params) events = some life)
    (hrequested : .requestShutdown ∈ events) :
    (∀ own finish, (∀ event ∈ own, LifecycleEvent.IsOwn event = true) →
      Runs.run (step params.exitCb) life own = some finish →
      own.length + finish.stepsLeft ≤ life.stepsLeft) ∧
    (Runs.EveryStep (step params.exitCb) OneAtATime (start params) events →
      (life.main ≠ .returned ∧ life.main ≠ .failed) ∨
        0 < (life.thread .individual).found +
          (life.thread .individual).acquiring →
      ∃ event, LifecycleEvent.IsOwn event = true ∧
        (life.step params.exitCb event).isSome = true) := by
  have horderly := orderly_of_run haccepted hrun
  have hflagged : life.Flagged := fun name =>
    ((traced_of_run haccepted hrun).hflag name).mpr hrequested
  constructor
  · intro own finish hown hrest
    have hsound := horderly.hsound
    clear hrun horderly
    induction own generalizing life with
    | nil =>
        obtain rfl : life = finish := by simpa using hrest
        simp
    | cons event own ih =>
        rw [List.forall_mem_cons] at hown
        rw [Runs.run_cons, Option.bind_eq_some_iff] at hrest
        obtain ⟨middle, hfirst, hrest⟩ := hrest
        obtain ⟨hless, hstill⟩ :=
          stepsLeft_step hsound hflagged hown.1 hfirst
        have hlater :=
          ih middle hstill hown.2 hrest (sound_step hsound hfirst)
        rw [List.length_cons]
        omega
  · intro halone hopen
    have hone := claims_of_run haccepted halone hrun
    by_cases hended : life.main = .returned ∨ life.main = .failed
    · apply canGoOn_of_call horderly hone hended
      rcases hopen with ⟨hreturned, hfailed⟩ | hcall
      · exact absurd hended (not_or.mpr ⟨hreturned, hfailed⟩)
      · exact hcall
    · obtain ⟨hreturned, hfailed⟩ := not_or.mp hended
      exact canGoOn_of_main horderly hone hreturned hfailed

theorem returns_of_requestShutdown_of_stopBySignal :
    ∃ life, Runs.run (step completeParams.exitCb) (start completeParams)
        (stopBySignal.take 7) = some life ∧
      life.main = .looping ∧ life.stepsLeft = 16 ∧
      ∀ own finish, (∀ event ∈ own, LifecycleEvent.IsOwn event = true) →
        Runs.run (step completeParams.exitCb) life own = some finish →
        own.length + finish.stepsLeft ≤ life.stepsLeft := by
  obtain ⟨life, hrun, hmain, hleft⟩ : ∃ life,
      Runs.run (step completeParams.exitCb) (start completeParams)
        (stopBySignal.take 7) = some life ∧
      life.main = .looping ∧ life.stepsLeft = 16 := ⟨_, rfl, rfl, rfl⟩
  exact ⟨life, hrun, hmain, hleft,
    (returns_of_requestShutdown completeParams (by decide)
      (stopBySignal.take 7) life hrun (by simp [stopBySignal])).1⟩

/-! ## The detached thread -/

/-- Once the function has returned, the group's loop has been left. -/
def GroupLeft (life : Lifecycle) : Prop :=
  life.main = .returned → (life.thread .group).released = true

/-- When the group's loop is destroyed, its thread has begun. -/
def GroupBegun (life : Lifecycle) (event : LifecycleEvent) : Prop :=
  event = .proceed → life.main = .destroying .group →
    (life.thread .group).loop.phase ≠ .created

/-- Nobody but its destructor stops the group's loop. -/
structure Attended (life : Lifecycle) : Prop where
  hsound : ∀ name, (life.thread name).Sound
  hleft : life.GroupLeft
  hrunning : (life.thread .group).loop.running = false →
    (life.thread .group).loop.phase = .created ∨ life.main.left ≤ 1

theorem running_loop {thread next : LoopThread} {event : ThreadEvent}
    (hevent : event ≠ .store) (hstep : thread.step event = some next)
    (hbefore : thread.loop.running = false → thread.loop.phase = .created) :
    next.loop.running = false → next.loop.phase = .created := by
  cases LoopThread.stepped_of_step hstep with
  | loop event loop hordinary hloop =>
      cases ConsumptionLoop.stepped_of_step hloop with
      | kill | restart => cases hordinary
      | append | noted | work | requestShutdown => exact hbefore
      | start => simp
      | checked hphase | closed hphase | poll _ _ hphase
      | pushed _ _ hphase | reported _ _ hphase | commitAsync hphase =>
          intro hstop
          rw [hbefore hstop] at hphase
          cases hphase
  | store => exact absurd rfl hevent
  | release | found | missed | acquire => exact hbefore

/-- A step of a thread other than the last one of `main`. -/
theorem Attended.moved (hattended : Attended life) {name : LoopName}
    {event : ThreadEvent} {thread : LoopThread} {main : MainPhase}
    (hthread : (life.thread name).step event = some thread)
    (hstore : name = .group → event ≠ .store ∨ main.left ≤ 1)
    (hleft : life.main.left ≤ 1 → main.left ≤ 1)
    (hreturned : main = .returned → life.main = .returned ∨
      thread.released = true ∧ name = .group) :
    Attended (life.moved name thread main) := by
  obtain ⟨hsound, hgroup, hrunning⟩ := hattended
  have hkept : (life.thread name).released = true → thread.released = true := by
    cases LoopThread.stepped_of_step hthread with
    | release => exact fun _ => rfl
    | loop | found | missed | store | acquire => exact id
  refine ⟨sound_moved hsound hthread main, fun hend => ?_, ?_⟩
  · cases name with
    | group =>
        rw [moved_thread_self]
        rcases hreturned hend with hbefore | ⟨hreleased, -⟩
        · exact hkept (hgroup hbefore)
        · exact hreleased
    | individual =>
        rcases hreturned hend with hbefore | ⟨-, hname⟩
        · exact hgroup hbefore
        · cases hname
  · cases name with
    | individual => exact fun hstop => (hrunning hstop).imp_right hleft
    | group =>
        rw [moved_thread_self]
        intro hstop
        by_cases hlate : life.main.left ≤ 1
        · exact .inr (hleft hlate)
        · rcases hstore rfl with hevent | hnow
          · exact .inl (running_loop hevent hthread
              (fun hbefore => (hrunning hbefore).resolve_right hlate) hstop)
          · exact .inr hnow

/-- What `main` does before it takes the loops down. -/
theorem Attended.quiet (hattended : Attended life)
    (hthread : next.thread = life.thread) (hmain : ¬ life.main.left ≤ 1)
    (hreturned : next.main ≠ .returned) : Attended next := by
  obtain ⟨hsound, -, hrunning⟩ := hattended
  refine ⟨?_, fun hend => absurd hend hreturned, ?_⟩
  · rw [hthread]
    exact hsound
  · rw [hthread]
    exact fun hstop => .inl ((hrunning hstop).resolve_right hmain)

theorem Attended.step {event : LifecycleEvent} (hattended : Attended life)
    (hguard : life.GroupBegun event)
    (hstep : life.step exitCb event = some next) : Attended next := by
  cases stepped_of_step hstep with
  | createFails _ _ hmain | created _ hmain | subscribeFails _ hmain
  | subscribed hmain | initialized hmain | announced hmain | left hmain
  | closed hmain =>
      apply hattended.quiet
      · rfl
      · simp [hmain, MainPhase.left]
      · simp [goTo]
  | exited hmain =>
      apply hattended.quiet
      · cases exitCb <;> rfl
      · simp [hmain, MainPhase.left]
      · simp [goTo]
  | tested name thread hmain hthread =>
      have hearly : ¬ life.main.left ≤ 1 := by
        cases name <;> simp [hmain, MainPhase.left]
      apply hattended.moved hthread (fun _ => .inl (by simp))
        (fun hlate => absurd hlate hearly)
      intro hreturned
      cases name with
      | individual =>
          split at hreturned <;> cases hreturned
      | group =>
          split at hreturned
          · cases hreturned
          · next hstop =>
              have hbegun := hguard rfl hmain
              have hcreated :=
                (hattended.hrunning (by simpa using hstop)).resolve_right hearly
              exact absurd hcreated hbegun
  | stored name thread hmain hthread =>
      apply hattended.moved hthread
      · rintro rfl
        exact .inr (Nat.le_refl 1)
      · rw [hmain]
        cases name <;> exact id
      · simp
  | acquired name thread hmain hthread =>
      apply hattended.moved hthread (fun _ => .inl (by simp))
      · rw [hmain]
        cases name with
        | group => exact fun _ => Nat.zero_le 1
        | individual => simp [MainPhase.left]
      · cases name with
        | individual => simp [LoopName.after]
        | group =>
            cases LoopThread.stepped_of_step hthread with
            | acquire _ hreleased => exact fun _ => .inr ⟨hreleased, rfl⟩
  | started name thread hmay hthread =>
      exact hattended.moved hthread (fun _ => .inl (by simp)) id .inl
  | loop name event thread hlocal hthread =>
      exact hattended.moved hthread (fun _ => .inl (by simp)) id .inl
  | release name thread hmay hthread =>
      apply hattended.moved hthread (fun _ => .inl (by simp))
      · cases name with
        | group => exact id
        | individual =>
            have hmain : life.main = .looping := hmay
            simp [hmain, MainPhase.left]
      · cases name with
        | group => exact .inl
        | individual => simp [released]
  | requestShutdown =>
      refine ⟨sound_step hattended.hsound hstep, hattended.hleft, ?_⟩
      exact hattended.hrunning
  | shutdownFunc thread hinit hthread =>
      have hquiet : Attended { life with heartbeats := false } :=
        ⟨hattended.hsound, hattended.hleft, hattended.hrunning⟩
      exact hquiet.moved hthread (by simp) id .inl
  | callStored thread hcall hthread =>
      exact hattended.moved hthread (by simp) id .inl
  | callAcquired thread hcall hthread =>
      exact hattended.moved hthread (by simp) id .inl
  | heartbeat hon =>
      exact ⟨hattended.hsound, hattended.hleft, hattended.hrunning⟩

theorem not_groupLeft {event : LifecycleEvent}
    (hsound : ∀ name, (life.thread name).Sound)
    (hguard : ¬ life.GroupBegun event)
    (hstep : life.step exitCb event = some next) : ¬ next.GroupLeft := by
  simp only [GroupBegun, Classical.not_imp, not_not] at hguard
  obtain ⟨rfl, hmain, hcreated⟩ := hguard
  have hstop := ((hsound .group).hcreated hcreated).1
  cases stepped_of_step hstep with
  | initialized hother | announced hother | left hother | exited hother
  | closed hother | stored _ _ hother | acquired _ _ hother =>
      rw [hmain] at hother
      cases hother
  | tested name thread hother hthread =>
      obtain rfl : LoopName.group = name :=
        MainPhase.destroying.inj (hmain.symm.trans hother)
      have hthread : thread = life.thread .group := by
        cases LoopThread.stepped_of_step hthread with
        | found hrunning =>
            rw [hstop] at hrunning
            cases hrunning
        | missed => rfl
      intro hleft
      have hreleased := hleft (by simp [hstop, LoopName.after])
      rw [moved_thread_self, hthread] at hreleased
      have hclosed := (hsound .group).hreleased hreleased
      rw [hcreated] at hclosed
      cases hclosed

/-- The thread of the group's loop never runs it after
`initializeMiddleWare` has returned, exactly if it has begun when the loop is
destroyed. -/
theorem groupLeft_iff_groupBegun (params : InitParams)
    (haccepted : ∀ check ∈ params.checks, check.1 = false)
    (events : List LifecycleEvent) (finish : Lifecycle)
    (hrun : Runs.run (step params.exitCb) (start params) events =
      some finish) :
    Runs.EveryStep (step params.exitCb) GroupBegun (start params) events ↔
      ∀ initial, initial <+: events → ∀ life,
        Runs.run (step params.exitCb) (start params) initial = some life →
        life.GroupLeft := by
  have hstart : Attended (start params) := by
    rw [start_of_accepted haccepted]
    exact ⟨fun _ => LoopThread.sound_initial, by simp [GroupLeft],
      fun _ => .inl rfl⟩
  exact Runs.everyStep_iff_forall_good Attended GroupLeft
    (fun _ hattended => hattended.hleft)
    (fun _ _ _ hattended _ hguard hstep => hattended.step hguard hstep)
    (fun _ _ _ hattended _ hguard hstep =>
      not_groupLeft hattended.hsound hguard hstep)
    hstart (fun _ _ _ _ _ => trivial : Runs.EveryStep (step params.exitCb)
      (fun _ _ => True) (start params) events) hrun

/-- The subscription fails before the detached thread has begun. -/
def subscriptionFails : List LifecycleEvent :=
  [.create (.createTopics ⟨.noError, ""⟩),
    .individualConsumerFunc (some ⟨.unknown, ""⟩), .proceed, .start .group]

/-- The loop is started when it has been destroyed. -/
theorem groupLeft_iff_groupBegun_of_subscriptionFails :
    ∃ life, Runs.run (step completeParams.exitCb) (start completeParams)
        subscriptionFails = some life ∧
      life.main = .returned ∧ (life.thread .group).loop.running = true ∧
      (Runs.EveryStep (step completeParams.exitCb) GroupBegun
          (start completeParams) subscriptionFails ↔
        ∀ initial, initial <+: subscriptionFails → ∀ life,
          Runs.run (step completeParams.exitCb) (start completeParams)
            initial = some life → life.GroupLeft) := by
  obtain ⟨life, hrun, hmain, hrunning⟩ : ∃ life,
      Runs.run (step completeParams.exitCb) (start completeParams)
        subscriptionFails = some life ∧ life.main = .returned ∧
      (life.thread .group).loop.running = true := ⟨_, rfl, rfl, rfl⟩
  exact ⟨life, hrun, hmain, hrunning, groupLeft_iff_groupBegun completeParams
    (by decide) subscriptionFails life hrun⟩

end Lifecycle

end MultiMarketPrices.MiddleWare
