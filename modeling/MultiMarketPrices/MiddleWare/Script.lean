import MultiMarketPrices.MiddleWare.Lifecycle

/-!
# The order of a component's life

What `initializeMiddleWare` does follows a script, whatever the other threads
do meanwhile, and it gets past the loop only if somebody has asked it to.  The
heartbeats are not a part of it: only `shutdownFunc` ends them.
-/

namespace MultiMarketPrices.MiddleWare

namespace Lifecycle

variable {exitCb : Bool} {life next : Lifecycle}

/-! ## What comes after what -/

/-- What `initializeMiddleWare` does from beginning to end. -/
def script (exitCb : Bool) : List Action :=
  [.errCallback ⟨.noError, ""⟩, .initCallback, .appUp, .appDown] ++
    (if exitCb then [.exitCb] else []) ++ [.producerClose]

/-- What it has done when it stands somewhere. -/
def done (exitCb : Bool) : MainPhase → List Action
  | .creating | .failed | .subscribing | .initializing =>
      [.errCallback ⟨.noError, ""⟩]
  | .announcing => [.errCallback ⟨.noError, ""⟩, .initCallback]
  | .looping | .leaving => [.errCallback ⟨.noError, ""⟩, .initCallback, .appUp]
  | .exiting =>
      [.errCallback ⟨.noError, ""⟩, .initCallback, .appUp, .appDown]
  | .closing =>
      [.errCallback ⟨.noError, ""⟩, .initCallback, .appUp, .appDown] ++
        if exitCb then [.exitCb] else []
  | _ => script exitCb

theorem done_prefix (exitCb : Bool) (main : MainPhase) :
    done exitCb main <+: script exitCb := by
  cases main <;> cases exitCb <;> simp [done, script]

/-- What has been done, apart from the heartbeats, which come at any time. -/
def acts (life : Lifecycle) : List Action :=
  life.performed.filter (· ≠ .heartBeat)

theorem acts_perform {action : Action} (haction : action ≠ .heartBeat)
    (life : Lifecycle) :
    (life.perform action).acts = life.acts ++ [action] := by
  simp [acts, perform, haction]

theorem acts_heartbeat (life : Lifecycle) :
    (life.perform .heartBeat).acts = life.acts := by
  simp [acts, perform]

theorem mem_acts {action : Action} (haction : action ≠ .heartBeat) :
    action ∈ life.acts ↔ action ∈ life.performed := by
  simp [acts, haction]

/-- Nothing has gone wrong. -/
structure OnTheWay (exitCb : Bool) (life : Lifecycle) : Prop where
  hacts : life.acts = done exitCb life.main
  hfailed : life.main ≠ .failed
  hreleased : (life.thread .individual).released = true ↔ life.main.left < 12
  hcreated : 12 < life.main.left →
    (life.thread .individual).loop.phase = .created

/-- An error has been reported, before or after the threads were started. -/
def Aborted (life : Lifecycle) : Prop :=
  life.main.left ≤ 4 ∧ (life.thread .individual).loop.phase = .created ∧
    ∃ error, life.acts = [.errCallback ⟨.noError, ""⟩, .errCallback error]

/-- A step of a thread that neither starts a loop nor leaves it. -/
theorem loop_kept {thread next : LoopThread} {event : ThreadEvent}
    (hrelease : event ≠ .release) (hstart : event ≠ .loop .start)
    (hstep : thread.step event = some next) :
    next.released = thread.released ∧
      (thread.loop.phase = .created → next.loop.phase = .created) := by
  cases LoopThread.stepped_of_step hstep with
  | loop event loop hordinary hloop =>
      refine ⟨rfl, fun hcreated => ?_⟩
      cases ConsumptionLoop.stepped_of_step hloop with
      | append | noted | work | requestShutdown => exact hcreated
      | start => exact absurd rfl hstart
      | kill | restart => cases hordinary
      | checked hphase | closed hphase | poll _ _ hphase
      | pushed _ _ hphase | reported _ _ hphase | commitAsync hphase =>
          rw [hcreated] at hphase
          cases hphase
  | release => exact absurd rfl hrelease
  | found | missed | store | acquire => exact ⟨rfl, id⟩

/-- Such a step leaves the way open, wherever `main` goes with it. -/
theorem OnTheWay.moved (hway : OnTheWay exitCb life) {name : LoopName}
    {event : ThreadEvent} {thread : LoopThread} {main : MainPhase}
    (hrelease : event ≠ .release) (hstart : event ≠ .loop .start)
    (hthread : (life.thread name).step event = some thread)
    (hdone : done exitCb main = done exitCb life.main)
    (hfailed : main ≠ .failed) (hleft : main.left < 12 ↔ life.main.left < 12)
    (hbefore : 12 < main.left → 12 < life.main.left) :
    OnTheWay exitCb (life.moved name thread main) := by
  obtain ⟨hacts, -, hreleased, hcreated⟩ := hway
  obtain ⟨hsame, hnew⟩ := loop_kept hrelease hstart hthread
  refine ⟨hacts.trans hdone.symm, hfailed, ?_, fun hearly => ?_⟩
  · rw [moved_main, hleft, ← hreleased]
    cases name with
    | group => rfl
    | individual => rw [moved_thread_self, hsame]
  · have hcreated := hcreated (hbefore hearly)
    cases name with
    | group => exact hcreated
    | individual =>
        rw [moved_thread_self]
        exact hnew hcreated

/-- What `main` does by itself leads on if it is what comes next. -/
theorem OnTheWay.goTo (hway : OnTheWay exitCb life) {changed : Lifecycle}
    {main : MainPhase} (hthread : changed.thread = life.thread)
    (hacts : changed.acts = done exitCb main) (hfailed : main ≠ .failed)
    (hleft : main.left < 12 ↔ life.main.left < 12)
    (hbefore : 12 < main.left → 12 < life.main.left) :
    OnTheWay exitCb (changed.goTo main) := by
  refine ⟨hacts, hfailed, ?_, fun hearly => ?_⟩
  · exact (congrArg (fun thread : LoopName → LoopThread =>
      (thread .individual).released = true) hthread).to_iff.trans
      (hway.hreleased.trans hleft.symm)
  · exact (congrArg (fun thread : LoopName → LoopThread =>
      (thread .individual).loop.phase) hthread).trans
      (hway.hcreated (hbefore hearly))

theorem OnTheWay.perform (hway : OnTheWay exitCb life) {action : Action}
    {main : MainPhase} (haction : action ≠ .heartBeat)
    (hdone : done exitCb life.main ++ [action] = done exitCb main)
    (hfailed : main ≠ .failed) (hleft : main.left < 12 ↔ life.main.left < 12)
    (hbefore : 12 < main.left → 12 < life.main.left) :
    OnTheWay exitCb ((life.perform action).goTo main) := by
  apply @OnTheWay.goTo exitCb life hway (life.perform action) main rfl _
    hfailed hleft hbefore
  rw [acts_perform haction, hway.hacts, hdone]

theorem OnTheWay.aborted (hway : OnTheWay exitCb life) (error : Error)
    {main : MainPhase} (hmain : 14 < life.main.left) (hleft : main.left ≤ 4)
    (hdone : done exitCb life.main = [.errCallback ⟨.noError, ""⟩]) :
    ((life.perform (.errCallback error)).goTo main).Aborted := by
  refine ⟨hleft, hway.hcreated (by omega), error, ?_⟩
  exact (acts_perform (by simp) life).trans (by rw [hway.hacts, hdone]; rfl)

theorem OnTheWay.step {event : LifecycleEvent} (hway : OnTheWay exitCb life)
    (hstep : life.step exitCb event = some next) :
    OnTheWay exitCb next ∨ next.Aborted := by
  cases stepped_of_step hstep with
  | createFails result error hmain hreported =>
      exact .inr (hway.aborted error (by rw [hmain]; decide) (by decide)
        (by rw [hmain]; rfl))
  | subscribeFails error hmain =>
      exact .inr (hway.aborted error (by rw [hmain]; decide) (by decide)
        (by rw [hmain]; rfl))
  | created result hmain hreported =>
      left
      apply hway.goTo
      · rfl
      · exact hway.hacts.trans (by rw [hmain]; rfl)
      all_goals simp [hmain, MainPhase.left]
  | subscribed hmain =>
      left
      apply hway.goTo rfl (hway.hacts.trans (by rw [hmain]; rfl)) <;>
        simp [hmain, MainPhase.left]
  | initialized hmain | announced hmain | left hmain | closed hmain =>
      left
      apply hway.perform <;> simp [hmain, MainPhase.left, done, script]
  | exited hmain =>
      left
      cases exitCb with
      | true => apply hway.perform <;> simp [hmain, MainPhase.left, done]
      | false =>
          apply hway.goTo rfl (hway.hacts.trans (by rw [hmain]; rfl)) <;>
            simp [hmain, MainPhase.left]
  | tested name thread hmain hthread =>
      left
      apply hway.moved (by simp) (by simp) hthread
      all_goals
        cases name <;> split <;>
          simp [hmain, MainPhase.left, done, LoopName.after]
  | stored name thread hmain hthread =>
      left
      apply hway.moved (by simp) (by simp) hthread
      all_goals
        cases name <;> simp [hmain, MainPhase.left, done]
  | acquired name thread hmain hthread =>
      left
      apply hway.moved (by simp) (by simp) hthread
      all_goals
        cases name <;> simp [hmain, MainPhase.left, done, LoopName.after]
  | started name thread hmay hthread =>
      left
      cases name with
      | group =>
          exact ⟨hway.hacts, hway.hfailed, hway.hreleased, hway.hcreated⟩
      | individual =>
          have hmain : life.main = .looping := hmay
          cases LoopThread.stepped_of_step hthread with
          | loop =>
              exact ⟨hway.hacts, hway.hfailed, hway.hreleased,
                by simp [hmain, MainPhase.left]⟩
  | loop name event thread hlocal hthread =>
      left
      apply hway.moved (by simp) _ hthread rfl hway.hfailed Iff.rfl id
      rintro heq
      cases heq
      cases hlocal
  | release name thread hmay hthread =>
      left
      cases name with
      | group =>
          exact ⟨hway.hacts, hway.hfailed, hway.hreleased, hway.hcreated⟩
      | individual =>
          have hmain : life.main = .looping := hmay
          cases LoopThread.stepped_of_step hthread with
          | release =>
              refine ⟨hway.hacts.trans (by rw [hmain]; rfl), ?_, ?_, ?_⟩ <;>
                simp [released, MainPhase.left]
  | requestShutdown =>
      exact .inl ⟨hway.hacts, hway.hfailed, hway.hreleased, hway.hcreated⟩
  | shutdownFunc thread hinit hthread =>
      left
      have hquiet : OnTheWay exitCb { life with heartbeats := false } :=
        ⟨hway.hacts, hway.hfailed, hway.hreleased, hway.hcreated⟩
      exact hquiet.moved (by simp) (by simp) hthread rfl hway.hfailed Iff.rfl id
  | callStored thread hcall hthread =>
      exact .inl (hway.moved (by simp) (by simp) hthread rfl hway.hfailed
        Iff.rfl id)
  | callAcquired thread hcall hthread =>
      exact .inl (hway.moved (by simp) (by simp) hthread rfl hway.hfailed
        Iff.rfl id)
  | heartbeat hon =>
      exact .inl ⟨(acts_heartbeat life).trans hway.hacts, hway.hfailed,
        hway.hreleased, hway.hcreated⟩

theorem Aborted.step {event : LifecycleEvent} (haborted : life.Aborted)
    (hstep : life.step exitCb event = some next) : next.Aborted := by
  obtain ⟨hleft, hcreated, hacts⟩ := haborted
  cases stepped_of_step hstep with
  | createFails _ _ hmain | created _ hmain | subscribeFails _ hmain
  | subscribed hmain | initialized hmain | announced hmain | left hmain
  | exited hmain | closed hmain =>
      rw [hmain] at hleft
      exact absurd hleft (by decide)
  | tested name thread hmain hthread =>
      rw [hmain] at hleft
      cases name with
      | group =>
          refine ⟨?_, hcreated, hacts⟩
          simp only [moved_main]
          split <;> simp [MainPhase.left, LoopName.after]
      | individual => exact absurd hleft (by decide)
  | stored name thread hmain hthread =>
      rw [hmain] at hleft
      cases name with
      | group => exact ⟨by simp [MainPhase.left], hcreated, hacts⟩
      | individual => exact absurd hleft (by decide)
  | acquired name thread hmain hthread =>
      rw [hmain] at hleft
      cases name with
      | group =>
          exact ⟨by simp [MainPhase.left, LoopName.after], hcreated, hacts⟩
      | individual => exact absurd hleft (by decide)
  | started name thread hmay hthread =>
      cases name with
      | group => exact ⟨hleft, hcreated, hacts⟩
      | individual =>
          have hmain : life.main = .looping := hmay
          rw [hmain] at hleft
          exact absurd hleft (by decide)
  | loop name event thread hlocal hthread =>
      cases name with
      | group => exact ⟨hleft, hcreated, hacts⟩
      | individual =>
          refine ⟨hleft, ?_, hacts⟩
          rw [moved_thread_self]
          refine (loop_kept (by simp) ?_ hthread).2 hcreated
          rintro heq
          cases heq
          cases hlocal
  | release name thread hmay hthread =>
      cases name with
      | group => exact ⟨hleft, hcreated, hacts⟩
      | individual =>
          have hmain : life.main = .looping := hmay
          rw [hmain] at hleft
          exact absurd hleft (by decide)
  | requestShutdown => exact ⟨hleft, hcreated, hacts⟩
  | shutdownFunc thread hinit hthread =>
      obtain ⟨error, hacts⟩ := hacts
      rw [← mem_acts (by simp), hacts] at hinit
      simp at hinit
  | callStored thread hcall hthread =>
      refine ⟨hleft, ?_, hacts⟩
      rw [moved_thread_self]
      exact (loop_kept (by simp) (by simp) hthread).2 hcreated
  | callAcquired thread hcall hthread =>
      refine ⟨hleft, ?_, hacts⟩
      rw [moved_thread_self]
      exact (loop_kept (by simp) (by simp) hthread).2 hcreated
  | heartbeat hon =>
      obtain ⟨error, hacts⟩ := hacts
      exact ⟨hleft, hcreated, error, (acts_heartbeat life).trans hacts⟩

/-- Nothing is started with what has been refused. -/
structure Rejected (error : Error) (life : Lifecycle) : Prop where
  hmain : life.main = .failed
  hacts : life.acts = [.errCallback error]
  hheartbeats : life.heartbeats = false

theorem Rejected.step {error : Error} {event : LifecycleEvent}
    (hrejected : Rejected error life)
    (hstep : life.step exitCb event = some next) : Rejected error next := by
  obtain ⟨hfailed, hacts, hheartbeats⟩ := hrejected
  cases stepped_of_step hstep with
  | createFails _ _ hmain | created _ hmain | subscribeFails _ hmain
  | subscribed hmain | initialized hmain | announced hmain | left hmain
  | exited hmain | closed hmain | tested _ _ hmain | stored _ _ hmain
  | acquired _ _ hmain =>
      rw [hfailed] at hmain
      cases hmain
  | started | loop | requestShutdown | callStored | callAcquired =>
      exact ⟨hfailed, hacts, hheartbeats⟩
  | release name thread hmay hthread =>
      cases name with
      | group => exact ⟨hfailed, hacts, hheartbeats⟩
      | individual =>
          have hmain : life.main = .looping := hmay
          rw [hfailed] at hmain
          cases hmain
  | shutdownFunc => exact ⟨hfailed, hacts, rfl⟩
  | heartbeat hon =>
      rw [hheartbeats] at hon
      cases hon

/-! ## What has been asked for -/

/-- Somebody has told the individual loop to stop. -/
def Asked (events : List LifecycleEvent) : Prop :=
  .requestShutdown ∈ events ∨ .store ∈ events

/-- What the loop and the timer show of the events. -/
structure Traced (events : List LifecycleEvent) (life : Lifecycle) : Prop where
  hflag : ∀ name, (life.thread name).loop.shutdownRequested = true ↔
    .requestShutdown ∈ events
  hstopped : (life.thread .individual).loop.running = false →
    (life.thread .individual).loop.phase = .created ∨ .store ∈ events ∨
      life.main.left ≤ 5
  hclosed : (life.thread .individual).loop.phase = .closed → Asked events
  htold : .shutdownFunc ∈ events → .initCallback ∈ life.performed
  hheartbeats : life.heartbeats = true ↔
    life.main.Launched ∧ .shutdownFunc ∉ events

theorem Asked.append {events : List LifecycleEvent} (hasked : Asked events)
    (event : LifecycleEvent) : Asked (events ++ [event]) :=
  hasked.imp (List.mem_append_left _) (List.mem_append_left _)

/-- A step after which the individual loop is as it says, and which neither is
a request to stop nor a call of `shutdownFunc`. -/
theorem Traced.append {events : List LifecycleEvent}
    (htraced : Traced events life) {event : LifecycleEvent}
    (hevent : event ≠ .requestShutdown ∧ event ≠ .shutdownFunc)
    (hflag : ∀ name, (next.thread name).loop.shutdownRequested =
      (life.thread name).loop.shutdownRequested)
    (hstopped : (next.thread .individual).loop.running = false →
      (next.thread .individual).loop.phase = .created ∨
        .store ∈ events ++ [event] ∨ next.main.left ≤ 5)
    (hclosed : (next.thread .individual).loop.phase = .closed →
      Asked (events ++ [event]))
    (hperformed : ∀ action ∈ life.performed, action ∈ next.performed)
    (hheartbeats : next.heartbeats = true ↔
      next.main.Launched ∧ .shutdownFunc ∉ events) :
    Traced (events ++ [event]) next := by
  have hshutdown : .shutdownFunc ∈ events ++ [event] ↔
      LifecycleEvent.shutdownFunc ∈ events := by
    simp [hevent.2.symm]
  refine ⟨fun name => ?_, hstopped, hclosed, fun hcall => ?_, ?_⟩
  · rw [hflag, htraced.hflag name]
    simp [hevent.1.symm]
  · exact hperformed _ (htraced.htold (hshutdown.mp hcall))
  · rw [hheartbeats, hshutdown]

/-- What `main` does without touching a loop. -/
theorem Traced.quiet {events : List LifecycleEvent}
    (htraced : Traced events life) {event : LifecycleEvent}
    (hevent : event ≠ .requestShutdown ∧ event ≠ .shutdownFunc)
    (hthread : next.thread = life.thread)
    (hperformed : ∀ action ∈ life.performed, action ∈ next.performed)
    (hleft : next.main.left ≤ 5 ∨ 5 < life.main.left)
    (hheartbeats : next.heartbeats = true ↔
      next.main.Launched ∧ .shutdownFunc ∉ events) :
    Traced (events ++ [event]) next := by
  apply htraced.append hevent (by simp [hthread]) _ _ hperformed hheartbeats
  · intro hstop
    rw [hthread] at hstop ⊢
    rcases htraced.hstopped hstop with hcreated | hstore | hlate
    · exact .inl hcreated
    · exact .inr (.inl (List.mem_append_left _ hstore))
    · exact .inr (.inr (hleft.resolve_right (Nat.not_lt.mpr hlate)))
  · intro hphase
    rw [hthread] at hphase
    exact (htraced.hclosed hphase).append event

/-- A step of the group's loop, or of a call of `kill` on it. -/
theorem Traced.group {events : List LifecycleEvent}
    (htraced : Traced events life) {event : LifecycleEvent}
    (hevent : event ≠ .requestShutdown ∧ event ≠ .shutdownFunc)
    {thread : LoopThread} {main : MainPhase}
    (hflag : thread.loop.shutdownRequested =
      (life.thread .group).loop.shutdownRequested)
    (hleft : main.left ≤ 5 ∨ 5 < life.main.left)
    (hlaunched : main.Launched ↔ life.main.Launched) :
    Traced (events ++ [event]) (life.moved .group thread main) := by
  apply htraced.append hevent
  · intro name
    cases name with
    | group => rw [moved_thread_self, hflag]
    | individual => rfl
  · intro hstop
    rcases htraced.hstopped hstop with hcreated | hstore | hlate
    · exact .inl hcreated
    · exact .inr (.inl (List.mem_append_left _ hstore))
    · exact .inr (.inr (hleft.resolve_right (Nat.not_lt.mpr hlate)))
  · exact fun hphase => (htraced.hclosed hphase).append event
  · exact fun _ => id
  · rw [moved_main, hlaunched]
    exact htraced.hheartbeats

/-- Only a request to stop sets the flag. -/
theorem flag_kept {thread next : LoopThread} {event : ThreadEvent}
    (hevent : event ≠ .loop .requestShutdown)
    (hstep : thread.step event = some next) :
    next.loop.shutdownRequested = thread.loop.shutdownRequested := by
  cases LoopThread.stepped_of_step hstep with
  | loop event loop hordinary hloop =>
      cases ConsumptionLoop.stepped_of_step hloop with
      | requestShutdown => exact absurd rfl hevent
      | restart => cases hordinary
      | _ => rfl
  | _ => rfl

/-- The individual loop is consumed only while `main` is in it. -/
theorem main_late (hsound : (life.thread .individual).Sound)
    (hway : OnTheWay exitCb life ∨ life.Aborted)
    (hphase : (life.thread .individual).loop.phase ≠ .created)
    (hopen : (life.thread .individual).loop.phase ≠ .closed) :
    ¬ life.main.left ≤ 5 := by
  intro hlate
  rcases hway with hway | haborted
  · exact hopen (hsound.hreleased (hway.hreleased.mpr (by omega)))
  · exact hphase haborted.2.1

theorem Traced.individual {events : List LifecycleEvent}
    (htraced : Traced events life) {event : LoopEvent}
    (hlocal : event.IsLocal = true ∨ event = .start)
    (hsound : (life.thread .individual).Sound)
    (hway : OnTheWay exitCb life ∨ life.Aborted) {loop : ConsumptionLoop}
    (hloop : (life.thread .individual).loop.step event = some loop) :
    (loop.running = false → loop.phase = .created ∨ .store ∈ events ∨
        life.main.left ≤ 5) ∧
      (loop.phase = .closed → Asked events) := by
  have hlate := main_late hsound hway
  obtain ⟨hflag, hstopped, hclosed, -, -⟩ := htraced
  cases ConsumptionLoop.stepped_of_step hloop with
  | append | noted | work => exact ⟨hstopped, hclosed⟩
  | start hphase => simp
  | checked hphase | poll _ _ hphase | pushed _ _ hphase
  | reported _ _ hphase | commitAsync hphase =>
      refine ⟨fun hstop => .inr ?_, by simp⟩
      exact (hstopped hstop).resolve_left (by simp [hphase])
  | closed hphase hstop =>
      refine ⟨fun hstop => .inr ?_, fun _ => ?_⟩
      · exact (hstopped hstop).resolve_left (by simp [hphase])
      · rcases hstop with hstop | hrequested
        · rcases hstopped hstop with hcreated | hstore | hleft
          · rw [hcreated] at hphase
            cases hphase
          · exact .inr hstore
          · exact absurd hleft (hlate (by simp [hphase]) (by simp [hphase]))
        · exact .inl ((hflag .individual).mp hrequested)
  | kill | requestShutdown | restart => rcases hlocal with h | h <;> cases h

/-- A step of the individual loop, or of a call of `kill` on it. -/
theorem Traced.moved {events : List LifecycleEvent}
    (htraced : Traced events life) {event : LifecycleEvent}
    (hevent : event ≠ .requestShutdown ∧ event ≠ .shutdownFunc)
    {thread : LoopThread} {main : MainPhase}
    (hflag : thread.loop.shutdownRequested =
      (life.thread .individual).loop.shutdownRequested)
    (hstopped : thread.loop.running = false →
      thread.loop.phase = .created ∨ .store ∈ events ++ [event] ∨
        main.left ≤ 5)
    (hclosed : thread.loop.phase = .closed → Asked (events ++ [event]))
    (hlaunched : main.Launched ↔ life.main.Launched) :
    Traced (events ++ [event]) (life.moved .individual thread main) := by
  apply htraced.append hevent
  · intro name
    cases name with
    | group => rfl
    | individual => rw [moved_thread_self, hflag]
  · rw [moved_thread_self]
    exact hstopped
  · rw [moved_thread_self]
    exact hclosed
  · exact fun _ => id
  · rw [moved_main, hlaunched]
    exact htraced.hheartbeats

/-- A step of the individual loop that leaves it running or not as it is, while
`main` goes on. -/
theorem Traced.same {events : List LifecycleEvent}
    (htraced : Traced events life) {event : LifecycleEvent}
    (hevent : event ≠ .requestShutdown ∧ event ≠ .shutdownFunc)
    {thread : LoopThread} {main : MainPhase}
    (hloop : thread.loop = (life.thread .individual).loop)
    (hleft : main.left ≤ 5 ∨ 5 < life.main.left)
    (hlaunched : main.Launched ↔ life.main.Launched) :
    Traced (events ++ [event]) (life.moved .individual thread main) := by
  apply htraced.moved hevent _ _ _ hlaunched
  · rw [hloop]
  · intro hstop
    rw [hloop] at hstop ⊢
    rcases htraced.hstopped hstop with hcreated | hstore | hlate
    · exact .inl hcreated
    · exact .inr (.inl (List.mem_append_left _ hstore))
    · exact .inr (.inr (hleft.resolve_right (Nat.not_lt.mpr hlate)))
  · intro hphase
    rw [hloop] at hphase
    exact (htraced.hclosed hphase).append event

/-- A step of a thread that leaves its loop as it is. -/
theorem Traced.untouched {events : List LifecycleEvent}
    (htraced : Traced events life) {event : LifecycleEvent}
    (hevent : event ≠ .requestShutdown ∧ event ≠ .shutdownFunc)
    {name : LoopName} {thread : LoopThread} {main : MainPhase}
    (hloop : thread.loop = (life.thread name).loop)
    (hleft : main.left ≤ 5 ∨ 5 < life.main.left)
    (hlaunched : main.Launched ↔ life.main.Launched) :
    Traced (events ++ [event]) (life.moved name thread main) := by
  cases name with
  | group => exact htraced.group hevent (congrArg _ hloop) hleft hlaunched
  | individual => exact htraced.same hevent hloop hleft hlaunched

/-- A step of the thread that runs a loop. -/
theorem Traced.onLoop {events : List LifecycleEvent}
    (htraced : Traced events life) {event : LifecycleEvent}
    (hevent : event ≠ .requestShutdown ∧ event ≠ .shutdownFunc)
    (hsound : (life.thread .individual).Sound)
    (hway : OnTheWay exitCb life ∨ life.Aborted) {name : LoopName}
    {own : LoopEvent} (hlocal : own.IsLocal = true ∨ own = .start)
    {thread : LoopThread}
    (hthread : (life.thread name).step (.loop own) = some thread) :
    Traced (events ++ [event]) (life.moved name thread life.main) := by
  have hflag := flag_kept (by rintro ⟨rfl⟩; simp [LoopEvent.IsLocal] at hlocal)
    hthread
  cases name with
  | group =>
      apply htraced.group hevent hflag _ Iff.rfl
      exact le_or_gt _ _
  | individual =>
      cases LoopThread.stepped_of_step hthread with
      | loop _ loop _ hloop =>
          obtain ⟨hstopped, hclosed⟩ :=
            htraced.individual hlocal hsound hway hloop
          apply htraced.moved hevent hflag _ _ Iff.rfl
          · exact fun hstop => (hstopped hstop).imp_right
              (Or.imp_left (List.mem_append_left _))
          · exact fun hphase => (hclosed hphase).append _

theorem Traced.step {events : List LifecycleEvent} {event : LifecycleEvent}
    (htraced : Traced events life) (hsound : (life.thread .individual).Sound)
    (hway : OnTheWay exitCb life ∨ life.Aborted)
    (hstep : life.step exitCb event = some next) :
    Traced (events ++ [event]) next := by
  cases stepped_of_step hstep with
  | createFails result error hmain hreported =>
      apply htraced.quiet (by simp)
      · rfl
      · exact fun action hmem => List.mem_append_left _ hmem
      · simp [Lifecycle.goTo, MainPhase.left]
      · have hbeats := htraced.hheartbeats
        simp only [hmain, MainPhase.Launched, ne_eq, not_true, false_and,
          iff_false] at hbeats
        simp [Lifecycle.goTo, Lifecycle.perform, MainPhase.Launched, hbeats]
  | created result hmain hreported =>
      apply htraced.quiet (by simp)
      · rfl
      · exact fun _ => id
      · simp [hmain, MainPhase.left]
      · have hcalls : LifecycleEvent.shutdownFunc ∉ events := by
          intro hcall
          have hinit := htraced.htold hcall
          rcases hway with hway | ⟨hleft, -⟩
          · rw [← mem_acts (by simp), hway.hacts, hmain] at hinit
            simp [done] at hinit
          · rw [hmain] at hleft
            exact absurd hleft (by decide)
        simp [Lifecycle.goTo, MainPhase.Launched, hcalls]
  | subscribeFails error hmain | initialized hmain | announced hmain
  | left hmain | closed hmain =>
      apply htraced.quiet (by simp)
      · rfl
      · exact fun action hmem => List.mem_append_left _ hmem
      · simp [hmain, MainPhase.left]
      · rw [Lifecycle.goTo, Lifecycle.perform, htraced.hheartbeats]
        simp [MainPhase.Launched, hmain]
  | subscribed hmain =>
      apply htraced.quiet (by simp)
      · rfl
      · exact fun _ => id
      · simp [hmain, MainPhase.left]
      · rw [Lifecycle.goTo, htraced.hheartbeats]
        simp [MainPhase.Launched, hmain]
  | exited hmain =>
      apply htraced.quiet (by simp)
      · cases exitCb <;> rfl
      · cases exitCb with
        | true => exact fun action hmem => List.mem_append_left _ hmem
        | false => exact fun _ => id
      · simp [hmain, MainPhase.left]
      · cases exitCb <;>
          simp [MainPhase.Launched, hmain, Lifecycle.goTo, Lifecycle.perform,
            htraced.hheartbeats]
  | tested name thread hmain hthread =>
      have hloop : thread.loop = (life.thread name).loop := by
        cases LoopThread.stepped_of_step hthread <;> rfl
      apply htraced.untouched (by simp) hloop
      · cases name <;> split <;> simp [hmain, MainPhase.left, LoopName.after]
      · cases name <;> split <;>
          simp [MainPhase.Launched, hmain, LoopName.after]
  | stored name thread hmain hthread =>
      have hflag := flag_kept (by simp) hthread
      cases name with
      | group =>
          apply htraced.group (by simp) hflag
          · simp [MainPhase.left]
          · simp [MainPhase.Launched, hmain]
      | individual =>
          apply htraced.moved (by simp) hflag
          · simp [MainPhase.left]
          · cases LoopThread.stepped_of_step hthread with
            | store => exact fun hphase => (htraced.hclosed hphase).append _
          · simp [MainPhase.Launched, hmain]
  | acquired name thread hmain hthread =>
      have hloop : thread.loop = (life.thread name).loop := by
        cases LoopThread.stepped_of_step hthread
        rfl
      apply htraced.untouched (by simp) hloop
      · cases name <;> simp [MainPhase.left, LoopName.after]
      · cases name <;> simp [MainPhase.Launched, hmain, LoopName.after]
  | started name thread hmay hthread =>
      exact htraced.onLoop (by simp) hsound hway (.inr rfl) hthread
  | loop name event thread hlocal hthread =>
      exact htraced.onLoop (by simp) hsound hway (.inl hlocal) hthread
  | release name thread hmay hthread =>
      have hloop : thread.loop = (life.thread name).loop := by
        cases LoopThread.stepped_of_step hthread
        rfl
      apply htraced.untouched (by simp) hloop
      · cases name with
        | group => exact le_or_gt _ _
        | individual =>
            have hmain : life.main = .looping := hmay
            simp [hmain, MainPhase.left]
      · cases name with
        | group => exact Iff.rfl
        | individual =>
            have hmain : life.main = .looping := hmay
            simp [hmain, MainPhase.Launched, released]
  | requestShutdown =>
      refine ⟨fun _ => by simp, ?_, ?_, fun hcall => ?_, ?_⟩
      · intro hstop
        exact (htraced.hstopped hstop).imp_right
          (Or.imp_left (List.mem_append_left _))
      · exact fun hphase => (htraced.hclosed hphase).append _
      · exact htraced.htold (by simpa using hcall)
      · simpa using htraced.hheartbeats
  | shutdownFunc thread hinit hthread =>
      have hloop : thread.loop = (life.thread .individual).loop := by
        cases LoopThread.stepped_of_step hthread <;> rfl
      refine ⟨fun name => ?_, fun hstop => ?_, fun hphase => ?_, fun _ => hinit,
        ?_⟩
      · cases name with
        | group => simpa using htraced.hflag .group
        | individual =>
            rw [moved_thread_self, hloop]
            simpa using htraced.hflag .individual
      · rw [moved_thread_self, hloop] at hstop ⊢
        exact (htraced.hstopped hstop).imp_right
          (Or.imp_left (List.mem_append_left _))
      · rw [moved_thread_self, hloop] at hphase
        exact (htraced.hclosed hphase).append _
      · simp [Lifecycle.moved]
  | callStored thread hcall hthread =>
      apply htraced.moved (by simp) (flag_kept (by simp) hthread)
      · simp
      · cases LoopThread.stepped_of_step hthread with
        | store => exact fun hphase => (htraced.hclosed hphase).append _
      · rfl
  | callAcquired thread hcall hthread =>
      have hloop : thread.loop = (life.thread .individual).loop := by
        cases LoopThread.stepped_of_step hthread
        rfl
      apply htraced.same (by simp) hloop _ Iff.rfl
      exact le_or_gt _ _
  | heartbeat hon =>
      apply htraced.quiet (by simp)
      · rfl
      · exact fun action hmem => List.mem_append_left _ hmem
      · exact le_or_gt _ _
      · exact htraced.hheartbeats

/-! ## Along a run -/

/-- What every step keeps, once the parameters are accepted. -/
structure Orderly (exitCb : Bool) (life : Lifecycle) : Prop where
  hsound : ∀ name, (life.thread name).Sound
  hcounted : life.Counted
  hway : OnTheWay exitCb life ∨ life.Aborted

theorem Orderly.step {event : LifecycleEvent} (horderly : Orderly exitCb life)
    (hstep : life.step exitCb event = some next) : Orderly exitCb next := by
  refine ⟨sound_step horderly.hsound hstep, horderly.hcounted.step hstep, ?_⟩
  rcases horderly.hway with hway | haborted
  · exact hway.step hstep
  · exact .inr (haborted.step hstep)

variable {params : InitParams}

theorem start_of_accepted
    (haccepted : ∀ check ∈ params.checks, check.1 = false) :
    start params =
      ⟨fun _ => .initial, .creating, false, [.errCallback ⟨.noError, ""⟩]⟩ := by
  rcases validateInitParams_spec params with
    ⟨-, hvalid⟩ | ⟨check, hmem, hno, -⟩
  · rw [start, hvalid]
    rfl
  · rw [haccepted check hmem] at hno
    cases hno

theorem orderly_start
    (haccepted : ∀ check ∈ params.checks, check.1 = false) :
    Orderly params.exitCb (start params) := by
  rw [start_of_accepted haccepted]
  refine ⟨fun _ => LoopThread.sound_initial, ⟨?_, ?_⟩, .inl ⟨?_, ?_, ?_, ?_⟩⟩
  · simp [mainFound, mainAcquiring, LoopThread.initial]
  · simp [mainFound, mainAcquiring]
  · simp [acts, done]
  · simp
  · simp [MainPhase.left, LoopThread.initial]
  · exact fun _ => rfl

theorem orderly_of_run
    (haccepted : ∀ check ∈ params.checks, check.1 = false)
    {events : List LifecycleEvent}
    (hrun : Runs.run (step params.exitCb) (start params) events = some life) :
    Orderly params.exitCb life :=
  Runs.run_invariant (Orderly params.exitCb)
    (fun _ _ _ hbefore hstep => hbefore.step hstep)
    (orderly_start haccepted) hrun

theorem traced_of_run
    (haccepted : ∀ check ∈ params.checks, check.1 = false)
    {events : List LifecycleEvent}
    (hrun : Runs.run (step params.exitCb) (start params) events = some life) :
    Traced events life := by
  induction events using List.reverseRecOn generalizing life with
  | nil =>
      obtain rfl : start params = life := by simpa using hrun
      rw [start_of_accepted haccepted]
      constructor <;>
        simp [LoopThread.initial, ConsumptionLoop.initial, MainPhase.Launched]
  | append_singleton events event ih =>
      obtain ⟨middle, hmiddle, hlast⟩ := Runs.run_concat_eq_some.mp hrun
      obtain ⟨hsound, -, hway⟩ := orderly_of_run haccepted hmiddle
      exact (ih hmiddle).step (hsound .individual) hway hlast

theorem left_of_appDown {main : MainPhase}
    (hdown : .appDown ∈ done exitCb main) : main.left < 12 := by
  cases main with
  | destroying name | found name | acquiring name =>
      cases name <;> simp [MainPhase.left]
  | leaving | exiting | closing | failed | returned => simp [MainPhase.left]
  | creating | subscribing | initializing | announcing | looping =>
      simp [done] at hdown

/-- Parameters that are refused are reported, and nothing is started.
Otherwise, heartbeats apart, what is done is a part of the script from its
beginning, and all of it once the function has returned, or the report of one
error; `app_down` is only sent when the individual loop is closed, and somebody
has asked it to stop; and the heartbeats go on, also after the function has
returned, unless `shutdownFunc` has been called. -/
theorem performed_in_order (params : InitParams) (events : List LifecycleEvent)
    (life : Lifecycle)
    (hrun : Runs.run (step params.exitCb) (start params) events =
      some life) :
    ((∃ check ∈ params.checks, check.1 = true) → life.main = .failed ∧
        life.acts = [.errCallback (validateInitParams params).1]) ∧
      ((∀ check ∈ params.checks, check.1 = false) →
        (life.acts <+: script params.exitCb ∨ ∃ error,
          life.acts = [.errCallback ⟨.noError, ""⟩, .errCallback error]) ∧
        (life.main = .returned → life.acts = script params.exitCb ∨ ∃ error,
          life.acts = [.errCallback ⟨.noError, ""⟩, .errCallback error]) ∧
        (.appDown ∈ life.performed →
          (life.thread .individual).loop.phase = .closed ∧ Asked events) ∧
        (life.heartbeats = true ↔
          life.main.Launched ∧ .shutdownFunc ∉ events)) := by
  constructor
  · rintro ⟨check, hmem, hrefused⟩
    have hinvalid : (validateInitParams params).2 = false := by
      rcases validateInitParams_spec params with
        ⟨haccepted, -⟩ | ⟨other, -, -, hinvalid⟩
      · rw [haccepted check hmem] at hrefused
        cases hrefused
      · rw [hinvalid]
    have hrejected : Rejected (validateInitParams params).1 life :=
      Runs.run_invariant (Rejected (validateInitParams params).1)
        (fun _ _ _ hbefore hstep => hbefore.step hstep)
        ⟨by simp [start, hinvalid], by simp [acts, start], rfl⟩ hrun
    exact ⟨hrejected.hmain, hrejected.hacts⟩
  · intro haccepted
    obtain ⟨hsound, -, hway⟩ := orderly_of_run haccepted hrun
    have htraced := traced_of_run haccepted hrun
    refine ⟨?_, fun hreturned => ?_, fun hdown => ?_, htraced.hheartbeats⟩
    · rcases hway with hway | ⟨-, -, haborted⟩
      · exact .inl (hway.hacts ▸ done_prefix params.exitCb life.main)
      · exact .inr haborted
    · rcases hway with hway | ⟨-, -, haborted⟩
      · exact .inl (hway.hacts.trans (by rw [hreturned]; rfl))
      · exact .inr haborted
    · rw [← mem_acts (by simp)] at hdown
      rcases hway with hway | ⟨-, -, error, haborted⟩
      · rw [hway.hacts] at hdown
        have hclosed := (hsound .individual).hreleased
          (hway.hreleased.mpr (left_of_appDown hdown))
        exact ⟨hclosed, htraced.hclosed hclosed⟩
      · rw [haborted] at hdown
        simp at hdown

/-- Parameters with everything that is needed. -/
def completeParams : InitParams :=
  ⟨"gateway", "prices", true, true, 5, true, true, true, true, true, true, 1,
    true⟩

/-- The component is told to stop by a signal, and the heart still beats when
all is over. -/
def stopBySignal : List LifecycleEvent :=
  [.create (.createTopics ⟨.topicAlreadyExists, ""⟩),
    .individualConsumerFunc none, .start .group, .proceed, .proceed,
    .start .individual, .requestShutdown, .loop .individual .check,
    .release .individual, .proceed, .proceed, .proceed, .loop .group .check,
    .proceed, .proceed, .proceed, .proceed, .proceed, .release .group,
    .proceed, .heartbeat]

theorem performed_in_order_of_stopBySignal :
    ∃ life, Runs.run (step completeParams.exitCb) (start completeParams)
        stopBySignal = some life ∧
      life.main = .returned ∧ life.performed.getLast? = some .heartBeat ∧
      (life.main = .returned → life.acts = script completeParams.exitCb ∨
        ∃ error,
          life.acts = [.errCallback ⟨.noError, ""⟩, .errCallback error]) := by
  obtain ⟨life, hrun, hreturned, hlast⟩ : ∃ life,
      Runs.run (step completeParams.exitCb) (start completeParams)
        stopBySignal = some life ∧ life.main = .returned ∧
      life.performed.getLast? = some .heartBeat := ⟨_, rfl, rfl, rfl⟩
  exact ⟨life, hrun, hreturned, hlast,
    ((performed_in_order completeParams stopBySignal life hrun).2
      (by decide)).2.1⟩

end Lifecycle

end MultiMarketPrices.MiddleWare
