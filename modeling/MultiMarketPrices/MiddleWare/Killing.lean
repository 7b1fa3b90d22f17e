import MultiMarketPrices.MiddleWare.Consumption

/-!
# Killing a consumption loop

`kill` looks whether the loop runs, tells it to stop, and waits for
`m_killed`, which the thread of the loop releases once, at its end.  The three
are atomic one by one, and any number of threads may be between them.
-/

namespace MultiMarketPrices.MiddleWare

/-- A consumption loop and the calls of `kill` that have found it running. -/
structure LoopThread where
  loop : ConsumptionLoop
  /-- the calls that are to tell the loop to stop -/
  found : ℕ
  /-- the calls that wait for `m_killed` -/
  acquiring : ℕ
  /-- the calls that have got through -/
  acquired : ℕ
  /-- `start` is left and `m_killed` released -/
  released : Bool

inductive ThreadEvent
  /-- a step of the loop, its worker or the broker, or a signal -/
  | loop (event : LoopEvent)
  | release
  /-- a call of `kill` looks at `m_running` -/
  | test
  | store
  | acquire

/-- Neither a part of `kill` nor the end of the process. -/
def LoopEvent.IsOrdinary : LoopEvent → Bool
  | .kill | .restart => false
  | _ => true

/-! ## The way to the end of the loop -/

namespace ConsumptionLoop

variable {loop next : ConsumptionLoop}

/-- What an ordinary step cannot do: start a loop again, or take it back from
its end. -/
theorem step_ordinary {event : LoopEvent} (hordinary : event.IsOrdinary = true)
    (hstep : loop.step event = some next) :
    (next.running = true → loop.running = true ∨ loop.phase = .created) ∧
      (next.phase = .created →
        loop.phase = .created ∧ next.running = loop.running) ∧
      (loop.phase = .closed → next.phase = .closed) := by
  cases stepped_of_step hstep with
  | kill | restart => cases hordinary
  | append | requestShutdown | noted | work =>
      exact ⟨.inl, fun hcreated => ⟨hcreated, rfl⟩, id⟩
  | start hphase =>
      refine ⟨fun _ => .inr hphase, fun hcreated => ?_, fun hclosed => ?_⟩
      · cases hcreated
      · rw [hphase] at hclosed
        cases hclosed
  | checked hphase | poll _ _ hphase | commitAsync hphase
  | pushed _ _ hphase | reported _ _ hphase =>
      refine ⟨.inl, fun hcreated => ?_, fun hclosed => ?_⟩
      · cases hcreated
      · rw [hphase] at hclosed
        cases hclosed
  | closed hphase =>
      refine ⟨.inl, fun hcreated => ?_, fun _ => rfl⟩
      cases hcreated

/-- From a loop that is not to run, its own steps lead to its end. -/
def Ends (loop : ConsumptionLoop) : Prop :=
  ∃ events finish, (∀ event ∈ events, LoopEvent.IsOrdinary event = true) ∧
    Runs.run step loop events = some finish ∧ finish.phase = .closed

theorem Ends.of_step {event : LoopEvent} (hordinary : event.IsOrdinary = true)
    (hstep : loop.step event = some next) (hends : next.Ends) : loop.Ends := by
  obtain ⟨events, finish, hevents, hrun, hclosed⟩ := hends
  refine ⟨event :: events, finish, ?_, ?_, hclosed⟩
  · exact List.forall_mem_cons.mpr ⟨hordinary, hevents⟩
  · rw [Runs.run_cons, hstep]
    exact hrun

theorem ends_of_checking (hstop : loop.running = false)
    (hphase : loop.phase = .checking) : loop.Ends := by
  apply @Ends.of_step _ _ .check rfl
  · rw [step, if_pos hphase, hstop]
  · exact ⟨[], _, by simp, rfl, rfl⟩

/-- The rest of a batch is dealt with first. -/
theorem ends_of_handling (rest : List ℕ) (hstop : loop.running = false)
    (hphase : loop.phase = .handling rest) : loop.Ends := by
  induction rest generalizing loop with
  | nil =>
      apply @Ends.of_step _ _ .commitAsync rfl
      · rw [step, if_pos hphase]
      · exact ends_of_checking hstop rfl
  | cons offset rest ih =>
      cases hrecord : loop.isRecord offset with
      | true =>
          apply @Ends.of_step _ _ .next rfl
          · simp only [step, hphase, hrecord, if_true]
            rfl
          · exact ih hstop rfl
      | false =>
          apply @Ends.of_step _ _ .next rfl
          · simp only [step, hphase, hrecord, Bool.false_eq_true, if_false]
            rfl
          · exact ih hstop rfl

theorem ends_of_stopped (hstop : loop.running = false)
    (hphase : loop.phase ≠ .created) : loop.Ends := by
  cases hcurrent : loop.phase with
  | created => exact absurd hcurrent hphase
  | checking => exact ends_of_checking hstop hcurrent
  | polling =>
      apply @Ends.of_step _ _ (.poll 0) rfl
      · rw [step, if_pos hcurrent]
      · exact ends_of_handling _ hstop rfl
  | handling rest => exact ends_of_handling rest hstop hcurrent
  | closed => exact ⟨[], loop, by simp, rfl, hcurrent⟩

end ConsumptionLoop

namespace LoopThread

def initial : LoopThread where
  loop := .initial
  found := 0
  acquiring := 0
  acquired := 0
  released := false

def step (thread : LoopThread) : ThreadEvent → Option LoopThread
  | .loop event =>
      if event.IsOrdinary then
        (thread.loop.step event).map fun loop => { thread with loop := loop }
      else none
  | .release =>
      if thread.loop.phase = .closed ∧ thread.released = false then
        some { thread with released := true }
      else none
  | .test =>
      if thread.loop.running then
        some { thread with found := thread.found + 1 }
      else some thread
  | .store =>
      if 0 < thread.found then
        (thread.loop.step .kill).map fun loop => { thread with
          loop := loop
          found := thread.found - 1
          acquiring := thread.acquiring + 1 }
      else none
  | .acquire =>
      if 0 < thread.acquiring ∧ thread.released = true ∧
          thread.acquired = 0 then
        some { thread with
          acquiring := thread.acquiring - 1
          acquired := thread.acquired + 1 }
      else none

/-! ## What one step does -/

variable {thread next : LoopThread}

/-- What an event can do. -/
inductive Stepped (thread : LoopThread) : ThreadEvent → LoopThread → Prop
  | loop (event : LoopEvent) (loop : ConsumptionLoop)
      (hordinary : event.IsOrdinary = true)
      (hstep : thread.loop.step event = some loop) :
      Stepped thread (.loop event) { thread with loop := loop }
  | release (hclosed : thread.loop.phase = .closed)
      (hreleased : thread.released = false) :
      Stepped thread .release { thread with released := true }
  | found (hrunning : thread.loop.running = true) :
      Stepped thread .test { thread with found := thread.found + 1 }
  | missed (hrunning : thread.loop.running = false) :
      Stepped thread .test thread
  | store (hfound : 0 < thread.found) :
      Stepped thread .store
        { thread with
          loop := { thread.loop with running := false }
          found := thread.found - 1
          acquiring := thread.acquiring + 1 }
  | acquire (hwaits : 0 < thread.acquiring)
      (hreleased : thread.released = true) (hfree : thread.acquired = 0) :
      Stepped thread .acquire
        { thread with
          acquiring := thread.acquiring - 1
          acquired := thread.acquired + 1 }

theorem stepped_of_step {event : ThreadEvent}
    (hstep : thread.step event = some next) : Stepped thread event next := by
  cases event with
  | loop event =>
      rw [step] at hstep
      split at hstep
      · next hordinary =>
          obtain ⟨loop, hloop, rfl⟩ := Option.map_eq_some_iff.mp hstep
          exact .loop event loop hordinary hloop
      · cases hstep
  | release =>
      rw [step] at hstep
      split at hstep
      · next hready =>
          obtain rfl := Option.some.inj hstep
          exact .release hready.1 hready.2
      · cases hstep
  | test =>
      rw [step] at hstep
      split at hstep
      · next hrunning =>
          obtain rfl := Option.some.inj hstep
          exact .found hrunning
      · next hrunning =>
          obtain rfl := Option.some.inj hstep
          exact .missed (by simpa using hrunning)
  | store =>
      rw [step] at hstep
      split at hstep
      · next hfound =>
          obtain rfl := Option.some.inj hstep
          exact .store hfound
      · cases hstep
  | acquire =>
      rw [step] at hstep
      split at hstep
      · next hready =>
          obtain rfl := Option.some.inj hstep
          exact .acquire hready.1 hready.2.1 hready.2.2
      · cases hstep

/-! ## Calls that return -/

/-- The calls of `kill` that have found the loop running. -/
def claims (thread : LoopThread) : ℕ :=
  thread.found + thread.acquiring + thread.acquired

/-- Every call of `kill` that is under way can return, without another one. -/
def Served (thread : LoopThread) : Prop :=
  ∃ events finish, (∀ event ∈ events, event ≠ ThreadEvent.test) ∧
    Runs.run step thread events = some finish ∧
    finish.found = 0 ∧ finish.acquiring = 0

/-- A call that finds the loop running does so while no other one is about to
tell the loop to stop. -/
def OneAtATime (thread : LoopThread) (event : ThreadEvent) : Prop :=
  event = .test → thread.loop.running = true → thread.found = 0

/-- What every step keeps. -/
structure Sound (thread : LoopThread) : Prop where
  /-- before the loop starts, nobody finds it running -/
  hcreated : thread.loop.phase = .created →
    thread.loop.running = false ∧ thread.claims = 0
  hrunning : thread.loop.running = true →
    thread.acquiring = 0 ∧ thread.acquired = 0
  hreleased : thread.released = true → thread.loop.phase = .closed
  /-- `m_killed` is released once -/
  hacquired : thread.acquired ≤ 1 ∧
    (0 < thread.acquired → thread.released = true)

theorem sound_initial : Sound initial := by
  refine ⟨fun _ => ⟨rfl, rfl⟩, ?_, ?_, ?_⟩ <;> simp [initial]

theorem Sound.step {event : ThreadEvent} (hsound : thread.Sound)
    (hstep : thread.step event = some next) : next.Sound := by
  obtain ⟨hcreated, hrunning, hreleased, hacquired, hthrough⟩ := hsound
  simp only [claims] at hcreated
  cases stepped_of_step hstep with
  | loop event loop hordinary hloop =>
      obtain ⟨hruns, hnew, hclosed⟩ :=
        ConsumptionLoop.step_ordinary hordinary hloop
      refine ⟨fun hphase => ?_, fun hrun => ?_, fun hrelease => ?_, hacquired,
        hthrough⟩
      · obtain ⟨hbefore, hsame⟩ := hnew hphase
        obtain ⟨hstopped, hnone⟩ := hcreated hbefore
        exact ⟨hsame.trans hstopped, hnone⟩
      · rcases hruns hrun with hran | hphase
        · exact hrunning hran
        · have hnone := (hcreated hphase).2
          simp only
          omega
      · exact hclosed (hreleased hrelease)
  | release hclosed _ =>
      exact ⟨hcreated, hrunning, fun _ => hclosed, hacquired, fun _ => rfl⟩
  | found hrun =>
      refine ⟨fun hphase => ?_, hrunning, hreleased, hacquired, hthrough⟩
      rw [(hcreated hphase).1] at hrun
      cases hrun
  | missed => exact ⟨hcreated, hrunning, hreleased, hacquired, hthrough⟩
  | store hfound =>
      refine ⟨fun hphase => ?_, ?_, hreleased, hacquired, hthrough⟩
      · have hnone := (hcreated hphase).2
        omega
      · simp
  | acquire hwaits hrelease hfree =>
      refine ⟨fun hphase => ?_, fun hrun => ?_, hreleased, ?_,
        fun _ => hrelease⟩
      · have hnone := (hcreated hphase).2
        omega
      · have hnone := (hrunning hrun).1
        omega
      · simp [hfree]

/-- Only a call that finds the loop running is a new one. -/
theorem claims_step {event : ThreadEvent} (hevent : event ≠ .test)
    (hstep : thread.step event = some next) : next.claims = thread.claims := by
  cases stepped_of_step hstep with
  | loop | release => rfl
  | found | missed => exact absurd rfl hevent
  | store hfound =>
      simp only [claims]
      omega
  | acquire hwaits =>
      simp only [claims]
      omega

/-- The loop's own steps are steps of the thread. -/
theorem run_loop {events : List LoopEvent} {loop : ConsumptionLoop}
    (hordinary : ∀ event ∈ events, LoopEvent.IsOrdinary event = true)
    (hrun : Runs.run ConsumptionLoop.step thread.loop events = some loop) :
    Runs.run step thread (events.map .loop) =
      some { thread with loop := loop } := by
  induction events generalizing thread with
  | nil =>
      obtain rfl : thread.loop = loop := by simpa using hrun
      rfl
  | cons event events ih =>
      rw [List.forall_mem_cons] at hordinary
      rw [Runs.run_cons, Option.bind_eq_some_iff] at hrun
      obtain ⟨middle, hfirst, hrest⟩ := hrun
      have hmove : thread.step (.loop event) =
          some { thread with loop := middle } := by
        rw [step, if_pos hordinary.1, hfirst, Option.map_some]
      rw [List.map_cons, Runs.run_cons, hmove]
      exact ih hordinary.2 hrest

/-- A call that waits for a loop that is not to run gets through. -/
theorem served_of_acquiring (hsound : thread.Sound) (hfound : thread.found = 0)
    (hwaits : thread.acquiring = 1) (hfree : thread.acquired = 0)
    (hstop : thread.loop.running = false) : thread.Served := by
  have hphase : thread.loop.phase ≠ .created := by
    intro hcreated
    have hnone := (hsound.hcreated hcreated).2
    rw [claims] at hnone
    omega
  cases hreleased : thread.released with
  | true =>
      refine ⟨[.acquire],
        { thread with
          acquiring := thread.acquiring - 1
          acquired := thread.acquired + 1 }, by simp, ?_, hfound, ?_⟩
      · rw [Runs.run_cons, step, if_pos ⟨by omega, hreleased, hfree⟩]
        rfl
      · simp [hwaits]
  | false =>
      obtain ⟨events, loop, hordinary, hrun, hclosed⟩ :=
        ConsumptionLoop.ends_of_stopped hstop hphase
      refine ⟨events.map .loop ++ [.release, .acquire],
        { thread with
          loop := loop
          acquiring := 0
          acquired := 1
          released := true }, ?_, ?_, hfound, rfl⟩
      · intro event hmem
        rcases List.mem_append.mp hmem with hloop | hlast
        · obtain ⟨own, -, rfl⟩ := List.mem_map.mp hloop
          simp
        · rcases List.mem_pair.mp hlast with rfl | rfl <;> simp
      · rw [Runs.run_append, run_loop hordinary hrun]
        simp [step, hclosed, hreleased, hwaits, hfree]

theorem served_of_claims (hsound : thread.Sound) (hone : thread.claims ≤ 1) :
    thread.Served := by
  rw [claims] at hone
  by_cases hfound : thread.found = 0
  · by_cases hwaits : thread.acquiring = 0
    · exact ⟨[], thread, by simp, rfl, hfound, hwaits⟩
    · apply served_of_acquiring hsound hfound
      · omega
      · omega
      · cases hrunning : thread.loop.running with
        | true => exact absurd (hsound.hrunning hrunning).1 hwaits
        | false => rfl
  · have hstore : thread.step .store = some { thread with
        loop := { thread.loop with running := false }
        found := thread.found - 1
        acquiring := thread.acquiring + 1 } := by
      rw [step, if_pos (Nat.pos_of_ne_zero hfound)]
      rfl
    obtain ⟨events, finish, hevents, hrun, hnone⟩ :=
      served_of_acquiring (hsound.step hstore) (by simp only; omega)
        (by simp only; omega) (by simp only; omega) rfl
    refine ⟨.store :: events, finish, ?_, ?_, hnone⟩
    · exact List.forall_mem_cons.mpr ⟨by simp, hevents⟩
    · rw [Runs.run_cons, hstore]
      exact hrun

/-- Of two calls that have found the loop running, one waits for ever. -/
theorem not_served_of_claims (hsound : thread.Sound)
    (htwo : 2 ≤ thread.claims) : ¬ thread.Served := by
  rintro ⟨events, finish, hevents, hrun, hfound, hwaits⟩
  have hkeeps : ∀ state event next, state.Sound ∧ 2 ≤ state.claims →
      event ≠ ThreadEvent.test → step state event = some next →
      next.Sound ∧ 2 ≤ next.claims :=
    fun _ _ _ hbefore hevent hstep =>
      ⟨hbefore.1.step hstep, hbefore.2.trans_eq (claims_step hevent hstep).symm⟩
  have hend : finish.Sound ∧ 2 ≤ finish.claims :=
    Runs.run_invariant_of_forall _ hkeeps ⟨hsound, htwo⟩ hevents hrun
  have hthrough := hend.1.hacquired.1
  have hclaims := hend.2
  rw [claims] at hclaims
  omega

theorem Sound.claims_step_le {event : ThreadEvent} (hsound : thread.Sound)
    (hone : thread.claims ≤ 1) (hguard : thread.OneAtATime event)
    (hstep : thread.step event = some next) : next.claims ≤ 1 := by
  by_cases hevent : event = .test
  · subst hevent
    cases stepped_of_step hstep with
    | found hrunning =>
        obtain ⟨hwaits, hthrough⟩ := hsound.hrunning hrunning
        have hfound := hguard rfl hrunning
        simp [claims, hwaits, hthrough, hfound]
    | missed => exact hone
  · exact (claims_step hevent hstep).trans_le hone

theorem Sound.two_le_claims {event : ThreadEvent}
    (hguard : ¬ thread.OneAtATime event)
    (hstep : thread.step event = some next) : 2 ≤ next.claims := by
  simp only [OneAtATime, Classical.not_imp] at hguard
  obtain ⟨rfl, hrunning, hfound⟩ := hguard
  cases stepped_of_step hstep with
  | found =>
      simp only [claims]
      omega
  | missed hstopped =>
      rw [hstopped] at hrunning
      cases hrunning

/-- In every state of a run all calls of `kill` under way can return, exactly
if a call never finds the loop running while another one is about to tell it to
stop. -/
theorem served_iff_oneAtATime (events : List ThreadEvent) (finish : LoopThread)
    (hrun : Runs.run step initial events = some finish) :
    Runs.EveryStep step OneAtATime initial events ↔
      ∀ earlier, earlier <+: events → ∀ thread,
        Runs.run step initial earlier = some thread → thread.Served :=
  Runs.everyStep_iff_forall_good
    (fun thread : LoopThread => thread.Sound ∧ thread.claims ≤ 1) Served
    (fun _ hsound => served_of_claims hsound.1 hsound.2)
    (fun _ _ _ hsound _ hguard hstep =>
      ⟨hsound.1.step hstep, hsound.1.claims_step_le hsound.2 hguard hstep⟩)
    (fun _ _ _ hsound _ hguard hstep =>
      not_served_of_claims (hsound.1.step hstep)
        (Sound.two_le_claims hguard hstep))
    ⟨sound_initial, Nat.zero_le 1⟩
    (fun _ _ _ _ _ => trivial : Runs.EveryStep step
      (fun _ _ => True) initial events) hrun

/-- A signal ends the loop, and then two threads call `kill` at once. -/
def killTwice : List ThreadEvent :=
  [.loop .start, .loop .requestShutdown, .loop .check, .release, .test, .test,
    .store, .store, .acquire]

/-- One of the two waits for ever. -/
theorem served_iff_oneAtATime_of_killTwice :
    ∃ finish, Runs.run step initial killTwice = some finish ∧
      finish.acquiring = 1 ∧ finish.acquired = 1 ∧
      (Runs.EveryStep step OneAtATime initial killTwice ↔
        ∀ earlier, earlier <+: killTwice → ∀ thread,
          Runs.run step initial earlier = some thread → thread.Served) :=
  ⟨_, rfl, rfl, rfl, served_iff_oneAtATime killTwice _ rfl⟩

end LoopThread

end MultiMarketPrices.MiddleWare
