import Mathlib

/-!
# Finite runs of a partial step function

A component is given by a function `step` that answers `none` when an event
is not enabled.  This file collects the facts about finite runs that the
development uses: composition, invariants under a guard on the steps, and the
rule that turns "the guard holds at every step" into an exact
characterisation of the runs all of whose states are good.
-/

namespace MultiMarketPrices.Runs

variable {State Event : Type*} {step : State → Event → Option State}

/-- The state reached from `start` by `events`, in order. -/
def run (step : State → Event → Option State) (start : State)
    (events : List Event) : Option State :=
  events.foldlM step start

@[simp]
theorem run_nil (start : State) : run step start [] = some start := rfl

@[simp]
theorem run_cons (start : State) (event : Event) (events : List Event) :
    run step start (event :: events) =
      (step start event).bind fun next => run step next events := rfl

theorem run_append (start : State) (first second : List Event) :
    run step start (first ++ second) =
      (run step start first).bind fun middle => run step middle second := by
  simp [run, List.foldlM_append]

theorem run_append_eq_some {start finish : State} {first second : List Event} :
    run step start (first ++ second) = some finish ↔
      ∃ middle, run step start first = some middle ∧
        run step middle second = some finish := by
  rw [run_append, Option.bind_eq_some_iff]

theorem run_concat_eq_some {start finish : State} {events : List Event}
    {event : Event} :
    run step start (events ++ [event]) = some finish ↔
      ∃ middle, run step start events = some middle ∧
        step middle event = some finish := by
  simp [run_append_eq_some]

/-- A property that the steps keep for the events that satisfy a predicate
holds after every run of such events. -/
theorem run_invariant_of_forall (invariant : State → Prop)
    {allowed : Event → Prop}
    (hstep : ∀ state event next, invariant state → allowed event →
      step state event = some next → invariant next)
    {start finish : State} {events : List Event} (hstart : invariant start)
    (hallowed : ∀ event ∈ events, allowed event)
    (hrun : run step start events = some finish) : invariant finish := by
  induction events generalizing start with
  | nil =>
      obtain rfl : start = finish := by simpa using hrun
      exact hstart
  | cons event events ih =>
      rw [run_cons, Option.bind_eq_some_iff] at hrun
      obtain ⟨next, hnext, hrest⟩ := hrun
      rw [List.forall_mem_cons] at hallowed
      exact ih (hstep start event next hstart hallowed.1 hnext) hallowed.2 hrest

/-- A property that every step keeps holds after every run. -/
theorem run_invariant (invariant : State → Prop)
    (hstep : ∀ state event next, invariant state →
      step state event = some next → invariant next)
    {start finish : State} {events : List Event} (hstart : invariant start)
    (hrun : run step start events = some finish) : invariant finish :=
  run_invariant_of_forall invariant
    (fun state event next hbefore _ hnext =>
      hstep state event next hbefore hnext)
    hstart (fun _ _ => trivial) hrun

/-! ## Guarded runs -/

/-- Every event of the run is taken in a state in which `guard` allows it. -/
def EveryStep (step : State → Event → Option State)
    (guard : State → Event → Prop) (start : State) (events : List Event) :
    Prop :=
  ∀ initial event, initial ++ [event] <+: events →
    ∀ state, run step start initial = some state → guard state event

variable {guard : State → Event → Prop}

theorem everyStep_nil (start : State) : EveryStep step guard start [] := by
  intro initial event hinitial
  simp at hinitial

theorem EveryStep.of_prefix {start : State} {initial events : List Event}
    (hevery : EveryStep step guard start events)
    (hinitial : initial <+: events) :
    EveryStep step guard start initial :=
  fun earlier event hearlier =>
    hevery earlier event (hearlier.trans hinitial)

theorem EveryStep.last {start state : State} {events : List Event}
    {event : Event} (hevery : EveryStep step guard start (events ++ [event]))
    (hrun : run step start events = some state) : guard state event :=
  hevery events event (List.prefix_refl _) state hrun

theorem everyStep_concat {start : State} {events : List Event} {event : Event}
    (hevery : EveryStep step guard start events)
    (hlast : ∀ state, run step start events = some state → guard state event) :
    EveryStep step guard start (events ++ [event]) := by
  intro initial last hinitial state hstate
  rcases List.prefix_concat_iff.mp hinitial with heq | hearlier
  · obtain ⟨rfl, hlasts⟩ := List.append_inj' heq rfl
    obtain rfl : last = event := by simpa using hlasts
    exact hlast state hstate
  · exact hevery initial last hearlier state hstate

theorem everyStep_cons {start : State} {event : Event} {events : List Event}
    (hfirst : guard start event)
    (hrest : ∀ next, step start event = some next →
      EveryStep step guard next events) :
    EveryStep step guard start (event :: events) := by
  intro initial last hinitial state hstate
  cases initial with
  | nil =>
      obtain rfl : start = state := by simpa using hstate
      obtain rfl : last = event := by simpa using hinitial
      exact hfirst
  | cons first initial =>
      obtain ⟨rfl, hshort⟩ := List.cons_prefix_cons.mp hinitial
      rw [run_cons, Option.bind_eq_some_iff] at hstate
      obtain ⟨next, hnext, hstate⟩ := hstate
      exact hrest next hnext initial last hshort state hstate

theorem everyStep_of_forall {allowed : Event → Prop} (start : State)
    {events : List Event} (hallowed : ∀ event ∈ events, allowed event) :
    EveryStep step (fun _ event => allowed event) start events := by
  intro initial event hinitial state _
  exact hallowed event (hinitial.subset (by simp))

/-- An invariant kept by the guarded steps holds after every guarded run. -/
theorem EveryStep.invariant (invariant : State → Prop)
    (hstep : ∀ state event next, invariant state → guard state event →
      step state event = some next → invariant next)
    {start : State} (hstart : invariant start) {events : List Event}
    (hevery : EveryStep step guard start events) {finish : State}
    (hrun : run step start events = some finish) : invariant finish := by
  induction events using List.reverseRecOn generalizing finish with
  | nil =>
      obtain rfl : start = finish := by simpa using hrun
      exact hstart
  | append_singleton events event ih =>
      obtain ⟨middle, hmiddle, hlast⟩ := run_concat_eq_some.mp hrun
      have hbefore : invariant middle :=
        ih (hevery.of_prefix (List.prefix_append _ _)) hmiddle
      exact hstep middle event finish hbefore (hevery.last hmiddle) hlast

/-- A run that breaks the guard has a first step that does. -/
theorem exists_first_violation {start finish : State} {events : List Event}
    (hrun : run step start events = some finish)
    (hevery : ¬ EveryStep step guard start events) :
    ∃ initial event state next, initial ++ [event] <+: events ∧
      EveryStep step guard start initial ∧
      run step start initial = some state ∧ ¬ guard state event ∧
      step state event = some next := by
  induction events using List.reverseRecOn generalizing finish with
  | nil => exact absurd (everyStep_nil start) hevery
  | append_singleton events event ih =>
      obtain ⟨middle, hmiddle, hlast⟩ := run_concat_eq_some.mp hrun
      by_cases hbefore : EveryStep step guard start events
      · refine ⟨events, event, middle, finish, List.prefix_refl _, hbefore,
          hmiddle, ?_, hlast⟩
        intro hguard
        refine hevery (everyStep_concat hbefore fun state hstate => ?_)
        obtain rfl : state = middle := by simpa [hmiddle] using hstate.symm
        exact hguard
      · obtain ⟨initial, first, state, next, hinitial, hrest⟩ :=
          ih hmiddle hbefore
        exact ⟨initial, first, state, next,
          hinitial.trans (List.prefix_append _ _), hrest⟩

/-- If guarded steps keep the invariant, the invariant makes a state good, and
an unguarded step from the invariant leads to a state that is not good, then
the guard holds throughout a run exactly when all its states are good. -/
theorem everyStep_iff_forall_good (invariant good : State → Prop)
    {allowed : State → Event → Prop}
    (hgood : ∀ state, invariant state → good state)
    (hkeeps : ∀ state event next, invariant state → allowed state event →
      guard state event → step state event = some next → invariant next)
    (hbreaks : ∀ state event next, invariant state → allowed state event →
      ¬ guard state event → step state event = some next → ¬ good next)
    {start finish : State} (hstart : invariant start) {events : List Event}
    (hallowed : EveryStep step allowed start events)
    (hrun : run step start events = some finish) :
    EveryStep step guard start events ↔
      ∀ initial, initial <+: events → ∀ state,
        run step start initial = some state → good state := by
  have hinvariant : ∀ initial, initial <+: events →
      EveryStep step guard start initial → ∀ state,
      run step start initial = some state → invariant state := by
    intro initial hinitial hevery state hstate
    have hboth : EveryStep step
        (fun state event => allowed state event ∧ guard state event)
        start initial :=
      fun earlier event hearlier middle hmiddle =>
        ⟨hallowed earlier event (hearlier.trans hinitial) middle hmiddle,
          hevery earlier event hearlier middle hmiddle⟩
    exact hboth.invariant invariant
      (fun state event next hbefore hguards hstep =>
        hkeeps state event next hbefore hguards.1 hguards.2 hstep)
      hstart hstate
  constructor
  · intro hevery initial hinitial state hstate
    exact hgood state
      (hinvariant initial hinitial (hevery.of_prefix hinitial) state hstate)
  · intro hall
    by_contra hevery
    obtain ⟨initial, event, state, next, hinitial, hbefore, hstate, hguard,
      hnext⟩ := exists_first_violation hrun hevery
    have hshort : initial <+: events :=
      (List.prefix_append _ _).trans hinitial
    exact hbreaks state event next
      (hinvariant initial hshort hbefore state hstate)
      (hallowed initial event hinitial state hstate) hguard hnext
      (hall (initial ++ [event]) hinitial next
        (run_concat_eq_some.mpr ⟨state, hstate, hnext⟩))

/-! ## Objects that answer -/

variable {Other Reply : Type*}

/-- The answers of an object to a sequence of operations, and its last state. -/
def replies (perform : State → Event → Reply × State) (start : State) :
    List Event → List Reply × State
  | [] => ([], start)
  | event :: events =>
      let answer := perform start event
      let rest := replies perform answer.2 events
      (answer.1 :: rest.1, rest.2)

/-- Two objects that answer alike, operation by operation, answer alike over any
sequence of operations. -/
theorem replies_refines (relates : State → Other → Prop)
    {perform : State → Event → Reply × State}
    {performOther : Other → Event → Reply × Other}
    (hperform : ∀ state other event, relates state other →
      (perform state event).1 = (performOther other event).1 ∧
        relates (perform state event).2 (performOther other event).2)
    {start : State} {other : Other} (hstart : relates start other)
    (events : List Event) :
    (replies perform start events).1 =
        (replies performOther other events).1 ∧
      relates (replies perform start events).2
        (replies performOther other events).2 := by
  induction events generalizing start other with
  | nil => exact ⟨rfl, hstart⟩
  | cons event events ih =>
      obtain ⟨hanswer, hnext⟩ := hperform start other event hstart
      obtain ⟨hanswers, hlast⟩ := ih hnext
      exact ⟨congrArg₂ List.cons hanswer hanswers, hlast⟩

end MultiMarketPrices.Runs
