import MultiMarketPrices.Core.Runs

/-!
# Runs that use up a measure

Where each step of some kind takes one from a measure, a run of such steps is as
long as what it has taken.  If there is such a step whenever the measure is
positive, every such run can be prolonged until nothing is left of it, and all
that cannot be prolonged are of one length.
-/

namespace MultiMarketPrices.Runs

variable {State Event : Type*} {step : State → Event → Option State}
  {guard : State → Event → Prop} {invariant : State → Prop}
  {measure : State → ℕ} {start finish : State} {events : List Event}

theorem EveryStep.length_add_measure
    (hevery : EveryStep step guard start events)
    (hstep : ∀ state event next, invariant state → guard state event →
      step state event = some next →
      invariant next ∧ measure next + 1 = measure state)
    (hstart : invariant start) (hrun : run step start events = some finish) :
    events.length + measure finish = measure start := by
  induction events using List.reverseRecOn generalizing finish with
  | nil =>
      obtain rfl : start = finish := by simpa using hrun
      exact Nat.zero_add _
  | append_singleton events event ih =>
      obtain ⟨middle, hmiddle, hlast⟩ := run_concat_eq_some.mp hrun
      have hbefore : EveryStep step guard start events :=
        hevery.of_prefix (List.prefix_append _ _)
      have hkept : invariant middle := hbefore.invariant invariant
        (fun state event next hstate hguard hnext =>
          (hstep state event next hstate hguard hnext).1) hstart hmiddle
      calc
        (events ++ [event]).length + measure finish
          = events.length + (measure finish + 1) := by
            rw [List.length_append, List.length_singleton, Nat.add_assoc,
              Nat.add_comm 1]
        _ = events.length + measure middle := by
            rw [(hstep middle event finish hkept (hevery.last hmiddle) hlast).2]
        _ = measure start := ih hbefore hmiddle

/-- In a run that succeeds every event is taken. -/
theorem EveryStep.forall_mem {allowed : Event → Prop}
    (hevery : EveryStep step (fun _ event => allowed event) start events)
    (hrun : run step start events = some finish) :
    ∀ event ∈ events, allowed event := by
  induction events using List.reverseRecOn generalizing finish with
  | nil => simp
  | append_singleton events event ih =>
      obtain ⟨middle, hmiddle, -⟩ := run_concat_eq_some.mp hrun
      rw [List.forall_mem_append, List.forall_mem_singleton]
      exact ⟨ih (hevery.of_prefix (List.prefix_append _ _)) hmiddle,
        hevery.last hmiddle⟩

/-- The steps of the kind use up what there is of the measure. -/
theorem exists_run_of_measure
    (hstep : ∀ state event next, invariant state → guard state event →
      step state event = some next →
      invariant next ∧ measure next + 1 = measure state)
    (hgoes : ∀ state, invariant state → measure state ≠ 0 →
      ∃ event next, guard state event ∧ step state event = some next)
    (hstart : invariant start) :
    ∃ events finish, EveryStep step guard start events ∧
      run step start events = some finish ∧ measure finish = 0 := by
  induction hleft : measure start generalizing start with
  | zero => exact ⟨[], start, everyStep_nil start, rfl, hleft⟩
  | succ left ih =>
      obtain ⟨event, next, hguard, hnext⟩ := hgoes start hstart (by omega)
      obtain ⟨hkept, htaken⟩ := hstep start event next hstart hguard hnext
      obtain ⟨events, finish, hevery, hrun, hnone⟩ := ih hkept (by omega)
      refine ⟨event :: events, finish, everyStep_cons hguard ?_, ?_, hnone⟩
      · intro other hother
        obtain rfl := Option.some.inj (hnext.symm.trans hother)
        exact hevery
      · rw [run_cons, hnext]
        exact hrun

end MultiMarketPrices.Runs
