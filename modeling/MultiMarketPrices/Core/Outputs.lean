import MultiMarketPrices.Core.Runs

/-!
# What a run puts out

A step may hand something on: a record, a task, a call of another component.
The outputs of a run are those of its steps, in order.  A queue to which steps
add at the end and from which they take at the front hands on what it was
given, and a component is carried through a run of its own by the calls that
another's steps make.
-/

namespace MultiMarketPrices.Runs

variable {State Event Output : Type*} {step : State → Event → Option State}
  {output : State → Event → List Output}

/-- The outputs of the steps of a run, in order. -/
def outputs (step : State → Event → Option State)
    (output : State → Event → List Output) (start : State) :
    List Event → List Output
  | [] => []
  | event :: events =>
      match step start event with
      | some next => output start event ++ outputs step output next events
      | none => []

theorem outputs_cons {start next : State} {event : Event}
    (hstep : step start event = some next) (events : List Event) :
    outputs step output start (event :: events) =
      output start event ++ outputs step output next events := by
  rw [outputs, hstep]

theorem outputs_concat {start state next : State} {events : List Event}
    {event : Event} (hrun : run step start events = some state)
    (hstep : step state event = some next) :
    outputs step output start (events ++ [event]) =
      outputs step output start events ++ output state event := by
  induction events generalizing start with
  | nil =>
      obtain rfl : start = state := by simpa using hrun
      rw [List.nil_append, outputs_cons hstep, outputs, outputs,
        List.append_nil, List.nil_append]
  | cons first events ih =>
      rw [run_cons, Option.bind_eq_some_iff] at hrun
      obtain ⟨middle, hfirst, hrest⟩ := hrun
      rw [List.cons_append, outputs_cons hfirst, outputs_cons hfirst, ih hrest,
        List.append_assoc]

/-- What a queue was given is what was taken from it, followed by what
waits. -/
theorem append_outputs_eq (waiting : State → List Output)
    {pushed taken : State → Event → List Output}
    (hqueue : ∀ state event next, step state event = some next →
      waiting state ++ pushed state event = taken state event ++ waiting next)
    {start finish : State} {events : List Event}
    (hrun : run step start events = some finish) :
    waiting start ++ outputs step pushed start events =
      outputs step taken start events ++ waiting finish := by
  induction events generalizing start with
  | nil =>
      obtain rfl : start = finish := by simpa using hrun
      rw [outputs, outputs, List.append_nil, List.nil_append]
  | cons event events ih =>
      rw [run_cons, Option.bind_eq_some_iff] at hrun
      obtain ⟨next, hstep, hrest⟩ := hrun
      rw [outputs_cons hstep, outputs_cons hstep]
      calc
        waiting start ++ (pushed start event ++
            outputs step pushed next events)
          = taken start event ++ (waiting next ++
              outputs step pushed next events) := by
            rw [← List.append_assoc, hqueue start event next hstep,
              List.append_assoc]
        _ = taken start event ++ outputs step taken next events ++
              waiting finish := by
            rw [ih hrest, List.append_assoc]

variable {Inner Call : Type*} {perform : Inner → Call → Option Inner}

/-- The calls of the steps of a run carry a component through a run. -/
theorem run_outputs (inner : State → Inner)
    {calls : State → Event → List Call}
    (hcalls : ∀ state event next, step state event = some next →
      run perform (inner state) (calls state event) = some (inner next))
    {start finish : State} {events : List Event}
    (hrun : run step start events = some finish) :
    run perform (inner start) (outputs step calls start events) =
      some (inner finish) := by
  induction events generalizing start with
  | nil =>
      obtain rfl : start = finish := by simpa using hrun
      rfl
  | cons event events ih =>
      rw [run_cons, Option.bind_eq_some_iff] at hrun
      obtain ⟨next, hstep, hrest⟩ := hrun
      rw [outputs_cons hstep, run_append, hcalls start event next hstep]
      exact ih hrest

/-- The outputs of a run without those that are dropped. -/
theorem filter_outputs (invariant : State → Prop) (keep : Output → Bool)
    {kept : State → Event → List Output}
    (hstep : ∀ state event next, invariant state →
      step state event = some next →
      invariant next ∧ (output state event).filter keep = kept state event)
    {start finish : State} {events : List Event} (hstart : invariant start)
    (hrun : run step start events = some finish) :
    (outputs step output start events).filter keep =
      outputs step kept start events := by
  induction events generalizing start with
  | nil => rfl
  | cons event events ih =>
      rw [run_cons, Option.bind_eq_some_iff] at hrun
      obtain ⟨next, hnext, hrest⟩ := hrun
      obtain ⟨hkept, hfilter⟩ := hstep start event next hstart hnext
      rw [outputs_cons hnext, outputs_cons hnext, List.filter_append, hfilter,
        ih hkept hrest]

end MultiMarketPrices.Runs
