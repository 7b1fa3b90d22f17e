import Mathlib

/-!
# State machines that defer events

A machine answers an event in one of five ways: it has no handler for it, it
stays, it defers the event, it changes state, or its handler throws.  An engine
for the machine keeps the deferred events and delivers them again, in the order
of their arrival, after each change of state.  `Engine` states this behaviour
as laws on an otherwise unknown function, and `Machine.reference` is a function
that has it.
-/

namespace MultiMarketPrices

/-- The answer of a machine in a given state to an event, with the outputs its
handler made. -/
inductive Reaction (S O F : Type*)
  | discard
  | stay (out : List O)
  | defer
  | next (state : S) (out : List O)
  | throw (failure : F)

structure Machine (S E O F : Type*) where
  initial : S
  process : S → E → Reaction S O F
  onEntry : S → List O

namespace Machine

variable {S E O F : Type*}

/-- A state, and the deferred events in the order of their arrival. -/
structure Config (S E : Type*) where
  state : S
  deferred : List E
  deriving DecidableEq

/-- Deliver events one after the other, with the outputs in order. -/
def deliverAll (deliver : Config S E → E → Except F (Config S E × List O)) :
    Config S E → List E → Except F (Config S E × List O)
  | config, [] => .ok (config, [])
  | config, event :: events =>
      (deliver config event).bind fun first =>
        (deliverAll deliver first.1 events).map fun rest =>
          (rest.1, first.2 ++ rest.2)

theorem deliverAll_append
    (deliver : Config S E → E → Except F (Config S E × List O))
    (config : Config S E) (first second : List E) :
    deliverAll deliver config (first ++ second) =
      (deliverAll deliver config first).bind fun before =>
        (deliverAll deliver before.1 second).map fun after =>
          (after.1, before.2 ++ after.2) := by
  induction first generalizing config with
  | nil =>
      rw [List.nil_append]
      cases hsecond : deliverAll deliver config second <;>
        simp [deliverAll, Except.bind, Except.map, hsecond]
  | cons event events ih =>
      rw [List.cons_append, deliverAll, deliverAll]
      cases deliver config event with
      | error failure => rfl
      | ok reached =>
          simp only [Except.bind, ih]
          cases deliverAll deliver reached.1 events with
          | error failure => rfl
          | ok before =>
              simp only [Except.map]
              cases deliverAll deliver before.1 second with
              | error failure => rfl
              | ok after => simp

variable (machine : Machine S E O F)

/-- The machine in its initial state, just entered. -/
def start : Config S E × List O :=
  (⟨machine.initial, []⟩, machine.onEntry machine.initial)

/-- A function that runs the machine. -/
structure Engine where
  handleEvent : Config S E → E → Except F (Config S E × List O)
  discards : ∀ config event, machine.process config.state event = .discard →
    handleEvent config event = .ok (config, [])
  stays : ∀ config event out, machine.process config.state event = .stay out →
    handleEvent config event = .ok (config, out)
  defers : ∀ config event, machine.process config.state event = .defer →
    handleEvent config event =
      .ok ({ config with deferred := config.deferred ++ [event] }, [])
  changes : ∀ config event state out,
    machine.process config.state event = .next state out →
    handleEvent config event =
      (deliverAll handleEvent ⟨state, []⟩ config.deferred).map fun rest =>
        (rest.1, out ++ machine.onEntry state ++ rest.2)
  throws : ∀ config event failure,
    machine.process config.state event = .throw failure →
    handleEvent config event = .error failure

/-! ## A reference engine -/

/-- Deliver the events in `work`, deferring into `deferred`, up to the first
change of state, and leave what is then undelivered to `onward`. -/
def pass (onward : S → List E → Except F (Config S E × List O)) (state : S) :
    List E → List E → Except F (Config S E × List O)
  | deferred, [] => .ok (⟨state, deferred⟩, [])
  | deferred, event :: work =>
      match machine.process state event with
      | .discard => pass onward state deferred work
      | .stay out => (pass onward state deferred work).map fun rest =>
          (rest.1, out ++ rest.2)
      | .defer => pass onward state (deferred ++ [event]) work
      | .next next out => (onward next (deferred ++ work)).map fun rest =>
          (rest.1, out ++ machine.onEntry next ++ rest.2)
      | .throw failure => .error failure

/-- Deliver `work` from a freshly entered state; each change of state uses up
one event, so `fuel` need not exceed the number of events. -/
def drain : ℕ → S → List E → Except F (Config S E × List O)
  | 0, state, work => .ok (⟨state, work⟩, [])
  | fuel + 1, state, work => machine.pass (drain fuel) state [] work

/-- Deliver one event. -/
def deliver (config : Config S E) (event : E) :
    Except F (Config S E × List O) :=
  machine.pass (machine.drain (config.deferred.length + 1)) config.state
    config.deferred [event]

/-- A pass hands on fewer events than it was given. -/
theorem pass_congr
    {left right : S → List E → Except F (Config S E × List O)} (state : S)
    (deferred work : List E)
    (hagree : ∀ next rest, rest.length < deferred.length + work.length →
      left next rest = right next rest) :
    machine.pass left state deferred work =
      machine.pass right state deferred work := by
  induction work generalizing deferred with
  | nil => rfl
  | cons event work ih =>
      have hsmaller : ∀ next rest, rest.length < deferred.length + work.length →
          left next rest = right next rest := by
        intro next rest hrest
        apply hagree
        rw [List.length_cons]
        omega
      cases hreaction : machine.process state event with
      | discard =>
          simp only [pass, hreaction]
          exact ih deferred hsmaller
      | stay out =>
          simp only [pass, hreaction]
          rw [ih deferred hsmaller]
      | defer =>
          simp only [pass, hreaction]
          apply ih
          intro next rest hrest
          apply hagree
          simp only [List.length_append, List.length_cons,
            List.length_nil] at hrest ⊢
          omega
      | next next out =>
          simp only [pass, hreaction]
          rw [hagree]
          simp
      | throw failure => simp only [pass, hreaction]

/-- Enough fuel is as good as more. -/
theorem drain_eq_of_length_le {left right : ℕ} (state : S) {work : List E}
    (hleft : work.length ≤ left) (hright : work.length ≤ right) :
    machine.drain left state work = machine.drain right state work := by
  induction left generalizing right state work with
  | zero =>
      obtain rfl : work = [] := List.length_eq_zero_iff.mp (by omega)
      cases right <;> rfl
  | succ left ih =>
      cases right with
      | zero =>
          obtain rfl : work = [] := List.length_eq_zero_iff.mp (by omega)
          rfl
      | succ right =>
          apply pass_congr
          intro next rest hrest
          rw [List.length_nil, zero_add] at hrest
          exact ih next (by omega) (by omega)

/-- A pass delivers its work event by event. -/
theorem pass_eq_deliverAll (fuel : ℕ) (state : S) (deferred work : List E)
    (hfuel : deferred.length + work.length ≤ fuel + 1) :
    machine.pass (machine.drain fuel) state deferred work =
      deliverAll machine.deliver ⟨state, deferred⟩ work := by
  induction fuel using Nat.strong_induction_on generalizing state deferred work
    with
  | h fuel ihfuel =>
  induction work generalizing deferred with
  | nil => rfl
  | cons event work ih =>
      have hwork : deferred.length + work.length ≤ fuel + 1 := by
        rw [List.length_cons] at hfuel
        omega
      rw [deliverAll, deliver]
      cases hreaction : machine.process state event with
      | discard =>
          simp only [pass, hreaction, Except.bind]
          rw [ih deferred hwork]
          cases deliverAll machine.deliver ⟨state, deferred⟩ work <;> rfl
      | stay out =>
          simp only [pass, hreaction, Except.bind, Except.map]
          rw [ih deferred hwork]
          cases deliverAll machine.deliver ⟨state, deferred⟩ work <;> simp
      | defer =>
          simp only [pass, hreaction, Except.bind]
          rw [ih (deferred ++ [event]) (by
            simp only [List.length_append, List.length_cons,
              List.length_nil] at hfuel ⊢
            omega)]
          cases deliverAll machine.deliver ⟨state, deferred ++ [event]⟩ work <;>
            rfl
      | next next out =>
          have hdrain : ∀ rest : List E, rest.length ≤ fuel →
              machine.drain fuel next rest =
                deliverAll machine.deliver ⟨next, []⟩ rest := by
            intro rest hrest
            cases fuel with
            | zero =>
                obtain rfl : rest = [] := List.length_eq_zero_iff.mp (by omega)
                rfl
            | succ fuel =>
                exact ihfuel fuel (by omega) next [] rest (by simpa using hrest)
          rw [List.length_cons] at hfuel
          simp only [pass, hreaction, List.append_nil]
          rw [machine.drain_eq_of_length_le next (by omega)
              (show deferred.length ≤ fuel by omega),
            hdrain deferred (by omega),
            hdrain (deferred ++ work) (by rw [List.length_append]; omega),
            deliverAll_append]
          cases deliverAll machine.deliver ⟨next, []⟩ deferred with
          | error failure => rfl
          | ok before =>
              simp only [Except.bind, Except.map]
              cases deliverAll machine.deliver before.1 work <;> simp
      | throw failure =>
          simp only [pass, hreaction]
          rfl

/-- The laws of an engine can be met, whatever the machine. -/
def reference : Engine machine where
  handleEvent := machine.deliver
  discards config event hreaction := by
    simp only [deliver, pass, hreaction]
  stays config event out hreaction := by
    simp [deliver, pass, hreaction, Except.map]
  defers config event hreaction := by
    simp only [deliver, pass, hreaction]
  changes config event state out hreaction := by
    have hpass := machine.pass_eq_deliverAll config.deferred.length state []
      config.deferred (by simp)
    simp only [deliver, pass, hreaction, List.append_nil, drain, hpass]
  throws config event failure hreaction := by
    simp only [deliver, pass, hreaction]

end Machine

end MultiMarketPrices
