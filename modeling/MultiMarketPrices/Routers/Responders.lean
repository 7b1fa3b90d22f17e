import MultiMarketPrices.Routers.RequestRouter
import MultiMarketPrices.Routers.Subscriptions

/-!
# Who registers and unregisters a responder

`GenericReqRespRouter` keeps the id of the responder of each request type in
`m_responderBook`, and its listener in `m_reqRouter` under the router's own
address.  The two go together in every state.  The id is never compared,
however, so that any responder can unregister another.
-/

namespace MultiMarketPrices.Routers

/-- The two tables; `Address` is `size_t`. -/
structure Responders (ReqType ResponderId Address ReqListener
    Everything : Type*) where
  responderBook : Finmap fun _ : ReqType => ResponderId
  reqRouter : PubSubDataRouter ReqType Address ReqListener Everything

inductive ResponderCall (ReqType ResponderId ReqListener : Type*)
  | registerAsResponder (responderId : ResponderId) (reqType : ReqType)
      (reqListener : ReqListener)
  | unregisterAsResponder (responderId : ResponderId) (reqType : ReqType)

variable {ReqType ResponderId Address ReqListener Everything : Type*}
  [DecidableEq ReqType] [DecidableEq Address]

namespace Responders

def init : Responders ReqType ResponderId Address ReqListener Everything :=
  ⟨∅, .empty⟩

/-- The result of `consume` is not looked at. -/
def registerAsResponder (this : Address) (responderId : ResponderId)
    (reqType : ReqType) (reqListener : ReqListener)
    (responders : Responders ReqType ResponderId Address ReqListener
      Everything) :
    Bool × Responders ReqType ResponderId Address ReqListener Everything :=
  match responders.responderBook.lookup reqType with
  | none =>
      (true,
        { responderBook := responders.responderBook.insert reqType responderId
          reqRouter :=
            (responders.reqRouter.consume reqType this reqListener).2 })
  | some _ => (false, responders)

/-- The id is not looked at. -/
def unregisterAsResponder (this : Address) (_responderId : ResponderId)
    (reqType : ReqType)
    (responders : Responders ReqType ResponderId Address ReqListener
      Everything) :
    Bool × Responders ReqType ResponderId Address ReqListener Everything :=
  match responders.responderBook.lookup reqType with
  | some _ =>
      (true,
        { responderBook := responders.responderBook.erase reqType
          reqRouter := (responders.reqRouter.unregister reqType this).2 })
  | none => (false, responders)

def perform (this : Address)
    (responders : Responders ReqType ResponderId Address ReqListener
      Everything) :
    ResponderCall ReqType ResponderId ReqListener →
      Bool × Responders ReqType ResponderId Address ReqListener Everything
  | .registerAsResponder responderId reqType reqListener =>
      responders.registerAsResponder this responderId reqType reqListener
  | .unregisterAsResponder responderId reqType =>
      responders.unregisterAsResponder this responderId reqType

/-- The listener that a request of the type is forwarded to. -/
def listener (this : Address) (reqType : ReqType)
    (responders : Responders ReqType ResponderId Address ReqListener
      Everything) : Option ReqListener :=
  callbackOf reqType this responders.reqRouter.routingTable

variable {this : Address} {responderId : ResponderId} {reqType : ReqType}
  {responders : Responders ReqType ResponderId Address ReqListener Everything}

theorem registerAsResponder_of_taken (reqListener : ReqListener)
    (htaken : reqType ∈ responders.responderBook) :
    responders.registerAsResponder this responderId reqType reqListener =
      (false, responders) := by
  obtain ⟨owner, howner⟩ := Finmap.mem_iff.mp htaken
  rw [registerAsResponder, howner]

theorem unregisterAsResponder_of_free
    (hfree : reqType ∉ responders.responderBook) :
    responders.unregisterAsResponder this responderId reqType =
      (false, responders) := by
  rw [unregisterAsResponder, Finmap.lookup_eq_none.mpr hfree]

variable (responderId) in
/-- What a registration that is accepted changes. -/
theorem registerAsResponder_of_free (reqListener : ReqListener)
    (hfree : reqType ∉ responders.responderBook)
    (hsilent : responders.listener this reqType = none) :
    ∃ next, responders.registerAsResponder this responderId reqType
        reqListener = (true, next) ∧
      next.responderBook =
        responders.responderBook.insert reqType responderId ∧
      ∀ other, next.listener this other =
        if other = reqType then some reqListener
        else responders.listener this other := by
  rw [registerAsResponder, Finmap.lookup_eq_none.mpr hfree]
  refine ⟨_, rfl, rfl, fun other => ?_⟩
  simp only [listener, Refines.consume_of_none hsilent, callbackOf_insert,
    and_true]

variable (this responderId) in
/-- What an unregistration that finds the type changes. -/
theorem unregisterAsResponder_of_taken
    (htaken : reqType ∈ responders.responderBook) :
    ∃ next, responders.unregisterAsResponder this responderId reqType =
        (true, next) ∧
      next.responderBook = responders.responderBook.erase reqType ∧
      ∀ other, next.listener this other =
        if other = reqType then none else responders.listener this other := by
  obtain ⟨owner, howner⟩ := Finmap.mem_iff.mp htaken
  rw [unregisterAsResponder, howner]
  refine ⟨_, rfl, rfl, fun other => ?_⟩
  have htable : (responders.reqRouter.unregister reqType this).2.routingTable =
      (removeFromRoutingTable reqType this
        responders.reqRouter.routingTable).2 := by
    rw [PubSubDataRouter.unregister]
    split <;> rfl
  simp only [listener, htable, callbackOf_removeFromRoutingTable, and_true]

variable (this) in
theorem keys_perform (call : ResponderCall ReqType ResponderId ReqListener) :
    (responders.perform this call).2.responderBook.keys =
      match call with
      | .registerAsResponder _ reqType _ =>
          insert reqType responders.responderBook.keys
      | .unregisterAsResponder _ reqType =>
          responders.responderBook.keys.erase reqType := by
  cases call with
  | registerAsResponder responderId reqType reqListener =>
      simp only [perform, registerAsResponder]
      split
      · ext other
        simp [Finmap.mem_keys]
      · next owner htaken =>
          have hmem : reqType ∈ responders.responderBook :=
            Finmap.mem_iff.mpr ⟨owner, htaken⟩
          exact (Finset.insert_eq_of_mem (Finmap.mem_keys.mpr hmem)).symm
  | unregisterAsResponder responderId reqType =>
      simp only [perform, unregisterAsResponder]
      split
      · exact Finmap.keys_erase _ _
      · next hfree =>
          have hmem : reqType ∉ responders.responderBook :=
            Finmap.lookup_eq_none.mp hfree
          exact (Finset.erase_eq_of_notMem (mt Finmap.mem_keys.mp hmem)).symm

end Responders

/-! ## The registrations that are current -/

/-- The responder whose registration of a type is current, with the listener it
gave. -/
abbrev Registrations (ReqType ResponderId ReqListener : Type*) :=
  ReqType → Option (ResponderId × ReqListener)

/-- What a call changes that returns `true`: a registration replaces, and an
unregistration removes. -/
def ResponderCall.accepted
    (registrations : Registrations ReqType ResponderId ReqListener) :
    ResponderCall ReqType ResponderId ReqListener →
      Registrations ReqType ResponderId ReqListener
  | .registerAsResponder responderId reqType reqListener =>
      Function.update registrations reqType (some (responderId, reqListener))
  | .unregisterAsResponder _ reqType =>
      Function.update registrations reqType none

/-- A router, with the registrations as its results tell them. -/
structure Registry (ReqType ResponderId Address ReqListener
    Everything : Type*) where
  responders : Responders ReqType ResponderId Address ReqListener Everything
  registrations : Registrations ReqType ResponderId ReqListener

namespace Registry

def start : Registry ReqType ResponderId Address ReqListener Everything :=
  ⟨.init, fun _ => none⟩

def step (this : Address)
    (registry : Registry ReqType ResponderId Address ReqListener Everything)
    (call : ResponderCall ReqType ResponderId ReqListener) :
    Option (Registry ReqType ResponderId Address ReqListener Everything) :=
  let performed := registry.responders.perform this call
  some {
    responders := performed.2
    registrations :=
      if performed.1 then call.accepted registry.registrations
      else registry.registrations }

/-- Each table holds its half of the current registrations. -/
structure Matches (this : Address)
    (registry : Registry ReqType ResponderId Address ReqListener
      Everything) : Prop where
  hbook : ∀ reqType, registry.responders.responderBook.lookup reqType =
    (registry.registrations reqType).map Prod.fst
  hlistener : ∀ reqType, registry.responders.listener this reqType =
    (registry.registrations reqType).map Prod.snd

/-- The registration of the type is current, and this responder's. -/
def IsCurrent (responderId : ResponderId) (reqType : ReqType)
    (registry : Registry ReqType ResponderId Address ReqListener
      Everything) : Prop :=
  (registry.registrations reqType).map Prod.fst = some responderId

/-- An unregistration by the current responder removes the registration and
returns `true`; any other returns `false` and changes nothing. -/
def RemovesOwn (this : Address)
    (registry : Registry ReqType ResponderId Address ReqListener Everything) :
    ResponderCall ReqType ResponderId ReqListener → Prop
  | .registerAsResponder _ _ _ => True
  | .unregisterAsResponder responderId reqType =>
      let performed := registry.responders.unregisterAsResponder this
        responderId reqType
      (registry.IsCurrent responderId reqType →
        performed.1 = true ∧ reqType ∉ performed.2.responderBook ∧
          performed.2.listener this reqType = none) ∧
      (¬ registry.IsCurrent responderId reqType →
        performed = (false, registry.responders))

/-- Nobody unregisters what is registered by another. -/
def ByOwner
    (registry : Registry ReqType ResponderId Address ReqListener Everything) :
    ResponderCall ReqType ResponderId ReqListener → Prop
  | .registerAsResponder _ _ _ => True
  | .unregisterAsResponder responderId reqType =>
      ∀ owner reqListener,
        registry.registrations reqType = some (owner, reqListener) →
        owner = responderId

variable {this : Address}
  {registry next : Registry ReqType ResponderId Address ReqListener Everything}
  {call : ResponderCall ReqType ResponderId ReqListener}

/-! ## Every state -/

theorem matches_start : Matches this
    (start : Registry ReqType ResponderId Address ReqListener Everything) where
  hbook reqType := Finmap.lookup_empty reqType
  hlistener reqType := by
    simp [start, Responders.init, Responders.listener, PubSubDataRouter.empty,
      callbackOf]

theorem Matches.mem_book_iff (hmatches : registry.Matches this)
    (reqType : ReqType) :
    reqType ∈ registry.responders.responderBook ↔
      registry.registrations reqType ≠ none := by
  rw [← Finmap.lookup_isSome, hmatches.hbook, Option.isSome_map,
    Option.isSome_iff_ne_none]

/-- Both tables change for the type of the call, as the registrations do. -/
theorem matches_of_update (hmatches : registry.Matches this)
    {responders : Responders ReqType ResponderId Address ReqListener
      Everything} {reqType : ReqType}
    (registration : Option (ResponderId × ReqListener))
    (hbook : ∀ other, responders.responderBook.lookup other =
      if other = reqType then registration.map Prod.fst
      else registry.responders.responderBook.lookup other)
    (hlistener : ∀ other, responders.listener this other =
      if other = reqType then registration.map Prod.snd
      else registry.responders.listener this other) :
    Matches this ⟨responders,
      Function.update registry.registrations reqType registration⟩ := by
  constructor
  · intro other
    simp only [hbook, Function.update_apply, hmatches.hbook]
    split <;> rfl
  · intro other
    simp only [hlistener, Function.update_apply, hmatches.hlistener]
    split <;> rfl

theorem Matches.step (hmatches : registry.Matches this)
    (hstep : registry.step this call = some next) : next.Matches this := by
  obtain rfl := Option.some.inj hstep
  cases call with
  | registerAsResponder responderId reqType reqListener =>
      by_cases htaken : reqType ∈ registry.responders.responderBook
      · simp only [Responders.perform,
          Responders.registerAsResponder_of_taken reqListener htaken]
        exact hmatches
      · have hnone : registry.registrations reqType = none := by
          rwa [hmatches.mem_book_iff, not_not] at htaken
        have hsilent : registry.responders.listener this reqType = none := by
          rw [hmatches.hlistener, hnone, Option.map_none]
        obtain ⟨after, hafter, hbook, hlistener⟩ :=
          Responders.registerAsResponder_of_free responderId reqListener
            htaken hsilent
        simp only [Responders.perform, hafter, if_true]
        apply matches_of_update hmatches (some (responderId, reqListener))
        · intro other
          rw [hbook, Finmaps.lookup_insert_if, Option.map_some]
        · exact hlistener
  | unregisterAsResponder responderId reqType =>
      by_cases htaken : reqType ∈ registry.responders.responderBook
      · obtain ⟨after, hafter, hbook, hlistener⟩ :=
          Responders.unregisterAsResponder_of_taken this responderId htaken
        simp only [Responders.perform, hafter, if_true]
        apply matches_of_update hmatches none
        · intro other
          rw [hbook, Finmaps.lookup_erase_if, Option.map_none]
        · exact hlistener
      · simp only [Responders.perform,
          Responders.unregisterAsResponder_of_free htaken]
        exact hmatches

/-! ## Every sequence of calls -/

theorem removesOwn_iff_of_matches (hmatches : registry.Matches this) :
    registry.RemovesOwn this call ↔ registry.ByOwner call := by
  cases call with
  | registerAsResponder responderId reqType reqListener => exact Iff.rfl
  | unregisterAsResponder responderId reqType =>
      simp only [RemovesOwn, ByOwner, IsCurrent]
      by_cases htaken : reqType ∈ registry.responders.responderBook
      · obtain ⟨⟨owner, reqListener⟩, hcurrent⟩ :=
          Option.ne_none_iff_exists'.mp
            ((hmatches.mem_book_iff reqType).mp htaken)
        obtain ⟨after, hafter, hbook, hlistener⟩ :=
          Responders.unregisterAsResponder_of_taken this responderId htaken
        rw [hcurrent, hafter]
        constructor
        · rintro ⟨-, hother⟩ _ _ hsame
          obtain ⟨rfl, rfl⟩ := Prod.mk.inj (Option.some.inj hsame)
          by_contra hne
          have hrefused := hother (fun heq => hne (Option.some.inj heq))
          exact absurd (congrArg Prod.fst hrefused) (by simp)
        · intro howner
          obtain rfl := howner owner reqListener rfl
          refine ⟨fun _ => ⟨rfl, ?_, ?_⟩, fun hother => absurd rfl hother⟩
          · rw [hbook]
            exact Finmap.notMem_erase_self
          · rw [hlistener, if_pos rfl]
      · have hnone : registry.registrations reqType = none := by
          rwa [hmatches.mem_book_iff, not_not] at htaken
        rw [hnone, Responders.unregisterAsResponder_of_free htaken]
        refine iff_of_true
          ⟨fun hsome => absurd hsome (by simp), fun _ => rfl⟩ ?_
        intro owner reqListener hsome
        cases hsome

theorem matches_of_run {calls : List (ResponderCall ReqType ResponderId
      ReqListener)} (hrun : Runs.run (step this) start calls = some registry) :
    registry.Matches this :=
  Runs.run_invariant (Matches this)
    (fun _ _ _ hbefore hstep => hbefore.step hstep) matches_start hrun

/-- The call as an event of the request router, which knows the types alone. -/
def event {ReqId ReqData Response : Type*} :
    ResponderCall ReqType ResponderId ReqListener →
      RouterEvent ReqType ReqId ReqData Response
  | .registerAsResponder _ reqType _ => .registerAsResponder reqType
  | .unregisterAsResponder _ reqType => .unregisterAsResponder reqType

/-- The request router has a responder for the types in the book. -/
theorem responders_eq_keys {ReqId ReqData Response : Type*}
    [DecidableEq ReqId] {calls : List (ResponderCall ReqType ResponderId
      ReqListener)}
    (hrun : Runs.run (step this) start calls = some registry)
    {router : GenericReqRespRouter ReqType ReqId ReqData Response}
    (hrouter : Runs.run ReqRespRouter.step ReqRespRouter.init
      (calls.map event) = some router) :
    router.responders = registry.responders.responderBook.keys := by
  induction calls using List.reverseRecOn generalizing registry router with
  | nil =>
      obtain rfl : start = registry := by simpa using hrun
      obtain rfl : ReqRespRouter.init = router := by simpa using hrouter
      rfl
  | append_singleton calls call ih =>
      obtain ⟨before, hbefore, hstep⟩ := Runs.run_concat_eq_some.mp hrun
      rw [List.map_append, List.map_singleton] at hrouter
      obtain ⟨earlier, hearlier, hlast⟩ := Runs.run_concat_eq_some.mp hrouter
      have hsame := ih hbefore hearlier
      obtain rfl := Option.some.inj hstep
      rw [Responders.keys_perform, ← hsame]
      cases call with
      | registerAsResponder responderId reqType reqListener =>
          obtain rfl := Option.some.inj hlast
          rfl
      | unregisterAsResponder responderId reqType =>
          simp only [event, ReqRespRouter.step] at hlast
          split at hlast
          · cases hlast
          · obtain rfl := Option.some.inj hlast
            rfl

/-- After any calls a type has an entry exactly if it has a listener, and both
are those of the registration that is current.  Every unregistration removes
its own registration and no other exactly when nobody unregisters what is
registered by another. -/
theorem removesOwn_iff_byOwner (this : Address)
    (calls : List (ResponderCall ReqType ResponderId ReqListener))
    (registry : Registry ReqType ResponderId Address ReqListener Everything)
    (hrun : Runs.run (step this) start calls = some registry) :
    (∀ reqType, reqType ∈ registry.responders.responderBook ↔
        (registry.responders.listener this reqType).isSome) ∧
      registry.Matches this ∧
      (Runs.EveryStep (step this) (RemovesOwn this)
          (start : Registry ReqType ResponderId Address ReqListener Everything)
          calls ↔
        Runs.EveryStep (step this) ByOwner
          (start : Registry ReqType ResponderId Address ReqListener Everything)
          calls) := by
  have hmatches := matches_of_run hrun
  refine ⟨fun reqType => ?_, hmatches, ?_⟩
  · rw [hmatches.mem_book_iff, hmatches.hlistener, Option.isSome_map,
      Option.isSome_iff_ne_none]
  · constructor
    · intro hremoves initial call hinitial state hstate
      exact (removesOwn_iff_of_matches (matches_of_run hstate)).mp
        (hremoves initial call hinitial state hstate)
    · intro howners initial call hinitial state hstate
      exact (removesOwn_iff_of_matches (matches_of_run hstate)).mpr
        (howners initial call hinitial state hstate)

/-- A refused registration, and the unregistration by the first responder. -/
def ownCalls : List (ResponderCall String ℕ String) :=
  [.registerAsResponder 1 "price" "first",
    .registerAsResponder 2 "price" "second", .unregisterAsResponder 1 "price"]

theorem removesOwn_iff_byOwner_of_ownCalls :
    ∃ registry : Registry String ℕ ℕ String Unit,
      Runs.run (step 0) start ownCalls = some registry ∧
      (Runs.EveryStep (step 0) (RemovesOwn 0)
          (start : Registry String ℕ ℕ String Unit) ownCalls ↔
        Runs.EveryStep (step 0) ByOwner
          (start : Registry String ℕ ℕ String Unit) ownCalls) := by
  obtain ⟨registry, hrun⟩ : ∃ registry : Registry String ℕ ℕ String Unit,
      Runs.run (step 0) start ownCalls = some registry := ⟨_, rfl⟩
  exact ⟨registry, hrun, (removesOwn_iff_byOwner 0 ownCalls registry hrun).2.2⟩

/-- A responder that unregisters what another has registered. -/
theorem unregistered_by_another :
    ∃ registry : Registry String ℕ ℕ String Unit,
      Runs.run (step 0) start [.registerAsResponder 1 "price" "listener"] =
        some registry ∧
      registry.registrations "price" = some (1, "listener") ∧
      (registry.responders.unregisterAsResponder 0 2 "price").1 = true ∧
      "price" ∉ (registry.responders.unregisterAsResponder 0 2
        "price").2.responderBook ∧
      ¬ registry.RemovesOwn 0 (.unregisterAsResponder 2 "price") := by
  refine ⟨_, rfl, rfl, rfl, by decide, ?_⟩
  rintro ⟨-, hother⟩
  have hrefused := hother (by
    intro hcurrent
    exact absurd (Option.some.inj hcurrent) (by decide))
  exact absurd (congrArg Prod.fst hrefused) (by decide)

end Registry

end MultiMarketPrices.Routers
