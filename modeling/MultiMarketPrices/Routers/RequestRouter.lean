import MultiMarketPrices.Core.Finmaps
import MultiMarketPrices.Core.Runs

/-!
# The request-response routers

`GenericReqRespRouter` and `EndToEndReqRespRouter` of CrazyRouters.hpp forward a
request to the responder of its route, a request type or a responder id, and
have the same `request` and `cancelRequest`.  Responders and response handlers
are code that the router calls and that may call the router again, so that a
state holds the callbacks under way.  One step is a call that the innermost
callback (or, outside of all callbacks, the user) makes, or its return.

A request is told from a later one of the same id by its ticket, its place
among the accepted requests.  `accepted`, `forwarded`, `held` and `log` record
what has happened; the code has no such fields.
-/

namespace MultiMarketPrices.Routers

/-- A request that was accepted. -/
structure Request (Route ReqId ReqData : Type*) where
  ticket : ℕ
  reqId : ReqId
  route : Route
  reqData : ReqData

/-- A callback under way. -/
inductive Callback (Route ReqId ReqData : Type*)
  /-- the responder that a forwarder called; `queued` if the forwarder is the
  front of the queue -/
  | responder (request : Request Route ReqId ReqData) (queued : Bool)
  /-- the response handler of a request; `entry` is the ticket of the request
  that put there what `it` points to -/
  | handler (request : Request Route ReqId ReqData) (isLast : Bool)
      (entry : ℕ)

def Callback.IsResponder {Route ReqId ReqData : Type*} :
    Callback Route ReqId ReqData → Prop
  | responder _ _ => True
  | handler _ _ _ => False

/-- The responder of the route is called. -/
def Callback.Serves {Route ReqId ReqData : Type*} (route : Route) :
    Callback Route ReqId ReqData → Prop
  | responder request _ => request.route = route
  | handler _ _ _ => False

instance {Route ReqId ReqData : Type*} [DecidableEq Route] (route : Route) :
    DecidablePred (Callback.Serves route : Callback Route ReqId ReqData → Prop)
  | .responder request _ => inferInstanceAs (Decidable (request.route = route))
  | .handler _ _ _ => .isFalse id

instance {Route ReqId ReqData : Type*} :
    DecidablePred (Callback.IsResponder : Callback Route ReqId ReqData → Prop)
  | .responder _ _ => .isTrue trivial
  | .handler _ _ _ => .isFalse id

inductive Happening (Response : Type*)
  /-- the response handler of a request was called -/
  | handled (ticket : ℕ) (isLast : Bool) (response : Response)
  | cancelled (ticket : ℕ)
  /-- a last response of the request `ticket` erased the entry of `entry` -/
  | removed (entry ticket : ℕ)
  /-- a last response of the request `ticket` was to erase an entry that was
  there no more -/
  | undefined (ticket : ℕ)

structure ReqRespRouter (Route ReqId ReqData Response : Type*) where
  reqPending : Bool
  /-- `m_pendingReqProcessors`, with the forwarder that runs at its front -/
  pendingReqProcessors : List (Request Route ReqId ReqData)
  /-- `m_pendingreqIds`, with the ticket of the request that inserted the id -/
  pendingReqIds : Finmap fun _ : ReqId => ℕ
  /-- the routes with a responder in `m_reqRouter` -/
  responders : Finset Route
  /-- the callbacks under way, innermost first -/
  callbacks : List (Callback Route ReqId ReqData)
  accepted : List (Request Route ReqId ReqData)
  forwarded : List (Request Route ReqId ReqData)
  /-- the requests whose callback a responder was given -/
  held : List (Request Route ReqId ReqData)
  log : List (Happening Response)

/-- The routes are request types. -/
abbrev GenericReqRespRouter := ReqRespRouter

/-- The routes are responder ids. -/
abbrev EndToEndReqRespRouter := ReqRespRouter

inductive RouterEvent (Route ReqId ReqData Response : Type*)
  | registerAsResponder (route : Route)
  | unregisterAsResponder (route : Route)
  | request (reqId : ReqId) (route : Route) (reqData : ReqData)
  | cancelRequest (reqId : ReqId)
  /-- the callback that a responder was given for a request is called -/
  | respond (ticket : ℕ) (isLast : Bool) (response : Response)
  /-- the innermost callback returns -/
  | returns

namespace ReqRespRouter

variable {Route ReqId ReqData Response : Type*}
  [DecidableEq Route] [DecidableEq ReqId]

/-- A constructed router. -/
def init : ReqRespRouter Route ReqId ReqData Response where
  reqPending := false
  pendingReqProcessors := []
  pendingReqIds := ∅
  responders := ∅
  callbacks := []
  accepted := []
  forwarded := []
  held := []
  log := []

/-- A forwarder up to the call of its responder; without one it is done. -/
def forward (request : Request Route ReqId ReqData) (queued : Bool)
    (router : ReqRespRouter Route ReqId ReqData Response) :
    ReqRespRouter Route ReqId ReqData Response :=
  if request.route ∈ router.responders then
    { router with
      reqPending := true
      callbacks := .responder request queued :: router.callbacks
      forwarded := router.forwarded ++ [request]
      held := router.held ++ [request] }
  else
    { router with
      reqPending := false
      forwarded := router.forwarded ++ [request] }

/-- The loop over `m_pendingReqProcessors`, up to the next call of a
responder. -/
def drain : List (Request Route ReqId ReqData) →
    ReqRespRouter Route ReqId ReqData Response →
    ReqRespRouter Route ReqId ReqData Response
  | [], router => { router with pendingReqProcessors := [] }
  | request :: waiting, router =>
      let running := { router with
        pendingReqProcessors := request :: waiting }.forward request true
      if request.route ∈ router.responders then running
      else drain waiting running

def request (reqId : ReqId) (route : Route) (reqData : ReqData)
    (router : ReqRespRouter Route ReqId ReqData Response) :
    Bool × ReqRespRouter Route ReqId ReqData Response :=
  if reqId ∈ router.pendingReqIds then (false, router)
  else
    let request : Request Route ReqId ReqData :=
      ⟨router.accepted.length, reqId, route, reqData⟩
    let router := { router with
      pendingReqIds := router.pendingReqIds.insert reqId request.ticket
      accepted := router.accepted ++ [request] }
    if router.reqPending then
      (true, { router with
        pendingReqProcessors := router.pendingReqProcessors ++ [request] })
    else
      let running := router.forward request false
      if route ∈ router.responders then (true, running)
      else (true, running.drain running.pendingReqProcessors)

def cancelRequest (reqId : ReqId)
    (router : ReqRespRouter Route ReqId ReqData Response) :
    Bool × ReqRespRouter Route ReqId ReqData Response :=
  match router.pendingReqIds.lookup reqId with
  | some entry =>
      (true, { router with
        pendingReqIds := router.pendingReqIds.erase reqId
        log := router.log ++ [.cancelled entry] })
  | none => (false, router)

/-- The callback of a request, up to the call of the response handler. -/
def respond (request : Request Route ReqId ReqData) (isLast : Bool)
    (response : Response)
    (router : ReqRespRouter Route ReqId ReqData Response) :
    ReqRespRouter Route ReqId ReqData Response :=
  match router.pendingReqIds.lookup request.reqId with
  | some entry => { router with
      callbacks := .handler request isLast entry :: router.callbacks
      log := router.log ++ [.handled request.ticket isLast response] }
  | none => router

/-- `m_pendingreqIds.erase(it)`.  If the handler has removed what `it` points
to, what the code does is undefined; here it then erases nothing, and the log
says that it was undefined. -/
def eraseEntry (request : Request Route ReqId ReqData) (entry : ℕ)
    (router : ReqRespRouter Route ReqId ReqData Response) :
    ReqRespRouter Route ReqId ReqData Response :=
  if router.pendingReqIds.lookup request.reqId = some entry then
    { router with
      pendingReqIds := router.pendingReqIds.erase request.reqId
      log := router.log ++ [.removed entry request.ticket] }
  else
    { router with log := router.log ++ [.undefined request.ticket] }

/-- The return of a callback, and what the router does until it calls the next
one or returns itself. -/
def finish (callback : Callback Route ReqId ReqData)
    (router : ReqRespRouter Route ReqId ReqData Response) :
    ReqRespRouter Route ReqId ReqData Response :=
  match callback with
  | .responder _ queued =>
      { router with reqPending := false }.drain
        (if queued then router.pendingReqProcessors.tail
          else router.pendingReqProcessors)
  | .handler request isLast entry =>
      if isLast then router.eraseEntry request entry else router

/-- A responder is not unregistered while it is called: the call runs on what
unregistering destroys. -/
def step (router : ReqRespRouter Route ReqId ReqData Response) :
    RouterEvent Route ReqId ReqData Response →
      Option (ReqRespRouter Route ReqId ReqData Response)
  | .registerAsResponder route =>
      some { router with responders := insert route router.responders }
  | .unregisterAsResponder route =>
      if ∃ callback ∈ router.callbacks, callback.Serves route then none
      else some { router with responders := router.responders.erase route }
  | .request reqId route reqData =>
      some (router.request reqId route reqData).2
  | .cancelRequest reqId => some (router.cancelRequest reqId).2
  | .respond ticket isLast response =>
      (router.held.find? fun request => request.ticket = ticket).map
        fun request => router.respond request isLast response
  | .returns =>
      match router.callbacks with
      | [] => none
      | callback :: outer =>
          some ({ router with callbacks := outer }.finish callback)

/-- What an event can do. -/
inductive Stepped (router : ReqRespRouter Route ReqId ReqData Response) :
    RouterEvent Route ReqId ReqData Response →
      ReqRespRouter Route ReqId ReqData Response → Prop
  | registered (route : Route) :
      Stepped router (.registerAsResponder route)
        { router with responders := insert route router.responders }
  | unregistered (route : Route) :
      Stepped router (.unregisterAsResponder route)
        { router with responders := router.responders.erase route }
  | requested (reqId : ReqId) (route : Route) (reqData : ReqData) :
      Stepped router (.request reqId route reqData)
        (router.request reqId route reqData).2
  | cancelled (reqId : ReqId) :
      Stepped router (.cancelRequest reqId) (router.cancelRequest reqId).2
  | responded (request : Request Route ReqId ReqData) (isLast : Bool)
      (response : Response)
      (hfind : (router.held.find? fun other => other.ticket = request.ticket) =
        some request) :
      Stepped router (.respond request.ticket isLast response)
        (router.respond request isLast response)
  | returned (callback : Callback Route ReqId ReqData)
      (outer : List (Callback Route ReqId ReqData))
      (hcallbacks : router.callbacks = callback :: outer) :
      Stepped router .returns
        ({ router with callbacks := outer }.finish callback)

theorem stepped_of_step {router next : ReqRespRouter Route ReqId ReqData Response}
    {event : RouterEvent Route ReqId ReqData Response}
    (hstep : router.step event = some next) : Stepped router event next := by
  cases event with
  | registerAsResponder route =>
      obtain rfl := Option.some.inj hstep
      exact .registered route
  | unregisterAsResponder route =>
      simp only [step] at hstep
      split at hstep
      · cases hstep
      · obtain rfl := Option.some.inj hstep
        exact .unregistered route
  | request reqId route reqData =>
      obtain rfl := Option.some.inj hstep
      exact .requested reqId route reqData
  | cancelRequest reqId =>
      obtain rfl := Option.some.inj hstep
      exact .cancelled reqId
  | respond ticket isLast response =>
      obtain ⟨request, hfind, rfl⟩ := Option.map_eq_some_iff.mp hstep
      obtain rfl : request.ticket = ticket := by
        simpa using List.find?_some hfind
      exact .responded request isLast response hfind
  | returns =>
      simp only [step] at hstep
      split at hstep
      · cases hstep
      · next callback outer hcallbacks =>
          obtain rfl := Option.some.inj hstep
          exact .returned callback outer hcallbacks

/-- A request that is forwarded at once, to no responder. -/
theorem request_unserved
    {router : ReqRespRouter Route ReqId ReqData Response} {reqId : ReqId}
    {route : Route} (hfresh : reqId ∉ router.pendingReqIds)
    (hflag : router.reqPending = false)
    (hqueue : router.pendingReqProcessors = [])
    (hroute : route ∉ router.responders) (reqData : ReqData) :
    (router.request reqId route reqData).2 =
      { router with
        pendingReqIds :=
          router.pendingReqIds.insert reqId router.accepted.length
        accepted := router.accepted ++
          [⟨router.accepted.length, reqId, route, reqData⟩]
        forwarded := router.forwarded ++
          [⟨router.accepted.length, reqId, route, reqData⟩] } := by
  simp [request, hfresh, hflag, hroute, forward, hqueue, drain]

/-! ## What is accepted -/

section Accepted

variable (router : ReqRespRouter Route ReqId ReqData Response)

omit [DecidableEq ReqId] in
@[simp]
theorem forward_accepted (request : Request Route ReqId ReqData)
    (queued : Bool) :
    (router.forward request queued).accepted = router.accepted := by
  rw [forward]
  split <;> rfl

omit [DecidableEq ReqId] in
@[simp]
theorem drain_accepted (waiting : List (Request Route ReqId ReqData)) :
    (router.drain waiting).accepted = router.accepted := by
  induction waiting generalizing router with
  | nil => rfl
  | cons request waiting ih =>
      simp only [drain]
      split
      · rw [forward_accepted]
      · rw [ih, forward_accepted]

omit [DecidableEq Route] in
@[simp]
theorem eraseEntry_accepted (request : Request Route ReqId ReqData)
    (entry : ℕ) :
    (router.eraseEntry request entry).accepted = router.accepted := by
  rw [eraseEntry]
  split <;> rfl

@[simp]
theorem finish_accepted (callback : Callback Route ReqId ReqData) :
    (router.finish callback).accepted = router.accepted := by
  cases callback with
  | responder request queued => simp [finish]
  | handler request isLast entry =>
      simp only [finish]
      split <;> simp

/-- A request is accepted when the result is `true`. -/
theorem request_accepted (reqId : ReqId) (route : Route) (reqData : ReqData) :
    (router.request reqId route reqData).2.accepted =
      if (router.request reqId route reqData).1 then
        router.accepted ++ [⟨router.accepted.length, reqId, route, reqData⟩]
      else
        router.accepted := by
  by_cases hpending : reqId ∈ router.pendingReqIds
  · simp [request, hpending]
  · by_cases hflag : router.reqPending = true
    · simp [request, hpending, hflag]
    · by_cases hroute : route ∈ router.responders <;>
        simp [request, hpending, hflag, hroute]

variable {router} {next : ReqRespRouter Route ReqId ReqData Response}
  {event : RouterEvent Route ReqId ReqData Response}

theorem step_accepted (hstep : router.step event = some next) :
    next.accepted = router.accepted ∨ ∃ reqId route reqData,
      next.accepted = router.accepted ++
        [⟨router.accepted.length, reqId, route, reqData⟩] := by
  cases stepped_of_step hstep with
  | registered route | unregistered route => exact .inl rfl
  | requested reqId route reqData =>
      rw [request_accepted]
      split
      · exact .inr ⟨reqId, route, reqData, rfl⟩
      · exact .inl rfl
  | cancelled reqId =>
      rw [cancelRequest]
      split <;> exact .inl rfl
  | responded request isLast response =>
      rw [respond]
      split <;> exact .inl rfl
  | returned callback outer =>
      rw [finish_accepted]
      exact .inl rfl

/-- The ticket of a request is its place. -/
def Numbered (router : ReqRespRouter Route ReqId ReqData Response) : Prop :=
  router.accepted.map Request.ticket = List.range router.accepted.length

theorem Numbered.step (hnumbered : router.Numbered)
    (hstep : router.step event = some next) : next.Numbered := by
  rcases step_accepted hstep with heq | ⟨reqId, route, reqData, heq⟩
  · rwa [Numbered, heq]
  · rw [Numbered, heq, List.map_append, hnumbered, List.length_append,
      List.length_singleton, List.range_succ]
    rfl

omit [DecidableEq Route] [DecidableEq ReqId] in
theorem Numbered.eq_of_ticket (hnumbered : router.Numbered)
    {first second : Request Route ReqId ReqData}
    (hfirst : first ∈ router.accepted) (hsecond : second ∈ router.accepted)
    (hticket : first.ticket = second.ticket) : first = second :=
  List.inj_on_of_nodup_map (hnumbered ▸ List.nodup_range) hfirst hsecond
    hticket

omit [DecidableEq Route] [DecidableEq ReqId] in
theorem Numbered.ticket_lt (hnumbered : router.Numbered)
    {request : Request Route ReqId ReqData}
    (hrequest : request ∈ router.accepted) :
    request.ticket < router.accepted.length := by
  have hmem := List.mem_map_of_mem (f := Request.ticket) hrequest
  rw [hnumbered, List.mem_range] at hmem
  exact hmem

end Accepted

end ReqRespRouter

end MultiMarketPrices.Routers
