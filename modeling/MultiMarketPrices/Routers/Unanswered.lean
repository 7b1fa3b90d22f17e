import MultiMarketPrices.Routers.RequestLifetime
import MultiMarketPrices.Routers.ServedInOrder

/-!
# Requests that nobody will answer

A request is entered among the pending ones before it is known whether its
route has a responder, and nothing looks at what came of the forwarding.  A
request forwarded to no responder stays pending, and its id is refused from
then on.
-/

namespace MultiMarketPrices.Routers.ReqRespRouter

variable {Route ReqId ReqData Response : Type*}
  [DecidableEq Route] [DecidableEq ReqId]
  {router next : ReqRespRouter Route ReqId ReqData Response}

/-- The waiting requests that a drain forwards to no responder. -/
def passedOver (router : ReqRespRouter Route ReqId ReqData Response)
    (waiting : List (Request Route ReqId ReqData)) :
    List (Request Route ReqId ReqData) :=
  waiting.takeWhile fun request => request.route ∉ router.responders

/-- The waiting request, if any, for which a drain calls a responder. -/
def nextServed (router : ReqRespRouter Route ReqId ReqData Response)
    (waiting : List (Request Route ReqId ReqData)) :
    List (Request Route ReqId ReqData) :=
  (waiting.dropWhile fun request => request.route ∉ router.responders).take 1

/-- What is left to the drain when a responder returns. -/
def leftWaiting (router : ReqRespRouter Route ReqId ReqData Response)
    (queued : Bool) : List (Request Route ReqId ReqData) :=
  if queued then router.pendingReqProcessors.tail
  else router.pendingReqProcessors

/-- A request that is forwarded at once has a responder, and one that a drain
forwards to no responder is no longer pending. -/
def HasResponder (router : ReqRespRouter Route ReqId ReqData Response) :
    RouterEvent Route ReqId ReqData Response → Prop
  | .request reqId route _ => reqId ∉ router.pendingReqIds →
      router.reqPending = false → route ∈ router.responders
  | .returns => ∀ request queued outer,
      router.callbacks = .responder request queued :: outer →
      ∀ other ∈ router.passedOver (router.leftWaiting queued),
        router.pendingReqIds.lookup other.reqId ≠ some other.ticket
  | _ => True

/-- The request was not cancelled, and its last response, if there was one, is
still being handled. -/
def Unsettled (router : ReqRespRouter Route ReqId ReqData Response)
    (ticket : ℕ) : Prop :=
  .cancelled ticket ∉ router.log ∧
    ∀ response, .handled ticket true response ∈ router.log →
      router.LastUnderWay ticket

structure Answerable (router : ReqRespRouter Route ReqId ReqData Response) :
    Prop where
  /-- while no forwarder runs, each pending id is that of a request which a
  responder was given and which is not settled -/
  hidle : router.reqPending = false → ∀ reqId ticket,
    router.pendingReqIds.lookup reqId = some ticket →
    ∃ request ∈ router.accepted, request.reqId = reqId ∧
      request.ticket = ticket ∧ request ∈ router.held ∧
      router.Unsettled ticket
  /-- at any time, whatever is pending and was forwarded has a responder -/
  hhanded : ∀ request ∈ router.forwarded,
    router.pendingReqIds.lookup request.reqId = some request.ticket →
    request ∈ router.held

/-! ## What a drain does -/

omit [DecidableEq ReqId] in
theorem drain_forwarded (router : ReqRespRouter Route ReqId ReqData Response)
    (waiting : List (Request Route ReqId ReqData)) :
    (router.drain waiting).forwarded = router.forwarded ++
      (router.passedOver waiting ++ router.nextServed waiting) := by
  induction waiting generalizing router with
  | nil => simp [drain, passedOver, nextServed]
  | cons request waiting ih =>
      by_cases hroute : request.route ∈ router.responders
      · simp [drain, forward, passedOver, nextServed, hroute]
      · simp only [drain, forward, hroute, if_false, ih]
        simp [passedOver, nextServed, hroute]

omit [DecidableEq ReqId] in
theorem drain_held (router : ReqRespRouter Route ReqId ReqData Response)
    (waiting : List (Request Route ReqId ReqData)) :
    (router.drain waiting).held =
      router.held ++ router.nextServed waiting := by
  induction waiting generalizing router with
  | nil => simp [drain, nextServed]
  | cons request waiting ih =>
      by_cases hroute : request.route ∈ router.responders
      · simp [drain, forward, nextServed, hroute]
      · simp only [drain, forward, hroute, if_false, ih]
        simp [nextServed, hroute]

omit [DecidableEq ReqId] in
theorem passedOver_subset (router : ReqRespRouter Route ReqId ReqData Response)
    (waiting : List (Request Route ReqId ReqData)) :
    router.passedOver waiting ⊆ waiting :=
  (List.takeWhile_prefix _).subset

/-! ## What is pending -/

/-- The bookkeeping of the pending ids, whatever becomes of the requests. -/
structure Tracks (router : ReqRespRouter Route ReqId ReqData Response) :
    Prop where
  hnumbered : router.Numbered
  hheld : router.held ⊆ router.accepted
  hpending : ∀ reqId ticket, router.pendingReqIds.lookup reqId = some ticket →
    ∃ request ∈ router.accepted, request.reqId = reqId ∧
      request.ticket = ticket
  hopen : ∀ reqId ticket, router.pendingReqIds.lookup reqId = some ticket →
    .cancelled ticket ∉ router.log
  /-- a pending request that had its last response is erased by a handler -/
  hlast : ∀ reqId ticket response,
    router.pendingReqIds.lookup reqId = some ticket →
    .handled ticket true response ∈ router.log →
    ∃ request, request.ticket = ticket ∧
      .handler request true ticket ∈ router.callbacks
  hlogged : ∀ ticket, Ended router.log ticket →
    ticket < router.accepted.length
  hhandlers : ∀ request isLast entry,
    .handler request isLast entry ∈ router.callbacks →
    request ∈ router.accepted

omit [DecidableEq Route] in
theorem tracks_init :
    Tracks (init : ReqRespRouter Route ReqId ReqData Response) := by
  constructor
  all_goals simp [init, Numbered, Ended]

omit [DecidableEq Route] in
/-- Only the request itself can be pending under its ticket. -/
theorem Tracks.reqId_eq (htracks : router.Tracks)
    {request : Request Route ReqId ReqData} {reqId : ReqId}
    (hrequest : request ∈ router.accepted)
    (hlookup : router.pendingReqIds.lookup reqId = some request.ticket) :
    request.reqId = reqId := by
  obtain ⟨pending, hpending, hpendingId, hticket⟩ :=
    htracks.hpending reqId request.ticket hlookup
  rw [← htracks.hnumbered.eq_of_ticket hpending hrequest hticket]
  exact hpendingId

omit [DecidableEq Route] in
theorem Tracks.congr (htracks : router.Tracks)
    (hsame : SameRequests router next) (hheld : next.held ⊆ router.accepted) :
    next.Tracks := by
  obtain ⟨hpending, hlog, haccepted, hhandlers⟩ := hsame
  constructor
  · rw [Numbered, haccepted]
    exact htracks.hnumbered
  · rwa [haccepted]
  · rw [hpending, haccepted]
    exact htracks.hpending
  · rw [hpending, hlog]
    exact htracks.hopen
  · intro reqId ticket response hlookup hhandled
    rw [hpending] at hlookup
    rw [hlog] at hhandled
    obtain ⟨request, hticket, hmem⟩ :=
      htracks.hlast reqId ticket response hlookup hhandled
    exact ⟨request, hticket, (hhandlers _ _ _).mpr hmem⟩
  · rw [hlog, haccepted]
    exact htracks.hlogged
  · intro request isLast entry hmem
    rw [haccepted]
    exact htracks.hhandlers request isLast entry ((hhandlers _ _ _).mp hmem)

omit [DecidableEq Route] in
theorem Tracks.accept (htracks : router.Tracks) (reqId : ReqId)
    (route : Route) (reqData : ReqData) :
    Tracks { router with
      pendingReqIds := router.pendingReqIds.insert reqId router.accepted.length
      accepted := router.accepted ++
        [⟨router.accepted.length, reqId, route, reqData⟩] } := by
  -- the log says nothing of a ticket that is not given out yet
  have hfresh : ¬ Ended router.log router.accepted.length :=
    fun hended => absurd (htracks.hlogged _ hended) (lt_irrefl _)
  constructor
  · have hnumbered := htracks.hnumbered
    simp only [Numbered] at hnumbered ⊢
    rw [List.map_append, hnumbered, List.length_append,
      List.length_singleton, List.range_succ]
    rfl
  · exact fun _ hmem => List.mem_append_left _ (htracks.hheld hmem)
  · intro other ticket hlookup
    simp only [Finmaps.lookup_insert_if] at hlookup
    split at hlookup
    · next hsame =>
        exact ⟨_, List.mem_append_right _ (List.mem_singleton.mpr rfl),
          hsame.symm, Option.some.inj hlookup⟩
    · obtain ⟨request, hrequest, hwhich⟩ :=
        htracks.hpending other ticket hlookup
      exact ⟨request, List.mem_append_left _ hrequest, hwhich⟩
  · intro other ticket hlookup hcancelled
    simp only [Finmaps.lookup_insert_if] at hlookup
    split at hlookup
    · obtain rfl := Option.some.inj hlookup
      exact hfresh (.inr hcancelled)
    · exact htracks.hopen other ticket hlookup hcancelled
  · intro other ticket response hlookup hhandled
    simp only [Finmaps.lookup_insert_if] at hlookup
    split at hlookup
    · obtain rfl := Option.some.inj hlookup
      exact absurd (.inl ⟨response, hhandled⟩) hfresh
    · exact htracks.hlast other ticket response hlookup hhandled
  · intro ticket hended
    rw [List.length_append]
    exact (htracks.hlogged ticket hended).trans_le (Nat.le_add_right _ _)
  · intro request isLast entry hmem
    exact List.mem_append_left _ (htracks.hhandlers request isLast entry hmem)

omit [DecidableEq ReqId] in
theorem nextServed_subset (router : ReqRespRouter Route ReqId ReqData Response)
    (waiting : List (Request Route ReqId ReqData)) :
    router.nextServed waiting ⊆ waiting :=
  fun _ hmem => (List.dropWhile_suffix _).subset (List.take_subset _ _ hmem)

theorem Tracks.forward (htracks : router.Tracks)
    {request : Request Route ReqId ReqData}
    (hrequest : request ∈ router.accepted) (queued : Bool) :
    (router.forward request queued).Tracks := by
  refine htracks.congr (sameRequests_forward request queued router) ?_
  intro other hmem
  cases List.mem_append.mp (held_forward request queued router hmem) with
  | inl hold => exact htracks.hheld hold
  | inr hnew => exact List.mem_singleton.mp hnew ▸ hrequest

theorem Tracks.drain (htracks : router.Tracks)
    {waiting : List (Request Route ReqId ReqData)}
    (hwaiting : waiting ⊆ router.accepted) :
    (router.drain waiting).Tracks := by
  refine htracks.congr (sameRequests_drain waiting router) ?_
  intro other hmem
  rw [drain_held] at hmem
  cases List.mem_append.mp hmem with
  | inl hold => exact htracks.hheld hold
  | inr hnew => exact hwaiting (nextServed_subset router waiting hnew)

theorem Tracks.request (htracks : router.Tracks) (hserving : router.Serving)
    (reqId : ReqId) (route : Route) (reqData : ReqData) :
    (router.request reqId route reqData).2.Tracks := by
  rw [ReqRespRouter.request]
  split
  · exact htracks
  · have haccept := htracks.accept reqId route reqData
    dsimp only
    split
    · exact haccept.congr ⟨rfl, rfl, rfl, fun _ _ _ => Iff.rfl⟩ haccept.hheld
    · next hflag =>
        have hforward := haccept.forward
          (List.mem_append_right _ (List.mem_singleton.mpr rfl)) false
        split
        · exact hforward
        · next hroute =>
            obtain ⟨hqueue, -⟩ :=
              hserving.idle_of_flag (Bool.eq_false_of_not_eq_true hflag)
            apply hforward.drain
            rw [ReqRespRouter.forward, if_neg hroute]
            simp [hqueue]

omit [DecidableEq Route] in
theorem Tracks.cancelRequest (htracks : router.Tracks) (reqId : ReqId) :
    (router.cancelRequest reqId).2.Tracks := by
  rw [ReqRespRouter.cancelRequest]
  split
  · next entry hentry =>
      obtain ⟨request, hrequest, hsameId, hticket⟩ :=
        htracks.hpending reqId entry hentry
      constructor
      · exact htracks.hnumbered
      · exact htracks.hheld
      · exact fun otherId ticket hlookup =>
          htracks.hpending otherId ticket (Finmaps.lookup_of_erase hlookup).2
      · intro otherId ticket hlookup hcancelled
        obtain ⟨hdifferent, hold⟩ := Finmaps.lookup_of_erase hlookup
        cases List.mem_append.mp hcancelled with
        | inl hearlier => exact htracks.hopen otherId ticket hold hearlier
        | inr hnow =>
            obtain rfl := Happening.cancelled.inj (List.mem_singleton.mp hnow)
            rw [← hticket] at hold
            exact hdifferent
              ((htracks.reqId_eq hrequest hold).symm.trans hsameId)
      · intro otherId ticket response hlookup hhandled
        exact htracks.hlast otherId ticket response
          (Finmaps.lookup_of_erase hlookup).2 (by simpa using hhandled)
      · intro ticket hended
        cases ended_cancelled.mp hended with
        | inl hearlier => exact htracks.hlogged ticket hearlier
        | inr hnow =>
            rw [hnow, ← hticket]
            exact htracks.hnumbered.ticket_lt hrequest
      · exact htracks.hhandlers
  · exact htracks

omit [DecidableEq Route] in
theorem Tracks.respond (htracks : router.Tracks)
    {request : Request Route ReqId ReqData} (hheld : request ∈ router.held)
    (isLast : Bool) (response : Response) :
    (router.respond request isLast response).Tracks := by
  have hrequest := htracks.hheld hheld
  rw [ReqRespRouter.respond]
  split
  · next entry hentry =>
      constructor
      · exact htracks.hnumbered
      · exact htracks.hheld
      · exact htracks.hpending
      · intro otherId ticket hlookup hcancelled
        exact htracks.hopen otherId ticket hlookup (by simpa using hcancelled)
      · intro otherId ticket other hlookup hhandled
        cases List.mem_append.mp hhandled with
        | inl hearlier =>
            obtain ⟨running, hticket, hmem⟩ :=
              htracks.hlast otherId ticket other hlookup hearlier
            exact ⟨running, hticket, List.mem_cons_of_mem _ hmem⟩
        | inr hnow =>
            obtain ⟨rfl, rfl, -⟩ :=
              Happening.handled.inj (List.mem_singleton.mp hnow)
            rw [← htracks.reqId_eq hrequest hlookup, hentry] at hlookup
            obtain rfl := Option.some.inj hlookup
            exact ⟨request, rfl, List.mem_cons_self⟩
      · intro ticket hended
        cases ended_handled.mp hended with
        | inl hearlier => exact htracks.hlogged ticket hearlier
        | inr hnow =>
            rw [hnow.2]
            exact htracks.hnumbered.ticket_lt hrequest
      · intro other otherLast otherEntry hmem
        cases List.mem_cons.mp hmem with
        | inl hnew =>
            obtain ⟨rfl, -, -⟩ := Callback.handler.inj hnew
            exact hrequest
        | inr hold => exact htracks.hhandlers other otherLast otherEntry hold
  · exact htracks

omit [DecidableEq Route] in
theorem Tracks.eraseEntry (htracks : router.Tracks)
    (request : Request Route ReqId ReqData) (entry : ℕ) :
    (router.eraseEntry request entry).Tracks := by
  rw [ReqRespRouter.eraseEntry]
  split
  · constructor
    · exact htracks.hnumbered
    · exact htracks.hheld
    · exact fun otherId ticket hlookup =>
        htracks.hpending otherId ticket (Finmaps.lookup_of_erase hlookup).2
    · intro otherId ticket hlookup hcancelled
      exact htracks.hopen otherId ticket (Finmaps.lookup_of_erase hlookup).2
        (by simpa using hcancelled)
    · intro otherId ticket response hlookup hhandled
      exact htracks.hlast otherId ticket response
        (Finmaps.lookup_of_erase hlookup).2 (by simpa using hhandled)
    · intro ticket hended
      exact htracks.hlogged ticket (ended_removed.mp hended)
    · exact htracks.hhandlers
  · constructor
    · exact htracks.hnumbered
    · exact htracks.hheld
    · exact htracks.hpending
    · intro otherId ticket hlookup hcancelled
      exact htracks.hopen otherId ticket hlookup (by simpa using hcancelled)
    · intro otherId ticket response hlookup hhandled
      exact htracks.hlast otherId ticket response hlookup
        (by simpa using hhandled)
    · intro ticket hended
      exact htracks.hlogged ticket (ended_undefined.mp hended)
    · exact htracks.hhandlers

omit [DecidableEq Route] in
/-- A callback can go whose return leaves nothing pending to itself. -/
theorem Tracks.pop (htracks : router.Tracks)
    {callback : Callback Route ReqId ReqData}
    {outer : List (Callback Route ReqId ReqData)}
    (hcallbacks : router.callbacks = callback :: outer)
    (herased : ∀ request entry, callback = .handler request true entry →
      router.pendingReqIds.lookup request.reqId ≠ some entry) :
    Tracks { router with callbacks := outer } := by
  constructor
  · exact htracks.hnumbered
  · exact htracks.hheld
  · exact htracks.hpending
  · exact htracks.hopen
  · intro reqId ticket response hlookup hhandled
    obtain ⟨request, hticket, hmem⟩ :=
      htracks.hlast reqId ticket response hlookup hhandled
    have hrequest := htracks.hhandlers request true ticket hmem
    rw [hcallbacks] at hmem
    cases List.mem_cons.mp hmem with
    | inl hfirst =>
        subst hticket
        rw [← htracks.reqId_eq hrequest hlookup] at hlookup
        exact absurd hlookup (herased request _ hfirst.symm)
    | inr hrest => exact ⟨request, hticket, hrest⟩
  · exact htracks.hlogged
  · intro request isLast entry hmem
    exact htracks.hhandlers request isLast entry
      (hcallbacks ▸ List.mem_cons_of_mem _ hmem)

theorem Tracks.finish (htracks : router.Tracks) (hserving : router.Serving)
    {callback : Callback Route ReqId ReqData}
    {outer : List (Callback Route ReqId ReqData)}
    (hcallbacks : router.callbacks = callback :: outer) :
    ({ router with callbacks := outer }.finish callback).Tracks := by
  cases callback with
  | responder request queued =>
      obtain ⟨-, horder⟩ := hserving.waiting hcallbacks
      have hidle : Tracks { router with
          callbacks := outer, reqPending := false } :=
        (htracks.pop hcallbacks (by simp)).congr
          ⟨rfl, rfl, rfl, fun _ _ _ => Iff.rfl⟩ htracks.hheld
      apply hidle.drain
      intro other hmem
      rw [horder]
      exact List.mem_append_right _ hmem
  | handler request isLast entry =>
      cases isLast with
      | false => exact htracks.pop hcallbacks (by simp)
      | true =>
          simp only [ReqRespRouter.finish, if_true]
          rw [eraseEntry_of_popped]
          have hsame : (router.eraseEntry request entry).callbacks =
              .handler request true entry :: outer :=
            (eraseEntry_callbacks request entry).trans hcallbacks
          refine (htracks.eraseEntry request entry).pop hsame ?_
          intro other otherEntry heq
          obtain ⟨rfl, -, rfl⟩ := Callback.handler.inj heq
          exact lookup_eraseEntry request entry

theorem Tracks.step (htracks : router.Tracks) (hserving : router.Serving)
    {event : RouterEvent Route ReqId ReqData Response}
    (hstep : router.step event = some next) : next.Tracks := by
  cases stepped_of_step hstep with
  | registered route | unregistered route =>
      exact htracks.congr ⟨rfl, rfl, rfl, fun _ _ _ => Iff.rfl⟩ htracks.hheld
  | requested reqId route reqData =>
      exact htracks.request hserving reqId route reqData
  | cancelled reqId => exact htracks.cancelRequest reqId
  | responded request isLast response hfind =>
      exact htracks.respond (List.mem_of_find?_eq_some hfind) isLast response
  | returned callback outer hcallbacks =>
      exact htracks.finish hserving hcallbacks

/-! ## Who has a responder -/

/-- Whatever is pending and was forwarded is held by a responder, and only what
was forwarded is. -/
structure Handed (router : ReqRespRouter Route ReqId ReqData Response) :
    Prop where
  hhanded : ∀ request ∈ router.forwarded,
    router.pendingReqIds.lookup request.reqId = some request.ticket →
    request ∈ router.held
  hheld : router.held ⊆ router.forwarded

omit [DecidableEq Route] in
/-- Nothing new is pending, forwarded or held. -/
theorem Handed.congr (hhanded : router.Handed)
    (hpending : ∀ reqId ticket, next.pendingReqIds.lookup reqId = some ticket →
      router.pendingReqIds.lookup reqId = some ticket)
    (hforwarded : next.forwarded = router.forwarded)
    (hheld : next.held = router.held) : next.Handed := by
  constructor
  · intro request hrequest hlookup
    rw [hforwarded] at hrequest
    rw [hheld]
    exact hhanded.hhanded request hrequest (hpending _ _ hlookup)
  · rw [hforwarded, hheld]
    exact hhanded.hheld

theorem Handed.drain (hhanded : router.Handed)
    {waiting : List (Request Route ReqId ReqData)}
    (hanswered : ∀ other ∈ router.passedOver waiting,
      router.pendingReqIds.lookup other.reqId ≠ some other.ticket) :
    (router.drain waiting).Handed := by
  constructor
  · intro request hrequest hlookup
    rw [(sameRequests_drain waiting router).hpending] at hlookup
    rw [drain_forwarded] at hrequest
    rw [drain_held]
    rcases List.mem_append.mp hrequest with hold | hnew
    · exact List.mem_append_left _ (hhanded.hhanded request hold hlookup)
    · cases List.mem_append.mp hnew with
      | inl hpassed => exact absurd hlookup (hanswered request hpassed)
      | inr hserved => exact List.mem_append_right _ hserved
  · rw [drain_forwarded, drain_held]
    intro request hmem
    rw [List.mem_append] at hmem
    rw [List.mem_append, List.mem_append]
    exact hmem.imp (hhanded.hheld ·) .inr

omit [DecidableEq Route] in
theorem Handed.accept (hhanded : router.Handed) (htracks : router.Tracks)
    (hserving : router.Serving) (reqId : ReqId) (route : Route)
    (reqData : ReqData) :
    Handed { router with
      pendingReqIds := router.pendingReqIds.insert reqId router.accepted.length
      accepted := router.accepted ++
        [⟨router.accepted.length, reqId, route, reqData⟩] } := by
  refine ⟨fun request hrequest hlookup => ?_, hhanded.hheld⟩
  simp only [Finmaps.lookup_insert_if] at hlookup
  split at hlookup
  · have hold := htracks.hnumbered.ticket_lt
      (hserving.forwarded_prefix.subset hrequest)
    rw [← Option.some.inj hlookup] at hold
    exact absurd hold (lt_irrefl _)
  · exact hhanded.hhanded request hrequest hlookup

omit [DecidableEq ReqId] in
theorem forward_served {request : Request Route ReqId ReqData}
    (hroute : request.route ∈ router.responders) (queued : Bool) :
    (router.forward request queued).forwarded =
        router.forwarded ++ [request] ∧
      (router.forward request queued).held = router.held ++ [request] := by
  rw [ReqRespRouter.forward, if_pos hroute]
  exact ⟨rfl, rfl⟩

theorem Handed.forward (hhanded : router.Handed)
    {request : Request Route ReqId ReqData}
    (hroute : request.route ∈ router.responders) (queued : Bool) :
    (router.forward request queued).Handed := by
  obtain ⟨hforwarded, hheld⟩ := forward_served hroute queued
  constructor
  · intro other hother hlookup
    rw [(sameRequests_forward request queued router).hpending] at hlookup
    rw [hforwarded] at hother
    rw [hheld]
    cases List.mem_append.mp hother with
    | inl hold =>
        exact List.mem_append_left _ (hhanded.hhanded other hold hlookup)
    | inr hnew => exact List.mem_append_right _ hnew
  · rw [hforwarded, hheld]
    exact List.append_subset.mpr
      ⟨fun _ hmem => List.mem_append_left _ (hhanded.hheld hmem),
        List.subset_append_right _ _⟩

theorem Handed.request (hhanded : router.Handed) (htracks : router.Tracks)
    (hserving : router.Serving) {reqId : ReqId} {route : Route}
    {reqData : ReqData}
    (hguard : router.HasResponder (.request reqId route reqData)) :
    (router.request reqId route reqData).2.Handed := by
  rw [ReqRespRouter.request]
  split
  · exact hhanded
  · next hfresh =>
      have haccept := hhanded.accept htracks hserving reqId route reqData
      dsimp only
      split
      · exact haccept.congr (fun _ _ hlookup => hlookup) rfl rfl
      · next hflag =>
          have hroute := hguard hfresh (Bool.eq_false_of_not_eq_true hflag)
          rw [if_pos hroute]
          exact haccept.forward hroute false

omit [DecidableEq Route] in
theorem Handed.eraseEntry (hhanded : router.Handed)
    (request : Request Route ReqId ReqData) (entry : ℕ) :
    (router.eraseEntry request entry).Handed := by
  rw [ReqRespRouter.eraseEntry]
  split
  · exact hhanded.congr
      (fun _ _ hlookup => (Finmaps.lookup_of_erase hlookup).2) rfl rfl
  · exact hhanded.congr (fun _ _ hlookup => hlookup) rfl rfl

theorem Handed.finish (hhanded : router.Handed)
    {callback : Callback Route ReqId ReqData}
    {outer : List (Callback Route ReqId ReqData)}
    (hcallbacks : router.callbacks = callback :: outer)
    (hguard : router.HasResponder .returns) :
    ({ router with callbacks := outer }.finish callback).Handed := by
  cases callback with
  | responder request queued =>
      have hidle : Handed { router with
          callbacks := outer, reqPending := false } :=
        hhanded.congr (fun _ _ hlookup => hlookup) rfl rfl
      exact hidle.drain (hguard request queued outer hcallbacks)
  | handler request isLast entry =>
      have hpopped : Handed { router with callbacks := outer } :=
        hhanded.congr (fun _ _ hlookup => hlookup) rfl rfl
      simp only [ReqRespRouter.finish]
      split
      · exact hpopped.eraseEntry request entry
      · exact hpopped

theorem Handed.step (hhanded : router.Handed) (htracks : router.Tracks)
    (hserving : router.Serving)
    {event : RouterEvent Route ReqId ReqData Response}
    (hguard : router.HasResponder event)
    (hstep : router.step event = some next) : next.Handed := by
  cases stepped_of_step hstep with
  | registered route | unregistered route =>
      exact hhanded.congr (fun _ _ hlookup => hlookup) rfl rfl
  | requested reqId route reqData =>
      exact hhanded.request htracks hserving hguard
  | cancelled reqId =>
      rw [ReqRespRouter.cancelRequest]
      split
      · exact hhanded.congr
          (fun _ _ hlookup => (Finmaps.lookup_of_erase hlookup).2) rfl rfl
      · exact hhanded
  | responded request isLast response hfind =>
      rw [ReqRespRouter.respond]
      split
      · exact hhanded.congr (fun _ _ hlookup => hlookup) rfl rfl
      · exact hhanded
  | returned callback outer hcallbacks =>
      exact hhanded.finish hcallbacks hguard

/-! ## Any run -/

structure Accounts (router : ReqRespRouter Route ReqId ReqData Response) :
    Prop where
  hserving : router.Serving
  htracks : router.Tracks
  hhanded : router.Handed

omit [DecidableEq Route] in
theorem accounts_init :
    Accounts (init : ReqRespRouter Route ReqId ReqData Response) :=
  ⟨serving_init, tracks_init, by simp [init], by simp [init]⟩

omit [DecidableEq Route] in
theorem Accounts.answerable (haccounts : router.Accounts) :
    router.Answerable := by
  obtain ⟨hserving, htracks, hhanded⟩ := haccounts
  refine ⟨fun hflag reqId ticket hlookup => ?_, hhanded.hhanded⟩
  obtain ⟨request, hrequest, hreqId, hticket⟩ :=
    htracks.hpending reqId ticket hlookup
  have hforwarded : request ∈ router.forwarded :=
    (hserving.idle_of_flag hflag).2 ▸ hrequest
  refine ⟨request, hrequest, hreqId, hticket, ?_,
    htracks.hopen reqId ticket hlookup, ?_⟩
  · apply hhanded.hhanded request hforwarded
    rw [hreqId, hticket]
    exact hlookup
  · intro response hhandled
    obtain ⟨running, hrunning, hmem⟩ :=
      htracks.hlast reqId ticket response hlookup hhandled
    exact ⟨running, ticket, hmem, hrunning⟩

omit [DecidableEq Route] in
theorem Accounts.nodup (haccounts : router.Accounts) :
    router.accepted.Nodup := by
  apply List.Nodup.of_map Request.ticket
  rw [haccounts.htracks.hnumbered]
  exact List.nodup_range

theorem Accounts.step (haccounts : router.Accounts)
    {event : RouterEvent Route ReqId ReqData Response}
    (hguard : router.HasResponder event)
    (hstep : router.step event = some next) : next.Accounts where
  hserving := haccounts.hserving.step hstep
  htracks := haccounts.htracks.step haccounts.hserving hstep
  hhanded := haccounts.hhanded.step haccounts.htracks haccounts.hserving hguard
    hstep

/-- A request that is forwarded at once, to no responder. -/
theorem Accounts.not_answerable_request (haccounts : router.Accounts)
    {reqId : ReqId} {route : Route} {reqData : ReqData}
    (hfresh : reqId ∉ router.pendingReqIds)
    (hflag : router.reqPending = false) (hroute : route ∉ router.responders) :
    ¬ (router.request reqId route reqData).2.Answerable := by
  obtain ⟨hqueue, -⟩ := haccounts.hserving.idle_of_flag hflag
  rw [request_unserved hfresh hflag hqueue hroute reqData]
  intro hanswerable
  have hmem := hanswerable.hhanded
    ⟨router.accepted.length, reqId, route, reqData⟩
    (List.mem_append_right _ (List.mem_singleton.mpr rfl))
    (Finmap.lookup_insert _)
  have hlt := haccounts.htracks.hnumbered.ticket_lt
    (haccounts.htracks.hheld hmem)
  exact absurd hlt (lt_irrefl _)

/-- A waiting request that a drain forwards to no responder. -/
theorem Accounts.not_answerable_drain (haccounts : router.Accounts)
    {waiting : List (Request Route ReqId ReqData)}
    (horder : router.accepted = router.forwarded ++ waiting)
    {request : Request Route ReqId ReqData}
    (hpassed : request ∈ router.passedOver waiting)
    (hlookup : router.pendingReqIds.lookup request.reqId =
      some request.ticket)
    (hpending : next.pendingReqIds = router.pendingReqIds)
    (hforwarded : next.forwarded = router.forwarded ++
      (router.passedOver waiting ++ router.nextServed waiting))
    (hheld : next.held = router.held ++ router.nextServed waiting) :
    ¬ next.Answerable := by
  intro hanswerable
  have hmem : request ∈ next.held := by
    apply hanswerable.hhanded
    · rw [hforwarded]
      exact List.mem_append_right _ (List.mem_append_left _ hpassed)
    · rw [hpending]
      exact hlookup
  have hnodup := haccounts.nodup
  rw [horder, List.nodup_append] at hnodup
  rw [hheld] at hmem
  cases List.mem_append.mp hmem with
  | inl hold =>
      exact hnodup.2.2 request (haccounts.hhanded.hheld hold) request
        (passedOver_subset router waiting hpassed) rfl
  | inr hserved =>
      -- what is served comes after what is passed over
      have hsplit := hnodup.2.1
      rw [← @List.takeWhile_append_dropWhile _
        (fun request => decide (request.route ∉ router.responders)) waiting,
        List.nodup_append] at hsplit
      exact hsplit.2.2 request hpassed request
        (List.take_subset _ _ hserved) rfl

theorem Accounts.not_answerable (haccounts : router.Accounts)
    {event : RouterEvent Route ReqId ReqData Response}
    (hguard : ¬ router.HasResponder event)
    (hstep : router.step event = some next) : ¬ next.Answerable := by
  cases stepped_of_step hstep with
  | registered route | unregistered route => exact absurd trivial hguard
  | cancelled reqId => exact absurd trivial hguard
  | responded request isLast response hfind => exact absurd trivial hguard
  | requested reqId route reqData =>
      simp only [HasResponder, Classical.not_imp] at hguard
      obtain ⟨hfresh, hflag, hroute⟩ := hguard
      exact haccounts.not_answerable_request hfresh hflag hroute
  | returned callback outer hcallbacks =>
      simp only [HasResponder, not_forall, not_not] at hguard
      obtain ⟨running, queued, outer', hsame, request, hpassed, hlookup⟩ :=
        hguard
      rw [hcallbacks] at hsame
      obtain ⟨rfl, rfl⟩ := List.cons.inj hsame
      obtain ⟨-, horder⟩ := haccounts.hserving.waiting hcallbacks
      exact haccounts.not_answerable_drain horder hpassed hlookup
        (sameRequests_drain _ _).hpending (drain_forwarded _ _)
        (drain_held _ _)

/-- In every state of a run, each id that is pending while no forwarder runs is
that of a request which a responder was given and which is not settled, and
nothing forwarded to no responder is pending, exactly when every request that
is forwarded finds a responder or was cancelled before. -/
theorem answerable_iff_hasResponder
    (events : List (RouterEvent Route ReqId ReqData Response))
    (router : ReqRespRouter Route ReqId ReqData Response)
    (hrun : Runs.run step init events = some router) :
    Runs.EveryStep step HasResponder init events ↔
      ∀ initial, initial <+: events → ∀ state,
        Runs.run step init initial = some state → state.Answerable :=
  Runs.everyStep_iff_forall_good Accounts Answerable
    (fun _ haccounts => haccounts.answerable)
    (fun _ _ _ haccounts _ hguard hstep => haccounts.step hguard hstep)
    (fun _ _ _ haccounts _ hguard hstep =>
      haccounts.not_answerable hguard hstep)
    accounts_init (Runs.everyStep_of_forall _ fun _ _ => trivial) hrun

/-- A responder is unregistered while a request for it waits, and the request
is cancelled before the queue is drained. -/
def cancelledInTime : List (RouterEvent String ℕ Unit Unit) :=
  [.registerAsResponder "price", .registerAsResponder "book",
    .request 1 "price" (), .request 2 "book" (),
    .unregisterAsResponder "book", .cancelRequest 2, .returns]

theorem answerable_iff_hasResponder_of_cancelledInTime :
    ∃ router, Runs.run step init cancelledInTime = some router ∧
      1 ∈ router.pendingReqIds ∧ 2 ∉ router.pendingReqIds ∧
      (Runs.EveryStep step HasResponder init cancelledInTime ↔
        ∀ initial, initial <+: cancelledInTime → ∀ state,
          Runs.run step init initial = some state → state.Answerable) := by
  obtain ⟨router, hrun, hfirst, hsecond⟩ :
      ∃ router, Runs.run step init cancelledInTime = some router ∧
        1 ∈ router.pendingReqIds ∧ 2 ∉ router.pendingReqIds :=
    ⟨_, rfl, by decide, by decide⟩
  exact ⟨router, hrun, hfirst, hsecond,
    answerable_iff_hasResponder cancelledInTime router hrun⟩

/-- A request is made for a route without a responder, and again once there is
one. -/
def requestedTooEarly : List (RouterEvent String ℕ Unit Unit) :=
  [.request 1 "price" (), .registerAsResponder "price",
    .request 1 "price" ()]

/-- The early request is pending for good, with no responder, and the id is
refused. -/
theorem early_request_lost :
    ∃ router, Runs.run step init requestedTooEarly = some router ∧
      (init.request 1 "price" () :
        Bool × ReqRespRouter String ℕ Unit Unit).1 = true ∧
      router.reqPending = false ∧ 1 ∈ router.pendingReqIds ∧
      router.held = [] ∧ (router.request 1 "price" ()).1 = false ∧
      ¬ router.Answerable := by
  obtain ⟨router, hrun, hflag, hlookup, hheld, hrefused⟩ :
      ∃ router, Runs.run step init requestedTooEarly = some router ∧
        router.reqPending = false ∧
        router.pendingReqIds.lookup 1 = some 0 ∧ router.held = [] ∧
        (router.request 1 "price" ()).1 = false := ⟨_, rfl, rfl, rfl, rfl, rfl⟩
  have hmem : 1 ∈ router.pendingReqIds :=
    Finmap.mem_iff.mpr ⟨0, hlookup⟩
  refine ⟨router, hrun, rfl, hflag, hmem, hheld, hrefused, ?_⟩
  intro hanswerable
  obtain ⟨request, -, -, -, hmem, -⟩ := hanswerable.hidle hflag 1 0 hlookup
  simp [hheld] at hmem

end MultiMarketPrices.Routers.ReqRespRouter
