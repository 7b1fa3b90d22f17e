import MultiMarketPrices.Routers.RequestRouter

/-!
# Requests are served once, in order, and one at a time

A request made while a responder is called waits in the queue, and the call of
`request` that is outermost drains the queue.  In every state either no
responder is called, and then nothing waits, or exactly one is, and then the
queue holds what has been accepted and not yet forwarded.
-/

namespace MultiMarketPrices.Routers.ReqRespRouter

variable {Route ReqId ReqData Response : Type*}
  [DecidableEq Route] [DecidableEq ReqId]
  {router next : ReqRespRouter Route ReqId ReqData Response}

/-- Whether a responder is called, and what then waits. -/
inductive Serving (router : ReqRespRouter Route ReqId ReqData Response) : Prop
  | idle
      (hcallbacks : ∀ callback ∈ router.callbacks, ¬ callback.IsResponder)
      (hflag : router.reqPending = false)
      (hqueue : router.pendingReqProcessors = [])
      (horder : router.accepted = router.forwarded)
  | busy (inner outer : List (Callback Route ReqId ReqData))
      (request : Request Route ReqId ReqData) (queued : Bool)
      (waiting : List (Request Route ReqId ReqData))
      (hcallbacks : router.callbacks =
        inner ++ .responder request queued :: outer)
      (hinner : ∀ callback ∈ inner, ¬ callback.IsResponder)
      (houter : ∀ callback ∈ outer, ¬ callback.IsResponder)
      (hflag : router.reqPending = true)
      (hqueue : router.pendingReqProcessors =
        if queued then request :: waiting else waiting)
      (horder : router.accepted = router.forwarded ++ waiting)

omit [DecidableEq Route] [DecidableEq ReqId] in
theorem serving_init :
    Serving (init : ReqRespRouter Route ReqId ReqData Response) :=
  .idle (by simp [init]) rfl rfl rfl

omit [DecidableEq ReqId] in
/-- The drain forwards what waits, in order, until a responder is called. -/
theorem serving_drain {waiting : List (Request Route ReqId ReqData)}
    (hcallbacks : ∀ callback ∈ router.callbacks, ¬ callback.IsResponder)
    (hflag : router.reqPending = false)
    (horder : router.accepted = router.forwarded ++ waiting) :
    Serving (router.drain waiting) := by
  induction waiting generalizing router with
  | nil => exact .idle hcallbacks hflag rfl (by simpa [drain] using horder)
  | cons request waiting ih =>
      have horder' : router.accepted =
          (router.forwarded ++ [request]) ++ waiting := by
        rw [horder, List.append_assoc, List.singleton_append]
      by_cases hroute : request.route ∈ router.responders
      · simp only [drain, forward, hroute, if_true]
        exact .busy [] router.callbacks request true waiting rfl (by simp)
          hcallbacks rfl rfl horder'
      · simp only [drain, forward, hroute, if_false]
        exact ih hcallbacks rfl horder'

theorem Serving.request (hserving : router.Serving) (reqId : ReqId)
    (route : Route) (reqData : ReqData) :
    (router.request reqId route reqData).2.Serving := by
  rw [ReqRespRouter.request]
  split
  · exact hserving
  · cases hserving with
    | idle hcallbacks hflag hqueue horder =>
        simp only [hflag, Bool.false_eq_true, if_false]
        by_cases hroute : route ∈ router.responders
        · simp only [forward, hroute, if_true]
          exact .busy [] router.callbacks _ false [] rfl (by simp) hcallbacks
            rfl hqueue (by rw [List.append_nil, horder])
        · simp only [forward, hroute, if_false, hqueue]
          exact serving_drain hcallbacks rfl
            (by rw [List.append_nil, horder])
    | busy inner outer running queued waiting hcallbacks hinner houter hflag
        hqueue horder =>
        simp only [hflag, if_true]
        refine .busy inner outer running queued (waiting ++
          [⟨router.accepted.length, reqId, route, reqData⟩]) hcallbacks
          hinner houter rfl ?_ ?_
        · rw [hqueue]
          cases queued <;> rfl
        · simp only [horder, List.append_assoc]

omit [DecidableEq Route] [DecidableEq ReqId] in
/-- When the flag is down nothing waits. -/
theorem Serving.idle_of_flag (hserving : router.Serving)
    (hflag : router.reqPending = false) :
    router.pendingReqProcessors = [] ∧
      router.accepted = router.forwarded := by
  cases hserving with
  | idle _ _ hqueue horder => exact ⟨hqueue, horder⟩
  | busy _ _ _ _ _ _ _ _ hbusy =>
      rw [hbusy] at hflag
      cases hflag

omit [DecidableEq Route] [DecidableEq ReqId] in
/-- Only the callbacks, the flag, the queue and the two histories matter. -/
theorem Serving.congr (hserving : router.Serving)
    (hcallbacks : next.callbacks = router.callbacks)
    (hflag : next.reqPending = router.reqPending)
    (hqueue : next.pendingReqProcessors = router.pendingReqProcessors)
    (haccepted : next.accepted = router.accepted)
    (hforwarded : next.forwarded = router.forwarded) : next.Serving := by
  cases hserving with
  | idle hnone hidle hempty horder =>
      exact .idle (hcallbacks ▸ hnone) (hflag.trans hidle)
        (hqueue.trans hempty) (by rw [haccepted, hforwarded, horder])
  | busy inner outer request queued waiting hsplit hinner houter hbusy hwaits
      horder =>
      exact .busy inner outer request queued waiting (hcallbacks.trans hsplit)
        hinner houter (hflag.trans hbusy) (hqueue.trans hwaits)
        (by rw [haccepted, hforwarded, horder])

omit [DecidableEq Route] in
theorem Serving.cancelRequest (hserving : router.Serving) (reqId : ReqId) :
    (router.cancelRequest reqId).2.Serving := by
  rw [ReqRespRouter.cancelRequest]
  split <;> exact hserving.congr rfl rfl rfl rfl rfl

omit [DecidableEq Route] in
/-- A response handler that is called is the innermost callback. -/
theorem Serving.respond (hserving : router.Serving)
    (request : Request Route ReqId ReqData) (isLast : Bool)
    (response : Response) :
    (router.respond request isLast response).Serving := by
  rw [ReqRespRouter.respond]
  split
  · next entry _ =>
      have hhandler : ¬ (Callback.handler request isLast entry).IsResponder :=
        id
      cases hserving with
      | idle hcallbacks hflag hqueue horder =>
          exact .idle (List.forall_mem_cons.mpr ⟨hhandler, hcallbacks⟩) hflag
            hqueue horder
      | busy inner outer running queued waiting hcallbacks hinner houter hflag
          hqueue horder =>
          exact .busy (.handler request isLast entry :: inner) outer running
            queued waiting (congrArg (List.cons _) hcallbacks)
            (List.forall_mem_cons.mpr ⟨hhandler, hinner⟩) houter hflag hqueue
            horder
  · exact hserving

omit [DecidableEq Route] in
theorem Serving.eraseEntry (hserving : router.Serving)
    (request : Request Route ReqId ReqData) (entry : ℕ) :
    (router.eraseEntry request entry).Serving := by
  rw [ReqRespRouter.eraseEntry]
  split <;> exact hserving.congr rfl rfl rfl rfl rfl

omit [DecidableEq Route] [DecidableEq ReqId] in
/-- The innermost callback is not a responder: take it away. -/
theorem Serving.pop (hserving : router.Serving)
    {callback : Callback Route ReqId ReqData}
    {outer : List (Callback Route ReqId ReqData)}
    (hcallbacks : router.callbacks = callback :: outer)
    (hhandler : ¬ callback.IsResponder) :
    Serving { router with callbacks := outer } := by
  cases hserving with
  | idle hnone hflag hqueue horder =>
      rw [hcallbacks, List.forall_mem_cons] at hnone
      exact .idle hnone.2 hflag hqueue horder
  | busy inner behind running queued waiting hsplit hinner houter hflag hqueue
      horder =>
      cases inner with
      | nil =>
          have hfirst : callback = .responder running queued :=
            (List.cons.inj (hcallbacks.symm.trans hsplit)).1
          exact absurd (hfirst ▸ trivial) hhandler
      | cons first inner =>
          have hrest : outer = inner ++ .responder running queued :: behind :=
            (List.cons.inj (hcallbacks.symm.trans hsplit)).2
          exact .busy inner behind running queued waiting hrest
            (List.forall_mem_cons.mp hinner).2 houter hflag hqueue horder

omit [DecidableEq Route] [DecidableEq ReqId] in
/-- What a returning responder leaves to the drain. -/
theorem Serving.waiting (hserving : router.Serving)
    {request : Request Route ReqId ReqData} {queued : Bool}
    {outer : List (Callback Route ReqId ReqData)}
    (hcallbacks : router.callbacks = .responder request queued :: outer) :
    (∀ callback ∈ outer, ¬ callback.IsResponder) ∧
      router.accepted = router.forwarded ++
        if queued then router.pendingReqProcessors.tail
        else router.pendingReqProcessors := by
  cases hserving with
  | idle hnone hflag hqueue horder =>
      rw [hcallbacks, List.forall_mem_cons] at hnone
      exact absurd trivial hnone.1
  | busy inner behind running queued' waiting hsplit hinner houter hflag hqueue
      horder =>
      cases inner with
      | cons first inner =>
          have hfirst : Callback.responder request queued = first :=
            (List.cons.inj (hcallbacks.symm.trans hsplit)).1
          rw [List.forall_mem_cons, ← hfirst] at hinner
          exact absurd trivial hinner.1
      | nil =>
          obtain ⟨hsame, rfl⟩ :=
            List.cons.inj (hcallbacks.symm.trans hsplit)
          obtain ⟨rfl, rfl⟩ := Callback.responder.inj hsame
          refine ⟨houter, ?_⟩
          rw [horder, hqueue]
          cases queued <;> rfl

/-- When a callback returns, the responder's forwarder is done and the queue is
drained, or a handler's caller goes on. -/
theorem Serving.finish (hserving : router.Serving)
    {callback : Callback Route ReqId ReqData}
    {outer : List (Callback Route ReqId ReqData)}
    (hcallbacks : router.callbacks = callback :: outer) :
    ({ router with callbacks := outer }.finish callback).Serving := by
  cases callback with
  | handler request isLast entry =>
      have hpopped := hserving.pop hcallbacks id
      simp only [ReqRespRouter.finish]
      split
      · exact hpopped.eraseEntry request entry
      · exact hpopped
  | responder request queued =>
      obtain ⟨houter, horder⟩ := hserving.waiting hcallbacks
      exact serving_drain houter rfl horder

theorem Serving.step (hserving : router.Serving)
    {event : RouterEvent Route ReqId ReqData Response}
    (hstep : router.step event = some next) : next.Serving := by
  cases stepped_of_step hstep with
  | registered route | unregistered route =>
      exact hserving.congr rfl rfl rfl rfl rfl
  | requested reqId route reqData =>
      exact hserving.request reqId route reqData
  | cancelled reqId => exact hserving.cancelRequest reqId
  | responded request isLast response =>
      exact hserving.respond request isLast response
  | returned callback outer hcallbacks => exact hserving.finish hcallbacks

/-! ## The outermost call returns -/

/-- How many callbacks have to return before the user is back. -/
def rank (router : ReqRespRouter Route ReqId ReqData Response) : ℕ :=
  router.callbacks.length + (router.accepted.length - router.forwarded.length)

omit [DecidableEq ReqId] in
theorem rank_drain_le {waiting : List (Request Route ReqId ReqData)}
    (horder : router.accepted = router.forwarded ++ waiting) :
    (router.drain waiting).rank ≤ router.callbacks.length + waiting.length := by
  induction waiting generalizing router with
  | nil => simp [drain, rank, horder]
  | cons request waiting ih =>
      have horder' : router.accepted =
          (router.forwarded ++ [request]) ++ waiting := by
        rw [horder, List.append_assoc, List.singleton_append]
      by_cases hroute : request.route ∈ router.responders
      · simp only [drain, forward, hroute, if_true, rank, horder']
        simp only [List.length_append, List.length_cons, List.length_nil]
        omega
      · simp only [drain, forward, hroute, if_false]
        refine (ih horder').trans ?_
        simp only [List.length_cons]
        omega

omit [DecidableEq Route] in
theorem rank_eraseEntry (request : Request Route ReqId ReqData) (entry : ℕ) :
    (router.eraseEntry request entry).rank = router.rank := by
  rw [ReqRespRouter.eraseEntry]
  split <;> rfl

/-- Each return brings the user nearer, whatever the router goes on to call. -/
theorem Serving.rank_finish_lt (hserving : router.Serving)
    {callback : Callback Route ReqId ReqData}
    {outer : List (Callback Route ReqId ReqData)}
    (hcallbacks : router.callbacks = callback :: outer) :
    ({ router with callbacks := outer }.finish callback).rank <
      router.rank := by
  have hpopped : rank { router with callbacks := outer } < router.rank := by
    simp only [rank, hcallbacks, List.length_cons]
    omega
  cases callback with
  | handler request isLast entry =>
      simp only [ReqRespRouter.finish]
      split
      · rw [rank_eraseEntry]
        exact hpopped
      · exact hpopped
  | responder request queued =>
      obtain ⟨-, horder⟩ := hserving.waiting hcallbacks
      have hle : ({ router with callbacks := outer }.finish
          (.responder request queued)).rank ≤ outer.length +
            (if queued then router.pendingReqProcessors.tail
              else router.pendingReqProcessors).length :=
        rank_drain_le horder
      calc _ ≤ _ := hle
        _ < router.rank := by
            rw [rank, hcallbacks, horder]
            simp only [List.length_append, List.length_cons]
            omega

/-- If the callbacks make no further call, the outermost one returns. -/
theorem Serving.exists_returned (hserving : router.Serving) :
    ∃ count finish, count ≤ router.rank ∧
      Runs.run ReqRespRouter.step router (List.replicate count .returns) =
        some finish ∧
      finish.callbacks = [] := by
  induction hrank : router.rank using Nat.strong_induction_on
    generalizing router with
  | h bound ih =>
      cases hcallbacks : router.callbacks with
      | nil => exact ⟨0, router, Nat.zero_le _, rfl, hcallbacks⟩
      | cons callback outer =>
          have hlt := hserving.rank_finish_lt hcallbacks
          obtain ⟨count, finish, hcount, hrun, hdone⟩ :=
            ih _ (hrank ▸ hlt) (hserving.finish hcallbacks) rfl
          refine ⟨count + 1, finish, by omega, ?_, hdone⟩
          rw [List.replicate_succ, Runs.run_cons]
          simp only [ReqRespRouter.step, hcallbacks, Option.bind_some]
          exact hrun

/-! ## Any run -/

omit [DecidableEq Route] [DecidableEq ReqId] in
theorem Serving.countP_le_one (hserving : router.Serving) :
    (router.callbacks.countP fun callback => callback.IsResponder) ≤ 1 := by
  have hzero : ∀ callbacks : List (Callback Route ReqId ReqData),
      (∀ callback ∈ callbacks, ¬ callback.IsResponder) →
      (callbacks.countP fun callback => callback.IsResponder) = 0 := by
    intro callbacks hnone
    simpa [List.countP_eq_zero] using hnone
  cases hserving with
  | idle hcallbacks => exact (hzero _ hcallbacks).trans_le (Nat.zero_le 1)
  | busy inner outer request queued waiting hcallbacks hinner houter =>
      rw [hcallbacks, List.countP_append, List.countP_cons, hzero _ hinner,
        hzero _ houter]
      split <;> simp

omit [DecidableEq Route] [DecidableEq ReqId] in
theorem Serving.forwarded_prefix (hserving : router.Serving) :
    router.forwarded <+: router.accepted := by
  cases hserving with
  | idle _ _ _ horder => rw [horder]
  | busy _ _ _ _ waiting _ _ _ _ _ horder =>
      rw [horder]
      exact List.prefix_append _ _

omit [DecidableEq Route] [DecidableEq ReqId] in
/-- Nothing waits while no responder is called. -/
theorem Serving.settled (hserving : router.Serving)
    (hnone : ∀ callback ∈ router.callbacks, ¬ callback.IsResponder) :
    router.pendingReqProcessors = [] ∧ router.reqPending = false ∧
      router.forwarded = router.accepted := by
  cases hserving with
  | idle _ hflag hqueue horder => exact ⟨hqueue, hflag, horder.symm⟩
  | busy inner outer request queued _ hcallbacks =>
      have hmem : .responder request queued ∈ router.callbacks := by
        simp [hcallbacks]
      exact absurd trivial (hnone _ hmem)

/-- In every state of every run the requests that were accepted are forwarded
once each and in order, at most one responder is called, nothing waits when
none is, and the outermost call returns when its callbacks do. -/
theorem served_once_in_order
    (events : List (RouterEvent Route ReqId ReqData Response))
    (router : ReqRespRouter Route ReqId ReqData Response)
    (hrun : Runs.run step init events = some router) :
    (∀ reqId route reqData,
        (router.request reqId route reqData).2.accepted =
          if (router.request reqId route reqData).1 then router.accepted ++
            [⟨router.accepted.length, reqId, route, reqData⟩]
          else router.accepted) ∧
      router.accepted.map Request.ticket =
        List.range router.accepted.length ∧
      router.forwarded <+: router.accepted ∧
      (router.callbacks.countP fun callback => callback.IsResponder) ≤ 1 ∧
      ((∀ callback ∈ router.callbacks, ¬ callback.IsResponder) →
        router.pendingReqProcessors = [] ∧ router.reqPending = false ∧
          router.forwarded = router.accepted) ∧
      ∃ count finish, count ≤ router.rank ∧
        Runs.run step router (List.replicate count .returns) = some finish ∧
        finish.callbacks = [] := by
  obtain ⟨hserving, hnumbered⟩ : router.Serving ∧ router.Numbered :=
    Runs.run_invariant (fun router => router.Serving ∧ router.Numbered)
      (fun _ _ _ hbefore hstep =>
        ⟨hbefore.1.step hstep, hbefore.2.step hstep⟩)
      ⟨serving_init, rfl⟩ hrun
  exact ⟨router.request_accepted, hnumbered, hserving.forwarded_prefix,
    hserving.countP_le_one, hserving.settled, hserving.exists_returned⟩

/-- A responder that makes a request of its own and returns. -/
def nestedRequest : List (RouterEvent String ℕ Unit Unit) :=
  [.registerAsResponder "price", .request 1 "price" (),
    .request 2 "price" (), .returns]

theorem served_once_in_order_of_nested :
    ∃ router, Runs.run step init nestedRequest = some router ∧
      router.accepted.map Request.ticket = [0, 1] ∧
      router.forwarded <+: router.accepted ∧
      (router.callbacks.countP fun callback => callback.IsResponder) ≤ 1 := by
  obtain ⟨router, hrun, htickets⟩ :
      ∃ router, Runs.run step init nestedRequest = some router ∧
        router.accepted.map Request.ticket = [0, 1] := ⟨_, rfl, rfl⟩
  obtain ⟨-, -, hforwarded, hsingle, -⟩ :=
    served_once_in_order nestedRequest router hrun
  exact ⟨router, hrun, htickets, hforwarded, hsingle⟩

end MultiMarketPrices.Routers.ReqRespRouter
