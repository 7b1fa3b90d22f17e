import MultiMarketPrices.Routers.RequestRouter

/-!
# The life of a request

A request ends with its last response or its cancellation.  The callback that
its responder holds asks only whether the id is pending, so that it reaches the
handler of a request that has ended when the id is pending again, and its last
response then erases the entry of the later request.  A handler that cancels its
own request during its last response leaves the callback with nothing to erase,
which is undefined.
-/

namespace MultiMarketPrices.Routers

variable {Route ReqId ReqData Response : Type*}

/-- The request has had its last response, or was cancelled. -/
def Ended (log : List (Happening Response)) (ticket : ℕ) : Prop :=
  (∃ response, .handled ticket true response ∈ log) ∨ .cancelled ticket ∈ log

/-- No handler was called after its request had ended. -/
def HandledAlive (log : List (Happening Response)) : Prop :=
  ∀ earlier later ticket isLast response,
    log = earlier ++ .handled ticket isLast response :: later →
    ¬ Ended earlier ticket

/-- No response erased the entry of another request. -/
def RemovedOwn (log : List (Happening Response)) : Prop :=
  ∀ entry ticket, .removed entry ticket ∈ log → entry = ticket

/-- No response was to erase an entry that was gone. -/
def Defined (log : List (Happening Response)) : Prop :=
  ∀ ticket, .undefined ticket ∉ log

/-! ## Longer logs -/

theorem ended_append {log more : List (Happening Response)} {ticket : ℕ} :
    Ended (log ++ more) ticket ↔ Ended log ticket ∨ Ended more ticket := by
  simp only [Ended, List.mem_append]
  constructor
  · rintro (⟨response, hmem | hmem⟩ | hmem | hmem)
    · exact .inl (.inl ⟨response, hmem⟩)
    · exact .inr (.inl ⟨response, hmem⟩)
    · exact .inl (.inr hmem)
    · exact .inr (.inr hmem)
  · rintro ((⟨response, hmem⟩ | hmem) | (⟨response, hmem⟩ | hmem))
    · exact .inl ⟨response, .inl hmem⟩
    · exact .inr (.inl hmem)
    · exact .inl ⟨response, .inr hmem⟩
    · exact .inr (.inr hmem)

theorem Ended.append {log : List (Happening Response)} {ticket : ℕ}
    (hended : Ended log ticket) (more : List (Happening Response)) :
    Ended (log ++ more) ticket :=
  ended_append.mpr (.inl hended)

theorem ended_handled {log : List (Happening Response)}
    {ticket other : ℕ} {isLast : Bool} {response : Response} :
    Ended (log ++ [.handled ticket isLast response]) other ↔
      Ended log other ∨ (isLast = true ∧ other = ticket) := by
  rw [ended_append]
  refine or_congr_right ?_
  simp only [Ended, List.mem_singleton]
  constructor
  · rintro (⟨response, hsame⟩ | hsame)
    · obtain ⟨rfl, rfl, -⟩ := Happening.handled.inj hsame
      exact ⟨rfl, rfl⟩
    · cases hsame
  · rintro ⟨rfl, rfl⟩
    exact .inl ⟨response, rfl⟩

theorem ended_cancelled {log : List (Happening Response)} {ticket other : ℕ} :
    Ended (log ++ [.cancelled ticket]) other ↔
      Ended log other ∨ other = ticket := by
  rw [ended_append]
  simp [Ended]

theorem ended_removed {log : List (Happening Response)}
    {entry ticket other : ℕ} :
    Ended (log ++ [.removed entry ticket]) other ↔ Ended log other := by
  rw [ended_append]
  simp [Ended]

theorem ended_undefined {log : List (Happening Response)}
    {ticket other : ℕ} :
    Ended (log ++ [.undefined ticket]) other ↔ Ended log other := by
  rw [ended_append]
  simp [Ended]

theorem handledAlive_concat {log : List (Happening Response)}
    {happening : Happening Response} (halive : HandledAlive log)
    (hlast : ∀ ticket isLast response,
      happening = .handled ticket isLast response → ¬ Ended log ticket) :
    HandledAlive (log ++ [happening]) := by
  intro earlier later ticket isLast response heq
  rcases List.eq_nil_or_concat later with rfl | ⟨later, last, rfl⟩
  · obtain ⟨rfl, hsame⟩ := List.append_inj' heq rfl
    exact hlast ticket isLast response (List.cons.inj hsame).1
  · rw [List.concat_eq_append, ← List.cons_append, ← List.append_assoc] at heq
    obtain ⟨hlog, -⟩ := List.append_inj' heq rfl
    exact halive earlier later ticket isLast response hlog

theorem removedOwn_concat {log : List (Happening Response)}
    {happening : Happening Response} (hown : RemovedOwn log)
    (hlast : ∀ entry ticket, happening = .removed entry ticket →
      entry = ticket) : RemovedOwn (log ++ [happening]) := by
  intro entry ticket hmem
  rcases List.mem_append.mp hmem with hbefore | hnow
  · exact hown entry ticket hbefore
  · exact hlast entry ticket (List.mem_singleton.mp hnow).symm

theorem defined_concat {log : List (Happening Response)}
    {happening : Happening Response} (hdefined : Defined log)
    (hlast : ∀ ticket, happening ≠ .undefined ticket) :
    Defined (log ++ [happening]) := by
  intro ticket hmem
  rcases List.mem_append.mp hmem with hbefore | hnow
  · exact hdefined ticket hbefore
  · exact hlast ticket (List.mem_singleton.mp hnow).symm

namespace ReqRespRouter

variable [DecidableEq Route] [DecidableEq ReqId]

/-- The last response of the request is being handled. -/
def LastUnderWay (router : ReqRespRouter Route ReqId ReqData Response)
    (ticket : ℕ) : Prop :=
  ∃ request entry, .handler request true entry ∈ router.callbacks ∧
    request.ticket = ticket

/-- What the callers of a router may rely on. -/
def Faithful (router : ReqRespRouter Route ReqId ReqData Response) : Prop :=
  HandledAlive router.log ∧ RemovedOwn router.log ∧ Defined router.log

/-- A responder's callback finds the id missing, or put there by its own
request, whose last response is not being handled. -/
def AnswersOwn (router : ReqRespRouter Route ReqId ReqData Response)
    (event : RouterEvent Route ReqId ReqData Response) : Prop :=
  ∀ ticket isLast response request entry,
    event = .respond ticket isLast response →
    (router.held.find? fun request => request.ticket = ticket) =
      some request →
    router.pendingReqIds.lookup request.reqId = some entry →
    entry = ticket ∧ ¬ router.LastUnderWay ticket

/-- The handler of a last response returns with the entry of its request, which
it has not cancelled, still there. -/
def KeepsEntry (router : ReqRespRouter Route ReqId ReqData Response)
    (event : RouterEvent Route ReqId ReqData Response) : Prop :=
  ∀ request entry outer, event = .returns →
    router.callbacks = .handler request true entry :: outer →
    router.pendingReqIds.lookup request.reqId = some entry

structure Orderly (router : ReqRespRouter Route ReqId ReqData Response)
    (event : RouterEvent Route ReqId ReqData Response) : Prop where
  hanswers : router.AnswersOwn event
  hkeeps : router.KeepsEntry event

/-! ## The invariant -/

structure Lives (router : ReqRespRouter Route ReqId ReqData Response) :
    Prop where
  hfaithful : router.Faithful
  hnumbered : router.Numbered
  /-- an accepted request is pending or has ended -/
  haccepted : ∀ request ∈ router.accepted,
    router.pendingReqIds.lookup request.reqId = some request.ticket ∨
      Ended router.log request.ticket
  /-- what is pending was accepted, and has not ended before its last handler
  returns -/
  hpending : ∀ reqId ticket, router.pendingReqIds.lookup reqId = some ticket →
    (∃ request ∈ router.accepted,
      request.reqId = reqId ∧ request.ticket = ticket) ∧
    (Ended router.log ticket → router.LastUnderWay ticket)
  hended : ∀ ticket, Ended router.log ticket → ticket < router.accepted.length
  hheld : router.held ⊆ router.accepted
  hqueue : router.pendingReqProcessors ⊆ router.accepted
  hhandlers : ∀ request isLast entry,
    .handler request isLast entry ∈ router.callbacks →
    request ∈ router.accepted ∧ entry = request.ticket ∧
      (isLast = true → Ended router.log request.ticket)

variable {router next : ReqRespRouter Route ReqId ReqData Response}

/-! ## Forwarding changes nothing about the requests -/

structure SameRequests
    (router next : ReqRespRouter Route ReqId ReqData Response) : Prop where
  hpending : next.pendingReqIds = router.pendingReqIds
  hlog : next.log = router.log
  haccepted : next.accepted = router.accepted
  hhandlers : ∀ request isLast entry,
    .handler request isLast entry ∈ next.callbacks ↔
      .handler request isLast entry ∈ router.callbacks

omit [DecidableEq Route] [DecidableEq ReqId] in
theorem SameRequests.trans
    {last : ReqRespRouter Route ReqId ReqData Response}
    (hfirst : SameRequests router next) (hsecond : SameRequests next last) :
    SameRequests router last where
  hpending := hsecond.hpending.trans hfirst.hpending
  hlog := hsecond.hlog.trans hfirst.hlog
  haccepted := hsecond.haccepted.trans hfirst.haccepted
  hhandlers request isLast entry :=
    (hsecond.hhandlers request isLast entry).trans
      (hfirst.hhandlers request isLast entry)

omit [DecidableEq ReqId] in
theorem sameRequests_forward (request : Request Route ReqId ReqData)
    (queued : Bool)
    (router : ReqRespRouter Route ReqId ReqData Response) :
    SameRequests router (router.forward request queued) := by
  rw [forward]
  split
  · exact ⟨rfl, rfl, rfl, fun _ _ _ => by simp⟩
  · exact ⟨rfl, rfl, rfl, fun _ _ _ => Iff.rfl⟩

omit [DecidableEq ReqId] in
theorem held_forward (request : Request Route ReqId ReqData) (queued : Bool)
    (router : ReqRespRouter Route ReqId ReqData Response) :
    (router.forward request queued).held ⊆ router.held ++ [request] := by
  rw [forward]
  split
  · exact List.Subset.refl _
  · exact List.subset_append_left _ _

omit [DecidableEq ReqId] in
theorem sameRequests_drain (waiting : List (Request Route ReqId ReqData))
    (router : ReqRespRouter Route ReqId ReqData Response) :
    SameRequests router (router.drain waiting) := by
  induction waiting generalizing router with
  | nil => exact ⟨rfl, rfl, rfl, fun _ _ _ => Iff.rfl⟩
  | cons request waiting ih =>
      have hqueue : SameRequests router { router with
          pendingReqProcessors := request :: waiting } :=
        ⟨rfl, rfl, rfl, fun _ _ _ => Iff.rfl⟩
      have hrunning := hqueue.trans (sameRequests_forward request true _)
      simp only [drain]
      split
      · exact hrunning
      · exact hrunning.trans (ih _)

omit [DecidableEq ReqId] in
theorem held_drain (waiting : List (Request Route ReqId ReqData))
    (router : ReqRespRouter Route ReqId ReqData Response) :
    (router.drain waiting).held ⊆ router.held ++ waiting := by
  induction waiting generalizing router with
  | nil => simp [drain]
  | cons request waiting ih =>
      have hfirst := held_forward request true { router with
        pendingReqProcessors := request :: waiting }
      simp only [drain]
      split
      · refine List.Subset.trans hfirst ?_
        intro other hmem
        simp only [List.mem_append, List.mem_singleton] at hmem
        simp only [List.mem_append, List.mem_cons]
        tauto
      · refine List.Subset.trans (ih _) ?_
        intro other hmem
        rw [List.append_cons]
        rcases List.mem_append.mp hmem with hheld | hwaits
        · exact List.mem_append_left _ (hfirst hheld)
        · exact List.mem_append_right _ hwaits

omit [DecidableEq ReqId] in
theorem queue_drain (waiting : List (Request Route ReqId ReqData))
    (router : ReqRespRouter Route ReqId ReqData Response) :
    (router.drain waiting).pendingReqProcessors ⊆ waiting := by
  induction waiting generalizing router with
  | nil => simp [drain]
  | cons request waiting ih =>
      simp only [drain]
      split
      · next hroute => simp [forward, hroute]
      · exact List.subset_cons_of_subset _ (ih _)

omit [DecidableEq Route] in
theorem Lives.congr (hlives : router.Lives)
    (hsame : SameRequests router next) (hheld : next.held ⊆ router.accepted)
    (hqueue : next.pendingReqProcessors ⊆ router.accepted) : next.Lives := by
  obtain ⟨hpending, hlog, haccepted, hhandlers⟩ := hsame
  have hunderWay : ∀ ticket, router.LastUnderWay ticket →
      next.LastUnderWay ticket := by
    rintro ticket ⟨request, entry, hmem, hticket⟩
    exact ⟨request, entry, (hhandlers _ _ _).mpr hmem, hticket⟩
  constructor
  · rw [Faithful, hlog]
    exact hlives.hfaithful
  · rw [Numbered, haccepted]
    exact hlives.hnumbered
  · rw [haccepted, hpending, hlog]
    exact hlives.haccepted
  · intro reqId ticket hlookup
    rw [hpending] at hlookup
    rw [haccepted, hlog]
    obtain ⟨hrequest, hended⟩ := hlives.hpending reqId ticket hlookup
    exact ⟨hrequest, fun hend => hunderWay ticket (hended hend)⟩
  · rw [hlog, haccepted]
    exact hlives.hended
  · rw [haccepted]
    exact hheld
  · rw [haccepted]
    exact hqueue
  · intro request isLast entry hmem
    rw [haccepted, hlog]
    exact hlives.hhandlers request isLast entry ((hhandlers _ _ _).mp hmem)

/-! ## One call at a time -/

omit [DecidableEq Route] in
theorem lives_init :
    Lives (init : ReqRespRouter Route ReqId ReqData Response) := by
  constructor
  case hfaithful =>
    constructor
    · intro earlier later ticket isLast response hlog
      simp [init] at hlog
    · constructor
      · intro entry ticket hmem
        simp [init] at hmem
      · intro ticket hmem
        simp [init] at hmem
  all_goals simp [init, Numbered, Ended]

omit [DecidableEq Route] in
/-- A new request: those of its id that came before have ended. -/
theorem Lives.accept (hlives : router.Lives) {reqId : ReqId}
    (hfresh : reqId ∉ router.pendingReqIds) (route : Route)
    (reqData : ReqData) :
    Lives { router with
      pendingReqIds := router.pendingReqIds.insert reqId router.accepted.length
      accepted := router.accepted ++
        [⟨router.accepted.length, reqId, route, reqData⟩] } := by
  have hnone : router.pendingReqIds.lookup reqId = none :=
    Finmap.lookup_eq_none.mpr hfresh
  constructor
  · exact hlives.hfaithful
  · have hnumbered := hlives.hnumbered
    simp only [Numbered] at hnumbered ⊢
    rw [List.map_append, hnumbered, List.length_append,
      List.length_singleton, List.range_succ]
    rfl
  · intro request hrequest
    simp only [Finmaps.lookup_insert_if]
    rcases List.mem_append.mp hrequest with hold | hnew
    · rcases hlives.haccepted request hold with hlookup | hended
      · have hother : request.reqId ≠ reqId := by
          intro hsame
          rw [hsame, hnone] at hlookup
          cases hlookup
        rw [if_neg hother]
        exact .inl hlookup
      · exact .inr hended
    · rw [List.mem_singleton.mp hnew, if_pos rfl]
      exact .inl rfl
  · intro other ticket hlookup
    simp only [Finmaps.lookup_insert_if] at hlookup
    split at hlookup
    · next hsame =>
        obtain rfl := Option.some.inj hlookup
        refine ⟨⟨_, List.mem_append_right _ (List.mem_singleton.mpr rfl),
          hsame.symm, rfl⟩, fun hended => ?_⟩
        exact absurd (hlives.hended _ hended) (lt_irrefl _)
    · obtain ⟨⟨request, hrequest, hwhich⟩, hunderWay⟩ :=
        hlives.hpending other ticket hlookup
      exact ⟨⟨request, List.mem_append_left _ hrequest, hwhich⟩, hunderWay⟩
  · intro ticket hended
    rw [List.length_append]
    exact (hlives.hended ticket hended).trans_le (Nat.le_add_right _ _)
  · exact fun _ hmem => List.mem_append_left _ (hlives.hheld hmem)
  · exact fun _ hmem => List.mem_append_left _ (hlives.hqueue hmem)
  · intro request isLast entry hmem
    obtain ⟨hrequest, hrest⟩ := hlives.hhandlers request isLast entry hmem
    exact ⟨List.mem_append_left _ hrequest, hrest⟩

/-- Forwarding a request, and then the ones that wait. -/
theorem Lives.forward (hlives : router.Lives)
    {request : Request Route ReqId ReqData}
    (hrequest : request ∈ router.accepted) (queued : Bool) :
    (router.forward request queued).Lives := by
  have hheld : (router.forward request queued).held ⊆ router.accepted := by
    intro other hmem
    rcases List.mem_append.mp (held_forward request queued router hmem) with
      hold | hnew
    · exact hlives.hheld hold
    · exact List.mem_singleton.mp hnew ▸ hrequest
  refine hlives.congr (sameRequests_forward request queued router) hheld ?_
  rw [ReqRespRouter.forward]
  split <;> exact hlives.hqueue

theorem Lives.drain (hlives : router.Lives)
    {waiting : List (Request Route ReqId ReqData)}
    (hwaiting : waiting ⊆ router.accepted) : (router.drain waiting).Lives := by
  refine hlives.congr (sameRequests_drain waiting router) ?_
    (fun _ hmem => hwaiting (queue_drain waiting router hmem))
  intro other hmem
  rcases List.mem_append.mp (held_drain waiting router hmem) with hold | hnew
  · exact hlives.hheld hold
  · exact hwaiting hnew

theorem Lives.request (hlives : router.Lives) (reqId : ReqId) (route : Route)
    (reqData : ReqData) : (router.request reqId route reqData).2.Lives := by
  rw [ReqRespRouter.request]
  split
  · exact hlives
  · next hfresh =>
      have haccept := hlives.accept hfresh route reqData
      have hnew : (⟨router.accepted.length, reqId, route, reqData⟩ :
          Request Route ReqId ReqData) ∈ router.accepted ++
            [⟨router.accepted.length, reqId, route, reqData⟩] := by simp
      dsimp only
      split
      · refine haccept.congr ⟨rfl, rfl, rfl, fun _ _ _ => Iff.rfl⟩
          haccept.hheld ?_
        intro other hmem
        rcases List.mem_append.mp hmem with hwaits | hlast
        · exact haccept.hqueue hwaits
        · exact List.mem_singleton.mp hlast ▸ hnew
      · have hforward := haccept.forward hnew false
        split
        · exact hforward
        · exact hforward.drain hforward.hqueue

omit [DecidableEq Route] in
theorem Lives.cancelRequest (hlives : router.Lives) (reqId : ReqId) :
    (router.cancelRequest reqId).2.Lives := by
  rw [ReqRespRouter.cancelRequest]
  split
  · next entry hentry =>
      obtain ⟨⟨request, hrequest, hsameId, hticket⟩, -⟩ :=
        hlives.hpending reqId entry hentry
      constructor
      · exact ⟨handledAlive_concat hlives.hfaithful.1 (by simp),
          removedOwn_concat hlives.hfaithful.2.1 (by simp),
          defined_concat hlives.hfaithful.2.2 (by simp)⟩
      · exact hlives.hnumbered
      · intro other hother
        rw [Finmaps.lookup_erase_if]
        rcases hlives.haccepted other hother with hlookup | hended
        · split
          · next hsame =>
              rw [hsame, hentry] at hlookup
              have hcancelled := (Option.some.inj hlookup).symm
              exact .inr (ended_cancelled.mpr (.inr hcancelled))
          · exact .inl hlookup
        · exact .inr (hended.append _)
      · intro otherId ticket hlookup
        rw [Finmaps.lookup_erase_if] at hlookup
        split at hlookup
        · cases hlookup
        · next hdifferent =>
            obtain ⟨⟨other, hother, hotherId, hotherTicket⟩, hunderWay⟩ :=
              hlives.hpending otherId ticket hlookup
            refine ⟨⟨other, hother, hotherId, hotherTicket⟩, fun hended => ?_⟩
            rcases ended_cancelled.mp hended with hbefore | hnow
            · exact hunderWay hbefore
            · have hsame := hlives.hnumbered.eq_of_ticket hother hrequest
                (hotherTicket.trans (hnow.trans hticket.symm))
              exact absurd (hotherId.symm.trans (hsame ▸ hsameId)) hdifferent
      · intro ticket hended
        rcases ended_cancelled.mp hended with hbefore | rfl
        · exact hlives.hended ticket hbefore
        · exact hticket ▸ hlives.hnumbered.ticket_lt hrequest
      · exact hlives.hheld
      · exact hlives.hqueue
      · intro other isLast otherEntry hmem
        obtain ⟨hother, hown, hlast⟩ :=
          hlives.hhandlers other isLast otherEntry hmem
        exact ⟨hother, hown, fun htrue => (hlast htrue).append _⟩
  · exact hlives

omit [DecidableEq Route] in
/-- A callback that finds the entry of its own request. -/
theorem Lives.respond (hlives : router.Lives)
    {request : Request Route ReqId ReqData} (hheld : request ∈ router.held)
    (isLast : Bool) (response : Response)
    (hown : ∀ entry, router.pendingReqIds.lookup request.reqId = some entry →
      entry = request.ticket ∧ ¬ router.LastUnderWay request.ticket) :
    (router.respond request isLast response).Lives := by
  rw [ReqRespRouter.respond]
  split
  · next entry hentry =>
      obtain ⟨rfl, hidle⟩ := hown entry hentry
      have hrequest := hlives.hheld hheld
      have halive : ¬ Ended router.log request.ticket := fun hended =>
        hidle ((hlives.hpending _ _ hentry).2 hended)
      constructor
      · refine ⟨handledAlive_concat hlives.hfaithful.1 ?_,
          removedOwn_concat hlives.hfaithful.2.1 (by simp),
          defined_concat hlives.hfaithful.2.2 (by simp)⟩
        intro ticket isLast' response' hsame
        obtain ⟨rfl, -, -⟩ := Happening.handled.inj hsame
        exact halive
      · exact hlives.hnumbered
      · intro other hother
        exact (hlives.haccepted other hother).imp_right
          fun hended => hended.append _
      · intro otherId ticket hlookup
        obtain ⟨hwhich, hunderWay⟩ := hlives.hpending otherId ticket hlookup
        refine ⟨hwhich, fun hended => ?_⟩
        rcases ended_handled.mp hended with hbefore | ⟨rfl, rfl⟩
        · obtain ⟨other, otherEntry, hmem, hticket⟩ := hunderWay hbefore
          exact ⟨other, otherEntry, List.mem_cons_of_mem _ hmem, hticket⟩
        · exact ⟨request, request.ticket, List.mem_cons_self, rfl⟩
      · intro ticket hended
        rcases ended_handled.mp hended with hbefore | ⟨-, rfl⟩
        · exact hlives.hended ticket hbefore
        · exact hlives.hnumbered.ticket_lt hrequest
      · exact hlives.hheld
      · exact hlives.hqueue
      · intro other otherLast otherEntry hmem
        rcases List.mem_cons.mp hmem with hnew | hold
        · obtain ⟨rfl, rfl, rfl⟩ := Callback.handler.inj hnew
          exact ⟨hrequest, rfl, fun htrue =>
            ended_handled.mpr (.inr ⟨htrue, rfl⟩)⟩
        · obtain ⟨hother, hsame, hlast⟩ :=
            hlives.hhandlers other otherLast otherEntry hold
          exact ⟨hother, hsame, fun htrue => (hlast htrue).append _⟩
  · exact hlives

omit [DecidableEq Route] in
/-- The handler of a last response has returned, and its entry is there. -/
theorem Lives.eraseEntry (hlives : router.Lives)
    {request : Request Route ReqId ReqData} {entry : ℕ}
    (hhandler : .handler request true entry ∈ router.callbacks)
    (hentry : router.pendingReqIds.lookup request.reqId = some entry) :
    (router.eraseEntry request entry).Lives := by
  obtain ⟨hrequest, rfl, hlast⟩ := hlives.hhandlers request true entry hhandler
  rw [ReqRespRouter.eraseEntry, if_pos hentry]
  constructor
  · refine ⟨handledAlive_concat hlives.hfaithful.1 (by simp),
      removedOwn_concat hlives.hfaithful.2.1 ?_,
      defined_concat hlives.hfaithful.2.2 (by simp)⟩
    intro entry ticket hsame
    obtain ⟨rfl, rfl⟩ := Happening.removed.inj hsame
    rfl
  · exact hlives.hnumbered
  · intro other hother
    rw [Finmaps.lookup_erase_if, ended_removed]
    rcases hlives.haccepted other hother with hlookup | hended
    · split
      · next hsame =>
          rw [hsame, hentry] at hlookup
          exact .inr (Option.some.inj hlookup ▸ hlast rfl)
      · exact .inl hlookup
    · exact .inr hended
  · intro otherId ticket hlookup
    rw [Finmaps.lookup_erase_if] at hlookup
    rw [ended_removed]
    split at hlookup
    · cases hlookup
    · exact hlives.hpending otherId ticket hlookup
  · intro ticket hended
    exact hlives.hended ticket (ended_removed.mp hended)
  · exact hlives.hheld
  · exact hlives.hqueue
  · intro other isLast otherEntry hmem
    obtain ⟨hother, hown, hend⟩ :=
      hlives.hhandlers other isLast otherEntry hmem
    exact ⟨hother, hown, fun htrue => (hend htrue).append _⟩

omit [DecidableEq Route] in
/-- Nothing pending waits for the return of a handler that has nothing to
erase. -/
theorem Lives.pop (hlives : router.Lives)
    {callback : Callback Route ReqId ReqData}
    {outer : List (Callback Route ReqId ReqData)}
    (hcallbacks : router.callbacks = callback :: outer)
    (herased : ∀ request entry, callback = .handler request true entry →
      router.pendingReqIds.lookup request.reqId ≠ some request.ticket) :
    Lives { router with callbacks := outer } := by
  constructor
  · exact hlives.hfaithful
  · exact hlives.hnumbered
  · exact hlives.haccepted
  · intro reqId ticket hlookup
    obtain ⟨hwhich, hunderWay⟩ := hlives.hpending reqId ticket hlookup
    refine ⟨hwhich, fun hended => ?_⟩
    obtain ⟨request, entry, hmem, hticket⟩ := hunderWay hended
    rw [hcallbacks] at hmem
    rcases List.mem_cons.mp hmem with hfirst | hrest
    · obtain ⟨other, hother, rfl, rfl⟩ := hwhich
      have hcallback : .handler request true entry ∈ router.callbacks := by
        rw [hcallbacks, hfirst]
        exact List.mem_cons_self
      have hrequest := (hlives.hhandlers request true entry hcallback).1
      have hsame := hlives.hnumbered.eq_of_ticket hrequest hother hticket
      subst hsame
      exact absurd hlookup (herased request entry hfirst.symm)
    · exact ⟨request, entry, hrest, hticket⟩
  · exact hlives.hended
  · exact hlives.hheld
  · exact hlives.hqueue
  · intro request isLast entry hmem
    exact hlives.hhandlers request isLast entry
      (hcallbacks ▸ List.mem_cons_of_mem _ hmem)

omit [DecidableEq Route] in
theorem lookup_eraseEntry (request : Request Route ReqId ReqData) (entry : ℕ) :
    (router.eraseEntry request entry).pendingReqIds.lookup request.reqId ≠
      some entry := by
  rw [ReqRespRouter.eraseEntry]
  split
  · rw [Finmap.lookup_erase]
    exact Option.some_ne_none entry ∘ Eq.symm
  · next hdifferent => exact hdifferent

omit [DecidableEq Route] in
theorem eraseEntry_callbacks (request : Request Route ReqId ReqData)
    (entry : ℕ) :
    (router.eraseEntry request entry).callbacks = router.callbacks := by
  rw [ReqRespRouter.eraseEntry]
  split <;> rfl

omit [DecidableEq Route] in
theorem eraseEntry_of_popped (request : Request Route ReqId ReqData)
    (entry : ℕ) (outer : List (Callback Route ReqId ReqData)) :
    { router with callbacks := outer }.eraseEntry request entry =
      { router.eraseEntry request entry with callbacks := outer } := by
  simp only [ReqRespRouter.eraseEntry]
  split <;> rfl

theorem Lives.finish (hlives : router.Lives)
    {callback : Callback Route ReqId ReqData}
    {outer : List (Callback Route ReqId ReqData)}
    (hcallbacks : router.callbacks = callback :: outer)
    (hguard : router.KeepsEntry .returns) :
    ({ router with callbacks := outer }.finish callback).Lives := by
  cases callback with
  | responder request queued =>
      have hpopped := hlives.pop hcallbacks (by simp)
      have hwaiting : (if queued then router.pendingReqProcessors.tail
          else router.pendingReqProcessors) ⊆ router.accepted := by
        split
        · exact fun _ hmem => hlives.hqueue (List.mem_of_mem_tail hmem)
        · exact hlives.hqueue
      have hidle : Lives { router with
          callbacks := outer, reqPending := false } :=
        hpopped.congr ⟨rfl, rfl, rfl, fun _ _ _ => Iff.rfl⟩ hpopped.hheld
          hpopped.hqueue
      exact hidle.drain hwaiting
  | handler request isLast entry =>
      have hmem : .handler request isLast entry ∈ router.callbacks := by
        rw [hcallbacks]
        exact List.mem_cons_self
      obtain ⟨-, rfl, -⟩ := hlives.hhandlers request isLast entry hmem
      cases isLast with
      | false => exact hlives.pop hcallbacks (by simp)
      | true =>
          have hentry := hguard request request.ticket outer rfl hcallbacks
          simp only [ReqRespRouter.finish, if_true]
          rw [eraseEntry_of_popped]
          have hsame : (router.eraseEntry request request.ticket).callbacks =
              .handler request true request.ticket :: outer :=
            (eraseEntry_callbacks request _).trans hcallbacks
          refine (hlives.eraseEntry hmem hentry).pop hsame ?_
          intro other entry heq
          obtain ⟨rfl, -, -⟩ := Callback.handler.inj heq
          exact lookup_eraseEntry request request.ticket

/-! ## Any run -/

theorem Lives.step (hlives : router.Lives)
    {event : RouterEvent Route ReqId ReqData Response}
    (hguard : router.Orderly event)
    (hstep : router.step event = some next) : next.Lives := by
  cases stepped_of_step hstep with
  | registered route | unregistered route =>
      exact hlives.congr ⟨rfl, rfl, rfl, fun _ _ _ => Iff.rfl⟩ hlives.hheld
        hlives.hqueue
  | requested reqId route reqData => exact hlives.request reqId route reqData
  | cancelled reqId => exact hlives.cancelRequest reqId
  | responded request isLast response hfind =>
      apply hlives.respond (List.mem_of_find?_eq_some hfind)
      intro entry hentry
      exact hguard.hanswers request.ticket isLast response request entry rfl
        hfind hentry
  | returned callback outer hcallbacks =>
      exact hlives.finish hcallbacks hguard.hkeeps

/-- A callback that finds an entry which is not its own, or finds its own while
its last response is being handled, calls the handler of a request that has
ended. -/
theorem Lives.not_handledAlive (hlives : router.Lives)
    {event : RouterEvent Route ReqId ReqData Response}
    (hguard : ¬ router.AnswersOwn event)
    (hstep : router.step event = some next) : ¬ HandledAlive next.log := by
  simp only [AnswersOwn, not_forall] at hguard
  obtain ⟨ticket, isLast, response, request, entry, rfl, hfind, hentry,
    hother⟩ := hguard
  have hticket : request.ticket = ticket := by
    simpa using List.find?_some hfind
  have hrequest : request ∈ router.accepted :=
    hlives.hheld (List.mem_of_find?_eq_some hfind)
  have hended : Ended router.log ticket := by
    by_cases hunderWay : router.LastUnderWay ticket
    · obtain ⟨running, entry', hmem, rfl⟩ := hunderWay
      exact (hlives.hhandlers running true entry' hmem).2.2 rfl
    · rcases hlives.haccepted request hrequest with hlookup | hended
      · rw [hentry, hticket] at hlookup
        exact absurd ⟨Option.some.inj hlookup, hunderWay⟩ hother
      · exact hticket ▸ hended
  have hnext : next.log = router.log ++ [.handled ticket isLast response] := by
    simp only [ReqRespRouter.step, hfind, Option.map_some,
      Option.some.injEq] at hstep
    rw [← hstep]
    simp only [ReqRespRouter.respond, hentry, hticket]
  intro halive
  exact halive router.log [] ticket isLast response hnext hended

/-- The callback of a handler that has lost its entry erases what is gone. -/
theorem not_defined {event : RouterEvent Route ReqId ReqData Response}
    (hguard : ¬ router.KeepsEntry event)
    (hstep : router.step event = some next) : ¬ Defined next.log := by
  simp only [KeepsEntry, not_forall] at hguard
  obtain ⟨request, entry, outer, rfl, hcallbacks, hlost⟩ := hguard
  simp only [ReqRespRouter.step, hcallbacks, Option.some.injEq] at hstep
  have hlog : next.log = router.log ++ [.undefined request.ticket] := by
    simp only [← hstep, ReqRespRouter.finish, ReqRespRouter.eraseEntry,
      if_neg hlost, if_true]
  intro hdefined
  exact hdefined request.ticket (by simp [hlog])

theorem Lives.not_faithful (hlives : router.Lives)
    {event : RouterEvent Route ReqId ReqData Response}
    (hguard : ¬ router.Orderly event)
    (hstep : router.step event = some next) : ¬ next.Faithful := by
  rintro ⟨halive, -, hdefined⟩
  refine hguard ⟨?_, ?_⟩
  · by_contra hanswers
    exact hlives.not_handledAlive hanswers hstep halive
  · by_contra hkeeps
    exact not_defined hkeeps hstep hdefined

/-- A run calls no handler after its request has ended, erases no entry of
another request and does nothing undefined, exactly when every callback that a
responder calls finds the id missing, or put there by its own request, whose
last response is not being handled, and the handlers of last responses return
with their entry still there. -/
theorem faithful_iff_orderly
    (events : List (RouterEvent Route ReqId ReqData Response))
    (router : ReqRespRouter Route ReqId ReqData Response)
    (hrun : Runs.run step init events = some router) :
    Runs.EveryStep step Orderly init events ↔
      ∀ initial, initial <+: events → ∀ state,
        Runs.run step init initial = some state → state.Faithful :=
  Runs.everyStep_iff_forall_good Lives Faithful
    (fun _ hlives => hlives.hfaithful)
    (fun _ _ _ hlives _ hguard hstep => hlives.step hguard hstep)
    (fun _ _ _ hlives _ hguard hstep => hlives.not_faithful hguard hstep)
    lives_init (Runs.everyStep_of_forall _ fun _ _ => trivial) hrun

/-- A request is answered with an update and a last response. -/
def answeredTwice : List (RouterEvent String ℕ Unit Unit) :=
  [.registerAsResponder "price", .request 1 "price" (), .respond 0 false (),
    .returns, .returns, .respond 0 true (), .returns]

theorem faithful_iff_orderly_of_answeredTwice :
    ∃ router, Runs.run step init answeredTwice = some router ∧
      router.log = [.handled 0 false (), .handled 0 true (), .removed 0 0] ∧
      (Runs.EveryStep step Orderly init answeredTwice ↔
        ∀ initial, initial <+: answeredTwice → ∀ state,
          Runs.run step init initial = some state → state.Faithful) := by
  obtain ⟨router, hrun, hlog⟩ :
      ∃ router, Runs.run step init answeredTwice = some router ∧
        router.log = [.handled 0 false (), .handled 0 true (),
          .removed 0 0] := ⟨_, rfl, rfl⟩
  exact ⟨router, hrun, hlog, faithful_iff_orderly answeredTwice router hrun⟩

/-- The id of a cancelled request is used again, and then the responder of the
cancelled request answers. -/
def lateResponse : List (RouterEvent String ℕ Unit Unit) :=
  [.registerAsResponder "price", .request 1 "price" (), .returns,
    .cancelRequest 1, .request 1 "price" (), .returns, .respond 0 true (),
    .returns]

/-- The handler of the cancelled request is called, and the later request is
removed without an answer. -/
theorem late_response_of_cancelled :
    ∃ router, Runs.run step init lateResponse = some router ∧
      ¬ HandledAlive router.log ∧ ¬ RemovedOwn router.log ∧
      1 ∉ router.pendingReqIds ∧
      ∀ isLast, .handled 1 isLast () ∉ router.log := by
  obtain ⟨router, hrun, hlog, hgone⟩ :
      ∃ router, Runs.run step init lateResponse = some router ∧
        router.log = [.cancelled 0, .handled 0 true (), .removed 1 0] ∧
        1 ∉ router.pendingReqIds := ⟨_, rfl, rfl, by decide⟩
  refine ⟨router, hrun, ?_, ?_, hgone, by simp [hlog]⟩
  · intro halive
    exact halive [.cancelled 0] [.removed 1 0] 0 true () hlog
      (.inr (List.mem_singleton.mpr rfl))
  · intro hown
    exact absurd (hown 1 0 (by simp [hlog])) Nat.one_ne_zero

end ReqRespRouter

end MultiMarketPrices.Routers
