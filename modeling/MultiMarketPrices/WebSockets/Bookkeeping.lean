import MultiMarketPrices.WebSockets.Connectivity
import MultiMarketPrices.WebSockets.Reconnect

/-!
# The session's bookkeeping is consistent

What is pending agrees with the live set, and on a live connection `m_inFlight`
stands for one command, of one of three kinds.  A call is sent directly only
while nothing is in flight, and then nothing is pending: without that, the
stream of a direct send could be left in a pending set.
-/

namespace MultiMarketPrices.WebSockets

namespace Session

/-- Which of the three kinds of command is in flight: a single one, the pending
subscriptions, or the pending unsubscriptions. -/
def kinds (session : Session) : List Bool :=
  [session.inFlightCommand.isSome, session.pendingSubsInFlight,
    session.pendingUnsubsInFlight]

/-- The pending sets agree with the live set, and on a live connection the flags
and the pending sets agree with `m_inFlight`. -/
structure Bookkept (session : Session) : Prop where
  hsubs : session.pendingSubs ⊆ session.liveSubscriptions
  hunsubs : Disjoint session.pendingUnsubs session.liveSubscriptions
  hdisjoint : Disjoint session.pendingSubs session.pendingUnsubs
  hflight : session.connected = true →
    (session.inFlight = true ↔ session.kinds.count true = 1)
  hidle : session.connected = true → session.inFlight = false →
    session.kinds = [false, false, false] ∧
      session.pendingSubs = ∅ ∧ session.pendingUnsubs = ∅

/-! ## The invariant -/

/-- Off the connection the single command is kept, so that the kinds are only
bounded there; the batches are forgotten. -/
structure Consistent (session : Session) : Prop where
  hsubs : session.pendingSubs ⊆ session.liveSubscriptions
  hunsubs : Disjoint session.pendingUnsubs session.liveSubscriptions
  honce : session.connected = true → session.connectedOnce = true
  hbusy : session.inFlight = true → session.kinds.count true = 1
  hquiet : session.inFlight = false →
    session.pendingSubsInFlight = false ∧ session.pendingUnsubsInFlight = false
  hidle : session.connected = true → session.inFlight = false →
    session.inFlightCommand = none ∧
      session.pendingSubs = ∅ ∧ session.pendingUnsubs = ∅

variable {session : Session}

theorem Consistent.bookkept (hconsistent : session.Consistent) :
    session.Bookkept where
  hsubs := hconsistent.hsubs
  hunsubs := hconsistent.hunsubs
  hdisjoint := (hconsistent.hunsubs.mono_right hconsistent.hsubs).symm
  hflight hconnected := by
    refine ⟨hconsistent.hbusy, fun hcount => ?_⟩
    by_contra hflight
    have hflight : session.inFlight = false := by simpa using hflight
    obtain ⟨hsubs, hunsubs⟩ := hconsistent.hquiet hflight
    obtain ⟨hcommand, -⟩ := hconsistent.hidle hconnected hflight
    simp [kinds, hsubs, hunsubs, hcommand] at hcount
  hidle hconnected hflight := by
    obtain ⟨hsubs, hunsubs⟩ := hconsistent.hquiet hflight
    obtain ⟨hcommand, hpending⟩ := hconsistent.hidle hconnected hflight
    exact ⟨by simp [kinds, hsubs, hunsubs, hcommand], hpending⟩

theorem consistent_init (msgNo : ℤ) : (init msgNo).Consistent := by
  constructor <;> simp [init]

/-- Nothing is in flight or kept to be sent again. -/
structure Quiet (session : Session) : Prop where
  hsubs : session.pendingSubs ⊆ session.liveSubscriptions
  hunsubs : Disjoint session.pendingUnsubs session.liveSubscriptions
  honce : session.connected = true → session.connectedOnce = true
  hflight : session.inFlight = false
  hkinds : session.kinds = [false, false, false]

/-- Then one batch at most is sent. -/
theorem Quiet.sendPending (hquiet : session.Quiet) :
    session.sendPending.Consistent := by
  have hkinds := hquiet.hkinds
  simp only [kinds, List.cons.injEq, Option.isSome_eq_false_iff,
    Option.isNone_iff_eq_none, and_true] at hkinds
  obtain ⟨hcommand, hsubsFlag, hunsubsFlag⟩ := hkinds
  rcases session.sendPending_cases with ⟨hsubs, hunsubs, heq⟩ | ⟨-, heq⟩ |
    ⟨-, -, heq⟩
  · rw [heq]
    exact ⟨hquiet.hsubs, hquiet.hunsubs, hquiet.honce,
      by simp [hquiet.hflight], fun _ => ⟨hsubsFlag, hunsubsFlag⟩,
      fun _ _ => ⟨hcommand, hsubs, hunsubs⟩⟩
  · rw [heq]
    exact ⟨hquiet.hsubs, hquiet.hunsubs, hquiet.honce,
      fun _ => by simp [kinds, sendNext, send, hcommand, hunsubsFlag],
      by simp [sendNext, send], by simp [sendNext, send]⟩
  · rw [heq]
    exact ⟨hquiet.hsubs, hquiet.hunsubs, hquiet.honce,
      fun _ => by simp [kinds, sendNext, send, hcommand, hsubsFlag],
      by simp [sendNext, send], by simp [sendNext, send]⟩

/-! ## Every handler keeps it -/

/-- A call that edits the sets. -/
theorem Consistent.subscribe_pending (hconsistent : session.Consistent)
    {stream : String} (hlive : stream ∉ session.liveSubscriptions)
    (hpends : (session.inFlight || !session.connected) = true) :
    (session.subscribeOnStrand stream).Consistent := by
  have hsent : session.connected = true → session.inFlight = false → False := by
    intro hconnected hflight
    simp [hconnected, hflight] at hpends
  have hunsubs : Disjoint (session.pendingUnsubs.erase stream)
      (insert stream session.liveSubscriptions) := by
    rw [Finset.disjoint_insert_right]
    exact ⟨Finset.notMem_erase _ _,
      hconsistent.hunsubs.mono_left (Finset.erase_subset _ _)⟩
  by_cases hpending : stream ∈ session.pendingUnsubs
  · simp only [subscribeOnStrand, hlive, if_false, hpends, if_true,
      checkAndCancel, hpending]
    exact ⟨hconsistent.hsubs.trans (Finset.subset_insert _ _), hunsubs,
      hconsistent.honce, hconsistent.hbusy, hconsistent.hquiet,
      fun hconnected hflight => (hsent hconnected hflight).elim⟩
  · rw [Finset.erase_eq_of_notMem hpending] at hunsubs
    simp only [subscribeOnStrand, hlive, if_false, hpends, if_true,
      checkAndCancel, hpending, Bool.false_eq_true]
    exact ⟨Finset.insert_subset_insert _ hconsistent.hsubs, hunsubs,
      hconsistent.honce, hconsistent.hbusy, hconsistent.hquiet,
      fun hconnected hflight => (hsent hconnected hflight).elim⟩

theorem Consistent.unsubscribe_pending (hconsistent : session.Consistent)
    {stream : String} (hlive : stream ∈ session.liveSubscriptions)
    (hpends : (session.inFlight || !session.connected) = true) :
    (session.unsubscribeOnStrand stream).Consistent := by
  have hsent : session.connected = true → session.inFlight = false → False := by
    intro hconnected hflight
    simp [hconnected, hflight] at hpends
  have hsubs : session.pendingSubs.erase stream ⊆
      session.liveSubscriptions.erase stream :=
    Finset.erase_subset_erase _ hconsistent.hsubs
  have hunsubs : Disjoint session.pendingUnsubs
      (session.liveSubscriptions.erase stream) :=
    hconsistent.hunsubs.mono_right (Finset.erase_subset _ _)
  by_cases hpending : stream ∈ session.pendingSubs
  · simp only [unsubscribeOnStrand, hlive, not_true_eq_false, if_false, hpends,
      if_true, checkAndCancel, hpending]
    exact ⟨hsubs, hunsubs, hconsistent.honce, hconsistent.hbusy,
      hconsistent.hquiet,
      fun hconnected hflight => (hsent hconnected hflight).elim⟩
  · rw [Finset.erase_eq_of_notMem hpending] at hsubs
    have hinserted : Disjoint (insert stream session.pendingUnsubs)
        (session.liveSubscriptions.erase stream) := by
      rw [Finset.disjoint_insert_left]
      exact ⟨Finset.notMem_erase _ _, hunsubs⟩
    simp only [unsubscribeOnStrand, hlive, not_true_eq_false, if_false, hpends,
      if_true, checkAndCancel, hpending, Bool.false_eq_true]
    exact ⟨hsubs, hinserted, hconsistent.honce, hconsistent.hbusy,
      hconsistent.hquiet,
      fun hconnected hflight => (hsent hconnected hflight).elim⟩

/-- A call that is sent at once finds nothing pending, whatever it makes of the
live set. -/
theorem Consistent.sendSingle (hconsistent : session.Consistent)
    (hconnected : session.connected = true)
    (hflight : session.inFlight = false) (live : Finset String)
    (method : Method) (stream : String) :
    Consistent ({ session with liveSubscriptions := live }.sendSingle method
      stream) := by
  obtain ⟨-, hsubs, hunsubs⟩ := hconsistent.hidle hconnected hflight
  obtain ⟨hsubsFlag, hunsubsFlag⟩ := hconsistent.hquiet hflight
  constructor
  · simp [Session.sendSingle, send, hsubs]
  · simp [Session.sendSingle, send, hunsubs]
  · exact hconsistent.honce
  · intro _
    simp [kinds, Session.sendSingle, send, hsubsFlag, hunsubsFlag]
  · simp [Session.sendSingle, send]
  · simp [Session.sendSingle, send]

theorem Consistent.onStrand (hconsistent : session.Consistent) (call : Call) :
    (call.onStrand session).Consistent := by
  rw [Call.onStrand_eq]
  cases hidle : session.inFlight || !session.connected with
  | true =>
      cases call.method with
      | subscribe =>
          by_cases hlive : call.stream ∈ session.liveSubscriptions
          · simp only [session.subscribeOnStrand_of_mem hlive]
            exact hconsistent
          · exact hconsistent.subscribe_pending hlive hidle
      | unsubscribe =>
          by_cases hlive : call.stream ∈ session.liveSubscriptions
          · exact hconsistent.unsubscribe_pending hlive hidle
          · simp only [session.unsubscribeOnStrand_of_not_mem hlive]
            exact hconsistent
  | false =>
      obtain ⟨hflight, hconnected⟩ :
          session.inFlight = false ∧ session.connected = true := by
        simpa using hidle
      cases call.method with
      | subscribe =>
          by_cases hlive : call.stream ∈ session.liveSubscriptions
          · simp only [session.subscribeOnStrand_of_mem hlive]
            exact hconsistent
          · simp only [session.subscribeOnStrand_of_idle hlive hflight
              hconnected]
            exact hconsistent.sendSingle hconnected hflight _ _ _
      | unsubscribe =>
          by_cases hlive : call.stream ∈ session.liveSubscriptions
          · simp only [session.unsubscribeOnStrand_of_idle hlive hflight
              hconnected]
            exact hconsistent.sendSingle hconnected hflight _ _ _
          · simp only [session.unsubscribeOnStrand_of_not_mem hlive]
            exact hconsistent

/-- An error resets the flags with `m_connected`, or changes neither. -/
theorem Consistent.onError (hconsistent : session.Consistent)
    (ec : ErrorCode) (origin : ErrorOrigin) :
    (session.onError ec origin).session.Consistent := by
  rcases session.onError_cases ec origin with heq | heq | heq
  · rw [heq]
    exact hconsistent
  · rw [heq]
    exact ⟨hconsistent.hsubs, hconsistent.hunsubs, by simp, by simp, by simp,
      by simp⟩
  · rw [heq]
    exact ⟨hconsistent.hsubs, hconsistent.hunsubs, hconsistent.honce,
      hconsistent.hbusy, hconsistent.hquiet, hconsistent.hidle⟩

/-- An error is ignored only if it is an aborted operation, and fatal only
before the first connection. -/
theorem consistent_onError (hsubs : session.pendingSubs ⊆
      session.liveSubscriptions)
    (hunsubs : Disjoint session.pendingUnsubs session.liveSubscriptions)
    (honce : session.connectedOnce = true) {ec : ErrorCode}
    (hec : ec ≠ .operationAborted) (origin : ErrorOrigin) :
    (session.onError ec origin).session.Consistent := by
  have haction : session.classifyError ec = .reconnect := by
    simp [classifyError, hec, honce]
  simp only [Session.onError, haction]
  exact ⟨hsubs, hunsubs, by simp, by simp, by simp, by simp⟩

/-- A failed write takes the flags down, and the connection with them unless it
was an aborted one. -/
theorem Consistent.onWrite_failed (hconsistent : session.Consistent)
    {ec : ErrorCode}
    (haborted : ec = .operationAborted → session.connected = false) :
    (session.onWrite (some ec)).session.Consistent := by
  cases hconnected : session.connected with
  | false =>
      have hreset : Consistent { session with
          inFlight := false
          pendingSubsInFlight := false
          pendingUnsubsInFlight := false } :=
        ⟨hconsistent.hsubs, hconsistent.hunsubs, by simp [hconnected],
          by simp, by simp, by simp [hconnected]⟩
      exact hreset.onError ec .write
  | true =>
      simp only [onWrite]
      apply consistent_onError
      · exact hconsistent.hsubs
      · exact hconsistent.hunsubs
      · exact hconsistent.honce hconnected
      · rintro rfl
        rw [haborted rfl] at hconnected
        cases hconnected

/-- A kept command and a batch are not in flight together, nor are two
batches. -/
theorem Consistent.exclusive (hconsistent : session.Consistent) :
    (session.inFlightCommand.isSome = true →
      session.pendingSubsInFlight = false ∧
        session.pendingUnsubsInFlight = false) ∧
    (session.pendingSubsInFlight = true →
      session.pendingUnsubsInFlight = false) := by
  cases hflight : session.inFlight with
  | true =>
      have hone := hconsistent.hbusy hflight
      rw [kinds] at hone
      revert hone
      cases session.inFlightCommand.isSome <;>
        cases session.pendingSubsInFlight <;>
        cases session.pendingUnsubsInFlight <;> simp
  | false =>
      obtain ⟨hsubsFlag, hunsubsFlag⟩ := hconsistent.hquiet hflight
      exact ⟨fun _ => ⟨hsubsFlag, hunsubsFlag⟩, fun _ => hunsubsFlag⟩

/-- A write that succeeds ends the one command that was in flight. -/
theorem Consistent.onWrite_succeeded (hconsistent : session.Consistent) :
    (session.onWrite none).session.Consistent := by
  obtain ⟨hsingle, hbatch⟩ := hconsistent.exclusive
  simp only [onWrite]
  split_ifs with hcommand hsubsFlag hunsubsFlag
  · apply Quiet.sendPending
    exact ⟨hconsistent.hsubs, hconsistent.hunsubs, hconsistent.honce, rfl,
      by simp [kinds, hsingle hcommand]⟩
  · simp only [sendPendingUnsubs_eq_sendPending]
    apply Quiet.sendPending
    exact ⟨Finset.empty_subset _, hconsistent.hunsubs, hconsistent.honce, rfl,
      by simp [kinds, hcommand, hbatch hsubsFlag]⟩
  · apply Quiet.sendPending
    exact ⟨hconsistent.hsubs, Finset.disjoint_empty_left _, hconsistent.honce,
      rfl, by simp [kinds, hcommand, hsubsFlag]⟩
  · have hflight : session.inFlight = false := by
      by_contra hflight
      have hone := hconsistent.hbusy (by simpa using hflight)
      simp [kinds, hcommand, hsubsFlag, hunsubsFlag] at hone
    rw [← hflight]
    exact hconsistent

/-- A handshake that finds nothing in flight sends the kept command again, or
what is pending. -/
theorem Consistent.onHandshake (hconsistent : session.Consistent)
    (hflight : session.inFlight = false) :
    (session.onHandshake none).session.Consistent := by
  obtain ⟨hsubsFlag, hunsubsFlag⟩ := hconsistent.hquiet hflight
  have hsubs : session.reconciled.pendingSubs ⊆ session.liveSubscriptions :=
    Finset.union_subset hconsistent.hsubs Finset.sdiff_subset
  have hunsubs : Disjoint session.reconciled.pendingUnsubs
      session.liveSubscriptions := Finset.sdiff_disjoint
  rw [onHandshake_none]
  cases hcommand : session.inFlightCommand with
  | some command =>
      exact ⟨hsubs, hunsubs, fun _ => rfl,
        fun _ => by simp [kinds, send, reconciled, hcommand, hsubsFlag,
          hunsubsFlag],
        by simp [send], by simp [send]⟩
  | none =>
      apply Quiet.sendPending
      exact ⟨hsubs, hunsubs, fun _ => rfl, hflight,
        by simp [kinds, reconciled, hcommand, hsubsFlag, hunsubsFlag]⟩

end Session

namespace Link

/-- Every write completes before the next handshake, and with
`operation_aborted` only off the connection.  A write is under way from `send`
until its `on_write`. -/
def Orderly (link : Link) (event : LinkEvent) : Prop :=
  (event = .handshake → link.outstanding = []) ∧
    (event = .writeFailed .operationAborted → link.session.connected = false)

theorem consistent_step {link next : Link} {event : LinkEvent}
    (hconsistent : link.session.Consistent)
    (hflights : Reconnect.FlightOutstanding link)
    (horderly : link.Orderly event)
    (hstep : link.step event = some next) : next.session.Consistent := by
  cases stepped_of_step hstep with
  | call call => exact hconsistent.onStrand call
  | release =>
      exact ⟨hconsistent.hsubs, hconsistent.hunsubs, hconsistent.honce,
        hconsistent.hbusy, hconsistent.hquiet, hconsistent.hidle⟩
  | written => exact hconsistent.onWrite_succeeded
  | writeFailed ec =>
      apply hconsistent.onWrite_failed
      rintro rfl
      exact horderly.2 rfl
  | error ec origin => exact hconsistent.onError ec origin
  | handshake =>
      apply hconsistent.onHandshake
      by_contra hflight
      exact hflights (by simpa using hflight) (horderly.1 rfl)

/-- In every state of every run in which the writes complete in time, the
pending sets agree with the live set, and on a live connection with
`m_inFlight`. -/
theorem bookkept_of_orderly (msgNo : ℤ) (events : List LinkEvent)
    (finish : Link)
    (hrun : Runs.run step (start msgNo) events = some finish)
    (horderly : Runs.EveryStep step Orderly (start msgNo) events) :
    finish.session.Bookkept := by
  have hstart : (start msgNo).session.Consistent ∧
      Reconnect.FlightOutstanding (start msgNo) :=
    ⟨Session.consistent_init msgNo, by
      simp [Reconnect.FlightOutstanding, start, Session.init]⟩
  have hfinish : finish.session.Consistent ∧
      Reconnect.FlightOutstanding finish :=
    horderly.invariant
      (fun link => link.session.Consistent ∧
        Reconnect.FlightOutstanding link)
      (fun _ _ _ hbefore hevent hstep =>
        ⟨consistent_step hbefore.1 hbefore.2 hevent hstep,
          hbefore.2.step hstep⟩)
      hstart hrun
  exact hfinish.1.bookkept

/-- A subscription waits for another to be written, the connection drops, and
both are sent again. -/
def droppedBusy : List LinkEvent :=
  [.handshake, .call (.subscribeTrade "btcusdt"), .release,
    .call (.subscribeTrade "ethusdt"), .error (.other 0) .read,
    .writeFailed .operationAborted, .handshake]

theorem bookkept_of_orderly_droppedBusy :
    ∃ finish, Runs.run step (start 0) droppedBusy = some finish ∧
      finish.session.inFlight = true ∧ finish.session.Bookkept := by
  have hrun : ∃ finish, Runs.run step (start 0) droppedBusy = some finish ∧
      finish.session.inFlight = true := by
    simp only [droppedBusy, Runs.run_cons, Reconnect.step_handshake]
    exact ⟨_, rfl, rfl⟩
  obtain ⟨finish, hrun, hflight⟩ := hrun
  refine ⟨finish, hrun, hflight,
    bookkept_of_orderly 0 droppedBusy finish hrun ?_⟩
  refine Runs.everyStep_cons ⟨fun _ => rfl, by simp⟩ fun first hfirst => ?_
  rw [Reconnect.step_handshake] at hfirst
  obtain rfl := Option.some.inj hfirst
  refine Runs.everyStep_cons ⟨by simp, by simp⟩ fun second hsecond => ?_
  obtain rfl := Option.some.inj hsecond
  refine Runs.everyStep_cons ⟨by simp, by simp⟩ fun third hthird => ?_
  obtain rfl := Option.some.inj hthird
  refine Runs.everyStep_cons ⟨by simp, by simp⟩ fun fourth hfourth => ?_
  obtain rfl := Option.some.inj hfourth
  refine Runs.everyStep_cons ⟨by simp, by simp⟩ fun fifth hfifth => ?_
  obtain rfl := Option.some.inj hfifth
  refine Runs.everyStep_cons ⟨by simp, fun _ => rfl⟩ fun sixth hsixth => ?_
  obtain rfl := Option.some.inj hsixth
  exact Runs.everyStep_cons ⟨fun _ => rfl, by simp⟩
    fun _ _ => Runs.everyStep_nil _

end Link

end MultiMarketPrices.WebSockets
