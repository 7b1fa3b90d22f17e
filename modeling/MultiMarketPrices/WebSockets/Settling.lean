import MultiMarketPrices.Core.Settling
import MultiMarketPrices.WebSockets.Bookkeeping
import MultiMarketPrices.WebSockets.SingleWrite

/-!
# How the session settles

On a live connection the throttler and the completions of writes carry on what
the session has sent, and `on_write` sends what has become pending meanwhile, a
batch at a time.  At most three commands follow each other in this way, and then
nothing is in flight or pending.
-/

namespace MultiMarketPrices.WebSockets

namespace Session

variable {session : Session}

/-- The batches still to be sent until nothing is pending. -/
def batchesLeft (session : Session) : ℕ :=
  (if session.pendingSubs = ∅ ∨ session.pendingSubsInFlight = true then 0
    else 1) +
  (if session.pendingUnsubs = ∅ ∨ session.pendingUnsubsInFlight = true then 0
    else 1)

/-- A batch that is sent is one of those that were left. -/
theorem sendPending_batchesLeft (session : Session)
    (hsubsFlag : session.pendingSubsInFlight = false)
    (hunsubsFlag : session.pendingUnsubsInFlight = false) :
    session.sendPending.throttler.length + session.sendPending.batchesLeft =
      session.throttler.length + session.batchesLeft := by
  rcases session.sendPending_cases with ⟨-, -, heq⟩ | ⟨hsubs, heq⟩ |
    ⟨hsubs, hunsubs, heq⟩
  · rw [heq]
  · rw [heq]
    simp [batchesLeft, sendNext, send, hsubs, hsubsFlag, hunsubsFlag]
    omega
  · rw [heq]
    simp [batchesLeft, sendNext, send, hsubs, hunsubs, hunsubsFlag]

/-- Nothing else is left by the completion of a write. -/
theorem Consistent.onWrite_batchesLeft (hconsistent : session.Consistent)
    (hflight : session.inFlight = true) :
    (session.onWrite none).session.throttler.length +
        (session.onWrite none).session.batchesLeft =
      session.throttler.length + session.batchesLeft := by
  obtain ⟨hsingle, hbatch⟩ := hconsistent.exclusive
  have hone := hconsistent.hbusy hflight
  simp only [onWrite]
  split_ifs with hcommand hsubsFlag hunsubsFlag
  · obtain ⟨hsubsFlag, hunsubsFlag⟩ := hsingle hcommand
    exact sendPending_batchesLeft _ hsubsFlag hunsubsFlag
  · rw [sendPendingUnsubs_eq_sendPending _ rfl]
    apply (sendPending_batchesLeft { session with
      inFlight := false, pendingSubsInFlight := false, pendingSubs := ∅ } rfl
        (hbatch hsubsFlag)).trans
    simp [batchesLeft, hsubsFlag]
  · have hsubsFlag : session.pendingSubsInFlight = false := by
      simpa using hsubsFlag
    apply (sendPending_batchesLeft { session with
      inFlight := false, pendingUnsubsInFlight := false, pendingUnsubs := ∅ }
        hsubsFlag rfl).trans
    simp [batchesLeft, hunsubsFlag]
  · simp [kinds, hcommand, hsubsFlag, hunsubsFlag] at hone

theorem onWrite_succeeded_connected (session : Session) :
    (session.onWrite none).session.connected = session.connected := by
  have hsame (sent : Session) : sent.sendPending.connected = sent.connected :=
    congrArg Prod.fst sent.sendPending_connectivity
  simp only [onWrite]
  split_ifs
  · exact hsame _
  · exact congrArg Prod.fst (sendPendingUnsubs_connectivity _)
  · exact hsame _
  · rfl

end Session

namespace Link

/-- The steps left until the session has settled: to release each command, to
write it, and the same for each batch. -/
def work (link : Link) : ℕ :=
  2 * (link.session.throttler.length + link.session.batchesLeft) +
    link.writes.length

/-- What an orderly run keeps. -/
structure Steady (link : Link) : Prop where
  hconsistent : link.session.Consistent
  hflights : Reconnect.FlightOutstanding link
  hsingle : ∃ sentOn, Tracked.Single ⟨link, sentOn⟩

variable {link next finish : Link} {event : LinkEvent}

theorem steady_start (msgNo : ℤ) : (start msgNo).Steady where
  hconsistent := Session.consistent_init msgNo
  hflights hflight := by simp [start, Session.init] at hflight
  hsingle := ⟨[], Tracked.single_start msgNo⟩

theorem Steady.step (hsteady : link.Steady) (horderly : link.Orderly event)
    (hstep : link.step event = some next) : next.Steady := by
  obtain ⟨hconsistent, hflights, sentOn, hsingle⟩ := hsteady
  obtain ⟨tracked, htracked, rfl⟩ : ∃ tracked,
      Tracked.step ⟨link, sentOn⟩ event = some tracked ∧
        tracked.link = next := by
    rw [Tracked.step, hstep]
    exact ⟨_, rfl, rfl⟩
  exact ⟨consistent_step hconsistent hflights horderly hstep,
    hflights.step hstep, tracked.sentOn, hsingle.step horderly.1 htracked⟩

theorem orderly_of_completes (hevent : event.Completes) :
    link.Orderly event := by
  constructor
  · rintro rfl
    exact absurd hevent id
  · rintro rfl
    exact absurd hevent id

/-- On a live connection. -/
def Live (link : Link) : Prop :=
  link.Steady ∧ link.session.connected = true

/-- A step that carries on what was sent takes one from the work. -/
theorem Live.step (hlive : link.Live) (hevent : event.Completes)
    (hstep : link.step event = some next) :
    next.Live ∧ next.work + 1 = link.work := by
  obtain ⟨hsteady, hconnected⟩ := hlive
  have hnext := hsteady.step (orderly_of_completes hevent) hstep
  cases stepped_of_step hstep with
  | call | writeFailed | error | handshake => exact absurd hevent id
  | release command rest hthrottler =>
      refine ⟨⟨hnext, hconnected⟩, ?_⟩
      simp [work, hthrottler, Session.batchesLeft]
      omega
  | written connection command rest hwrites =>
      obtain ⟨sentOn, hsingle⟩ := hsteady.hsingle
      have hflight : link.session.inFlight = true :=
        hsingle.hbusy hconnected (by simp [outstanding, hwrites])
      have hstill := link.session.onWrite_succeeded_connected.trans hconnected
      refine ⟨⟨hnext, hstill⟩, ?_⟩
      simp only [work, hsteady.hconsistent.onWrite_batchesLeft hflight, hwrites,
        List.length_cons]
      omega

/-- One command at a time leaves at most three to be written. -/
theorem Steady.work_le (hsteady : link.Steady) : link.work ≤ 6 := by
  obtain ⟨sentOn, hsingle⟩ := hsteady.hsingle
  have hlength := hsingle.hlength
  have hbatches : link.session.batchesLeft ≤ 2 := by
    rw [Session.batchesLeft]
    split_ifs <;> omega
  simp only [outstanding, List.length_append, List.length_map] at hlength
  simp only [work]
  omega

/-- Without a command nothing is pending. -/
theorem Live.idle (hlive : link.Live) (hout : link.outstanding = []) :
    link.session.inFlightCommand = none ∧ link.session.pendingSubs = ∅ ∧
      link.session.pendingUnsubs = ∅ := by
  obtain ⟨sentOn, hsingle⟩ := hlive.1.hsingle
  exact hlive.1.hconsistent.hidle hlive.2 (hsingle.hidle hout)

/-- As long as there is work, a command can be released or written. -/
theorem Live.exists_completes (hlive : link.Live) (hwork : link.work ≠ 0) :
    ∃ event next, event.Completes ∧ link.step event = some next := by
  cases hwrites : link.writes with
  | cons write rest =>
      have hstep : ∃ next, link.step .written = some next := by
        rw [Link.step, hwrites]
        exact ⟨_, rfl⟩
      obtain ⟨next, hstep⟩ := hstep
      exact ⟨.written, next, trivial, hstep⟩
  | nil =>
      cases hthrottler : link.session.throttler with
      | cons command rest =>
          have hstep : ∃ next, link.step .release = some next := by
            rw [Link.step, hthrottler]
            exact ⟨_, rfl⟩
          obtain ⟨next, hstep⟩ := hstep
          exact ⟨.release, next, trivial, hstep⟩
      | nil =>
          have hout : link.outstanding = [] := by
            simp [outstanding, hwrites, hthrottler]
          obtain ⟨-, hsubs, hunsubs⟩ := hlive.idle hout
          simp [work, hwrites, hthrottler, Session.batchesLeft, hsubs,
            hunsubs] at hwork

/-- In every connected state of every run in which the writes complete in time,
the throttler and the completions of writes are enough to write what was sent
and what is pending.  They take a number of steps that the state fixes, six at
most, and then nothing is in flight or pending. -/
theorem settles_of_orderly (msgNo : ℤ) (events : List LinkEvent) (link : Link)
    (hrun : Runs.run step (start msgNo) events = some link)
    (horderly : Runs.EveryStep step Orderly (start msgNo) events)
    (hconnected : link.session.connected = true) (steps : List LinkEvent)
    (hsteps : ∀ event ∈ steps, LinkEvent.Completes event) (finish : Link)
    (hfinish : Runs.run step link steps = some finish) :
    link.work ≤ 6 ∧ steps.length + finish.work = link.work ∧
      (finish.work ≠ 0 → ∃ event next, LinkEvent.Completes event ∧
        finish.step event = some next) ∧
      (finish.work = 0 → finish.outstanding = [] ∧
        finish.session.inFlight = false ∧
        finish.session.inFlightCommand = none ∧
        finish.session.pendingSubs = ∅ ∧ finish.session.pendingUnsubs = ∅) := by
  have hsteady : link.Steady := horderly.invariant Steady
    (fun _ _ _ hbefore hevent hstep => hbefore.step hevent hstep)
    (steady_start msgNo) hrun
  have hevery : Runs.EveryStep step
      (fun _ event => LinkEvent.Completes event) link steps :=
    Runs.everyStep_of_forall link hsteps
  have hfinal : finish.Live := hevery.invariant Live
    (fun _ _ _ hbefore hevent hstep => (hbefore.step hevent hstep).1)
    ⟨hsteady, hconnected⟩ hfinish
  have hwork := hevery.length_add_measure
    (fun _ _ _ hbefore hevent hstep => Live.step hbefore hevent hstep)
    ⟨hsteady, hconnected⟩ hfinish
  refine ⟨hsteady.work_le, hwork, hfinal.exists_completes, fun hnone => ?_⟩
  have hout : finish.outstanding = [] := by
    have hlengths : finish.writes.length = 0 ∧
        finish.session.throttler.length = 0 := by
      simp only [work] at hnone
      omega
    rw [outstanding, List.eq_nil_of_length_eq_zero hlengths.1,
      List.eq_nil_of_length_eq_zero hlengths.2]
    rfl
  obtain ⟨sentOn, hsingle⟩ := hfinal.1.hsingle
  exact ⟨hout, hsingle.hidle hout, hfinal.idle hout⟩

/-- A subscription waits for another to be written. -/
def twoSubscribed : List LinkEvent :=
  [.handshake, .call (.subscribeTrade "btcusdt"),
    .call (.subscribeTrade "ethusdt")]

theorem settles_of_orderly_twoSubscribed :
    ∃ link finish, Runs.run step (start 0) twoSubscribed = some link ∧
      Runs.run step link [.release, .written, .release, .written] =
        some finish ∧
      link.work = 4 ∧ finish.outstanding = [] ∧
      finish.session.pendingSubs = ∅ := by
  obtain ⟨link, finish, hrun, hconnected, hfinish, hwork⟩ : ∃ link finish,
      Runs.run step (start 0) twoSubscribed = some link ∧
        link.session.connected = true ∧
        Runs.run step link [.release, .written, .release, .written] =
          some finish ∧ link.work = 4 := by
    simp only [twoSubscribed, Runs.run_cons, Reconnect.step_handshake]
    exact ⟨_, _, rfl, rfl, rfl, rfl⟩
  have horderly : Runs.EveryStep step Orderly (start 0) twoSubscribed := by
    refine Runs.everyStep_cons ⟨fun _ => rfl, by simp⟩ fun first _ => ?_
    refine Runs.everyStep_cons ⟨by simp, by simp⟩ fun second _ => ?_
    exact Runs.everyStep_cons ⟨by simp, by simp⟩
      fun _ _ => Runs.everyStep_nil _
  obtain ⟨-, hsteps, -, hsettled⟩ := settles_of_orderly 0 twoSubscribed link
    hrun horderly hconnected [.release, .written, .release, .written]
    (by simp [LinkEvent.Completes]) finish hfinish
  have hnone : finish.work = 0 := by
    simp only [List.length_cons, List.length_nil, hwork] at hsteps
    omega
  obtain ⟨hout, -, -, hsubs, -⟩ := hsettled hnone
  exact ⟨link, finish, hrun, hfinish, hwork, hout, hsubs⟩

end Link

end MultiMarketPrices.WebSockets
