import MultiMarketPrices.WebSockets.Link

/-!
# Restoring the live set after a reconnect

On a fresh connection `on_handshake` first cancels the pending unsubscriptions
of live streams and adds the other live streams to the pending subscriptions,
then re-sends the retained command, whose completion releases the pending sets.
The exchange therefore ends with the retained command's streams and the pending
subscriptions, less the pending unsubscriptions.  Along every run the pending
subscriptions are live and the pending unsubscriptions are not, so the live set
is restored unless the retained command subscribes to a stream that is neither.
-/

namespace MultiMarketPrices.WebSockets

namespace Session

variable (session : Session)

/-! ## What the handshake reconciles -/

/-- The session after the loop of `on_handshake`. -/
def reconciled : Session :=
  { session with
    connected := true
    connectedOnce := true
    wsOpen := true
    pendingSubs := session.pendingSubs ∪
      (session.liveSubscriptions \ session.pendingUnsubs)
    pendingUnsubs := session.pendingUnsubs \ session.liveSubscriptions }

theorem foldl_resubscribe {streams : List String} (hnodup : streams.Nodup) :
    streams.foldl resubscribe session =
      { session with
        pendingSubs := session.pendingSubs ∪
          (streams.toFinset \ session.pendingUnsubs)
        pendingUnsubs := session.pendingUnsubs \ streams.toFinset } := by
  induction streams generalizing session with
  | nil => simp
  | cons stream streams ih =>
      have hfresh : stream ∉ streams := (List.nodup_cons.mp hnodup).1
      rw [List.foldl_cons, ih _ (List.nodup_cons.mp hnodup).2]
      by_cases hpending : stream ∈ session.pendingUnsubs
      · simp only [resubscribe, checkAndCancel, hpending, if_true, mk.injEq,
          true_and, and_true]
        constructor
        · ext other
          by_cases hother : other = stream
          · simp [hother, hpending, hfresh]
          · simp [hother]
        · ext other
          simp
          tauto
      · simp only [resubscribe, checkAndCancel, hpending, if_false, mk.injEq,
          true_and, and_true, Bool.false_eq_true]
        constructor
        · ext other
          by_cases hother : other = stream
          · simp [hother, hpending]
          · simp [hother]
        · ext other
          by_cases hother : other = stream
          · simp [hother, hpending]
          · simp [hother]

theorem onHandshake_none :
    (session.onHandshake none).session =
      match session.inFlightCommand with
      | some command => session.reconciled.send command
      | none => session.reconciled.sendPending := by
  simp only [onHandshake, foldl_resubscribe _ (Finset.sort_nodup _ _),
    toFinset_sort_streams]
  cases hcommand : session.inFlightCommand <;> simp [reconciled, hcommand]

end Session

namespace Reconnect

open Link

/-! ## A command in flight is outstanding -/

/-- While `m_inFlight` is set some command has yet to complete. -/
def FlightOutstanding (link : Link) : Prop :=
  link.session.inFlight = true → link.outstanding ≠ []

/-- A handler that starts without a command and ends with one has sent it. -/
theorem throttler_ne_nil_of_sends {throttler : List Command}
    {after : Session} (hsends : Session.Sends throttler false after)
    (hflight : after.inFlight = true) : after.throttler ≠ [] := by
  cases hsends with
  | nothing hthrottler hsame => simp [hsame] at hflight
  | one command hthrottler => simp [hthrottler]

theorem FlightOutstanding.step {link next : Link} {event : LinkEvent}
    (hbefore : FlightOutstanding link) (hstep : link.step event = some next) :
    FlightOutstanding next := by
  intro hflight
  cases Link.stepped_of_step hstep with
  | call call =>
      rcases link.session.sends_onStrand call with
        ⟨hthrottler, hsame⟩ | ⟨-, hidle, hsends⟩
      · simpa [outstanding, hthrottler] using hbefore (hsame ▸ hflight)
      · rw [hidle] at hsends
        simp [outstanding, throttler_ne_nil_of_sends hsends hflight]
  | release => simp [outstanding]
  | written | writeFailed =>
      have hpushed := throttler_ne_nil_of_sends
        (Session.sends_onWrite _ _) hflight
      simp [outstanding, hpushed]
  | error ec origin =>
      rcases link.session.onError_cases ec origin with heq | heq | heq
      · simp only [heq] at hflight ⊢
        exact hbefore hflight
      · simp [heq] at hflight
      · simp only [heq] at hflight ⊢
        exact hbefore hflight
  | handshake =>
      simp only [Session.onHandshake_none] at hflight ⊢
      cases hcommand : link.session.inFlightCommand with
      | some command => simp [outstanding, Session.send]
      | none =>
          simp only [hcommand] at hflight ⊢
          rcases link.session.reconciled.sendPending_cases with
            ⟨-, -, heq⟩ | ⟨-, heq⟩ | ⟨-, -, heq⟩
          · rw [heq] at hflight ⊢
            exact hbefore hflight
          · simp [heq, outstanding, Session.sendNext, Session.send]
          · simp [heq, outstanding, Session.sendNext, Session.send]

theorem flightOutstanding_of_run {msgNo : ℤ} {events : List LinkEvent}
    {link : Link} (hrun : Runs.run Link.step (start msgNo) events = some link) :
    FlightOutstanding link := by
  refine Runs.run_invariant FlightOutstanding
    (fun _ _ _ hbefore hstep => hbefore.step hstep) ?_ hrun
  intro hflight
  simp [start, Session.init] at hflight

/-! ## The new connection -/

/-- What the retained command makes of a fresh connection. -/
def retained (session : Session) : Finset String :=
  match session.inFlightCommand with
  | some command => command.apply ∅
  | none => ∅

/-- With nothing outstanding, the handshake starts a drain of the retained
command and the reconciled pending sets. -/
theorem drains_handshake {link : Link} (hout : link.outstanding = [])
    (hflight : link.session.inFlight = false) :
    Drains
      { link with
        session := (link.session.onHandshake none).session
        connection := link.connection + 1
        exchange := ∅ }
      ((retained link.session ∪ link.session.reconciled.pendingSubs) \
        link.session.reconciled.pendingUnsubs) := by
  obtain ⟨session, connection, writes, exchange⟩ := link
  obtain ⟨rfl, hthrottler⟩ : writes = [] ∧ session.throttler = [] := by
    simpa [outstanding] using hout
  simp only [Session.onHandshake_none, retained]
  cases hcommand : session.inFlightCommand with
  | some command =>
      apply Drains.single command
      · simp [outstanding, Session.send, Session.reconciled, hthrottler]
      · rfl
      · exact hcommand
      · rfl
  | none =>
      exact drains_sendPending session.reconciled (connection + 1) ∅
        hthrottler hflight hcommand

/-- The streams of a retained SUBSCRIBE and of `m_pendingSubs` are live or about
to be unsubscribed, and a live stream about to be unsubscribed is among them. -/
def Restorable (session : Session) : Prop :=
  (∀ stream ∈ retained session ∪ session.pendingSubs,
    stream ∉ session.liveSubscriptions → stream ∈ session.pendingUnsubs) ∧
  (∀ stream ∈ session.liveSubscriptions, stream ∈ session.pendingUnsubs →
    stream ∈ retained session ∪ session.pendingSubs)

theorem drained_eq_live_iff (session : Session) :
    (retained session ∪ session.reconciled.pendingSubs) \
        session.reconciled.pendingUnsubs = session.liveSubscriptions ↔
      Restorable session := by
  simp only [Finset.ext_iff, Finset.mem_sdiff, Finset.mem_union,
    Session.reconciled, Restorable]
  constructor
  · intro hsame
    constructor
    · intro stream hsent hlive
      have hstream := hsame stream
      tauto
    · intro stream hlive hpending
      have hstream := hsame stream
      tauto
  · intro hrestorable stream
    have hsent := hrestorable.1 stream
    have hlive := hrestorable.2 stream
    tauto

/-- After any run that leaves no write outstanding, a handshake and the
completion of the writes it leads to restore exactly the live set if and only
if the session was restorable. -/
theorem reconnect_restores_iff (msgNo : ℤ) (events completions : List LinkEvent)
    (lost restored : Link)
    (hlost : Runs.run Link.step (start msgNo) events = some lost)
    (hout : lost.outstanding = [])
    (hcompletions : ∀ event ∈ completions, LinkEvent.Completes event)
    (hrestored : Runs.run Link.step lost (.handshake :: completions) =
      some restored)
    (hidle : restored.session.inFlight = false) :
    restored.exchange = restored.session.liveSubscriptions ↔
      Restorable lost.session := by
  have hflight : lost.session.inFlight = false := by
    by_contra hflight
    exact flightOutstanding_of_run hlost (by simpa using hflight) hout
  have hdrains := drains_handshake hout hflight
  have hrun : Runs.run Link.step
      { lost with
        session := (lost.session.onHandshake none).session
        connection := lost.connection + 1
        exchange := ∅ } completions = some restored := hrestored
  have hcurrent : Current
      { lost with
        session := (lost.session.onHandshake none).session
        connection := lost.connection + 1
        exchange := ∅ } := by
    have hwrites : lost.writes = [] := by
      simpa using (List.append_eq_nil_iff.mp hout).1
    simp [Current, hwrites]
  have hexchange := hdrains.exchange_eq hcurrent hcompletions hrun hidle
  have hlive := run_completes_liveSubscriptions hcompletions hrun
  rw [hexchange, hlive, Session.onHandshake_liveSubscriptions]
  exact drained_eq_live_iff lost.session

/-- The state after a successful handshake, without the loop. -/
theorem step_handshake (link : Link) :
    link.step .handshake = some { link with
      session :=
        match link.session.inFlightCommand with
        | some command => link.session.reconciled.send command
        | none => link.session.reconciled.sendPending
      connection := link.connection + 1
      exchange := ∅ } := by
  simp only [Link.step, Session.onHandshake_none]

/-- A drop while a command is in flight. -/
theorem reconnect_restores_iff_after_drop :
    ∃ lost restored,
      Runs.run Link.step (start 0)
        [.handshake, .call (.subscribeTrade "btcusdt"), .release,
          .error (.other 0) .read, .writeFailed .operationAborted] =
        some lost ∧
      Runs.run Link.step lost
        [.handshake, .release, .written, .release, .written] =
        some restored ∧
      (restored.exchange = restored.session.liveSubscriptions ↔
        Restorable lost.session) := by
  have hruns : ∃ lost restored,
      Runs.run Link.step (start 0)
        [.handshake, .call (.subscribeTrade "btcusdt"), .release,
          .error (.other 0) .read, .writeFailed .operationAborted] =
        some lost ∧
      lost.outstanding = [] ∧
      Runs.run Link.step lost
        [.handshake, .release, .written, .release, .written] =
        some restored ∧
      restored.session.inFlight = false := by
    simp only [Runs.run_cons, step_handshake]
    exact ⟨_, _, rfl, rfl, rfl, rfl⟩
  obtain ⟨lost, restored, hlost, hout, hrestored, hidle⟩ := hruns
  exact ⟨lost, restored, hlost, hrestored,
    reconnect_restores_iff 0 _ _ lost restored hlost hout
      (by simp [LinkEvent.Completes]) hrestored hidle⟩

/-- An unsubscription that cancels against the pending subscription a handshake
added, while the SUBSCRIBE of the same stream is retained. -/
theorem stale_subscription_after_reconnect :
    ∃ lost restored, Runs.run Link.step (start 0)
        [.handshake, .call (.subscribeTrade "btcusdt"), .release,
          .error (.other 0) .read, .writeFailed .operationAborted, .handshake,
          .error (.other 0) .read, .release, .writeFailed .operationAborted,
          .call (.unsubscribeTrade "btcusdt")] = some lost ∧
      lost.outstanding = [] ∧
      Runs.run Link.step lost [.handshake, .release, .written] =
        some restored ∧
      restored.session.inFlight = false ∧
      restored.session.liveSubscriptions = ∅ ∧
      restored.exchange = {"btcusdt@trade"} := by
  simp only [Runs.run_cons, step_handshake]
  exact ⟨_, _, rfl, rfl, rfl, rfl, rfl, rfl⟩

end Reconnect

end MultiMarketPrices.WebSockets
