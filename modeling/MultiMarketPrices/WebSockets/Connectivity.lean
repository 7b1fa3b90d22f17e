import MultiMarketPrices.WebSockets.Link

/-!
# What the session reports

`m_readyCallback` is called with the null error by a handshake and with the
error by `on_error`.  Each of its calls agrees with what the same handler does
to `m_connected`, and a handler that does not call it leaves `m_connected` alone.
-/

namespace MultiMarketPrices.WebSockets

namespace Session

/-- `m_connected` and `m_connectedOnce`. -/
def connectivity (session : Session) : Bool × Bool :=
  (session.connected, session.connectedOnce)

variable (session : Session)

theorem sendPendingUnsubs_connectivity :
    session.sendPendingUnsubs.connectivity = session.connectivity := by
  simp only [sendPendingUnsubs]
  split <;> rfl

theorem sendPending_connectivity :
    session.sendPending.connectivity = session.connectivity := by
  rcases session.sendPending_cases with
    ⟨-, -, heq⟩ | ⟨-, heq⟩ | ⟨-, -, heq⟩
  · rw [heq]
  · rw [heq]
    rfl
  · rw [heq]
    rfl

theorem foldl_resubscribe_connectivity (streams : List String) :
    (streams.foldl resubscribe session).connectivity =
      session.connectivity := by
  induction streams generalizing session with
  | nil => rfl
  | cons stream streams ih =>
      rw [List.foldl_cons, ih]
      simp only [resubscribe]
      split <;> rfl

theorem onStrand_connectivity (call : Call) :
    (call.onStrand session).connectivity = session.connectivity := by
  rw [Call.onStrand_eq]
  cases call.method with
  | subscribe =>
      simp only [subscribeOnStrand, checkAndCancel]
      repeat' split
      all_goals rfl
  | unsubscribe =>
      simp only [unsubscribeOnStrand, checkAndCancel]
      repeat' split
      all_goals rfl

/-- How a handler's calls of the ready callback go with `m_connected`. -/
inductive Reports (session : Session) (outcome : Outcome) : Prop
  | nothing (hready : outcome.ready = [])
      (hsame : outcome.session.connectivity = session.connectivity)
  | connected (hready : outcome.ready = [none])
      (hconnected : outcome.session.connectivity = (true, true))
  | disconnected (ec : ErrorCode) (hready : outcome.ready = [some ec])
      (hdisconnected : outcome.session.connectivity =
        (false, session.connectedOnce))
  | failed (ec : ErrorCode) (hready : outcome.ready = [some ec])
      (honce : session.connectedOnce = false)
      (hsame : outcome.session.connectivity = session.connectivity)

theorem reports_onError (ec : ErrorCode) (origin : ErrorOrigin) :
    session.Reports (session.onError ec origin) := by
  cases haction : session.classifyError ec with
  | ignore =>
      refine .nothing ?_ ?_ <;> simp [onError, haction]
  | retry => exact absurd haction (session.classifyError_ne_retry ec)
  | reconnect =>
      refine .disconnected ec (by simp [onError, haction]) ?_
      simp [onError, haction, connectivity, closeConnection]
  | fatal =>
      have honce : session.connectedOnce = false := by
        by_contra honce
        have honce : session.connectedOnce = true := by simpa using honce
        unfold classifyError at haction
        split_ifs at haction
      refine .failed ec (by simp [onError, haction]) honce ?_
      simp [onError, haction, connectivity, closeConnection]

theorem onHandshake_ready : (session.onHandshake none).ready = [none] := by
  simp only [onHandshake]
  split <;> rfl

theorem onHandshake_connectivity :
    (session.onHandshake none).session.connectivity = (true, true) := by
  have hfolded := foldl_resubscribe_connectivity
    { session with connected := true, connectedOnce := true, wsOpen := true }
    (session.liveSubscriptions.sort (· ≤ ·))
  simp only [onHandshake]
  split
  · exact hfolded
  · rw [sendPending_connectivity]
    exact hfolded

theorem reports_onHandshake :
    session.Reports (session.onHandshake none) :=
  .connected session.onHandshake_ready session.onHandshake_connectivity

theorem reports_onWrite (ec : Option ErrorCode) :
    session.Reports (session.onWrite ec) := by
  cases ec with
  | some ec =>
      cases reports_onError { session with
          inFlight := false
          pendingSubsInFlight := false
          pendingUnsubsInFlight := false } ec .write with
      | nothing hready hsame => exact .nothing hready hsame
      | connected hready hconnected => exact .connected hready hconnected
      | disconnected ec hready hdisconnected =>
          exact .disconnected ec hready hdisconnected
      | failed ec hready honce hsame => exact .failed ec hready honce hsame
  | none =>
      apply Reports.nothing
      · simp only [onWrite]
        repeat' split
        all_goals rfl
      · simp only [onWrite]
        split
        · exact sendPending_connectivity _
        · split
          · exact sendPendingUnsubs_connectivity _
          · split
            · exact sendPending_connectivity _
            · rfl

end Session

namespace Link

/-- The arguments of the calls of the ready callback that an event leads to. -/
def ready (link : Link) : LinkEvent → List (Option ErrorCode)
  | .call _ | .release => []
  | .written => (link.session.onWrite none).ready
  | .writeFailed ec => (link.session.onWrite (some ec)).ready
  | .error ec origin => (link.session.onError ec origin).ready
  | .handshake => (link.session.onHandshake none).ready

theorem reports_of_step {link next : Link} {event : LinkEvent}
    (hstep : link.step event = some next) :
    link.session.Reports ⟨next.session, link.ready event⟩ := by
  cases stepped_of_step hstep with
  | call call => exact .nothing rfl (link.session.onStrand_connectivity call)
  | release => exact .nothing rfl rfl
  | written => exact link.session.reports_onWrite none
  | writeFailed ec => exact link.session.reports_onWrite (some ec)
  | error ec origin => exact link.session.reports_onError ec origin
  | handshake => exact link.session.reports_onHandshake

end Link

end MultiMarketPrices.WebSockets
