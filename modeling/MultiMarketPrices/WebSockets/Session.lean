import Mathlib

/-!
# The websocket session's bookkeeping

`session` (WebSockets.h) keeps the set of streams its callers want, two sets
of changes that could not be sent yet, and at most one command on its way to
the exchange.  This module translates the handlers that touch this state.  A
command is pushed to the throttler, which later starts its `async_write` on the
strand; `throttler` is the list of commands pushed and not yet started.

The `std::set`s are `Finset`s, iterated in sorted order, and a serialized
command is the value it serializes; the empty `m_inFlightComand` is `none`.
-/

namespace MultiMarketPrices.WebSockets

/-- The values of `"method"` in a command. -/
inductive Method
  | subscribe
  | unsubscribe
  deriving DecidableEq

/-- The object a command text serializes. -/
structure Command where
  method : Method
  id : ℤ
  params : List String
  deriving DecidableEq

inductive ErrorAction
  | ignore
  | retry
  | reconnect
  | fatal
  deriving DecidableEq

inductive ErrorOrigin
  | connect
  | resolve
  | sslHandshake
  | handshake
  | read
  | write
  | close
  deriving DecidableEq

/-- What the session distinguishes of a `beast::error_code`. -/
inductive ErrorCode
  /-- `net::error::operation_aborted` -/
  | operationAborted
  /-- a code equivalent to `websocket::condition::handshake_failed` -/
  | handshakeFailed
  /-- a code of `net::error::get_ssl_category()` -/
  | ssl (value : ℤ)
  | other (value : ℤ)
  deriving DecidableEq

structure Session where
  inFlight : Bool
  pendingSubsInFlight : Bool
  pendingUnsubsInFlight : Bool
  inFlightCommand : Option Command
  connected : Bool
  connectedOnce : Bool
  wsOpen : Bool
  msgNo : ℤ
  liveSubscriptions : Finset String
  pendingSubs : Finset String
  pendingUnsubs : Finset String
  throttler : List Command

namespace Session

/-- The constructor.  It leaves `m_msgNo` uninitialized. -/
def init (msgNo : ℤ) : Session where
  inFlight := false
  pendingSubsInFlight := false
  pendingUnsubsInFlight := false
  inFlightCommand := none
  connected := false
  connectedOnce := false
  wsOpen := false
  msgNo := msgNo
  liveSubscriptions := ∅
  pendingSubs := ∅
  pendingUnsubs := ∅
  throttler := []

/-- Whether `symbol` was a candidate for cancellation, and what is left. -/
def checkAndCancel (symbol : String) (cancellationCandidate : Finset String) :
    Bool × Finset String :=
  if symbol ∈ cancellationCandidate then
    (true, cancellationCandidate.erase symbol)
  else
    (false, cancellationCandidate)

def send (jsonCmd : Command) (session : Session) : Session :=
  { session with
    throttler := session.throttler ++ [jsonCmd]
    inFlight := true }

/-- The command for `streams` under the next message number. -/
def nextCommand (method : Method) (streams : List String) (session : Session) :
    Command :=
  ⟨method, session.msgNo + 1, streams⟩

/-- Send a command under the next message number. -/
def sendNext (method : Method) (streams : List String) (session : Session) :
    Session :=
  { session with msgNo := session.msgNo + 1 }.send
    (session.nextCommand method streams)

def sendPendingSubs (session : Session) : Session × Bool :=
  if session.pendingSubs = ∅ then
    (session, false)
  else
    ({ session.sendNext .subscribe (session.pendingSubs.sort (· ≤ ·)) with
        pendingSubsInFlight := true }, true)

def sendPendingUnsubs (session : Session) : Session :=
  if session.pendingUnsubs = ∅ then
    session
  else
    { session.sendNext .unsubscribe (session.pendingUnsubs.sort (· ≤ ·)) with
      pendingUnsubsInFlight := true }

/-- `if(!sendPendingSubs()) sendPendingUnsubs();` -/
def sendPending (session : Session) : Session :=
  let sent := session.sendPendingSubs
  if sent.2 then sent.1 else sent.1.sendPendingUnsubs

/-! ## Errors -/

def classifyError (ec : ErrorCode) (session : Session) : ErrorAction :=
  if ec = .operationAborted then .ignore
  else if session.connectedOnce then .reconnect
  else match ec with
    | .handshakeFailed => .fatal
    | .ssl _ => .fatal
    | _ => .reconnect

def closeConnection (session : Session) : Session :=
  { session with wsOpen := false }

/-- `run()` and `read()` only start asynchronous operations. -/
def handleRetry (origin : ErrorOrigin) (session : Session) : Session :=
  match origin with
  | .write =>
      if !session.wsOpen then session
      else match session.inFlightCommand with
        | some command => session.send command
        | none => session.sendPending
  | _ => session

/-- What a handler leaves behind: the session, and the argument of each call of
`m_readyCallback` it made, where `none` is the null error. -/
structure Outcome where
  session : Session
  ready : List (Option ErrorCode)

def onError (ec : ErrorCode) (origin : ErrorOrigin) (session : Session) :
    Outcome :=
  match session.classifyError ec with
  | .ignore => ⟨session, []⟩
  | .retry => ⟨session.handleRetry origin, [some ec]⟩
  | .reconnect =>
      ⟨{ session.closeConnection with
          inFlight := false
          pendingSubsInFlight := false
          pendingUnsubsInFlight := false
          connected := false }, [some ec]⟩
  | .fatal => ⟨session.closeConnection, [some ec]⟩

/-! ## Completions -/

/-- One round of the loop of `on_handshake` over the live subscriptions. -/
def resubscribe (session : Session) (stream : String) : Session :=
  let cancelled := checkAndCancel stream session.pendingUnsubs
  if cancelled.1 then
    { session with pendingUnsubs := cancelled.2 }
  else
    { session with pendingSubs := insert stream session.pendingSubs }

def onHandshake (ec : Option ErrorCode) (session : Session) : Outcome :=
  match ec with
  | some ec => session.onError ec .handshake
  | none =>
      let session := { session with
        connected := true, connectedOnce := true, wsOpen := true }
      let session :=
        (session.liveSubscriptions.sort (· ≤ ·)).foldl resubscribe session
      match session.inFlightCommand with
      | some command => ⟨session.send command, [none]⟩
      | none => ⟨session.sendPending, [none]⟩

def onWrite (ec : Option ErrorCode) (session : Session) : Outcome :=
  let session := { session with inFlight := false }
  match ec with
  | some ec =>
      { session with
        pendingSubsInFlight := false
        pendingUnsubsInFlight := false }.onError ec .write
  | none =>
      if session.inFlightCommand.isSome then
        ⟨{ session with inFlightCommand := none }.sendPending, []⟩
      else if session.pendingSubsInFlight then
        ⟨{ session with
            pendingSubsInFlight := false
            pendingSubs := ∅ }.sendPendingUnsubs, []⟩
      else if session.pendingUnsubsInFlight then
        ⟨{ session with
            pendingUnsubsInFlight := false
            pendingUnsubs := ∅ }.sendPending, []⟩
      else
        ⟨session, []⟩

/-! ## Calls on the strand -/

/-- Send the one command that is not taken from a pending set. -/
def sendSingle (method : Method) (stream : String) (session : Session) :
    Session :=
  let command := session.nextCommand method [stream]
  { session with
    msgNo := session.msgNo + 1
    inFlightCommand := some command }.send command

/-- The common body of the two `subscribe*OnStrand`. -/
def subscribeOnStrand (stream : String) (session : Session) : Session :=
  if stream ∈ session.liveSubscriptions then session
  else
    let session := { session with
      liveSubscriptions := insert stream session.liveSubscriptions }
    if session.inFlight || !session.connected then
      let cancelled := checkAndCancel stream session.pendingUnsubs
      if cancelled.1 then
        { session with pendingUnsubs := cancelled.2 }
      else
        { session with pendingSubs := insert stream session.pendingSubs }
    else
      session.sendSingle .subscribe stream

/-- The common body of the two `unsubscribe*OnStrand`. -/
def unsubscribeOnStrand (stream : String) (session : Session) : Session :=
  if stream ∉ session.liveSubscriptions then session
  else
    let session := { session with
      liveSubscriptions := session.liveSubscriptions.erase stream }
    if session.inFlight || !session.connected then
      let cancelled := checkAndCancel stream session.pendingSubs
      if cancelled.1 then
        { session with pendingSubs := cancelled.2 }
      else
        { session with pendingUnsubs := insert stream session.pendingUnsubs }
    else
      session.sendSingle .unsubscribe stream

def subscribeTradeOnStrand (symbol : String) : Session → Session :=
  subscribeOnStrand (symbol ++ "@trade")

def subscribeDepthOnStrand (symbol : String) : Session → Session :=
  subscribeOnStrand (symbol ++ "@depth5")

def unsubscribeTradeOnStrand (symbol : String) : Session → Session :=
  unsubscribeOnStrand (symbol ++ "@trade")

def unsubscribeDepthOnStrand (symbol : String) : Session → Session :=
  unsubscribeOnStrand (symbol ++ "@depth5")

end Session

/-- A call of one of the session's four public control functions; each posts
its `OnStrand` counterpart to the strand. -/
inductive Call
  | subscribeTrade (symbol : String)
  | subscribeDepth (symbol : String)
  | unsubscribeTrade (symbol : String)
  | unsubscribeDepth (symbol : String)
  deriving DecidableEq

namespace Call

def method : Call → Method
  | subscribeTrade _ | subscribeDepth _ => .subscribe
  | unsubscribeTrade _ | unsubscribeDepth _ => .unsubscribe

/-- The stream the call is about. -/
def stream : Call → String
  | subscribeTrade symbol | unsubscribeTrade symbol => symbol ++ "@trade"
  | subscribeDepth symbol | unsubscribeDepth symbol => symbol ++ "@depth5"

/-- What the strand runs for the call. -/
def onStrand : Call → Session → Session
  | subscribeTrade symbol => Session.subscribeTradeOnStrand symbol
  | subscribeDepth symbol => Session.subscribeDepthOnStrand symbol
  | unsubscribeTrade symbol => Session.unsubscribeTradeOnStrand symbol
  | unsubscribeDepth symbol => Session.unsubscribeDepthOnStrand symbol

end Call

namespace Session

variable (session : Session)

/-! ## What the sends do -/

@[simp]
theorem toFinset_sort_streams (streams : Finset String) :
    (streams.sort (· ≤ ·)).toFinset = streams := Finset.sort_toFinset _ _

/-- The three outcomes of `if(!sendPendingSubs()) sendPendingUnsubs();`. -/
theorem sendPending_cases :
    (session.pendingSubs = ∅ ∧ session.pendingUnsubs = ∅ ∧
      session.sendPending = session) ∨
    (session.pendingSubs ≠ ∅ ∧
      session.sendPending =
        { session.sendNext .subscribe (session.pendingSubs.sort (· ≤ ·)) with
          pendingSubsInFlight := true }) ∨
    (session.pendingSubs = ∅ ∧ session.pendingUnsubs ≠ ∅ ∧
      session.sendPending =
        { session.sendNext .unsubscribe
            (session.pendingUnsubs.sort (· ≤ ·)) with
          pendingUnsubsInFlight := true }) := by
  by_cases hsubs : session.pendingSubs = ∅
  · by_cases hunsubs : session.pendingUnsubs = ∅
    · exact .inl ⟨hsubs, hunsubs,
        by simp [sendPending, sendPendingSubs, sendPendingUnsubs, hsubs, hunsubs]⟩
    · exact .inr (.inr ⟨hsubs, hunsubs,
        by simp [sendPending, sendPendingSubs, sendPendingUnsubs, hsubs, hunsubs]⟩)
  · exact .inr (.inl ⟨hsubs, by simp [sendPending, sendPendingSubs, hsubs]⟩)

/-- The two outcomes of `sendPendingUnsubs`. -/
theorem sendPendingUnsubs_cases :
    (session.pendingUnsubs = ∅ ∧ session.sendPendingUnsubs = session) ∨
    (session.pendingUnsubs ≠ ∅ ∧
      session.sendPendingUnsubs =
        { session.sendNext .unsubscribe
            (session.pendingUnsubs.sort (· ≤ ·)) with
          pendingUnsubsInFlight := true }) := by
  by_cases hunsubs : session.pendingUnsubs = ∅
  · exact .inl ⟨hunsubs, by simp [sendPendingUnsubs, hunsubs]⟩
  · exact .inr ⟨hunsubs, by simp [sendPendingUnsubs, hunsubs]⟩

theorem sendPendingUnsubs_eq_sendPending (hsubs : session.pendingSubs = ∅) :
    session.sendPendingUnsubs = session.sendPending := by
  simp [sendPending, sendPendingSubs, hsubs]

/-! ## What an error does -/

/-- No error is classified for a retry. -/
theorem classifyError_ne_retry (ec : ErrorCode) :
    session.classifyError ec ≠ .retry := by
  unfold classifyError
  split_ifs
  · simp
  · simp
  · cases ec <;> simp

/-- The session after an error: as it was, reset for a reconnect, or closed. -/
theorem onError_cases (ec : ErrorCode) (origin : ErrorOrigin) :
    (session.onError ec origin).session = session ∨
    (session.onError ec origin).session =
      { session.closeConnection with
        inFlight := false
        pendingSubsInFlight := false
        pendingUnsubsInFlight := false
        connected := false } ∨
    (session.onError ec origin).session = session.closeConnection := by
  cases haction : session.classifyError ec with
  | ignore => simp [onError, haction]
  | retry => exact absurd haction (session.classifyError_ne_retry ec)
  | reconnect => simp [onError, haction]
  | fatal => simp [onError, haction]

/-! ## Only calls change the live set -/

@[simp]
theorem sendPendingUnsubs_liveSubscriptions :
    session.sendPendingUnsubs.liveSubscriptions =
      session.liveSubscriptions := by
  rcases session.sendPendingUnsubs_cases with ⟨-, heq⟩ | ⟨-, heq⟩
  · rw [heq]
  · rw [heq]
    rfl

@[simp]
theorem sendPending_liveSubscriptions :
    session.sendPending.liveSubscriptions = session.liveSubscriptions := by
  rcases session.sendPending_cases with ⟨-, -, heq⟩ | ⟨-, heq⟩ | ⟨-, -, heq⟩ <;>
    rw [heq] <;> rfl

@[simp]
theorem onError_liveSubscriptions (ec : ErrorCode) (origin : ErrorOrigin) :
    (session.onError ec origin).session.liveSubscriptions =
      session.liveSubscriptions := by
  rcases session.onError_cases ec origin with heq | heq | heq <;>
    rw [heq] <;> rfl

@[simp]
theorem onWrite_liveSubscriptions (ec : Option ErrorCode) :
    (session.onWrite ec).session.liveSubscriptions =
      session.liveSubscriptions := by
  cases ec with
  | some ec => simp [onWrite]
  | none =>
      simp only [onWrite]
      repeat' split
      all_goals simp

@[simp]
theorem foldl_resubscribe_liveSubscriptions (streams : List String) :
    (streams.foldl resubscribe session).liveSubscriptions =
      session.liveSubscriptions := by
  induction streams generalizing session with
  | nil => rfl
  | cons stream streams ih =>
      rw [List.foldl_cons, ih]
      simp only [resubscribe]
      split <;> rfl

@[simp]
theorem onHandshake_liveSubscriptions (ec : Option ErrorCode) :
    (session.onHandshake ec).session.liveSubscriptions =
      session.liveSubscriptions := by
  cases ec with
  | some ec => simp [onHandshake]
  | none =>
      simp only [onHandshake]
      split <;> simp [send]

/-! ## Calls -/

theorem subscribeOnStrand_of_mem {stream : String}
    (hlive : stream ∈ session.liveSubscriptions) :
    session.subscribeOnStrand stream = session := by
  simp [subscribeOnStrand, hlive]

theorem unsubscribeOnStrand_of_not_mem {stream : String}
    (hlive : stream ∉ session.liveSubscriptions) :
    session.unsubscribeOnStrand stream = session := by
  simp [unsubscribeOnStrand, hlive]

/-- While a command is on its way a subscription only edits the sets. -/
theorem subscribeOnStrand_of_inFlight {stream : String}
    (hlive : stream ∉ session.liveSubscriptions)
    (hflight : session.inFlight = true) :
    session.subscribeOnStrand stream =
      if stream ∈ session.pendingUnsubs then
        { session with
          liveSubscriptions := insert stream session.liveSubscriptions
          pendingUnsubs := session.pendingUnsubs.erase stream }
      else
        { session with
          liveSubscriptions := insert stream session.liveSubscriptions
          pendingSubs := insert stream session.pendingSubs } := by
  by_cases hpending : stream ∈ session.pendingUnsubs <;>
    simp [subscribeOnStrand, hlive, hflight, checkAndCancel, hpending]

theorem unsubscribeOnStrand_of_inFlight {stream : String}
    (hlive : stream ∈ session.liveSubscriptions)
    (hflight : session.inFlight = true) :
    session.unsubscribeOnStrand stream =
      if stream ∈ session.pendingSubs then
        { session with
          liveSubscriptions := session.liveSubscriptions.erase stream
          pendingSubs := session.pendingSubs.erase stream }
      else
        { session with
          liveSubscriptions := session.liveSubscriptions.erase stream
          pendingUnsubs := insert stream session.pendingUnsubs } := by
  by_cases hpending : stream ∈ session.pendingSubs <;>
    simp [unsubscribeOnStrand, hlive, hflight, checkAndCancel, hpending]

/-- On an idle connection a subscription is sent at once. -/
theorem subscribeOnStrand_of_idle {stream : String}
    (hlive : stream ∉ session.liveSubscriptions)
    (hflight : session.inFlight = false)
    (hconnected : session.connected = true) :
    session.subscribeOnStrand stream =
      { session with
        liveSubscriptions := insert stream session.liveSubscriptions }.sendSingle
          .subscribe stream := by
  simp [subscribeOnStrand, hlive, hflight, hconnected]

theorem unsubscribeOnStrand_of_idle {stream : String}
    (hlive : stream ∈ session.liveSubscriptions)
    (hflight : session.inFlight = false)
    (hconnected : session.connected = true) :
    session.unsubscribeOnStrand stream =
      { session with
        liveSubscriptions := session.liveSubscriptions.erase stream }.sendSingle
          .unsubscribe stream := by
  simp [unsubscribeOnStrand, hlive, hflight, hconnected]

end Session

theorem Call.onStrand_eq (call : Call) (session : Session) :
    call.onStrand session =
      match call.method with
      | .subscribe => session.subscribeOnStrand call.stream
      | .unsubscribe => session.unsubscribeOnStrand call.stream := by
  cases call <;> rfl

/-- The live set after a call, whatever else the session holds. -/
def Call.liveAfter (call : Call) (live : Finset String) : Finset String :=
  match call.method with
  | .subscribe => insert call.stream live
  | .unsubscribe => live.erase call.stream

theorem Call.mem_liveAfter (call : Call) (live : Finset String)
    (stream : String) :
    stream ∈ call.liveAfter live ↔
      if call.stream = stream then call.method = .subscribe
      else stream ∈ live := by
  by_cases hstream : call.stream = stream
  · cases hmethod : call.method <;> simp [liveAfter, hmethod, hstream]
  · have hother : stream ≠ call.stream := fun heq => hstream heq.symm
    cases hmethod : call.method <;>
      simp [liveAfter, hmethod, hstream, hother]

theorem Call.onStrand_liveSubscriptions (call : Call) (session : Session) :
    (call.onStrand session).liveSubscriptions =
      call.liveAfter session.liveSubscriptions := by
  rw [onStrand_eq, liveAfter]
  cases call.method with
  | subscribe =>
      by_cases hlive : call.stream ∈ session.liveSubscriptions
      · simp [Session.subscribeOnStrand, hlive]
      · simp only [Session.subscribeOnStrand, Session.checkAndCancel]
        repeat' split
        all_goals simp_all [Session.sendSingle, Session.send]
  | unsubscribe =>
      by_cases hlive : call.stream ∈ session.liveSubscriptions
      · simp only [Session.unsubscribeOnStrand, Session.checkAndCancel]
        repeat' split
        all_goals simp_all [Session.sendSingle, Session.send]
      · simp [Session.unsubscribeOnStrand, hlive]

/-- The live set after calls run in order. -/
theorem foldl_onStrand_liveSubscriptions (calls : List Call)
    (session : Session) :
    (calls.foldl (fun session call => call.onStrand session)
        session).liveSubscriptions =
      calls.foldl (fun live call => call.liveAfter live)
        session.liveSubscriptions := by
  induction calls generalizing session with
  | nil => rfl
  | cons call calls ih =>
      rw [List.foldl_cons, List.foldl_cons, ih,
        call.onStrand_liveSubscriptions]

/-! ## At most one command at a time -/

namespace Session

/-- A handler that found these commands in the throttler and this flag has sent
at most one command more. -/
inductive Sends (throttler : List Command) (inFlight : Bool)
    (after : Session) : Prop
  | nothing (hthrottler : after.throttler = throttler)
      (hflight : after.inFlight = inFlight)
  | one (command : Command)
      (hthrottler : after.throttler = throttler ++ [command])
      (hflight : after.inFlight = true)

variable (session : Session)

theorem sends_sendPending :
    Sends session.throttler session.inFlight session.sendPending := by
  rcases session.sendPending_cases with ⟨-, -, heq⟩ | ⟨-, heq⟩ | ⟨-, -, heq⟩
  · rw [heq]
    exact .nothing rfl rfl
  · rw [heq]
    exact .one _ rfl rfl
  · rw [heq]
    exact .one _ rfl rfl

theorem sends_sendPendingUnsubs :
    Sends session.throttler session.inFlight session.sendPendingUnsubs := by
  rcases session.sendPendingUnsubs_cases with ⟨-, heq⟩ | ⟨-, heq⟩
  · rw [heq]
    exact .nothing rfl rfl
  · rw [heq]
    exact .one _ rfl rfl

theorem onError_throttler (ec : ErrorCode) (origin : ErrorOrigin) :
    (session.onError ec origin).session.throttler = session.throttler := by
  rcases session.onError_cases ec origin with heq | heq | heq <;>
    rw [heq] <;> rfl

theorem onError_inFlight_of_idle (hflight : session.inFlight = false)
    (ec : ErrorCode) (origin : ErrorOrigin) :
    (session.onError ec origin).session.inFlight = false := by
  rcases session.onError_cases ec origin with heq | heq | heq
  · rw [heq, hflight]
  · rw [heq]
  · rw [heq]
    exact hflight

/-- A completed write leaves the session idle and may send the next command. -/
theorem sends_onWrite (ec : Option ErrorCode) :
    Sends session.throttler false (session.onWrite ec).session := by
  cases ec with
  | some ec =>
      exact .nothing (onError_throttler _ ec .write)
        (onError_inFlight_of_idle _ rfl ec .write)
  | none =>
      simp only [onWrite]
      split_ifs
      · exact sends_sendPending
          { session with inFlight := false, inFlightCommand := none }
      · exact sends_sendPendingUnsubs
          { session with
            inFlight := false, pendingSubsInFlight := false, pendingSubs := ∅ }
      · exact sends_sendPending
          { session with
            inFlight := false
            pendingUnsubsInFlight := false
            pendingUnsubs := ∅ }
      · exact .nothing rfl rfl

/-- A call sends only on an idle connection. -/
theorem sends_onStrand (call : Call) :
    ((call.onStrand session).throttler = session.throttler ∧
      (call.onStrand session).inFlight = session.inFlight) ∨
    (session.connected = true ∧ session.inFlight = false ∧
      Sends session.throttler session.inFlight (call.onStrand session)) := by
  rw [Call.onStrand_eq]
  cases hidle : session.inFlight || !session.connected with
  | true =>
      left
      cases call.method with
      | subscribe =>
          simp only [subscribeOnStrand, checkAndCancel, hidle]
          repeat' split
          all_goals simp_all
      | unsubscribe =>
          simp only [unsubscribeOnStrand, checkAndCancel, hidle]
          repeat' split
          all_goals simp_all
  | false =>
      obtain ⟨hflight, hconnected⟩ :
          session.inFlight = false ∧ session.connected = true := by
        simpa using hidle
      refine .inr ⟨hconnected, hflight, ?_⟩
      cases call.method with
      | subscribe =>
          simp only [subscribeOnStrand, hidle]
          split
          · exact .nothing rfl rfl
          · exact .one _ rfl rfl
      | unsubscribe =>
          simp only [unsubscribeOnStrand, hidle]
          split
          · exact .nothing rfl rfl
          · exact .one _ rfl rfl

end Session

end MultiMarketPrices.WebSockets
