import MultiMarketPrices.Core.Runs
import MultiMarketPrices.WebSockets.Session

/-!
# The session, the wire and the exchange

One step of the system around a session: a call runs on the strand, the
throttler releases its oldest command, a write completes, another operation
fails, or a connection is established.  The exchange is the set of streams that
the commands written on the current connection have left subscribed.

`Drains` follows a link from which no further call arrives: it says which
streams the exchange holds once everything sent or pending has been written.
-/

namespace MultiMarketPrices.WebSockets

/-- What the exchange does with a command it has received. -/
def Command.apply (command : Command) (streams : Finset String) :
    Finset String :=
  match command.method with
  | .subscribe => streams ∪ command.params.toFinset
  | .unsubscribe => streams \ command.params.toFinset

structure Link where
  session : Session
  /-- how many connections have been established -/
  connection : ℕ
  /-- the writes that have not completed, oldest first, each with the connection
  it was started on -/
  writes : List (ℕ × Command)
  exchange : Finset String

inductive LinkEvent
  /-- the strand runs a posted call -/
  | call (call : Call)
  /-- the throttler runs its oldest task, whose `async_write` starts -/
  | release
  /-- the oldest write completes successfully -/
  | written
  | writeFailed (ec : ErrorCode)
  /-- an operation other than a write fails -/
  | error (ec : ErrorCode) (origin : ErrorOrigin)
  /-- the handshake of a fresh connection succeeds -/
  | handshake

/-- The events of one connection: calls, and writes that complete. -/
def LinkEvent.OnConnection : LinkEvent → Prop
  | call _ | release | written => True
  | _ => False

/-- The events by which commands reach the exchange. -/
def LinkEvent.Completes : LinkEvent → Prop
  | release | written => True
  | _ => False

namespace Link

/-- A constructed session that has not connected. -/
def start (msgNo : ℤ) : Link := ⟨.init msgNo, 0, [], ∅⟩

/-- A session just handshaken for the first time, with nothing subscribed. -/
def handshaken (msgNo : ℤ) : Link where
  session := { Session.init msgNo with
    connected := true, connectedOnce := true, wsOpen := true }
  connection := 1
  writes := []
  exchange := ∅

def step (link : Link) : LinkEvent → Option Link
  | .call call => some { link with session := call.onStrand link.session }
  | .release =>
      match link.session.throttler with
      | [] => none
      | command :: rest => some { link with
          session := { link.session with throttler := rest }
          writes := link.writes ++ [(link.connection, command)] }
  | .written =>
      match link.writes with
      | [] => none
      | (connection, command) :: rest => some { link with
          session := (link.session.onWrite none).session
          writes := rest
          exchange :=
            if connection = link.connection then command.apply link.exchange
            else link.exchange }
  | .writeFailed ec =>
      match link.writes with
      | [] => none
      | _ :: rest => some { link with
          session := (link.session.onWrite (some ec)).session
          writes := rest }
  | .error ec origin =>
      some { link with session := (link.session.onError ec origin).session }
  | .handshake => some { link with
      session := (link.session.onHandshake none).session
      connection := link.connection + 1
      exchange := ∅ }

/-- The first handshake has nothing to resubscribe. -/
theorem step_handshake_start (msgNo : ℤ) :
    (start msgNo).step .handshake = some (handshaken msgNo) := by
  simp [step, start, handshaken, Session.onHandshake, Session.init,
    Session.sendPending, Session.sendPendingSubs, Session.sendPendingUnsubs]

/-- The commands sent and not yet completed, oldest first. -/
def outstanding (link : Link) : List Command :=
  link.writes.map Prod.snd ++ link.session.throttler

/-- No write of an earlier connection is left. -/
def Current (link : Link) : Prop :=
  ∀ write ∈ link.writes, write.1 = link.connection

/-- What an event can do. -/
inductive Stepped (link : Link) : LinkEvent → Link → Prop
  | call (call : Call) :
      Stepped link (.call call) { link with session := call.onStrand link.session }
  | release (command : Command) (rest : List Command)
      (hthrottler : link.session.throttler = command :: rest) :
      Stepped link .release
        { link with
          session := { link.session with throttler := rest }
          writes := link.writes ++ [(link.connection, command)] }
  | written (connection : ℕ) (command : Command) (rest : List (ℕ × Command))
      (hwrites : link.writes = (connection, command) :: rest) :
      Stepped link .written
        { link with
          session := (link.session.onWrite none).session
          writes := rest
          exchange :=
            if connection = link.connection then command.apply link.exchange
            else link.exchange }
  | writeFailed (ec : ErrorCode) (write : ℕ × Command)
      (rest : List (ℕ × Command)) (hwrites : link.writes = write :: rest) :
      Stepped link (.writeFailed ec)
        { link with
          session := (link.session.onWrite (some ec)).session
          writes := rest }
  | error (ec : ErrorCode) (origin : ErrorOrigin) :
      Stepped link (.error ec origin)
        { link with session := (link.session.onError ec origin).session }
  | handshake :
      Stepped link .handshake
        { link with
          session := (link.session.onHandshake none).session
          connection := link.connection + 1
          exchange := ∅ }

theorem stepped_of_step {link next : Link} {event : LinkEvent}
    (hstep : link.step event = some next) : Stepped link event next := by
  cases event with
  | call call =>
      obtain rfl := Option.some.inj hstep
      exact .call call
  | release =>
      simp only [step] at hstep
      split at hstep
      · exact absurd hstep (by simp)
      · next command rest hthrottler =>
          obtain rfl := Option.some.inj hstep
          exact .release command rest hthrottler
  | written =>
      simp only [step] at hstep
      split at hstep
      · exact absurd hstep (by simp)
      · next connection command rest hwrites =>
          obtain rfl := Option.some.inj hstep
          exact .written connection command rest hwrites
  | writeFailed ec =>
      simp only [step] at hstep
      split at hstep
      · exact absurd hstep (by simp)
      · next write rest hwrites =>
          obtain rfl := Option.some.inj hstep
          exact .writeFailed ec write rest hwrites
  | error ec origin =>
      obtain rfl := Option.some.inj hstep
      exact .error ec origin
  | handshake =>
      obtain rfl := Option.some.inj hstep
      exact .handshake

/-- Only calls change the live set. -/
theorem step_liveSubscriptions {link next : Link} {event : LinkEvent}
    (hevent : ∀ call, event ≠ .call call)
    (hstep : link.step event = some next) :
    next.session.liveSubscriptions = link.session.liveSubscriptions := by
  cases stepped_of_step hstep with
  | call call => exact absurd rfl (hevent call)
  | release => rfl
  | written | writeFailed | error | handshake => simp

/-- Completions leave the live set alone. -/
theorem run_completes_liveSubscriptions {link finish : Link}
    {events : List LinkEvent}
    (hevents : ∀ event ∈ events, LinkEvent.Completes event)
    (hrun : Runs.run step link events = some finish) :
    finish.session.liveSubscriptions = link.session.liveSubscriptions := by
  refine Runs.run_invariant_of_forall
    (fun state => state.session.liveSubscriptions =
      link.session.liveSubscriptions)
    (fun state event next hstate hevent hstep => ?_) rfl hevents hrun
  refine (step_liveSubscriptions ?_ hstep).trans hstate
  rintro call rfl
  exact hevent

/-! ## Draining a link -/

/-- The streams the exchange holds once everything sent or pending has been
written and no further call has arrived, by what is on its way.  A completed
batch empties the set it was taken from, whatever that set holds by then. -/
inductive Drains (link : Link) (target : Finset String) : Prop
  | idle
      (hout : link.outstanding = [])
      (hflight : link.session.inFlight = false)
      (hsubs : link.session.pendingSubs = ∅)
      (hunsubs : link.session.pendingUnsubs = ∅)
      (htarget : target = link.exchange)
  | single (command : Command)
      (hout : link.outstanding = [command])
      (hflight : link.session.inFlight = true)
      (hcommand : link.session.inFlightCommand = some command)
      (htarget : target = (command.apply link.exchange ∪
        link.session.pendingSubs) \ link.session.pendingUnsubs)
  | subs (command : Command)
      (hout : link.outstanding = [command])
      (hflight : link.session.inFlight = true)
      (hcommand : link.session.inFlightCommand = none)
      (hflag : link.session.pendingSubsInFlight = true)
      (htarget : target =
        command.apply link.exchange \ link.session.pendingUnsubs)
  | unsubs (command : Command)
      (hout : link.outstanding = [command])
      (hflight : link.session.inFlight = true)
      (hcommand : link.session.inFlightCommand = none)
      (hflag : link.session.pendingSubsInFlight = false)
      (hflags : link.session.pendingUnsubsInFlight = true)
      (htarget : target =
        command.apply link.exchange ∪ link.session.pendingSubs)

/-- The link after its one outstanding command was written. -/
def completed (link : Link) (command : Command) : Link where
  session := ({ link.session with throttler := [] }.onWrite none).session
  connection := link.connection
  writes := []
  exchange := command.apply link.exchange

/-- Sending what is pending starts a drain to `(exchange ∪ subs) \ unsubs`. -/
theorem drains_sendPending (session : Session) (connection : ℕ)
    (exchange : Finset String) (hthrottler : session.throttler = [])
    (hflight : session.inFlight = false)
    (hcommand : session.inFlightCommand = none) :
    Drains ⟨session.sendPending, connection, [], exchange⟩
      ((exchange ∪ session.pendingSubs) \ session.pendingUnsubs) := by
  rcases session.sendPending_cases with ⟨hsubs, hunsubs, heq⟩ | ⟨hsubs, heq⟩ |
    ⟨hsubs, hunsubs, heq⟩
  · rw [heq]
    exact .idle (by simp [outstanding, hthrottler]) hflight hsubs hunsubs
      (by simp [hsubs, hunsubs])
  · rw [heq]
    refine .subs (session.nextCommand .subscribe
      (session.pendingSubs.sort (· ≤ ·))) ?_ rfl hcommand rfl ?_
    · simp [outstanding, Session.sendNext, Session.send, hthrottler]
    · simp [Command.apply, Session.nextCommand, Session.sendNext,
        Session.send]
  · rw [heq]
    cases hflag : session.pendingSubsInFlight with
    | true =>
        refine .subs (session.nextCommand .unsubscribe
          (session.pendingUnsubs.sort (· ≤ ·))) ?_ rfl hcommand hflag ?_
        · simp [outstanding, Session.sendNext, Session.send, hthrottler]
        · simp [Command.apply, Session.nextCommand, Session.sendNext,
            Session.send, hsubs]
    | false =>
        refine .unsubs (session.nextCommand .unsubscribe
          (session.pendingUnsubs.sort (· ≤ ·))) ?_ rfl hcommand hflag rfl ?_
        · simp [outstanding, Session.sendNext, Session.send, hthrottler]
        · simp [Command.apply, Session.nextCommand, Session.sendNext,
            Session.send, hsubs]

/-- Writing the outstanding command does not change where a link drains to. -/
theorem Drains.completed {link : Link} {target : Finset String}
    (hdrains : link.Drains target) {command : Command}
    (hout : link.outstanding = [command]) :
    (link.completed command).Drains target := by
  cases hdrains with
  | idle hnone => simp [hout] at hnone
  | single sent hsent hflight hcommand htarget =>
      obtain rfl : command = sent := by simpa [hout] using hsent
      have hdrained := drains_sendPending
        { link.session with
          throttler := [], inFlight := false, inFlightCommand := none }
        link.connection (command.apply link.exchange) rfl rfl rfl
      rw [htarget]
      simpa [Link.completed, Session.onWrite, hcommand] using hdrained
  | subs sent hsent hflight hcommand hflag htarget =>
      obtain rfl : command = sent := by simpa [hout] using hsent
      have hdrained := drains_sendPending
        { link.session with
          throttler := [], inFlight := false
          pendingSubsInFlight := false, pendingSubs := ∅ }
        link.connection (command.apply link.exchange) rfl rfl hcommand
      rw [htarget]
      simpa [Link.completed, Session.onWrite, hcommand, hflag,
        Session.sendPendingUnsubs_eq_sendPending] using hdrained
  | unsubs sent hsent hflight hcommand hflag hflags htarget =>
      obtain rfl : command = sent := by simpa [hout] using hsent
      have hdrained := drains_sendPending
        { link.session with
          throttler := [], inFlight := false
          pendingUnsubsInFlight := false, pendingUnsubs := ∅ }
        link.connection (command.apply link.exchange) rfl rfl hcommand
      rw [htarget]
      simpa [Link.completed, Session.onWrite, hcommand, hflag, hflags]
        using hdrained

/-! ## Runs of completions -/

/-- One command that is outstanding waits in the throttler or is being
written. -/
theorem outstanding_eq_singleton {link : Link} (hcurrent : link.Current)
    {command : Command} (hout : link.outstanding = [command]) :
    (link.writes = [] ∧ link.session.throttler = [command]) ∨
      (link.writes = [(link.connection, command)] ∧
        link.session.throttler = []) := by
  cases hwrites : link.writes with
  | nil => exact .inl ⟨rfl, by simpa [outstanding, hwrites] using hout⟩
  | cons write rest =>
      obtain ⟨number, sent⟩ := write
      have hnumber : number = link.connection :=
        hcurrent (number, sent) (by simp [hwrites])
      obtain ⟨rfl, rfl, hthrottler⟩ :
          sent = command ∧ rest = [] ∧ link.session.throttler = [] := by
        simpa [outstanding, hwrites] using hout
      exact .inr ⟨by rw [hnumber], hthrottler⟩

/-- With one command outstanding, completions write exactly that command. -/
theorem exists_run_completed {link : Link} (hcurrent : link.Current)
    {command : Command} (hout : link.outstanding = [command]) :
    ∃ events, (∀ event ∈ events, LinkEvent.Completes event) ∧
      Runs.run step link events = some (link.completed command) := by
  rcases outstanding_eq_singleton hcurrent hout with
    ⟨hwrites, hthrottler⟩ | ⟨hwrites, hthrottler⟩
  · refine ⟨[.release, .written], by simp [LinkEvent.Completes], ?_⟩
    simp [step, hwrites, hthrottler, completed]
  · refine ⟨[.written], by simp [LinkEvent.Completes], ?_⟩
    have hsession : { link.session with throttler := [] } = link.session := by
      rw [← hthrottler]
    simp [step, hwrites, completed, hsession]

/-- A completion either starts the write of the outstanding command or
completes it. -/
theorem step_completes {link next : Link} {event : LinkEvent}
    (hcurrent : link.Current) {command : Command}
    (hout : link.outstanding = [command]) (hevent : event.Completes)
    (hstep : link.step event = some next) :
    next = link.completed command ∨
      next = { link with
        session := { link.session with throttler := [] }
        writes := [(link.connection, command)] } := by
  rcases outstanding_eq_singleton hcurrent hout with
    ⟨hwrites, hthrottler⟩ | ⟨hwrites, hthrottler⟩
  · cases event with
    | release =>
        refine .inr ?_
        simpa [step, hwrites, hthrottler] using hstep.symm
    | written => simp [step, hwrites] at hstep
    | call | writeFailed | error | handshake => exact absurd hevent id
  · have hsession : { link.session with throttler := [] } = link.session := by
      rw [← hthrottler]
    cases event with
    | release => simp [step, hthrottler] at hstep
    | written =>
        refine .inl ?_
        simpa [step, hwrites, completed, hsession] using hstep.symm
    | call | writeFailed | error | handshake => exact absurd hevent id

theorem completed_current (link : Link) (command : Command) :
    (link.completed command).Current := by
  simp [Current, completed]

/-- Nothing completes on a link without an outstanding command. -/
theorem step_completes_of_idle {link : Link} {event : LinkEvent}
    (hout : link.outstanding = []) (hevent : event.Completes) :
    link.step event = none := by
  obtain ⟨hwrites, hthrottler⟩ :
      link.writes = [] ∧ link.session.throttler = [] := by
    simpa [outstanding] using hout
  cases event with
  | release => simp [step, hthrottler]
  | written => simp [step, hwrites]
  | call | writeFailed | error | handshake => exact absurd hevent id

theorem Drains.outstanding_cases {link : Link} {target : Finset String}
    (hdrains : link.Drains target) :
    (link.outstanding = [] ∧ link.session.inFlight = false) ∨
      ∃ command, link.outstanding = [command] ∧
        link.session.inFlight = true := by
  cases hdrains with
  | idle hout hflight => exact .inl ⟨hout, hflight⟩
  | single command hout hflight => exact .inr ⟨command, hout, hflight⟩
  | subs command hout hflight => exact .inr ⟨command, hout, hflight⟩
  | unsubs command hout hflight => exact .inr ⟨command, hout, hflight⟩

/-- Starting the write of the outstanding command changes nothing either. -/
theorem Drains.released {link : Link} {target : Finset String}
    (hdrains : link.Drains target) {command : Command}
    (hout : link.outstanding = [command]) :
    Drains { link with
      session := { link.session with throttler := [] }
      writes := [(link.connection, command)] } target := by
  have hout' : outstanding { link with
      session := { link.session with throttler := [] }
      writes := [(link.connection, command)] } = [command] := by
    simp [outstanding]
  cases hdrains with
  | idle hnone => simp [hout] at hnone
  | single sent hsent hflight hcommand htarget =>
      obtain rfl : command = sent := by simpa [hout] using hsent
      exact .single command hout' hflight hcommand htarget
  | subs sent hsent hflight hcommand hflag htarget =>
      obtain rfl : command = sent := by simpa [hout] using hsent
      exact .subs command hout' hflight hcommand hflag htarget
  | unsubs sent hsent hflight hcommand hflag hflags htarget =>
      obtain rfl : command = sent := by simpa [hout] using hsent
      exact .unsubs command hout' hflight hcommand hflag hflags htarget

theorem Drains.step {link next : Link} {target : Finset String}
    {event : LinkEvent} (hdrains : link.Drains target)
    (hcurrent : link.Current) (hevent : event.Completes)
    (hstep : link.step event = some next) :
    next.Drains target ∧ next.Current := by
  rcases hdrains.outstanding_cases with ⟨hout, -⟩ | ⟨command, hout, -⟩
  · simp [step_completes_of_idle hout hevent] at hstep
  · rcases step_completes hcurrent hout hevent hstep with rfl | rfl
    · exact ⟨hdrains.completed hout, completed_current link command⟩
    · exact ⟨hdrains.released hout, by simp [Current]⟩

/-- Whatever completions a draining link goes through, once no command is
outstanding the exchange holds the target. -/
theorem Drains.exchange_eq {link finish : Link} {target : Finset String}
    {events : List LinkEvent} (hdrains : link.Drains target)
    (hcurrent : link.Current)
    (hevents : ∀ event ∈ events, LinkEvent.Completes event)
    (hrun : Runs.run Link.step link events = some finish)
    (hflight : finish.session.inFlight = false) :
    finish.exchange = target := by
  have hfinish : finish.Drains target ∧ finish.Current :=
    Runs.run_invariant_of_forall
      (fun link => link.Drains target ∧ link.Current)
      (fun _ _ _ hbefore hevent hstep =>
        hbefore.1.step hbefore.2 hevent hstep)
      ⟨hdrains, hcurrent⟩ hevents hrun
  cases hfinish.1 with
  | idle _ _ _ _ htarget => exact htarget.symm
  | single _ _ htrue => simp [hflight] at htrue
  | subs _ _ htrue => simp [hflight] at htrue
  | unsubs _ _ htrue => simp [hflight] at htrue

/-! ## Draining ends -/

/-- An upper bound on the completed writes until nothing is outstanding. -/
def rank (link : Link) : ℕ :=
  if link.session.inFlight = false then 0
  else if link.session.inFlightCommand.isSome then 3
  else if link.session.pendingSubsInFlight then
    if link.session.pendingUnsubs = ∅ then 1 else 2
  else
    if link.session.pendingSubs = ∅ then 1 else 2

theorem rank_sendPending_le (session : Session) (connection : ℕ)
    (exchange : Finset String)
    (hflight : session.inFlight = false)
    (hcommand : session.inFlightCommand = none) :
    rank ⟨session.sendPending, connection, [], exchange⟩ ≤
      if session.pendingUnsubs = ∅ then
        if session.pendingSubs = ∅ then 0 else 1
      else if session.pendingSubs = ∅ ∧ session.pendingSubsInFlight = false then 1
      else 2 := by
  rcases session.sendPending_cases with ⟨hsubs, hunsubs, heq⟩ | ⟨hsubs, heq⟩ |
    ⟨hsubs, hunsubs, heq⟩
  · simp [heq, rank, hflight]
  · simp [heq, rank, Session.sendNext, Session.send, hcommand, hsubs]
  · cases hflag : session.pendingSubsInFlight <;>
      simp [heq, rank, Session.sendNext, Session.send, hcommand, hsubs,
        hunsubs, hflag]

theorem Drains.rank_completed_lt {link : Link} {target : Finset String}
    (hdrains : link.Drains target) {command : Command}
    (hout : link.outstanding = [command]) :
    rank (link.completed command) < rank link := by
  cases hdrains with
  | idle hnone => simp [hout] at hnone
  | single sent hsent hflight hcommand htarget =>
      have hle := rank_sendPending_le
        { link.session with
          throttler := [], inFlight := false, inFlightCommand := none }
        link.connection (command.apply link.exchange) rfl rfl
      have hrank : rank link = 3 := by simp [rank, hflight, hcommand]
      have hcompleted : rank (link.completed command) ≤ 2 := by
        refine (le_of_eq ?_).trans (hle.trans (by split_ifs <;> omega))
        simp [Link.completed, Session.onWrite, hcommand]
      omega
  | subs sent hsent hflight hcommand hflag htarget =>
      have hle := rank_sendPending_le
        { link.session with
          throttler := [], inFlight := false
          pendingSubsInFlight := false, pendingSubs := ∅ }
        link.connection (command.apply link.exchange) rfl hcommand
      have hrank : rank link =
          if link.session.pendingUnsubs = ∅ then 1 else 2 := by
        simp [rank, hflight, hcommand, hflag]
      have hcompleted : rank (link.completed command) ≤
          if link.session.pendingUnsubs = ∅ then 0 else 1 := by
        simpa [Link.completed, Session.onWrite, hcommand, hflag,
          Session.sendPendingUnsubs_eq_sendPending] using hle
      split_ifs at hcompleted hrank <;> omega
  | unsubs sent hsent hflight hcommand hflag hflags htarget =>
      have hle := rank_sendPending_le
        { link.session with
          throttler := [], inFlight := false
          pendingUnsubsInFlight := false, pendingUnsubs := ∅ }
        link.connection (command.apply link.exchange) rfl hcommand
      have hrank : rank link =
          if link.session.pendingSubs = ∅ then 1 else 2 := by
        simp [rank, hflight, hcommand, hflag]
      have hcompleted : rank (link.completed command) ≤
          if link.session.pendingSubs = ∅ then 0 else 1 := by
        simpa [Link.completed, Session.onWrite, hcommand, hflag, hflags]
          using hle
      split_ifs at hcompleted hrank <;> omega

/-- A draining link has a run of completions after which nothing is
outstanding. -/
theorem Drains.exists_drained {link : Link} {target : Finset String}
    (hdrains : link.Drains target) (hcurrent : link.Current) :
    ∃ events finish, (∀ event ∈ events, LinkEvent.Completes event) ∧
      Runs.run Link.step link events = some finish ∧
      finish.session.inFlight = false := by
  induction hrank : rank link using Nat.strong_induction_on generalizing link with
  | h bound ih =>
      rcases hdrains.outstanding_cases with ⟨hout, hflight⟩ | ⟨command, hout, -⟩
      · exact ⟨[], link, by simp, rfl, hflight⟩
      · obtain ⟨first, hfirst, hcompleted⟩ :=
          exists_run_completed hcurrent hout
        have hlt : rank (link.completed command) < bound :=
          hrank ▸ hdrains.rank_completed_lt hout
        obtain ⟨rest, finish, hrest, hrun, hdone⟩ :=
          ih _ hlt (hdrains.completed hout)
            (completed_current link command) rfl
        refine ⟨first ++ rest, finish, ?_, ?_, hdone⟩
        · simpa [or_imp, forall_and] using ⟨hfirst, hrest⟩
        · exact Runs.run_append_eq_some.mpr ⟨_, hcompleted, hrun⟩

end Link

end MultiMarketPrices.WebSockets
