import MultiMarketPrices.Core.PendingChanges
import MultiMarketPrices.WebSockets.Link

/-!
# Agreement of the exchange and the session on one connection

On one connection the session refines `PendingChanges`: the pending sets are
the changes the exchange lacks once the command on its way has arrived, and the
desired set is the live set.  The refinement lasts as long as no call edits a
pending set while the batch taken from it is on its way: such a call is either
forgotten when the set is cleared at completion, or cancels against a stream
that is already being sent.
-/

namespace MultiMarketPrices.WebSockets.ExchangeAgreement

open Link

/-- A call that changes the live set while a pending batch is on its way leaves
the set the batch was taken from alone. -/
def KeepsBatch (link : Link) : LinkEvent → Prop
  | .call call =>
      match call.method with
      | .subscribe => call.stream ∉ link.session.liveSubscriptions →
          (link.session.pendingSubsInFlight = true →
            call.stream ∈ link.session.pendingUnsubs) ∧
          (link.session.pendingUnsubsInFlight = true →
            call.stream ∉ link.session.pendingUnsubs)
      | .unsubscribe => call.stream ∈ link.session.liveSubscriptions →
          (link.session.pendingSubsInFlight = true →
            call.stream ∉ link.session.pendingSubs) ∧
          (link.session.pendingUnsubsInFlight = true →
            call.stream ∈ link.session.pendingSubs)
  | _ => True

/-- However the writes under way complete, the exchange and the live set agree
whenever no command is outstanding. -/
def AgreesWhenIdle (link : Link) : Prop :=
  ∀ events finish, (∀ event ∈ events, LinkEvent.Completes event) →
    Runs.run Link.step link events = some finish →
    finish.session.inFlight = false →
    finish.exchange = finish.session.liveSubscriptions

/-! ## The refinement -/

/-- What the exchange holds once the retained single command has arrived. -/
def base (link : Link) : Finset String :=
  match link.session.inFlightCommand with
  | some command => command.apply link.exchange
  | none => link.exchange

/-- What is on its way, and the marks that go with it. -/
inductive Mode (link : Link) : Prop
  | idle
      (hout : link.outstanding = [])
      (hflight : link.session.inFlight = false)
      (hcommand : link.session.inFlightCommand = none)
      (hsubsFlag : link.session.pendingSubsInFlight = false)
      (hunsubsFlag : link.session.pendingUnsubsInFlight = false)
      (hsubs : link.session.pendingSubs = ∅)
      (hunsubs : link.session.pendingUnsubs = ∅)
  | single (command : Command)
      (hout : link.outstanding = [command])
      (hflight : link.session.inFlight = true)
      (hcommand : link.session.inFlightCommand = some command)
      (hsubsFlag : link.session.pendingSubsInFlight = false)
      (hunsubsFlag : link.session.pendingUnsubsInFlight = false)
  | subs (id : ℤ)
      (hout : link.outstanding =
        [⟨.subscribe, id, link.session.pendingSubs.sort (· ≤ ·)⟩])
      (hflight : link.session.inFlight = true)
      (hcommand : link.session.inFlightCommand = none)
      (hsubsFlag : link.session.pendingSubsInFlight = true)
      (hunsubsFlag : link.session.pendingUnsubsInFlight = false)
  | unsubs (id : ℤ)
      (hout : link.outstanding =
        [⟨.unsubscribe, id, link.session.pendingUnsubs.sort (· ≤ ·)⟩])
      (hflight : link.session.inFlight = true)
      (hcommand : link.session.inFlightCommand = none)
      (hsubsFlag : link.session.pendingSubsInFlight = false)
      (hunsubsFlag : link.session.pendingUnsubsInFlight = true)

/-- The link holds exactly the abstract changes. -/
structure Refines (link : Link) (changes : PendingChanges String) : Prop where
  hlive : link.session.liveSubscriptions = changes.desired
  hbase : base link = changes.base
  hsubs : link.session.pendingSubs = changes.additions
  hunsubs : link.session.pendingUnsubs = changes.removals

/-- The invariant of one connection. -/
structure Synchronized (link : Link) : Prop where
  hchanges : ∃ changes, Refines link changes
  hmode : Mode link
  hconnected : link.session.connected = true
  hcurrent : link.Current

theorem synchronized_handshaken (msgNo : ℤ) :
    Synchronized (handshaken msgNo) where
  hchanges := ⟨.settled ∅, by simp [handshaken, Session.init], rfl, rfl, rfl⟩
  hmode := .idle rfl rfl rfl rfl rfl rfl rfl
  hconnected := rfl
  hcurrent := by simp [Current, handshaken]

theorem Synchronized.drains {link : Link} (hsync : Synchronized link) :
    link.Drains link.session.liveSubscriptions := by
  obtain ⟨⟨changes, hlive, hbase, hsubs, hunsubs⟩, hmode, -, -⟩ := hsync
  cases hmode with
  | idle hout hflight hcommand hsubsFlag hunsubsFlag hnosubs hnounsubs =>
      refine .idle hout hflight hnosubs hnounsubs ?_
      rw [hlive, PendingChanges.desired_eq_base (hsubs ▸ hnosubs)
        (hunsubs ▸ hnounsubs), ← hbase]
      simp [base, hcommand]
  | single command hout hflight hcommand =>
      refine .single command hout hflight hcommand ?_
      rw [hlive, PendingChanges.desired, ← hbase, ← hsubs, ← hunsubs]
      simp [base, hcommand]
  | subs id hout hflight hcommand hsubsFlag =>
      refine .subs _ hout hflight hcommand hsubsFlag ?_
      rw [hlive, PendingChanges.desired, ← hbase, ← hsubs, ← hunsubs]
      simp [base, hcommand, Command.apply]
  | unsubs id hout hflight hcommand hsubsFlag hunsubsFlag =>
      refine .unsubs _ hout hflight hcommand hsubsFlag hunsubsFlag ?_
      rw [hlive, PendingChanges.desired_eq_sdiff_union, ← hbase, ← hsubs,
        ← hunsubs]
      simp [base, hcommand, Command.apply]

theorem Synchronized.agreesWhenIdle {link : Link} (hsync : Synchronized link) :
    AgreesWhenIdle link := by
  intro events finish hevents hrun hflight
  rw [run_completes_liveSubscriptions hevents hrun]
  exact hsync.drains.exchange_eq hsync.hcurrent hevents hrun hflight

/-! ## Completions keep the refinement -/

/-- Sending what is pending on an idle connection. -/
theorem synchronized_sendPending (session : Session) (connection : ℕ)
    {exchange : Finset String} (changes : PendingChanges String)
    (hlive : session.liveSubscriptions = changes.desired)
    (hbase : exchange = changes.base)
    (hsubs : session.pendingSubs = changes.additions)
    (hunsubs : session.pendingUnsubs = changes.removals)
    (hthrottler : session.throttler = [])
    (hflight : session.inFlight = false)
    (hcommand : session.inFlightCommand = none)
    (hsubsFlag : session.pendingSubsInFlight = false)
    (hunsubsFlag : session.pendingUnsubsInFlight = false)
    (hconnected : session.connected = true) :
    Synchronized ⟨session.sendPending, connection, [], exchange⟩ := by
  rcases session.sendPending_cases with ⟨hnosubs, hnounsubs, heq⟩ |
    ⟨hsome, heq⟩ | ⟨hnosubs, hsome, heq⟩
  · rw [heq]
    refine ⟨⟨changes, hlive, ?_, hsubs, hunsubs⟩, ?_, hconnected, ?_⟩
    · simpa [base, hcommand] using hbase
    · exact .idle (by simp [outstanding, hthrottler]) hflight hcommand
        hsubsFlag hunsubsFlag hnosubs hnounsubs
    · simp [Current]
  · rw [heq]
    refine ⟨⟨changes, hlive, ?_, hsubs, hunsubs⟩, ?_, hconnected, ?_⟩
    · simpa [base, Session.sendNext, Session.send, hcommand] using hbase
    · apply Mode.subs (session.msgNo + 1) ?_ rfl hcommand rfl hunsubsFlag
      simp [outstanding, Session.sendNext, Session.send, Session.nextCommand,
        hthrottler]
    · simp [Current]
  · rw [heq]
    refine ⟨⟨changes, hlive, ?_, hsubs, hunsubs⟩, ?_, hconnected, ?_⟩
    · simpa [base, Session.sendNext, Session.send, hcommand] using hbase
    · apply Mode.unsubs (session.msgNo + 1) ?_ rfl hcommand hsubsFlag rfl
      simp [outstanding, Session.sendNext, Session.send, Session.nextCommand,
        hthrottler]
    · simp [Current]

theorem Synchronized.completed {link : Link} (hsync : Synchronized link)
    {command : Command} (hout : link.outstanding = [command]) :
    Synchronized (link.completed command) := by
  obtain ⟨⟨changes, hlive, hbase, hsubs, hunsubs⟩, hmode, hconnected, -⟩ :=
    hsync
  cases hmode with
  | idle hnone => simp [hout] at hnone
  | single sent hsent hflight hcommand hsubsFlag hunsubsFlag =>
      obtain rfl : command = sent := by simpa [hout] using hsent
      have hexchange : command.apply link.exchange = changes.base := by
        simpa [base, hcommand] using hbase
      have hnext := synchronized_sendPending
        { link.session with
          throttler := [], inFlight := false, inFlightCommand := none }
        link.connection changes hlive hexchange hsubs hunsubs rfl rfl rfl
        hsubsFlag hunsubsFlag hconnected
      simpa [Link.completed, Session.onWrite, hcommand] using hnext
  | subs id hsent hflight hcommand hsubsFlag hunsubsFlag =>
      obtain rfl : command = _ := by simpa [hout] using hsent
      have hexchange : link.exchange ∪ link.session.pendingSubs =
          changes.commitAdditions.base := by
        have hbefore : link.exchange = changes.base := by
          simpa [base, hcommand] using hbase
        rw [hbefore, hsubs]
        rfl
      have hnext := synchronized_sendPending
        { link.session with
          throttler := [], inFlight := false
          pendingSubsInFlight := false, pendingSubs := ∅ }
        link.connection changes.commitAdditions (by simpa using hlive)
        hexchange rfl hunsubs rfl rfl hcommand rfl hunsubsFlag hconnected
      simpa [Link.completed, Session.onWrite, hcommand, hsubsFlag,
        Command.apply, Session.sendPendingUnsubs_eq_sendPending] using hnext
  | unsubs id hsent hflight hcommand hsubsFlag hunsubsFlag =>
      obtain rfl : command = _ := by simpa [hout] using hsent
      have hexchange : link.exchange \ link.session.pendingUnsubs =
          changes.commitRemovals.base := by
        have hbefore : link.exchange = changes.base := by
          simpa [base, hcommand] using hbase
        rw [hbefore, hunsubs]
        rfl
      have hnext := synchronized_sendPending
        { link.session with
          throttler := [], inFlight := false
          pendingUnsubsInFlight := false, pendingUnsubs := ∅ }
        link.connection changes.commitRemovals (by simpa using hlive)
        hexchange hsubs rfl rfl rfl hcommand hsubsFlag rfl hconnected
      simpa [Link.completed, Session.onWrite, hcommand, hsubsFlag,
        hunsubsFlag, Command.apply] using hnext

/-- Starting the write of the outstanding command. -/
theorem Synchronized.released {link : Link} (hsync : Synchronized link)
    {command : Command} (hout : link.outstanding = [command]) :
    Synchronized { link with
      session := { link.session with throttler := [] }
      writes := [(link.connection, command)] } := by
  obtain ⟨⟨changes, hlive, hbase, hsubs, hunsubs⟩, hmode, hconnected, -⟩ :=
    hsync
  refine ⟨⟨changes, hlive, hbase, hsubs, hunsubs⟩, ?_, hconnected,
    by simp [Current]⟩
  have hstarted : outstanding { link with
      session := { link.session with throttler := [] }
      writes := [(link.connection, command)] } = link.outstanding := by
    rw [hout]
    simp [outstanding]
  cases hmode with
  | idle hnone => simp [hout] at hnone
  | single sent hsent hflight hcommand hsubsFlag hunsubsFlag =>
      exact .single sent (hstarted.trans hsent) hflight hcommand hsubsFlag
        hunsubsFlag
  | subs id hsent hflight hcommand hsubsFlag hunsubsFlag =>
      exact .subs id (hstarted.trans hsent) hflight hcommand hsubsFlag
        hunsubsFlag
  | unsubs id hsent hflight hcommand hsubsFlag hunsubsFlag =>
      exact .unsubs id (hstarted.trans hsent) hflight hcommand hsubsFlag
        hunsubsFlag

theorem Synchronized.step_completes {link next : Link} {event : LinkEvent}
    (hsync : Synchronized link) (hevent : event.Completes)
    (hstep : link.step event = some next) : Synchronized next := by
  rcases hsync.drains.outstanding_cases with ⟨hout, -⟩ | ⟨command, hout, -⟩
  · simp [step_completes_of_idle hout hevent] at hstep
  · rcases Link.step_completes hsync.hcurrent hout hevent hstep with rfl | rfl
    · exact hsync.completed hout
    · exact hsync.released hout

/-! ## Calls that keep the batch keep the refinement -/

/-- The changes after a call that only edits the sets. -/
theorem Refines.subscribe {link : Link} {changes : PendingChanges String}
    (hrefines : Refines link changes) {stream : String}
    (hlive : stream ∉ link.session.liveSubscriptions)
    (hflight : link.session.inFlight = true) :
    ∃ next, Refines { link with
      session := link.session.subscribeOnStrand stream } next := by
  obtain ⟨hdesired, hbase, hsubs, hunsubs⟩ := hrefines
  have hwant : stream ∉ changes.desired := hdesired ▸ hlive
  refine ⟨changes.want stream hwant, ?_⟩
  rw [Session.subscribeOnStrand_of_inFlight _ hlive hflight]
  by_cases hpending : stream ∈ link.session.pendingUnsubs
  · have hremoved : stream ∈ changes.removals := hunsubs ▸ hpending
    refine ⟨?_, ?_, ?_, ?_⟩
    · simp [hpending, PendingChanges.desired_want, hdesired]
    · simp only [hpending, if_true, PendingChanges.want, hremoved, dif_pos]
      exact hbase
    · simpa [hpending, PendingChanges.want, hremoved] using hsubs
    · simp [PendingChanges.want, hremoved, hunsubs]
  · have hremoved : stream ∉ changes.removals := hunsubs ▸ hpending
    refine ⟨?_, ?_, ?_, ?_⟩
    · simp [hpending, PendingChanges.desired_want, hdesired]
    · simp only [hpending, if_false, PendingChanges.want, hremoved, dif_neg,
        not_false_eq_true]
      exact hbase
    · simp [hpending, PendingChanges.want, hremoved, hsubs]
    · simpa [hpending, PendingChanges.want, hremoved] using hunsubs

theorem Refines.unsubscribe {link : Link} {changes : PendingChanges String}
    (hrefines : Refines link changes) {stream : String}
    (hlive : stream ∈ link.session.liveSubscriptions)
    (hflight : link.session.inFlight = true) :
    ∃ next, Refines { link with
      session := link.session.unsubscribeOnStrand stream } next := by
  obtain ⟨hdesired, hbase, hsubs, hunsubs⟩ := hrefines
  have hwant : stream ∈ changes.desired := hdesired ▸ hlive
  refine ⟨changes.unwant stream hwant, ?_⟩
  rw [Session.unsubscribeOnStrand_of_inFlight _ hlive hflight]
  by_cases hpending : stream ∈ link.session.pendingSubs
  · have hadded : stream ∈ changes.additions := hsubs ▸ hpending
    refine ⟨?_, ?_, ?_, ?_⟩
    · simp [hpending, PendingChanges.desired_unwant, hdesired]
    · simp only [hpending, if_true, PendingChanges.unwant, hadded, dif_pos]
      exact hbase
    · simp [PendingChanges.unwant, hadded, hsubs]
    · simpa [hpending, PendingChanges.unwant, hadded] using hunsubs
  · have hadded : stream ∉ changes.additions := hsubs ▸ hpending
    refine ⟨?_, ?_, ?_, ?_⟩
    · simp [hpending, PendingChanges.desired_unwant, hdesired]
    · simp only [hpending, if_false, PendingChanges.unwant, hadded, dif_neg,
        not_false_eq_true]
      exact hbase
    · simpa [hpending, PendingChanges.unwant, hadded] using hsubs
    · simp [hpending, PendingChanges.unwant, hadded, hunsubs]

/-- Editing the sets on the side of what is on its way. -/
theorem Mode.edit {link : Link} (hmode : Mode link)
    (hflight : link.session.inFlight = true) (live subs unsubs : Finset String)
    (hsubs : link.session.pendingSubsInFlight = true →
      subs = link.session.pendingSubs)
    (hunsubs : link.session.pendingUnsubsInFlight = true →
      unsubs = link.session.pendingUnsubs) :
    Mode { link with session := { link.session with
      liveSubscriptions := live
      pendingSubs := subs
      pendingUnsubs := unsubs } } := by
  cases hmode with
  | idle _ hidle => simp [hflight] at hidle
  | single command hout _ hcommand hsubsFlag hunsubsFlag =>
      exact .single command hout hflight hcommand hsubsFlag hunsubsFlag
  | subs id hout _ hcommand hsubsFlag hunsubsFlag =>
      obtain rfl := hsubs hsubsFlag
      exact .subs id hout hflight hcommand hsubsFlag hunsubsFlag
  | unsubs id hout _ hcommand hsubsFlag hunsubsFlag =>
      obtain rfl := hunsubs hunsubsFlag
      exact .unsubs id hout hflight hcommand hsubsFlag hunsubsFlag

theorem Synchronized.subscribe_of_inFlight {link : Link}
    (hsync : Synchronized link) {stream : String}
    (hlive : stream ∉ link.session.liveSubscriptions)
    (hflight : link.session.inFlight = true)
    (hsubs : link.session.pendingSubsInFlight = true →
      stream ∈ link.session.pendingUnsubs)
    (hunsubs : link.session.pendingUnsubsInFlight = true →
      stream ∉ link.session.pendingUnsubs) :
    Synchronized { link with
      session := link.session.subscribeOnStrand stream } := by
  obtain ⟨⟨changes, hrefines⟩, hmode, hconnected, hcurrent⟩ := hsync
  refine ⟨hrefines.subscribe hlive hflight, ?_, ?_, hcurrent⟩
  · rw [Session.subscribeOnStrand_of_inFlight _ hlive hflight]
    split
    · next hpending =>
        exact hmode.edit hflight _ _ _ (fun _ => rfl)
          (fun hflag => absurd hpending (hunsubs hflag))
    · next hpending =>
        exact hmode.edit hflight _ _ _
          (fun hflag => absurd (hsubs hflag) hpending) (fun _ => rfl)
  · rw [Session.subscribeOnStrand_of_inFlight _ hlive hflight]
    split <;> exact hconnected

theorem Synchronized.unsubscribe_of_inFlight {link : Link}
    (hsync : Synchronized link) {stream : String}
    (hlive : stream ∈ link.session.liveSubscriptions)
    (hflight : link.session.inFlight = true)
    (hsubs : link.session.pendingSubsInFlight = true →
      stream ∉ link.session.pendingSubs)
    (hunsubs : link.session.pendingUnsubsInFlight = true →
      stream ∈ link.session.pendingSubs) :
    Synchronized { link with
      session := link.session.unsubscribeOnStrand stream } := by
  obtain ⟨⟨changes, hrefines⟩, hmode, hconnected, hcurrent⟩ := hsync
  refine ⟨hrefines.unsubscribe hlive hflight, ?_, ?_, hcurrent⟩
  · rw [Session.unsubscribeOnStrand_of_inFlight _ hlive hflight]
    split
    · next hpending =>
        exact hmode.edit hflight _ _ _
          (fun hflag => absurd hpending (hsubs hflag)) (fun _ => rfl)
    · next hpending =>
        exact hmode.edit hflight _ _ _ (fun _ => rfl)
          (fun hflag => absurd (hunsubs hflag) hpending)
  · rw [Session.unsubscribeOnStrand_of_inFlight _ hlive hflight]
    split <;> exact hconnected

/-- On an idle connection the call's command is the one on its way. -/
theorem Synchronized.sendSingle {link : Link} (hsync : Synchronized link)
    (hflight : link.session.inFlight = false) (method : Method)
    (stream : String) :
    Synchronized { link with session := { link.session with
      liveSubscriptions :=
        (⟨method, 0, [stream]⟩ : Command).apply
          link.session.liveSubscriptions }.sendSingle method stream } := by
  obtain ⟨⟨changes, hlive, hbase, hsubs, hunsubs⟩, hmode, hconnected,
    hcurrent⟩ := hsync
  cases hmode with
  | idle hout _ hcommand hsubsFlag hunsubsFlag hnosubs hnounsubs =>
      have hexchange : link.exchange = link.session.liveSubscriptions := by
        rw [hlive, PendingChanges.desired_eq_base (hsubs ▸ hnosubs)
          (hunsubs ▸ hnounsubs), ← hbase]
        simp [base, hcommand]
      refine ⟨⟨.settled _, (PendingChanges.desired_settled _).symm, ?_,
        hnosubs, hnounsubs⟩, ?_, hconnected, hcurrent⟩
      · simp only [base, Session.sendSingle, Session.send,
          Session.nextCommand, PendingChanges.settled]
        rw [hexchange]
        rfl
      · refine .single (link.session.nextCommand method [stream]) ?_ rfl rfl
          hsubsFlag hunsubsFlag
        have hnone : link.writes = [] ∧ link.session.throttler = [] := by
          simpa [outstanding] using hout
        simp [outstanding, Session.sendSingle, Session.send,
          Session.nextCommand, hnone]
  | single _ _ htrue => simp [hflight] at htrue
  | subs _ _ htrue => simp [hflight] at htrue
  | unsubs _ _ htrue => simp [hflight] at htrue

theorem Synchronized.call {link : Link} (hsync : Synchronized link)
    {call : Call} (hkeeps : KeepsBatch link (.call call)) :
    Synchronized { link with session := call.onStrand link.session } := by
  rw [Call.onStrand_eq]
  cases hmethod : call.method with
  | subscribe =>
      simp only [KeepsBatch, hmethod] at hkeeps
      by_cases hlive : call.stream ∈ link.session.liveSubscriptions
      · rw [Session.subscribeOnStrand_of_mem _ hlive]
        exact hsync
      · cases hflight : link.session.inFlight with
        | true =>
            exact hsync.subscribe_of_inFlight hlive hflight (hkeeps hlive).1
              (hkeeps hlive).2
        | false =>
            have hsent := hsync.sendSingle hflight .subscribe call.stream
            simp only [Command.apply, List.toFinset_cons, List.toFinset_nil,
              insert_empty_eq, Finset.union_singleton] at hsent
            simpa only [Session.subscribeOnStrand_of_idle _ hlive hflight
              hsync.hconnected] using hsent
  | unsubscribe =>
      simp only [KeepsBatch, hmethod] at hkeeps
      by_cases hlive : call.stream ∈ link.session.liveSubscriptions
      · cases hflight : link.session.inFlight with
        | true =>
            exact hsync.unsubscribe_of_inFlight hlive hflight (hkeeps hlive).1
              (hkeeps hlive).2
        | false =>
            have hsent := hsync.sendSingle hflight .unsubscribe call.stream
            simp only [Command.apply, List.toFinset_cons, List.toFinset_nil,
              insert_empty_eq, Finset.sdiff_singleton_eq_erase] at hsent
            simpa only [Session.unsubscribeOnStrand_of_idle _ hlive hflight
              hsync.hconnected] using hsent
      · rw [Session.unsubscribeOnStrand_of_not_mem _ hlive]
        exact hsync

theorem Synchronized.step {link next : Link} {event : LinkEvent}
    (hsync : Synchronized link) (hevent : event.OnConnection)
    (hkeeps : KeepsBatch link event) (hstep : link.step event = some next) :
    Synchronized next := by
  cases event with
  | call call =>
      obtain rfl := Option.some.inj hstep
      exact hsync.call hkeeps
  | release =>
      have hcompletes : LinkEvent.release.Completes := trivial
      exact hsync.step_completes hcompletes hstep
  | written =>
      have hcompletes : LinkEvent.written.Completes := trivial
      exact hsync.step_completes hcompletes hstep
  | writeFailed | error | handshake => exact absurd hevent id

/-! ## Any other call breaks the agreement -/

theorem Synchronized.inFlight_of_flag {link : Link} (hsync : Synchronized link)
    (hflag : link.session.pendingSubsInFlight = true ∨
      link.session.pendingUnsubsInFlight = true) :
    link.session.inFlight = true := by
  cases hsync.hmode with
  | idle _ _ _ hnoSubs hnoUnsubs => simp [hnoSubs, hnoUnsubs] at hflag
  | single _ _ hflight => exact hflight
  | subs _ _ hflight => exact hflight
  | unsubs _ _ hflight => exact hflight

/-- At most one of the two batches is on its way. -/
theorem Synchronized.flags_exclusive {link : Link} (hsync : Synchronized link)
    (hsubsFlag : link.session.pendingSubsInFlight = true) :
    link.session.pendingUnsubsInFlight = false := by
  cases hsync.hmode with
  | idle _ _ _ hnoSubs => simp [hnoSubs] at hsubsFlag
  | single _ _ _ _ hnoSubs => simp [hnoSubs] at hsubsFlag
  | subs _ _ _ _ _ hnoUnsubs => exact hnoUnsubs
  | unsubs _ _ _ _ hnoSubs => simp [hnoSubs] at hsubsFlag

/-- Editing the set whose batch is on its way does not change where the link
drains to. -/
theorem Synchronized.drains_edit {link : Link} (hsync : Synchronized link)
    (hflag : link.session.pendingSubsInFlight = true ∨
      link.session.pendingUnsubsInFlight = true)
    (live subs unsubs : Finset String)
    (hunsubs : link.session.pendingSubsInFlight = true →
      unsubs = link.session.pendingUnsubs)
    (hsubs : link.session.pendingUnsubsInFlight = true →
      subs = link.session.pendingSubs) :
    Drains { link with session := { link.session with
        liveSubscriptions := live
        pendingSubs := subs
        pendingUnsubs := unsubs } }
      link.session.liveSubscriptions := by
  have hdrains := hsync.drains
  cases hdrains with
  | idle hout hflight =>
      cases hsync.hmode with
      | idle _ _ _ hnoSubs hnoUnsubs => simp [hnoSubs, hnoUnsubs] at hflag
      | single _ _ htrue => simp [hflight] at htrue
      | subs _ _ htrue => simp [hflight] at htrue
      | unsubs _ _ htrue => simp [hflight] at htrue
  | single command hout hflight hcommand =>
      cases hsync.hmode with
      | idle _ hfalse => simp [hflight] at hfalse
      | single _ _ _ _ hnoSubs hnoUnsubs => simp [hnoSubs, hnoUnsubs] at hflag
      | subs _ _ _ hnone => simp [hcommand] at hnone
      | unsubs _ _ _ hnone => simp [hcommand] at hnone
  | subs command hout hflight hcommand hsubsFlag htarget =>
      obtain rfl := hunsubs hsubsFlag
      exact .subs command hout hflight hcommand hsubsFlag htarget
  | unsubs command hout hflight hcommand hsubsFlag hunsubsFlag htarget =>
      obtain rfl := hsubs hunsubsFlag
      exact .unsubs command hout hflight hcommand hsubsFlag hunsubsFlag htarget

/-- The link still drains to the live set of before the call. -/
theorem Synchronized.drains_of_not_keepsBatch {link : Link}
    (hsync : Synchronized link) {call : Call}
    (hbreaks : ¬ KeepsBatch link (.call call)) :
    Drains { link with session := call.onStrand link.session }
        link.session.liveSubscriptions ∧
      (call.onStrand link.session).liveSubscriptions ≠
        link.session.liveSubscriptions := by
  have hexclusive := hsync.flags_exclusive
  rw [Call.onStrand_eq]
  cases hmethod : call.method with
  | subscribe =>
      simp only [KeepsBatch, hmethod] at hbreaks
      obtain ⟨hlive, hbroken⟩ := Classical.not_imp.mp hbreaks
      have hflag : link.session.pendingSubsInFlight = true ∨
          link.session.pendingUnsubsInFlight = true := by tauto
      have hflight := hsync.inFlight_of_flag hflag
      rw [Session.subscribeOnStrand_of_inFlight _ hlive hflight]
      by_cases hpending : call.stream ∈ link.session.pendingUnsubs
      · have hunsubsFlag : link.session.pendingUnsubsInFlight = true := by tauto
        have hnoSubs : link.session.pendingSubsInFlight ≠ true := by
          intro hsubsFlag
          simp [hexclusive hsubsFlag] at hunsubsFlag
        rw [if_pos hpending]
        exact ⟨hsync.drains_edit hflag _ _ _ (fun htrue => absurd htrue hnoSubs)
          (fun _ => rfl), by simpa using hlive⟩
      · have hsubsFlag : link.session.pendingSubsInFlight = true := by tauto
        have hnoUnsubs : link.session.pendingUnsubsInFlight ≠ true := by
          simp [hexclusive hsubsFlag]
        rw [if_neg hpending]
        exact ⟨hsync.drains_edit hflag _ _ _ (fun _ => rfl)
          (fun htrue => absurd htrue hnoUnsubs), by simpa using hlive⟩
  | unsubscribe =>
      simp only [KeepsBatch, hmethod] at hbreaks
      obtain ⟨hlive, hbroken⟩ := Classical.not_imp.mp hbreaks
      have hflag : link.session.pendingSubsInFlight = true ∨
          link.session.pendingUnsubsInFlight = true := by tauto
      have hflight := hsync.inFlight_of_flag hflag
      rw [Session.unsubscribeOnStrand_of_inFlight _ hlive hflight]
      by_cases hpending : call.stream ∈ link.session.pendingSubs
      · have hsubsFlag : link.session.pendingSubsInFlight = true := by tauto
        have hnoUnsubs : link.session.pendingUnsubsInFlight ≠ true := by
          simp [hexclusive hsubsFlag]
        rw [if_pos hpending]
        exact ⟨hsync.drains_edit hflag _ _ _ (fun _ => rfl)
          (fun htrue => absurd htrue hnoUnsubs), by simpa using hlive⟩
      · have hunsubsFlag : link.session.pendingUnsubsInFlight = true := by tauto
        have hnoSubs : link.session.pendingSubsInFlight ≠ true := by
          intro hsubsFlag
          simp [hexclusive hsubsFlag] at hunsubsFlag
        rw [if_neg hpending]
        exact ⟨hsync.drains_edit hflag _ _ _ (fun htrue => absurd htrue hnoSubs)
          (fun _ => rfl), by simpa using hlive⟩

theorem Synchronized.not_agreesWhenIdle {link next : Link} {event : LinkEvent}
    (hsync : Synchronized link) (hbreaks : ¬ KeepsBatch link event)
    (hstep : link.step event = some next) : ¬ AgreesWhenIdle next := by
  cases event with
  | call call =>
      obtain rfl := Option.some.inj hstep
      obtain ⟨hdrains, hchanged⟩ := hsync.drains_of_not_keepsBatch hbreaks
      have hcurrent : Current { link with
          session := call.onStrand link.session } := hsync.hcurrent
      intro hagrees
      obtain ⟨events, finish, hevents, hrun, hflight⟩ :=
        hdrains.exists_drained hcurrent
      have hlive := run_completes_liveSubscriptions hevents hrun
      have hexchange := hdrains.exchange_eq hcurrent hevents hrun hflight
      have heq := hagrees events finish hevents hrun hflight
      exact hchanged (hlive.symm.trans (heq.symm.trans hexchange))
  | release | written | writeFailed | error | handshake =>
      exact absurd trivial hbreaks

/-- On one connection the exchange and the live set agree at every idle moment
exactly when no call edits the set whose batch is on its way. -/
theorem agreesWhenIdle_iff_keepsBatch (msgNo : ℤ) (events : List LinkEvent)
    (finish : Link)
    (hconnection : ∀ event ∈ events, LinkEvent.OnConnection event)
    (hrun : Runs.run Link.step (handshaken msgNo) events = some finish) :
    Runs.EveryStep Link.step KeepsBatch (handshaken msgNo) events ↔
      ∀ initial, initial <+: events → ∀ link,
        Runs.run Link.step (handshaken msgNo) initial = some link →
        AgreesWhenIdle link :=
  Runs.everyStep_iff_forall_good Synchronized AgreesWhenIdle
    (fun _ hsync => hsync.agreesWhenIdle)
    (fun _ _ _ hsync hevent hkeeps hstep => hsync.step hevent hkeeps hstep)
    (fun _ _ _ hsync _ hbreaks hstep => hsync.not_agreesWhenIdle hbreaks hstep)
    (synchronized_handshaken msgNo)
    (Runs.everyStep_of_forall _ hconnection) hrun

theorem agreesWhenIdle_iff_keepsBatch_of_two_calls :
    Runs.EveryStep Link.step KeepsBatch (handshaken 0)
        [.call (.subscribeTrade "btcusdt"), .call (.unsubscribeTrade "btcusdt"),
          .release, .written, .release, .written] ↔
      ∀ initial, initial <+:
          [.call (.subscribeTrade "btcusdt"),
            .call (.unsubscribeTrade "btcusdt"), .release, .written, .release,
            .written] →
        ∀ link, Runs.run Link.step (handshaken 0) initial = some link →
          AgreesWhenIdle link :=
  agreesWhenIdle_iff_keepsBatch 0 _ _ (by simp [LinkEvent.OnConnection]) rfl

/-- A subscription that cancels against the UNSUBSCRIBE batch on its way. -/
theorem subscription_lost_to_batch :
    ∃ finish, Runs.run Link.step (handshaken 0)
        [.call (.subscribeTrade "btcusdt"), .call (.unsubscribeTrade "btcusdt"),
          .release, .written, .call (.subscribeTrade "btcusdt"), .release,
          .written] = some finish ∧
      finish.session.inFlight = false ∧
      finish.session.liveSubscriptions = {"btcusdt@trade"} ∧
      finish.exchange = ∅ := by
  refine ⟨_, rfl, rfl, rfl, ?_⟩
  change (∅ ∪ {"btcusdt@trade"}) \
    (Finset.sort {"btcusdt@trade"} (· ≤ ·)).toFinset = (∅ : Finset String)
  rw [Session.toFinset_sort_streams]
  rfl

end MultiMarketPrices.WebSockets.ExchangeAgreement
