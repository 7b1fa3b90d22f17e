import MultiMarketPrices.WebSockets.Connectivity
import MultiMarketPrices.WebSockets.Reconnect

/-!
# One write at a time

A command stays outstanding from `send` until its `on_write` has run.  An error
resets `m_inFlight` and leaves the command where it is, in the throttler or on
the wire, so that a handshake that comes before its completion sends a second
one.  Each outstanding command is tracked here with the connection it was
handed to `send` on.
-/

namespace MultiMarketPrices.WebSockets

/-- The events that complete a write. -/
def LinkEvent.CompletesWrite : LinkEvent → Prop
  | written | writeFailed _ => True
  | _ => False

instance : DecidablePred LinkEvent.CompletesWrite
  | .written | .writeFailed _ => .isTrue trivial
  | .call _ | .release | .error _ _ | .handshake => .isFalse id

/-- A link with the connection on which each outstanding command was sent, oldest
first. -/
structure Tracked where
  link : Link
  sentOn : List ℕ

namespace Tracked

def start (msgNo : ℤ) : Tracked := ⟨.start msgNo, []⟩

/-- The oldest outstanding command is the one that completes, and new commands
are sent on the connection that the event leaves behind. -/
def step (tracked : Tracked) (event : LinkEvent) : Option Tracked :=
  (tracked.link.step event).map fun next =>
    let kept :=
      if event.CompletesWrite then tracked.sentOn.tail else tracked.sentOn
    { link := next
      sentOn := kept ++
        List.replicate (next.outstanding.length - kept.length)
          next.connection }

/-- At most one command is outstanding, and on a live connection it was sent
there and is what `m_inFlight` stands for. -/
def OneWrite (tracked : Tracked) : Prop :=
  tracked.link.outstanding.length ≤ 1 ∧
    (tracked.link.session.connected = true →
      (tracked.link.session.inFlight = true ↔
        tracked.link.outstanding ≠ []) ∧
      ∀ connection ∈ tracked.sentOn, connection = tracked.link.connection)

/-- No handshake succeeds while a command is outstanding. -/
def Settled (tracked : Tracked) (event : LinkEvent) : Prop :=
  event = .handshake → tracked.link.outstanding = []

/-! ## The invariant -/

structure Single (tracked : Tracked) : Prop where
  hlength : tracked.link.outstanding.length ≤ 1
  hidle : tracked.link.outstanding = [] →
    tracked.link.session.inFlight = false
  hbusy : tracked.link.session.connected = true →
    tracked.link.outstanding ≠ [] → tracked.link.session.inFlight = true
  hcount : tracked.sentOn.length = tracked.link.outstanding.length
  hsentOn : ∀ connection ∈ tracked.sentOn,
    connection = tracked.link.connection

theorem Single.oneWrite {tracked : Tracked} (hsingle : tracked.Single) :
    tracked.OneWrite := by
  refine ⟨hsingle.hlength, fun hconnected => ⟨?_, hsingle.hsentOn⟩⟩
  constructor
  · intro hflight hnone
    simp [hsingle.hidle hnone] at hflight
  · exact hsingle.hbusy hconnected

theorem single_start (msgNo : ℤ) : (start msgNo).Single where
  hlength := by simp [start, Link.start, Link.outstanding, Session.init]
  hidle _ := rfl
  hbusy hconnected := by simp [start, Link.start, Session.init] at hconnected
  hcount := rfl
  hsentOn := by simp [start]

/-- A link still has the commands `kept`, or has sent one when there was
none. -/
inductive Sent (kept : List Command) (link : Link) : Prop
  | nothing (hout : link.outstanding = kept)
      (hidle : kept = [] → link.session.inFlight = false)
      (hbusy : link.session.connected = true → kept ≠ [] →
        link.session.inFlight = true)
  | one (command : Command) (hkept : kept = [])
      (hout : link.outstanding = [command])
      (hflight : link.session.inFlight = true)

theorem Sent.single {link : Link} {kept : List Command} {tags : List ℕ}
    (hsent : Sent kept link) (hlength : kept.length ≤ 1)
    (hcount : tags.length = kept.length)
    (htags : ∀ connection ∈ tags, connection = link.connection) :
    Single ⟨link, tags ++ List.replicate
      (link.outstanding.length - tags.length) link.connection⟩ := by
  cases hsent with
  | nothing hout hidle hbusy =>
      have hnone : link.outstanding.length - tags.length = 0 := by
        rw [hout, hcount, Nat.sub_self]
      rw [hnone, List.replicate_zero, List.append_nil]
      rw [← hout] at hidle hbusy hlength hcount
      exact ⟨hlength, hidle, hbusy, hcount, htags⟩
  | one command hkept hout hflight =>
      obtain rfl : tags = [] := by simpa [hkept] using hcount
      exact ⟨by simp [hout], by simp [hout], fun _ _ => hflight,
        by simp [hout], by simp [hout]⟩

/-- What a handler sends when nothing is outstanding. -/
theorem sent_of_sends {link : Link} (hwrites : link.writes = [])
    (hsends : Session.Sends [] false link.session) : Sent [] link := by
  cases hsends with
  | nothing hthrottler hflight =>
      exact .nothing (by simp [Link.outstanding, hwrites, hthrottler])
        (fun _ => hflight) (fun _ hsome => absurd rfl hsome)
  | one command hthrottler hflight =>
      exact .one command rfl
        (by simp [Link.outstanding, hwrites, hthrottler]) hflight

variable {tracked next : Tracked} {event : LinkEvent}

theorem Single.nil_of_idle (hsingle : tracked.Single)
    (hconnected : tracked.link.session.connected = true)
    (hidle : tracked.link.session.inFlight = false) :
    tracked.link.outstanding = [] := by
  by_contra hsome
  simp [hsingle.hbusy hconnected hsome] at hidle

/-- The commands that an event leaves outstanding, of those there were. -/
def kept (tracked : Tracked) (event : LinkEvent) : List Command :=
  if event.CompletesWrite then tracked.link.outstanding.tail
  else tracked.link.outstanding

/-- An event that leaves the outstanding commands and the flags alone. -/
theorem Single.sent_of_same (hsingle : tracked.Single) {link : Link}
    (hout : link.outstanding = tracked.link.outstanding)
    (hflight : link.session.inFlight = tracked.link.session.inFlight)
    (hconnected : link.session.connected = tracked.link.session.connected) :
    Sent tracked.link.outstanding link :=
  .nothing hout (fun hnone => hflight.trans (hsingle.hidle hnone))
    (fun hlive hsome =>
      hflight.trans (hsingle.hbusy (hconnected.symm.trans hlive) hsome))

/-- The one outstanding command was the one that completed. -/
theorem Single.nil_of_writes (hsingle : tracked.Single) {write : ℕ × Command}
    {rest : List (ℕ × Command)} (hwrites : tracked.link.writes = write :: rest) :
    rest = [] ∧ tracked.link.session.throttler = [] := by
  have hlength := hsingle.hlength
  rw [Link.outstanding, hwrites] at hlength
  simpa using hlength

theorem Single.sent_of_call (hsingle : tracked.Single) (call : Call) :
    Sent tracked.link.outstanding
      { tracked.link with session := call.onStrand tracked.link.session } := by
  rcases tracked.link.session.sends_onStrand call with
    ⟨hthrottler, hflight⟩ | ⟨hconnected, hidle, hsends⟩
  · apply hsingle.sent_of_same
    · simp [Link.outstanding, hthrottler]
    · exact hflight
    · exact congrArg Prod.fst
        (tracked.link.session.onStrand_connectivity call)
  · have hnone := hsingle.nil_of_idle hconnected hidle
    obtain ⟨hwrites, hthrottler⟩ : tracked.link.writes = [] ∧
        tracked.link.session.throttler = [] := by
      simpa [Link.outstanding] using hnone
    rw [hthrottler, hidle] at hsends
    rw [hnone]
    exact sent_of_sends hwrites hsends

theorem Single.sent_of_error (hsingle : tracked.Single) (ec : ErrorCode)
    (origin : ErrorOrigin) :
    Sent tracked.link.outstanding { tracked.link with
      session := (tracked.link.session.onError ec origin).session } := by
  rcases tracked.link.session.onError_cases ec origin with heq | heq | heq
  · rw [heq]
    exact hsingle.sent_of_same rfl rfl rfl
  · rw [heq]
    exact .nothing rfl (fun _ => rfl) (fun hconnected => by simp at hconnected)
  · rw [heq]
    exact hsingle.sent_of_same rfl rfl rfl

/-- A handshake with nothing outstanding. -/
theorem sent_of_handshake {link : Link} (hout : link.outstanding = [])
    (hidle : link.session.inFlight = false) :
    Sent [] { link with
      session := (link.session.onHandshake none).session
      connection := link.connection + 1
      exchange := ∅ } := by
  obtain ⟨hwrites, hthrottler⟩ : link.writes = [] ∧
      link.session.throttler = [] := by simpa [Link.outstanding] using hout
  refine sent_of_sends hwrites ?_
  simp only [Session.onHandshake_none]
  cases link.session.inFlightCommand with
  | some command =>
      refine .one command ?_ rfl
      simp [Session.send, Session.reconciled, hthrottler]
  | none =>
      have hsends := link.session.reconciled.sends_sendPending
      have hbefore : link.session.reconciled.throttler = [] := hthrottler
      have hflight : link.session.reconciled.inFlight = false := hidle
      rwa [hbefore, hflight] at hsends

/-- What an event sends, when a handshake waits for the outstanding command. -/
theorem Single.sent (hsingle : tracked.Single)
    (hsettled : tracked.Settled event) {link : Link}
    (hstep : tracked.link.step event = some link) :
    Sent (tracked.kept event) link := by
  cases Link.stepped_of_step hstep with
  | call call => exact hsingle.sent_of_call call
  | release command rest hthrottler =>
      apply hsingle.sent_of_same
      · simp [Link.outstanding, hthrottler]
      · rfl
      · rfl
  | written connection command rest hwrites =>
      obtain ⟨rfl, hthrottler⟩ := hsingle.nil_of_writes hwrites
      have hsends := tracked.link.session.sends_onWrite none
      have hkept : tracked.kept .written = [] := by
        simp [kept, LinkEvent.CompletesWrite, Link.outstanding, hwrites,
          hthrottler]
      rw [hthrottler] at hsends
      rw [hkept]
      exact sent_of_sends rfl hsends
  | writeFailed ec write rest hwrites =>
      obtain ⟨rfl, hthrottler⟩ := hsingle.nil_of_writes hwrites
      have hsends := tracked.link.session.sends_onWrite (some ec)
      have hkept : tracked.kept (.writeFailed ec) = [] := by
        simp [kept, LinkEvent.CompletesWrite, Link.outstanding, hwrites,
          hthrottler]
      rw [hthrottler] at hsends
      rw [hkept]
      exact sent_of_sends rfl hsends
  | error ec origin => exact hsingle.sent_of_error ec origin
  | handshake =>
      have hout := hsettled rfl
      have hkept : tracked.kept .handshake = [] := by
        simp [kept, LinkEvent.CompletesWrite, hout]
      rw [hkept]
      exact sent_of_handshake hout (hsingle.hidle hout)

theorem Single.step (hsingle : tracked.Single)
    (hsettled : tracked.Settled event)
    (hstep : tracked.step event = some next) : next.Single := by
  obtain ⟨link, hlink, rfl⟩ := Option.map_eq_some_iff.mp hstep
  have hconnection : ∀ connection ∈ tracked.sentOn,
      connection = link.connection := by
    cases Link.stepped_of_step hlink with
    | call | release | written | writeFailed | error => exact hsingle.hsentOn
    | handshake =>
        have hnone : tracked.sentOn = [] := by
          simpa [hsettled rfl] using hsingle.hcount
        simp [hnone]
  refine (hsingle.sent hsettled hlink).single ?_ ?_ ?_
  · rw [kept]
    split
    · rw [List.length_tail]
      exact (Nat.sub_le _ _).trans hsingle.hlength
    · exact hsingle.hlength
  · rw [kept]
    split
    · rw [List.length_tail, List.length_tail, hsingle.hcount]
    · exact hsingle.hcount
  · split
    · exact fun connection hmem =>
        hconnection connection (List.mem_of_mem_tail hmem)
    · exact hconnection

/-- A command that is outstanding at a handshake belongs to an earlier
connection. -/
theorem Single.not_oneWrite_of_handshake (hsingle : tracked.Single)
    (hsettled : ¬ tracked.Settled event)
    (hstep : tracked.step event = some next) : ¬ next.OneWrite := by
  obtain ⟨rfl, hout⟩ := Classical.not_imp.mp hsettled
  obtain ⟨link, hlink, rfl⟩ := Option.map_eq_some_iff.mp hstep
  have hsome : tracked.sentOn ≠ [] := by
    rw [← List.length_pos_iff, hsingle.hcount, List.length_pos_iff]
    exact hout
  obtain ⟨connection, hmem⟩ := List.exists_mem_of_ne_nil _ hsome
  have hold := hsingle.hsentOn connection hmem
  cases Link.stepped_of_step hlink with
  | handshake =>
      rintro ⟨-, hlive⟩
      have hconnected :
          (tracked.link.session.onHandshake none).session.connected = true :=
        congrArg Prod.fst tracked.link.session.onHandshake_connectivity
      have hnew := (hlive hconnected).2 connection
        (List.mem_append_left _ (by
          simpa [LinkEvent.CompletesWrite] using hmem))
      have hnew : connection = tracked.link.connection + 1 := hnew
      omega

/-- Throughout a run at most one command is outstanding, and while connected it
is the one that `m_inFlight` stands for and was sent on that connection, exactly
when no handshake succeeds while a command is outstanding. -/
theorem oneWrite_iff_settled (msgNo : ℤ) (events : List LinkEvent)
    (finish : Tracked)
    (hrun : Runs.run step (start msgNo) events = some finish) :
    Runs.EveryStep step Settled (start msgNo) events ↔
      ∀ initial, initial <+: events → ∀ tracked,
        Runs.run step (start msgNo) initial = some tracked →
        tracked.OneWrite :=
  Runs.everyStep_iff_forall_good Single OneWrite
    (fun _ hsingle => hsingle.oneWrite)
    (fun _ _ _ hsingle _ hsettled hstep => hsingle.step hsettled hstep)
    (fun _ _ _ hsingle _ hsettled hstep =>
      hsingle.not_oneWrite_of_handshake hsettled hstep)
    (single_start msgNo) (Runs.everyStep_of_forall _ fun _ _ => trivial) hrun

/-- A connection that drops after the write of its command was completed. -/
def droppedIdle : List LinkEvent :=
  [.handshake, .call (.subscribeTrade "btcusdt"), .release, .written,
    .error (.other 0) .read, .handshake]

theorem oneWrite_iff_settled_of_droppedIdle :
    Runs.EveryStep step Settled (start 0) droppedIdle ↔
      ∀ initial, initial <+: droppedIdle → ∀ tracked,
        Runs.run step (start 0) initial = some tracked →
        tracked.OneWrite := by
  have hrun : ∃ finish,
      Runs.run step (start 0) droppedIdle = some finish := by
    simp only [droppedIdle, Runs.run_cons, step, Reconnect.step_handshake]
    exact ⟨_, rfl⟩
  obtain ⟨finish, hrun⟩ := hrun
  exact oneWrite_iff_settled 0 droppedIdle finish hrun

/-- A connection that drops while its command waits in the throttler. -/
theorem second_write_after_reconnect :
    ∃ tracked, Runs.run step (start 0)
        [.handshake, .call (.subscribeTrade "btcusdt"),
          .error (.other 0) .read, .handshake] = some tracked ∧
      tracked.link.outstanding.length = 2 ∧ ¬ tracked.OneWrite := by
  simp only [Runs.run_cons, step, Reconnect.step_handshake]
  exact ⟨_, rfl, rfl, fun hone => absurd hone.1 (by decide)⟩

end Tracked

end MultiMarketPrices.WebSockets
