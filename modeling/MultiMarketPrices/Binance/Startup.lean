import MultiMarketPrices.Binance.Status
import MultiMarketPrices.RestApi.Invocations

/-!
# What ends the gateway

`launchRestClient` connects to the exchange and asks for the instrument list,
the list makes the session, and the session's first connection starts the
middleware.  An error stops the process in its own part of the start, and never
once the session has been connected.  What the exchange sends ends it at any
time, since nothing catches an exception of a callback: the answer to a request
for trades does so whatever it is.
-/

namespace MultiMarketPrices.Binance

open PlatformComm WebSockets RestApi

namespace Process

/-- The answer is an error, or does not list instruments. -/
def NoInstruments (invocation : Invocation) : Prop :=
  invocation.ec ≠ none ∨
    ∃ thrown, instrumentIds invocation.result = .error thrown

/-- The events that fail the start, each in its own part of it. -/
inductive FailsStart (parse : String → Except Thrown Json)
    (process : Process) : ProcessEvent → Prop
  | connecting (event : ClientEvent) (outcome : RestApi.Outcome)
      (ec : RestApi.ErrorCode) (hstarting : process.restConnectedOnce = false)
      (hmoved : process.rest.client.step parse event = some outcome)
      (hready : some ec ∈ outcome.ready) :
      FailsStart parse process (.rest event)
  | fetching (event : ClientEvent) (outcome : RestApi.Outcome)
      (invocation : Invocation) (hstarting : process.link = none)
      (hmoved : process.rest.client.step parse event = some outcome)
      (hmem : invocation ∈ outcome.invocations)
      (hticket : process.instrumentList = some invocation.request.ticket)
      (hnone : NoInstruments invocation) :
      FailsStart parse process (.rest event)
  | launching (event : LinkEvent) (link : Link) (ec : WebSockets.ErrorCode)
      (hstarting : process.wsConnectedOnce = false)
      (hlink : process.link = some link)
      (hready : some ec ∈ link.ready event) :
      FailsStart parse process (.socket event)

/-- The events whose handlers throw: an answer that is no depth to a request for
a snapshot, any answer at all if it is for trades, or an ill-typed payload. -/
inductive Throws (parse : String → Except Thrown Json) (process : Process) :
    ProcessEvent → Prop
  | snapshot (stream : ℕ) (request : PendingRequest) (sni : Option ℤ)
      (body : String) (priceType : PriceType)
      (hother : process.instrumentList ≠ some request.ticket)
      (hasked : process.snapshotAsked request = some priceType)
      (hbody : priceType = .depth → ∀ depth,
        (RestClient.responseResult parse body).get "data" ≠ .object depth) :
      Throws parse process
        (.rest (.completed ⟨stream, .read request⟩ none sni body))
  | frame (payload : String)
      (hpassed : Text.hasPart payload "@trade" ∨
        Text.hasPart payload "@depth")
      (hill : ¬ WellTyped parse payload) :
      Throws parse process (.frame payload)

/-- As long as the session has never been connected, nobody is told anything. -/
def Silent (process : Process) : Prop :=
  process.wsConnectedOnce = false →
    process.published = [] ∧ process.updates = []

variable {process : Process} {msgNo : ℤ}

/-! ## What stops the process -/

theorem publish_stopped (detail : String) (process : Process) :
    (process.publish detail).stopped = process.stopped := by
  obtain ⟨published, heq⟩ := publish_eq detail process
  rw [heq]

/-- The callback of a request stops the process. -/
inductive Stops (process : Process) (invocation : Invocation) : Prop
  | list (hticket : process.instrumentList = some invocation.request.ticket)
      (hnone : NoInstruments invocation)
  | snapshot (priceType : PriceType)
      (hother : process.instrumentList ≠ some invocation.request.ticket)
      (hasked : process.snapshotAsked invocation.request = some priceType)
      (hthrown : ∃ thrown, SnapshotRequest.callback (fun _ => "")
        ⟨"", priceType⟩ invocation.result invocation.ec = .error thrown)

theorem instrumentsReceived_stopped (process : Process) (msgNo : ℤ)
    (invocation : Invocation) :
    (process.instrumentsReceived msgNo invocation.result
        invocation.ec).stopped = true ↔
      process.stopped = true ∨ NoInstruments invocation := by
  cases hec : invocation.ec with
  | some ec => simp [instrumentsReceived, NoInstruments, hec]
  | none =>
      cases hids : instrumentIds invocation.result with
      | ok ids => simp [instrumentsReceived, NoInstruments, hec, hids]
      | error thrown => simp [instrumentsReceived, NoInstruments, hids]

theorem snapshotReceived_stopped (process : Process) (priceType : PriceType)
    (result : Json.Object) (ec : Option RestApi.ErrorCode) :
    (process.snapshotReceived priceType result ec).stopped = true ↔
      process.stopped = true ∨ ∃ thrown, SnapshotRequest.callback
        (fun _ => "") ⟨"", priceType⟩ result ec = .error thrown := by
  rw [snapshotReceived]
  split
  · next hreturned => simp [hreturned]
  · next hthrown => simp [hthrown]

theorem invoke_stopped (process : Process) (msgNo : ℤ)
    (invocation : Invocation) :
    (process.invoke msgNo invocation).stopped = true ↔
      process.stopped = true ∨ process.Stops invocation := by
  rw [invoke]
  split
  · next hticket =>
      rw [instrumentsReceived_stopped]
      refine or_congr_right ⟨.list hticket, ?_⟩
      rintro (⟨-, hnone⟩ | ⟨_, hother, -, -⟩)
      · exact hnone
      · exact absurd hticket hother
  · next hother =>
      split
      · next priceType hasked =>
          rw [snapshotReceived_stopped]
          refine or_congr_right ⟨.snapshot priceType hother hasked, ?_⟩
          rintro (⟨hticket, -⟩ | ⟨_, -, hsame, hthrown⟩)
          · exact absurd hticket hother
          · obtain rfl := Option.some.inj (hasked.symm.trans hsame)
            exact hthrown
      · next hasked =>
          refine (or_iff_left ?_).symm
          rintro (⟨hticket, -⟩ | ⟨_, -, hsome, -⟩)
          · exact hother hticket
          · simp [hasked] at hsome

theorem foldl_invoke_stopped (msgNo : ℤ) (invocations : List Invocation)
    (process : Process) :
    (invocations.foldl (invoke msgNo) process).stopped = true ↔
      process.stopped = true ∨
        ∃ invocation ∈ invocations, process.Stops invocation := by
  induction invocations generalizing process with
  | nil => simp
  | cons invocation invocations ih =>
      have hsame (later : Invocation) :
          (process.invoke msgNo invocation).Stops later ↔
            process.Stops later := by
        obtain ⟨link, stopped, heq, -⟩ := process.invoke_eq msgNo invocation
        rw [heq]
        constructor
        all_goals
          rintro (⟨hticket, hnone⟩ | ⟨priceType, hother, hasked, hthrown⟩)
          · exact .list hticket hnone
          · exact .snapshot priceType hother hasked hthrown
      rw [List.foldl_cons, ih, invoke_stopped, List.exists_mem_cons_iff,
        or_assoc]
      simp only [hsame]

/-- The callbacks that a handler of the REST client calls stop the process when
the instrument list does, or the handler throws. -/
theorem exists_stops_iff {parse : String → Except Thrown Json}
    {event : ClientEvent} {outcome : RestApi.Outcome}
    (hphase : process.rest.client.Phase)
    (hmoved : process.rest.client.step parse event = some outcome)
    (invoked : List Invocation) :
    (∃ invocation ∈ outcome.invocations,
        ({ process with rest := ⟨outcome.client, invoked⟩ } : Process).Stops
          invocation) ↔
      (∃ invocation ∈ outcome.invocations,
        process.instrumentList = some invocation.request.ticket ∧
          NoInstruments invocation) ∨
        process.Throws parse (.rest event) := by
  have hversion : ∀ request,
      ({ process with rest := ⟨outcome.client, invoked⟩ } :
        Process).snapshotAsked request = process.snapshotAsked request := by
    intro request
    simp only [snapshotAsked, RestClient.step_apiVersion hmoved]
  constructor
  · rintro ⟨invocation, hmem, hstops⟩
    cases hstops with
    | list hticket hnone => exact .inl ⟨invocation, hmem, hticket, hnone⟩
    | snapshot priceType hother hasked hthrown =>
        rcases RestClient.step_invocation hphase hmoved hmem with
          ⟨ec, hec⟩ | ⟨hec, stream, sni, body, hresult, rfl⟩
        · simp [SnapshotRequest.callback, hec] at hthrown
        · rw [hec, hresult, callback_throws_iff] at hthrown
          exact .inr (.snapshot stream invocation.request sni body priceType
            hother ((hversion _).symm.trans hasked) hthrown)
  · rintro (⟨invocation, hmem, hticket, hnone⟩ | hthrows)
    · exact ⟨invocation, hmem, .list hticket hnone⟩
    · cases hthrows with
      | snapshot stream request sni body priceType hother hasked hbody =>
          rw [RestClient.invocations_of_read hphase hmoved]
          refine ⟨_, List.mem_singleton_self _, .snapshot priceType hother
            ((hversion _).trans hasked) ?_⟩
          exact callback_throws_iff ⟨"", priceType⟩ body |>.mpr hbody

/-- The connection of the REST client stops nothing. -/
theorem restReady_none_stopped
    (hconnected : process.rest.client.connected = true) :
    (process.restReady msgNo none).stopped = process.stopped := by
  rw [restReady]
  split
  · exact publish_stopped _ _
  · rw [getTradableInstruments, if_neg]
    · exact publish_stopped _ _
    · simp [publish_rest, hconnected]

theorem FailsStart.of_rest {parse : String → Except Thrown Json}
    {event : ClientEvent} {outcome : RestApi.Outcome}
    (hfails : process.FailsStart parse (.rest event))
    (hmoved : process.rest.client.step parse event = some outcome) :
    (∃ ec, some ec ∈ outcome.ready) ∨ ∃ invocation ∈ outcome.invocations,
      process.instrumentList = some invocation.request.ticket ∧
        NoInstruments invocation := by
  cases hfails with
  | connecting _ other ec _ hother hready =>
      obtain rfl := Option.some.inj (hother.symm.trans hmoved)
      exact .inl ⟨ec, hready⟩
  | fetching _ other invocation _ hother hmem hticket hnone =>
      obtain rfl := Option.some.inj (hother.symm.trans hmoved)
      exact .inr ⟨invocation, hmem, hticket, hnone⟩

/-- A handler of the REST client stops the process exactly if it fails the
start or throws. -/
theorem Maintained.rest_stopped {parse : String → Except Thrown Json}
    {event : ClientEvent} {outcome : RestApi.Outcome}
    (hmaintained : process.Maintained) (hgoing : process.stopped = false)
    (hmoved : process.rest.client.step parse event = some outcome) :
    (outcome.ready.foldl (restReady msgNo)
      (outcome.invocations.foldl (invoke msgNo)
        { process with rest := ⟨outcome.client,
            process.rest.invoked ++ outcome.invocations⟩ })).stopped = true ↔
      process.FailsStart parse (.rest event) ∨
        process.Throws parse (.rest event) := by
  have hcoherent := hmaintained.hcoherent
  obtain ⟨link, stopped, heq, -⟩ := foldl_invoke msgNo outcome.invocations
    { process with rest := ⟨outcome.client,
      process.rest.invoked ++ outcome.invocations⟩ }
  have hstopped := foldl_invoke_stopped msgNo outcome.invocations
    { process with rest := ⟨outcome.client,
      process.rest.invoked ++ outcome.invocations⟩ }
  rw [heq, exists_stops_iff hcoherent.hkept.hphase hmoved] at hstopped
  simp only [hgoing, Bool.false_eq_true, false_or] at hstopped
  -- A list that does not come fails the start if there is no session yet.
  have hends : stopped = true → process.FailsStart parse (.rest event) ∨
      process.Throws parse (.rest event) := by
    intro htrue
    refine (hstopped.mp htrue).imp_left ?_
    rintro ⟨invocation, hmem, hticket, hnone⟩
    have hlink : process.link = none :=
      link_eq_none hcoherent (kept_of_step hcoherent.hkept hmoved) rfl hmem
        hticket
    exact .fetching event outcome invocation hlink hmoved hmem hticket hnone
  -- No other failure of the start is left if no error is reported.
  have hstops (hnone : ¬ ∃ ec, some ec ∈ outcome.ready)
      (hcause : process.FailsStart parse (.rest event) ∨
        process.Throws parse (.rest event)) : stopped = true :=
    hstopped.mpr (hcause.imp_left fun hfails =>
      (hfails.of_rest hmoved).resolve_left hnone)
  rw [heq]
  cases (RestClient.step_connectivity hmoved).2 with
  | nothing hready _ =>
      rw [hready]
      exact ⟨hends, hstops (by simp [hready])⟩
  | connected hready hconnected _ =>
      rw [hready, List.foldl_cons, List.foldl_nil,
        restReady_none_stopped hconnected]
      exact ⟨hends, hstops (by simp [hready])⟩
  | failed ec hready _ honce =>
      have hnever : process.restConnectedOnce = false :=
        hmaintained.honce.trans honce
      rw [hready, List.foldl_cons, List.foldl_nil, restReady,
        if_pos (by simp [hnever])]
      constructor
      · intro _
        exact .inl (.connecting event outcome ec hnever hmoved
          (by simp [hready]))
      · exact fun _ => rfl

theorem FailsStart.of_socket {parse : String → Except Thrown Json}
    {event : LinkEvent} {link : Link}
    (hfails : process.FailsStart parse (.socket event))
    (hlink : process.link = some link) :
    process.wsConnectedOnce = false ∧ ∃ ec, some ec ∈ link.ready event := by
  cases hfails with
  | launching _ other ec hstarting hother hready =>
      obtain rfl := Option.some.inj (hother.symm.trans hlink)
      exact ⟨hstarting, ec, hready⟩

theorem wsReady_none_stopped (process : Process) :
    (process.wsReady none).stopped = process.stopped := by
  rw [wsReady, publish_stopped]

theorem wsReady_some_stopped (process : Process) (ec : WebSockets.ErrorCode) :
    (process.wsReady (some ec)).stopped = true ↔
      process.stopped = true ∨ process.wsConnectedOnce = false := by
  rw [wsReady]
  split
  · next hfirst =>
      have hnever : process.wsConnectedOnce = false := by simpa using hfirst
      simp [hnever]
  · next hlater =>
      have honce : process.wsConnectedOnce = true := by simpa using hlater
      rw [publish_stopped]
      simp [honce]

/-- The session calls its callback once at a time. -/
theorem ready_eq_of_mem {link moved : Link} {event : LinkEvent}
    (hmoved : link.step event = some moved) {ec : WebSockets.ErrorCode}
    (hmem : some ec ∈ link.ready event) : link.ready event = [some ec] := by
  cases Link.reports_of_step hmoved with
  | nothing hready _ =>
      rw [show link.ready event = [] from hready] at hmem
      cases hmem
  | connected hready _ =>
      rw [show link.ready event = [none] from hready] at hmem
      simp at hmem
  | disconnected other hready _ | failed other hready _ _ =>
      rw [show link.ready event = [some other] from hready] at hmem ⊢
      rw [List.mem_singleton.mp hmem]

/-- A handler of the session stops the process exactly if it fails the start. -/
theorem socket_stopped {parse : String → Except Thrown Json}
    {event : LinkEvent} {link moved : Link}
    (hgoing : process.stopped = false) (hlink : process.link = some link)
    (hmoved : link.step event = some moved) :
    ((link.ready event).foldl wsReady
      { process with link := some moved }).stopped = true ↔
      process.FailsStart parse (.socket event) := by
  have hquiet (hnone : ∀ ec, some ec ∉ link.ready event) :
      ¬ process.FailsStart parse (.socket event) := by
    intro hfails
    obtain ⟨-, ec, hready⟩ := hfails.of_socket hlink
    exact hnone ec hready
  have herror (ec : WebSockets.ErrorCode)
      (hready : link.ready event = [some ec]) :
      ((link.ready event).foldl wsReady
        { process with link := some moved }).stopped = true ↔
        process.FailsStart parse (.socket event) := by
    rw [hready, List.foldl_cons, List.foldl_nil, wsReady_some_stopped]
    constructor
    · rintro (hstopped | hstarting)
      · simp [hgoing] at hstopped
      · exact .launching event link ec hstarting hlink (by simp [hready])
    · exact fun hfails => .inr (hfails.of_socket hlink).1
  cases Link.reports_of_step hmoved with
  | nothing hready _ =>
      have hready : link.ready event = [] := hready
      apply iff_of_false _ (hquiet (by simp [hready]))
      simp [hready, hgoing]
  | connected hready _ =>
      have hready : link.ready event = [none] := hready
      apply iff_of_false _ (hquiet (by simp [hready]))
      simp [hready, wsReady_none_stopped, hgoing]
  | disconnected ec hready _ => exact herror ec hready
  | failed ec hready _ _ => exact herror ec hready

/-! ## What is told before the session is connected -/

/-- Nobody is told anything, unless the publish function is installed. -/
structure Unheard (before after : Process) : Prop where
  honce : after.wsConnectedOnce = before.wsConnectedOnce
  hinstalled : after.installed = before.installed
  hupdates : after.updates = before.updates
  hpublished : before.installed = false → after.published = before.published

variable {before : Process}

theorem Unheard.trans {after : Process} (hfirst : before.Unheard process)
    (hsecond : process.Unheard after) : before.Unheard after where
  honce := hsecond.honce.trans hfirst.honce
  hinstalled := hsecond.hinstalled.trans hfirst.hinstalled
  hupdates := hsecond.hupdates.trans hfirst.hupdates
  hpublished huninstalled :=
    (hsecond.hpublished (hfirst.hinstalled.trans huninstalled)).trans
      (hfirst.hpublished huninstalled)

theorem Unheard.foldl {Argument : Type} {handler : Process → Argument → Process}
    (hhandler : ∀ (process : Process) (argument : Argument),
      process.Unheard (handler process argument))
    (arguments : List Argument) (process : Process) :
    process.Unheard (arguments.foldl handler process) := by
  induction arguments generalizing process with
  | nil => exact ⟨rfl, rfl, rfl, fun _ => rfl⟩
  | cons argument arguments ih => exact (hhandler process argument).trans (ih _)

theorem Unheard.publish (hunheard : before.Unheard process) (detail : String) :
    before.Unheard (process.publish detail) := by
  apply hunheard.trans
  rw [Process.publish]
  split
  · next hinstalled =>
      refine ⟨rfl, rfl, rfl, fun huninstalled => ?_⟩
      simp [hinstalled] at huninstalled
  · exact ⟨rfl, rfl, rfl, fun _ => rfl⟩

theorem Unheard.getTradableInstruments (hunheard : before.Unheard process) :
    before.Unheard (process.getTradableInstruments msgNo) := by
  apply hunheard.trans
  rw [Process.getTradableInstruments]
  split <;> exact ⟨rfl, rfl, rfl, fun _ => rfl⟩

theorem unheard_invoke (process : Process) (invocation : Invocation) :
    process.Unheard (process.invoke msgNo invocation) := by
  obtain ⟨link, stopped, heq, -⟩ := process.invoke_eq msgNo invocation
  rw [heq]
  exact ⟨rfl, rfl, rfl, fun _ => rfl⟩

theorem unheard_restReady (process : Process)
    (ec : Option RestApi.ErrorCode) :
    process.Unheard (process.restReady msgNo ec) := by
  have hsame (connected : Bool) (state : ConnectivityState) :
      process.Unheard { process with
        restConnectedOnce := connected, connectivity := state } :=
    ⟨rfl, rfl, rfl, fun _ => rfl⟩
  cases ec with
  | some ec =>
      rw [restReady]
      split
      · exact ⟨rfl, rfl, rfl, fun _ => rfl⟩
      · exact (hsame _ _).publish _
  | none =>
      rw [restReady]
      split
      · exact (hsame _ _).publish _
      · exact ((hsame _ _).publish _).getTradableInstruments

/-- The REST client's handlers tell nobody anything. -/
theorem unheard_rest (msgNo : ℤ) (process : Process)
    (outcome : RestApi.Outcome) :
    process.Unheard (outcome.ready.foldl (restReady msgNo)
      (outcome.invocations.foldl (invoke msgNo)
        { process with rest := ⟨outcome.client,
            process.rest.invoked ++ outcome.invocations⟩ })) := by
  have hsame : process.Unheard { process with rest := ⟨outcome.client,
      process.rest.invoked ++ outcome.invocations⟩ } :=
    ⟨rfl, rfl, rfl, fun _ => rfl⟩
  apply (hsame.trans (Unheard.foldl unheard_invoke _ _)).trans
  exact Unheard.foldl unheard_restReady _ _

theorem wsReady_cases (process : Process)
    (ec : Option WebSockets.ErrorCode) :
    (process.wsReady ec).wsConnectedOnce = true ∨
      process.Unheard (process.wsReady ec) := by
  cases ec with
  | some ec =>
      rw [wsReady]
      split
      · exact .inr ⟨rfl, rfl, rfl, fun _ => rfl⟩
      · next hlater =>
          obtain ⟨published, heq⟩ := publish_eq "WebSocket disconnected"
            { process with
              updates := process.updates ++
                [(instrumentWildCard, MDUpdateVariant.priceBlanking)]
              connectivity := process.connectivity.onWSDisconnected }
          rw [heq]
          exact .inl (by simpa using hlater)
  | none =>
      obtain ⟨published, heq⟩ := publish_eq "" { process with
        wsConnectedOnce := true
        connectivity := process.connectivity.onWSConnected }
      rw [wsReady, heq]
      exact .inl rfl

/-- Reading a payload stops the process exactly if it throws. -/
theorem frameRead_stopped {parse : String → Except Thrown Json}
    (hgoing : process.stopped = false) (payload : String) :
    (process.frameRead parse payload).stopped = true ↔
      process.Throws parse (.frame payload) := by
  have hthrows : process.Throws parse (.frame payload) ↔
      ∃ thrown, onRead parse payload = .error thrown := by
    rw [onRead_throws_iff]
    constructor
    · rintro ⟨⟩
      next hpassed hill => exact ⟨hpassed, hill⟩
    · rintro ⟨hpassed, hill⟩
      exact .frame payload hpassed hill
  rw [hthrows, frameRead]
  split
  · next hread => simp [hread, hgoing]
  · next hread => simp [hread]

/-- Nor do the session's before it is connected. -/
theorem connected_or_unheard (ready : List (Option WebSockets.ErrorCode))
    (process : Process) :
    (ready.foldl wsReady process).wsConnectedOnce = true ∨
      process.Unheard (ready.foldl wsReady process) := by
  induction ready generalizing process with
  | nil => exact .inr ⟨rfl, rfl, rfl, fun _ => rfl⟩
  | cons ec ready ih =>
      rcases ih (process.wsReady ec) with hconnected | hlater
      · exact .inl hconnected
      · rcases process.wsReady_cases ec with hconnected | hfirst
        · exact .inl (hlater.honce.trans hconnected)
        · exact .inr (hfirst.trans hlater)

/-! ## Runs -/

variable {parse : String → Except Thrown Json} {next : Process}
  {event : ProcessEvent}

theorem going_of_step (hstep : process.step parse msgNo event = some next) :
    process.stopped = false := by
  unfold Process.step at hstep
  split at hstep
  · cases hstep
  · next hgoing => simpa using hgoing

theorem Maintained.step_stopped (hmaintained : process.Maintained)
    (hstep : process.step parse msgNo event = some next) :
    next.stopped = true ↔
      process.FailsStart parse event ∨ process.Throws parse event := by
  have hgoing := going_of_step hstep
  cases stepped_of_step hstep with
  | rest event outcome hmoved => exact hmaintained.rest_stopped hgoing hmoved
  | socket event link moved hlink hmoved =>
      rw [socket_stopped hgoing hlink hmoved]
      exact (or_iff_left nofun).symm
  | frame payload =>
      rw [frameRead_stopped hgoing]
      exact (or_iff_right nofun).symm
  | gatewayInit _ =>
      apply iff_of_false
      · rw [gatewayInitCb, publish_stopped]
        simp [hgoing]
      · rintro (hfails | hthrows)
        · cases hfails
        · cases hthrows

/-- The parts of the start follow each other. -/
theorem FailsStart.wsConnectedOnce (hmaintained : process.Maintained)
    (hfails : process.FailsStart parse event) :
    process.wsConnectedOnce = false := by
  have hcoherent := hmaintained.hcoherent
  have hsession (hlink : process.link = none) :
      process.wsConnectedOnce = false := by
    rw [hcoherent.hwsOnce, wsOnce, hlink]
  cases hfails with
  | connecting _ _ _ hstarting _ _ =>
      apply hsession
      by_contra hlink
      obtain ⟨ticket, hlist, -⟩ := hcoherent.hlink hlink
      have hconnected := hcoherent.hlist (by simp [hlist])
      simp [hstarting] at hconnected
  | fetching _ _ _ hstarting => exact hsession hstarting
  | launching _ _ _ hstarting => exact hstarting

/-- A start that has failed is over. -/
theorem FailsStart.step_wsConnectedOnce (hmaintained : process.Maintained)
    (hfails : process.FailsStart parse event)
    (hstep : process.step parse msgNo event = some next) :
    next.wsConnectedOnce = false := by
  have hnever := hfails.wsConnectedOnce hmaintained
  cases stepped_of_step hstep with
  | rest event outcome _ =>
      exact (unheard_rest msgNo process outcome).honce.trans hnever
  | socket event link moved hlink hmoved =>
      obtain ⟨-, ec, hready⟩ := hfails.of_socket hlink
      rw [ready_eq_of_mem hmoved hready, List.foldl_cons, List.foldl_nil,
        wsReady, if_pos (by simp [hnever])]
      exact hnever
  | frame _ | gatewayInit _ => cases hfails

/-- What a run keeps until the session is connected. -/
structure Settled (process : Process) : Prop where
  hmaintained : process.Maintained
  hsilent : process.Silent

theorem settled_start (host apiVersion : String) :
    (start host apiVersion).Settled where
  hmaintained := maintained_start host apiVersion
  hsilent := fun _ => ⟨rfl, rfl⟩

theorem Silent.of_unheard (hmaintained : process.Maintained)
    (hsilent : process.Silent) (hunheard : process.Unheard next) :
    next.Silent := by
  intro hnever
  have hnever : process.wsConnectedOnce = false :=
    hunheard.honce.symm.trans hnever
  have huninstalled : process.installed = false := by
    by_contra hinstalled
    have hconnected :=
      hmaintained.hcoherent.hinstalled (by simpa using hinstalled)
    simp [hnever] at hconnected
  rw [hunheard.hpublished huninstalled, hunheard.hupdates]
  exact hsilent hnever

theorem Settled.step (hsettled : process.Settled)
    (hstep : process.step parse msgNo event = some next) : next.Settled where
  hmaintained := hsettled.hmaintained.step hstep
  hsilent := by
    obtain ⟨hmaintained, hsilent⟩ := hsettled
    cases stepped_of_step hstep with
    | rest event outcome _ =>
        exact hsilent.of_unheard hmaintained
          (unheard_rest msgNo process outcome)
    | socket event link moved _ _ =>
        rcases connected_or_unheard (link.ready event)
          { process with link := some moved } with hconnected | hunheard
        · intro hnever
          simp [hnever] at hconnected
        · have hsame : process.Unheard { process with link := some moved } :=
            ⟨rfl, rfl, rfl, fun _ => rfl⟩
          exact hsilent.of_unheard hmaintained (hsame.trans hunheard)
    | frame payload link hlink honce =>
        obtain ⟨updates, stopped, heq⟩ := frameRead_eq parse payload process
        rw [heq]
        intro hnever
        have hconnected : process.wsConnectedOnce = true := by
          rw [hmaintained.hcoherent.hwsOnce, wsOnce, hlink]
          exact honce
        simp [hconnected] at hnever
    | gatewayInit honce =>
        obtain ⟨published, heq⟩ := publish_eq ""
          { process with installed := true }
        rw [gatewayInitCb, heq]
        intro hnever
        simp [honce] at hnever

/-- A process ends exactly at an event that fails its start, in the part of the
start that it belongs to, or at which a handler throws.  After an event that
fails the start nobody has been told anything, so that a process whose session
has been connected once ends only by an exception. -/
theorem stopped_iff_failsStart_or_throws
    (parse : String → Except Thrown Json) (msgNo : ℤ)
    (host apiVersion : String) (events : List ProcessEvent)
    (process : Process)
    (hrun : Runs.run (Process.step parse msgNo) (start host apiVersion) events =
      some process) :
    (process.stopped = true ↔ ∃ before event middle,
      events = before ++ [event] ∧
        Runs.run (Process.step parse msgNo) (start host apiVersion) before =
          some middle ∧
        (middle.FailsStart parse event ∨ middle.Throws parse event)) ∧
      ∀ before event middle, events = before ++ [event] →
        Runs.run (Process.step parse msgNo) (start host apiVersion) before =
          some middle →
        middle.FailsStart parse event →
          process.wsConnectedOnce = false ∧ process.published = [] ∧
            process.updates = [] := by
  have hsettled {events : List ProcessEvent} {process : Process}
      (hrun : Runs.run (Process.step parse msgNo) (start host apiVersion)
        events = some process) : process.Settled :=
    Runs.run_invariant Settled (fun _ _ _ hbefore hstep => hbefore.step hstep)
      (settled_start host apiVersion) hrun
  have hlast {before : List ProcessEvent} {event : ProcessEvent}
      {middle : Process} (hevents : events = before ++ [event])
      (hmiddle : Runs.run (Process.step parse msgNo) (start host apiVersion)
        before = some middle) :
      middle.step parse msgNo event = some process := by
    obtain ⟨reached, hreached, hstep⟩ :=
      Runs.run_concat_eq_some.mp (hevents ▸ hrun)
    rwa [Option.some.inj (hreached.symm.trans hmiddle)] at hstep
  refine ⟨⟨fun hstopped => ?_, ?_⟩, ?_⟩
  · rcases List.eq_nil_or_concat' events with rfl | ⟨before, event, rfl⟩
    · obtain rfl : start host apiVersion = process := by simpa using hrun
      cases hstopped
    · obtain ⟨middle, hmiddle, hstep⟩ := Runs.run_concat_eq_some.mp hrun
      exact ⟨before, event, middle, rfl, hmiddle,
        ((hsettled hmiddle).hmaintained.step_stopped hstep).mp hstopped⟩
  · rintro ⟨before, event, middle, hevents, hmiddle, hends⟩
    exact ((hsettled hmiddle).hmaintained.step_stopped
      (hlast hevents hmiddle)).mpr hends
  · intro before event middle hevents hmiddle hfails
    have hnever := hfails.step_wsConnectedOnce (hsettled hmiddle).hmaintained
      (hlast hevents hmiddle)
    exact ⟨hnever, (hsettled hrun).hsilent hnever⟩

/-- REST connects, and what it is answered is no list of instruments. -/
def listRefused : List ProcessEvent :=
  let request : PendingRequest := ⟨"/api/v3/exchangeInfo", .get, "", 0⟩
  [.rest (.completed ⟨0, .resolve⟩ none none ""),
    .rest (.completed ⟨0, .connect⟩ none none ""),
    .rest (.completed ⟨0, .handshake⟩ none none ""), .rest .runPosted,
    .rest (.completed ⟨0, .write request⟩ none none ""),
    .rest (.completed ⟨0, .read request⟩ none none "unavailable")]

/-- The gateway is in use, and the exchange answers a request for trades. -/
def tradesAnswered : List ProcessEvent :=
  let request : PendingRequest := ⟨"/api/v3/trades?symbol=BTCUSDT&limit=1",
    .get, "symbol=BTCUSDT&limit=1", 1⟩
  startThen [.rest (.launch "/trades" .get "symbol=BTCUSDT&limit=1"),
    .rest .runPosted,
    .rest (.completed ⟨0, .write request⟩ none none ""),
    .rest (.completed ⟨0, .read request⟩ none none "[]")]

/-- A list that is refused fails the start, and trades that are answered end a
gateway that has told the world that it is operational. -/
theorem stopped_iff_failsStart_or_throws_of_answers :
    (∃ process, Runs.run (Process.step parseExchangeInfo 0)
        (.start "api.binance.com" "/api/v3") listRefused = some process ∧
      process.stopped = true ∧ process.wsConnectedOnce = false ∧
      process.published = [] ∧ process.updates = []) ∧
    ∃ process, Runs.run (Process.step parseExchangeInfo 0)
        (.start "api.binance.com" "/api/v3") tradesAnswered = some process ∧
      process.published = [(.operational, "")] ∧
      ∃ before event middle, tradesAnswered = before ++ [event] ∧
        Runs.run (Process.step parseExchangeInfo 0)
          (.start "api.binance.com" "/api/v3") before = some middle ∧
        (middle.FailsStart parseExchangeInfo event ∨
          middle.Throws parseExchangeInfo event) := by
  constructor
  · let request : PendingRequest := ⟨"/api/v3/exchangeInfo", .get, "", 0⟩
    refine ⟨_, rfl, rfl, ?_⟩
    refine (stopped_iff_failsStart_or_throws parseExchangeInfo 0
      "api.binance.com" "/api/v3" listRefused _ rfl).2 (listRefused.take 5)
      (.rest (.completed ⟨0, .read request⟩ none none "unavailable")) _ rfl
      rfl ?_
    exact .fetching _ _ _ rfl rfl (List.mem_singleton_self _) rfl
      (.inr ⟨.missing, rfl⟩)
  · have hrun := run_first_handshake parseExchangeInfo 0
      (.start "api.binance.com" "/api/v3") fetchInstruments rfl rfl rfl
      (tradesAnswered.drop 7)
    exact ⟨_, hrun, rfl, (stopped_iff_failsStart_or_throws parseExchangeInfo 0
      "api.binance.com" "/api/v3" tradesAnswered _ hrun).1.mp rfl⟩

end Process

end MultiMarketPrices.Binance
