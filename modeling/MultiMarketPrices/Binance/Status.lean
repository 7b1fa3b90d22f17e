import MultiMarketPrices.Binance.Frames
import MultiMarketPrices.Binance.Snapshots
import MultiMarketPrices.Binance.System
import MultiMarketPrices.RestApi.Connectivity
import MultiMarketPrices.RestApi.Pipeline
import MultiMarketPrices.WebSockets.Connectivity

/-!
# The published status of the gateway

`launchRestClient` and `launchWebSocketClient` keep a copy of both clients'
connection state, which only their ready callbacks update, and publish the
status computed from it.  The REST client calls its callback with an error only
when it fails before its first connection.  Afterwards the copy says that REST
is connected for ever, and the status is right exactly while that is true.
-/

namespace MultiMarketPrices.Binance

open PlatformComm WebSockets RestApi

inductive GatewayStatus
  | operational
  | degraded
  | disconnected
  deriving DecidableEq

structure ConnectivityState where
  restConnected : Bool
  wsConnected : Bool
  deriving DecidableEq

namespace ConnectivityState

def calcGwStatus (state : ConnectivityState) : GatewayStatus :=
  if state.restConnected && state.wsConnected then .operational
  else if state.restConnected || state.wsConnected then .degraded
  else .disconnected

def onRestConnected (state : ConnectivityState) : ConnectivityState :=
  { state with restConnected := true }

def onRestDisconnected (state : ConnectivityState) : ConnectivityState :=
  { state with restConnected := false }

def onWSConnected (state : ConnectivityState) : ConnectivityState :=
  { state with wsConnected := true }

def onWSDisconnected (state : ConnectivityState) : ConnectivityState :=
  { state with wsConnected := false }

end ConnectivityState

/-- The two clients and what their callbacks keep.  The two static
`clientConnectedOnce` are `restConnectedOnce` and `wsConnectedOnce`. -/
structure Process where
  rest : Pipeline
  restConnectedOnce : Bool
  /-- the ticket of the request for the instrument list -/
  instrumentList : Option ℕ
  /-- the session, once `launchWebSocketClient` has made it -/
  link : Option Link
  wsConnectedOnce : Bool
  connectivity : ConnectivityState
  /-- whether `gatewayInitCb` has set `publishStatusPtr` -/
  installed : Bool
  /-- the statuses given to the publish function, with their details -/
  published : List (GatewayStatus × String)
  /-- the updates produced by the callbacks -/
  updates : List (String × MDUpdateVariant)
  /-- `ioc.stop()`, or an exception that ends `ioc.run()` -/
  stopped : Bool

inductive ProcessEvent
  | rest (event : ClientEvent)
  | socket (event : LinkEvent)
  /-- the session reads a payload -/
  | frame (payload : String)
  /-- the middleware calls `gatewayInitCb` -/
  | gatewayInit

namespace Process

def start (host apiVersion : String) : Process where
  rest := .start host apiVersion
  restConnectedOnce := false
  instrumentList := none
  link := none
  wsConnectedOnce := false
  connectivity := ⟨false, false⟩
  installed := false
  published := []
  updates := []
  stopped := false

/-- `(*publishStatusPtr)(status, detail)`, which does nothing at first. -/
def publish (detail : String) (process : Process) : Process :=
  if process.installed then
    { process with
      published := process.published ++
        [(process.connectivity.calcGwStatus, detail)] }
  else process

/-! ## The REST client's callbacks -/

/-- The identifiers read out of the instrument list. -/
def instrumentIds (obj : Json.Object) : Except Thrown (List String) :=
  (obj.atKey "symbols").bind fun value => value.asArray.bind fun symbols =>
    symbols.mapM fun symbol => symbol.asObject.bind fun details =>
      details.cStrAt "symbol"

/-- The callback of the request for the instrument list.  The constructor of the
session leaves `m_msgNo` uninitialized. -/
def instrumentsReceived (msgNo : ℤ) (result : Json.Object)
    (ec : Option RestApi.ErrorCode) (process : Process) : Process :=
  match ec, instrumentIds result with
  | none, .ok _ => { process with link := some (.start msgNo) }
  | _, _ => { process with stopped := true }

/-- The price type of the snapshot that a request is for, by its target: no
other requests have these paths. -/
def snapshotAsked (process : Process) (request : PendingRequest) :
    Option PriceType :=
  let path := fun path =>
    process.rest.client.apiVersion ++ path ++ "?" ++ request.query
  if request.target = path "/depth" then some .depth
  else if request.target = path "/trades" then some .trade
  else none

/-- The callback of a request for a snapshot.  Whether it throws depends neither
on the symbol nor on the serialization. -/
def snapshotReceived (priceType : PriceType) (result : Json.Object)
    (ec : Option RestApi.ErrorCode) (process : Process) : Process :=
  match SnapshotRequest.callback (fun _ => "") ⟨"", priceType⟩ result ec with
  | .ok _ => process
  | .error _ => { process with stopped := true }

/-- A callback of the REST client; that of a ping does nothing.  One that throws
leaves its request in the queue, which is of no account any more. -/
def invoke (msgNo : ℤ) (process : Process) (invocation : Invocation) :
    Process :=
  if process.instrumentList = some invocation.request.ticket then
    process.instrumentsReceived msgNo invocation.result invocation.ec
  else match process.snapshotAsked invocation.request with
  | some priceType =>
      process.snapshotReceived priceType invocation.result invocation.ec
  | none => process

def getTradableInstruments (msgNo : ℤ) (process : Process) : Process :=
  if !process.rest.client.connected then
    process.instrumentsReceived msgNo [] (some .noData)
  else
    { process with
      rest := { process.rest with
        client := process.rest.client.launchRequest "/exchangeInfo" .get "" }
      instrumentList := some process.rest.client.tickets }

def restReady (msgNo : ℤ) (process : Process) :
    Option RestApi.ErrorCode → Process
  | some _ =>
      if !process.restConnectedOnce then { process with stopped := true }
      else
        { process with
          connectivity := process.connectivity.onRestDisconnected }.publish
            "REST disconnected"
  | none =>
      if process.restConnectedOnce then
        { process with
          connectivity := process.connectivity.onRestConnected }.publish ""
      else
        ({ process with
          restConnectedOnce := true
          connectivity := process.connectivity.onRestConnected }.publish
            "").getTradableInstruments msgNo

/-! ## The session's callbacks -/

def wsReady (process : Process) : Option WebSockets.ErrorCode → Process
  | some _ =>
      if !process.wsConnectedOnce then { process with stopped := true }
      else
        { process with
          updates := process.updates ++
            [(instrumentWildCard, MDUpdateVariant.priceBlanking)]
          connectivity := process.connectivity.onWSDisconnected }.publish
            "WebSocket disconnected"
  | none =>
      { process with
        wsConnectedOnce := true
        connectivity := process.connectivity.onWSConnected }.publish ""

/-- The session's `on_read`, from which an exception of `onPriceUpdate` ends
`ioc.run()`. -/
def frameRead (parse : String → Except Thrown Json) (payload : String)
    (process : Process) : Process :=
  match onRead parse payload with
  | .ok update => { process with updates := process.updates ++ update.toList }
  | .error _ => { process with stopped := true }

/-- What `gatewayInitCb` does with the publish function. -/
def gatewayInitCb (process : Process) : Process :=
  { process with installed := true }.publish ""

/-! ## Steps -/

/-- One handler on the strand, or the call of `gatewayInitCb` from the thread
that the session's first connection has started. -/
def step (parse : String → Except Thrown Json) (msgNo : ℤ) (process : Process)
    (event : ProcessEvent) : Option Process :=
  if process.stopped then none
  else match event with
  | .rest event =>
      (process.rest.client.step parse event).map fun outcome =>
        outcome.ready.foldl (restReady msgNo)
          (outcome.invocations.foldl (invoke msgNo)
            { process with
              rest := ⟨outcome.client,
                process.rest.invoked ++ outcome.invocations⟩ })
  | .socket event =>
      process.link.bind fun link => (link.step event).map fun next =>
        (link.ready event).foldl wsReady { process with link := some next }
  | .frame payload =>
      process.link.bind fun link =>
        if link.session.connectedOnce then
          some (process.frameRead parse payload)
        else none
  | .gatewayInit =>
      if process.wsConnectedOnce && !process.installed then
        some process.gatewayInitCb
      else none

/-! ## The statement -/

/-- `m_connected` of the session, if there is one. -/
def wsConnected (process : Process) : Bool :=
  match process.link with
  | some link => link.session.connected
  | none => false

/-- The last status published is the one of the two connections. -/
def Truthful (process : Process) : Prop :=
  ∃ status detail, process.published.getLast? = some (status, detail) ∧
    (status = .operational ↔
      process.rest.client.connected = true ∧ process.wsConnected = true) ∧
    (status = .degraded ↔
      process.rest.client.connected ≠ process.wsConnected) ∧
    (status = .disconnected ↔
      process.rest.client.connected = false ∧ process.wsConnected = false)

end Process

/-- Whether REST is up after an event: a handshake brings it up, and a failure
of the REST client takes it down. -/
def restUp (up : Bool) : ProcessEvent → Bool
  | .rest event => RestClient.connectedAfter up event
  | _ => up

namespace Process

/-! ## What the callbacks keep -/

/-- `m_connectedOnce` of the session, if there is one. -/
def wsOnce (process : Process) : Bool :=
  match process.link with
  | some link => link.session.connectedOnce
  | none => false

/-- The copies kept by the callbacks, and how far the start has come. -/
structure Coherent (process : Process) : Prop where
  hkept : Kept process.rest
  hrest : process.connectivity.restConnected = process.restConnectedOnce
  hws : process.connectivity.wsConnected = process.wsConnected
  hwsOnce : process.wsConnectedOnce = process.wsOnce
  hnever : process.wsConnectedOnce = false →
    process.connectivity.wsConnected = false
  hlink : process.link ≠ none → ∃ ticket,
    process.instrumentList = some ticket ∧
    ticket ∈ process.rest.invoked.map fun invocation =>
      invocation.request.ticket
  hlist : process.instrumentList ≠ none → process.restConnectedOnce = true
  hinstalled : process.installed = true → process.wsConnectedOnce = true

/-- The last status published is the one of the copies. -/
def Published (process : Process) : Prop :=
  process.installed = true → ∃ detail, process.published.getLast? =
    some (process.connectivity.calcGwStatus, detail)

variable {process : Process} {msgNo : ℤ}

theorem publish_eq (detail : String) (process : Process) :
    ∃ published, process.publish detail =
      { process with published := published } := by
  rw [publish]
  split
  · exact ⟨_, rfl⟩
  · exact ⟨process.published, rfl⟩

theorem Coherent.publish (hcoherent : process.Coherent) (detail : String) :
    (process.publish detail).Coherent := by
  obtain ⟨published, heq⟩ := publish_eq detail process
  rw [heq]
  exact ⟨hcoherent.hkept, hcoherent.hrest, hcoherent.hws, hcoherent.hwsOnce,
    hcoherent.hnever, hcoherent.hlink, hcoherent.hlist, hcoherent.hinstalled⟩

theorem published_publish (detail : String) (process : Process) :
    (process.publish detail).Published := by
  rw [Process.publish]
  split
  · intro _
    exact ⟨detail, List.getLast?_concat⟩
  · next hinstalled => exact fun habsurd => absurd habsurd hinstalled

/-! ## The REST client's handlers -/

/-- The callback of a request can only make the session or stop the process. -/
theorem invoke_eq (process : Process) (msgNo : ℤ) (invocation : Invocation) :
    ∃ link stopped, process.invoke msgNo invocation =
        { process with link := link, stopped := stopped } ∧
      (link = process.link ∨ link = some (.start msgNo) ∧
        process.instrumentList = some invocation.request.ticket) := by
  rw [invoke]
  split
  · next hticket =>
      unfold instrumentsReceived
      split
      · exact ⟨some (.start msgNo), process.stopped, rfl, .inr ⟨rfl, hticket⟩⟩
      · exact ⟨process.link, true, rfl, .inl rfl⟩
  · split
    · unfold snapshotReceived
      split
      · exact ⟨process.link, process.stopped, rfl, .inl rfl⟩
      · exact ⟨process.link, true, rfl, .inl rfl⟩
    · exact ⟨process.link, process.stopped, rfl, .inl rfl⟩

theorem foldl_invoke (msgNo : ℤ) (invocations : List Invocation)
    (process : Process) :
    ∃ link stopped, invocations.foldl (invoke msgNo) process =
        { process with link := link, stopped := stopped } ∧
      (link = process.link ∨ link = some (.start msgNo) ∧
        ∃ invocation ∈ invocations,
          process.instrumentList = some invocation.request.ticket) := by
  induction invocations generalizing process with
  | nil => exact ⟨process.link, process.stopped, rfl, .inl rfl⟩
  | cons invocation invocations ih =>
      obtain ⟨first, halted, hfirst, hmade⟩ :=
        process.invoke_eq msgNo invocation
      obtain ⟨link, stopped, hrest, hlink⟩ :=
        ih { process with link := first, stopped := halted }
      refine ⟨link, stopped, by rw [List.foldl_cons, hfirst, hrest], ?_⟩
      rcases hlink with hsame | ⟨hnew, later, hmem, hticket⟩
      · rcases hmade with hold | ⟨hnew, hticket⟩
        · exact .inl (hsame.trans hold)
        · exact .inr ⟨hsame.trans hnew, invocation, by simp, hticket⟩
      · exact .inr ⟨hnew, later, List.mem_cons_of_mem _ hmem, hticket⟩

/-- The request for the instrument list is answered once. -/
theorem link_eq_none (hcoherent : process.Coherent) {next : Pipeline}
    (hnext : Kept next) {invocations : List Invocation}
    (hinvoked : next.invoked = process.rest.invoked ++ invocations)
    {invocation : Invocation} (hmem : invocation ∈ invocations)
    (hticket : process.instrumentList = some invocation.request.ticket) :
    process.link = none := by
  by_contra hlink
  obtain ⟨ticket, hlist, hearlier⟩ := hcoherent.hlink hlink
  have hnodup : (next.invoked.map fun invocation =>
      invocation.request.ticket).Nodup := by
    have hrange := List.nodup_range (n := next.client.tickets)
    rw [← hnext.horder, List.map_append, List.map_map] at hrange
    exact hrange.of_append_left
  rw [hinvoked, List.map_append] at hnodup
  refine (List.disjoint_of_nodup_append hnodup) hearlier ?_
  rw [Option.some.inj (hlist.symm.trans hticket)]
  exact List.mem_map_of_mem hmem

/-- What the callbacks of the requests leave is coherent again. -/
theorem Coherent.foldl_invoke (hcoherent : process.Coherent) {next : Pipeline}
    (hnext : Kept next) (msgNo : ℤ) (invocations : List Invocation)
    (hinvoked : next.invoked = process.rest.invoked ++ invocations) :
    (invocations.foldl (invoke msgNo)
      { process with rest := next }).Coherent := by
  obtain ⟨link, stopped, heq, hlink⟩ :=
    Process.foldl_invoke msgNo invocations { process with rest := next }
  have hinvokedOf : ∀ ticket,
      ticket ∈ (process.rest.invoked.map fun invocation =>
        invocation.request.ticket) →
      ticket ∈ next.invoked.map fun invocation =>
        invocation.request.ticket := by
    intro ticket hticket
    rw [hinvoked, List.map_append]
    exact List.mem_append_left _ hticket
  rw [heq]
  rcases hlink with rfl | ⟨rfl, invocation, hmem, hticket⟩
  · refine ⟨hnext, hcoherent.hrest, hcoherent.hws, hcoherent.hwsOnce,
      hcoherent.hnever, ?_, hcoherent.hlist, hcoherent.hinstalled⟩
    intro hmade
    obtain ⟨ticket, hlist, hearlier⟩ := hcoherent.hlink hmade
    exact ⟨ticket, hlist, hinvokedOf ticket hearlier⟩
  · have hnone : process.link = none :=
      link_eq_none hcoherent hnext hinvoked hmem hticket
    refine ⟨hnext, hcoherent.hrest, ?_, ?_, hcoherent.hnever, ?_,
      hcoherent.hlist, hcoherent.hinstalled⟩
    · rw [hcoherent.hws, wsConnected, hnone]
      rfl
    · rw [hcoherent.hwsOnce, wsOnce, hnone]
      rfl
    · intro _
      refine ⟨_, hticket, ?_⟩
      rw [hinvoked, List.map_append]
      exact List.mem_append_right _ (List.mem_map_of_mem hmem)

/-- What a step keeps. -/
structure Maintained (process : Process) : Prop where
  hcoherent : process.Coherent
  honce : process.restConnectedOnce = process.rest.client.connectedOnce
  hpublished : process.Published

theorem maintained_publish (hcoherent : process.Coherent)
    (honce : process.restConnectedOnce = process.rest.client.connectedOnce)
    (detail : String) : (process.publish detail).Maintained := by
  refine ⟨hcoherent.publish detail, ?_, published_publish detail process⟩
  obtain ⟨published, heq⟩ := publish_eq detail process
  rw [heq]
  exact honce

/-- The first connection asks for the instrument list. -/
theorem maintained_getTradableInstruments (hcoherent : process.Coherent)
    (hpublished : process.Published)
    (honce : process.rest.client.connectedOnce = true)
    (hstarted : process.restConnectedOnce = true)
    (hconnected : process.rest.client.connected = true)
    (hlink : process.link = none) :
    (process.getTradableInstruments msgNo).Maintained := by
  rw [getTradableInstruments, if_neg (by simp [hconnected])]
  have hkept : Kept ⟨process.rest.client.launchRequest "/exchangeInfo" .get "",
      process.rest.invoked⟩ := by
    have hstep : process.rest.step (fun _ => .error .parse)
        (.launch "/exchangeInfo" .get "") =
          some ⟨process.rest.client.launchRequest "/exchangeInfo" .get "",
            process.rest.invoked⟩ := by
      simp [Pipeline.step, RestClient.step]
    exact hcoherent.hkept.step hstep
  refine ⟨⟨hkept, hcoherent.hrest, hcoherent.hws, hcoherent.hwsOnce,
    hcoherent.hnever, ?_, ?_, hcoherent.hinstalled⟩, ?_, hpublished⟩
  · exact fun hmade => absurd hlink hmade
  · exact fun _ => hstarted
  · exact hstarted.trans honce.symm

/-- The connection of the REST client. -/
theorem maintained_restReady_none (hcoherent : process.Coherent)
    (honce : process.rest.client.connectedOnce = true)
    (hconnected : process.rest.client.connected = true) :
    (process.restReady msgNo none).Maintained := by
  rw [restReady]
  split
  · next hstarted =>
      have hsame : process.connectivity.onRestConnected =
          process.connectivity := by
        simp [ConnectivityState.onRestConnected, ← hstarted, ← hcoherent.hrest]
      rw [hsame]
      exact maintained_publish hcoherent (hstarted.trans honce.symm) ""
  · next hfirst =>
      have hlist : process.instrumentList = none := by
        by_contra hlist
        exact hfirst (hcoherent.hlist hlist)
      have hlink : process.link = none := by
        by_contra hlink
        obtain ⟨ticket, hsome, -⟩ := hcoherent.hlink hlink
        simp [hlist] at hsome
      have hnext : ({ process with
          restConnectedOnce := true
          connectivity := process.connectivity.onRestConnected } :
          Process).Coherent :=
        ⟨hcoherent.hkept, rfl, hcoherent.hws, hcoherent.hwsOnce,
          hcoherent.hnever, hcoherent.hlink, fun _ => rfl,
          hcoherent.hinstalled⟩
      have hpublish := hnext.publish ""
      have hpublished := published_publish "" { process with
        restConnectedOnce := true
        connectivity := process.connectivity.onRestConnected }
      obtain ⟨published, heq⟩ := publish_eq "" { process with
        restConnectedOnce := true
        connectivity := process.connectivity.onRestConnected }
      rw [heq] at hpublish hpublished ⊢
      exact maintained_getTradableInstruments hpublish hpublished honce rfl
        hconnected hlink

/-- The callbacks of a handler come after those of the others. -/
theorem kept_of_step {parse : String → Except Thrown Json}
    {event : ClientEvent} {outcome : RestApi.Outcome}
    (hkept : Kept process.rest)
    (hmoved : process.rest.client.step parse event = some outcome) :
    Kept ⟨outcome.client, process.rest.invoked ++ outcome.invocations⟩ := by
  have hstep : process.rest.step parse event = some ⟨outcome.client,
      process.rest.invoked ++ outcome.invocations⟩ := by
    rw [Pipeline.step, hmoved]
    rfl
  exact hkept.step hstep

/-- A handler of the REST client, with the callbacks it calls. -/
theorem Maintained.rest {parse : String → Except Thrown Json}
    {event : ClientEvent} {outcome : RestApi.Outcome}
    (hmaintained : process.Maintained)
    (hstep : process.rest.client.step parse event = some outcome) :
    (outcome.ready.foldl (restReady msgNo)
      (outcome.invocations.foldl (invoke msgNo)
        { process with rest := ⟨outcome.client,
            process.rest.invoked ++ outcome.invocations⟩ })).Maintained := by
  have hcoherent := hmaintained.hcoherent.foldl_invoke
    (kept_of_step hmaintained.hcoherent.hkept hstep) msgNo outcome.invocations
    rfl
  obtain ⟨link, stopped, heq, -⟩ := foldl_invoke msgNo outcome.invocations
    { process with rest := ⟨outcome.client,
      process.rest.invoked ++ outcome.invocations⟩ }
  rw [heq] at hcoherent ⊢
  cases (RestClient.step_connectivity hstep).2 with
  | nothing hready hsame =>
      rw [hready]
      exact ⟨hcoherent, hmaintained.honce.trans hsame.symm,
        hmaintained.hpublished⟩
  | connected hready hconnected honce =>
      rw [hready]
      exact maintained_restReady_none hcoherent honce hconnected
  | failed ec hready hsame honce =>
      have hnever : process.restConnectedOnce = false :=
        hmaintained.honce.trans honce
      rw [hready, List.foldl_cons, List.foldl_nil, restReady,
        if_pos (by simp [hnever])]
      exact ⟨⟨hcoherent.hkept, hcoherent.hrest, hcoherent.hws,
        hcoherent.hwsOnce, hcoherent.hnever, hcoherent.hlink,
        hcoherent.hlist, hcoherent.hinstalled⟩,
        hmaintained.honce.trans hsame.symm, hmaintained.hpublished⟩

/-! ## The session's handlers -/

theorem Coherent.of_link (hcoherent : process.Coherent) {link next : Link}
    (hlink : process.link = some link) {connectedOnce connected : Bool}
    (hconnected : connected = next.session.connected)
    (honce : connectedOnce = next.session.connectedOnce)
    (hnever : connectedOnce = false → connected = false)
    (hgrows : process.wsConnectedOnce = true → connectedOnce = true)
    (updates : List (String × MDUpdateVariant)) (stopped : Bool) :
    ({ process with
      link := some next
      wsConnectedOnce := connectedOnce
      connectivity := { process.connectivity with wsConnected := connected }
      updates := updates
      stopped := stopped } : Process).Coherent where
  hkept := hcoherent.hkept
  hrest := hcoherent.hrest
  hws := hconnected
  hwsOnce := honce
  hnever := hnever
  hlink _ := hcoherent.hlink (by simp [hlink])
  hlist := hcoherent.hlist
  hinstalled hinstalled := hgrows (hcoherent.hinstalled hinstalled)

/-- A handler of the session, with the callback it calls. -/
theorem Maintained.socket {link next : Link} {event : LinkEvent}
    (hmaintained : process.Maintained) (hlink : process.link = some link)
    (hstep : link.step event = some next) :
    ((link.ready event).foldl wsReady
      { process with link := some next }).Maintained := by
  have hcoherent := hmaintained.hcoherent
  have hws : process.connectivity.wsConnected = link.session.connected := by
    rw [hcoherent.hws, wsConnected, hlink]
  have hwsOnce : process.wsConnectedOnce = link.session.connectedOnce := by
    rw [hcoherent.hwsOnce, wsOnce, hlink]
  cases Link.reports_of_step hstep with
  | nothing hready hsame =>
      obtain ⟨hconnected, honce⟩ := Prod.mk.inj hsame
      rw [show link.ready event = [] from hready]
      refine ⟨?_, hmaintained.honce, hmaintained.hpublished⟩
      exact hcoherent.of_link hlink (hws.trans hconnected.symm)
        (hwsOnce.trans honce.symm) hcoherent.hnever id process.updates
        process.stopped
  | connected hready hconnected =>
      obtain ⟨hconnected, honce⟩ := Prod.mk.inj hconnected
      rw [show link.ready event = [none] from hready, List.foldl_cons,
        List.foldl_nil, wsReady]
      refine maintained_publish ?_ ?_ ""
      · exact hcoherent.of_link hlink hconnected.symm honce.symm nofun
          (fun _ => rfl) process.updates process.stopped
      · exact hmaintained.honce
  | disconnected ec hready hdisconnected =>
      obtain ⟨hconnected, honce⟩ := Prod.mk.inj hdisconnected
      rw [show link.ready event = [some ec] from hready, List.foldl_cons,
        List.foldl_nil, wsReady]
      split
      · next hfirst =>
          have hnever : process.wsConnectedOnce = false := by
            simpa using hfirst
          refine ⟨?_, hmaintained.honce, hmaintained.hpublished⟩
          exact hcoherent.of_link hlink
            ((hcoherent.hnever hnever).trans hconnected.symm)
            (hwsOnce.trans honce.symm) hcoherent.hnever id process.updates true
      · refine maintained_publish ?_ ?_ "WebSocket disconnected"
        · exact hcoherent.of_link hlink hconnected.symm
            (hwsOnce.trans honce.symm) (fun _ => rfl) id
            (process.updates ++
              [(instrumentWildCard, MDUpdateVariant.priceBlanking)])
            process.stopped
        · exact hmaintained.honce
  | failed ec hready honce hsame =>
      obtain ⟨hconnected, hconnectedOnce⟩ := Prod.mk.inj hsame
      have hnever : process.wsConnectedOnce = false := hwsOnce.trans honce
      rw [show link.ready event = [some ec] from hready, List.foldl_cons,
        List.foldl_nil, wsReady, if_pos (by simp [hnever])]
      refine ⟨?_, hmaintained.honce, hmaintained.hpublished⟩
      exact hcoherent.of_link hlink (hws.trans hconnected.symm)
        (hwsOnce.trans hconnectedOnce.symm) hcoherent.hnever id process.updates
        true

/-- Reading a payload can only produce an update or stop the process. -/
theorem frameRead_eq (parse : String → Except Thrown Json) (payload : String)
    (process : Process) :
    ∃ updates stopped, process.frameRead parse payload =
      { process with updates := updates, stopped := stopped } := by
  rw [frameRead]
  split
  · exact ⟨_, process.stopped, rfl⟩
  · exact ⟨process.updates, true, rfl⟩

theorem Maintained.frameRead (hmaintained : process.Maintained)
    (parse : String → Except Thrown Json) (payload : String) :
    (process.frameRead parse payload).Maintained := by
  obtain ⟨updates, stopped, heq⟩ := frameRead_eq parse payload process
  have hcoherent := hmaintained.hcoherent
  rw [heq]
  refine ⟨?_, hmaintained.honce, hmaintained.hpublished⟩
  exact ⟨hcoherent.hkept, hcoherent.hrest, hcoherent.hws, hcoherent.hwsOnce,
    hcoherent.hnever, hcoherent.hlink, hcoherent.hlist, hcoherent.hinstalled⟩

/-! ## Runs -/

theorem maintained_start (host apiVersion : String) :
    (start host apiVersion).Maintained where
  hcoherent :=
    ⟨kept_start host apiVersion, rfl, rfl, rfl, fun _ => rfl, nofun, nofun,
      nofun⟩
  honce := rfl
  hpublished := nofun

variable {parse : String → Except Thrown Json} {next : Process}

/-- What an event can do. -/
inductive Stepped (parse : String → Except Thrown Json) (msgNo : ℤ)
    (process : Process) : ProcessEvent → Process → Prop
  | rest (event : ClientEvent) (outcome : RestApi.Outcome)
      (hmoved : process.rest.client.step parse event = some outcome) :
      Stepped parse msgNo process (.rest event)
        (outcome.ready.foldl (restReady msgNo)
          (outcome.invocations.foldl (invoke msgNo)
            { process with rest := ⟨outcome.client,
                process.rest.invoked ++ outcome.invocations⟩ }))
  | socket (event : LinkEvent) (link moved : Link)
      (hlink : process.link = some link)
      (hmoved : link.step event = some moved) :
      Stepped parse msgNo process (.socket event)
        ((link.ready event).foldl wsReady { process with link := some moved })
  | frame (payload : String) (link : Link) (hlink : process.link = some link)
      (honce : link.session.connectedOnce = true) :
      Stepped parse msgNo process (.frame payload)
        (process.frameRead parse payload)
  | gatewayInit (honce : process.wsConnectedOnce = true) :
      Stepped parse msgNo process .gatewayInit process.gatewayInitCb

theorem stepped_of_step {event : ProcessEvent}
    (hstep : process.step parse msgNo event = some next) :
    Stepped parse msgNo process event next := by
  unfold Process.step at hstep
  split at hstep
  · exact absurd hstep (by simp)
  · cases event with
    | rest event =>
        obtain ⟨outcome, hmoved, rfl⟩ := Option.map_eq_some_iff.mp hstep
        exact .rest event outcome hmoved
    | socket event =>
        obtain ⟨link, hlink, hnext⟩ := Option.bind_eq_some_iff.mp hstep
        obtain ⟨moved, hmoved, rfl⟩ := Option.map_eq_some_iff.mp hnext
        exact .socket event link moved hlink hmoved
    | frame payload =>
        obtain ⟨link, hlink, hnext⟩ := Option.bind_eq_some_iff.mp hstep
        split_ifs at hnext with honce
        obtain rfl := Option.some.inj hnext
        exact .frame payload link hlink honce
    | gatewayInit =>
        simp only at hstep
        split_ifs at hstep with hready
        obtain rfl := Option.some.inj hstep
        exact .gatewayInit (Bool.and_eq_true_iff.mp hready).1

theorem Maintained.step {event : ProcessEvent}
    (hmaintained : process.Maintained)
    (hstep : process.step parse msgNo event = some next) :
    next.Maintained := by
  cases stepped_of_step hstep with
  | rest event outcome hmoved => exact hmaintained.rest hmoved
  | socket event link moved hlink hmoved =>
      exact hmaintained.socket hlink hmoved
  | frame payload => exact hmaintained.frameRead parse payload
  | gatewayInit honce =>
      have hcoherent := hmaintained.hcoherent
      refine maintained_publish ?_ ?_ ""
      · exact ⟨hcoherent.hkept, hcoherent.hrest, hcoherent.hws,
          hcoherent.hwsOnce, hcoherent.hnever, hcoherent.hlink,
          hcoherent.hlist, fun _ => honce⟩
      · exact hmaintained.honce

theorem publish_rest (detail : String) (process : Process) :
    (process.publish detail).rest = process.rest := by
  obtain ⟨published, heq⟩ := publish_eq detail process
  rw [heq]

theorem getTradableInstruments_connected (process : Process) :
    (process.getTradableInstruments msgNo).rest.client.connected =
      process.rest.client.connected := by
  rw [getTradableInstruments]
  split <;> rfl

theorem restReady_connected (process : Process)
    (ec : Option RestApi.ErrorCode) :
    (process.restReady msgNo ec).rest.client.connected =
      process.rest.client.connected := by
  cases ec with
  | some ec =>
      rw [restReady]
      split
      · rfl
      · rw [publish_rest]
  | none =>
      rw [restReady]
      split
      · rw [publish_rest]
      · rw [getTradableInstruments_connected, publish_rest]

theorem wsReady_rest (process : Process) (ec : Option WebSockets.ErrorCode) :
    (process.wsReady ec).rest = process.rest := by
  cases ec with
  | some ec =>
      rw [wsReady]
      split
      · rfl
      · rw [publish_rest]
  | none => rw [wsReady, publish_rest]

theorem foldl_restReady_connected (ready : List (Option RestApi.ErrorCode))
    (process : Process) :
    (ready.foldl (restReady msgNo) process).rest.client.connected =
      process.rest.client.connected := by
  induction ready generalizing process with
  | nil => rfl
  | cons ec ready ih => rw [List.foldl_cons, ih, restReady_connected]

theorem foldl_wsReady_rest (ready : List (Option WebSockets.ErrorCode))
    (process : Process) :
    (ready.foldl wsReady process).rest = process.rest := by
  induction ready generalizing process with
  | nil => rfl
  | cons ec ready ih => rw [List.foldl_cons, ih, wsReady_rest]

/-- `m_connected` of the REST client follows the events. -/
theorem step_restUp {event : ProcessEvent}
    (hstep : process.step parse msgNo event = some next) :
    next.rest.client.connected =
      restUp process.rest.client.connected event := by
  cases stepped_of_step hstep with
  | rest event outcome hmoved =>
      obtain ⟨link, stopped, heq, -⟩ := foldl_invoke msgNo outcome.invocations
        { process with rest := ⟨outcome.client,
          process.rest.invoked ++ outcome.invocations⟩ }
      rw [foldl_restReady_connected, heq]
      exact (RestClient.step_connectivity hmoved).1
  | socket event link moved hlink hmoved =>
      rw [foldl_wsReady_rest]
      rfl
  | frame payload =>
      obtain ⟨updates, stopped, heq⟩ := frameRead_eq parse payload process
      rw [heq]
      rfl
  | gatewayInit =>
      rw [gatewayInitCb, publish_rest]
      rfl

theorem run_restUp {events : List ProcessEvent}
    (hrun : Runs.run (Process.step parse msgNo) process events = some next) :
    next.rest.client.connected =
      events.foldl restUp process.rest.client.connected := by
  induction events generalizing process with
  | nil =>
      obtain rfl := Option.some.inj hrun
      rfl
  | cons event events ih =>
      obtain ⟨middle, hstep, hrest⟩ := Option.bind_eq_some_iff.mp hrun
      rw [ih hrest, step_restUp hstep, List.foldl_cons]

/-- Once installed, the publish function has last been given the status of a
connected REST client. -/
theorem Maintained.last_status (hmaintained : process.Maintained)
    (hinstalled : process.installed = true) :
    ∃ detail, process.published.getLast? =
      some (ConnectivityState.calcGwStatus ⟨true, process.wsConnected⟩,
        detail) := by
  have hcoherent := hmaintained.hcoherent
  have hwsOnce : process.wsOnce = true :=
    hcoherent.hwsOnce.symm.trans (hcoherent.hinstalled hinstalled)
  have hlink : process.link ≠ none := by
    intro hnone
    simp [wsOnce, hnone] at hwsOnce
  obtain ⟨ticket, hlist, -⟩ := hcoherent.hlink hlink
  have hrest : process.connectivity.restConnected = true :=
    hcoherent.hrest.trans (hcoherent.hlist (by simp [hlist]))
  have hcopies : process.connectivity = ⟨true, process.wsConnected⟩ := by
    rw [← hrest, ← hcoherent.hws]
  obtain ⟨detail, hlast⟩ := hmaintained.hpublished hinstalled
  exact ⟨detail, by rw [hlast, hcopies]⟩

theorem Maintained.truthful_iff (hmaintained : process.Maintained)
    (hinstalled : process.installed = true) :
    process.Truthful ↔ process.rest.client.connected = true := by
  obtain ⟨detail, hlast⟩ := hmaintained.last_status hinstalled
  cases hrest : process.rest.client.connected <;>
    cases hws : process.wsConnected <;>
      simp [Truthful, hlast, hrest, hws, ConnectivityState.calcGwStatus]

/-- With the publish function installed, the status published last is truthful
exactly if, among the handshakes and the failures of the REST client so far,
the last is a handshake. -/
theorem truthful_iff_restUp (parse : String → Except Thrown Json)
    (msgNo : ℤ) (host apiVersion : String) (events : List ProcessEvent)
    (process : Process)
    (hrun : Runs.run (Process.step parse msgNo) (start host apiVersion) events =
      some process)
    (hinstalled : process.installed = true) :
    process.Truthful ↔ events.foldl restUp false = true := by
  have hmaintained : process.Maintained := Runs.run_invariant Maintained
    (fun _ _ _ hbefore hstep => hbefore.step hstep)
    (maintained_start host apiVersion) hrun
  rw [hmaintained.truthful_iff hinstalled, run_restUp hrun]
  rfl

end Process

/-! ## A run of the start -/

def exchangeInfoText : String :=
  "\x7b\"symbols\":[\x7b\"symbol\":\"BTCUSDT\"\x7d]\x7d"

/-- Only the one text is ever parsed below. -/
def parseExchangeInfo (text : String) : Except Thrown Json :=
  if text = exchangeInfoText then
    .ok (.object [("symbols", .array [.object
      [("symbol", .string "BTCUSDT")]])])
  else .error .parse

/-- REST connects and fetches the instrument list. -/
def fetchInstruments : List ProcessEvent :=
  let request : PendingRequest := ⟨"/api/v3/exchangeInfo", .get, "", 0⟩
  [.rest (.completed ⟨0, .resolve⟩ none none ""),
    .rest (.completed ⟨0, .connect⟩ none none ""),
    .rest (.completed ⟨0, .handshake⟩ none none ""), .rest .runPosted,
    .rest (.completed ⟨0, .write request⟩ none none ""),
    .rest (.completed ⟨0, .read request⟩ none none exchangeInfoText)]

/-- The session connects as well, the middleware installs the publish function,
and then things happen. -/
def startThen (events : List ProcessEvent) : List ProcessEvent :=
  fetchInstruments ++ .socket .handshake :: .gatewayInit :: events

/-- A request whose write fails because the server has closed the connection. -/
def restLost : List ProcessEvent :=
  [.rest (.launch "/depth" .get "symbol=BTCUSDT&limit=5"), .rest .runPosted,
    .rest (.completed ⟨0, .write ⟨"/api/v3/depth?symbol=BTCUSDT&limit=5", .get,
      "symbol=BTCUSDT&limit=5", 1⟩⟩ (some (.other 104)) none "")]

theorem Process.run_first_handshake (parse : String → Except Thrown Json)
    (msgNo : ℤ) (process : Process) (before : List ProcessEvent)
    {fetched : Process}
    (hfetched : Runs.run (Process.step parse msgNo) process before =
      some fetched) (hstopped : fetched.stopped = false)
    (hlink : fetched.link = some (.start msgNo)) (after : List ProcessEvent) :
    Runs.run (Process.step parse msgNo) process
        (before ++ .socket .handshake :: after) =
      Runs.run (Process.step parse msgNo)
        (wsReady { fetched with link := some (.handshaken msgNo) } none)
        after := by
  have hstep : fetched.step parse msgNo (.socket .handshake) =
      some (wsReady { fetched with link := some (.handshaken msgNo) } none) := by
    rw [Process.step]
    rw [if_neg (by simp [hstopped]), hlink]
    simp only [Option.bind_some, Link.step_handshake_start, Option.map_some,
      Link.ready, Session.onHandshake_ready, List.foldl_cons, List.foldl_nil]
  rw [Runs.run_append, hfetched, Option.bind_some, Runs.run_cons, hstep,
    Option.bind_some]

theorem truthful_iff_restUp_of_start :
    ∃ process, Runs.run (Process.step parseExchangeInfo 0)
        (.start "api.binance.com" "/api/v3") (startThen []) = some process ∧
      process.installed = true ∧
      (process.Truthful ↔ (startThen []).foldl restUp false = true) := by
  have hrun := Process.run_first_handshake parseExchangeInfo 0
    (.start "api.binance.com" "/api/v3") fetchInstruments rfl rfl rfl
    [.gatewayInit]
  refine ⟨_, hrun, rfl, ?_⟩
  exact Process.truthful_iff_restUp parseExchangeInfo 0 "api.binance.com"
    "/api/v3" (startThen []) _ hrun rfl

theorem Process.not_truthful_of_operational {process : Process}
    (hlast : process.published.getLast? = some (.operational, ""))
    (hrest : process.rest.client.connected = false) : ¬ process.Truthful := by
  rintro ⟨status, detail, hstatus, hoperational, -⟩
  obtain ⟨rfl, -⟩ := Prod.mk.inj (Option.some.inj (hstatus.symm.trans hlast))
  simp [hrest] at hoperational

/-- After a failed write REST is disconnected, and the status still says that
the gateway is operational. -/
theorem operational_without_rest :
    ∃ process, Runs.run (Process.step parseExchangeInfo 0)
        (.start "api.binance.com" "/api/v3") (startThen restLost) =
          some process ∧
      process.installed = true ∧ process.rest.client.connected = false ∧
      process.published.getLast? = some (.operational, "") ∧
      ¬ process.Truthful := by
  have hrun := Process.run_first_handshake parseExchangeInfo 0
    (.start "api.binance.com" "/api/v3") fetchInstruments rfl rfl rfl
    (.gatewayInit :: restLost)
  refine ⟨_, hrun, rfl, rfl, rfl, ?_⟩
  exact Process.not_truthful_of_operational rfl rfl

end MultiMarketPrices.Binance
