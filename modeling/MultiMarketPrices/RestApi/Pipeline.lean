import MultiMarketPrices.RestApi.Client

/-!
# The request pipeline

However failures, reconnects and launches interleave, the client has one thing
on hand: it is connecting, or waits to retry, or serves the head of its queue,
or is connected with nothing to do, or has given up.  Every handler takes a
client from one of these phases to another, and between them the requests move
from the posted tasks through the queue to their callbacks, in launch order.
-/

namespace MultiMarketPrices.RestApi

/-- A client with the calls of callbacks so far. -/
structure Pipeline where
  client : RestClient
  invoked : List Invocation

namespace Pipeline

/-- A client that was constructed and told to run. -/
def start (host apiVersion : String) : Pipeline :=
  ⟨(RestClient.init host apiVersion).run, []⟩

def step (parse : String → Except Thrown Json) (pipeline : Pipeline)
    (event : ClientEvent) : Option Pipeline :=
  (pipeline.client.step parse event).map fun outcome =>
    ⟨outcome.client, pipeline.invoked ++ outcome.invocations⟩

end Pipeline

namespace RestClient

/-- The requests launched whose callbacks have not been called, oldest first. -/
def backlog (client : RestClient) : List PendingRequest :=
  client.queue ++ client.posted

/-- The HTTP operations that have not completed. -/
def httpOperations (client : RestClient) : List Operation :=
  client.operations.filter fun operation =>
    operation.stage.httpRequest?.isSome

/-- The waits for a retry whose handlers have not run. -/
def retries (client : RestClient) : ℕ :=
  client.armed.count .retry + client.expired.count .retry

/-! ## Phases -/

/-- What the client has on hand. -/
inductive Phase (client : RestClient) : Prop
  | connecting (stage : Stage) (hstage : stage.httpRequest? = none)
      (hoperations : client.operations = [⟨client.stream, stage⟩])
      (hconnected : client.connected = false) (hretries : client.retries = 0)
  | waiting (hoperations : client.operations = [])
      (hconnected : client.connected = false) (hretries : client.retries = 1)
  | serving (stage : Stage) (request : PendingRequest)
      (rest : List PendingRequest)
      (hstage : stage.httpRequest? = some request)
      (hoperations : client.operations = [⟨client.stream, stage⟩])
      (hqueue : client.queue = request :: rest)
      (hconnected : client.connected = true) (hretries : client.retries = 0)
      (hwritten : client.request = some (request.httpRequest client.host))
  | idle (hoperations : client.operations = []) (hqueue : client.queue = [])
      (hconnected : client.connected = true) (hretries : client.retries = 0)
  | closed (hoperations : client.operations = [])
      (hconnected : client.connected = false) (hretries : client.retries = 0)

variable {client : RestClient}

theorem serveNext_phase (hoperations : client.operations = [])
    (hconnected : client.connected = true) (hretries : client.retries = 0) :
    client.serveNext.Phase := by
  cases hqueue : client.queue with
  | nil =>
      rw [serveNext, if_pos hqueue]
      exact .idle hoperations hqueue hconnected hretries
  | cons request rest =>
      rw [serveNext, if_neg (by simp [hqueue]),
        startNextRequest_of_queue hqueue]
      exact .serving (.write request) request rest rfl (by simp [hoperations])
        hqueue hconnected hretries rfl

theorem fail_phase {ec : ErrorCode} (hec : ec ≠ .operationAborted)
    (hoperations : client.operations = []) (hretries : client.retries = 0) :
    (client.fail ec).client.Phase := by
  have hexpired : client.expired.count .retry = 0 :=
    (Nat.add_eq_zero_iff.mp hretries).2
  cases hfatal : isFatalError ec && !client.connectedOnce with
  | true =>
      rw [fail_of_fatal hec hfatal]
      exact .closed hoperations rfl (by simpa [retries] using hexpired)
  | false =>
      rw [fail_of_retry hec hfatal]
      exact .waiting hoperations rfl (by simp [retries, hexpired])

theorem onHandshake_phase (hoperations : client.operations = [])
    (hretries : client.retries = 0) :
    (client.onHandshake none).client.Phase := by
  apply serveNext_phase
  · exact hoperations
  · rfl
  · have hexpired : client.expired.count .retry = 0 :=
      (Nat.add_eq_zero_iff.mp hretries).2
    simpa [retries, cancelTimer, scheduleKeepAlive, asyncWait] using hexpired

/-- Nothing else matters to a phase. -/
theorem Phase.of_same {next : RestClient} (hphase : client.Phase)
    (hoperations : next.operations = client.operations)
    (hstream : next.stream = client.stream)
    (hconnected : next.connected = client.connected)
    (hqueue : next.queue = client.queue)
    (hrequest : next.request = client.request)
    (hhost : next.host = client.host)
    (hretries : next.retries = client.retries) : next.Phase := by
  cases hphase with
  | connecting stage hstage hbefore hoffline hnone =>
      exact .connecting stage hstage (by rw [hoperations, hbefore, hstream])
        (hconnected.trans hoffline) (hretries.trans hnone)
  | waiting hbefore hoffline hone =>
      exact .waiting (hoperations.trans hbefore) (hconnected.trans hoffline)
        (hretries.trans hone)
  | serving stage request rest hstage hbefore hhead honline hnone hwritten =>
      exact .serving stage request rest hstage
        (by rw [hoperations, hbefore, hstream]) (hqueue.trans hhead)
        (hconnected.trans honline) (hretries.trans hnone)
        (by rw [hrequest, hhost, hwritten])
  | idle hbefore hempty honline hnone =>
      exact .idle (hoperations.trans hbefore) (hqueue.trans hempty)
        (hconnected.trans honline) (hretries.trans hnone)
  | closed hbefore hoffline hnone =>
      exact .closed (hoperations.trans hbefore) (hconnected.trans hoffline)
        (hretries.trans hnone)

theorem Phase.launchRequest (hphase : client.Phase) (path : String)
    (method : Verb) (query : String) :
    (client.launchRequest path method query).Phase :=
  hphase.of_same rfl rfl rfl rfl rfl rfl rfl

/-- A launched request is served at once when the client has nothing to do. -/
theorem Phase.push (hphase : client.Phase) (request : PendingRequest) :
    (client.push request).Phase := by
  have hlength : (client.queue ++ [request]).length = 1 ↔
      client.queue = [] := by
    simp
  simp only [RestClient.push, hlength, Bool.and_eq_true, decide_eq_true_eq]
  cases hphase with
  | connecting stage hstage hoperations hconnected hretries =>
      rw [if_neg (by simp [hconnected])]
      exact .connecting stage hstage hoperations hconnected hretries
  | waiting hoperations hconnected hretries =>
      rw [if_neg (by simp [hconnected])]
      exact .waiting hoperations hconnected hretries
  | serving stage current rest hstage hoperations hqueue hconnected hretries
      hwritten =>
      rw [if_neg (by simp [hqueue])]
      exact .serving stage current (rest ++ [request]) hstage hoperations
        (by simp [hqueue]) hconnected hretries hwritten
  | idle hoperations hqueue hconnected hretries =>
      rw [if_pos ⟨hqueue, hconnected⟩]
      have hnext : ({ client with queue := client.queue ++ [request] } :
          RestClient).serveNext.Phase :=
        serveNext_phase hoperations hconnected hretries
      rwa [serveNext, if_neg (by simp)] at hnext
  | closed hoperations hconnected hretries =>
      rw [if_neg (by simp [hconnected])]
      exact .closed hoperations hconnected hretries

theorem Phase.scheduleKeepAlive (hphase : client.Phase)
    (hconnected : client.connected = true) :
    client.scheduleKeepAlive.Phase := by
  have hretries : client.retries = 0 := by
    cases hphase with
    | serving _ _ _ _ _ _ _ hretries => exact hretries
    | idle _ _ _ hretries => exact hretries
    | connecting _ _ _ hoffline => simp [hoffline] at hconnected
    | waiting _ hoffline => simp [hoffline] at hconnected
    | closed _ hoffline => simp [hoffline] at hconnected
  have hexpired : client.expired.count .retry = 0 :=
    (Nat.add_eq_zero_iff.mp hretries).2
  refine hphase.of_same rfl rfl rfl rfl rfl rfl ?_
  rw [hretries]
  simpa [retries, RestClient.scheduleKeepAlive, cancelTimer, asyncWait]
    using hexpired

theorem Phase.keepAlive (hphase : client.Phase) : client.keepAlive.Phase := by
  rw [RestClient.keepAlive]
  by_cases hconnected : client.connected = true
  · rw [if_neg (by simp [hconnected])]
    split
    · exact (hphase.launchRequest "/ping" .get "").scheduleKeepAlive hconnected
    · exact hphase.scheduleKeepAlive hconnected
  · rw [if_pos (by simpa using hconnected)]
    exact hphase

/-- The end of an operation that makes the connection. -/
theorem complete_connecting {parse : String → Except Thrown Json}
    {stage : Stage} {ec : Option ErrorCode} {sni : Option ℤ} {body : String}
    (hstage : stage.httpRequest? = none) (hec : ec ≠ some .operationAborted)
    (hoperations : client.operations = [])
    (hconnected : client.connected = false) (hretries : client.retries = 0) :
    (client.complete parse stage ec sni body).client.Phase := by
  cases ec with
  | some ec =>
      rw [complete_of_failure]
      exact fail_phase (fun heq => hec (congrArg some heq)) hoperations hretries
  | none =>
      cases stage with
      | write | read => simp [Stage.httpRequest?] at hstage
      | resolve =>
          refine .connecting .connect rfl ?_ hconnected hretries
          simp [complete, onResolve, begin, hoperations]
      | connect =>
          cases sni with
          | some value => exact fail_phase (by simp) hoperations hretries
          | none =>
              refine .connecting .handshake rfl ?_ hconnected hretries
              simp [complete, onConnect, begin, hoperations]
      | handshake => exact onHandshake_phase hoperations hretries

/-- The end of an operation that serves the head of the queue. -/
theorem complete_serving {parse : String → Except Thrown Json} {stage : Stage}
    {ec : Option ErrorCode} {sni : Option ℤ} {body : String}
    {request : PendingRequest} {rest : List PendingRequest}
    (hstage : stage.httpRequest? = some request)
    (hec : ec ≠ some .operationAborted) (hoperations : client.operations = [])
    (hqueue : client.queue = request :: rest)
    (hconnected : client.connected = true) (hretries : client.retries = 0)
    (hwritten : client.request = some (request.httpRequest client.host)) :
    (client.complete parse stage ec sni body).client.Phase := by
  cases ec with
  | some ec =>
      rw [complete_of_failure]
      exact fail_phase (fun heq => hec (congrArg some heq)) hoperations hretries
  | none =>
      cases stage with
      | resolve | connect | handshake => simp [Stage.httpRequest?] at hstage
      | write written =>
          obtain rfl := Option.some.inj hstage
          refine .serving (.read written) written rest rfl ?_ hqueue hconnected
            hretries hwritten
          simp [complete, onWrite, doRead, begin, hoperations]
      | read written =>
          simp only [complete, onRead, hqueue]
          exact serveNext_phase hoperations hconnected hretries

theorem Phase.complete {parse : String → Except Thrown Json}
    {operation : Operation} {ec : Option ErrorCode} {sni : Option ℤ}
    {body : String} (hphase : client.Phase)
    (hmem : operation ∈ client.operations)
    (hec : ¬ (ec = some .operationAborted ∧
      operation.stream = client.stream)) :
    (({ client with operations := client.operations.erase operation } :
      RestClient).complete parse operation.stage ec sni body).client.Phase := by
  cases hphase with
  | waiting hoperations => simp [hoperations] at hmem
  | idle hoperations => simp [hoperations] at hmem
  | closed hoperations => simp [hoperations] at hmem
  | connecting stage hstage hoperations hconnected hretries =>
      obtain rfl : operation = ⟨client.stream, stage⟩ := by
        simpa [hoperations] using hmem
      exact complete_connecting hstage (fun heq => hec ⟨heq, rfl⟩)
        (by simp [hoperations]) hconnected hretries
  | serving stage request rest hstage hoperations hqueue hconnected hretries
      hwritten =>
      obtain rfl : operation = ⟨client.stream, stage⟩ := by
        simpa [hoperations] using hmem
      exact complete_serving hstage (fun heq => hec ⟨heq, rfl⟩)
        (by simp [hoperations]) hqueue hconnected hretries hwritten

/-- A retry runs only while the client waits for it. -/
theorem Phase.run (hphase : client.Phase) (hmem : .retry ∈ client.expired) :
    ({ client with expired := client.expired.erase .retry } :
      RestClient).run.Phase := by
  have hcount : 0 < client.expired.count .retry := List.count_pos_iff.mpr hmem
  have hpositive : client.retries ≠ 0 := by
    simp only [retries]
    omega
  cases hphase with
  | connecting _ _ _ _ hretries => exact absurd hretries hpositive
  | serving _ _ _ _ _ _ _ hretries => exact absurd hretries hpositive
  | idle _ _ _ hretries => exact absurd hretries hpositive
  | closed _ _ hretries => exact absurd hretries hpositive
  | waiting hoperations hconnected hretries =>
      refine .connecting .resolve rfl ?_ hconnected ?_
      · simp [RestClient.run, begin, hoperations]
      · simp only [retries] at hretries
        simp [RestClient.run, begin, retries]
        omega

theorem step_phase {parse : String → Except Thrown Json} {event : ClientEvent}
    {outcome : Outcome} (hphase : client.Phase)
    (hstep : client.step parse event = some outcome) :
    outcome.client.Phase := by
  cases stepped_of_step hstep with
  | launch path method query => exact hphase.launchRequest path method query
  | runPosted request rest hposted =>
      refine Phase.push ?_ request
      exact hphase.of_same rfl rfl rfl rfl rfl rfl rfl
  | completed operation ec sni body hmem hec => exact hphase.complete hmem hec
  | expire =>
      refine hphase.of_same rfl rfl rfl rfl rfl rfl ?_
      simp [retries, Nat.add_comm]
  | retry hmem => exact hphase.run hmem
  | keepAlive hmem =>
      refine Phase.keepAlive ?_
      refine hphase.of_same rfl rfl rfl rfl rfl rfl ?_
      simp [retries]

/-! ## Where the requests go -/

/-- The requests whose callbacks a handler calls come off the front of the
backlog, and the one it launches, if any, goes to the end of it. -/
structure Conserves (client : RestClient) (outcome : Outcome)
    (launched : List PendingRequest) : Prop where
  hbacklog : outcome.invocations.map Invocation.request ++
    outcome.client.backlog = client.backlog ++ launched
  htickets : launched.map PendingRequest.ticket =
    List.range' client.tickets launched.length
  hcount : outcome.client.tickets = client.tickets + launched.length

/-- The tickets of the callbacks called and of the backlog stay in launch
order. -/
theorem Conserves.order {outcome : Outcome} {launched : List PendingRequest}
    (hconserves : Conserves client outcome launched)
    {invoked : List Invocation}
    (horder : (invoked.map Invocation.request ++ client.backlog).map
      PendingRequest.ticket = List.range client.tickets) :
    ((invoked ++ outcome.invocations).map Invocation.request ++
      outcome.client.backlog).map PendingRequest.ticket =
        List.range outcome.client.tickets := by
  calc
    _ = (invoked.map Invocation.request ++
          (outcome.invocations.map Invocation.request ++
            outcome.client.backlog)).map PendingRequest.ticket := by
        simp only [List.map_append, List.append_assoc]
    _ = (invoked.map Invocation.request ++ client.backlog).map
          PendingRequest.ticket ++ launched.map PendingRequest.ticket := by
        rw [hconserves.hbacklog, ← List.append_assoc, List.map_append]
    _ = List.range client.tickets ++
          List.range' client.tickets launched.length := by
        rw [horder, hconserves.htickets]
    _ = List.range outcome.client.tickets := by
        rw [hconserves.hcount, List.range_eq_range', List.range_eq_range',
          ← List.range'_append_1, Nat.zero_add]

/-- A handler that neither launches nor calls back. -/
theorem Conserves.of_same {next : RestClient} {ready : List (Option ErrorCode)}
    (hqueue : next.queue = client.queue) (hposted : next.posted = client.posted)
    (htickets : next.tickets = client.tickets) :
    Conserves client ⟨next, [], ready⟩ [] where
  hbacklog := by simp [backlog, hqueue, hposted]
  htickets := rfl
  hcount := htickets

theorem startNextRequest_backlog (client : RestClient) :
    client.startNextRequest.queue = client.queue ∧
      client.startNextRequest.posted = client.posted ∧
      client.startNextRequest.tickets = client.tickets := by
  cases hqueue : client.queue with
  | nil => simp [startNextRequest, hqueue]
  | cons current rest => simp [startNextRequest_of_queue hqueue, hqueue]

theorem serveNext_backlog (client : RestClient) :
    client.serveNext.queue = client.queue ∧
      client.serveNext.posted = client.posted ∧
      client.serveNext.tickets = client.tickets := by
  rw [serveNext]
  split
  · exact ⟨rfl, rfl, rfl⟩
  · exact startNextRequest_backlog client

theorem map_request_refusals (ec : ErrorCode) (requests : List PendingRequest) :
    (refusals ec requests).map Invocation.request = requests := by
  simp [refusals, Function.comp_def]

theorem fail_conserves (client : RestClient) (ec : ErrorCode) :
    Conserves client (client.fail ec) [] := by
  by_cases hec : ec = .operationAborted
  · rw [fail, if_pos hec]
    exact .of_same rfl rfl rfl
  · cases hfatal : isFatalError ec && !client.connectedOnce with
    | true =>
        rw [fail_of_fatal hec hfatal]
        exact ⟨by simp [backlog, map_request_refusals], rfl, rfl⟩
    | false =>
        rw [fail_of_retry hec hfatal]
        exact .of_same rfl rfl rfl

theorem launchRequest_conserves (client : RestClient) (path : String)
    (method : Verb) (query : String) :
    ∃ launched, Conserves client ⟨client.launchRequest path method query, [], []⟩
      launched := by
  obtain ⟨target, hlaunch⟩ : ∃ target,
      client.launchRequest path method query =
        { client with
          posted := client.posted ++ [⟨target, method, query, client.tickets⟩]
          tickets := client.tickets + 1 } := ⟨_, rfl⟩
  rw [hlaunch]
  exact ⟨[⟨target, method, query, client.tickets⟩], by simp [backlog], rfl, rfl⟩

theorem keepAlive_conserves (client : RestClient) :
    ∃ launched, Conserves client ⟨client.keepAlive, [], []⟩ launched := by
  rw [keepAlive]
  split
  · exact ⟨[], .of_same rfl rfl rfl⟩
  · split
    · obtain ⟨launched, hlaunched⟩ :=
        client.launchRequest_conserves "/ping" .get ""
      exact ⟨launched, hlaunched.hbacklog, hlaunched.htickets, hlaunched.hcount⟩
    · exact ⟨[], .of_same rfl rfl rfl⟩

theorem complete_conserves (client : RestClient)
    (parse : String → Except Thrown Json) (stage : Stage)
    (ec : Option ErrorCode) (sni : Option ℤ) (body : String) :
    Conserves client (client.complete parse stage ec sni body) [] := by
  cases ec with
  | some ec =>
      rw [complete_of_failure]
      exact fail_conserves client ec
  | none =>
      cases stage with
      | resolve => exact .of_same rfl rfl rfl
      | connect =>
          cases sni with
          | some value => exact fail_conserves client (.ssl value)
          | none => exact .of_same rfl rfl rfl
      | handshake =>
          obtain ⟨hqueue, hposted, htickets⟩ := serveNext_backlog
            ({ client with connected := true, connectedOnce := true } :
              RestClient).cancelTimer.scheduleKeepAlive
          exact .of_same hqueue hposted htickets
      | write request => exact .of_same rfl rfl rfl
      | read request =>
          simp only [complete, onRead]
          cases hqueue : client.queue with
          | nil => exact .of_same rfl rfl rfl
          | cons front rest =>
              obtain ⟨hrest, hposted, htickets⟩ :=
                serveNext_backlog { client with queue := rest }
              refine ⟨?_, rfl, htickets⟩
              simp [backlog, hrest, hposted, hqueue]

theorem push_conserves (request : PendingRequest)
    {rest : List PendingRequest} (hposted : client.posted = request :: rest) :
    Conserves client ⟨{ client with posted := rest }.push request, [], []⟩
      [] := by
  obtain ⟨hqueue, hrest, htickets⟩ := startNextRequest_backlog
    { client with posted := rest, queue := client.queue ++ [request] }
  refine ⟨?_, rfl, ?_⟩
  · simp only [push]
    split
    · simp [backlog, hqueue, hrest, hposted]
    · simp [backlog, hposted]
  · simp only [push]
    split
    · exact htickets
    · rfl

theorem step_conserves {parse : String → Except Thrown Json}
    {event : ClientEvent} {outcome : Outcome}
    (hstep : client.step parse event = some outcome) :
    ∃ launched, Conserves client outcome launched := by
  cases stepped_of_step hstep with
  | launch path method query =>
      exact client.launchRequest_conserves path method query
  | runPosted request rest hposted => exact ⟨[], push_conserves request hposted⟩
  | completed operation ec sni body hmem hec =>
      have hcompleted := complete_conserves
        { client with operations := client.operations.erase operation }
        parse operation.stage ec sni body
      exact ⟨[], hcompleted.hbacklog, hcompleted.htickets, hcompleted.hcount⟩
  | expire => exact ⟨[], .of_same rfl rfl rfl⟩
  | retry hmem => exact ⟨[], .of_same rfl rfl rfl⟩
  | keepAlive hmem =>
      obtain ⟨launched, hlaunched⟩ := keepAlive_conserves
        { client with expired := client.expired.erase .keepAlive }
      exact ⟨launched, hlaunched.hbacklog, hlaunched.htickets,
        hlaunched.hcount⟩

/-! ## Whose callback gets a response -/

/-- A failure gives no response to anyone. -/
theorem fail_unanswered {ec : ErrorCode} {invocation : Invocation}
    (hmem : invocation ∈ (client.fail ec).invocations) :
    invocation.answered = none := by
  by_cases hec : ec = .operationAborted
  · simp [fail, hec] at hmem
  · cases hfatal : isFatalError ec && !client.connectedOnce with
    | true =>
        rw [fail_of_fatal hec hfatal] at hmem
        obtain ⟨refused, -, rfl⟩ := List.mem_map.mp hmem
        rfl
    | false => simp [fail_of_retry hec hfatal] at hmem

/-- A response goes to the callback of the head of the queue. -/
theorem complete_answered {parse : String → Except Thrown Json} {stage : Stage}
    {ec : Option ErrorCode} {sni : Option ℤ} {body : String}
    {invocation : Invocation} {request : PendingRequest}
    (hmem : invocation ∈ (client.complete parse stage ec sni body).invocations)
    (hanswered : invocation.answered = some request) :
    stage = .read request ∧ client.queue.head? = some invocation.request := by
  have hfail : ∀ ec, invocation ∉ (client.fail ec).invocations := by
    intro ec hfailed
    rw [fail_unanswered hfailed] at hanswered
    cases hanswered
  cases ec with
  | some ec =>
      rw [complete_of_failure] at hmem
      exact absurd hmem (hfail ec)
  | none =>
      cases stage with
      | resolve => simp [complete, onResolve] at hmem
      | connect =>
          cases sni with
          | some value => exact absurd hmem (hfail (.ssl value))
          | none => simp [complete, onConnect] at hmem
      | handshake => simp [complete, onHandshake] at hmem
      | write written => simp [complete, onWrite] at hmem
      | read written =>
          cases hqueue : client.queue with
          | nil => simp [complete, onRead, hqueue] at hmem
          | cons front rest =>
              simp only [complete, onRead, hqueue, List.mem_singleton] at hmem
              subst hmem
              obtain rfl := Option.some.inj hanswered
              exact ⟨rfl, rfl⟩

/-- An HTTP operation serves the head of the queue, and what was given to
`async_write` for it has not been overwritten. -/
theorem Phase.head (hphase : client.Phase) {operation : Operation}
    (hmem : operation ∈ client.operations) {request : PendingRequest}
    (hrequest : operation.stage.httpRequest? = some request) :
    client.queue.head? = some request ∧
      client.request = some (request.httpRequest client.host) := by
  cases hphase with
  | waiting hoperations => simp [hoperations] at hmem
  | idle hoperations => simp [hoperations] at hmem
  | closed hoperations => simp [hoperations] at hmem
  | connecting stage hstage hoperations =>
      obtain rfl : operation = ⟨client.stream, stage⟩ := by
        simpa [hoperations] using hmem
      simp [hstage] at hrequest
  | serving stage head rest hstage hoperations hqueue _ _ hwritten =>
      obtain rfl : operation = ⟨client.stream, stage⟩ := by
        simpa [hoperations] using hmem
      obtain rfl := Option.some.inj (hstage.symm.trans hrequest)
      exact ⟨by rw [hqueue, List.head?_cons], hwritten⟩

theorem step_answered {parse : String → Except Thrown Json}
    {event : ClientEvent} {outcome : Outcome} (hphase : client.Phase)
    (hstep : client.step parse event = some outcome) {invocation : Invocation}
    (hmem : invocation ∈ outcome.invocations) {request : PendingRequest}
    (hanswered : invocation.answered = some request) :
    request = invocation.request := by
  cases stepped_of_step hstep with
  | launch | runPosted | expire | retry | keepAlive => simp at hmem
  | completed operation ec sni body hoperation hec =>
      obtain ⟨hstage, hhead⟩ := complete_answered hmem hanswered
      have hserved := (hphase.head hoperation (by rw [hstage]; rfl)).1
      exact Option.some.inj (hserved.symm.trans hhead)

theorem fail_keeps_queue {ec : ErrorCode} (hec : ec ≠ .operationAborted)
    (hretry : (isFatalError ec && !client.connectedOnce) = false) :
    (client.fail ec).client.queue = client.queue ∧
      (client.fail ec).client.connected = false := by
  rw [fail_of_retry hec hretry]
  exact ⟨rfl, rfl⟩

theorem serveNext_writes {request : PendingRequest}
    {rest : List PendingRequest} (hqueue : client.queue = request :: rest) :
    client.serveNext.queue = request :: rest ∧
      ⟨client.serveNext.stream, .write request⟩ ∈
        client.serveNext.operations := by
  rw [serveNext, if_neg (by simp [hqueue]), startNextRequest_of_queue hqueue]
  exact ⟨hqueue, by simp⟩

/-- A handshake writes the head of the queue. -/
theorem onHandshake_writes {request : PendingRequest}
    {rest : List PendingRequest} (hqueue : client.queue = request :: rest) :
    (client.onHandshake none).client.queue = request :: rest ∧
      ⟨(client.onHandshake none).client.stream, .write request⟩ ∈
        (client.onHandshake none).client.operations := by
  apply serveNext_writes
  exact hqueue

theorem Phase.only (hphase : client.Phase) {operation : Operation}
    (hmem : operation ∈ client.operations) :
    client.operations = [operation] ∧ operation.stream = client.stream := by
  cases hphase with
  | waiting hoperations => simp [hoperations] at hmem
  | idle hoperations => simp [hoperations] at hmem
  | closed hoperations => simp [hoperations] at hmem
  | connecting stage _ hoperations =>
      obtain rfl : operation = ⟨client.stream, stage⟩ := by
        simpa [hoperations] using hmem
      exact ⟨hoperations, rfl⟩
  | serving stage _ _ _ hoperations =>
      obtain rfl : operation = ⟨client.stream, stage⟩ := by
        simpa [hoperations] using hmem
      exact ⟨hoperations, rfl⟩

/-- An operation that completes is the only one, and was not aborted. -/
theorem step_completed {parse : String → Except Thrown Json}
    {operation : Operation} {ec : Option ErrorCode} {sni : Option ℤ}
    {body : String} {outcome : Outcome} (hphase : client.Phase)
    (hstep : client.step parse (.completed operation ec sni body) =
      some outcome) :
    ec ≠ some .operationAborted ∧
      outcome = ({ client with operations := [] } : RestClient).complete parse
        operation.stage ec sni body := by
  cases stepped_of_step hstep with
  | completed _ _ _ _ hmem hec =>
      obtain ⟨honly, hstream⟩ := hphase.only hmem
      have hnone : client.operations.erase operation = [] := by simp [honly]
      exact ⟨fun heq => hec ⟨heq, hstream⟩, by rw [hnone]⟩

end RestClient

/-! ## Runs -/

/-- The state of an exactly matched pipeline.  Tickets count the launches, so
`horder` says that the launched requests are, in launch order, those whose
callbacks have been called, then the queue, then the tasks not yet run. -/
structure Matched (pipeline : Pipeline) : Prop where
  hone : pipeline.client.httpOperations.length ≤ 1
  hbusy : pipeline.client.connected = true → pipeline.client.queue ≠ [] →
    pipeline.client.httpOperations.length = 1
  hanswered : ∀ invocation ∈ pipeline.invoked, ∀ request,
    invocation.answered = some request → request = invocation.request
  horder : (pipeline.invoked.map Invocation.request ++
    (pipeline.client.queue ++ pipeline.client.posted)).map
      PendingRequest.ticket = List.range pipeline.client.tickets
  hhead : ∀ operation ∈ pipeline.client.operations, ∀ request,
    operation.stage.httpRequest? = some request →
    pipeline.client.queue.head? = some request ∧
      pipeline.client.request =
        some (request.httpRequest pipeline.client.host)

/-- A failure that is not fatal leaves the queue as it is, and the next
handshake writes its head again. -/
structure Resends (parse : String → Except Thrown Json) (pipeline : Pipeline) :
    Prop where
  hkept : ∀ operation ec sni body next,
    pipeline.step parse (.completed operation (some ec) sni body) =
      some next →
    (isFatalError ec && !pipeline.client.connectedOnce) = false →
    next.client.queue = pipeline.client.queue ∧ next.client.connected = false
  hresent : ∀ stream sni body next request rest,
    pipeline.step parse (.completed ⟨stream, .handshake⟩ none sni body) =
      some next →
    pipeline.client.queue = request :: rest →
    next.client.queue = request :: rest ∧
      ⟨next.client.stream, .write request⟩ ∈ next.client.operations

/-- What every step of the pipeline keeps. -/
structure Kept (pipeline : Pipeline) : Prop where
  hphase : pipeline.client.Phase
  hanswered : ∀ invocation ∈ pipeline.invoked, ∀ request,
    invocation.answered = some request → request = invocation.request
  horder : (pipeline.invoked.map Invocation.request ++
    pipeline.client.backlog).map PendingRequest.ticket =
      List.range pipeline.client.tickets

theorem kept_start (host apiVersion : String) :
    Kept (.start host apiVersion) where
  hphase := .connecting .resolve rfl rfl rfl rfl
  hanswered := by simp [Pipeline.start]
  horder := rfl

variable {parse : String → Except Thrown Json} {pipeline next : Pipeline}

theorem Kept.step {event : ClientEvent} (hkept : Kept pipeline)
    (hstep : pipeline.step parse event = some next) : Kept next := by
  obtain ⟨outcome, houtcome, rfl⟩ := Option.map_eq_some_iff.mp hstep
  refine ⟨RestClient.step_phase hkept.hphase houtcome, ?_, ?_⟩
  · intro invocation hmem request hanswered
    rcases List.mem_append.mp hmem with hearlier | hnow
    · exact hkept.hanswered invocation hearlier request hanswered
    · exact RestClient.step_answered hkept.hphase houtcome hnow hanswered
  · obtain ⟨launched, hlaunched⟩ := RestClient.step_conserves houtcome
    exact hlaunched.order hkept.horder

theorem Kept.matched (hkept : Kept pipeline) : Matched pipeline where
  hone := by
    cases hkept.hphase with
    | waiting hoperations => simp [RestClient.httpOperations, hoperations]
    | idle hoperations => simp [RestClient.httpOperations, hoperations]
    | closed hoperations => simp [RestClient.httpOperations, hoperations]
    | connecting stage hstage hoperations =>
        simp [RestClient.httpOperations, hoperations, hstage]
    | serving stage request rest hstage hoperations =>
        simp [RestClient.httpOperations, hoperations, hstage]
  hbusy hconnected hqueue := by
    cases hkept.hphase with
    | connecting _ _ _ hoffline => simp [hoffline] at hconnected
    | waiting _ hoffline => simp [hoffline] at hconnected
    | closed _ hoffline => simp [hoffline] at hconnected
    | idle _ hempty => exact absurd hempty hqueue
    | serving stage request rest hstage hoperations =>
        simp [RestClient.httpOperations, hoperations, hstage]
  hanswered := hkept.hanswered
  horder := hkept.horder
  hhead operation hmem request hrequest := hkept.hphase.head hmem hrequest

theorem Kept.resends (hkept : Kept pipeline) : Resends parse pipeline where
  hkept operation ec sni body next hstep hretry := by
    obtain ⟨outcome, houtcome, rfl⟩ := Option.map_eq_some_iff.mp hstep
    obtain ⟨hec, rfl⟩ := RestClient.step_completed hkept.hphase houtcome
    rw [RestClient.complete_of_failure]
    exact RestClient.fail_keeps_queue (fun heq => hec (congrArg some heq))
      hretry
  hresent stream sni body next request rest hstep hqueue := by
    obtain ⟨outcome, houtcome, rfl⟩ := Option.map_eq_some_iff.mp hstep
    obtain ⟨-, rfl⟩ := RestClient.step_completed hkept.hphase houtcome
    exact RestClient.onHandshake_writes hqueue

/-- In every state of every run of the client, the pipeline is exactly matched,
and resends what a failure interrupts. -/
theorem matched_of_run (parse : String → Except Thrown Json)
    (host apiVersion : String) (events : List ClientEvent)
    (pipeline : Pipeline)
    (hrun : Runs.run (Pipeline.step parse) (.start host apiVersion) events =
      some pipeline) :
    Matched pipeline ∧ Resends parse pipeline := by
  have hkept : Kept pipeline := Runs.run_invariant Kept
    (fun _ _ _ hbefore hstep => hbefore.step hstep)
    (kept_start host apiVersion) hrun
  exact ⟨hkept.matched, hkept.resends⟩

/-- A request whose first write fails, and which is answered on the second
connection. -/
def interruptedService : List ClientEvent :=
  let request : PendingRequest := ⟨"/api/v3/time", .get, "", 0⟩
  [.completed ⟨0, .resolve⟩ none none "", .completed ⟨0, .connect⟩ none none "",
    .completed ⟨0, .handshake⟩ none none "", .launch "/time" .get "",
    .runPosted, .completed ⟨0, .write request⟩ (some (.other 104)) none "",
    .expire, .timer .retry, .completed ⟨1, .resolve⟩ none none "",
    .completed ⟨1, .connect⟩ none none "",
    .completed ⟨1, .handshake⟩ none none "",
    .completed ⟨1, .write request⟩ none none "",
    .completed ⟨1, .read request⟩ none none ""]

theorem matched_of_run_interrupted :
    ∃ pipeline,
      Runs.run (Pipeline.step fun _ => .error .parse)
        (.start "api.binance.com" "/api/v3") interruptedService =
          some pipeline ∧
      pipeline.invoked.map Invocation.ec = [none] ∧
      Matched pipeline ∧ Resends (fun _ => .error .parse) pipeline := by
  refine ⟨_, rfl, rfl, ?_⟩
  exact matched_of_run (fun _ => .error .parse) "api.binance.com" "/api/v3"
    interruptedService _ rfl

end MultiMarketPrices.RestApi
