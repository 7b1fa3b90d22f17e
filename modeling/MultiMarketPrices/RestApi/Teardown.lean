import MultiMarketPrices.RestApi.Connectivity
import MultiMarketPrices.RestApi.Pipeline

/-!
# Stopping the REST client

The task that `stop` posts empties the queue and shuts the stream down, but
leaves the operation in flight and `m_connected` as they are.  The client is
torn down safely as long as neither of the two makes it go on with the stream.
-/

namespace MultiMarketPrices.RestApi

/-- A pipeline that may be stopped. -/
structure Teardown extends Pipeline where
  /-- the streams that a `stop` has shut down -/
  closed : List ℕ
  /-- the requests that were in the queue when a `stop` ran -/
  drained : List PendingRequest
  /-- how often `on_read` ran `front()` and `pop()` on an empty queue -/
  emptyReads : ℕ
  /-- the HTTP operations that were started on a closed stream -/
  lateOperations : List Operation

inductive TeardownEvent
  | client (event : ClientEvent)
  /-- the task that `stop` posts runs -/
  | stop
  /-- an operation on a closed stream completes as aborted -/
  | aborted (operation : Operation)

/-- Whether `on_read` takes a callback from an empty queue. -/
def RestClient.readsEmpty (client : RestClient) : ClientEvent → ℕ
  | .completed ⟨_, .read _⟩ none _ _ => if client.queue = [] then 1 else 0
  | _ => 0

/-- The operations that have been started between two states. -/
def RestClient.started (client next : RestClient) : List Operation :=
  next.operations.diff client.operations

/-- An HTTP operation on a closed stream. -/
def Operation.isLate (closed : List ℕ) (operation : Operation) : Bool :=
  operation.stage.httpRequest?.isSome && decide (operation.stream ∈ closed)

/-- On a closed stream no HTTP operation succeeds, no handshake succeeds while
requests wait, and no launched request is pushed while the client is
connected. -/
def RestClient.SparesStream (closed : List ℕ) (client : RestClient) :
    ClientEvent → Prop
  | .completed operation none _ _ => client.stream ∈ closed →
      operation.stage.httpRequest? = none ∧
        (operation.stage = .handshake → client.queue = [])
  | .runPosted => client.stream ∈ closed → client.connected = false
  | _ => True

namespace Teardown

def start (host apiVersion : String) : Teardown where
  toPipeline := .start host apiVersion
  closed := []
  drained := []
  emptyReads := 0
  lateOperations := []

def step (parse : String → Except Thrown Json) (teardown : Teardown) :
    TeardownEvent → Option Teardown
  | .client event =>
      (teardown.client.step parse event).map fun outcome =>
        { teardown with
          client := outcome.client
          invoked := teardown.invoked ++ outcome.invocations
          emptyReads := teardown.emptyReads + teardown.client.readsEmpty event
          lateOperations := teardown.lateOperations ++
            (teardown.client.started outcome.client).filter
              (Operation.isLate teardown.closed) }
  | .stop =>
      let torn := teardown.client.closeConnection
      some
        { teardown with
          client := torn.1
          invoked := teardown.invoked ++ torn.2
          closed := teardown.client.stream :: teardown.closed
          drained := teardown.drained ++ teardown.client.queue }
  | .aborted operation =>
      if operation ∈ teardown.client.operations ∧
          operation.stream ∈ teardown.closed then
        let outcome := { teardown.client with
          operations := teardown.client.operations.erase operation }.complete
            parse operation.stage (some .operationAborted) none ""
        some
          { teardown with
            client := outcome.client
            invoked := teardown.invoked ++ outcome.invocations }
      else
        none

/-- No event makes the client go on with a closed stream. -/
def Spares (teardown : Teardown) : TeardownEvent → Prop
  | .client event => teardown.client.SparesStream teardown.closed event
  | _ => True

/-- The callback of every request that a `stop` found in the queue was called
once, with an error; no response was read for another request than the one
whose callback got it; and neither was the queue read when empty nor a closed
stream used again. -/
structure Safe (teardown : Teardown) : Prop where
  hdrained : ∀ request ∈ teardown.drained,
    (teardown.invoked.map fun invocation => invocation.request.ticket).count
      request.ticket = 1 ∧
    ∀ invocation ∈ teardown.invoked,
      invocation.request.ticket = request.ticket → invocation.ec ≠ none
  hanswered : ∀ invocation ∈ teardown.invoked, ∀ request,
    invocation.answered = some request → request = invocation.request
  hreads : teardown.emptyReads = 0
  hoperations : teardown.lateOperations = []

end Teardown

namespace RestClient

variable {client : RestClient} {closed : List ℕ}

/-! ## What a stopped client has on hand -/

/-- A client that is connected over a closed stream has nothing to serve. -/
def Quiet (closed : List ℕ) (client : RestClient) : Prop :=
  client.stream ∈ closed → client.connected = true → client.queue = []

/-- A client is in a phase, or its queue was drained under an HTTP operation. -/
inductive Standing (closed : List ℕ) (client : RestClient) : Prop
  | live (hphase : client.Phase) (hquiet : client.Quiet closed)
  | drained (stage : Stage) (request : PendingRequest)
      (hstage : stage.httpRequest? = some request)
      (hoperations : client.operations = [⟨client.stream, stage⟩])
      (hclosed : client.stream ∈ closed) (hconnected : client.connected = true)
      (hqueue : client.queue = []) (hretries : client.retries = 0)

theorem startNextRequest_stream (client : RestClient) :
    client.startNextRequest.stream = client.stream := by
  cases hqueue : client.queue with
  | nil => simp [startNextRequest, hqueue]
  | cons current rest => simp [startNextRequest_of_queue hqueue]

theorem serveNext_stream (client : RestClient) :
    client.serveNext.stream = client.stream := by
  rw [serveNext]
  split
  · rfl
  · exact client.startNextRequest_stream

theorem push_stream (client : RestClient) (request : PendingRequest) :
    (client.push request).stream = client.stream := by
  simp only [push]
  split
  · exact startNextRequest_stream _
  · rfl

theorem le_stream_fail (client : RestClient) (ec : ErrorCode) :
    client.stream ≤ (client.fail ec).client.stream := by
  by_cases hec : ec = .operationAborted
  · simp [fail, hec]
  · cases hfatal : isFatalError ec && !client.connectedOnce with
    | true => rw [fail_of_fatal hec hfatal]
    | false =>
        rw [fail_of_retry hec hfatal]
        exact Nat.le_succ _

theorem le_stream_complete (client : RestClient)
    (parse : String → Except Thrown Json) (stage : Stage)
    (ec : Option ErrorCode) (sni : Option ℤ) (body : String) :
    client.stream ≤ (client.complete parse stage ec sni body).client.stream := by
  cases ec with
  | some ec =>
      rw [complete_of_failure]
      exact client.le_stream_fail ec
  | none =>
      cases stage with
      | resolve => exact le_rfl
      | connect =>
          cases sni with
          | some value => exact client.le_stream_fail (.ssl value)
          | none => exact le_rfl
      | handshake =>
          have hserved := serveNext_stream
            ({ client with connected := true, connectedOnce := true } :
              RestClient).cancelTimer.scheduleKeepAlive
          exact hserved.ge
      | write request => exact le_rfl
      | read request =>
          simp only [complete, onRead]
          cases client.queue with
          | nil => exact le_rfl
          | cons front rest =>
              exact (serveNext_stream { client with queue := rest }).ge

theorem le_stream_step {parse : String → Except Thrown Json}
    {event : ClientEvent} {outcome : Outcome}
    (hstep : client.step parse event = some outcome) :
    client.stream ≤ outcome.client.stream := by
  cases stepped_of_step hstep with
  | launch path method query => exact le_rfl
  | runPosted request rest hposted =>
      exact (push_stream { client with posted := rest } request).ge
  | completed operation ec sni body hmem hec =>
      exact le_stream_complete
        { client with operations := client.operations.erase operation } parse
        operation.stage ec sni body
  | expire => exact le_rfl
  | retry hmem => exact le_rfl
  | keepAlive hmem =>
      simp only [keepAlive]
      split
      · exact le_rfl
      · split <;> exact le_rfl

/-! ## One event -/

/-- A failure leaves the stream, or the connection. -/
theorem Quiet.fail (hquiet : client.Quiet closed)
    (hstreams : ∀ stream ∈ closed, stream ≤ client.stream) (ec : ErrorCode) :
    (client.fail ec).client.Quiet closed := by
  by_cases hec : ec = .operationAborted
  · rw [RestClient.fail, if_pos hec]
    exact hquiet
  · cases hfatal : isFatalError ec && !client.connectedOnce with
    | true =>
        rw [fail_of_fatal hec hfatal]
        exact fun _ _ => rfl
    | false =>
        rw [fail_of_retry hec hfatal]
        intro hclosed _
        exact absurd (hstreams _ hclosed) (by simp)

theorem Quiet.complete (hquiet : client.Quiet closed)
    (hstreams : ∀ stream ∈ closed, stream ≤ client.stream)
    (parse : String → Except Thrown Json) {stage : Stage}
    {ec : Option ErrorCode} (sni : Option ℤ) (body : String)
    (hguard : ec = none → client.stream ∈ closed →
      stage.httpRequest? = none ∧ (stage = .handshake → client.queue = [])) :
    (client.complete parse stage ec sni body).client.Quiet closed := by
  cases ec with
  | some ec =>
      rw [complete_of_failure]
      exact hquiet.fail hstreams ec
  | none =>
      cases stage with
      | resolve => exact hquiet
      | connect =>
          cases sni with
          | some value => exact hquiet.fail hstreams (.ssl value)
          | none => exact hquiet
      | handshake =>
          have hstream := serveNext_stream
            ({ client with connected := true, connectedOnce := true } :
              RestClient).cancelTimer.scheduleKeepAlive
          have hqueue := serveNext_queue
            ({ client with connected := true, connectedOnce := true } :
              RestClient).cancelTimer.scheduleKeepAlive
          intro hclosed _
          exact hqueue.trans ((hguard rfl (hstream ▸ hclosed)).2 rfl)
      | write request =>
          intro hclosed _
          exact absurd (hguard rfl hclosed).1 (by simp [Stage.httpRequest?])
      | read request =>
          intro hclosed _
          have hopen : client.stream ∈ closed := by
            simp only [RestClient.complete, onRead] at hclosed
            cases hqueue : client.queue with
            | nil => simpa [hqueue] using hclosed
            | cons front rest =>
                have hstream := serveNext_stream { client with queue := rest }
                simpa [hqueue, hstream] using hclosed
          exact absurd (hguard rfl hopen).1 (by simp [Stage.httpRequest?])

theorem Quiet.step (hquiet : client.Quiet closed)
    (hstreams : ∀ stream ∈ closed, stream ≤ client.stream)
    {parse : String → Except Thrown Json} {event : ClientEvent}
    {outcome : Outcome}
    (hguard : client.SparesStream closed event)
    (hstep : client.step parse event = some outcome) :
    outcome.client.Quiet closed := by
  cases stepped_of_step hstep with
  | launch path method query => exact hquiet
  | runPosted request rest hposted =>
      intro hclosed hconnected
      have hstream := push_stream { client with posted := rest } request
      have hsame := push_connectivity { client with posted := rest } request
      rw [hsame.1] at hconnected
      rw [hstream] at hclosed
      rw [hguard hclosed] at hconnected
      exact absurd hconnected (by simp)
  | completed operation ec sni body hmem hec =>
      have herased : Quiet closed { client with
          operations := client.operations.erase operation } := hquiet
      apply herased.complete hstreams
      rintro rfl hclosed
      exact hguard hclosed
  | expire => exact hquiet
  | retry hmem => exact hquiet
  | keepAlive hmem =>
      simp only [RestClient.keepAlive]
      split
      · exact hquiet
      · split <;> exact hquiet

/-! ## What is on hand after an event -/

/-- In a phase there is no HTTP operation on a closed stream. -/
theorem not_isLate (hphase : client.Phase) (hquiet : client.Quiet closed)
    {operation : Operation} (hmem : operation ∈ client.operations) :
    operation.isLate closed = false := by
  rw [Bool.eq_false_iff]
  intro hlate
  simp only [Operation.isLate, Bool.and_eq_true, decide_eq_true_eq] at hlate
  obtain ⟨hhttp, hclosed⟩ := hlate
  rw [(hphase.only hmem).2] at hclosed
  obtain ⟨request, hrequest⟩ := Option.isSome_iff_exists.mp hhttp
  have hhead := (hphase.head hmem hrequest).1
  cases hphase with
  | connecting stage hstage hoperations =>
      obtain rfl : operation = ⟨client.stream, stage⟩ := by
        simpa [hoperations] using hmem
      rw [hstage] at hrequest
      cases hrequest
  | waiting hoperations => simp [hoperations] at hmem
  | idle hoperations => simp [hoperations] at hmem
  | closed hoperations => simp [hoperations] at hmem
  | serving stage served rest hstage hoperations hqueue hconnected =>
      rw [hquiet hclosed hconnected] at hqueue
      cases hqueue

theorem filter_started_eq_nil {before : RestClient} (hphase : client.Phase)
    (hquiet : client.Quiet closed) :
    (before.started client).filter (Operation.isLate closed) = [] := by
  rw [List.filter_eq_nil_iff]
  intro operation hmem
  rw [not_isLate hphase hquiet (List.diff_subset _ _ hmem)]
  simp

theorem scheduleKeepAlive_retries (hretries : client.retries = 0) :
    client.scheduleKeepAlive.retries = 0 := by
  have hexpired : client.expired.count .retry = 0 :=
    (Nat.add_eq_zero_iff.mp hretries).2
  simpa [retries, scheduleKeepAlive, cancelTimer, asyncWait] using hexpired

/-- What an event leads to that spares the closed streams: nothing is started
on them, and nothing is read from an empty queue. -/
structure Spared (closed : List ℕ) (client : RestClient) (event : ClientEvent)
    (outcome : Outcome) : Prop where
  hstanding : outcome.client.Standing closed
  hstarted : (client.started outcome.client).filter
    (Operation.isLate closed) = []
  hreads : client.readsEmpty event = 0
  hanswered : ∀ invocation ∈ outcome.invocations, ∀ request,
    invocation.answered = some request → request = invocation.request

theorem readsEmpty_of_failure (operation : Operation) (ec : ErrorCode)
    (sni : Option ℤ) (body : String) :
    client.readsEmpty (.completed operation (some ec) sni body) = 0 := by
  obtain ⟨stream, stage⟩ := operation
  cases stage <;> rfl

theorem spared_of_phase {parse : String → Except Thrown Json}
    {event : ClientEvent} {outcome : Outcome} (hphase : client.Phase)
    (hquiet : client.Quiet closed)
    (hstreams : ∀ stream ∈ closed, stream ≤ client.stream)
    (hguard : client.SparesStream closed event)
    (hstep : client.step parse event = some outcome) :
    client.Spared closed event outcome where
  hstanding := .live (step_phase hphase hstep)
    (hquiet.step hstreams hguard hstep)
  hstarted := filter_started_eq_nil (step_phase hphase hstep)
    (hquiet.step hstreams hguard hstep)
  hreads := by
    cases stepped_of_step hstep with
    | completed operation ec sni body hmem hec =>
        cases ec with
        | some ec => exact readsEmpty_of_failure operation ec sni body
        | none =>
            obtain ⟨stream, stage⟩ := operation
            cases stage with
            | read request =>
                have hhead := (hphase.head hmem rfl).1
                have hsome : client.queue ≠ [] := by
                  intro hempty
                  rw [hempty] at hhead
                  cases hhead
                simp [readsEmpty, hsome]
            | resolve | connect | handshake | write => rfl
    | launch | runPosted | expire | retry | keepAlive => rfl
  hanswered _ hmem _ hanswered := step_answered hphase hstep hmem hanswered

theorem started_of_same {next : RestClient}
    (hoperations : next.operations = client.operations) :
    client.started next = [] := by
  rw [started, hoperations, List.eq_nil_iff_forall_not_mem]
  intro operation hmem
  have hcount := List.count_pos_iff.mpr hmem
  rw [List.count_diff, Nat.sub_self] at hcount
  exact absurd hcount (lt_irrefl _)

/-- An event that changes neither the operations nor the connection. -/
theorem spared_of_same {event : ClientEvent} {next : RestClient}
    (hstanding : next.Standing closed)
    (hoperations : next.operations = client.operations)
    (hreads : client.readsEmpty event = 0) :
    client.Spared closed event ⟨next, [], []⟩ where
  hstanding := hstanding
  hstarted := by rw [started_of_same hoperations, List.filter_nil]
  hreads := hreads
  hanswered := by simp

/-- The failure of the last operation brings a drained client back to a
phase. -/
theorem spared_of_failure {parse : String → Except Thrown Json} {stage : Stage}
    {ec : ErrorCode} {sni : Option ℤ} {body : String}
    (hec : ec ≠ .operationAborted) (hoperations : client.operations = [])
    (hqueue : client.queue = []) (hretries : client.retries = 0)
    (hstreams : ∀ stream ∈ closed, stream ≤ client.stream)
    {before : RestClient} {operation : Operation} :
    before.Spared closed (.completed operation (some ec) sni body)
      (client.complete parse stage (some ec) sni body) := by
  have hquiet : client.Quiet closed := fun _ _ => hqueue
  have hphase := fail_phase hec hoperations hretries
  rw [complete_of_failure]
  refine ⟨.live hphase (hquiet.fail hstreams ec),
    filter_started_eq_nil hphase (hquiet.fail hstreams ec),
    readsEmpty_of_failure operation ec sni body, ?_⟩
  intro invocation hmem request hanswered
  rw [fail_unanswered hmem] at hanswered
  cases hanswered

/-- A client that was drained under an HTTP operation is back in a phase only
when that operation fails. -/
theorem spared_of_drained {parse : String → Except Thrown Json}
    {event : ClientEvent} {outcome : Outcome} {stage : Stage}
    {request : PendingRequest} (hstage : stage.httpRequest? = some request)
    (hoperations : client.operations = [⟨client.stream, stage⟩])
    (hclosed : client.stream ∈ closed) (hconnected : client.connected = true)
    (hqueue : client.queue = []) (hretries : client.retries = 0)
    (hstreams : ∀ stream ∈ closed, stream ≤ client.stream)
    (hguard : client.SparesStream closed event)
    (hstep : client.step parse event = some outcome) :
    client.Spared closed event outcome := by
  cases stepped_of_step hstep with
  | launch path method query =>
      exact spared_of_same (.drained stage request hstage hoperations hclosed
        hconnected hqueue hretries) rfl rfl
  | runPosted posted rest hposted =>
      rw [hguard hclosed] at hconnected
      cases hconnected
  | expire =>
      refine spared_of_same (.drained stage request hstage hoperations hclosed
        hconnected hqueue ?_) rfl rfl
      simpa [retries, Nat.add_comm] using hretries
  | retry hmem =>
      have hexpired : client.expired.count .retry = 0 :=
        (Nat.add_eq_zero_iff.mp hretries).2
      exact absurd hmem (List.count_eq_zero.mp hexpired)
  | keepAlive hmem =>
      have hsame : ({ client with
          expired := client.expired.erase .keepAlive } : RestClient).keepAlive =
          (({ client with
            expired := client.expired.erase .keepAlive } :
              RestClient).ping).scheduleKeepAlive := by
        simp [keepAlive, hconnected, hqueue]
      rw [hsame]
      refine spared_of_same (.drained stage request hstage hoperations hclosed
        hconnected hqueue (scheduleKeepAlive_retries ?_)) rfl rfl
      simpa [retries, ping, launchRequest] using hretries
  | completed operation ec sni body hmem hec =>
      obtain rfl : operation = ⟨client.stream, stage⟩ := by
        simpa [hoperations] using hmem
      cases ec with
      | none =>
          rw [(hguard hclosed).1] at hstage
          cases hstage
      | some ec =>
          have hother : ec ≠ .operationAborted :=
            fun heq => hec ⟨congrArg some heq, rfl⟩
          have hnone : client.operations.erase ⟨client.stream, stage⟩ = [] := by
            simp [hoperations]
          rw [hnone]
          apply spared_of_failure hother
          · rfl
          · exact hqueue
          · exact hretries
          · exact hstreams

theorem Standing.spared {parse : String → Except Thrown Json}
    {event : ClientEvent} {outcome : Outcome}
    (hstanding : client.Standing closed)
    (hstreams : ∀ stream ∈ closed, stream ≤ client.stream)
    (hguard : client.SparesStream closed event)
    (hstep : client.step parse event = some outcome) :
    client.Spared closed event outcome := by
  cases hstanding with
  | live hphase hquiet =>
      exact spared_of_phase hphase hquiet hstreams hguard hstep
  | drained stage request hstage hoperations hclosed hconnected hqueue
      hretries =>
      exact spared_of_drained hstage hoperations hclosed hconnected hqueue
        hretries hstreams hguard hstep

/-- A `stop` drains the queue under the operation in flight. -/
theorem Standing.stop (hstanding : client.Standing closed) :
    client.closeConnection.1.Standing (client.stream :: closed) := by
  cases hstanding with
  | live hphase hquiet =>
      have hempty : Quiet (client.stream :: closed) client.closeConnection.1 :=
        fun _ _ => rfl
      cases hphase with
      | connecting stage hstage hoperations hconnected hretries =>
          exact .live (.connecting stage hstage hoperations hconnected
            hretries) hempty
      | waiting hoperations hconnected hretries =>
          exact .live (.waiting hoperations hconnected hretries) hempty
      | idle hoperations hqueue hconnected hretries =>
          exact .live (.idle hoperations rfl hconnected hretries) hempty
      | closed hoperations hconnected hretries =>
          exact .live (.closed hoperations hconnected hretries) hempty
      | serving stage request rest hstage hoperations hqueue hconnected
          hretries =>
          exact .drained stage request hstage hoperations
            (List.mem_cons_self) hconnected rfl hretries
  | drained stage request hstage hoperations hclosed hconnected hqueue
      hretries =>
      exact .drained stage request hstage hoperations (List.mem_cons_self)
        hconnected rfl hretries

/-- An abort on a closed stream ends the operation and nothing else. -/
theorem Standing.aborted (hstanding : client.Standing closed)
    {operation : Operation} (hmem : operation ∈ client.operations)
    (hclosed : operation.stream ∈ closed) :
    Standing closed { client with
      operations := client.operations.erase operation } := by
  cases hstanding with
  | live hphase hquiet =>
      obtain ⟨honly, hstream⟩ := hphase.only hmem
      have hnone : client.operations.erase operation = [] := by simp [honly]
      rw [hnone]
      have hempty : Quiet closed { client with operations := [] } := hquiet
      cases hphase with
      | connecting stage hstage hoperations hconnected hretries =>
          exact .live (.closed rfl hconnected hretries) hempty
      | waiting hoperations => simp [hoperations] at hmem
      | idle hoperations => simp [hoperations] at hmem
      | closed hoperations => simp [hoperations] at hmem
      | serving stage request rest hstage hoperations hqueue hconnected =>
          rw [hquiet (hstream ▸ hclosed) hconnected] at hqueue
          cases hqueue
  | drained stage request hstage hoperations hopen hconnected hqueue
      hretries =>
      obtain rfl : operation = ⟨client.stream, stage⟩ := by
        simpa [hoperations] using hmem
      have hnone : client.operations.erase ⟨client.stream, stage⟩ = [] := by
        simp [hoperations]
      rw [hnone]
      exact .live (.idle rfl hqueue hconnected hretries) fun _ _ => hqueue

/-! ## Going on with a closed stream -/

theorem filter_started_ne_nil {next : RestClient} {stage : Stage}
    {request : PendingRequest} (hstage : stage.httpRequest? = some request)
    (hclosed : client.stream ∈ closed)
    (hcount : client.operations.count ⟨client.stream, stage⟩ <
      next.operations.count ⟨client.stream, stage⟩) :
    (client.started next).filter (Operation.isLate closed) ≠ [] := by
  apply List.ne_nil_of_mem (a := ⟨client.stream, stage⟩)
  rw [List.mem_filter]
  constructor
  · rw [started, ← List.count_pos_iff, List.count_diff]
    omega
  · simp [Operation.isLate, hstage, hclosed]

/-- A completion that makes the client go on with a closed stream. -/
theorem not_spared_completed {parse : String → Except Thrown Json}
    {operation : Operation} {sni : Option ℤ} {body : String}
    {outcome : Outcome} (hstanding : client.Standing closed)
    (hguard : ¬ client.SparesStream closed
      (.completed operation none sni body))
    (hstep : client.step parse (.completed operation none sni body) =
      some outcome) :
    client.readsEmpty (.completed operation none sni body) ≠ 0 ∨
      (client.started outcome.client).filter (Operation.isLate closed) ≠ [] := by
  simp only [SparesStream, Classical.not_imp] at hguard
  obtain ⟨hclosed, hguard⟩ := hguard
  cases stepped_of_step hstep with
  | completed _ _ _ _ hmem hec =>
      cases hstanding with
      | live hphase hquiet =>
          cases hphase with
          | waiting hoperations => simp [hoperations] at hmem
          | idle hoperations => simp [hoperations] at hmem
          | closed hoperations => simp [hoperations] at hmem
          | serving stage request rest hstage hoperations hqueue hconnected =>
              rw [hquiet hclosed hconnected] at hqueue
              cases hqueue
          | connecting stage hstage hoperations hconnected hretries =>
              obtain rfl : operation = ⟨client.stream, stage⟩ := by
                simpa [hoperations] using hmem
              simp only [hstage, true_and, Classical.not_imp] at hguard
              obtain ⟨rfl, hsome⟩ := hguard
              obtain ⟨request, rest, hqueue⟩ :=
                List.exists_cons_of_ne_nil hsome
              right
              apply filter_started_ne_nil
                (rfl : (Stage.write request).httpRequest? = some request)
                hclosed
              simp [hoperations, complete, onHandshake, serveNext, cancelTimer,
                scheduleKeepAlive, asyncWait, hqueue, startNextRequest, begin]
      | drained stage request hstage hoperations hopen hconnected hqueue
          hretries =>
          obtain rfl : operation = ⟨client.stream, stage⟩ := by
            simpa [hoperations] using hmem
          cases stage with
          | resolve | connect | handshake => cases hstage
          | read read =>
              left
              simp [readsEmpty, hqueue]
          | write written =>
              right
              apply filter_started_ne_nil
                (rfl : (Stage.read written).httpRequest? = some written)
                hclosed
              simp [hoperations, complete, onWrite, doRead, begin]

/-- A push that makes the client go on with a closed stream. -/
theorem not_spared_push {parse : String → Except Thrown Json}
    {outcome : Outcome} (hstanding : client.Standing closed)
    (hguard : ¬ client.SparesStream closed .runPosted)
    (hstep : client.step parse .runPosted = some outcome) :
    (client.started outcome.client).filter (Operation.isLate closed) ≠ [] := by
  simp only [SparesStream, Classical.not_imp, Bool.not_eq_false] at hguard
  obtain ⟨hclosed, hconnected⟩ := hguard
  have hqueue : client.queue = [] := by
    cases hstanding with
    | live hphase hquiet => exact hquiet hclosed hconnected
    | drained _ _ _ _ _ _ hqueue => exact hqueue
  cases stepped_of_step hstep with
  | runPosted request rest hposted =>
      apply filter_started_ne_nil
        (rfl : (Stage.write request).httpRequest? = some request) hclosed
      simp [push, hqueue, hconnected, startNextRequest, begin]

end RestClient

/-! ## Runs -/

namespace Teardown

variable {parse : String → Except Thrown Json} {teardown next : Teardown}

/-- What every step that spares the closed streams keeps. -/
structure Sound (teardown : Teardown) : Prop where
  hstanding : teardown.client.Standing teardown.closed
  hstreams : ∀ stream ∈ teardown.closed, stream ≤ teardown.client.stream
  hanswered : ∀ invocation ∈ teardown.invoked, ∀ request,
    invocation.answered = some request → request = invocation.request
  horder : (teardown.invoked.map Invocation.request ++
    teardown.client.backlog).map PendingRequest.ticket =
      List.range teardown.client.tickets
  hdrained : ∀ request ∈ teardown.drained,
    ⟨request, [], some .noData, none⟩ ∈ teardown.invoked
  hreads : teardown.emptyReads = 0
  hoperations : teardown.lateOperations = []

theorem sound_start (host apiVersion : String) :
    Sound (start host apiVersion) where
  hstanding := .live (kept_start host apiVersion).hphase (by
    intro hclosed
    simp [start] at hclosed)
  hstreams := by simp [start]
  hanswered := (kept_start host apiVersion).hanswered
  horder := (kept_start host apiVersion).horder
  hdrained := by simp [start]
  hreads := rfl
  hoperations := rfl

theorem Sound.safe (hsound : teardown.Sound) : teardown.Safe where
  hdrained request hrequest := by
    have hmem := hsound.hdrained request hrequest
    have hnodup : (teardown.invoked.map fun invocation =>
        invocation.request.ticket).Nodup := by
      have hall : ((teardown.invoked.map Invocation.request ++
          teardown.client.backlog).map PendingRequest.ticket).Nodup := by
        rw [hsound.horder]
        exact List.nodup_range
      rw [List.map_append, List.map_map] at hall
      exact (List.nodup_append.mp hall).1
    constructor
    · apply List.count_eq_one_of_mem hnodup
      exact List.mem_map.mpr ⟨_, hmem, rfl⟩
    · intro invocation hinvocation hticket
      have hsame := List.inj_on_of_nodup_map hnodup hinvocation hmem hticket
      rw [hsame]
      simp
  hanswered := hsound.hanswered
  hreads := hsound.hreads
  hoperations := hsound.hoperations

theorem Sound.client {event : ClientEvent} {outcome : Outcome}
    (hsound : teardown.Sound)
    (hguard : teardown.client.SparesStream teardown.closed event)
    (hstep : teardown.client.step parse event = some outcome) :
    Sound { teardown with
      client := outcome.client
      invoked := teardown.invoked ++ outcome.invocations
      emptyReads := teardown.emptyReads + teardown.client.readsEmpty event
      lateOperations := teardown.lateOperations ++
        (teardown.client.started outcome.client).filter
          (Operation.isLate teardown.closed) } := by
  obtain ⟨hstanding, hstarted, hreads, hanswered⟩ :=
    hsound.hstanding.spared hsound.hstreams hguard hstep
  obtain ⟨launched, hlaunched⟩ := RestClient.step_conserves hstep
  constructor
  · exact hstanding
  · exact fun stream hstream => (hsound.hstreams stream hstream).trans
      (RestClient.le_stream_step hstep)
  · intro invocation hmem
    cases List.mem_append.mp hmem with
    | inl hearlier => exact hsound.hanswered invocation hearlier
    | inr hnow => exact hanswered invocation hnow
  · exact hlaunched.order hsound.horder
  · exact fun request hrequest =>
      List.mem_append_left _ (hsound.hdrained request hrequest)
  · simp only [hsound.hreads, hreads]
  · simp only [hsound.hoperations, hstarted, List.append_nil]

theorem Sound.stop (hsound : teardown.Sound)
    (hstep : teardown.step parse .stop = some next) : next.Sound := by
  obtain rfl := Option.some.inj hstep
  constructor
  · exact hsound.hstanding.stop
  · exact List.forall_mem_cons.mpr ⟨le_rfl, hsound.hstreams⟩
  · intro invocation hmem request hanswered
    cases List.mem_append.mp hmem with
    | inl hearlier => exact hsound.hanswered invocation hearlier _ hanswered
    | inr hnow =>
        obtain ⟨refused, -, rfl⟩ := List.mem_map.mp hnow
        cases hanswered
  · have horder := hsound.horder
    simp only [RestClient.backlog, RestClient.closeConnection,
      List.map_append, List.append_assoc, List.nil_append,
      RestClient.map_request_refusals] at horder ⊢
    exact horder
  · intro request hmem
    cases List.mem_append.mp hmem with
    | inl hearlier =>
        exact List.mem_append_left _ (hsound.hdrained request hearlier)
    | inr hnow =>
        exact List.mem_append_right _ (List.mem_map.mpr ⟨request, hnow, rfl⟩)
  · exact hsound.hreads
  · exact hsound.hoperations

theorem Sound.aborted {operation : Operation} (hsound : teardown.Sound)
    (hstep : teardown.step parse (.aborted operation) = some next) :
    next.Sound := by
  simp only [step] at hstep
  split at hstep
  · next hopen =>
      obtain rfl := Option.some.inj hstep
      have hstanding := hsound.hstanding.aborted hopen.1 hopen.2
      simp only [RestClient.complete_of_failure, RestClient.fail, if_true,
        List.append_nil]
      exact ⟨hstanding, hsound.hstreams, hsound.hanswered, hsound.horder,
        hsound.hdrained, hsound.hreads, hsound.hoperations⟩
  · exact absurd hstep (by simp)

theorem Sound.step {event : TeardownEvent} (hsound : teardown.Sound)
    (hguard : teardown.Spares event)
    (hstep : teardown.step parse event = some next) : next.Sound := by
  cases event with
  | client event =>
      obtain ⟨outcome, houtcome, rfl⟩ := Option.map_eq_some_iff.mp hstep
      exact hsound.client hguard houtcome
  | stop => exact hsound.stop hstep
  | aborted operation => exact hsound.aborted hstep

theorem Sound.not_safe {event : TeardownEvent} (hsound : teardown.Sound)
    (hguard : ¬ teardown.Spares event)
    (hstep : teardown.step parse event = some next) : ¬ next.Safe := by
  cases event with
  | stop => exact absurd trivial hguard
  | aborted operation => exact absurd trivial hguard
  | client event =>
      obtain ⟨outcome, houtcome, rfl⟩ := Option.map_eq_some_iff.mp hstep
      have hbroken : teardown.client.readsEmpty event ≠ 0 ∨
          (teardown.client.started outcome.client).filter
            (Operation.isLate teardown.closed) ≠ [] := by
        cases event with
        | launch | expire | timer => exact absurd trivial hguard
        | runPosted =>
            exact .inr (RestClient.not_spared_push hsound.hstanding hguard
              houtcome)
        | completed operation ec sni body =>
            cases ec with
            | some ec => exact absurd trivial hguard
            | none =>
                exact RestClient.not_spared_completed hsound.hstanding hguard
                  houtcome
      intro hsafe
      cases hbroken with
      | inl hread => exact hread (Nat.add_eq_zero_iff.mp hsafe.hreads).2
      | inr hlate =>
          exact hlate (List.append_eq_nil_iff.mp hsafe.hoperations).2

/-- In every state of a run the client has been torn down safely, exactly when
in no step of it the client goes on with a stream that a `stop` has closed: by
the success of an HTTP operation, by that of a handshake while requests wait, or
by the push of a request while it is connected. -/
theorem safe_iff_spares (parse : String → Except Thrown Json)
    (host apiVersion : String) (events : List TeardownEvent)
    (teardown : Teardown)
    (hrun : Runs.run (step parse) (start host apiVersion) events =
      some teardown) :
    Runs.EveryStep (step parse) Spares (start host apiVersion) events ↔
      ∀ initial, initial <+: events → ∀ state,
        Runs.run (step parse) (start host apiVersion) initial = some state →
        state.Safe :=
  Runs.everyStep_iff_forall_good Sound Safe (fun _ hsound => hsound.safe)
    (fun _ _ _ hsound _ hguard hstep => hsound.step hguard hstep)
    (fun _ _ _ hsound _ hguard hstep => hsound.not_safe hguard hstep)
    (sound_start host apiVersion) (Runs.everyStep_of_forall _ fun _ _ => trivial)
    hrun

/-- The connection is made and a request for the time is written. -/
def timeRequested : List TeardownEvent :=
  [.client (.completed ⟨0, .resolve⟩ none none ""),
    .client (.completed ⟨0, .connect⟩ none none ""),
    .client (.completed ⟨0, .handshake⟩ none none ""),
    .client (.launch "/time" .get ""), .client .runPosted]

def timeRequest : PendingRequest := ⟨"/api/v3/time", .get, "", 0⟩

/-- A stop during the write, which then fails. -/
def stoppedDuringWrite : List TeardownEvent :=
  timeRequested ++ [.stop,
    .client (.completed ⟨0, .write timeRequest⟩ (some (.ssl 1)) none "")]

theorem safe_iff_spares_of_stoppedDuringWrite :
    ∃ teardown, Runs.run (step fun _ => .error .parse)
        (start "api.binance.com" "/api/v3") stoppedDuringWrite =
          some teardown ∧
      teardown.drained = [timeRequest] ∧
      teardown.invoked.map Invocation.ec = [some .noData] ∧
      (Runs.EveryStep (step fun _ => .error .parse) Spares
          (start "api.binance.com" "/api/v3") stoppedDuringWrite ↔
        ∀ initial, initial <+: stoppedDuringWrite → ∀ state,
          Runs.run (step fun _ => .error .parse)
            (start "api.binance.com" "/api/v3") initial = some state →
          state.Safe) := by
  refine ⟨_, rfl, rfl, rfl, ?_⟩
  exact safe_iff_spares (fun _ => .error .parse) "api.binance.com" "/api/v3"
    stoppedDuringWrite _ rfl

/-- A stop during the read, and another request before the response comes. -/
def stoppedDuringRead : List TeardownEvent :=
  timeRequested ++
    [.client (.completed ⟨0, .write timeRequest⟩ none none ""), .stop,
      .client (.launch "/ping" .get ""), .client .runPosted,
      .client (.completed ⟨0, .read timeRequest⟩ none none "")]

/-- The later request is written to the closed stream, and its callback gets
the response to the drained one. -/
theorem response_of_drained_delivered :
    ∃ teardown, Runs.run (step fun _ => .error .parse)
        (start "api.binance.com" "/api/v3") stoppedDuringRead =
          some teardown ∧
      teardown.drained = [timeRequest] ∧
      teardown.lateOperations =
        [⟨0, .write ⟨"/api/v3/ping", .get, "", 1⟩⟩] ∧
      (∃ invocation ∈ teardown.invoked,
        invocation.answered = some timeRequest ∧
          invocation.request.target = "/api/v3/ping") ∧
      ¬ teardown.Safe := by
  obtain ⟨teardown, hrun, hdrained, hlate, hinvoked⟩ :
      ∃ teardown, Runs.run (step fun _ => .error .parse)
          (start "api.binance.com" "/api/v3") stoppedDuringRead =
            some teardown ∧
        teardown.drained = [timeRequest] ∧
        teardown.lateOperations =
          [⟨0, .write ⟨"/api/v3/ping", .get, "", 1⟩⟩] ∧
        teardown.invoked = [⟨timeRequest, [], some .noData, none⟩,
          ⟨⟨"/api/v3/ping", .get, "", 1⟩, [], none, some timeRequest⟩] :=
    ⟨_, rfl, rfl, rfl, rfl⟩
  refine ⟨teardown, hrun, hdrained, hlate, ?_, ?_⟩
  · exact ⟨⟨⟨"/api/v3/ping", .get, "", 1⟩, [], none, some timeRequest⟩,
      by simp [hinvoked], rfl, rfl⟩
  · intro hsafe
    rw [hsafe.hoperations] at hlate
    cases hlate

end Teardown

end MultiMarketPrices.RestApi
