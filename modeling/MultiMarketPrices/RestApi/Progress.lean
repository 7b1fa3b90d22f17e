import MultiMarketPrices.Core.Settling
import MultiMarketPrices.RestApi.Pipeline

/-!
# How the pipeline empties

While nothing fails, the client has only its own steps to make: it runs the
tasks that are posted, connects, writes a request and reads its response.  How
many there are is fixed by its state, in whatever order they come.
-/

namespace MultiMarketPrices.RestApi

/-- The steps until the connection is made. -/
def Stage.stepsLeft : Stage → ℕ
  | resolve => 3
  | connect => 2
  | handshake => 1
  | write _ | read _ => 0

def Stage.isRead : Stage → Bool
  | read _ => true
  | _ => false

/-- A response that the event brings has the body. -/
def ClientEvent.Brings (body : String) : ClientEvent → Prop
  | .completed _ _ _ text => text = body
  | _ => True

namespace RestClient

/-- A step of the client itself that is no failure.  A wait for a retry is one;
a ping and what others launch are not. -/
def Advances (client : RestClient) : ClientEvent → Prop
  | .runPosted => True
  | .completed _ ec sni _ => ec = none ∧ sni = none
  | .expire => .retry ∈ client.armed
  | .timer wait => wait = .retry
  | .launch _ _ _ => False

/-- Nothing brings the connection up any more. -/
def GaveUp (client : RestClient) : Prop :=
  client.operations = [] ∧ client.connected = false ∧ client.retries = 0

/-- The steps left: to run each posted task, to write each request and to read
its response, and to make the connection, five with the wait. -/
def work (client : RestClient) : ℕ :=
  3 * client.posted.length + 2 * client.queue.length +
    (client.operations.map fun operation => operation.stage.stepsLeft).sum +
    5 * client.armed.count .retry + 4 * client.expired.count .retry -
    client.operations.countP fun operation => operation.stage.isRead

variable {client : RestClient}

/-- What a step of its own leaves, apart from what it calls. -/
structure Advanced (client next : RestClient) : Prop where
  hwork : next.work + 1 = client.work
  hopen : ¬ next.GaveUp
  htickets : next.tickets = client.tickets

theorem Phase.advanced_push {request : PendingRequest}
    {rest : List PendingRequest} (hphase : client.Phase)
    (hopen : ¬ client.GaveUp) (hposted : client.posted = request :: rest) :
    client.Advanced ({ client with posted := rest }.push request) := by
  have hlength : (client.queue ++ [request]).length = 1 ↔
      client.queue = [] := by
    simp
  simp only [RestClient.push, hlength, Bool.and_eq_true, decide_eq_true_eq]
  cases hphase with
  | connecting stage hstage hoperations hconnected hretries =>
      rw [if_neg (by simp [hconnected])]
      refine ⟨?_, by simp [GaveUp, hoperations], rfl⟩
      cases stage <;> simp [Stage.httpRequest?] at hstage <;>
        simp [work, hposted, hoperations, Stage.stepsLeft, Stage.isRead] <;>
        omega
  | waiting hoperations hconnected hretries =>
      rw [if_neg (by simp [hconnected])]
      refine ⟨?_, ?_, rfl⟩
      · simp [work, hposted, hoperations]
        omega
      · have hretries : client.armed.count .retry +
            client.expired.count .retry = 1 := hretries
        simp only [GaveUp, retries]
        omega
  | serving stage current later hstage hoperations hqueue hconnected hretries
      hwritten =>
      rw [if_neg (by simp [hqueue])]
      refine ⟨?_, by simp [GaveUp, hoperations], rfl⟩
      cases stage <;> simp [Stage.httpRequest?] at hstage <;>
        simp [work, hposted, hoperations, hqueue, Stage.stepsLeft,
          Stage.isRead] <;>
        omega
  | idle hoperations hqueue hconnected hretries =>
      rw [if_pos ⟨hqueue, hconnected⟩,
        startNextRequest_of_queue (by simp [hqueue]; exact ⟨rfl, rfl⟩)]
      refine ⟨?_, by simp [GaveUp, hoperations], rfl⟩
      simp [work, hposted, hoperations, hqueue, Stage.stepsLeft, Stage.isRead]
      omega
  | closed hoperations hconnected hretries =>
      exact absurd ⟨hoperations, hconnected, hretries⟩ hopen

theorem advanced_serveNext {before : RestClient}
    (hoperations : client.operations = [])
    (hconnected : client.connected = true)
    (hwork : client.work + 1 = before.work)
    (htickets : client.tickets = before.tickets) :
    before.Advanced client.serveNext := by
  cases hqueue : client.queue with
  | nil =>
      rw [serveNext, if_pos hqueue]
      exact ⟨hwork, by simp [GaveUp, hconnected], htickets⟩
  | cons request rest =>
      rw [serveNext, if_neg (by simp [hqueue]),
        startNextRequest_of_queue hqueue]
      refine ⟨?_, by simp [GaveUp], htickets⟩
      rw [← hwork]
      simp [work, hoperations, Stage.stepsLeft, Stage.isRead]

/-- What the client calls back for was answered. -/
def Answers (outcome : Outcome) : Prop :=
  ∀ invocation ∈ outcome.invocations,
    invocation.ec = none ∧ ∃ request, invocation.answered = some request

theorem answers_nil (client : RestClient) (ready : List (Option ErrorCode)) :
    Answers ⟨client, [], ready⟩ := by
  simp [Answers]

theorem Phase.advanced_complete {parse : String → Except Thrown Json}
    {operation : Operation} {body : String} (hphase : client.Phase)
    (hmem : operation ∈ client.operations) :
    let outcome := ({ client with
      operations := client.operations.erase operation } :
        RestClient).complete parse operation.stage none none body
    client.Advanced outcome.client ∧ Answers outcome := by
  cases hphase with
  | waiting hoperations => simp [hoperations] at hmem
  | idle hoperations => simp [hoperations] at hmem
  | closed hoperations => simp [hoperations] at hmem
  | connecting stage hstage hoperations hconnected hretries =>
      obtain rfl : operation = ⟨client.stream, stage⟩ := by
        simpa [hoperations] using hmem
      have hretries : client.armed.count .retry +
          client.expired.count .retry = 0 := hretries
      cases stage with
      | write | read => simp [Stage.httpRequest?] at hstage
      | resolve =>
          refine ⟨⟨?_, ?_, rfl⟩, answers_nil _ _⟩
          · simp [RestClient.complete, onResolve, begin, work, hoperations,
              Stage.stepsLeft, Stage.isRead]
            omega
          · simp [RestClient.complete, onResolve, begin, GaveUp]
      | connect =>
          refine ⟨⟨?_, ?_, rfl⟩, answers_nil _ _⟩
          · simp [RestClient.complete, onConnect, begin, work, hoperations,
              Stage.stepsLeft, Stage.isRead]
            omega
          · simp [RestClient.complete, onConnect, begin, GaveUp]
      | handshake =>
          refine ⟨advanced_serveNext ?_ rfl ?_ rfl, answers_nil _ _⟩
          · simp [hoperations, cancelTimer, RestClient.scheduleKeepAlive,
              asyncWait]
          · simp [cancelTimer, RestClient.scheduleKeepAlive, asyncWait, work,
              hoperations, Stage.stepsLeft, Stage.isRead]
            omega
  | serving stage request rest hstage hoperations hqueue hconnected hretries
      hwritten =>
      obtain rfl : operation = ⟨client.stream, stage⟩ := by
        simpa [hoperations] using hmem
      cases stage with
      | resolve | connect | handshake => simp [Stage.httpRequest?] at hstage
      | write written =>
          refine ⟨⟨?_, ?_, rfl⟩, answers_nil _ _⟩
          · simp [RestClient.complete, onWrite, doRead, begin, work,
              hoperations, hqueue, Stage.stepsLeft, Stage.isRead]
            omega
          · simp [RestClient.complete, onWrite, doRead, begin, GaveUp]
      | read written =>
          simp only [RestClient.complete, onRead, hqueue]
          refine ⟨advanced_serveNext ?_ hconnected ?_ rfl, ?_⟩
          · simp [hoperations]
          · simp [work, hoperations, hqueue, Stage.stepsLeft, Stage.isRead]
            omega
          · simp [Answers]

/-- A wait for a retry leaves the client nothing else to do. -/
theorem Phase.waits (hphase : client.Phase)
    (hretry : .retry ∈ client.armed ∨ .retry ∈ client.expired) :
    client.operations = [] ∧ client.retries = 1 := by
  have hpositive : client.retries ≠ 0 := by
    rw [← List.count_pos_iff, ← List.count_pos_iff] at hretry
    simp only [retries]
    omega
  cases hphase with
  | connecting _ _ _ _ hretries => exact absurd hretries hpositive
  | serving _ _ _ _ _ _ _ hretries => exact absurd hretries hpositive
  | idle _ _ _ hretries => exact absurd hretries hpositive
  | closed _ _ hretries => exact absurd hretries hpositive
  | waiting hoperations _ hretries => exact ⟨hoperations, hretries⟩

theorem Phase.advanced_expire (hphase : client.Phase)
    (harmed : .retry ∈ client.armed) :
    client.Advanced { client with
      armed := [], expired := client.expired ++ client.armed } := by
  obtain ⟨hoperations, hretries⟩ := hphase.waits (.inl harmed)
  have hretries : client.armed.count .retry +
      client.expired.count .retry = 1 := hretries
  have hcount : 0 < client.armed.count .retry := List.count_pos_iff.mpr harmed
  refine ⟨?_, ?_, rfl⟩
  · simp [work, hoperations, List.count_append]
    omega
  · simp only [GaveUp, retries, List.count_nil, List.count_append]
    omega

theorem Phase.advanced_run (hphase : client.Phase)
    (hexpired : .retry ∈ client.expired) :
    client.Advanced ({ client with
      expired := client.expired.erase .retry } : RestClient).run := by
  obtain ⟨hoperations, hretries⟩ := hphase.waits (.inr hexpired)
  have hretries : client.armed.count .retry +
      client.expired.count .retry = 1 := hretries
  have hcount : 0 < client.expired.count .retry :=
    List.count_pos_iff.mpr hexpired
  refine ⟨?_, ?_, rfl⟩
  · simp [RestClient.run, begin, work, hoperations, Stage.stepsLeft,
      Stage.isRead]
    omega
  · simp [RestClient.run, begin, GaveUp]

theorem Phase.advanced {parse : String → Except Thrown Json}
    {event : ClientEvent} {outcome : Outcome} (hphase : client.Phase)
    (hopen : ¬ client.GaveUp) (hadvances : client.Advances event)
    (hstep : client.step parse event = some outcome) :
    client.Advanced outcome.client ∧ Answers outcome := by
  cases stepped_of_step hstep with
  | launch => exact absurd hadvances id
  | runPosted request rest hposted =>
      exact ⟨hphase.advanced_push hopen hposted, answers_nil _ _⟩
  | completed operation ec sni body hmem _ =>
      obtain ⟨rfl, rfl⟩ := hadvances
      exact hphase.advanced_complete hmem
  | expire => exact ⟨hphase.advanced_expire hadvances, answers_nil _ _⟩
  | retry hmem => exact ⟨hphase.advanced_run hmem, answers_nil _ _⟩
  | keepAlive => cases hadvances

/-- As long as there is work, the client has a step to make, whatever body a
response has that is to be read. -/
theorem Phase.exists_advance (parse : String → Except Thrown Json)
    (body : String) (hphase : client.Phase) (hopen : ¬ client.GaveUp)
    (hwork : client.work ≠ 0) :
    ∃ event outcome, client.Advances event ∧ event.Brings body ∧
      client.step parse event = some outcome := by
  cases hposted : client.posted with
  | cons request rest =>
      have hstep : client.step parse .runPosted =
          some ⟨{ client with posted := rest }.push request, [], []⟩ := by
        rw [step, hposted]
      exact ⟨.runPosted, _, trivial, trivial, hstep⟩
  | nil =>
      have hcompletes {stage : Stage}
          (hoperations : client.operations = [⟨client.stream, stage⟩]) :
          ∃ event outcome, client.Advances event ∧ event.Brings body ∧
            client.step parse event = some outcome := by
        have hmem : ¬ (⟨client.stream, stage⟩ ∉ client.operations) := by
          simp [hoperations]
        exact ⟨.completed ⟨client.stream, stage⟩ none none body, _,
          ⟨rfl, rfl⟩, rfl, (if_neg hmem).trans (if_neg (by simp))⟩
      cases hphase with
      | connecting _ _ hoperations => exact hcompletes hoperations
      | serving _ _ _ _ hoperations => exact hcompletes hoperations
      | closed hoperations hconnected hretries =>
          exact absurd ⟨hoperations, hconnected, hretries⟩ hopen
      | waiting hoperations hconnected hretries =>
          by_cases harmed : .retry ∈ client.armed
          · exact ⟨.expire, _, harmed, trivial, rfl⟩
          · have hexpired : .retry ∈ client.expired := by
              rw [← List.count_pos_iff] at harmed ⊢
              simp only [retries] at hretries
              omega
            exact ⟨.timer .retry, _, rfl, trivial,
              if_neg (not_not_intro hexpired)⟩
      | idle hoperations hqueue hconnected hretries =>
          have hretries : client.armed.count .retry +
              client.expired.count .retry = 0 := hretries
          exact absurd (by simp [work, hposted, hqueue, hoperations]; omega)
            hwork

/-- When no work is left every callback has been called. -/
theorem Phase.backlog_eq_nil (hphase : client.Phase) (hwork : client.work = 0) :
    client.backlog = [] := by
  have hreads : (client.operations.countP fun operation =>
      operation.stage.isRead) ≤ client.queue.length := by
    cases hphase with
    | connecting stage hstage hoperations =>
        cases stage <;> simp [Stage.httpRequest?] at hstage <;>
          simp [hoperations, Stage.isRead]
    | serving stage request rest hstage hoperations hqueue =>
        rw [hoperations, hqueue]
        exact List.countP_le_length.trans (by simp)
    | waiting hoperations | idle hoperations | closed hoperations =>
        simp [hoperations]
  simp only [work] at hwork
  have hqueue : client.queue = [] := List.eq_nil_of_length_eq_zero (by omega)
  have hposted : client.posted = [] := List.eq_nil_of_length_eq_zero (by omega)
  rw [backlog, hqueue, hposted, List.append_nil]

end RestClient

namespace Pipeline

variable {parse : String → Except Thrown Json} {pipeline finish : Pipeline}

/-- The client may go on. -/
def Open (pipeline : Pipeline) : Prop :=
  Kept pipeline ∧ ¬ pipeline.client.GaveUp

theorem Open.advanced {event : ClientEvent} {next : Pipeline}
    (hopen : pipeline.Open) (hadvances : pipeline.client.Advances event)
    (hstep : pipeline.step parse event = some next) :
    next.Open ∧ next.client.work + 1 = pipeline.client.work := by
  have hnext : Kept next := hopen.1.step hstep
  obtain ⟨outcome, houtcome, rfl⟩ := Option.map_eq_some_iff.mp hstep
  obtain ⟨hadvanced, -⟩ :=
    hopen.1.hphase.advanced hopen.2 hadvances houtcome
  exact ⟨⟨hnext, hadvanced.hopen⟩, hadvanced.hwork⟩

/-- The oldest requests have been answered meanwhile. -/
def Served (pipeline finish : Pipeline) : Prop :=
  ∃ calls, finish.invoked = pipeline.invoked ++ calls ∧
    calls.map Invocation.request ++ finish.client.backlog =
      pipeline.client.backlog ∧
    ∀ call ∈ calls, call.ec = none ∧ call.answered = some call.request

theorem Served.step {event : ClientEvent} {next : Pipeline}
    (hserved : pipeline.Served finish) (hopen : finish.Open)
    (hadvances : finish.client.Advances event)
    (hstep : finish.step parse event = some next) : pipeline.Served next := by
  obtain ⟨outcome, houtcome, rfl⟩ := Option.map_eq_some_iff.mp hstep
  obtain ⟨hadvanced, hanswers⟩ :=
    hopen.1.hphase.advanced hopen.2 hadvances houtcome
  obtain ⟨launched, hconserves⟩ := RestClient.step_conserves houtcome
  have hnone : launched = [] := by
    have hcount := hconserves.hcount
    rw [hadvanced.htickets] at hcount
    exact List.eq_nil_of_length_eq_zero (by omega)
  obtain ⟨calls, hinvoked, hbacklog, hcalls⟩ := hserved
  refine ⟨calls ++ outcome.invocations, ?_, ?_, ?_⟩
  · rw [hinvoked, List.append_assoc]
  · rw [List.map_append, List.append_assoc, hconserves.hbacklog, hnone,
      List.append_nil, hbacklog]
  · intro call hmem
    rcases List.mem_append.mp hmem with hearlier | hnow
    · exact hcalls call hearlier
    · obtain ⟨hec, request, hanswered⟩ := hanswers call hnow
      refine ⟨hec, hanswered.trans (congrArg some ?_)⟩
      exact RestClient.step_answered hopen.1.hphase houtcome hnow hanswered

/-- From every state in which the client has not given up, its own steps serve
everything that was launched, in order and with the responses to it: in whatever
order they come, there is one to make until there have been as many as the state
had left, and then every callback has been called. -/
theorem served_of_advances (parse : String → Except Thrown Json)
    (host apiVersion : String) (events : List ClientEvent)
    (pipeline : Pipeline)
    (hrun : Runs.run (Pipeline.step parse) (.start host apiVersion) events =
      some pipeline) (hopen : ¬ pipeline.client.GaveUp)
    (steps : List ClientEvent) (finish : Pipeline)
    (hsteps : Runs.EveryStep (Pipeline.step parse)
      (fun pipeline event => pipeline.client.Advances event) pipeline steps)
    (hfinish : Runs.run (Pipeline.step parse) pipeline steps = some finish) :
    steps.length + finish.client.work = pipeline.client.work ∧
      (∃ calls, finish.invoked = pipeline.invoked ++ calls ∧
        calls.map Invocation.request ++ finish.client.backlog =
          pipeline.client.backlog ∧
        ∀ call ∈ calls, call.ec = none ∧ call.answered = some call.request) ∧
      (finish.client.work ≠ 0 → ∃ event next,
        finish.client.Advances event ∧ finish.step parse event = some next) ∧
      (finish.client.work = 0 → finish.client.backlog = []) := by
  have hkept : Kept pipeline := Runs.run_invariant Kept
    (fun _ _ _ hbefore hstep => hbefore.step hstep)
    (kept_start host apiVersion) hrun
  obtain ⟨hfinal, hserved⟩ : finish.Open ∧ pipeline.Served finish :=
    hsteps.invariant (fun finish => finish.Open ∧ pipeline.Served finish)
      (fun _ _ _ hbefore hadvances hstep =>
        ⟨(hbefore.1.advanced hadvances hstep).1,
          hbefore.2.step hbefore.1 hadvances hstep⟩)
      ⟨⟨hkept, hopen⟩, [], by simp⟩ hfinish
  have hwork := hsteps.length_add_measure
    (fun _ _ _ hbefore hadvances hstep =>
      Open.advanced hbefore hadvances hstep) ⟨hkept, hopen⟩ hfinish
  refine ⟨hwork, hserved, ?_, hfinal.1.hphase.backlog_eq_nil⟩
  intro hleft
  obtain ⟨event, outcome, hadvances, -, hstep⟩ :=
    hfinal.1.hphase.exists_advance parse "" hfinal.2 hleft
  exact ⟨event, _, hadvances, by rw [Pipeline.step, hstep]; rfl⟩

/-- The client connects again after a failure and serves what it has kept. -/
theorem served_of_advances_of_interrupted :
    ∃ pipeline finish,
      Runs.run (Pipeline.step fun _ => .error .parse)
        (.start "api.binance.com" "/api/v3") (interruptedService.take 8) =
          some pipeline ∧
      Runs.run (Pipeline.step fun _ => .error .parse) pipeline
        (interruptedService.drop 8) = some finish ∧
      pipeline.client.work = 5 ∧ finish.client.backlog = [] := by
  refine ⟨_, _, rfl, rfl, rfl, ?_⟩
  refine (served_of_advances (fun _ => .error .parse) "api.binance.com"
    "/api/v3" (interruptedService.take 8) _ rfl ?_
    (interruptedService.drop 8) _ ?_ rfl).2.2.2 rfl
  · exact fun hgaveUp => absurd hgaveUp.1 (List.cons_ne_nil _ _)
  · intro initial event hinitial state _
    have hmem : event ∈ interruptedService.drop 8 :=
      hinitial.subset (List.mem_append_right _ List.mem_cons_self)
    simp only [interruptedService, List.drop_succ_cons, List.drop_zero,
      List.mem_cons, List.not_mem_nil, or_false] at hmem
    rcases hmem with rfl | rfl | rfl | rfl | rfl <;> exact ⟨rfl, rfl⟩

end Pipeline

end MultiMarketPrices.RestApi
