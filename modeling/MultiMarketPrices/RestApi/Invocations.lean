import MultiMarketPrices.RestApi.Pipeline

/-!
# What a callback is given

The handlers keep the version of the API, and a callback that is told of no
failure is given what was read for its own request.
-/

namespace MultiMarketPrices.RestApi

namespace RestClient

variable {client : RestClient}

theorem startNextRequest_apiVersion (client : RestClient) :
    client.startNextRequest.apiVersion = client.apiVersion := by
  cases hqueue : client.queue with
  | nil => simp [startNextRequest, hqueue]
  | cons current rest => rw [startNextRequest_of_queue hqueue]

theorem serveNext_apiVersion (client : RestClient) :
    client.serveNext.apiVersion = client.apiVersion := by
  rw [serveNext]
  split
  · rfl
  · exact startNextRequest_apiVersion client

theorem fail_apiVersion (client : RestClient) (ec : ErrorCode) :
    (client.fail ec).client.apiVersion = client.apiVersion := by
  by_cases hec : ec = .operationAborted
  · rw [fail, if_pos hec]
  · cases hfatal : isFatalError ec && !client.connectedOnce with
    | true => rw [fail_of_fatal hec hfatal]
    | false => rw [fail_of_retry hec hfatal]

theorem complete_apiVersion (client : RestClient)
    (parse : String → Except Thrown Json) (stage : Stage)
    (ec : Option ErrorCode) (sni : Option ℤ) (body : String) :
    (client.complete parse stage ec sni body).client.apiVersion =
      client.apiVersion := by
  cases ec with
  | some ec =>
      rw [complete_of_failure]
      exact fail_apiVersion client ec
  | none =>
      cases stage with
      | resolve | write => rfl
      | connect =>
          cases sni with
          | some value => exact fail_apiVersion client (.ssl value)
          | none => rfl
      | handshake => exact serveNext_apiVersion _
      | read written =>
          simp only [complete, onRead]
          split
          · rfl
          · exact serveNext_apiVersion _

theorem step_apiVersion {parse : String → Except Thrown Json}
    {event : ClientEvent} {outcome : Outcome}
    (hstep : client.step parse event = some outcome) :
    outcome.client.apiVersion = client.apiVersion := by
  cases stepped_of_step hstep with
  | launch | expire | retry => rfl
  | runPosted request rest hposted =>
      simp only [push]
      split
      · exact startNextRequest_apiVersion _
      · rfl
  | completed => exact complete_apiVersion _ _ _ _ _ _
  | keepAlive =>
      simp only [keepAlive]
      split
      · rfl
      · split <;> rfl

/-- A failure is what its callbacks are told of. -/
theorem fail_ec {ec : ErrorCode} {invocation : Invocation}
    (hmem : invocation ∈ (client.fail ec).invocations) :
    ∃ code, invocation.ec = some code := by
  by_cases hec : ec = .operationAborted
  · simp [fail, hec] at hmem
  · cases hfatal : isFatalError ec && !client.connectedOnce with
    | true =>
        rw [fail_of_fatal hec hfatal] at hmem
        obtain ⟨request, -, rfl⟩ := List.mem_map.mp hmem
        exact ⟨.noData, rfl⟩
    | false => simp [fail_of_retry hec hfatal] at hmem

/-- Otherwise a callback is given what was read for its request. -/
theorem step_invocation {parse : String → Except Thrown Json}
    {event : ClientEvent} {outcome : Outcome} (hphase : client.Phase)
    (hstep : client.step parse event = some outcome) {invocation : Invocation}
    (hmem : invocation ∈ outcome.invocations) :
    (∃ ec, invocation.ec = some ec) ∨
      invocation.ec = none ∧ ∃ stream sni body,
        invocation.result = responseResult parse body ∧
        event = .completed ⟨stream, .read invocation.request⟩ none sni
          body := by
  have hanswered := @step_answered client parse event outcome
    hphase hstep invocation hmem
  cases stepped_of_step hstep with
  | launch | runPosted | expire | retry | keepAlive => simp at hmem
  | completed operation ec sni body hoperation hec =>
      cases ec with
      | some ec =>
          rw [complete_of_failure] at hmem
          exact .inl (fail_ec hmem)
      | none =>
          obtain ⟨stream, stage⟩ := operation
          cases stage with
          | resolve =>
              simp [complete, onResolve] at hmem
          | connect =>
              cases sni with
              | some value => exact .inl (@fail_ec _ (.ssl value) _ hmem)
              | none =>
                  simp [complete, onConnect] at hmem
          | handshake =>
              simp [complete, onHandshake] at hmem
          | write written =>
              simp [complete, onWrite] at hmem
          | read written =>
              simp only [complete, onRead] at hmem
              split at hmem
              · simp at hmem
              · next front rest hqueue =>
                  obtain rfl := List.mem_singleton.mp hmem
                  obtain rfl := hanswered rfl
                  exact .inr ⟨rfl, stream, sni, body, rfl, rfl⟩

/-- A response that is read leads to one call. -/
theorem invocations_of_read {parse : String → Except Thrown Json}
    {stream : ℕ} {request : PendingRequest} {sni : Option ℤ} {body : String}
    {outcome : Outcome} (hphase : client.Phase)
    (hstep : client.step parse
      (.completed ⟨stream, .read request⟩ none sni body) = some outcome) :
    outcome.invocations =
      [⟨request, responseResult parse body, none, some request⟩] := by
  cases stepped_of_step hstep with
  | completed _ _ _ _ hmem _ =>
      have hserves : (Stage.read request).httpRequest? = some request := rfl
      obtain ⟨rest, hqueue⟩ :=
        List.head?_eq_some_iff.mp (hphase.head hmem hserves).1
      simp [complete, onRead, hqueue]

end RestClient

end MultiMarketPrices.RestApi
