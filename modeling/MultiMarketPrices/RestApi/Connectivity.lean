import MultiMarketPrices.RestApi.Client

/-!
# What the REST client reports

`m_readyCallback` is called with the null error by a handshake, and with an
error only by a fatal failure before the first connection.  Any other failure
clears `m_connected` and reports nothing.
-/

namespace MultiMarketPrices.RestApi.RestClient

/-- Whether the client is connected after an event: a handshake connects it, and
a failure, unless it is that of an aborted operation, disconnects it. -/
def connectedAfter (connected : Bool) : ClientEvent → Bool
  | .completed _ (some ec) _ _ =>
      if ec = .operationAborted then connected else false
  | .completed operation none sni _ =>
      match operation.stage, sni with
      | .handshake, _ => true
      | .connect, some _ => false
      | _, _ => connected
  | _ => connected

/-- How a handler's calls of the ready callback go with `m_connectedOnce`. -/
inductive Reports (client : RestClient) (outcome : Outcome) : Prop
  | nothing (hready : outcome.ready = [])
      (hsame : outcome.client.connectedOnce = client.connectedOnce)
  | connected (hready : outcome.ready = [none])
      (hconnected : outcome.client.connected = true)
      (honce : outcome.client.connectedOnce = true)
  | failed (ec : ErrorCode) (hready : outcome.ready = [some ec])
      (hsame : outcome.client.connectedOnce = client.connectedOnce)
      (honce : client.connectedOnce = false)

variable {client : RestClient}

theorem startNextRequest_connectivity (client : RestClient) :
    client.startNextRequest.connected = client.connected ∧
      client.startNextRequest.connectedOnce = client.connectedOnce := by
  cases hqueue : client.queue with
  | nil => simp [startNextRequest, hqueue]
  | cons current rest => simp [startNextRequest_of_queue hqueue]

theorem serveNext_connectivity (client : RestClient) :
    client.serveNext.connected = client.connected ∧
      client.serveNext.connectedOnce = client.connectedOnce := by
  rw [serveNext]
  split
  · exact ⟨rfl, rfl⟩
  · exact client.startNextRequest_connectivity

theorem fail_connected (client : RestClient) (ec : ErrorCode) :
    (client.fail ec).client.connected =
      if ec = .operationAborted then client.connected else false := by
  by_cases hec : ec = .operationAborted
  · simp [fail, hec]
  · rw [if_neg hec]
    cases hfatal : isFatalError ec && !client.connectedOnce with
    | true => rw [fail_of_fatal hec hfatal]
    | false => rw [fail_of_retry hec hfatal]

theorem reports_fail (client : RestClient) (ec : ErrorCode) :
    client.Reports (client.fail ec) := by
  by_cases hec : ec = .operationAborted
  · exact .nothing (by simp [fail, hec]) (by simp [fail, hec])
  · cases hfatal : isFatalError ec && !client.connectedOnce with
    | true =>
        rw [fail_of_fatal hec hfatal]
        exact .failed ec rfl rfl (by simp_all)
    | false =>
        rw [fail_of_retry hec hfatal]
        exact .nothing rfl rfl

theorem complete_connected {parse : String → Except Thrown Json}
    {operation : Operation} {ec : Option ErrorCode} {sni : Option ℤ}
    {body : String} :
    (client.complete parse operation.stage ec sni body).client.connected =
      connectedAfter client.connected (.completed operation ec sni body) := by
  cases ec with
  | some ec =>
      rw [complete_of_failure, fail_connected]
      rfl
  | none =>
      simp only [connectedAfter]
      cases operation.stage with
      | resolve => rfl
      | connect =>
          cases sni with
          | some value => exact client.fail_connected (.ssl value)
          | none => rfl
      | handshake => exact (serveNext_connectivity _).1
      | write request => rfl
      | read request =>
          simp only [complete, onRead]
          split
          · rfl
          · exact (serveNext_connectivity _).1

theorem reports_complete (client : RestClient)
    (parse : String → Except Thrown Json) (stage : Stage)
    (ec : Option ErrorCode) (sni : Option ℤ) (body : String) :
    client.Reports (client.complete parse stage ec sni body) := by
  cases ec with
  | some ec =>
      rw [complete_of_failure]
      exact client.reports_fail ec
  | none =>
      cases stage with
      | resolve => exact .nothing rfl rfl
      | connect =>
          cases sni with
          | some value => exact client.reports_fail (.ssl value)
          | none => exact .nothing rfl rfl
      | handshake =>
          exact .connected rfl (serveNext_connectivity _).1
            (serveNext_connectivity _).2
      | write request => exact .nothing rfl rfl
      | read request =>
          simp only [complete, onRead]
          split
          · exact .nothing rfl rfl
          · exact .nothing rfl (serveNext_connectivity _).2

theorem push_connectivity (client : RestClient) (request : PendingRequest) :
    (client.push request).connected = client.connected ∧
      (client.push request).connectedOnce = client.connectedOnce := by
  simp only [push]
  split
  · exact startNextRequest_connectivity _
  · exact ⟨rfl, rfl⟩

theorem keepAlive_connectivity (client : RestClient) :
    client.keepAlive.connected = client.connected ∧
      client.keepAlive.connectedOnce = client.connectedOnce := by
  rw [keepAlive]
  split
  · exact ⟨rfl, rfl⟩
  · split <;> exact ⟨rfl, rfl⟩

/-- `m_connected` after an event, and what the event reports. -/
theorem step_connectivity {parse : String → Except Thrown Json}
    {event : ClientEvent} {outcome : Outcome}
    (hstep : client.step parse event = some outcome) :
    outcome.client.connected = connectedAfter client.connected event ∧
      client.Reports outcome := by
  cases stepped_of_step hstep with
  | launch path method query => exact ⟨rfl, .nothing rfl rfl⟩
  | runPosted request rest hposted =>
      obtain ⟨hconnected, honce⟩ :=
        push_connectivity { client with posted := rest } request
      exact ⟨hconnected, .nothing rfl honce⟩
  | completed operation ec sni body hmem hec =>
      refine ⟨complete_connected, ?_⟩
      cases reports_complete
        { client with operations := client.operations.erase operation }
        parse operation.stage ec sni body with
      | nothing hready hsame => exact .nothing hready hsame
      | connected hready hconnected honce =>
          exact .connected hready hconnected honce
      | failed ec hready hsame honce => exact .failed ec hready hsame honce
  | expire => exact ⟨rfl, .nothing rfl rfl⟩
  | retry hmem => exact ⟨rfl, .nothing rfl rfl⟩
  | keepAlive hmem =>
      obtain ⟨hconnected, honce⟩ := keepAlive_connectivity
        { client with expired := client.expired.erase .keepAlive }
      exact ⟨hconnected, .nothing rfl honce⟩

end MultiMarketPrices.RestApi.RestClient
