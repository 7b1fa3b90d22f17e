import MultiMarketPrices.Binance.SnapshotService
import MultiMarketPrices.RestApi.Progress

/-!
# Every snapshot that is asked for

A request that arrives is entered in the book, passed to the router and left
with the REST client, answered at once, or given up; the book, the router and
the client agree on what is pending after each of these, and so over every run.
-/

namespace MultiMarketPrices.Binance

open MiddleWare PlatformComm RestApi Routers

namespace SnapshotService

section Tending

variable {parse : String → Except Thrown Json}
  {serialize : Json.Object → String} {apiVersion : String}
  {events : List ServiceEvent} {answers : List SnapshotAnswer}
  {requests : List PendingRequest} {service next : SnapshotService}

/-! ## A request arrives -/

/-- Of the book and the router, what is pending matters. -/
theorem Tended.of_same
    (htended : Tended parse serialize apiVersion events answers requests
      service)
    (hcallbacks : next.callbacks = service.callbacks)
    (hclient : next.gateway.client = service.gateway.client)
    (hpending : ∀ reqId, next.gateway.router.pendingReqIds.lookup reqId =
      service.gateway.router.pendingReqIds.lookup reqId)
    (hbook : ∀ reqId ∈ service.gateway.router.pendingReqIds,
      next.gateway.pendingRequestBook.lookup reqId =
        service.gateway.pendingRequestBook.lookup reqId)
    (hidle : Idle next.gateway.router) :
    Tended parse serialize apiVersion events answers requests next := by
  have hcalls : next.callsOf requests = service.callsOf requests := by
    rw [callsOf, callsOf, hcallbacks]
  constructor
  case hversion => exact hclient ▸ htended.hversion
  case hphase => exact hclient ▸ htended.hphase
  case hbelow =>
    rw [hclient, hcallbacks]
    exact htended.hbelow
  case hissued =>
    rw [hclient]
    exact htended.hissued
  case hcalls =>
    rw [hcalls, hcallbacks]
    exact htended.hcalls
  case hgets =>
    rw [hcallbacks]
    exact htended.hgets
  case hasked =>
    rw [hcallbacks]
    exact htended.hasked
  case hleft =>
    rw [hcallbacks]
    exact htended.hleft
  case hproper => exact htended.hproper
  case hawaits =>
    rw [hcalls]
    intro call hmem
    have hawaits := htended.hawaits call hmem
    constructor
    · rw [hbook _ (Finmap.mem_of_lookup_eq_some hawaits.hrouter)]
      exact hawaits.hbook
    · rw [hpending]
      exact hawaits.hrouter
  case hdistinct =>
    rw [hcalls]
    exact htended.hdistinct
  case hrouter =>
    rw [hcalls]
    intro reqId hmem
    obtain ⟨entry, hentry⟩ := Finmap.mem_iff.mp hmem
    rw [hpending] at hentry
    exact htended.hrouter reqId (Finmap.mem_of_lookup_eq_some hentry)
  case hidle => exact hidle

/-- Whatever is pending in the router is in the book. -/
theorem Tended.mem_book
    (htended : Tended parse serialize apiVersion events answers requests
      service) {reqId : UInt64}
    (hmem : reqId ∈ service.gateway.router.pendingReqIds) :
    reqId ∈ service.gateway.pendingRequestBook := by
  obtain ⟨call, hcall, rfl⟩ := htended.hrouter reqId hmem
  exact Finmap.mem_of_lookup_eq_some (htended.hawaits call hcall).hbook

/-- The middleware enters a new number in its book. -/
def recorded (reqId : UInt64) (destTopic : String)
    (service : SnapshotService) : SnapshotService :=
  { service with gateway := { service.gateway with
      pendingRequestBook :=
        service.gateway.pendingRequestBook.insert reqId destTopic } }

theorem Tended.recorded
    (htended : Tended parse serialize apiVersion events answers requests
      service) {reqId : UInt64}
    (hfresh : reqId ∉ service.gateway.pendingRequestBook)
    (destTopic : String) :
    Tended parse serialize apiVersion events answers requests
      (service.recorded reqId destTopic) := by
  apply htended.of_same
  · rfl
  · rfl
  · exact fun _ => rfl
  · intro other hmem
    apply Finmap.lookup_insert_of_ne
    rintro rfl
    exact hfresh (htended.mem_book hmem)
  · exact htended.hidle

/-- Whatever the middleware hands over besides requests is only noted. -/
theorem foldl_perform {effects : List MiddleWare.Effect}
    (heffects : ∀ reqId msg, .requestHandlerFunc reqId msg ∉ effects) :
    effects.foldl (perform parse serialize) service =
      { service with gateway := { service.gateway with
          effects := service.gateway.effects ++ effects } } := by
  induction effects generalizing service with
  | nil => simp
  | cons effect effects ih =>
      have hfirst : service.perform parse serialize effect =
          { service with gateway := { service.gateway with
              effects := service.gateway.effects ++ [effect] } } := by
        cases effect with
        | requestHandlerFunc reqId msg =>
            exact absurd List.mem_cons_self (heffects reqId msg)
        | _ => rfl
      rw [List.foldl_cons, hfirst, ih fun reqId msg hmem =>
        heffects reqId msg (List.mem_cons_of_mem _ hmem)]
      simp

theorem Tended.foldl_perform
    (htended : Tended parse serialize apiVersion events answers
      service.gateway.client.backlog service)
    {effects : List MiddleWare.Effect}
    (heffects : ∀ reqId msg, .requestHandlerFunc reqId msg ∉ effects)
    (hnext : next = effects.foldl (perform parse serialize) service) :
    Tended parse serialize apiVersion events answers
      next.gateway.client.backlog next := by
  rw [SnapshotService.foldl_perform heffects] at hnext
  subst hnext
  apply htended.of_same
  · rfl
  · rfl
  · exact fun _ => rfl
  · exact fun _ _ => rfl
  · exact htended.hidle

theorem launch_eq (snapshot : SnapshotRequest) (client : RestClient) :
    launch snapshot client =
      { client with
        posted := client.posted ++
          [snapshot.get client.apiVersion client.tickets]
        tickets := client.tickets + 1 } := by
  obtain ⟨symbol, priceType⟩ := snapshot
  cases priceType <;>
    simp [launch, RestClient.launchRequest, SnapshotRequest.get]

theorem launch_phase {client : RestClient} (hphase : client.Phase)
    (snapshot : SnapshotRequest) : (launch snapshot client).Phase := by
  obtain ⟨symbol, priceType⟩ := snapshot
  cases priceType
  · exact hphase.launchRequest _ _ _
  · exact hphase.launchRequest _ _ _

/-- A callback is left with the client for a request that is new to the
router. -/
theorem Tended.leave {call : SnapshotCall} {message : Message}
    {after : RequestGateway}
    (htended : Tended parse serialize apiVersion events answers
      service.gateway.client.backlog service)
    (hbook : service.gateway.pendingRequestBook.lookup call.request.reqId =
      some call.destTopic)
    (hfresh : call.request.reqId ∉ service.gateway.router.pendingReqIds)
    (harrive : .arrive message ∈ events) (hasked : Asked parse message call)
    (hleft : left service.gateway after =
      [(service.gateway.client.tickets, call)])
    (hclient : after.client =
      launch call.snapshot service.gateway.client)
    (hkept : after.pendingRequestBook =
      service.gateway.pendingRequestBook)
    (hpending : after.router.pendingReqIds =
      service.gateway.router.pendingReqIds.insert call.request.reqId
        call.request.ticket)
    (hidle : Idle after.router) :
    Tended parse serialize apiVersion events answers after.client.backlog
      ⟨after, service.callbacks ++ left service.gateway after⟩ := by
  rw [hleft]
  have hlaunch := hclient.trans (launch_eq _ _)
  rw [htended.hversion] at hlaunch
  have htickets : after.client.tickets =
      service.gateway.client.tickets + 1 := by
    rw [hlaunch]
  have hbacklog : after.client.backlog =
      service.gateway.client.backlog ++ [call.snapshot.get apiVersion
        service.gateway.client.tickets] := by
    simp [hlaunch, RestClient.backlog]
  have hcalls : (SnapshotService.mk after (service.callbacks ++
      [(service.gateway.client.tickets, call)])).callsOf
        after.client.backlog = service.pending ++ [call] := by
    rw [callsOf, hbacklog]
    exact htended.hbelow.valuesOf_concat call htended.hissued rfl
  have hold : ∀ other ∈ service.pending,
      other.request.reqId ≠ call.request.reqId := by
    intro other hmem hsame
    apply hfresh
    rw [← hsame]
    exact Finmap.mem_of_lookup_eq_some (htended.hawaits other hmem).hrouter
  constructor
  case hversion => rw [hlaunch]
  case hphase =>
    rw [hclient]
    exact launch_phase htended.hphase call.snapshot
  case hbelow =>
    rw [htickets]
    exact htended.hbelow.concat call
  case hissued =>
    rw [hbacklog, htickets]
    intro request hmem
    rcases List.mem_append.mp hmem with hearlier | hnew
    · exact Nat.lt_succ_of_lt (htended.hissued request hearlier)
    · rw [List.mem_singleton.mp hnew]
      exact Nat.lt_succ_self _
  case hcalls =>
    rw [hcalls, List.map_append, htended.hcalls, List.append_assoc]
    rfl
  case hgets =>
    rw [hbacklog]
    intro request hmem other hlookup
    rw [htended.hbelow.lookup_concat] at hlookup
    rcases List.mem_append.mp hmem with hearlier | hnew
    · rw [if_neg (Nat.ne_of_lt (htended.hissued request hearlier))] at hlookup
      exact htended.hgets request hearlier other hlookup
    · obtain rfl := List.mem_singleton.mp hnew
      rw [if_pos (by rfl)] at hlookup
      obtain rfl := Option.some.inj hlookup
      rfl
  case hasked =>
    rw [List.map_append]
    intro other hmem
    rcases List.mem_append.mp hmem with hearlier | hnew
    · exact htended.hasked other hearlier
    · obtain rfl : other = call := by simpa using hnew
      exact ⟨message, harrive, hasked⟩
  case hleft =>
    intro answer hmem
    rw [List.lookup_append, htended.hleft answer hmem]
    rfl
  case hproper => exact htended.hproper
  case hawaits =>
    rw [hcalls]
    intro other hmem
    rcases List.mem_append.mp hmem with hearlier | hnew
    · have hawaits := htended.hawaits other hearlier
      constructor
      · rw [hkept]
        exact hawaits.hbook
      · rw [hpending, Finmap.lookup_insert_of_ne _ (hold other hearlier)]
        exact hawaits.hrouter
    · obtain rfl := List.mem_singleton.mp hnew
      constructor
      · rw [hkept]
        exact hbook
      · rw [hpending]
        exact Finmap.lookup_insert _
  case hdistinct =>
    rw [hcalls, List.map_append, List.nodup_append]
    refine ⟨htended.hdistinct, by simp, ?_⟩
    intro earlier hearlier new hnew hsame
    obtain ⟨other, hmem, rfl⟩ := List.mem_map.mp hearlier
    rw [List.mem_map] at hnew
    obtain ⟨last, hlast, rfl⟩ := hnew
    rw [List.mem_singleton.mp hlast] at hsame
    exact hold other hmem hsame
  case hrouter =>
    rw [hcalls, hpending]
    intro reqId hmem
    rcases Finmap.mem_insert.mp hmem with rfl | hearlier
    · exact ⟨call, by simp, rfl⟩
    · obtain ⟨other, hother, hsame⟩ := htended.hrouter reqId hearlier
      exact ⟨other, List.mem_append_left _ hother, hsame⟩
  case hidle => exact hidle

/-! ## The handler of the request -/

variable {gateway : RequestGateway} {reqId : UInt64} {priceType : PriceType}
  {symbol : String}

/-- The request for a snapshot, as the handler passes it on. -/
abbrev askedFor (reqId : UInt64) (priceType : PriceType) (symbol : String) :
    RouterRequest :=
  priceRequest reqId priceType symbol priceType.text

/-- The responder of a connected client leaves its callback there. -/
theorem request_asked (hidle : Idle gateway.router)
    (hfresh : reqId ∉ gateway.router.pendingReqIds)
    (hconnected : gateway.client.connected = true) :
    (gateway.request serialize (askedFor reqId priceType symbol)).1 =
      { gateway with
        client := launch ⟨Text.upper symbol, priceType⟩ gateway.client
        router := {
          (gateway.called (askedFor reqId priceType symbol)).router with
            reqPending := false
            callbacks := gateway.router.callbacks
            pendingReqProcessors := [] } } := by
  have houtcome : responder serialize gateway.symbolStore
      (RequestGateway.accepted gateway.router
        (askedFor reqId priceType symbol)) gateway.client =
      ⟨launch ⟨Text.upper symbol, priceType⟩ gateway.client, [], none⟩ := by
    cases priceType <;>
      simp [responder, RequestGateway.accepted, askedFor, priceRequest,
        getSnapshot, hconnected]
  rw [RequestGateway.request_of_idle hidle.serving hfresh hidle.hflag
    (hidle.hresponders _) houtcome rfl]
  exact RequestGateway.returned_of_called rfl hidle.hqueue

/-- What such a responder has left. -/
theorem left_asked {destTopic : String}
    (hbook : gateway.pendingRequestBook.lookup reqId = some destTopic)
    (hidle : Idle gateway.router)
    (hfresh : reqId ∉ gateway.router.pendingReqIds)
    (hconnected : gateway.client.connected = true) :
    left gateway (gateway.request serialize
        (askedFor reqId priceType symbol)).1 =
      [(gateway.client.tickets,
        ⟨RequestGateway.accepted gateway.router
            (askedFor reqId priceType symbol),
          ⟨Text.upper symbol, priceType⟩, destTopic⟩)] := by
  have hsnapshot : MDRequest.snapshot (RequestGateway.accepted gateway.router
      (askedFor reqId priceType symbol)) =
        some ⟨Text.upper symbol, priceType⟩ := by
    cases priceType <;> rfl
  rw [request_asked hidle hfresh hconnected, left, if_pos]
  · have hreqId : (RequestGateway.accepted gateway.router
        (askedFor reqId priceType symbol)).reqId = reqId := rfl
    simp only [RequestGateway.called, List.getLast?_concat,
      Option.toList_some, List.filterMap_cons, hsnapshot, Option.map_some,
      List.filterMap_nil]
    rw [hreqId, hbook]
    rfl
  · simp [launch_eq]

theorem left_of_client {before after : RequestGateway}
    (hclient : after.client = before.client) : left before after = [] := by
  rw [left, if_neg]
  simp [hclient]

theorem Tended.unchanged
    (htended : Tended parse serialize apiVersion events answers
      service.gateway.client.backlog service)
    {after : RequestGateway}
    (hclient : after.client = service.gateway.client)
    (hpending : ∀ reqId, after.router.pendingReqIds.lookup reqId =
      service.gateway.router.pendingReqIds.lookup reqId)
    (hbook : ∀ reqId ∈ service.gateway.router.pendingReqIds,
      after.pendingRequestBook.lookup reqId =
        service.gateway.pendingRequestBook.lookup reqId)
    (hidle : Idle after.router) :
    Tended parse serialize apiVersion events answers after.client.backlog
      ⟨after, service.callbacks ++ left service.gateway after⟩ := by
  rw [left_of_client hclient, List.append_nil, hclient]
  exact htended.of_same rfl hclient hpending hbook hidle

/-- A request that its responder answers at once. -/
theorem Tended.answeredAtOnce {asked : RouterRequest} {payLoad : String}
    {destTopic : String}
    (htended : Tended parse serialize apiVersion events answers
      service.gateway.client.backlog service)
    (hbook : service.gateway.pendingRequestBook.lookup asked.reqId =
      some destTopic)
    (hfresh : asked.reqId ∉ service.gateway.router.pendingReqIds)
    (hasked : requestHandler parse reqId payLoad = .ok (some asked))
    (hatOnce : asked.reqType = .instrumentList ∨
      service.gateway.client.connected = false)
    {after : RequestGateway}
    (hafter : after = (service.gateway.request serialize asked).1) :
    Tended parse serialize apiVersion events answers after.client.backlog
      ⟨after, service.callbacks ++ left service.gateway after⟩ := by
  have hidle := htended.hidle
  obtain ⟨responses, last, houtcome, hpayloads⟩ :=
    RequestGateway.responder_at_once serialize hasked service.gateway.router
      service.gateway.symbolStore hatOnce
  obtain ⟨log, hrequest⟩ := RequestGateway.request_answered asked
    hidle.serving (hidle.hresponders _) hbook hfresh hidle.hflag houtcome
    hpayloads
  rw [hrequest] at hafter
  have hother : ∀ other ∈ service.gateway.router.pendingReqIds,
      other ≠ asked.reqId := by
    rintro other hmem rfl
    exact hfresh hmem
  subst hafter
  apply htended.unchanged
  · rfl
  · intro other
    simp only [RequestGateway.answered, RequestGateway.called]
    rcases eq_or_ne other asked.reqId with rfl | hne
    · rw [Finmap.lookup_erase, Finmap.lookup_eq_none.mpr hfresh]
    · rw [Finmap.lookup_erase_ne hne, Finmap.lookup_insert_of_ne _ hne]
  · intro other hmem
    exact Finmap.lookup_erase_ne (hother other hmem)
  · refine ⟨hidle.hcallbacks, rfl, rfl, ?_, hidle.hresponders⟩
    simp [RequestGateway.answered, RequestGateway.called, hidle.horder]

/-- The handler of a request that has just been entered in the book. -/
theorem Tended.handled {destTopic text : String} {message : Message}
    (htended : Tended parse serialize apiVersion events answers
      service.gateway.client.backlog service)
    (hbook : service.gateway.pendingRequestBook.lookup reqId =
      some destTopic)
    (hfresh : reqId ∉ service.gateway.router.pendingReqIds)
    (harrive : .arrive message ∈ events)
    (htext : message.headers.lookup HeaderKey.reqId = some text)
    (hread : Text.stoull text = .ok reqId)
    (hdestTopic : message.headers.lookup HeaderKey.destTopic =
      some destTopic)
    (hnext : next = service.perform parse serialize
      (.requestHandlerFunc reqId message.payload)) :
    Tended parse serialize apiVersion events answers
      next.gateway.client.backlog next := by
  have hidle := htended.hidle
  subst hnext
  cases hhandler : requestHandler parse reqId message.payload with
  | error thrown =>
      have hsame : (service.gateway.handle parse serialize reqId
          message.payload).1 = service.gateway := by
        simp only [RequestGateway.handle, hhandler]
      simp only [perform, hsame]
      exact htended.unchanged rfl (fun _ => rfl) (fun _ _ => rfl) hidle
  | ok asked? =>
      cases asked? with
      | none =>
          have hsame : (service.gateway.handle parse serialize reqId
              message.payload).1 = service.gateway := by
            simp only [RequestGateway.handle, hhandler]
          simp only [perform, hsame]
          exact htended.unchanged rfl (fun _ => rfl) (fun _ _ => rfl) hidle
      | some asked =>
          have hreqId := RequestGateway.reqId_of_requestHandler hhandler
          have hhandle : (service.gateway.handle parse serialize reqId
              message.payload).1 =
                (service.gateway.request serialize asked).1 := by
            simp only [RequestGateway.handle, hhandler]
          simp only [perform, hhandle]
          by_cases hatOnce : asked.reqType = .instrumentList ∨
              service.gateway.client.connected = false
          · rw [← hreqId] at hbook hfresh
            exact htended.answeredAtOnce hbook hfresh hhandler hatOnce rfl
          · rw [not_or, Bool.not_eq_false] at hatOnce
            obtain ⟨hprice, hconnected⟩ := hatOnce
            rcases (asks_of_requestHandler hhandler).2 with rfl |
              ⟨priceType, symbol, rfl⟩
            · exact absurd rfl hprice
            · have hrequest := @request_asked serialize service.gateway reqId
                priceType symbol hidle hfresh hconnected
              have hleft := @left_asked serialize service.gateway reqId
                priceType symbol destTopic hbook hidle hfresh hconnected
              apply htended.leave _ _ harrive _ hleft
              · rw [hrequest]
              · rw [hrequest]
              · rw [hrequest]
                rfl
              · rw [hrequest]
                refine ⟨hidle.hcallbacks, rfl, rfl, ?_, hidle.hresponders⟩
                simp [RequestGateway.called, hidle.horder]
              · exact hbook
              · exact hfresh
              · exact ⟨⟨text, htext, hread⟩, hdestTopic, priceType, symbol,
                  hhandler, rfl, rfl⟩

/-- A message of type request, whatever it says. -/
theorem Tended.arrive {message : Message}
    (htended : Tended parse serialize apiVersion events answers
      service.gateway.client.backlog service)
    (harrive : .arrive message ∈ events)
    (hstep : service.step parse serialize (.arrive message) = some next) :
    Tended parse serialize apiVersion events answers
      next.gateway.client.backlog next := by
  simp only [step] at hstep
  split at hstep
  · next htaken =>
      obtain rfl := Option.some.inj hstep
      have hmsgType : message.msgType = MessageType.request := by
        by_contra hother
        rw [handleRequest, if_pos hother] at htaken
        cases htaken
      cases received_of_handleRequest service.gateway.pendingRequestBook
        hmsgType with
      | reported error _ houtcome =>
          apply htended.foldl_perform _ (by rw [houtcome])
          simp
      | special text destTopic reqType reqId _ _ _ _ _ houtcome =>
          apply htended.foldl_perform _ (by rw [houtcome])
          intro other msg hmem
          rw [handleSpecialRequest] at hmem
          split at hmem
          · cases (mem_producerFunc hmem).2.2
          · exact absurd hmem List.not_mem_nil
      | recorded text destTopic reqId htext hread hfresh hdestTopic _
          houtcome =>
          apply (htended.recorded hfresh destTopic).handled
            (Finmap.lookup_insert _) _ harrive htext hread hdestTopic
            (by rw [houtcome]; rfl)
          exact fun hmem => hfresh (htended.mem_book hmem)
  · cases hstep

/-! ## Runs -/

theorem Tended.step {event : ServiceEvent}
    (htended : Tended parse serialize apiVersion events answers
      service.gateway.client.backlog service)
    (hstep : service.step parse serialize event = some next) :
    ∃ more : List SnapshotAnswer,
      Tended parse serialize apiVersion (events ++ [event]) (answers ++ more)
          next.gateway.client.backlog next ∧
        service.sends parse serialize event =
          more.flatMap (SnapshotAnswer.record serialize) := by
  have hlater := htended.mono [event]
  cases event with
  | arrive message =>
      refine ⟨[], ?_, rfl⟩
      rw [List.append_nil]
      exact hlater.arrive (by simp) hstep
  | rest event =>
      have hsends : service.sends parse serialize (.rest event) =
          next.gateway.effects.drop service.gateway.effects.length := by
        rw [sends, hstep]
      obtain ⟨outcome, houtcome, hfold⟩ := Option.bind_eq_some_iff.mp hstep
      have hanswered : ∀ invocation ∈ outcome.invocations,
          Answered parse (events ++ [.rest event]) invocation := by
        intro invocation hmem
        rcases RestClient.step_invocation htended.hphase houtcome hmem with
          hec | ⟨hec, stream, sni, body, hresult, heq⟩
        · exact .inl hec
        · exact .inr ⟨hec, stream, sni, body, hresult, by simp [heq]⟩
      obtain ⟨more, hmore, heffects⟩ :=
        (hlater.ofClient houtcome).invokeAll hanswered hfold
      refine ⟨more, ?_, ?_⟩
      · rw [(foldlM_invoke_same hfold).1]
        exact hmore
      · rw [hsends, heffects, List.drop_left]

theorem tended_of_run {host : String} {symbolStore : List (String × String)}
    (hrun : Runs.run (SnapshotService.step parse serialize)
      (start host apiVersion symbolStore) events = some service) :
    ∃ answers : List SnapshotAnswer,
      Tended parse serialize apiVersion events answers
          service.gateway.client.backlog service ∧
        Runs.outputs (SnapshotService.step parse serialize)
          (sends parse serialize) (start host apiVersion symbolStore) events =
            answers.flatMap (SnapshotAnswer.record serialize) := by
  induction events using List.reverseRecOn generalizing service with
  | nil =>
      obtain rfl : start host apiVersion symbolStore = service := by
        simpa using hrun
      exact ⟨[], tended_start host apiVersion symbolStore, rfl⟩
  | append_singleton events event ih =>
      obtain ⟨middle, hmiddle, hlast⟩ := Runs.run_concat_eq_some.mp hrun
      obtain ⟨answers, htended, hsent⟩ := ih hmiddle
      obtain ⟨more, hmore, hsends⟩ := htended.step hlast
      refine ⟨answers ++ more, hmore, ?_⟩
      rw [Runs.outputs_concat hmiddle hlast, hsent, hsends,
        List.flatMap_append]

end Tending

/-- Along every run, over any number of failures and connections, the snapshots
that requests have asked the exchange for are answered in the order in which
they were asked for, each once, with what the exchange answered to it or with
none, to the topic and under the number of its own request; and those that are
not answered still have their numbers in the book and the router, and their
requests with the client, in this order. -/
theorem snapshots_answered (parse : String → Except Thrown Json)
    (serialize : Json.Object → String) (host apiVersion : String)
    (symbolStore : List (String × String)) (events : List ServiceEvent)
    (service : SnapshotService)
    (hrun : Runs.run (step parse serialize)
      (start host apiVersion symbolStore) events = some service) :
    ∃ answers : List SnapshotAnswer,
      service.callbacks.map Prod.snd =
          answers.map SnapshotAnswer.call ++ service.pending ∧
        Runs.outputs (step parse serialize) (sends parse serialize)
          (start host apiVersion symbolStore) events =
            answers.flatMap (SnapshotAnswer.record serialize) ∧
        (∀ answer ∈ answers,
          service.callbacks.lookup answer.ticket = some answer.call ∧
            answer.Proper parse serialize apiVersion events) ∧
        (∀ call ∈ service.callbacks.map Prod.snd, ∃ message,
          .arrive message ∈ events ∧ Asked parse message call) ∧
        ∀ call ∈ service.pending, service.Awaits call := by
  obtain ⟨answers, htended, hsent⟩ := tended_of_run hrun
  exact ⟨answers, htended.hcalls, hsent,
    fun answer hmem => ⟨htended.hleft answer hmem, htended.hproper answer hmem⟩,
    htended.hasked, htended.hawaits⟩

/-- `json::parse` on a request and on an answer. -/
def parseTexts (text : String) : Except Thrown Json :=
  match text with
  | "depth of BTC" =>
      .ok (.object [("message_type", .string "price_request"),
        ("symbol", .string "BTC"), ("type", .string "depth")])
  | "a depth" => .ok (.object [("bids", .array []), ("asks", .array [])])
  | _ => .error .parse

def depthRequest : Message where
  topic := "gateway"
  partition := 0
  offset := 0
  msgType := MessageType.request
  key := "client"
  headers := requestHeaders "client" 7 none
  payload := "depth of BTC"

/-- A client asks for a depth, the connection is lost while the exchange is
asked for it, and the answer comes on the next connection. -/
def depthAsked : List ServiceEvent :=
  let request := SnapshotRequest.get "/api/v3" ⟨"BTC", .depth⟩ 0
  [.rest (.completed ⟨0, .resolve⟩ none none ""),
    .rest (.completed ⟨0, .connect⟩ none none ""),
    .rest (.completed ⟨0, .handshake⟩ none none ""),
    .arrive depthRequest, .rest .runPosted,
    .rest (.completed ⟨0, .write request⟩ (some (.other 104)) none ""),
    .rest .expire, .rest (.timer .retry),
    .rest (.completed ⟨1, .resolve⟩ none none ""),
    .rest (.completed ⟨1, .connect⟩ none none ""),
    .rest (.completed ⟨1, .handshake⟩ none none ""),
    .rest (.completed ⟨1, .write request⟩ none none ""),
    .rest (.completed ⟨1, .read request⟩ none none "a depth")]

theorem snapshots_answered_of_depthAsked :
    ∃ (service : SnapshotService) (answers : List SnapshotAnswer),
      Runs.run (step parseTexts fun _ => "snapshot")
        (start "api.binance.com" "/api/v3" []) depthAsked = some service ∧
      service.callbacks.length = 1 ∧ service.pending = [] ∧
      service.callbacks.map Prod.snd = answers.map SnapshotAnswer.call ∧
      ∀ answer ∈ answers, answer.Proper parseTexts (fun _ => "snapshot")
        "/api/v3" depthAsked := by
  obtain ⟨service, hrun, hlength, hpending⟩ : ∃ service : SnapshotService,
      Runs.run (step parseTexts fun _ => "snapshot")
        (start "api.binance.com" "/api/v3" []) depthAsked = some service ∧
      service.callbacks.length = 1 ∧ service.pending = [] :=
    ⟨_, rfl, rfl, rfl⟩
  obtain ⟨answers, hcalls, -, hproper, -⟩ :=
    snapshots_answered parseTexts (fun _ => "snapshot") "api.binance.com"
      "/api/v3" [] depthAsked service hrun
  rw [hpending, List.append_nil] at hcalls
  exact ⟨service, answers, hrun, hlength, hpending, hcalls,
    fun answer hmem => (hproper answer hmem).2⟩

/-! ## How all depths are answered -/

/-- A step of the client of its own, and no failure. -/
def Advances (service : SnapshotService) : ServiceEvent → Prop
  | .rest event => service.gateway.client.Advances event
  | .arrive _ => False

/-- What `on_read` makes of the body could be a depth. -/
def IsDepth (parse : String → Except Thrown Json) (body : String) : Prop :=
  ∃ depth, (RestClient.responseResult parse body).get "data" = .object depth

/-- The client waits for depths only, since every answer to a request for trades
ends the process. -/
def OnlyDepths (service : SnapshotService) : Prop :=
  ∀ call ∈ service.pending, call.snapshot.priceType = .depth

section Settling

variable {parse : String → Except Thrown Json}
  {serialize : Json.Object → String} {apiVersion : String}
  {events : List ServiceEvent} {answers : List SnapshotAnswer}
  {service next : SnapshotService}

/-- No callback throws while depths are answered with depths. -/
theorem Tended.exists_step {event : ClientEvent} {outcome : Outcome}
    {body : String}
    (htended : Tended parse serialize apiVersion events answers
      service.gateway.client.backlog service)
    (hdepths : service.OnlyDepths) (hbrings : event.Brings body)
    (hbody : IsDepth parse body)
    (hstep : service.gateway.client.step parse event = some outcome) :
    ∃ next, service.step parse serialize (.rest event) = some next := by
  have hcalls : service.callsOf (outcome.invocations.map Invocation.request ++
      outcome.client.backlog) = service.pending :=
    List.append_cancel_left
      ((htended.ofClient hstep).hcalls.symm.trans htended.hcalls)
  simp only [SnapshotService.step, hstep, Option.bind_some]
  apply exists_foldlM_invoke
  intro invocation hmem call hcall
  have htype : call.snapshot.priceType = .depth := by
    apply hdepths call
    rw [← hcalls]
    exact List.mem_filterMap.mpr ⟨invocation.request,
      List.mem_append_left _ (List.mem_map_of_mem hmem), hcall⟩
  rcases RestClient.step_invocation htended.hphase hstep hmem with
    ⟨ec, hec⟩ | ⟨hec, stream, sni, text, hresult, rfl⟩
  · exact ⟨.nullSnapShot, by rw [hec]; rfl⟩
  · obtain rfl : text = body := hbrings
    obtain ⟨depth, hdata⟩ := hbody
    rw [hec, hresult]
    cases hcallback : call.snapshot.callback serialize
        (RestClient.responseResult parse text) none with
    | ok response => exact ⟨response, rfl⟩
    | error thrown =>
        exact absurd hdata
          ((callback_throws_iff _ text).mp ⟨thrown, hcallback⟩ htype depth)

/-- A client with nothing to answer holds no callback and the router no
number. -/
theorem Tended.nothing_pending
    (htended : Tended parse serialize apiVersion events answers
      service.gateway.client.backlog service)
    (hbacklog : service.gateway.client.backlog = []) :
    service.pending = [] ∧ service.gateway.router.pendingReqIds = ∅ := by
  have hpending : service.pending = [] := by
    rw [pending, hbacklog]
    rfl
  refine ⟨hpending, Finmap.ext_lookup fun reqId => ?_⟩
  rw [Finmap.lookup_empty, Finmap.lookup_eq_none]
  intro hmem
  obtain ⟨call, hcall, -⟩ := htended.hrouter reqId hmem
  rw [show service.callsOf service.gateway.client.backlog = [] from hpending]
    at hcall
  cases hcall

/-- A state of the service, with a client that may go on. -/
structure Open (parse : String → Except Thrown Json)
    (serialize : Json.Object → String) (apiVersion : String)
    (service : SnapshotService) : Prop where
  htended : ∃ events answers, Tended parse serialize apiVersion events answers
    service.gateway.client.backlog service
  hstill : ¬ service.gateway.client.GaveUp
  hdepths : service.OnlyDepths

theorem Open.advanced {event : ServiceEvent}
    (hopen : service.Open parse serialize apiVersion)
    (hadvances : service.Advances event)
    (hstep : service.step parse serialize event = some next) :
    next.Open parse serialize apiVersion ∧
      next.gateway.client.work + 1 = service.gateway.client.work := by
  obtain ⟨⟨events, answers, htended⟩, hstill, hdepths⟩ := hopen
  obtain ⟨more, hnext, -⟩ := htended.step hstep
  cases event with
  | arrive message => exact absurd hadvances id
  | rest event =>
      obtain ⟨outcome, houtcome, hfold⟩ := Option.bind_eq_some_iff.mp hstep
      obtain ⟨hadvanced, -⟩ :=
        htended.hphase.advanced hstill hadvances houtcome
      obtain ⟨hclient, hcallbacks⟩ := foldlM_invoke_same hfold
      have hclient : next.gateway.client = outcome.client := hclient
      rw [← hclient] at hadvanced
      -- What was pending has been answered or is pending still.
      have hpending : service.pending =
          more.map SnapshotAnswer.call ++ next.pending := by
        have hcalls := hnext.hcalls
        rw [hcallbacks, htended.hcalls, List.map_append,
          List.append_assoc] at hcalls
        exact List.append_cancel_left hcalls
      refine ⟨⟨⟨_, _, hnext⟩, hadvanced.hopen, ?_⟩, hadvanced.hwork⟩
      intro call hmem
      exact hdepths call (hpending ▸ List.mem_append_right _ hmem)

end Settling

/-- From every state in which the client has not given up and waits for no
trades, its own steps answer every snapshot that was asked for: in whatever
order they come, no callback throws on a depth, there is a step to make until
there have been as many as the state had left, and then no callback is pending,
and no number in the router. -/
theorem snapshots_settle (parse : String → Except Thrown Json)
    (serialize : Json.Object → String) (host apiVersion : String)
    (symbolStore : List (String × String)) (events : List ServiceEvent)
    (service : SnapshotService)
    (hrun : Runs.run (step parse serialize)
      (start host apiVersion symbolStore) events = some service)
    (hopen : ¬ service.gateway.client.GaveUp) (hdepths : service.OnlyDepths)
    (body : String) (hbody : IsDepth parse body) (steps : List ServiceEvent)
    (finish : SnapshotService)
    (hsteps : Runs.EveryStep (step parse serialize) Advances service steps)
    (hfinish : Runs.run (step parse serialize) service steps = some finish) :
    steps.length + finish.gateway.client.work =
        service.gateway.client.work ∧
      (∀ event outcome text, event.Brings text → IsDepth parse text →
        finish.gateway.client.step parse event = some outcome →
        ∃ next, finish.step parse serialize (.rest event) = some next) ∧
      (finish.gateway.client.work ≠ 0 → ∃ event next,
        finish.Advances event ∧
          finish.step parse serialize event = some next) ∧
      (finish.gateway.client.work = 0 → finish.pending = [] ∧
        finish.gateway.router.pendingReqIds = ∅) := by
  obtain ⟨before, hbefore, -⟩ := tended_of_run hrun
  have hstart : service.Open parse serialize apiVersion :=
    ⟨⟨events, before, hbefore⟩, hopen, hdepths⟩
  obtain ⟨⟨_, answers, htended⟩, hstill, hleft⟩ :
      finish.Open parse serialize apiVersion :=
    hsteps.invariant (SnapshotService.Open parse serialize apiVersion)
      (fun _ _ _ hbefore hadvances hstep =>
        (hbefore.advanced hadvances hstep).1) hstart hfinish
  have hwork := hsteps.length_add_measure
    (fun _ _ _ hbefore hadvances hstep =>
      Open.advanced hbefore hadvances hstep) hstart hfinish
  refine ⟨hwork, fun event outcome text hbrings hdepth houtcome =>
    htended.exists_step hleft hbrings hdepth houtcome, ?_, fun hnone =>
    htended.nothing_pending (htended.hphase.backlog_eq_nil hnone)⟩
  intro hsome
  obtain ⟨event, outcome, hadvances, hbrings, houtcome⟩ :=
    htended.hphase.exists_advance parse body hstill hsome
  obtain ⟨next, hstep⟩ := htended.exists_step hleft hbrings hbody houtcome
  exact ⟨.rest event, next, hadvances, hstep⟩

/-- What is lost with the first connection is answered on the next. -/
theorem snapshots_settle_of_depthAsked :
    ∃ service finish : SnapshotService,
      Runs.run (step parseTexts fun _ => "snapshot")
        (start "api.binance.com" "/api/v3" []) (depthAsked.take 8) =
          some service ∧
      Runs.run (step parseTexts fun _ => "snapshot") service
        (depthAsked.drop 8) = some finish ∧
      service.pending.length = 1 ∧ finish.pending = [] := by
  refine ⟨_, _, rfl, rfl, rfl, ?_⟩
  refine ((snapshots_settle parseTexts (fun _ => "snapshot")
    "api.binance.com" "/api/v3" [] (depthAsked.take 8) _ rfl ?_ ?_ "a depth"
    ⟨_, rfl⟩ (depthAsked.drop 8) _ ?_ rfl).2.2.2 rfl).1
  · exact fun hgaveUp => absurd hgaveUp.1 (List.cons_ne_nil _ _)
  · intro call hmem
    rw [List.mem_singleton.mp hmem]
  · intro initial event hinitial state _
    have hmem : event ∈ depthAsked.drop 8 :=
      hinitial.subset (List.mem_append_right _ List.mem_cons_self)
    simp only [depthAsked, List.drop_succ_cons, List.drop_zero,
      List.mem_cons, List.not_mem_nil, or_false] at hmem
    rcases hmem with rfl | rfl | rfl | rfl | rfl <;> exact ⟨rfl, rfl⟩

end SnapshotService

end MultiMarketPrices.Binance
