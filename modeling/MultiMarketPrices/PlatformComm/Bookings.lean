import MultiMarketPrices.PlatformComm.Gateway

/-!
# The history of a pair

What the handled events alone say about a key and a destination topic: which
partitions have been assigned, whether the last message about the pair on such
a partition was a subscription, and which partitions' messages booked the pair.
The book holds a pair exactly while its history says that it is wanted,
whatever has become of the partitions.
-/

namespace MultiMarketPrices.PlatformComm

structure PairHistory where
  assigned : Finset ℤ
  wanted : Bool
  bookers : Finset ℤ
  deriving DecidableEq

namespace PairHistory

def empty : PairHistory := ⟨∅, false, ∅⟩

/-- A message about the pair that came on an assigned partition.  A repeated
subscription does not book. -/
def message (partition : ℤ) (isSub : Bool) (history : PairHistory) :
    PairHistory :=
  { history with
    wanted := isSub
    bookers :=
      if isSub && !history.wanted then insert partition history.bookers
      else history.bookers }

def step (platform : Platform) (key destTopic : String)
    (history : PairHistory) (event : GatewayEvent) : PairHistory :=
  match event with
  | .rebalance .partitionAssigned partition =>
      { history with assigned := insert partition history.assigned }
  | .message partition _ _ =>
      if partition ∉ history.assigned then history
      else if event.IsAbout platform true key destTopic then
        history.message partition true
      else if event.IsAbout platform false key destTopic then
        history.message partition false
      else history
  | _ => history

/-- The history of a pair over a list of events. -/
def ofEvents (platform : Platform) (key destTopic : String)
    (events : List GatewayEvent) : PairHistory :=
  events.foldl (step platform key destTopic) empty

/-- The history agrees with the state of the gateway. -/
structure Agrees (key destTopic : String) (history : PairHistory)
    (gateway : Gateway) : Prop where
  hassigned : ∀ partition,
    partition ∈ history.assigned ↔ partition ∈ gateway.partitionFSMs
  hwanted : history.wanted = true ↔ destTopic ∈ gateway.book.topics key

variable {platform : Platform} {key destTopic : String}
  {history : PairHistory} {gateway next : Gateway} {event : GatewayEvent}
  {effects : List Effect}

theorem step_of_not_about (hother : ∀ isSub,
      ¬ event.IsAbout platform isSub key destTopic) :
    (history.step platform key destTopic event).wanted = history.wanted ∧
      (history.step platform key destTopic event).bookers =
        history.bookers := by
  cases event with
  | rebalance rebalanceType partition =>
      cases rebalanceType <;> exact ⟨rfl, rfl⟩
  | response => exact ⟨rfl, rfl⟩
  | message partition msgType msg =>
      simp only [step, if_neg (hother true), if_neg (hother false)]
      split <;> exact ⟨rfl, rfl⟩

/-- A pair that no message is about is never booked. -/
theorem ofEvents_of_not_about (hother : ∀ isSub event,
      ¬ GatewayEvent.IsAbout platform isSub key destTopic event)
    (events : List GatewayEvent) :
    (ofEvents platform key destTopic events).wanted = false ∧
      (ofEvents platform key destTopic events).bookers = ∅ := by
  induction events using List.reverseRecOn with
  | nil => exact ⟨rfl, rfl⟩
  | append_singleton events event ih =>
      rw [ofEvents, List.foldl_append]
      have hkept : ∀ history : PairHistory,
          (history.step platform key destTopic event).wanted =
              history.wanted ∧
            (history.step platform key destTopic event).bookers =
              history.bookers :=
        fun history => step_of_not_about fun isSub => hother isSub event
      exact ⟨(hkept _).1.trans ih.1, (hkept _).2.trans ih.2⟩

/-- The partitions with a machine are those that have been assigned. -/
theorem assigned_step (hhandled : Handled platform gateway event next effects)
    (hassigned : ∀ partition,
      partition ∈ history.assigned ↔ partition ∈ gateway.partitionFSMs)
    (partition : ℤ) :
    partition ∈ (history.step platform key destTopic event).assigned ↔
      partition ∈ next.partitionFSMs := by
  have hinsert : ∀ {other : ℤ} {fsm after : Fsm},
      gateway.partitionFSMs.lookup other = some fsm →
      next.partitionFSMs = gateway.partitionFSMs.insert other after →
      (partition ∈ next.partitionFSMs ↔ partition ∈ history.assigned) := by
    intro other fsm after hfsm hfsms
    have hmem := Finmap.mem_of_lookup_eq_some hfsm
    rw [hfsms, Finmap.mem_insert, hassigned]
    exact ⟨fun hor => hor.elim (fun heq => heq ▸ hmem) id, .inr⟩
  have hmessage : ∀ other msgType msg,
      (history.step platform key destTopic
        (.message other msgType msg)).assigned = history.assigned := by
    intro other msgType msg
    simp only [step]
    repeat' split
    all_goals rfl
  cases hhandled with
  | ignored hevent _ hfsms =>
      rw [hfsms, ← hassigned]
      cases event with
      | rebalance rebalanceType other =>
          obtain ⟨rfl, -⟩ := hevent _ _ rfl
          exact Iff.rfl
      | message other msgType msg => rw [hmessage]
      | response => exact Iff.rfl
  | created other hevent hnew hbook hfsms =>
      subst hevent
      rw [hfsms, Finmap.mem_insert, ← hassigned]
      exact Finset.mem_insert
  | rebalanced rebalanceType other fsm after out hevent hfsm _ _ hfsms =>
      subst hevent
      rw [hinsert hfsm hfsms]
      cases rebalanceType with
      | partitionAssigned =>
          have hmem := (hassigned other).mpr
            (Finmap.mem_of_lookup_eq_some hfsm)
          simp [step, hmem]
      | partitionRevoked => exact Iff.rfl
  | booked other msg isSub _ _ fsm after out hevent _ _ hfsm _ _ hfsms =>
      subst hevent
      rw [hinsert hfsm hfsms, hmessage]
  | responded _ _ _ _ other fsm after out hevent _ _ _ hfsm _ _ hfsms =>
      subst hevent
      rw [hinsert hfsm hfsms]
      exact Iff.rfl

/-- A message about the pair, by the partition it came on. -/
theorem step_message {partition : ℤ} {isSub : Bool} {msg : String}
    (hrequest : platform.subUnsubRequest isSub msg =
      .ok (some (key, destTopic))) :
    history.step platform key destTopic
        (.message partition (Platform.messageType isSub) msg) =
      if partition ∈ history.assigned then history.message partition isSub
      else history := by
  have habout : ∀ other, GatewayEvent.IsAbout platform other key destTopic
      (.message partition (Platform.messageType isSub) msg) ↔
        other = isSub := by
    intro other
    constructor
    · rintro ⟨htype, -⟩
      cases other <;> cases isSub <;> simp_all [Platform.messageType]
    · rintro rfl
      exact ⟨rfl, hrequest⟩
  simp only [step, habout]
  cases isSub <;> by_cases hmem : partition ∈ history.assigned <;> simp [hmem]

theorem Agrees.step (hagrees : Agrees key destTopic history gateway)
    (hsound : gateway.Sound)
    (hhandle : platform.handle gateway event = .ok (next, effects)) :
    Agrees key destTopic (history.step platform key destTopic event) next := by
  have hhandled := handled_of_handle hsound hhandle
  refine ⟨assigned_step hhandled hagrees.hassigned, ?_⟩
  by_cases habout : ∃ isSub, event.IsAbout platform isSub key destTopic
  · obtain ⟨isSub, habout⟩ := habout
    cases event with
    | rebalance | response => exact absurd habout id
    | message partition msgType msg =>
        obtain ⟨rfl, hrequest⟩ := habout
        have hcomputed : platform.msgCb partition (Platform.messageType isSub)
            msg gateway = .ok (next, effects) := hhandle
        rw [step_message hrequest]
        cases hfsm : gateway.partitionFSMs.lookup partition with
        | none =>
            have hunknown : partition ∉ history.assigned :=
              mt (hagrees.hassigned partition).mp (Finmap.lookup_eq_none.mp hfsm)
            have hignored : platform.msgCb partition
                (Platform.messageType isSub) msg gateway =
                  .ok (gateway, []) := by
              cases isSub <;>
                simp [Platform.msgCb, Platform.messageType, hfsm]
            obtain ⟨rfl, -⟩ :=
              Prod.mk.inj (Except.ok.inj (hignored.symm.trans hcomputed))
            rw [if_neg hunknown]
            exact hagrees.hwanted
        | some fsm =>
            have hknown : partition ∈ history.assigned :=
              (hagrees.hassigned partition).mpr
                (Finmap.mem_of_lookup_eq_some hfsm)
            rw [if_pos hknown, msgCb_book hfsm hrequest hcomputed,
              RoutingBook.topics_bookKeeping, if_pos rfl]
            cases isSub <;> simp [message]
  · rw [not_exists] at habout
    rw [(step_of_not_about habout).1, hhandled.mem_topics_iff habout]
    exact hagrees.hwanted

theorem bookers_subset_step (hsubset : history.bookers ⊆ history.assigned) :
    (history.step platform key destTopic event).bookers ⊆
      (history.step platform key destTopic event).assigned := by
  cases event with
  | response => exact hsubset
  | rebalance rebalanceType partition =>
      cases rebalanceType with
      | partitionAssigned =>
          exact hsubset.trans (Finset.subset_insert partition _)
      | partitionRevoked => exact hsubset
  | message partition msgType msg =>
      by_cases hmem : partition ∈ history.assigned
      · have hmessage : ∀ isSub, (history.message partition isSub).bookers ⊆
            history.assigned := by
          intro isSub
          simp only [message]
          split
          · exact Finset.insert_subset hmem hsubset
          · exact hsubset
        simp only [step, hmem, not_true, if_false]
        split
        · exact hmessage true
        · split
          · exact hmessage false
          · exact hsubset
      · simpa [step, hmem] using hsubset

/-- Only partitions that have been assigned book. -/
theorem bookers_subset_assigned (events : List GatewayEvent) :
    (ofEvents platform key destTopic events).bookers ⊆
      (ofEvents platform key destTopic events).assigned := by
  induction events using List.reverseRecOn with
  | nil => exact Finset.Subset.refl _
  | append_singleton events event ih =>
      rw [ofEvents, List.foldl_append]
      exact bookers_subset_step ih

theorem nonempty_message (partition : ℤ) (isSub : Bool)
    (hnonempty : history.wanted = true → history.bookers.Nonempty) :
    (history.message partition isSub).wanted = true →
      (history.message partition isSub).bookers.Nonempty := by
  intro hwanted
  obtain rfl : isSub = true := hwanted
  simp only [message]
  split
  · exact Finset.insert_nonempty partition _
  · next hbooked => exact hnonempty (by simpa using hbooked)

/-- A pair that is wanted was booked by some partition's messages. -/
theorem bookers_nonempty {events : List GatewayEvent}
    (hwanted : (ofEvents platform key destTopic events).wanted = true) :
    (ofEvents platform key destTopic events).bookers.Nonempty := by
  induction events using List.reverseRecOn with
  | nil => cases hwanted
  | append_singleton events event ih =>
      rw [ofEvents, List.foldl_append] at hwanted ⊢
      simp only [List.foldl_cons, List.foldl_nil] at hwanted ⊢
      rw [← ofEvents] at hwanted ⊢
      cases event with
      | rebalance rebalanceType partition =>
          cases rebalanceType <;> exact ih hwanted
      | response => exact ih hwanted
      | message partition msgType msg =>
          simp only [step] at hwanted ⊢
          split
          · next hmem =>
              rw [if_pos hmem] at hwanted
              exact ih hwanted
          · next hmem =>
              rw [if_neg hmem] at hwanted
              split
              · exact nonempty_message partition true ih rfl
              · next hsub =>
                  rw [if_neg hsub] at hwanted
                  split
                  · next hunsub =>
                      rw [if_pos hunsub] at hwanted
                      cases hwanted
                  · next hother =>
                      rw [if_neg hother] at hwanted
                      exact ih hwanted

theorem agrees_empty : Agrees key destTopic empty .initial where
  hassigned partition := by
    simp [empty, Gateway.initial, Finmap.notMem_empty]
  hwanted := by simp [empty, Gateway.initial]

/-- In every state of every run, a pair is booked exactly while its history
says that it is wanted. -/
theorem agrees_ofEvents {events : List GatewayEvent} {record : Record}
    (hrun : Runs.run (Record.step platform) .start events = some record) :
    Agrees key destTopic (ofEvents platform key destTopic record.handled)
      record.gateway := by
  have hkept := Runs.run_invariant
    (fun record => record.gateway.Sound ∧
      Agrees key destTopic (ofEvents platform key destTopic record.handled)
        record.gateway)
    (fun state event next hstate hstep => ?_)
    ⟨sound_initial, agrees_empty⟩ hrun
  · exact hkept.2
  · obtain ⟨hsound, hagrees⟩ := hstate
    obtain ⟨sent, hhandle, hhandled, -⟩ := Record.step_eq_some hstep
    refine ⟨Record.step_sound hsound hstep, ?_⟩
    rw [hhandled, ofEvents, List.foldl_append]
    exact hagrees.step hsound hhandle

end PairHistory

end MultiMarketPrices.PlatformComm
