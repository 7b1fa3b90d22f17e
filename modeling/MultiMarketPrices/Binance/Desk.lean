import MultiMarketPrices.Binance.FanOut

/-!
# The worker's journal

What the worker has handled and sent, in order, and what it says about a key
and a destination topic: the price records that the topic received, and whether
the last record about the pair since its subscription is a price.
-/

namespace MultiMarketPrices.Binance

open PlatformComm

/-! ## The journal -/

inductive Entry
  /-- a callback of the middleware -/
  | handled (event : GatewayEvent)
  /-- the records of one update -/
  | sent (records : Multiset Effect)

/-- The platform side with the worker's journal. -/
structure Desk where
  record : Record
  journal : List Entry

namespace Desk

def start : Desk := ⟨.start, []⟩

/-- One task; an exception ends the run. -/
def step (platform : Platform) (desk : Desk) : WorkerTask → Option Desk
  | .gateway event =>
      (Record.step (onBinance platform) desk.record event).map fun record =>
        ⟨record, desk.journal ++ [.handled event]⟩
  | .price key data =>
      match (onBinance platform).onPriceDataFromExchange
        desk.record.gateway.book key data with
      | .ok calls => some
          { desk with
            journal := desk.journal ++ [.sent (calls.filter Effect.IsSent)] }
      | .error _ => none

def topics (desk : Desk) (key : String) : Finset String :=
  desk.record.gateway.book.topics key

end Desk

/-! ## Records about a pair -/

/-- A trade or a depth of the key for the topic. -/
def IsPriceOf (key destTopic : String) : Effect → Prop
  | .produce topic msgType recordKey _ =>
      topic = destTopic ∧ recordKey = key ∧
        (msgType = "trade_update" ∨ msgType = "depth_update")
  | _ => False

instance (key destTopic : String) : DecidablePred (IsPriceOf key destTopic)
  | .produce _ _ _ _ => inferInstanceAs (Decidable (_ ∧ _ ∧ _))
  | .request _ _ | .control _ _ | .entered _ _ =>
      inferInstanceAs (Decidable False)

theorem IsPriceOf.isSent {key destTopic : String} {effect : Effect}
    (hprice : IsPriceOf key destTopic effect) (htopic : destTopic ≠ "")
    (hkey : key ≠ "") : effect.IsSent := by
  cases effect with
  | request | control | entered => exact hprice.elim
  | produce topic msgType recordKey payload =>
      obtain ⟨rfl, rfl, rfl | rfl⟩ := hprice <;> simp [htopic, hkey]

theorem IsPriceOf.not_isSent {key : String} {effect : Effect}
    (hprice : IsPriceOf key "" effect) : ¬ effect.IsSent := by
  cases effect with
  | request | control | entered => exact hprice.elim
  | produce topic msgType recordKey payload => simp [hprice.1]

/-- The symbol and the type that the payload of a blanking names. -/
def blankedPair : Json → Option (String × String)
  | .object members =>
      match members.lookup "symbol", members.lookup "type" with
      | some (.string symbol), some (.string type) => some (symbol, type)
      | _, _ => none
  | _ => none

/-- A blanking of the key's symbol and type for the topic. -/
def IsBlankingOf (key destTopic : String) : Effect → Prop
  | .produce topic msgType _ payload =>
      topic = destTopic ∧ msgType = "price_blanked" ∧
        (blankedPair payload).isSome ∧
        (keyDisintegrationFunc key).toOption.map
          (fun parts => (parts.1, parts.2.1)) = blankedPair payload
  | _ => False

instance (key destTopic : String) : DecidablePred (IsBlankingOf key destTopic)
  | .produce _ _ _ _ => inferInstanceAs (Decidable (_ ∧ _ ∧ _ ∧ _))
  | .request _ _ | .control _ _ | .entered _ _ =>
      inferInstanceAs (Decidable False)

/-- The record of a trade or depth update for a topic. -/
def priceRecord (key destTopic : String) : MDUpdateVariant → Option Effect
  | .tradeUpdate update => some
      (.produce destTopic "trade_update" key update)
  | .depthUpdate update => some
      (.produce destTopic "depth_update" key update)
  | .priceBlanking => none

/-! ## What a pair receives -/

/-- The price records of the key that a topic received, update by update. -/
def received (key destTopic : String) (journal : List Entry) :
    List (Multiset Effect) :=
  (journal.filterMap fun
    | .sent records => some (records.filter (IsPriceOf key destTopic))
    | .handled _ => none).filter fun records => records.card ≠ 0

/-- The price record due to the pair for an update, if any. -/
def dueRecord (key destTopic updated : String) (data : MDUpdateVariant)
    (wanted : Bool) : List Effect :=
  if updated = key ∧ wanted = true then
    (priceRecord key destTopic data).toList
  else []

/-- The price records due to the pair, given its history before the tasks:
those of the updates of the key that find it wanted. -/
def due (platform : Platform) (key destTopic : String)
    (history : PairHistory) : List WorkerTask → List Effect
  | [] => []
  | .gateway event :: tasks =>
      due platform key destTopic
        (history.step (onBinance platform) key destTopic event) tasks
  | .price updated data :: tasks =>
      dueRecord key destTopic updated data history.wanted ++
        due platform key destTopic history tasks

/-- What a consumer of the topic knows about the key. -/
structure Standing where
  history : PairHistory
  /-- the last record about the pair since its subscription is a price -/
  priced : Bool

def Standing.step (platform : Platform) (key destTopic : String)
    (standing : Standing) : Entry → Standing
  | .handled event =>
      let history :=
        standing.history.step (onBinance platform) key destTopic event
      ⟨history, standing.priced && standing.history.wanted && history.wanted⟩
  | .sent records =>
      { standing with
        priced :=
          if 0 < records.countP (IsPriceOf key destTopic) then true
          else if 0 < records.countP (IsBlankingOf key destTopic) then false
          else standing.priced }

def standing (platform : Platform) (key destTopic : String)
    (journal : List Entry) : Standing :=
  journal.foldl (Standing.step platform key destTopic) ⟨.empty, false⟩

namespace Desk

/-- No booked pair is left with a price. -/
def Blank (platform : Platform) (desk : Desk) : Prop :=
  ∀ key destTopic, destTopic ∈ desk.topics key →
    (standing platform key destTopic desk.journal).priced = false

/-! ## Runs of tasks -/

variable {platform : Platform} {desk next : Desk} {tasks : List WorkerTask}

/-- What a task can do. -/
inductive Stepped (platform : Platform) (desk : Desk) :
    WorkerTask → Desk → Prop
  | gateway (event : GatewayEvent) (record : Record)
      (hrecord : Record.step (onBinance platform) desk.record event =
        some record) :
      Stepped platform desk (.gateway event)
        ⟨record, desk.journal ++ [.handled event]⟩
  | price (key : String) (data : MDUpdateVariant) (calls : Multiset Effect)
      (hcalls : (onBinance platform).onPriceDataFromExchange
        desk.record.gateway.book key data = .ok calls) :
      Stepped platform desk (.price key data)
        { desk with
          journal := desk.journal ++ [.sent (calls.filter Effect.IsSent)] }

theorem stepped_of_step {task : WorkerTask}
    (hstep : desk.step platform task = some next) :
    Stepped platform desk task next := by
  cases task with
  | gateway event =>
      obtain ⟨record, hrecord, rfl⟩ := Option.map_eq_some_iff.mp hstep
      exact .gateway event record hrecord
  | price key data =>
      rw [step] at hstep
      split at hstep
      · next calls hcalls =>
          obtain rfl := Option.some.inj hstep
          exact .price key data calls hcalls
      · cases hstep

/-- The worker's messages without their order. -/
def worker (desk : Desk) : Worker where
  record := desk.record
  sent := (desk.journal.map fun
    | .sent records => records
    | .handled _ => 0).sum

theorem worker_step {task : WorkerTask}
    (hstep : desk.step platform task = some next) :
    desk.worker.step platform task = some next.worker := by
  cases stepped_of_step hstep with
  | gateway event record hrecord =>
      simp [worker, Worker.step, hrecord]
  | price key data calls hcalls =>
      simp [worker, Worker.step, hcalls]

theorem worker_run
    (hrun : Runs.run (step platform) desk tasks = some next) :
    Runs.run (Worker.step platform) desk.worker tasks = some next.worker := by
  induction tasks generalizing desk with
  | nil =>
      obtain rfl : desk = next := by simpa using hrun
      rfl
  | cons task tasks ih =>
      rw [Runs.run_cons, Option.bind_eq_some_iff] at hrun
      obtain ⟨middle, hstep, hrest⟩ := hrun
      rw [Runs.run_cons, worker_step hstep]
      exact ih hrest

theorem readable_of_run
    (hrun : Runs.run (step platform) start tasks = some desk) :
    Readable desk.record.gateway.book :=
  .of_run (Worker.record_run (worker_run hrun))

theorem standing_concat (key destTopic : String) (journal : List Entry)
    (entry : Entry) :
    standing platform key destTopic (journal ++ [entry]) =
      (standing platform key destTopic journal).step platform key destTopic
        entry := by
  rw [standing, List.foldl_append]
  rfl

/-- The history kept with the journal is that of the callbacks. -/
theorem standing_history
    (hrun : Runs.run (step platform) start tasks = some desk)
    (key destTopic : String) :
    (standing platform key destTopic desk.journal).history =
      PairHistory.ofEvents (onBinance platform) key destTopic
        (callbacks tasks) := by
  induction tasks using List.reverseRecOn generalizing desk with
  | nil =>
      obtain rfl : start = desk := by simpa using hrun
      rfl
  | append_singleton tasks task ih =>
      obtain ⟨middle, hmiddle, hstep⟩ := Runs.run_concat_eq_some.mp hrun
      rw [callbacks, List.filterMap_append, PairHistory.ofEvents,
        List.foldl_append]
      cases stepped_of_step hstep with
      | gateway event record hrecord =>
          rw [standing_concat, Standing.step, ih hmiddle]
          rfl
      | price updated data calls hcalls =>
          rw [standing_concat, Standing.step, ih hmiddle]
          rfl

/-- A pair is booked exactly while its history says that it is wanted. -/
theorem wanted_iff (hrun : Runs.run (step platform) start tasks = some desk)
    (key destTopic : String) :
    (standing platform key destTopic desk.journal).history.wanted = true ↔
      destTopic ∈ desk.topics key := by
  have hrecord := Worker.record_run (worker_run hrun)
  have hagrees := @PairHistory.agrees_ofEvents (onBinance platform) key
    destTopic _ _ hrecord
  have hhandled : desk.record.handled = callbacks tasks := by
    have heq := Record.handled_eq hrecord
    exact heq.trans (List.nil_append _)
  rw [standing_history hrun, ← hhandled]
  exact hagrees.hwanted

/-! ## The calls and the records of one update -/

/-- The calls for the topics of a key, kept for one topic. -/
theorem filter_map_topics {topics : Finset String} {destTopic : String}
    {record : String → Effect} {relevant : Effect → Prop}
    [DecidablePred relevant]
    (hrelevant : ∀ topic, relevant (record topic) ↔ topic = destTopic) :
    (topics.val.map record).filter relevant =
      if destTopic ∈ topics then {record destTopic} else 0 := by
  rw [Multiset.filter_map]
  have hsame : topics.val.filter (relevant ∘ record) =
      topics.val.filter (· = destTopic) :=
    Multiset.filter_congr fun topic _ => hrelevant topic
  rw [hsame, ← Finset.filter_val, Finset.filter_eq']
  split <;> rfl

variable {book : RoutingBook} {key destTopic updated : String}
  {data : MDUpdateVariant} {calls records : Multiset Effect}

/-- The calls of a blanking are blankings. -/
theorem blanked_of_mem
    (hcalls : (onBinance platform).onPriceDataFromExchange book updated
      .priceBlanking = .ok calls) {call : Effect}
    (hmem : call ∈ calls) :
    ∃ topic payload,
      call = .produce topic "price_blanked" "NULL" payload := by
  have hblanked : ∀ {key destTopics calls},
      (onBinance platform).blanking key destTopics = .ok calls →
      ∀ call ∈ calls, ∃ topic payload,
        call = .produce topic "price_blanked" "NULL" payload := by
    intro key destTopics calls hblanking call hmem
    obtain ⟨parts, -, rfl⟩ := map_eq_ok.mp hblanking
    obtain ⟨topic, -, rfl⟩ := Multiset.mem_map.mp hmem
    exact ⟨topic, _, rfl⟩
  rw [Platform.onPriceDataFromExchange] at hcalls
  split at hcalls
  · simp only at hcalls
    split at hcalls
    · next hall =>
        obtain rfl := Except.ok.inj hcalls
        obtain ⟨outcome, houtcome, hcall⟩ := Multiset.mem_bind.mp hmem
        cases outcome with
        | error thrown =>
            exact absurd (hall _ houtcome)
              (by simp [Except.isOk, Except.toBool])
        | ok calls =>
            obtain ⟨entry, -, hentry⟩ := Multiset.mem_map.mp houtcome
            exact hblanked hentry call hcall
    · cases hcalls
  · split at hcalls
    · obtain rfl := Except.ok.inj hcalls
      exact absurd hmem (Multiset.notMem_zero call)
    · exact hblanked hcalls call hmem

theorem filter_update {msgType : String}
    (hmsgType : msgType = "trade_update" ∨ msgType = "depth_update")
    (update : Json) :
    ((book.topics updated).val.map fun topic =>
        Effect.produce topic msgType updated update).filter
        (IsPriceOf key destTopic) =
      if updated = key ∧ destTopic ∈ book.topics key then
        {.produce destTopic msgType key update}
      else 0 := by
  by_cases hsame : updated = key
  · subst hsame
    have hrelevant : ∀ topic, IsPriceOf updated destTopic
        (.produce topic msgType updated update) ↔ topic = destTopic := by
      intro topic
      simp [IsPriceOf, hmsgType]
    rw [filter_map_topics hrelevant]
    simp
  · rw [if_neg fun hboth => hsame hboth.1, Multiset.filter_eq_nil]
    intro call hmem hprice
    obtain ⟨topic, -, rfl⟩ := Multiset.mem_map.mp hmem
    exact hsame hprice.2.1

/-- The price calls of a pair among those of an update. -/
theorem filter_calls (hkey : key ≠ instrumentWildCard)
    (hcalls : (onBinance platform).onPriceDataFromExchange book updated
      data = .ok calls) :
    calls.filter (IsPriceOf key destTopic) =
      (dueRecord key destTopic updated data
        (decide (destTopic ∈ book.topics key)) : Multiset Effect) := by
  have hwild : updated = instrumentWildCard → updated ≠ key :=
    fun heq hsame => hkey (hsame ▸ heq)
  simp only [dueRecord, decide_eq_true_eq]
  cases data with
  | priceBlanking =>
      have hnone : calls.filter (IsPriceOf key destTopic) = 0 := by
        rw [Multiset.filter_eq_nil]
        intro call hmem hprice
        obtain ⟨topic, payload, rfl⟩ := blanked_of_mem hcalls hmem
        simp [IsPriceOf] at hprice
      rw [hnone]
      split <;> rfl
  | tradeUpdate update =>
      by_cases hupdated : updated = instrumentWildCard
      · subst hupdated
        obtain rfl := Except.ok.inj hcalls
        rw [if_neg fun hboth => hwild rfl hboth.1]
        rfl
      · rw [Platform.onPriceDataFromExchange_trade _ hupdated] at hcalls
        obtain rfl := Except.ok.inj hcalls
        rw [filter_update (.inl rfl)]
        split <;> rfl
  | depthUpdate update =>
      by_cases hupdated : updated = instrumentWildCard
      · subst hupdated
        obtain rfl := Except.ok.inj hcalls
        rw [if_neg fun hboth => hwild rfl hboth.1]
        rfl
      · rw [Platform.onPriceDataFromExchange_depth _ hupdated] at hcalls
        obtain rfl := Except.ok.inj hcalls
        rw [filter_update (.inr rfl)]
        split <;> rfl

/-! ## What a run of tasks delivers -/

theorem due_append (history : PairHistory) (first second : List WorkerTask) :
    due platform key destTopic history (first ++ second) =
      due platform key destTopic history first ++
        due platform key destTopic
          ((callbacks first).foldl
            (PairHistory.step (onBinance platform) key destTopic) history)
          second := by
  induction first generalizing history with
  | nil => rfl
  | cons task first ih =>
      cases task with
      | gateway event =>
          rw [List.cons_append, due, due, ih]
          rfl
      | price updated data =>
          rw [List.cons_append, due, due, ih, List.append_assoc]
          rfl

theorem received_handled (journal : List Entry) (event : GatewayEvent) :
    received key destTopic (journal ++ [.handled event]) =
      received key destTopic journal := by
  simp [received]

theorem received_sent (journal : List Entry) {due : List Effect}
    (hrecords : records.filter (IsPriceOf key destTopic) =
      (due : Multiset Effect)) (hdue : due.length ≤ 1) :
    received key destTopic (journal ++ [.sent records]) =
      received key destTopic journal ++ due.map ({·}) := by
  rw [received, List.filterMap_append, List.filter_append]
  have hlast : List.filterMap (fun entry : Entry => match entry with
      | .sent records => some (records.filter (IsPriceOf key destTopic))
      | .handled _ => none) [.sent records] = [(due : Multiset Effect)] := by
    simp [hrecords]
  rw [hlast]
  match due, hdue with
  | [], _ => rfl
  | [record], _ => rfl

theorem dueRecord_length_le (wanted : Bool) :
    (dueRecord key destTopic updated data wanted).length ≤ 1 := by
  rw [dueRecord]
  split
  · cases data <;> simp [priceRecord]
  · exact Nat.zero_le 1

/-- The price calls of a pair among those of an update that follows a run. -/
theorem filter_calls_of_run (hkey : key ≠ instrumentWildCard)
    (hrun : Runs.run (step platform) start tasks = some desk)
    (hcalls : (onBinance platform).onPriceDataFromExchange
      desk.record.gateway.book updated data = .ok calls) :
    calls.filter (IsPriceOf key destTopic) =
      (dueRecord key destTopic updated data
        (PairHistory.ofEvents (onBinance platform) key destTopic
          (callbacks tasks)).wanted : Multiset Effect) := by
  have hwanted := wanted_iff hrun key destTopic
  rw [standing_history hrun key destTopic] at hwanted
  have hbooked : decide (destTopic ∈ desk.topics key) =
      (PairHistory.ofEvents (onBinance platform) key destTopic
        (callbacks tasks)).wanted := by
    rw [Bool.eq_iff_iff, decide_eq_true_eq]
    exact hwanted.symm
  rw [← hbooked]
  exact filter_calls hkey hcalls

/-- A topic that is not empty is refused none of its price records. -/
theorem filter_sent_of_run (hkey : key ≠ instrumentWildCard)
    (htopic : destTopic ≠ "")
    (hrun : Runs.run (step platform) start tasks = some desk)
    (hcalls : (onBinance platform).onPriceDataFromExchange
      desk.record.gateway.book updated data = .ok calls) :
    (calls.filter Effect.IsSent).filter (IsPriceOf key destTopic) =
      (dueRecord key destTopic updated data
        (PairHistory.ofEvents (onBinance platform) key destTopic
          (callbacks tasks)).wanted : Multiset Effect) := by
  have hprices := @filter_calls_of_run platform _ _ key destTopic _ _ _ hkey
    hrun hcalls
  rw [Multiset.filter_filter, ← hprices]
  refine Multiset.filter_congr fun call hmem => and_iff_left_of_imp ?_
  intro hprice
  -- the key is that of a booked pair
  have hdue : call ∈ (dueRecord key destTopic updated data
      (PairHistory.ofEvents (onBinance platform) key destTopic
        (callbacks tasks)).wanted : Multiset Effect) :=
    hprices ▸ Multiset.mem_filter.mpr ⟨hmem, hprice⟩
  rw [dueRecord] at hdue
  split at hdue
  · next hboth =>
      have hbooked : destTopic ∈ desk.topics key := by
        rw [← wanted_iff hrun, standing_history hrun]
        exact hboth.2
      have hname := (readable_of_run hrun).key_ne_empty hbooked
      exact hprice.isSent htopic hname
  · exact absurd hdue (Multiset.notMem_zero call)

/-- A topic that is not empty receives the price records of a key that are due,
one for each update, in order. -/
theorem received_eq_due (hkey : key ≠ instrumentWildCard)
    (htopic : destTopic ≠ "")
    (hrun : Runs.run (step platform) start tasks = some desk) :
    received key destTopic desk.journal =
      (due platform key destTopic .empty tasks).map ({·}) := by
  induction tasks using List.reverseRecOn generalizing desk with
  | nil =>
      obtain rfl : start = desk := by simpa using hrun
      rfl
  | append_singleton tasks task ih =>
      obtain ⟨middle, hmiddle, hstep⟩ := Runs.run_concat_eq_some.mp hrun
      rw [due_append, List.map_append, ← ih hmiddle]
      cases stepped_of_step hstep with
      | gateway event record hrecord =>
          rw [received_handled, due, due, List.map_nil, List.append_nil]
      | price updated data calls hcalls =>
          rw [due, due, List.append_nil]
          apply received_sent
          · exact filter_sent_of_run hkey htopic hmiddle hcalls
          · exact dueRecord_length_le _

/-! ## Blanked pairs -/

theorem not_price_of_blanking
    (hcalls : (onBinance platform).onPriceDataFromExchange book updated
      .priceBlanking = .ok calls) :
    (calls.filter Effect.IsSent).countP (IsPriceOf key destTopic) = 0 := by
  rw [Multiset.countP_eq_zero]
  intro call hmem hprice
  obtain ⟨topic, payload, rfl⟩ :=
    blanked_of_mem hcalls (Multiset.mem_of_mem_filter hmem)
  simp [IsPriceOf] at hprice

/-- The blanking of everything reaches each booked pair but those of the empty
topic. -/
theorem exists_blanking (hreadable : Readable book)
    (hbooked : destTopic ∈ book.topics key) (htopic : destTopic ≠ "")
    (hcalls : (onBinance platform).onPriceDataFromExchange book
      instrumentWildCard .priceBlanking = .ok calls) :
    0 < (calls.filter Effect.IsSent).countP (IsBlankingOf key destTopic) := by
  obtain ⟨destTopics, hlookup⟩ : ∃ destTopics,
      book.symbolToDestTopics.lookup key = some destTopics := by
    rw [← Option.ne_none_iff_exists']
    intro hnone
    simp [RoutingBook.topics, hnone] at hbooked
  obtain ⟨request, hrequest⟩ := hreadable key destTopic hbooked
  obtain ⟨symbol, type, hparts⟩ := keyDisintegration_of_generated hrequest
  obtain ⟨blanked, hblanked, hall⟩ :=
    onPriceData_wildCard platform hreadable
  obtain rfl := Except.ok.inj (hall.symm.trans hcalls)
  have hkey : key ∈ book.symbolToDestTopics.keys :=
    Finmap.mem_keys.mpr (Finmap.mem_of_lookup_eq_some hlookup)
  have hrecorded := hblanked key hkey
  obtain ⟨recordKey, payload, ⟨rfl, hpayload⟩, hproduced⟩ :=
    onPriceData_of_key platform hreadable (generateKey_ne_wildCard hrequest)
      .priceBlanking
  rw [hproduced] at hrecorded
  rw [Multiset.countP_pos]
  refine ⟨.produce destTopic "price_blanked" "NULL" payload,
    Multiset.mem_filter.mpr ⟨Multiset.mem_bind.mpr ⟨key, hkey, ?_⟩, ?_⟩, ?_⟩
  · rw [← Except.ok.inj hrecorded]
    exact Multiset.mem_map_of_mem _ hbooked
  · simp [htopic]
  · rw [hpayload symbol type "BINANCE" hparts]
    refine ⟨rfl, rfl, rfl, ?_⟩
    rw [hparts]
    rfl

/-- A callback leaves no booked pair with a price: what it books is fresh. -/
theorem Blank.gateway {event : GatewayEvent}
    (hrun : Runs.run (step platform) start tasks = some desk)
    (hblank : desk.Blank platform)
    (hstep : desk.step platform (.gateway event) = some next) :
    next.Blank platform := by
  intro key destTopic _
  have hwanted := wanted_iff hrun key destTopic
  cases stepped_of_step hstep with
  | gateway event record hrecord =>
      rw [standing_concat, Standing.step]
      cases hwants :
          (standing platform key destTopic desk.journal).history.wanted with
      | false => simp
      | true => simp [hblank key destTopic (hwanted.mp hwants)]

theorem Blank.blanking (hblank : desk.Blank platform)
    (hstep : desk.step platform (.price key .priceBlanking) = some next) :
    next.Blank platform := by
  intro other destTopic hbooked
  cases stepped_of_step hstep with
  | price key data calls hcalls =>
      rw [standing_concat, Standing.step, not_price_of_blanking hcalls,
        if_neg (Nat.lt_irrefl 0), hblank other destTopic hbooked]
      exact ite_self _

/-- The empty topic is sent no price. -/
theorem not_priced_empty
    (hrun : Runs.run (step platform) start tasks = some desk) (key : String) :
    (standing platform key "" desk.journal).priced = false := by
  induction tasks using List.reverseRecOn generalizing desk with
  | nil =>
      obtain rfl : start = desk := by simpa using hrun
      rfl
  | append_singleton tasks task ih =>
      obtain ⟨middle, hmiddle, hstep⟩ := Runs.run_concat_eq_some.mp hrun
      cases stepped_of_step hstep with
      | gateway event record hrecord =>
          rw [standing_concat, Standing.step]
          simp [ih hmiddle]
      | price updated data calls hcalls =>
          have hnone : (calls.filter Effect.IsSent).countP
              (IsPriceOf key "") = 0 := by
            rw [Multiset.countP_eq_zero]
            intro call hmem hprice
            exact hprice.not_isSent (Multiset.mem_filter.mp hmem).2
          rw [standing_concat, Standing.step, hnone,
            if_neg (Nat.lt_irrefl 0), ih hmiddle]
          exact ite_self _

/-- The blanking of everything leaves no booked pair with a price. -/
theorem blank_of_blanking
    (hrun : Runs.run (step platform) start tasks = some desk)
    (hstep : desk.step platform
      (.price instrumentWildCard .priceBlanking) = some next) :
    next.Blank platform := by
  intro other destTopic hbooked
  cases stepped_of_step hstep with
  | price key data calls hcalls =>
      by_cases htopic : destTopic = ""
      · have hnext : Runs.run (step platform) start
            (tasks ++ [.price instrumentWildCard .priceBlanking]) = some _ :=
          Runs.run_concat_eq_some.mpr ⟨desk, hrun, hstep⟩
        rw [htopic]
        exact not_priced_empty hnext other
      · rw [standing_concat, Standing.step, not_price_of_blanking hcalls,
          if_neg (Nat.lt_irrefl 0),
          if_pos (exists_blanking (readable_of_run hrun) hbooked htopic
            hcalls)]

end Desk

end MultiMarketPrices.Binance
