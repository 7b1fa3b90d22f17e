import MultiMarketPrices.Core.Runs
import MultiMarketPrices.MiddleWare.Wire

/-!
# The consumption loop

`ConsumptionLoop` polls the records of a partition in batches, hands each of a
batch to the worker, or to the error callback, and then commits the position it
has reached.  The commit says nothing about the worker, which handles the
records later; a process that ends meanwhile starts again at the last position
that the broker has noted.  A record is known by its offset.
-/

namespace MultiMarketPrices.MiddleWare

/-- Where the thread that runs `start` stands. -/
inductive LoopPhase
  | created
  /-- at the condition of the loop -/
  | checking
  | polling
  /-- with the offsets of a batch that are still to be dealt with -/
  | handling (rest : List ℕ)
  | closed
  deriving DecidableEq

structure ConsumptionLoop where
  /-- the records of the partition, and the errors that stand in their place -/
  log : List (Except String Packet)
  /-- `m_running` -/
  running : Bool
  /-- `g_shutdownRequested` -/
  shutdownRequested : Bool
  phase : LoopPhase
  /-- the offset of the next record to poll -/
  position : ℕ
  /-- the commits on their way, oldest first -/
  committing : List ℕ
  /-- the position that the broker has noted -/
  committed : ℕ
  /-- the offsets of the tasks of the worker, oldest first -/
  waiting : List ℕ
  handled : List ℕ
  /-- the offsets whose errors `m_errCb` was called with -/
  reported : List ℕ

inductive LoopEvent
  /-- the broker appends a record -/
  | append (record : Except String Packet)
  | start
  | check
  /-- `poll` returns at most so many records -/
  | poll (count : ℕ)
  /-- the next record of the batch -/
  | next
  | commitAsync
  /-- the broker notes the oldest commit -/
  | noted
  /-- the worker performs its oldest task -/
  | work
  | kill
  /-- a signal, or a message of type `request_stop` -/
  | requestShutdown
  /-- the process ends, in whatever way, and starts again -/
  | restart

namespace ConsumptionLoop

def initial : ConsumptionLoop where
  log := []
  running := false
  shutdownRequested := false
  phase := .created
  position := 0
  committing := []
  committed := 0
  waiting := []
  handled := []
  reported := []

/-- A record, not an error, stands at the offset. -/
def isRecord (loop : ConsumptionLoop) (offset : ℕ) : Bool :=
  match loop.log[offset]? with
  | some (.ok _) => true
  | _ => false

def step (loop : ConsumptionLoop) : LoopEvent → Option ConsumptionLoop
  | .append record => some { loop with log := loop.log ++ [record] }
  | .start =>
      if loop.phase = .created then
        some { loop with running := true, phase := .checking }
      else none
  | .check =>
      if loop.phase = .checking then
        some { loop with phase :=
          if loop.running && !loop.shutdownRequested then .polling
          else .closed }
      else none
  | .poll count =>
      if loop.phase = .polling then
        let polled := min count (loop.log.length - loop.position)
        some { loop with
          phase := .handling (List.range' loop.position polled)
          position := loop.position + polled }
      else none
  | .next =>
      match loop.phase with
      | .handling (offset :: rest) =>
          if loop.isRecord offset then
            some { loop with
              phase := .handling rest
              waiting := loop.waiting ++ [offset] }
          else
            some { loop with
              phase := .handling rest
              reported := loop.reported ++ [offset] }
      | _ => none
  | .commitAsync =>
      if loop.phase = .handling [] then
        some { loop with
          phase := .checking
          committing := loop.committing ++ [loop.position] }
      else none
  | .noted =>
      match loop.committing with
      | [] => none
      | offset :: rest =>
          some { loop with committing := rest, committed := offset }
  | .work =>
      match loop.waiting with
      | [] => none
      | offset :: rest =>
          some { loop with
            waiting := rest
            handled := loop.handled ++ [offset] }
  | .kill => some { loop with running := false }
  | .requestShutdown => some { loop with shutdownRequested := true }
  | .restart =>
      some { loop with
        running := false
        shutdownRequested := false
        phase := .created
        position := loop.committed
        committing := []
        waiting := [] }

/-- The offsets of the batch that are still to be dealt with. -/
def rest (loop : ConsumptionLoop) : List ℕ :=
  match loop.phase with
  | .handling rest => rest
  | _ => []

/-! ## What one step does -/

variable {loop next : ConsumptionLoop}

/-- What an event can do. -/
inductive Stepped (loop : ConsumptionLoop) :
    LoopEvent → ConsumptionLoop → Prop
  | append (record : Except String Packet) :
      Stepped loop (.append record) { loop with log := loop.log ++ [record] }
  | start (hphase : loop.phase = .created) :
      Stepped loop .start { loop with running := true, phase := .checking }
  | checked (hphase : loop.phase = .checking)
      (hgo : loop.running = true ∧ loop.shutdownRequested = false) :
      Stepped loop .check { loop with phase := .polling }
  | closed (hphase : loop.phase = .checking)
      (hstop : loop.running = false ∨ loop.shutdownRequested = true) :
      Stepped loop .check { loop with phase := .closed }
  | poll (count polled : ℕ) (hphase : loop.phase = .polling)
      (hpolled : polled = min count (loop.log.length - loop.position)) :
      Stepped loop (.poll count)
        { loop with
          phase := .handling (List.range' loop.position polled)
          position := loop.position + polled }
  | pushed (offset : ℕ) (rest : List ℕ)
      (hphase : loop.phase = .handling (offset :: rest))
      (hrecord : loop.isRecord offset = true) :
      Stepped loop .next
        { loop with
          phase := .handling rest, waiting := loop.waiting ++ [offset] }
  | reported (offset : ℕ) (rest : List ℕ)
      (hphase : loop.phase = .handling (offset :: rest))
      (herror : loop.isRecord offset = false) :
      Stepped loop .next
        { loop with
          phase := .handling rest, reported := loop.reported ++ [offset] }
  | commitAsync (hphase : loop.phase = .handling []) :
      Stepped loop .commitAsync
        { loop with
          phase := .checking
          committing := loop.committing ++ [loop.position] }
  | noted (offset : ℕ) (rest : List ℕ)
      (hcommitting : loop.committing = offset :: rest) :
      Stepped loop .noted
        { loop with committing := rest, committed := offset }
  | work (offset : ℕ) (rest : List ℕ)
      (hwaiting : loop.waiting = offset :: rest) :
      Stepped loop .work
        { loop with waiting := rest, handled := loop.handled ++ [offset] }
  | kill : Stepped loop .kill { loop with running := false }
  | requestShutdown :
      Stepped loop .requestShutdown { loop with shutdownRequested := true }
  | restart :
      Stepped loop .restart
        { loop with
          running := false
          shutdownRequested := false
          phase := .created
          position := loop.committed
          committing := []
          waiting := [] }

theorem stepped_of_step {event : LoopEvent}
    (hstep : loop.step event = some next) : Stepped loop event next := by
  cases event with
  | append record =>
      obtain rfl := Option.some.inj hstep
      exact .append record
  | start =>
      rw [step] at hstep
      split at hstep
      · next hphase =>
          obtain rfl := Option.some.inj hstep
          exact .start hphase
      · cases hstep
  | check =>
      rw [step] at hstep
      split at hstep
      · next hphase =>
          obtain rfl := Option.some.inj hstep
          split
          · next hgo => exact .checked hphase (by simpa using hgo)
          · next hstop =>
              refine .closed hphase ?_
              cases hrunning : loop.running with
              | false => exact .inl rfl
              | true => exact .inr (by simpa [hrunning] using hstop)
      · cases hstep
  | poll count =>
      rw [step] at hstep
      split at hstep
      · next hphase =>
          obtain rfl := Option.some.inj hstep
          exact .poll count _ hphase rfl
      · cases hstep
  | next =>
      rw [step] at hstep
      split at hstep
      · next offset rest hphase =>
          split at hstep
          · next hrecord =>
              obtain rfl := Option.some.inj hstep
              exact .pushed offset rest hphase hrecord
          · next herror =>
              obtain rfl := Option.some.inj hstep
              exact .reported offset rest hphase (by simpa using herror)
      · cases hstep
  | commitAsync =>
      rw [step] at hstep
      split at hstep
      · next hphase =>
          obtain rfl := Option.some.inj hstep
          exact .commitAsync hphase
      · cases hstep
  | noted =>
      rw [step] at hstep
      split at hstep
      · cases hstep
      · next offset rest hcommitting =>
          obtain rfl := Option.some.inj hstep
          exact .noted offset rest hcommitting
  | work =>
      rw [step] at hstep
      split at hstep
      · cases hstep
      · next offset rest hwaiting =>
          obtain rfl := Option.some.inj hstep
          exact .work offset rest hwaiting
  | kill =>
      obtain rfl := Option.some.inj hstep
      exact .kill
  | requestShutdown =>
      obtain rfl := Option.some.inj hstep
      exact .requestShutdown
  | restart =>
      obtain rfl := Option.some.inj hstep
      exact .restart

theorem isRecord_append {offset : ℕ} (hoffset : offset < loop.log.length)
    (record : Except String Packet) :
    isRecord { loop with log := loop.log ++ [record] } offset =
      loop.isRecord offset := by
  simp only [isRecord, List.getElem?_append_left hoffset]

/-! ## What a restart loses -/

/-- The offset is with the worker, or done with. -/
def Dealt (loop : ConsumptionLoop) (offset : ℕ) : Prop :=
  offset ∈ loop.waiting ∨ offset ∈ loop.handled ∨ offset ∈ loop.reported

/-- Whatever lies before the noted position is with the worker, or done
with. -/
def Delivered (loop : ConsumptionLoop) : Prop :=
  ∀ offset < loop.committed, loop.Dealt offset

/-- No restart finds a task that waits although the broker has noted a later
position, unless it is repeated. -/
def LosesNothing (loop : ConsumptionLoop) (event : LoopEvent) : Prop :=
  event = .restart →
    ∀ offset ∈ loop.waiting, offset < loop.committed → offset ∈ loop.handled

/-- What the loop keeps as long as restarts lose nothing. -/
structure Kept (loop : ConsumptionLoop) : Prop where
  hposition : loop.position ≤ loop.log.length
  hrest : ∀ offset ∈ loop.rest, offset < loop.position
  hcovered : ∀ offset < loop.position,
    offset ∈ loop.rest ∨ loop.Dealt offset
  /-- what is noted lies before the rest of the batch -/
  hcommits : ∀ commit ∈ loop.committed :: loop.committing,
    commit ≤ loop.position ∧ ∀ offset ∈ loop.rest, commit ≤ offset
  hwaiting : ∀ offset ∈ loop.waiting,
    offset < loop.log.length ∧ loop.isRecord offset = true
  hreported : ∀ offset ∈ loop.reported,
    offset < loop.log.length ∧ loop.isRecord offset = false

theorem kept_initial : Kept initial := by
  refine ⟨Nat.le_refl 0, ?_, ?_, ?_, ?_, ?_⟩ <;> simp [initial, rest]

theorem Kept.delivered (hkept : loop.Kept) : loop.Delivered := by
  intro offset hoffset
  obtain ⟨hposition, hrest⟩ :=
    hkept.hcommits loop.committed List.mem_cons_self
  rcases hkept.hcovered offset (hoffset.trans_le hposition) with hmem | hdealt
  · exact absurd (hrest offset hmem) (Nat.not_le.mpr hoffset)
  · exact hdealt

theorem Kept.step {event : LoopEvent} (hkept : loop.Kept)
    (hguard : loop.LosesNothing event) (hstep : loop.step event = some next) :
    next.Kept := by
  have hdelivered := hkept.delivered
  obtain ⟨hposition, hrest, hcovered, hcommits, hwaiting, hreported⟩ := hkept
  cases stepped_of_step hstep with
  | append record =>
      have hlength : loop.log.length ≤ (loop.log ++ [record]).length := by simp
      refine ⟨hposition.trans hlength, hrest, hcovered, hcommits, ?_, ?_⟩
      · intro offset hmem
        obtain ⟨hoffset, hrecord⟩ := hwaiting offset hmem
        exact ⟨hoffset.trans_le hlength,
          (isRecord_append hoffset record).trans hrecord⟩
      · intro offset hmem
        obtain ⟨hoffset, herror⟩ := hreported offset hmem
        exact ⟨hoffset.trans_le hlength,
          (isRecord_append hoffset record).trans herror⟩
  | start hphase | checked hphase | closed hphase =>
      simp only [rest, hphase] at hrest hcovered hcommits
      exact ⟨hposition, hrest, hcovered, hcommits, hwaiting, hreported⟩
  | poll count polled hphase hpolled =>
      simp only [rest, hphase] at hrest hcovered hcommits
      refine ⟨by simp only; omega, ?_, ?_, ?_, hwaiting, hreported⟩
      · intro offset hmem
        simp only [rest, List.mem_range'_1] at hmem
        exact hmem.2
      · intro offset hoffset
        by_cases hold : offset < loop.position
        · exact .inr ((hcovered offset hold).resolve_left List.not_mem_nil)
        · left
          simp only [rest, List.mem_range'_1]
          exact ⟨Nat.not_lt.mp hold, hoffset⟩
      · intro commit hmem
        obtain ⟨hcommit, -⟩ := hcommits commit hmem
        refine ⟨hcommit.trans (Nat.le_add_right _ _), fun offset hoffset => ?_⟩
        simp only [rest, List.mem_range'_1] at hoffset
        exact hcommit.trans hoffset.1
  | pushed offset rest hphase hrecord =>
      simp only [ConsumptionLoop.rest, hphase] at hrest hcovered hcommits
      refine ⟨hposition, ?_, ?_, ?_, ?_, hreported⟩
      · exact fun other hmem => hrest other (List.mem_cons_of_mem _ hmem)
      · intro other hother
        rcases hcovered other hother with hmem | hwaits | hdone
        · rcases List.mem_cons.mp hmem with rfl | hlater
          · exact .inr (.inl (by simp))
          · exact .inl hlater
        · exact .inr (.inl (List.mem_append_left _ hwaits))
        · exact .inr (.inr hdone)
      · intro commit hmem
        obtain ⟨hcommit, hbefore⟩ := hcommits commit hmem
        exact ⟨hcommit, fun other hother =>
          hbefore other (List.mem_cons_of_mem _ hother)⟩
      · intro other hmem
        rcases List.mem_append.mp hmem with hwaits | hnew
        · exact hwaiting other hwaits
        · obtain rfl := List.mem_singleton.mp hnew
          exact ⟨(hrest other List.mem_cons_self).trans_le hposition, hrecord⟩
  | reported offset rest hphase herror =>
      simp only [ConsumptionLoop.rest, hphase] at hrest hcovered hcommits
      refine ⟨hposition, ?_, ?_, ?_, hwaiting, ?_⟩
      · exact fun other hmem => hrest other (List.mem_cons_of_mem _ hmem)
      · intro other hother
        rcases hcovered other hother with hmem | hwaits | hdone | hfailed
        · rcases List.mem_cons.mp hmem with rfl | hlater
          · exact .inr (.inr (.inr (by simp)))
          · exact .inl hlater
        · exact .inr (.inl hwaits)
        · exact .inr (.inr (.inl hdone))
        · exact .inr (.inr (.inr (List.mem_append_left _ hfailed)))
      · intro commit hmem
        obtain ⟨hcommit, hbefore⟩ := hcommits commit hmem
        exact ⟨hcommit, fun other hother =>
          hbefore other (List.mem_cons_of_mem _ hother)⟩
      · intro other hmem
        rcases List.mem_append.mp hmem with hfailed | hnew
        · exact hreported other hfailed
        · obtain rfl := List.mem_singleton.mp hnew
          exact ⟨(hrest other List.mem_cons_self).trans_le hposition, herror⟩
  | commitAsync hphase =>
      simp only [rest, hphase] at hrest hcovered hcommits
      refine ⟨hposition, hrest, hcovered, ?_, hwaiting, hreported⟩
      intro commit hmem
      rw [← List.cons_append] at hmem
      rcases List.mem_append.mp hmem with hold | hnew
      · exact hcommits commit hold
      · obtain rfl := List.mem_singleton.mp hnew
        exact ⟨Nat.le_refl _, by simp [rest]⟩
  | noted offset rest hcommitting =>
      refine ⟨hposition, hrest, hcovered, fun commit hmem => ?_, hwaiting,
        hreported⟩
      apply hcommits commit
      rw [hcommitting]
      exact List.mem_cons_of_mem _ hmem
  | work offset rest hwaits =>
      rw [hwaits, List.forall_mem_cons] at hwaiting
      refine ⟨hposition, hrest, ?_, hcommits, hwaiting.2, hreported⟩
      intro other hother
      rcases hcovered other hother with hmem | hwaited | hdone | hfailed
      · exact .inl hmem
      · rw [hwaits] at hwaited
        rcases List.mem_cons.mp hwaited with rfl | hlater
        · exact .inr (.inr (.inl (by simp)))
        · exact .inr (.inl hlater)
      · exact .inr (.inr (.inl (List.mem_append_left _ hdone)))
      · exact .inr (.inr (.inr hfailed))
  | kill | requestShutdown =>
      exact ⟨hposition, hrest, hcovered, hcommits, hwaiting, hreported⟩
  | restart =>
      obtain ⟨hnoted, -⟩ := hcommits loop.committed List.mem_cons_self
      refine ⟨hnoted.trans hposition, by simp [rest], ?_, ?_, by simp,
        hreported⟩
      · intro offset hoffset
        rcases hdelivered offset hoffset with hwaits | hdone
        · exact .inr (.inr (.inl (hguard rfl offset hwaits hoffset)))
        · exact .inr (.inr hdone)
      · intro commit hmem
        obtain rfl := List.mem_singleton.mp hmem
        exact ⟨Nat.le_refl _, by simp [rest]⟩

/-- A task that waited behind the noted position is gone for ever. -/
theorem not_delivered {event : LoopEvent} (hkept : loop.Kept)
    (hguard : ¬ loop.LosesNothing event)
    (hstep : loop.step event = some next) : ¬ next.Delivered := by
  simp only [LosesNothing, not_forall] at hguard
  obtain ⟨rfl, offset, hwaits, hnoted, hunhandled⟩ := hguard
  cases stepped_of_step hstep with
  | restart =>
      intro hdelivered
      rcases hdelivered offset hnoted with hnone | hhandled | hreported
      · exact List.not_mem_nil hnone
      · exact hunhandled hhandled
      · have hrecord := (hkept.hwaiting offset hwaits).2
        rw [(hkept.hreported offset hreported).2] at hrecord
        cases hrecord

/-- Along a run, whatever lies before the noted position is always with the
worker, or done with, exactly if every restart finds the tasks before the noted
position handled. -/
theorem delivered_iff_losesNothing (events : List LoopEvent)
    (finish : ConsumptionLoop)
    (hrun : Runs.run step initial events = some finish) :
    Runs.EveryStep step LosesNothing initial events ↔
      ∀ earlier, earlier <+: events → ∀ loop,
        Runs.run step initial earlier = some loop → loop.Delivered :=
  Runs.everyStep_iff_forall_good Kept Delivered
    (fun _ hkept => hkept.delivered)
    (fun _ _ _ hkept _ hguard hstep => hkept.step hguard hstep)
    (fun _ _ _ hkept _ hguard hstep => not_delivered hkept hguard hstep)
    kept_initial (fun _ _ _ _ _ => trivial : Runs.EveryStep step
      (fun _ _ => True) initial events) hrun

/-- Two records are polled and committed, and one of them is handled. -/
def commitEarly : List LoopEvent :=
  let record := Packet.mk "in" "client" [] "prices"
  [.append (.ok record), .append (.ok record), .start, .check, .poll 10, .next,
    .next, .commitAsync, .noted, .work]

/-- The second record is lost in a restart. -/
theorem delivered_iff_losesNothing_of_restart :
    ∃ finish, Runs.run step initial (commitEarly ++ [.restart]) =
        some finish ∧
      finish.committed = 2 ∧ finish.handled = [0] ∧ finish.waiting = [] ∧
      (Runs.EveryStep step LosesNothing initial (commitEarly ++ [.restart]) ↔
        ∀ earlier, earlier <+: commitEarly ++ [.restart] → ∀ loop,
          Runs.run step initial earlier = some loop → loop.Delivered) :=
  ⟨_, rfl, rfl, rfl, rfl,
    delivered_iff_losesNothing (commitEarly ++ [.restart]) _ rfl⟩

/-! ## One life of the process -/

/-- The loop has been constructed, after a restart or for the first time. -/
structure Fresh (loop : ConsumptionLoop) : Prop where
  hphase : loop.phase = .created
  hwaiting : loop.waiting = []
  hposition : loop.position ≤ loop.log.length

/-- The offsets polled since `start`. -/
def polledSince (start loop : ConsumptionLoop) : List ℕ :=
  List.range' start.position (loop.position - start.position)

/-- What has become of the records polled since `start`. -/
structure InOrder (start loop : ConsumptionLoop) : Prop where
  hstart : start.position ≤ loop.position
  hposition : loop.position ≤ loop.log.length
  hrest : ∀ offset ∈ loop.rest, offset < loop.log.length
  hrecords : loop.handled ++ loop.waiting ++ loop.rest.filter loop.isRecord =
    start.handled ++ (start.polledSince loop).filter loop.isRecord
  herrors : loop.reported ++ loop.rest.filter (!loop.isRecord ·) =
    start.reported ++ (start.polledSince loop).filter (!loop.isRecord ·)
  hstopped : loop.phase = .closed →
    loop.running = false ∨ loop.shutdownRequested = true

variable {start : ConsumptionLoop}

theorem Fresh.inOrder (hfresh : start.Fresh) : InOrder start start := by
  have hrest : start.rest = [] := by rw [rest, hfresh.hphase]
  refine ⟨Nat.le_refl _, hfresh.hposition, ?_, ?_, ?_, ?_⟩
  · simp [hrest]
  · simp [hrest, hfresh.hwaiting, polledSince]
  · simp [hrest, polledSince]
  · simp [hfresh.hphase]

theorem InOrder.step {event : LoopEvent} (hinOrder : InOrder start loop)
    (hevent : event ≠ .restart) (hstep : loop.step event = some next) :
    InOrder start next := by
  obtain ⟨hstart, hposition, hrest, hrecords, herrors, hstopped⟩ := hinOrder
  cases stepped_of_step hstep with
  | append record =>
      have hsame : ∀ offsets : List ℕ,
          (∀ offset ∈ offsets, offset < loop.log.length) →
          ∀ offset ∈ offsets,
            isRecord { loop with log := loop.log ++ [record] } offset =
              loop.isRecord offset :=
        fun _ hoffsets offset hmem =>
          isRecord_append (hoffsets offset hmem) record
      have hpolled : ∀ offset ∈ start.polledSince loop,
          offset < loop.log.length := by
        intro offset hmem
        rw [polledSince, List.mem_range'_1] at hmem
        omega
      refine ⟨hstart, ?_, ?_, ?_, ?_, hstopped⟩
      · exact hposition.trans (by simp)
      · exact fun offset hmem => (hrest offset hmem).trans_le (by simp)
      · calc
          loop.handled ++ loop.waiting ++ loop.rest.filter
              (isRecord { loop with log := loop.log ++ [record] })
            = loop.handled ++ loop.waiting ++ loop.rest.filter
                loop.isRecord := by
              rw [List.filter_congr (hsame _ hrest)]
          _ = start.handled ++ (start.polledSince loop).filter
                (isRecord { loop with log := loop.log ++ [record] }) := by
              rw [hrecords, List.filter_congr (hsame _ hpolled)]
      · calc
          loop.reported ++ loop.rest.filter
              (!isRecord { loop with log := loop.log ++ [record] } ·)
            = loop.reported ++ loop.rest.filter (!loop.isRecord ·) := by
              rw [List.filter_congr fun offset hmem =>
                congrArg not (hsame _ hrest offset hmem)]
          _ = start.reported ++ (start.polledSince loop).filter
                (!isRecord { loop with log := loop.log ++ [record] } ·) := by
              rw [herrors, List.filter_congr fun offset hmem =>
                congrArg not (hsame _ hpolled offset hmem)]
  | start hphase | checked hphase =>
      simp only [rest, hphase] at hrest hrecords herrors
      exact ⟨hstart, hposition, hrest, hrecords, herrors, by simp⟩
  | closed hphase hstop =>
      simp only [rest, hphase] at hrest hrecords herrors
      exact ⟨hstart, hposition, hrest, hrecords, herrors, fun _ => hstop⟩
  | poll count polled hphase hpolled =>
      simp only [rest, hphase, List.filter_nil, List.append_nil]
        at hrecords herrors
      have hmore : start.polledSince { loop with
          phase := .handling (List.range' loop.position polled)
          position := loop.position + polled } =
          start.polledSince loop ++ List.range' loop.position polled := by
        have hsplit := @List.range'_append_1 start.position
          (loop.position - start.position) polled
        rw [Nat.add_sub_cancel' hstart] at hsplit
        rw [polledSince, polledSince, hsplit]
        congr 1
        simp only
        omega
      refine ⟨hstart.trans (Nat.le_add_right _ _), ?_, ?_, ?_, ?_, by simp⟩
      · simp only
        omega
      · intro offset hmem
        simp only [rest, List.mem_range'_1] at hmem ⊢
        omega
      · rw [hmore, List.filter_append, ← List.append_assoc]
        exact congrArg (· ++ _) hrecords
      · rw [hmore, List.filter_append, ← List.append_assoc]
        exact congrArg (· ++ _) herrors
  | pushed offset rest hphase hrecord =>
      simp only [ConsumptionLoop.rest, hphase] at hrest hrecords herrors
      rw [List.filter_cons_of_pos hrecord] at hrecords
      rw [List.filter_cons_of_neg (by simp [hrecord])] at herrors
      refine ⟨hstart, hposition,
        fun other hmem => hrest other (List.mem_cons_of_mem _ hmem), ?_,
        herrors, by simp⟩
      refine Eq.trans ?_ hrecords
      simp [ConsumptionLoop.rest]
      rfl
  | reported offset rest hphase herror =>
      simp only [ConsumptionLoop.rest, hphase] at hrest hrecords herrors
      rw [List.filter_cons_of_neg (by simp [herror])] at hrecords
      rw [List.filter_cons_of_pos (by simp [herror])] at herrors
      refine ⟨hstart, hposition,
        fun other hmem => hrest other (List.mem_cons_of_mem _ hmem), hrecords,
        ?_, by simp⟩
      refine Eq.trans ?_ herrors
      simp [ConsumptionLoop.rest]
      rfl
  | commitAsync hphase =>
      simp only [rest, hphase] at hrest hrecords herrors
      exact ⟨hstart, hposition, hrest, hrecords, herrors, by simp⟩
  | noted offset rest hcommitting =>
      exact ⟨hstart, hposition, hrest, hrecords, herrors, hstopped⟩
  | work offset rest hwaits =>
      refine ⟨hstart, hposition, hrest, ?_, herrors, hstopped⟩
      refine Eq.trans ?_ hrecords
      simp [hwaits]
      rfl
  | kill =>
      exact ⟨hstart, hposition, hrest, hrecords, herrors, fun _ => .inl rfl⟩
  | requestShutdown =>
      exact ⟨hstart, hposition, hrest, hrecords, herrors, fun _ => .inr rfl⟩
  | restart => exact absurd rfl hevent

/-- In one life of the process, the records polled are handled, wait for the
worker or are left of the batch, each once and in the order of their offsets,
the errors among them are reported likewise, and the loop ends with nothing
left, and only when it has been told to. -/
theorem consumed_in_order (start : ConsumptionLoop) (hfresh : start.Fresh)
    (events : List LoopEvent) (hlife : ∀ event ∈ events, event ≠ .restart)
    (loop : ConsumptionLoop)
    (hrun : Runs.run step start events = some loop) :
    loop.handled ++ loop.waiting ++ loop.rest.filter loop.isRecord =
        start.handled ++ (start.polledSince loop).filter loop.isRecord ∧
      loop.reported ++ loop.rest.filter (!loop.isRecord ·) =
        start.reported ++ (start.polledSince loop).filter (!loop.isRecord ·) ∧
      (loop.phase = .closed → loop.rest = [] ∧
        (loop.running = false ∨ loop.shutdownRequested = true)) := by
  have hinOrder : InOrder start loop :=
    Runs.run_invariant_of_forall (InOrder start)
      (fun _ _ _ hbefore hevent hstep => hbefore.step hevent hstep)
      hfresh.inOrder hlife hrun
  refine ⟨hinOrder.hrecords, hinOrder.herrors, fun hclosed => ⟨?_, ?_⟩⟩
  · rw [rest, hclosed]
  · exact hinOrder.hstopped hclosed

theorem consumed_in_order_of_commit :
    ∃ loop, Runs.run step initial commitEarly = some loop ∧
      loop.handled ++ loop.waiting ++ loop.rest.filter loop.isRecord =
        initial.handled ++
          (initial.polledSince loop).filter loop.isRecord ∧
      loop.handled = [0] ∧ loop.waiting = [1] := by
  obtain ⟨loop, hrun, hhandled, hwaiting⟩ : ∃ loop,
      Runs.run step initial commitEarly = some loop ∧ loop.handled = [0] ∧
        loop.waiting = [1] := ⟨_, rfl, rfl, rfl⟩
  exact ⟨loop, hrun, (consumed_in_order initial ⟨rfl, rfl, Nat.le_refl 0⟩
    commitEarly (by simp [commitEarly]) loop hrun).1, hhandled, hwaiting⟩

end ConsumptionLoop

end MultiMarketPrices.MiddleWare
