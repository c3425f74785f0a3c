import VirtualServiceGateway.Analytics.ConcurrentSnapshot
import VirtualServiceGateway.Analytics.FlushAccounting

/-!
# Recording from many threads

Recorders on the whole table and sweeps over it interleave field by field. Every update of a counter
is one atomic addition, so nothing is lost: when the recorders are done, every slot has the counters
that it would have if the samples had been recorded one after the other, and every snapshot of a flow
is the same.
-/

namespace VirtualServiceGateway.Analytics

open Interleaving

/-! ## Threads on the table -/

/-- Where a sweep is: it looks at a slot, or has found the slot idle and clears its flag. -/
inductive FlushStage where
  | idle
  | looking (now : UInt64) (flow : ℕ) (flushed : UInt32)
  | marking (now : UInt64) (flow : ℕ) (flushed : UInt32)

/-- A thread with the idle limits of the sweeps it still makes, the first of them under way unless it
is idle, and the results of those it has made. -/
structure Flusher where
  limits : List UInt64
  stage : FlushStage
  results : List UInt32

inductive TableUser where
  | recorder (recorder : Recorder)
  | flusher (flusher : Flusher)

namespace QoECollector

/-- The table with another slot for a flow. -/
def setSlot (collector : QoECollector) (flow : ℕ) (metrics : FlowMetrics) : QoECollector :=
  { collector with
    flowMetrics := collector.flowMetrics.set flow metrics
    size_eq := by rw [List.length_set]; exact collector.size_eq }

end QoECollector

/-- The next step of a recorder on the table. The table has a slot for exactly the flow ids below the
maximum, so a sample with another one is left at its first step. -/
def Recorder.advanceTable (collector : QoECollector) (recorder : Recorder) :
    QoECollector × Recorder :=
  match recorder.samples with
  | [] => (collector, recorder)
  | (sample, _) :: rest =>
      match collector.flowMetrics[sample.flowId.toNat]? with
      | none => (collector, ⟨rest, .packetCount⟩)
      | some metrics =>
          let (metrics, recorder) := recorder.advance metrics
          (collector.setSlot sample.flowId.toNat metrics, recorder)

/-- The next step of a sweep; `clock` is the clock reading if it is the first. -/
def Flusher.advance (clock : UInt64) (collector : QoECollector) (flusher : Flusher) :
    QoECollector × Flusher :=
  match flusher.limits, flusher.stage with
  | [], _ => (collector, flusher)
  | _ :: _, .idle => (collector, { flusher with stage := .looking clock 0 0 })
  | maxIdleNs :: rest, .looking now flow flushed =>
      match collector.flowMetrics[flow]? with
      | none => (collector, ⟨rest, .idle, flusher.results ++ [flushed]⟩)
      | some metrics =>
          if metrics.expired maxIdleNs now then
            (collector, { flusher with stage := .marking now flow flushed })
          else (collector, { flusher with stage := .looking now (flow + 1) flushed })
  | _ :: _, .marking now flow flushed =>
      match collector.flowMetrics[flow]? with
      | none => (collector, flusher)
      | some metrics =>
          (collector.setSlot flow { metrics with active := false },
            { flusher with stage := .looking now (flow + 1) (flushed + 1) })

def TableUser.advance (clock : UInt64) (collector : QoECollector) :
    TableUser → QoECollector × TableUser
  | .recorder thread =>
      let (collector, thread) := thread.advanceTable collector
      (collector, .recorder thread)
  | .flusher thread =>
      let (collector, thread) := thread.advance clock collector
      (collector, .flusher thread)

/-- The recorders and the sweeping threads on a table before their first steps. -/
def startTable (collector : QoECollector) (histories : List History)
    (sweeps : List (List UInt64)) : Config QoECollector TableUser :=
  ⟨collector, histories.map (.recorder ⟨·, .packetCount⟩) ++ sweeps.map (.flusher ⟨·, .idle, []⟩)⟩

/-- The threads after a schedule that names, step by step, the one that moves and the clock. -/
def runTable (collector : QoECollector) (histories : List History) (sweeps : List (List UInt64))
    (schedule : List (ℕ × UInt64)) : Config QoECollector TableUser :=
  run TableUser.advance (startTable collector histories sweeps) schedule

/-- The samples recorded one after the other. -/
def QoECollector.recordAll (collector : QoECollector) (history : History) : QoECollector :=
  history.foldl (fun collector entry ↦ collector.recordSample entry.1 entry.2) collector

/-! ## One counter of a slot -/

def RecordStage.index : RecordStage → ℕ
  | .packetCount => 0
  | .byteCount => 1
  | .lastUpdate => 2
  | .lossCount => 3
  | .bucket => 4

/-- A counter of a slot, the step of a recorder that adds to it, and what it adds. -/
structure SlotCounter (Amount : Type*) [AddCommMonoid Amount] where
  read : FlowMetrics → Amount
  stage : RecordStage
  weight : TelemetrySample → Amount
  step : ∀ metrics sample now rest reached,
    read (Recorder.advance metrics ⟨(sample, now) :: rest, reached⟩).1 =
      read metrics + if reached = stage then weight sample else 0
  mark : ∀ metrics : FlowMetrics, read { metrics with active := false } = read metrics

def packetCounter : SlotCounter UInt64 where
  read := FlowMetrics.packetCount
  stage := .packetCount
  weight := fun _ ↦ 1
  step := by
    intro metrics sample now rest reached
    cases reached with
    | lossCount => by_cases hlost : sample.packetLost <;> simp [Recorder.advance, hlost]
    | _ => simp [Recorder.advance, FlowMetrics.addLatency]
  mark := fun _ ↦ rfl

def byteCounter : SlotCounter UInt64 where
  read := FlowMetrics.byteCount
  stage := .byteCount
  weight := fun sample ↦ sample.packetSize.toUInt64
  step := by
    intro metrics sample now rest reached
    cases reached with
    | lossCount => by_cases hlost : sample.packetLost <;> simp [Recorder.advance, hlost]
    | _ => simp [Recorder.advance, FlowMetrics.addLatency]
  mark := fun _ ↦ rfl

def lossCounter : SlotCounter UInt32 where
  read := FlowMetrics.lossCount
  stage := .lossCount
  weight := fun sample ↦ if sample.packetLost then 1 else 0
  step := by
    intro metrics sample now rest reached
    cases reached with
    | lossCount => by_cases hlost : sample.packetLost <;> simp [Recorder.advance, hlost]
    | _ => simp [Recorder.advance, FlowMetrics.addLatency]
  mark := fun _ ↦ rfl

def bucketCounter (bucket : ℕ) (hbucket : bucket < 10) : SlotCounter UInt32 where
  read := fun metrics ↦ metrics.latencyBuckets[bucket]
  stage := .bucket
  weight := fun sample ↦ if sample.InBucket bucket then 1 else 0
  step := by
    intro metrics sample now rest reached
    cases reached with
    | lossCount => by_cases hlost : sample.packetLost <;> simp [Recorder.advance, hlost]
    | bucket =>
      rw [if_pos rfl]
      exact metrics.latencyBuckets_recordSample sample now hbucket
    | _ => simp [Recorder.advance]
  mark := fun _ ↦ rfl

section Counting

variable {Amount : Type*} [AddCommMonoid Amount] (counter : SlotCounter Amount) (flow : ℕ)

/-- What a sample adds to the counter of the flow. -/
def SlotCounter.share (entry : TelemetrySample × UInt64) : Amount :=
  if entry.1.flowId.toNat = flow then counter.weight entry.1 else 0

/-- What the counter of the flow is in a table. -/
def SlotCounter.inTable (collector : QoECollector) : Amount :=
  (collector.flowMetrics[flow]?.map counter.read).getD 0

/-- What a recorder has still to add to the counter of the flow. -/
def SlotCounter.pending (recorder : Recorder) : Amount :=
  match recorder.samples with
  | [] => 0
  | entry :: rest =>
      (if recorder.stage.index ≤ counter.stage.index then counter.share flow entry else 0) +
        (rest.map (counter.share flow)).sum

def SlotCounter.pendingOf : TableUser → Amount
  | .recorder thread => counter.pending flow thread
  | .flusher _ => 0

theorem pending_fresh (history : History) :
    counter.pending flow ⟨history, .packetCount⟩ = (history.map (counter.share flow)).sum := by
  cases history with
  | nil => rfl
  | cons entry rest =>
    simp only [SlotCounter.pending, RecordStage.index, Nat.zero_le, if_true, List.map_cons,
      List.sum_cons]

/-- A step of a recorder moves what it adds from the recorder to the slot. -/
theorem pending_advance (metrics : FlowMetrics) (sample : TelemetrySample) (now : UInt64)
    (rest : History) (reached : RecordStage) (hflow : sample.flowId.toNat = flow) :
    counter.read (Recorder.advance metrics ⟨(sample, now) :: rest, reached⟩).1 +
        counter.pending flow (Recorder.advance metrics ⟨(sample, now) :: rest, reached⟩).2 =
      counter.read metrics + counter.pending flow ⟨(sample, now) :: rest, reached⟩ := by
  have hshare : counter.share flow (sample, now) = counter.weight sample := if_pos hflow
  rw [counter.step, add_assoc]
  congr 1
  cases reached with
  | bucket =>
    change _ + counter.pending flow ⟨rest, .packetCount⟩ = _
    rw [pending_fresh]
    cases hstage : counter.stage <;> simp [SlotCounter.pending, RecordStage.index, hstage, hshare]
  | _ =>
    cases hstage : counter.stage <;>
      simp [Recorder.advance, SlotCounter.pending, RecordStage.index, hstage, hshare]

variable {collector : QoECollector}

theorem inTable_setSlot (index : ℕ) {old : FlowMetrics}
    (hold : collector.flowMetrics[index]? = some old) (metrics : FlowMetrics) :
    counter.inTable flow (collector.setSlot index metrics) =
      if index = flow then counter.read metrics else counter.inTable flow collector := by
  have hindex := (List.getElem?_eq_some_iff.mp hold).1
  unfold SlotCounter.inTable QoECollector.setSlot
  by_cases hsame : index = flow
  · subst hsame
    simp [hindex]
  · simp [hsame]

/-- A sample for another flow adds nothing at any step. -/
theorem pending_of_other {sample : TelemetrySample} (hflow : sample.flowId.toNat ≠ flow)
    (now : UInt64) (rest : History) (reached : RecordStage) :
    counter.pending flow ⟨(sample, now) :: rest, reached⟩ =
      (rest.map (counter.share flow)).sum := by
  have hshare : counter.share flow (sample, now) = 0 := if_neg hflow
  simp only [SlotCounter.pending, hshare, ite_self, zero_add]

theorem pending_advance_of_other (metrics : FlowMetrics) {sample : TelemetrySample}
    (hflow : sample.flowId.toNat ≠ flow) (now : UInt64) (rest : History) (reached : RecordStage) :
    counter.pending flow (Recorder.advance metrics ⟨(sample, now) :: rest, reached⟩).2 =
      (rest.map (counter.share flow)).sum := by
  cases reached with
  | bucket => exact pending_fresh counter flow rest
  | _ => exact pending_of_other counter flow hflow now rest _

/-- No step adds or removes a slot. -/
theorem length_advance (collector : QoECollector) (clock : UInt64) (thread : TableUser) :
    (thread.advance clock collector).1.flowMetrics.length = collector.flowMetrics.length := by
  cases thread with
  | recorder recorder =>
    simp only [TableUser.advance, Recorder.advanceTable]
    split
    · rfl
    · split
      · rfl
      · exact List.length_set
  | flusher flusher =>
    fun_cases Flusher.advance clock collector flusher with
    | case1 | case2 | case3 | case4 | case5 | case6 => simp_all [TableUser.advance, Flusher.advance]
    | case7 => simp_all [TableUser.advance, Flusher.advance, QoECollector.setSlot]

/-- **One step.** For a flow that has a slot, a step of a thread leaves what the counter and the
thread have together. -/
theorem total_advance (hflow : flow < collector.flowMetrics.length) (clock : UInt64)
    (thread : TableUser) :
    counter.inTable flow (thread.advance clock collector).1 +
        counter.pendingOf flow (thread.advance clock collector).2 =
      counter.inTable flow collector + counter.pendingOf flow thread := by
  cases thread with
  | recorder recorder =>
    obtain ⟨samples, reached⟩ := recorder
    cases samples with
    | nil => rfl
    | cons entry rest =>
      obtain ⟨sample, now⟩ := entry
      cases hslot : collector.flowMetrics[sample.flowId.toNat]? with
      | none =>
        have hother : sample.flowId.toNat ≠ flow := by
          rintro rfl
          exact absurd hflow (List.getElem?_eq_none_iff.mp hslot).not_gt
        simp only [TableUser.advance, Recorder.advanceTable, hslot]
        refine congrArg (counter.inTable flow collector + ·) ?_
        exact (pending_fresh counter flow rest).trans
          (pending_of_other counter flow hother now rest reached).symm
      | some metrics =>
        simp only [TableUser.advance, Recorder.advanceTable, hslot]
        rw [inTable_setSlot counter flow _ hslot]
        by_cases hsame : sample.flowId.toNat = flow
        · have hread : counter.inTable flow collector = counter.read metrics := by
            rw [SlotCounter.inTable, ← hsame, hslot]
            rfl
          rw [if_pos hsame, hread]
          exact pending_advance counter flow metrics sample now rest reached hsame
        · rw [if_neg hsame]
          refine congrArg (counter.inTable flow collector + ·) ?_
          exact (pending_advance_of_other counter flow metrics hsame now rest reached).trans
            (pending_of_other counter flow hsame now rest reached).symm
  | flusher flusher =>
    refine congrArg (· + (0 : Amount)) ?_
    obtain ⟨limits, stage, results⟩ := flusher
    cases limits with
    | nil => rfl
    | cons maxIdleNs rest =>
      cases stage with
      | idle => rfl
      | looking now index flushed =>
        simp only [TableUser.advance, Flusher.advance]
        split
        · rfl
        · split <;> rfl
      | marking now index flushed =>
        cases hslot : collector.flowMetrics[index]? with
        | none => simp only [TableUser.advance, Flusher.advance, hslot]
        | some metrics =>
          simp only [TableUser.advance, Flusher.advance, hslot]
          rw [inTable_setSlot counter flow _ hslot, counter.mark]
          split
          next hsame =>
            rw [SlotCounter.inTable, ← hsame, hslot]
            rfl
          next => rfl

/-- A sample recorded at once adds its weight to the counter. -/
theorem read_recordSample (metrics : FlowMetrics) (sample : TelemetrySample) (now : UInt64) :
    counter.read (metrics.recordSample sample now) = counter.read metrics + counter.weight sample := by
  have hfive := congrArg Prod.fst (advance_uninterrupted metrics sample now [])
  refine (congrArg counter.read hfive).symm.trans ?_
  change counter.read (Recorder.advance (Recorder.advance (Recorder.advance (Recorder.advance
    (Recorder.advance metrics ⟨[(sample, now)], .packetCount⟩).1 ⟨[(sample, now)], .byteCount⟩).1
    ⟨[(sample, now)], .lastUpdate⟩).1 ⟨[(sample, now)], .lossCount⟩).1
    ⟨[(sample, now)], .bucket⟩).1 = _
  simp only [counter.step]
  cases counter.stage <;> simp

theorem inTable_recordSample (hflow : flow < collector.flowMetrics.length)
    (sample : TelemetrySample) (now : UInt64) :
    counter.inTable flow (collector.recordSample sample now) =
      counter.inTable flow collector + counter.share flow (sample, now) := by
  have hslot := getElem?_step collector (.recordSample sample now) flow
  change (collector.recordSample sample now).flowMetrics[flow]? = _ at hslot
  unfold SlotCounter.inTable SlotCounter.share
  rw [hslot, List.getElem?_eq_getElem hflow]
  simp only [FlowMetrics.step, Option.map_some, Option.getD_some]
  split
  · exact read_recordSample counter _ sample now
  · exact (add_zero _).symm

theorem inTable_recordAll (hflow : flow < collector.flowMetrics.length) (history : History) :
    counter.inTable flow (collector.recordAll history) =
      counter.inTable flow collector + (history.map (counter.share flow)).sum := by
  induction history generalizing collector with
  | nil => exact (add_zero _).symm
  | cons entry history ih =>
    have hlength : flow < (collector.recordSample entry.1 entry.2).flowMetrics.length := by
      unfold QoECollector.recordSample
      split
      · exact hflow
      · simpa using hflow
    change counter.inTable flow ((collector.recordSample entry.1 entry.2).recordAll history) = _
    rw [ih hlength, inTable_recordSample counter flow hflow, List.map_cons, List.sum_cons, add_assoc]

/-! ## Every schedule -/

/-- The table still has its slots, and nothing of the counter was lost. -/
def SlotCounter.Conserved (start config : Config QoECollector TableUser) : Prop :=
  config.shared.flowMetrics.length = start.shared.flowMetrics.length ∧
    total (counter.inTable flow) (counter.pendingOf flow) config =
      total (counter.inTable flow) (counter.pendingOf flow) start

variable [IsLeftCancelAdd Amount]

theorem Conserved.step {start config : Config QoECollector TableUser}
    (hflow : flow < start.shared.flowMetrics.length)
    (hconserved : counter.Conserved flow start config) (pick : ℕ × UInt64) :
    counter.Conserved flow start (step TableUser.advance config pick) := by
  apply step_induction config pick (counter.Conserved flow start) hconserved
  intro thread after moved hthread hmove
  obtain ⟨hlength, htotal⟩ := hconserved
  have hsize := length_advance config.shared pick.2 thread
  have hsum := total_advance counter flow (hlength ▸ hflow) pick.2 thread
  rw [hmove] at hsize hsum
  exact ⟨hsize.trans hlength, (total_set _ _ hthread _ _ hsum).trans htotal⟩

/-- After every schedule, what a counter and the threads have together is what the counter has when
all samples are recorded. -/
theorem total_runTable (hflow : flow < collector.flowMetrics.length) (histories : List History)
    (sweeps : List (List UInt64)) (schedule : List (ℕ × UInt64)) :
    total (counter.inTable flow) (counter.pendingOf flow)
        (runTable collector histories sweeps schedule) =
      counter.inTable flow (collector.recordAll histories.flatten) := by
  have hrun : counter.Conserved flow (startTable collector histories sweeps)
      (runTable collector histories sweeps schedule) :=
    Execution.run_invariant (counter.Conserved flow (startTable collector histories sweeps))
      ⟨rfl, rfl⟩ (fun _ pick hconserved ↦ Conserved.step counter flow hflow hconserved pick) schedule
  rw [hrun.2, inTable_recordAll counter flow hflow]
  have hrecorders : (histories.map fun history ↦
      counter.pending flow ⟨history, .packetCount⟩).sum =
        (histories.flatten.map (counter.share flow)).sum := by
    simp only [pending_fresh]
    rw [List.map_flatten, List.sum_flatten, List.map_map]
    rfl
  simp [total, startTable, SlotCounter.pendingOf, Function.comp_def, hrecorders]

end Counting

/-! ## Recorders that are done -/

/-- The steps that a thread takes until it has nothing left to record. -/
def TableUser.untilRecorded : TableUser → ℕ
  | .recorder thread => 5 * thread.samples.length - thread.stage.index
  | .flusher _ => 0

theorem untilRecorded_advance (clock : UInt64) (collector : QoECollector) (thread : TableUser) :
    (thread.advance clock collector).2.untilRecorded ≤ thread.untilRecorded - 1 := by
  cases thread with
  | flusher flusher => exact Nat.zero_le _
  | recorder recorder =>
    obtain ⟨samples, reached⟩ := recorder
    cases samples with
    | nil =>
      simp only [TableUser.advance, Recorder.advanceTable, TableUser.untilRecorded, List.length_nil]
      omega
    | cons entry rest =>
      obtain ⟨sample, now⟩ := entry
      cases hslot : collector.flowMetrics[sample.flowId.toNat]? <;> cases reached <;>
        simp only [TableUser.advance, Recorder.advanceTable, hslot, Recorder.advance,
          TableUser.untilRecorded, RecordStage.index, List.length_cons] <;>
        omega

theorem pendingOf_eq_zero {Amount : Type*} [AddCommMonoid Amount] (counter : SlotCounter Amount)
    (flow : ℕ) {thread : TableUser} (hdone : thread.untilRecorded = 0) :
    counter.pendingOf flow thread = 0 := by
  cases thread with
  | flusher flusher => rfl
  | recorder recorder =>
    obtain ⟨samples, reached⟩ := recorder
    cases samples with
    | nil => rfl
    | cons entry rest =>
      have hindex : reached.index ≤ 4 := by cases reached <;> decide
      simp only [TableUser.untilRecorded, List.length_cons] at hdone
      omega

/-- Slots that agree on each counter agree on all of them. -/
theorem counters_eq {first second : FlowMetrics}
    (hagree : ∀ {Amount : Type} [AddCommMonoid Amount] [IsLeftCancelAdd Amount]
      (counter : SlotCounter Amount), counter.read first = counter.read second) :
    first.counters = second.counters := by
  have hbuckets : first.latencyBuckets = second.latencyBuckets :=
    Vector.ext fun bucket hbucket ↦ hagree (bucketCounter bucket hbucket)
  have hpackets : first.packetCount = second.packetCount := hagree packetCounter
  have hbytes : first.byteCount = second.byteCount := hagree byteCounter
  have hlosses : first.lossCount = second.lossCount := hagree lossCounter
  simp only [FlowMetrics.counters, hpackets, hbytes, hlosses, hbuckets]

/-- The snapshot of a flow reads nothing but the counters. -/
theorem getFlowKpi_congr {first second : QoECollector} {flowId : UInt32}
    (hcounters : first.flowMetrics[flowId.toNat]?.map FlowMetrics.counters =
      second.flowMetrics[flowId.toNat]?.map FlowMetrics.counters) (prior : FlowKPI) :
    first.getFlowKpi flowId prior = second.getFlowKpi flowId prior := by
  unfold QoECollector.getFlowKpi
  cases hfirst : first.flowMetrics[flowId.toNat]? with
  | none =>
    rw [hfirst] at hcounters
    rw [Option.map_eq_none_iff.mp hcounters.symm]
  | some metrics =>
    rw [hfirst] at hcounters
    obtain ⟨other, hother, hsame⟩ := Option.map_eq_some_iff.mp hcounters.symm
    simp only [FlowMetrics.counters, Prod.mk.injEq] at hsame
    obtain ⟨hpackets, hbytes, hlosses, hbuckets⟩ := hsame
    have hsamples : other.totalSamples = metrics.totalSamples := by
      rw [FlowMetrics.totalSamples, hbuckets, FlowMetrics.totalSamples]
    rw [hother]
    dsimp only
    rw [hpackets, hbytes, hlosses, hsamples]

section Recorded

variable (collector : QoECollector) (histories : List History) (sweeps : List (List UInt64))
  (schedule : List (ℕ × UInt64))

/-- Every recorder has made five steps for each of its samples. -/
def AllRecorded : Prop :=
  ∀ (place : ℕ) history, histories[place]? = some history →
    5 * history.length ≤ schedule.countP fun pick ↦ pick.1 = place

theorem length_recordAll (history : History) :
    (collector.recordAll history).flowMetrics.length = collector.flowMetrics.length := by
  induction history generalizing collector with
  | nil => rfl
  | cons entry history ih =>
    refine (ih (collector.recordSample entry.1 entry.2)).trans ?_
    unfold QoECollector.recordSample
    split
    · rfl
    · exact List.length_modify ..

theorem length_runTable :
    (runTable collector histories sweeps schedule).shared.flowMetrics.length =
      collector.flowMetrics.length := by
  apply Execution.run_invariant fun config : Config QoECollector TableUser ↦
    config.shared.flowMetrics.length = collector.flowMetrics.length
  · rfl
  · intro config pick hlength
    apply step_induction config pick
      (fun config ↦ config.shared.flowMetrics.length = collector.flowMetrics.length) hlength
    intro thread after moved _ hmove
    have hsize := length_advance config.shared pick.2 thread
    rw [hmove] at hsize
    exact hsize.trans hlength

variable {histories schedule}

/-- When all samples are recorded, every counter is what it is after recording them at once. -/
theorem inTable_runTable {Amount : Type*} [AddCommMonoid Amount] [IsLeftCancelAdd Amount]
    (counter : SlotCounter Amount) {flow : ℕ} (hflow : flow < collector.flowMetrics.length)
    (hdone : AllRecorded histories schedule) :
    counter.inTable flow (runTable collector histories sweeps schedule).shared =
      counter.inTable flow (collector.recordAll histories.flatten) := by
  rw [← total_runTable counter flow hflow histories sweeps schedule]
  have hnothing : ∀ thread ∈ (runTable collector histories sweeps schedule).workers,
      thread.untilRecorded = 0 := by
    apply run_completes TableUser.untilRecorded untilRecorded_advance
    intro place thread hthread
    simp only [startTable, List.getElem?_append, List.getElem?_map] at hthread
    split at hthread
    · obtain ⟨history, hhistory, rfl⟩ := Option.map_eq_some_iff.mp hthread
      exact hdone place history hhistory
    · obtain ⟨limits, -, rfl⟩ := Option.map_eq_some_iff.mp hthread
      exact Nat.zero_le _
  have hpending : ((runTable collector histories sweeps schedule).workers.map
      (counter.pendingOf flow)).sum = 0 := by
    apply List.sum_eq_zero
    intro amount hamount
    obtain ⟨thread, hthread, rfl⟩ := List.mem_map.mp hamount
    exact pendingOf_eq_zero counter flow (hnothing thread hthread)
  rw [total, hpending, add_zero]

/-- **No sample is lost.** However recorders and sweeps interleave, when every recorder has made its
steps, every slot has the counters that it has after recording all samples one after the other, and
the snapshot of every flow is the same. -/
theorem recording_loses_nothing (hdone : AllRecorded histories schedule) :
    let ended := (runTable collector histories sweeps schedule).shared
    let plain := collector.recordAll histories.flatten
    (∀ flow : ℕ, ended.flowMetrics[flow]?.map FlowMetrics.counters =
      plain.flowMetrics[flow]?.map FlowMetrics.counters) ∧
    ∀ flowId prior, ended.getFlowKpi flowId prior = plain.getFlowKpi flowId prior := by
  intro ended plain
  have hended : ended.flowMetrics.length = collector.flowMetrics.length :=
    length_runTable collector histories sweeps schedule
  have hplain : plain.flowMetrics.length = collector.flowMetrics.length :=
    length_recordAll collector histories.flatten
  have hcounters : ∀ flow : ℕ, ended.flowMetrics[flow]?.map FlowMetrics.counters =
      plain.flowMetrics[flow]?.map FlowMetrics.counters := by
    intro flow
    by_cases hflow : flow < collector.flowMetrics.length
    · rw [List.getElem?_eq_getElem (hended ▸ hflow), List.getElem?_eq_getElem (hplain ▸ hflow)]
      refine congrArg some (counters_eq fun counter ↦ ?_)
      have hsame := inTable_runTable collector sweeps counter hflow hdone
      unfold SlotCounter.inTable at hsame
      rwa [List.getElem?_eq_getElem (hended ▸ hflow), List.getElem?_eq_getElem (hplain ▸ hflow)]
        at hsame
    · rw [List.getElem?_eq_none (by omega), List.getElem?_eq_none (by omega)]
  exact ⟨hcounters, fun flowId prior ↦ getFlowKpi_congr (hcounters flowId.toNat) prior⟩

end Recorded

/-- Two threads with a sample of one flow each, and one that sweeps the table. -/
def sharedFlow : List History :=
  [[(⟨0, 1, 1, 100, 25, true, 0⟩, 7)], [(⟨0, 1, 1, 60, 5, false, 0⟩, 6)]]

/-- All three threads take turns until both samples are recorded. -/
def turns : List (ℕ × UInt64) :=
  [(0, 0), (1, 0), (2, 9), (0, 0), (1, 0), (2, 0), (1, 0), (0, 0), (2, 0), (0, 0), (1, 0), (1, 0),
    (0, 0)]

theorem sharedFlow_recorded :
    let prior : FlowKPI := ⟨0, 0, 0, 0, 0, 0⟩
    let collector := QoECollector.create 2 fun _ ↦ 0
    (runTable collector sharedFlow [[5]] turns).shared.getFlowKpi 0 prior =
      .ok ⟨0, 0, 0, 2, 160, 50⟩ := by
  intro prior collector
  have hdone : AllRecorded sharedFlow turns := by
    intro place history hhistory
    match place with
    | 0 | 1 =>
      cases hhistory
      decide
    | place + 2 => cases hhistory
  rw [(recording_loses_nothing collector [[5]] hdone).2]
  decide +kernel

end VirtualServiceGateway.Analytics
