import VirtualServiceGateway.Analytics.FlowCounters
import VirtualServiceGateway.Analytics.ServiceIsolation
import VirtualServiceGateway.Foundation.Interleaving

/-!
# A snapshot while samples are recorded

Recording a sample is five atomic steps on the slot of the flow, and the snapshot reads the slot
field by field: the packets and the bytes, the ten latency buckets, and the losses if some bucket
was not zero. Other threads record between two reads. On their own, the steps are `recordSample` and
the reads are `getFlowKpi`.
-/

namespace VirtualServiceGateway.Analytics

open CheckedOperation

/-! ## Recording step by step -/

/-- The field that a recorder updates next. -/
inductive RecordStage where
  | packetCount
  | byteCount
  | lastUpdate
  | lossCount
  | bucket
  deriving DecidableEq, Repr

/-- A thread with the samples it still records, the first of them under way, and the clock readings
of their time stamps. -/
structure Recorder where
  samples : History
  stage : RecordStage
  deriving DecidableEq

/-- Count the latency in its bucket. -/
def FlowMetrics.addLatency (metrics : FlowMetrics) (latencyUs : UInt32) : FlowMetrics :=
  { metrics with
    latencyBuckets :=
      let bucket := (bucketOf latencyUs).toNat
      if h : bucket < 10 then
        metrics.latencyBuckets.set bucket (metrics.latencyBuckets[bucket] + 1)
      else metrics.latencyBuckets }

/-- The next atomic step of a recorder. -/
def Recorder.advance (metrics : FlowMetrics) (recorder : Recorder) : FlowMetrics × Recorder :=
  match recorder with
  | ⟨[], stage⟩ => (metrics, ⟨[], stage⟩)
  | ⟨(sample, now) :: rest, .packetCount⟩ =>
      ({ metrics with packetCount := metrics.packetCount + 1 },
        ⟨(sample, now) :: rest, .byteCount⟩)
  | ⟨(sample, now) :: rest, .byteCount⟩ =>
      ({ metrics with byteCount := metrics.byteCount + sample.packetSize.toUInt64 },
        ⟨(sample, now) :: rest, .lastUpdate⟩)
  | ⟨(sample, now) :: rest, .lastUpdate⟩ =>
      ({ metrics with lastUpdateNs := now }, ⟨(sample, now) :: rest, .lossCount⟩)
  | ⟨(sample, now) :: rest, .lossCount⟩ =>
      (if sample.packetLost then { metrics with lossCount := metrics.lossCount + 1 } else metrics,
        ⟨(sample, now) :: rest, .bucket⟩)
  | ⟨(sample, _) :: rest, .bucket⟩ =>
      (metrics.addLatency sample.latencyUs, ⟨rest, .packetCount⟩)

/-! ## Reading step by step -/

/-- A snapshot in progress: what it has read, and the next bucket with the sum of those before. A
finished one has the quotient for the loss percentage if some bucket was not zero. -/
inductive SnapshotReader where
  | start
  | counted (packetCount : UInt64)
  | summing (packetCount byteCount : UInt64) (next : ℕ) (totalSamples : UInt64)
  | finished (packetCount byteCount : UInt64) (percent : Option (Except Fault UInt64))
  deriving DecidableEq

namespace SnapshotReader

/-- The next atomic read. -/
def read (metrics : FlowMetrics) : SnapshotReader → SnapshotReader
  | .start => .counted metrics.packetCount
  | .counted packetCount => .summing packetCount metrics.byteCount 0 0
  | .summing packetCount byteCount next totalSamples =>
      if h : next < 10 then
        .summing packetCount byteCount (next + 1)
          (totalSamples + metrics.latencyBuckets[next].toUInt64)
      else if 0 < totalSamples then
        .finished packetCount byteCount
          (some (divide (metrics.lossCount * 100).toUInt64 packetCount))
      else .finished packetCount byteCount none
  | .finished packetCount byteCount percent => .finished packetCount byteCount percent

/-- The result of a finished snapshot. -/
def result (flowId : UInt32) (prior : FlowKPI) : SnapshotReader → Option (Except Fault FlowKPI)
  | .finished packetCount byteCount percent =>
      let kpi : FlowKPI :=
        { prior with flowId := flowId, packetCount := packetCount, byteCount := byteCount }
      match percent with
      | none => some (pure kpi)
      | some quotient => some do
          let percent ← quotient
          pure { kpi with lossPercent := percent.toUInt32 }
  | _ => none

end SnapshotReader

/-! ## Interleaved runs -/

/-- One snapshot, with the slot and the recorders. -/
structure LiveSnapshot where
  reader : SnapshotReader
  config : Interleaving.Config FlowMetrics Recorder

/-- The snapshot makes its next read, or the recorder at a place its next step. -/
inductive SnapshotEvent where
  | read
  | record (place : ℕ)
  deriving DecidableEq, Repr

namespace LiveSnapshot

def step (state : LiveSnapshot) : SnapshotEvent → LiveSnapshot
  | .read => { state with reader := state.reader.read state.config.shared }
  | .record place =>
      { state with
        config := Interleaving.step (fun _ : Unit ↦ Recorder.advance) state.config (place, ()) }

/-- The slot after samples recorded one after the other. -/
def slotAfter (leftover : UInt64) (earlier : History) : FlowMetrics :=
  earlier.foldl (fun metrics entry ↦ metrics.recordSample entry.1 entry.2) (.fresh leftover)

/-- The snapshot and the recorders before their first steps. -/
def start (leftover : UInt64) (earlier : History) (histories : List History) : LiveSnapshot :=
  ⟨.start, ⟨slotAfter leftover earlier, histories.map (⟨·, .packetCount⟩)⟩⟩

/-- The state after the events, oldest first. -/
def after (leftover : UInt64) (earlier : History) (histories : List History)
    (events : List SnapshotEvent) : LiveSnapshot :=
  Execution.run step (start leftover earlier histories) events

end LiveSnapshot

/-! ## Uninterrupted steps -/

/-- Five steps of a recorder on its own record its first sample. -/
theorem advance_uninterrupted (metrics : FlowMetrics) (sample : TelemetrySample) (now : UInt64)
    (rest : History) :
    (fun state : FlowMetrics × Recorder ↦ Recorder.advance state.1 state.2)^[5]
        (metrics, ⟨(sample, now) :: rest, .packetCount⟩) =
      (metrics.recordSample sample now, ⟨rest, .packetCount⟩) := by
  cases hlost : sample.packetLost <;>
    simp [Recorder.advance, FlowMetrics.addLatency, FlowMetrics.recordSample, hlost]

/-- The reads of the buckets add them up in order. -/
theorem read_buckets (metrics : FlowMetrics) (packetCount byteCount : UInt64) {count : ℕ}
    (hcount : count ≤ 10) :
    (SnapshotReader.read metrics)^[count] (.summing packetCount byteCount 0 0) =
      .summing packetCount byteCount count ((metrics.latencyBuckets.toList.take count).foldl
        (fun total bucket ↦ total + bucket.toUInt64) 0) := by
  induction count with
  | zero => rfl
  | succ count ih =>
    have hlt : count < metrics.latencyBuckets.toList.length := by
      rw [Vector.length_toList]
      omega
    rw [Function.iterate_succ_apply', ih (by omega), SnapshotReader.read, dif_pos (by omega),
      List.take_succ_eq_append_getElem hlt, List.foldl_append]
    rfl

/-- Thirteen reads on their own are the snapshot of the flow. -/
theorem read_uninterrupted {collector : QoECollector} {flowId : UInt32} {metrics : FlowMetrics}
    (hmetrics : collector.flowMetrics[flowId.toNat]? = some metrics) (prior : FlowKPI) :
    ((SnapshotReader.read metrics)^[13] .start).result flowId prior =
      some (collector.getFlowKpi flowId prior) := by
  have htotal : (metrics.latencyBuckets.toList.take 10).foldl
      (fun total bucket ↦ total + bucket.toUInt64) 0 = metrics.totalSamples := by
    rw [List.take_of_length_le (by simp)]
    rfl
  have hread : (SnapshotReader.read metrics)^[13] .start =
      .finished metrics.packetCount metrics.byteCount
        (if 0 < metrics.totalSamples then
          some (divide (metrics.lossCount * 100).toUInt64 metrics.packetCount) else none) := by
    calc
      (SnapshotReader.read metrics)^[13] .start =
          ((SnapshotReader.read metrics)^[10]
            (.summing metrics.packetCount metrics.byteCount 0 0)).read metrics :=
        Function.iterate_succ_apply' _ 10 _
      _ = (SnapshotReader.summing metrics.packetCount metrics.byteCount 10
            metrics.totalSamples).read metrics := by
        rw [read_buckets metrics _ _ le_rfl, htotal]
      _ = _ := by
        simp only [SnapshotReader.read, Nat.lt_irrefl, dite_false]
        split <;> rfl
  simp only [hread, QoECollector.getFlowKpi, hmetrics]
  by_cases hsampled : 0 < metrics.totalSamples
  · rw [if_pos hsampled, if_pos hsampled]
    rfl
  · rw [if_neg hsampled, if_neg hsampled]
    rfl

end VirtualServiceGateway.Analytics
