import Mathlib.Data.UInt
import VirtualServiceGateway.Foundation.CheckedOperation
import VirtualServiceGateway.Foundation.Execution

/-!
# The QoE collector

The collector is a table of flow slots, one for every flow id below the maximum. Recording a sample
updates the counters of one slot, flushing clears the active flag of idle slots, and four queries
read the table. Clock readings are arguments, and so is what uninitialised memory holds: the time
stamps of a fresh table and the fields of a result that a query leaves unset.
-/

namespace VirtualServiceGateway.Analytics

open CheckedOperation

structure FlowKPI where
  flowId : UInt32
  subscriberId : UInt32
  serviceId : UInt16
  packetCount : UInt64
  byteCount : UInt64
  lossPercent : UInt32
  deriving DecidableEq, Repr

structure ServiceKPI where
  serviceId : UInt16
  totalFlows : UInt64
  totalBytes : UInt64
  totalPackets : UInt64
  avgLossPercent : UInt32
  windowStartNs : UInt64
  windowEndNs : UInt64
  deriving DecidableEq, Repr

structure TelemetrySample where
  flowId : UInt32
  subscriberId : UInt32
  serviceId : UInt16
  packetSize : UInt32
  latencyUs : UInt32
  packetLost : Bool
  timestampNs : UInt64
  deriving DecidableEq, Repr

structure FlowMetrics where
  packetCount : UInt64
  byteCount : UInt64
  lossCount : UInt32
  latencyBuckets : Vector UInt32 10
  lastUpdateNs : UInt64
  active : Bool
  deriving DecidableEq

/-- The table has exactly one slot for every flow id below the maximum. -/
structure QoECollector where
  flowMetrics : List FlowMetrics
  maxFlows : UInt32
  size_eq : flowMetrics.length = maxFlows.toNat

/-! ## Slots -/

namespace FlowMetrics

/-- A slot of a fresh table, with whatever time stamp its memory held. -/
def fresh (leftover : UInt64) : FlowMetrics where
  packetCount := 0
  byteCount := 0
  lossCount := 0
  latencyBuckets := Vector.replicate 10 0
  lastUpdateNs := leftover
  active := true

def bucketOf (latencyUs : UInt32) : UInt32 := min 9 (latencyUs / 10)

/-- Record a sample in its slot. The active flag is left as it is. -/
def recordSample (metrics : FlowMetrics) (sample : TelemetrySample) (now : UInt64) :
    FlowMetrics where
  packetCount := metrics.packetCount + 1
  byteCount := metrics.byteCount + sample.packetSize.toUInt64
  lossCount := if sample.packetLost then metrics.lossCount + 1 else metrics.lossCount
  latencyBuckets :=
    let bucket := (bucketOf sample.latencyUs).toNat
    if h : bucket < 10 then
      metrics.latencyBuckets.set bucket (metrics.latencyBuckets[bucket] + 1)
    else metrics.latencyBuckets
  lastUpdateNs := now
  active := metrics.active

/-- The sum of the latency buckets, in 64 bits. -/
def totalSamples (metrics : FlowMetrics) : UInt64 :=
  metrics.latencyBuckets.toList.foldl (fun total bucket ↦ total + bucket.toUInt64) 0

/-- Is the slot idle for longer than the limit? The difference is taken modulo `2 ^ 64`. -/
def expired (metrics : FlowMetrics) (maxIdleNs now : UInt64) : Bool :=
  maxIdleNs < now - metrics.lastUpdateNs

def flush (metrics : FlowMetrics) (maxIdleNs now : UInt64) : FlowMetrics :=
  if metrics.expired maxIdleNs now then { metrics with active := false } else metrics

end FlowMetrics

/-! ## The table -/

namespace QoECollector

/-- A fresh table; `leftover` is what the memory of each time stamp held. -/
def create (maxFlows : UInt32) (leftover : ℕ → UInt64) : QoECollector where
  flowMetrics := (List.range maxFlows.toNat).map fun flow ↦ .fresh (leftover flow)
  maxFlows := maxFlows
  size_eq := by rw [List.length_map, List.length_range]

def recordSample (collector : QoECollector) (sample : TelemetrySample) (now : UInt64) :
    QoECollector :=
  if collector.maxFlows ≤ sample.flowId then collector
  else { collector with
    flowMetrics := collector.flowMetrics.modify sample.flowId.toNat (·.recordSample sample now)
    size_eq := by rw [List.length_modify]; exact collector.size_eq }

/-- The snapshot of a flow. The percentage divides a 32-bit product by the packet count, and it is
computed whenever some latency bucket is not zero. -/
def getFlowKpi (collector : QoECollector) (flowId : UInt32) (prior : FlowKPI) :
    Except Fault FlowKPI :=
  match collector.flowMetrics[flowId.toNat]? with
  | none => pure { prior with flowId := flowId }
  | some metrics =>
      let kpi : FlowKPI :=
        { prior with
          flowId := flowId
          packetCount := metrics.packetCount
          byteCount := metrics.byteCount }
      if 0 < metrics.totalSamples then do
        let percent ← divide (metrics.lossCount * 100).toUInt64 kpi.packetCount
        pure { kpi with lossPercent := percent.toUInt32 }
      else pure kpi

/-- One flow's share of a service query: the result so far, the lost packets and the packets. -/
def addToService (totals : ServiceKPI × UInt64 × UInt64) (metrics : FlowMetrics) :
    ServiceKPI × UInt64 × UInt64 :=
  let (kpi, totalLoss, totalPackets) := totals
  if metrics.lastUpdateNs < kpi.windowStartNs then totals
  else
    ({ kpi with
        totalFlows := kpi.totalFlows + 1
        totalPackets := kpi.totalPackets + metrics.packetCount
        totalBytes := kpi.totalBytes + metrics.byteCount },
      totalLoss + metrics.lossCount.toUInt64, totalPackets + metrics.packetCount)

/-- The service query. The service id only labels the result. -/
def getServiceKpi (collector : QoECollector) (serviceId : UInt16) (windowNs now : UInt64)
    (prior : ServiceKPI) : ServiceKPI :=
  let start : ServiceKPI :=
    { prior with serviceId := serviceId, windowStartNs := now - windowNs, windowEndNs := now }
  let (kpi, totalLoss, totalPackets) := collector.flowMetrics.foldl addToService (start, 0, 0)
  if 0 < totalPackets then
    { kpi with avgLossPercent := (totalLoss * 100 / totalPackets).toUInt32 }
  else kpi

/-- Is the slot of the flow id active? -/
def isActive (collector : QoECollector) (flow : ℕ) : Bool :=
  collector.flowMetrics[flow]?.any FlowMetrics.active

/-- The snapshots of all active flows. The table is shorter than `2 ^ 32`, so the 32-bit loop
counter takes every flow id once. -/
def getAllFlowKpis (collector : QoECollector) (prior : ℕ → FlowKPI) :
    Except Fault (List FlowKPI) :=
  ((List.range collector.flowMetrics.length).filter collector.isActive).mapM fun flow ↦
    collector.getFlowKpi (UInt32.ofNat flow) (prior flow)

/-- The sampling loop from flow id `i` on, with a 32-bit counter that may wrap. A pair of counter
and sample count never repeats in a loop that ends, so `2 ^ 64` rounds are enough. -/
def telemetryFrom (collector : QoECollector) (maxSamples samplingInterval : UInt32)
    (prior : UInt32 → TelemetrySample) :
    ℕ → UInt32 → List TelemetrySample → Except Fault (List TelemetrySample)
  | 0, _, _ => .error .endless
  | fuel + 1, i, samples =>
      match collector.flowMetrics[i.toNat]? with
      | none => pure samples
      | some metrics =>
          if maxSamples.toNat ≤ samples.length then pure samples
          else if metrics.active then
            telemetryFrom collector maxSamples samplingInterval prior fuel (i + samplingInterval)
              (samples ++
                [{ prior i with flowId := i, timestampNs := metrics.lastUpdateNs }])
          else
            telemetryFrom collector maxSamples samplingInterval prior fuel (i + samplingInterval)
              samples

def getAggregatedTelemetry (collector : QoECollector) (maxSamples : UInt32)
    (prior : UInt32 → TelemetrySample) : Except Fault (List TelemetrySample) := do
  let quotient ← divide (UInt64.ofNat collector.flowMetrics.length) maxSamples.toUInt64
  telemetryFrom collector maxSamples (max 1 quotient.toUInt32) prior (2 ^ 64) 0 []

/-- Flush: the number of idle slots, whether they were active or not, and the table after. -/
def flushExpiredFlows (collector : QoECollector) (maxIdleNs now : UInt64) :
    UInt32 × QoECollector :=
  (collector.flowMetrics.foldl (fun flushed metrics ↦
      if metrics.expired maxIdleNs now then flushed + 1 else flushed) 0,
    { collector with
      flowMetrics := collector.flowMetrics.map (·.flush maxIdleNs now)
      size_eq := by rw [List.length_map]; exact collector.size_eq })

end QoECollector

/-! ## Runs -/

/-- A call on the collector, with the clock reading of the two that change the table. -/
inductive Call where
  | recordSample (sample : TelemetrySample) (now : UInt64)
  | flushExpiredFlows (maxIdleNs now : UInt64)
  | getFlowKpi (flowId : UInt32)
  | getServiceKpi (serviceId : UInt16) (windowNs now : UInt64)
  | getAllFlowKpis
  | getAggregatedTelemetry (maxSamples : UInt32)

namespace QoECollector

/-- The table after a call that returns, so a run is one whose queries do not divide by zero. The
queries only read the table. -/
def step (collector : QoECollector) : Call → QoECollector
  | .recordSample sample now => collector.recordSample sample now
  | .flushExpiredFlows maxIdleNs now => (collector.flushExpiredFlows maxIdleNs now).2
  | _ => collector

/-- The table after the calls, oldest first, from a fresh one. -/
def after (maxFlows : UInt32) (leftover : ℕ → UInt64) (calls : List Call) : QoECollector :=
  Execution.run step (create maxFlows leftover) calls

end QoECollector

end VirtualServiceGateway.Analytics
