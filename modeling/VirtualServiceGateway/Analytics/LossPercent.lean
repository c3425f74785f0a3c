import VirtualServiceGateway.Analytics.RatioSafety

/-!
# When the loss percentage of a flow is exact

The snapshot of a flow multiplies the losses by 100 in 32 bits before it divides by the packets. A
product that wraps loses more than all packets of a run that fits 32 bits, so the percentage is
exact exactly when the product does not wrap. The service query multiplies in 64 bits.
-/

namespace VirtualServiceGateway.Analytics

open CheckedOperation WrappingCounter

/-- The snapshot of the flow is defined, and its percentage is that of the samples. -/
def QoECollector.ReportsLoss (collector : QoECollector) (flowId : UInt32)
    (samples : List TelemetrySample) : Prop :=
  ∀ prior, ∃ kpi, collector.getFlowKpi flowId prior = .ok kpi ∧
    kpi.lossPercent.toNat =
      100 * samples.countP TelemetrySample.packetLost / samples.length

/-- A slot that counts samples, and fewer than `2 ^ 32`, has a bucket that is not empty. -/
theorem FlowMetrics.Counts.totalSamples_pos {metrics : FlowMetrics}
    {samples : List TelemetrySample} (hcounts : metrics.Counts samples)
    (hlength : samples.length < 2 ^ 32) (hsome : samples ≠ []) : 0 < metrics.totalSamples := by
  obtain ⟨sample, hsample⟩ := List.exists_mem_of_ne_nil samples hsome
  rw [UInt64.pos_iff_ne_zero, Ne, totalSamples_eq_zero_iff]
  intro hempty
  let bucket := (bucketOf sample.latencyUs).toNat
  have hbucket : bucket < 10 := by
    unfold bucket
    rw [toNat_bucketOf]
    omega
  have hin : sample.InBucket bucket := (bucketOf_eq_iff sample hbucket).mp rfl
  have hpos : 0 < samples.countP (TelemetrySample.InBucket bucket) :=
    List.countP_pos_iff.mpr ⟨sample, hsample, hin⟩
  have hle : samples.countP (TelemetrySample.InBucket bucket) ≤ samples.length :=
    List.countP_le_length
  have hzero := congrArg UInt32.toNat (hempty bucket hbucket)
  rw [hcounts.buckets bucket hbucket, toNat_wrap32, Nat.mod_eq_of_lt (by omega)] at hzero
  exact absurd hzero hpos.ne'

/-- The percentage of a slot that counts fewer than `2 ^ 32` samples. -/
theorem FlowMetrics.Counts.lossPercent {collector : QoECollector} {flowId : UInt32}
    {metrics : FlowMetrics} (hmetrics : collector.flowMetrics[flowId.toNat]? = some metrics)
    {samples : List TelemetrySample} (hcounts : metrics.Counts samples)
    (hlength : samples.length < 2 ^ 32) (hsome : samples ≠ []) (prior : FlowKPI) :
    ∃ kpi, collector.getFlowKpi flowId prior = .ok kpi ∧
      kpi.lossPercent.toNat =
        100 * samples.countP TelemetrySample.packetLost % 2 ^ 32 / samples.length := by
  have hsamples := hcounts.totalSamples_pos hlength hsome
  have hlength64 : samples.length < 2 ^ 64 := hlength.trans (by decide)
  have hpackets := hcounts.toNat_packetCount hlength64
  have hlosses : metrics.lossCount.toNat = samples.countP TelemetrySample.packetLost := by
    have hle : samples.countP TelemetrySample.packetLost ≤ samples.length := List.countP_le_length
    rw [hcounts.losses, toNat_wrap32, Nat.mod_eq_of_lt (by omega)]
  obtain ⟨kpi, hkpi, hpercent⟩ := getFlowKpi_of_samples hmetrics hsamples
    ((hcounts.boundedByPackets hlength64).packetCount_ne_zero hsamples) prior
  refine ⟨kpi, hkpi, ?_⟩
  have hquotient : 100 * samples.countP TelemetrySample.packetLost % 2 ^ 32 / samples.length <
      2 ^ 32 := (Nat.div_le_self _ _).trans_lt (Nat.mod_lt _ (by decide))
  rw [hpercent, hlosses, hpackets, Nat.mul_comm, Nat.mod_eq_of_lt hquotient]

/-- **Exact percentage condition.** After any run with fewer than `2 ^ 32` recordings, the snapshot
of a flow with samples reports their loss percentage if and only if 100 times the losses fit 32
bits. -/
theorem reportsLoss_iff (maxFlows : UInt32) (leftover : ℕ → UInt64) (calls : List Call)
    (flowId : UInt32) (hcalls : recordings calls < 2 ^ 32) (hflow : flowId < maxFlows)
    (hsome : samplesOf flowId.toNat calls ≠ []) :
    (QoECollector.after maxFlows leftover calls).ReportsLoss flowId
        (samplesOf flowId.toNat calls) ↔
      100 * (samplesOf flowId.toNat calls).countP TelemetrySample.packetLost < 2 ^ 32 := by
  have hmetrics := getElem?_after maxFlows leftover calls (UInt32.lt_iff_toNat_lt.mp hflow)
  have hcounts := counts_run flowId.toNat (leftover flowId.toNat) calls
  have hlength := (length_samplesOf_le flowId.toNat calls).trans_lt hcalls
  have hpos := List.length_pos_of_ne_nil hsome
  generalize samplesOf flowId.toNat calls = samples at hcounts hlength hsome hpos ⊢
  rw [← mod_div_eq_div_iff hpos hlength.le]
  constructor
  · intro hreports
    obtain ⟨kpi, hkpi, hpercent⟩ := hreports ⟨0, 0, 0, 0, 0, 0⟩
    obtain ⟨found, hfound, hcomputed⟩ :=
      hcounts.lossPercent hmetrics hlength hsome ⟨0, 0, 0, 0, 0, 0⟩
    rw [hkpi] at hfound
    obtain rfl := Except.ok.inj hfound
    rw [← hcomputed, hpercent]
  · intro hexact prior
    obtain ⟨kpi, hkpi, hcomputed⟩ := hcounts.lossPercent hmetrics hlength hsome prior
    exact ⟨kpi, hkpi, hcomputed.trans hexact⟩

/-- One lost sample is reported as 100 percent. -/
theorem reportsLoss_one :
    (QoECollector.after 1 (fun _ ↦ 0) [.recordSample ⟨0, 1, 1, 100, 5, true, 0⟩ 50]).ReportsLoss 0
      (samplesOf (0 : UInt32).toNat [.recordSample ⟨0, 1, 1, 100, 5, true, 0⟩ 50]) :=
  (reportsLoss_iff 1 (fun _ ↦ 0) [.recordSample ⟨0, 1, 1, 100, 5, true, 0⟩ 50] 0 (by decide)
    (by decide) (by decide)).mpr (by decide)

/-- A sample of flow 0 that was lost. -/
def lostSample : TelemetrySample := ⟨0, 1, 1, 100, 5, true, 0⟩

/-- The calls of a flow that loses every packet. -/
def losingCalls (count : ℕ) : List Call := List.replicate count (.recordSample lostSample 50)

theorem samplesOf_losingCalls (count : ℕ) :
    samplesOf 0 (losingCalls count) = List.replicate count lostSample := by
  unfold samplesOf losingCalls
  rw [List.filterMap_replicate]
  rfl

theorem countP_lost_replicate (count : ℕ) :
    (List.replicate count lostSample).countP TelemetrySample.packetLost = count := by
  rw [List.countP_replicate]
  rfl

/-- The percentage of a flow that has lost all of its packets, fewer than `2 ^ 32`. -/
theorem lossPercent_losingCalls {count : ℕ} (hpos : 0 < count) (hcount : count < 2 ^ 32)
    (prior : FlowKPI) :
    ∃ kpi, (QoECollector.after 1 (fun _ ↦ 0) (losingCalls count)).getFlowKpi 0 prior = .ok kpi ∧
      kpi.lossPercent.toNat = 100 * count % 2 ^ 32 / count := by
  have hmetrics : (QoECollector.after 1 (fun _ ↦ 0) (losingCalls count)).flowMetrics[
      (0 : UInt32).toNat]? = some _ :=
    getElem?_after 1 (fun _ ↦ 0) (losingCalls count) (show 0 < 1 by decide)
  have hcounts := counts_run 0 0 (losingCalls count)
  rw [samplesOf_losingCalls] at hcounts
  have hlength : (List.replicate count lostSample).length = count := List.length_replicate
  have hlost := countP_lost_replicate count
  generalize List.replicate count lostSample = samples at hcounts hlength hlost
  subst hlength
  obtain ⟨kpi, hkpi, hpercent⟩ :=
    hcounts.lossPercent hmetrics hcount (List.ne_nil_of_length_pos hpos) prior
  rw [hlost] at hpercent
  exact ⟨kpi, hkpi, hpercent⟩

/-- 42949673 packets, all of them lost, are reported as a loss of zero percent. -/
theorem all_lost_reported_as_none :
    let collector := QoECollector.after 1 (fun _ ↦ 0) (losingCalls 42949673)
    (∃ kpi, collector.getFlowKpi 0 ⟨0, 0, 0, 0, 0, 0⟩ = .ok kpi ∧ kpi.lossPercent.toNat = 0) ∧
      ¬collector.ReportsLoss 0 (samplesOf 0 (losingCalls 42949673)) := by
  obtain ⟨kpi, hkpi, hpercent⟩ := lossPercent_losingCalls (show 0 < 42949673 by decide)
    (by decide) ⟨0, 0, 0, 0, 0, 0⟩
  intro collector
  have hnone : kpi.lossPercent.toNat = 0 := hpercent.trans (by decide)
  refine ⟨⟨kpi, hkpi, hnone⟩, fun hreports ↦ ?_⟩
  obtain ⟨found, hfound, hall⟩ := hreports ⟨0, 0, 0, 0, 0, 0⟩
  rw [hkpi] at hfound
  obtain rfl := Except.ok.inj hfound
  rw [hnone, samplesOf_losingCalls, countP_lost_replicate, List.length_replicate] at hall
  exact absurd hall (by decide)

end VirtualServiceGateway.Analytics
