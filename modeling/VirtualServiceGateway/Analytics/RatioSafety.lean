import VirtualServiceGateway.Analytics.ServiceTotals

/-!
# Ratios of wrapped counters

A slot that counts fewer than `2 ^ 64` samples has a packet count that is their number, and losses
and latency buckets that have at most lost rounds of `2 ^ 32`. So neither the losses nor the sum of
the buckets exceeds the packets, no query divides by zero, and a percentage of wrapped products is
still at most 100.
-/

namespace VirtualServiceGateway.Analytics

open CheckedOperation WrappingCounter

/-- The call records a sample for the flow id. -/
def Call.recordsFor (flow : ℕ) : Call → Bool
  | .recordSample sample _ => sample.flowId.toNat = flow
  | _ => false

/-- The number of `recordSample` calls. -/
def recordings (calls : List Call) : ℕ :=
  calls.countP fun call ↦
    match call with
    | .recordSample _ _ => true
    | _ => false

/-- Losses and latencies are those of counted packets. -/
structure FlowMetrics.BoundedByPackets (metrics : FlowMetrics) : Prop where
  losses : metrics.lossCount.toNat ≤ metrics.packetCount.toNat
  latencies : tally UInt32.toNat metrics.latencyBuckets.toList ≤ metrics.packetCount.toNat

/-- The service query with its division checked. -/
def QoECollector.getServiceKpiChecked (collector : QoECollector) (serviceId : UInt16)
    (windowNs now : UInt64) (prior : ServiceKPI) : Except Fault ServiceKPI :=
  let start : ServiceKPI :=
    { prior with serviceId := serviceId, windowStartNs := now - windowNs, windowEndNs := now }
  let (kpi, totalLoss, totalPackets) := collector.flowMetrics.foldl addToService (start, 0, 0)
  if 0 < totalPackets then do
    let percent ← divide (totalLoss * 100) totalPackets
    pure { kpi with avgLossPercent := percent.toUInt32 }
  else pure kpi

/-! ## Samples of each flow and samples of all -/

theorem length_samplesOf (flow : ℕ) (calls : List Call) :
    (samplesOf flow calls).length = calls.countP (Call.recordsFor flow) := by
  unfold samplesOf
  rw [List.length_filterMap_eq_countP]
  apply List.countP_congr
  intro call _
  cases call with
  | recordSample sample now =>
    simp only [Call.recordsFor]
    split <;> simp [*]
  | _ => rfl

/-- At most one number of a range is a given one. -/
theorem countP_range_eq_le_one (count number : ℕ) :
    ((List.range count).countP fun other ↦ decide (number = other)) ≤ 1 := by
  calc
    ((List.range count).countP fun other ↦ decide (number = other)) =
        (List.range count).count number := by
      apply List.countP_congr
      intro other _
      rw [decide_eq_true_iff, beq_iff_eq, eq_comm]
    _ ≤ 1 := List.nodup_iff_count_le_one.mp List.nodup_range number

/-- The samples of different flows are different samples. -/
theorem tally_length_samplesOf_le (flows : ℕ) (calls : List Call) :
    tally (fun flow ↦ (samplesOf flow calls).length) (List.range flows) ≤ recordings calls := by
  simp only [length_samplesOf]
  unfold recordings
  rw [tally_countP_comm, countP_eq_tally]
  apply tally_mono
  intro call _
  cases call with
  | recordSample sample now => exact countP_range_eq_le_one flows sample.flowId.toNat
  | _ => exact (List.countP_eq_zero.mpr fun _ _ ↦ Bool.false_ne_true).le

theorem length_samplesOf_le (flow : ℕ) (calls : List Call) :
    (samplesOf flow calls).length ≤ recordings calls := by
  rw [length_samplesOf]
  apply List.countP_mono_left
  intro call _ hrecords
  cases call with
  | recordSample sample now => rfl
  | _ => cases hrecords

/-- The table after a run, slot by slot. -/
theorem flowMetrics_after (maxFlows : UInt32) (leftover : ℕ → UInt64) (calls : List Call) :
    (QoECollector.after maxFlows leftover calls).flowMetrics =
      (List.range maxFlows.toNat).map fun flow ↦
        Execution.run (FlowMetrics.step flow) (.fresh (leftover flow)) calls := by
  have hmax := maxFlows_after maxFlows leftover calls
  have hlength := (QoECollector.after maxFlows leftover calls).size_eq
  rw [hmax] at hlength
  apply List.ext_getElem?
  intro flow
  by_cases hflow : flow < maxFlows.toNat
  · rw [getElem?_after maxFlows leftover calls hflow, List.getElem?_map, List.getElem?_range hflow]
    rfl
  · rw [List.getElem?_eq_none (by omega), List.getElem?_eq_none (by simpa using hflow)]

/-- Every slot of the table counts its own flow's samples. -/
theorem exists_counts_of_mem {maxFlows : UInt32} {leftover : ℕ → UInt64} {calls : List Call}
    {metrics : FlowMetrics}
    (hmetrics : metrics ∈ (QoECollector.after maxFlows leftover calls).flowMetrics) :
    ∃ flow, metrics.Counts (samplesOf flow calls) := by
  rw [flowMetrics_after] at hmetrics
  obtain ⟨flow, -, rfl⟩ := List.mem_map.mp hmetrics
  exact ⟨flow, counts_run flow (leftover flow) calls⟩

/-! ## One slot -/

/-- Every sample falls into at most one bucket. -/
theorem countP_buckets_le_one (sample : TelemetrySample) :
    ((List.range 10).countP fun bucket ↦ sample.InBucket bucket) ≤ 1 := by
  calc
    ((List.range 10).countP fun bucket ↦ sample.InBucket bucket) =
        (List.range 10).countP fun bucket ↦
          decide ((FlowMetrics.bucketOf sample.latencyUs).toNat = bucket) := by
      apply List.countP_congr
      intro bucket hbucket
      rw [decide_eq_true_iff, bucketOf_eq_iff sample (List.mem_range.mp hbucket)]
    _ ≤ 1 := countP_range_eq_le_one 10 _

/-- The buckets of a slot, as the wrapped numbers of their samples. -/
theorem FlowMetrics.Counts.toList_latencyBuckets {metrics : FlowMetrics}
    {samples : List TelemetrySample} (hcounts : metrics.Counts samples) :
    metrics.latencyBuckets.toList =
      (List.range 10).map fun bucket ↦
        wrap32 (samples.countP (TelemetrySample.InBucket bucket)) := by
  apply List.ext_getElem
  · simp
  · intro bucket hleft hright
    rw [List.getElem_map, List.getElem_range, Vector.getElem_toList]
    exact hcounts.buckets bucket (by simpa using hleft)

/-- **Within the packets.** A slot that counts fewer than `2 ^ 64` samples has no more losses, and
no more latencies, than packets. -/
theorem FlowMetrics.Counts.boundedByPackets {metrics : FlowMetrics} {samples : List TelemetrySample}
    (hcounts : metrics.Counts samples) (hlength : samples.length < 2 ^ 64) :
    metrics.BoundedByPackets where
  losses := by
    rw [hcounts.toNat_packetCount hlength]
    exact hcounts.toNat_lossCount_le
  latencies := by
    rw [hcounts.toNat_packetCount hlength, hcounts.toList_latencyBuckets]
    calc
      tally UInt32.toNat ((List.range 10).map fun bucket ↦
          wrap32 (samples.countP (TelemetrySample.InBucket bucket))) =
          tally (fun bucket ↦
            (wrap32 (samples.countP (TelemetrySample.InBucket bucket))).toNat) (List.range 10) := by
        unfold tally
        rw [List.map_map]
        rfl
      _ ≤ tally (fun bucket ↦ samples.countP (TelemetrySample.InBucket bucket))
            (List.range 10) := by
        apply tally_mono
        intro bucket _
        rw [toNat_wrap32]
        exact Nat.mod_le _ _
      _ = tally (fun sample ↦ (List.range 10).countP fun bucket ↦ sample.InBucket bucket)
            samples :=
        tally_countP_comm TelemetrySample.InBucket (List.range 10) samples
      _ ≤ samples.length * 1 := tally_le_length_mul fun sample _ ↦ countP_buckets_le_one sample
      _ = samples.length := Nat.mul_one _

/-- Where some bucket is not empty there are packets. -/
theorem FlowMetrics.BoundedByPackets.packetCount_ne_zero {metrics : FlowMetrics}
    (hbounded : metrics.BoundedByPackets) (hsamples : 0 < metrics.totalSamples) :
    metrics.packetCount ≠ 0 := by
  intro hzero
  have hnone : tally UInt32.toNat metrics.latencyBuckets.toList = 0 := by
    have hle := hbounded.latencies
    rw [hzero] at hle
    exact Nat.le_zero.mp hle
  have hempty : metrics.totalSamples = 0 := by
    rw [totalSamples_eq_zero_iff]
    intro bucket hbucket
    exact UInt32.toNat.inj ((tally_eq_zero_iff _ _).mp hnone _ (by simp))
  rw [hempty] at hsamples
  exact absurd hsamples (by decide)

/-- The percentage of a slot with samples: a quotient of a 32-bit product, cut to 32 bits. -/
theorem getFlowKpi_of_samples {collector : QoECollector} {flowId : UInt32} {metrics : FlowMetrics}
    (hmetrics : collector.flowMetrics[flowId.toNat]? = some metrics)
    (hsamples : 0 < metrics.totalSamples) (hpackets : metrics.packetCount ≠ 0) (prior : FlowKPI) :
    ∃ kpi, collector.getFlowKpi flowId prior = .ok kpi ∧
      kpi.lossPercent.toNat =
        metrics.lossCount.toNat * 100 % 2 ^ 32 / metrics.packetCount.toNat % 2 ^ 32 := by
  simp only [QoECollector.getFlowKpi, hmetrics, if_pos hsamples, divide_of_ne_zero _ hpackets]
  refine ⟨_, rfl, ?_⟩
  rw [UInt64.toNat_toUInt32, UInt64.toNat_div, UInt32.toNat_toUInt64, UInt32.toNat_mul]
  rfl

/-- A snapshot of a bounded slot is defined, and a percentage that it computes is at most 100. -/
theorem FlowMetrics.BoundedByPackets.getFlowKpi {collector : QoECollector} {flowId : UInt32}
    {metrics : FlowMetrics} (hbounded : metrics.BoundedByPackets)
    (hmetrics : collector.flowMetrics[flowId.toNat]? = some metrics) (prior : FlowKPI) :
    ∃ kpi, collector.getFlowKpi flowId prior = .ok kpi ∧
      (0 < metrics.totalSamples → kpi.lossPercent ≤ 100) := by
  by_cases hsamples : 0 < metrics.totalSamples
  · obtain ⟨kpi, hkpi, hpercent⟩ := getFlowKpi_of_samples hmetrics hsamples
      (hbounded.packetCount_ne_zero hsamples) prior
    refine ⟨kpi, hkpi, fun _ ↦ ?_⟩
    rw [UInt32.le_iff_toNat_le, hpercent]
    exact (Nat.mod_le _ _).trans (scaled_share_le hbounded.losses 100 _)
  · simp only [QoECollector.getFlowKpi, hmetrics, if_neg hsamples]
    exact ⟨_, rfl, fun h ↦ absurd h hsamples⟩

/-! ## All slots -/

/-- The guard of the service query is that its divisor is not zero. -/
theorem getServiceKpiChecked_eq (collector : QoECollector) (serviceId : UInt16)
    (windowNs now : UInt64) (prior : ServiceKPI) :
    collector.getServiceKpiChecked serviceId windowNs now prior =
      .ok (collector.getServiceKpi serviceId windowNs now prior) := by
  simp only [QoECollector.getServiceKpiChecked, QoECollector.getServiceKpi]
  split
  case isTrue hpackets =>
    rw [divide_of_ne_zero _ (UInt64.pos_iff_ne_zero.mp hpackets)]
    rfl
  case isFalse => rfl

/-- Slots with no more losses than packets have a percentage of at most 100. -/
theorem percentOf_le {losses packets : ℕ} (hlosses : losses ≤ packets)
    (hpackets : packets < 2 ^ 64) (hsome : packets ≠ 0) (leftover : UInt32) :
    percentOf leftover losses packets ≤ 100 := by
  have hset : packets % 2 ^ 64 ≠ 0 := by
    rwa [Nat.mod_eq_of_lt hpackets]
  rw [UInt32.le_iff_toNat_le, toNat_percentOf hset, Nat.mod_eq_of_lt hpackets, Nat.mul_comm]
  exact (Nat.mod_le _ _).trans (scaled_share_le hlosses 100 _)

/-- All slots together count no more packets than were recorded. -/
theorem slotPackets_after_le (maxFlows : UInt32) (leftover : ℕ → UInt64) (calls : List Call) :
    slotPackets (QoECollector.after maxFlows leftover calls).flowMetrics ≤ recordings calls := by
  rw [flowMetrics_after]
  calc
    slotPackets ((List.range maxFlows.toNat).map fun flow ↦
        Execution.run (FlowMetrics.step flow) (.fresh (leftover flow)) calls) =
        tally (fun flow ↦ (Execution.run (FlowMetrics.step flow) (.fresh (leftover flow))
          calls).packetCount.toNat) (List.range maxFlows.toNat) := by
      unfold slotPackets tally
      rw [List.map_map]
      rfl
    _ ≤ tally (fun flow ↦ (samplesOf flow calls).length) (List.range maxFlows.toNat) := by
      apply tally_mono
      intro flow _
      rw [(counts_run flow (leftover flow) calls).packets, toNat_wrap64]
      exact Nat.mod_le _ _
    _ ≤ recordings calls := tally_length_samplesOf_le maxFlows.toNat calls

section Runs

variable (maxFlows : UInt32) (leftover : ℕ → UInt64) {calls : List Call}

/-- After a run with fewer than `2 ^ 64` recordings every slot is within its packets. -/
theorem boundedByPackets_after (hcalls : recordings calls < 2 ^ 64) {metrics : FlowMetrics}
    (hmetrics : metrics ∈ (QoECollector.after maxFlows leftover calls).flowMetrics) :
    metrics.BoundedByPackets := by
  obtain ⟨flow, hcounts⟩ := exists_counts_of_mem hmetrics
  exact hcounts.boundedByPackets ((length_samplesOf_le flow calls).trans_lt hcalls)

/-- So the percentage of a service query with packets in its window is at most 100. -/
theorem avgLossPercent_after_le (hcalls : recordings calls < 2 ^ 64) (serviceId : UInt16)
    (windowNs now : UInt64) (prior : ServiceKPI)
    (hsome : slotPackets ((QoECollector.after maxFlows leftover calls).windowSlots windowNs now) ≠
      0) :
    ((QoECollector.after maxFlows leftover calls).getServiceKpi serviceId windowNs now
      prior).avgLossPercent ≤ 100 := by
  have hslots : ((QoECollector.after maxFlows leftover calls).windowSlots windowNs now).Sublist
      (QoECollector.after maxFlows leftover calls).flowMetrics := List.filter_sublist
  have hlosses := tally_mono fun metrics hmetrics ↦
    (boundedByPackets_after maxFlows leftover hcalls (hslots.subset hmetrics)).losses
  have hpackets := (tally_sublist (fun metrics ↦ metrics.packetCount.toNat) hslots).trans
    (slotPackets_after_le maxFlows leftover calls)
  rw [getServiceKpi_eq]
  exact percentOf_le hlosses (hpackets.trans_lt hcalls) hsome prior.avgLossPercent

end Runs

/-- **Ratio safety.** After any run with fewer than `2 ^ 64` recordings, every slot has no more
losses and no more latencies than packets. So every snapshot of a flow and every service query is
defined, and the percentages that they compute are at most 100. -/
theorem ratios_safe (maxFlows : UInt32) (leftover : ℕ → UInt64) (calls : List Call)
    (hcalls : recordings calls < 2 ^ 64) :
    let collector := QoECollector.after maxFlows leftover calls
    (∀ metrics ∈ collector.flowMetrics, metrics.BoundedByPackets) ∧
    (∀ flowId prior, ∃ kpi, collector.getFlowKpi flowId prior = .ok kpi ∧
      ∀ metrics, collector.flowMetrics[flowId.toNat]? = some metrics →
        0 < metrics.totalSamples → kpi.lossPercent ≤ 100) ∧
    ∀ serviceId windowNs now prior, ∃ kpi,
      collector.getServiceKpiChecked serviceId windowNs now prior = .ok kpi ∧
      kpi = collector.getServiceKpi serviceId windowNs now prior ∧
      (slotPackets (collector.windowSlots windowNs now) ≠ 0 → kpi.avgLossPercent ≤ 100) := by
  intro collector
  refine ⟨fun metrics hmetrics ↦ boundedByPackets_after maxFlows leftover hcalls hmetrics,
    fun flowId prior ↦ ?_, fun serviceId windowNs now prior ↦ ?_⟩
  · cases hmetrics : collector.flowMetrics[flowId.toNat]? with
    | none =>
      simp only [QoECollector.getFlowKpi, hmetrics]
      exact ⟨_, rfl, fun _ h ↦ absurd h (by simp)⟩
    | some metrics =>
      have hbounded := boundedByPackets_after maxFlows leftover hcalls
        (List.mem_of_getElem? hmetrics)
      obtain ⟨kpi, hkpi, hpercent⟩ := hbounded.getFlowKpi hmetrics prior
      refine ⟨kpi, hkpi, fun found hfound ↦ ?_⟩
      obtain rfl := Option.some.inj hfound
      exact hpercent
  · exact ⟨_, getServiceKpiChecked_eq collector serviceId windowNs now prior, rfl,
      avgLossPercent_after_le maxFlows leftover hcalls serviceId windowNs now prior⟩

/-- One lost sample is 100 percent, for its flow and for the service. -/
theorem ratios_safe_one_loss :
    ∃ kpi, (QoECollector.after 1 (fun _ ↦ 0)
        [.recordSample ⟨0, 1, 1, 100, 5, true, 0⟩ 50]).getServiceKpiChecked 20 60 100 .zero =
      .ok kpi ∧ kpi.avgLossPercent ≤ 100 := by
  obtain ⟨kpi, hkpi, -, hpercent⟩ := (ratios_safe 1 (fun _ ↦ 0)
    [.recordSample ⟨0, 1, 1, 100, 5, true, 0⟩ 50] (by decide)).2.2 20 60 100 .zero
  exact ⟨kpi, hkpi, hpercent (by decide +kernel)⟩

end VirtualServiceGateway.Analytics
