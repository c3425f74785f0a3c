import VirtualServiceGateway.Analytics.TelemetrySampling

/-!
# What the sampled telemetry contains and covers

In a table of less than half the index range, the samples are the first active flows among the
multiples of the stride. With all flows active they cover the table only if the cap divides its
size or is at least as large: the stride is rounded down, so the cap ends the loop before the end
of the table otherwise. The loop index runs forward to its end exactly when the cap is not zero and
the index does not wrap.
-/

namespace VirtualServiceGateway.Analytics

open CheckedOperation StridedSampling

namespace QoECollector

/-- The samples are the first active flows among the multiples of the stride, up to the cap. Each
carries its slot's time stamp. -/
structure Samples (collector : QoECollector) (maxSamples : UInt32)
    (samples : List TelemetrySample) : Prop where
  flows : samples.map (fun sample ↦ sample.flowId.toNat) =
    (((List.range collector.maxFlows.toNat).filter
      (max 1 (collector.maxFlows.toNat / maxSamples.toNat) ∣ ·)).filter
        collector.isActive).take maxSamples.toNat
  increasing : (samples.map TelemetrySample.flowId).Pairwise (· < ·)
  distinct : (samples.map TelemetrySample.flowId).Nodup
  stamped : ∀ sample ∈ samples, ∃ metrics,
    collector.flowMetrics[sample.flowId.toNat]? = some metrics ∧ metrics.active ∧
      sample.timestampNs = metrics.lastUpdateNs
  capped : samples.length ≤ maxSamples.toNat
  full : (∀ flow < collector.maxFlows.toNat, collector.isActive flow) →
    samples.length = min collector.maxFlows.toNat maxSamples.toNat

/-- The query is defined, and the index of its loop grows with every test of the loop condition. -/
def RunsForward (collector : QoECollector) (maxSamples : UInt32) : Prop :=
  ∀ prior, ∃ tested samples,
    collector.getAggregatedTelemetry maxSamples prior = .ok samples ∧
    collector.telemetryTrace maxSamples prior = .ok (tested, samples) ∧
    tested.Pairwise (· < ·)

/-! ## The samples of a walk -/

section Sampled

variable {collector : QoECollector} {flow cap : ℕ} (prior : UInt32 → TelemetrySample)

/-- A sampled flow is an active flow of the table. -/
theorem isActive_of_mem_sampled
    (hflow : flow ∈ sampled collector.maxFlows.toNat cap collector.isActive) :
    flow < collector.flowMetrics.length ∧ collector.isActive flow := by
  obtain ⟨hgrid, hactive⟩ := List.mem_filter.mp (List.mem_of_mem_take hflow)
  rw [collector.size_eq]
  exact ⟨(mem_grid.mp hgrid).1, hactive⟩

/-- The sample of a flow of the table carries the number of its slot. -/
theorem toNat_flowId_sampleOf (hflow : flow < collector.flowMetrics.length) :
    (collector.sampleOf prior flow).flowId.toNat = flow :=
  toNat_ofNat_flow hflow

/-- The flow ids of the samples are the sampled flows. -/
theorem flowIds_map_sampleOf :
    ((sampled collector.maxFlows.toNat cap collector.isActive).map
      (collector.sampleOf prior)).map (fun sample ↦ sample.flowId.toNat) =
        sampled collector.maxFlows.toNat cap collector.isActive := by
  rw [List.map_map]
  conv_rhs => rw [← List.map_id (sampled collector.maxFlows.toNat cap collector.isActive)]
  apply List.map_congr_left
  intro flow hflow
  exact toNat_flowId_sampleOf prior (isActive_of_mem_sampled hflow).1

theorem pairwise_flowIds_map_sampleOf :
    (((sampled collector.maxFlows.toNat cap collector.isActive).map
      (collector.sampleOf prior)).map TelemetrySample.flowId).Pairwise (· < ·) := by
  have hsorted := pairwise_sampled collector.maxFlows.toNat cap collector.isActive
  rw [← flowIds_map_sampleOf prior, List.pairwise_map] at hsorted
  rw [List.pairwise_map]
  apply hsorted.imp
  intro first second hlt
  exact UInt32.lt_iff_toNat_lt.mpr hlt

end Sampled

/-! ## Bounded sampling -/

/-- The samples of a walk whose index fits are the ones described. -/
theorem samples_map_sampleOf (collector : QoECollector) (maxSamples : UInt32)
    (prior : UInt32 → TelemetrySample) :
    collector.Samples maxSamples
      ((sampled collector.maxFlows.toNat maxSamples.toNat collector.isActive).map
        (collector.sampleOf prior)) where
  flows := flowIds_map_sampleOf prior
  increasing := pairwise_flowIds_map_sampleOf prior
  distinct := (pairwise_flowIds_map_sampleOf prior).imp UInt32.ne_of_lt
  stamped := by
    intro sample hsample
    obtain ⟨flow, hflow, rfl⟩ := List.mem_map.mp hsample
    obtain ⟨hrange, hactive⟩ := isActive_of_mem_sampled hflow
    obtain ⟨metrics, hmetrics, hmetricsActive⟩ := isActive_iff.mp hactive
    refine ⟨metrics, ?_, hmetricsActive, ?_⟩
    · rw [toNat_flowId_sampleOf prior hrange, hmetrics]
    · simp only [sampleOf, hmetrics, Option.map_some, Option.getD_some]
  capped := by
    rw [List.length_map]
    exact List.length_take_le ..
  full := by
    intro hall
    rw [List.length_map, length_sampled_of_all hall]

/-- **Bounded sampling.** In a table of less than half the index range, a query for at least one
sample returns the first active flows among the multiples of the stride. -/
theorem getAggregatedTelemetry_samples (collector : QoECollector) (maxSamples : UInt32)
    (prior : UInt32 → TelemetrySample) (hflows : collector.maxFlows.toNat < 2 ^ 31)
    (hmax : maxSamples ≠ 0) :
    ∃ samples, collector.getAggregatedTelemetry maxSamples prior = .ok samples ∧
      collector.Samples maxSamples samples :=
  ⟨_, getAggregatedTelemetry_eq collector hmax (indexFits_of_lt hflows maxSamples) prior,
    samples_map_sampleOf collector maxSamples prior⟩

/-- Two samples of a fresh table of five flows. -/
theorem getAggregatedTelemetry_samples_five :
    ∃ samples, (create 5 fun _ ↦ 7).getAggregatedTelemetry 2
        (fun _ ↦ ⟨0, 0, 0, 0, 0, false, 0⟩) = .ok samples ∧
      (create 5 fun _ ↦ 7).Samples 2 samples :=
  getAggregatedTelemetry_samples _ 2 _ (by decide) (by decide)

/-! ## Coverage -/

/-- **Coverage.** When every flow is active, the samples cover the table if and only if the table
is no larger than the cap or the cap divides its size. -/
theorem covers_getAggregatedTelemetry_iff (collector : QoECollector) (maxSamples : UInt32)
    (prior : UInt32 → TelemetrySample) (hmax : maxSamples ≠ 0)
    (hall : ∀ flow < collector.maxFlows.toNat, collector.isActive flow) :
    (∃ samples, collector.getAggregatedTelemetry maxSamples prior = .ok samples ∧
        Covers collector.maxFlows.toNat maxSamples.toNat
          (samples.map fun sample ↦ sample.flowId.toNat)) ↔
      collector.maxFlows ≤ maxSamples ∨ maxSamples.toNat ∣ collector.maxFlows.toNat := by
  have hsamples := getAggregatedTelemetry_eq collector hmax (indexFits_of_all hall maxSamples) prior
  rw [UInt32.le_iff_toNat_le, ← covers_sampled_iff hall, hsamples]
  constructor
  · intro hcovers
    obtain ⟨samples, hresult, hcovers⟩ := hcovers
    rwa [← Except.ok.inj hresult, flowIds_map_sampleOf] at hcovers
  · intro hcovers
    refine ⟨_, rfl, ?_⟩
    rwa [flowIds_map_sampleOf]

/-- Two samples of a fresh table of four flows cover it. -/
theorem covers_getAggregatedTelemetry_four :
    ((∃ samples, (create 4 fun _ ↦ 7).getAggregatedTelemetry 2
          (fun _ ↦ ⟨0, 0, 0, 0, 0, false, 0⟩) = .ok samples ∧
        Covers 4 2 (samples.map fun sample ↦ sample.flowId.toNat)) ↔
      (4 : UInt32) ≤ 2 ∨ 2 ∣ 4) :=
  covers_getAggregatedTelemetry_iff (create 4 fun _ ↦ 7) 2 _ (by decide) (by decide)

/-- Three samples of a fresh table of five flows are those of flows 0, 1 and 2. With a stride of one
they reach up to flow 2 only, so flow 4 is not covered. -/
theorem covers_cut_off :
    (∀ flow < 5, (create 5 fun _ ↦ 7).isActive flow) ∧
    ¬∃ samples, (create 5 fun _ ↦ 7).getAggregatedTelemetry 3
        (fun _ ↦ ⟨0, 0, 0, 0, 0, false, 0⟩) = .ok samples ∧
      Covers 5 3 (samples.map fun sample ↦ sample.flowId.toNat) := by
  have hids : ((create 5 fun _ ↦ 7).getAggregatedTelemetry 3
      (fun _ ↦ ⟨0, 0, 0, 0, 0, false, 0⟩)).map
        (List.map fun sample ↦ sample.flowId.toNat) = .ok [0, 1, 2] := by decide +kernel
  refine ⟨by decide, fun hcovers ↦ ?_⟩
  obtain ⟨samples, hsamples, hcovers⟩ := hcovers
  rw [hsamples] at hids
  rw [Except.ok.inj hids] at hcovers
  obtain ⟨point, hpoint, hreach⟩ := hcovers 4 (by decide)
  revert point
  decide

/-! ## The loop index -/

/-- An index that wraps falls behind the one before it. -/
theorem not_increasing_of_wraps {stride count : ℕ} (hstride : stride < 2 ^ 32)
    (hinside : stride * count < 2 ^ 32) (hwraps : 2 ^ 32 ≤ stride * (count + 1)) :
    ¬UInt32.ofNat (stride * count) < UInt32.ofNat (stride * (count + 1)) := by
  rw [Nat.mul_succ] at hwraps ⊢
  rw [UInt32.lt_iff_toNat_lt, UInt32.toNat_ofNat', UInt32.toNat_ofNat', Nat.mod_eq_of_lt hinside,
    Nat.mod_eq_sub_mod hwraps, Nat.mod_eq_of_lt (by omega)]
  omega

/-- Multiples that fit into the index are increasing as indices. -/
theorem pairwise_map_ofNat {stride count : ℕ} (hstride : 0 < stride)
    (hsmall : ∀ factor < count, stride * factor < 2 ^ 32) :
    ((List.range' 0 count stride).map UInt32.ofNat).Pairwise (· < ·) := by
  have hfits : ∀ position ∈ List.range' 0 count stride, position < 2 ^ 32 := by
    intro position hposition
    obtain ⟨factor, hfactor, rfl⟩ := List.mem_range'.mp hposition
    rw [Nat.zero_add]
    exact hsmall factor hfactor
  rw [List.pairwise_map]
  apply (List.pairwise_lt_range' stride hstride).imp_of_mem
  intro first second hfirst hsecond hlt
  rw [UInt32.lt_iff_toNat_lt, UInt32.toNat_ofNat', UInt32.toNat_ofNat',
    Nat.mod_eq_of_lt (hfits first hfirst), Nat.mod_eq_of_lt (hfits second hsecond)]
  exact hlt

/-- If the index grows throughout, it does not wrap before the cap is reached. -/
theorem indexFits_of_pairwise (collector : QoECollector) {maxSamples : UInt32}
    (hmax : maxSamples ≠ 0) {prior : UInt32 → TelemetrySample} {tested : List UInt32}
    {samples : List TelemetrySample}
    (htrace : collector.telemetryTrace maxSamples prior = .ok (tested, samples))
    (hincreasing : tested.Pairwise (· < ·)) : collector.IndexFits maxSamples := by
  obtain ⟨samplingInterval, hinterval, hstart⟩ := telemetryTrace_of_ne_zero collector hmax prior
  have hstride := strideFor_pos collector.maxFlows.toNat maxSamples.toNat
  have hflows := collector.maxFlows.toNat_lt
  have hpoints := ceilDiv_le_self hstride collector.maxFlows.toNat
  by_contra hwraps
  unfold IndexFits at hwraps
  simp only [grid_eq_range' hstride, ceilDiv_sub hstride, not_or, Nat.not_le, Nat.not_lt] at hwraps
  obtain ⟨hpast, hroom⟩ := hwraps
  have hinside (factor : ℕ) : strideFor collector.maxFlows.toNat maxSamples.toNat * factor <
      collector.maxFlows.toNat ↔ factor < collector.maxFlows.toNat ⌈/⌉
        strideFor collector.maxFlows.toNat maxSamples.toNat :=
    mul_lt_iff_lt_ceilDiv hstride factor
  simp only [← hinterval] at hstride hpoints hpast hroom hinside
  generalize collector.maxFlows.toNat ⌈/⌉ samplingInterval.toNat = points
    at hpoints hpast hroom hinside
  obtain ⟨last, rfl⟩ : ∃ last, points = last + 1 := by
    apply Nat.exists_eq_add_one_of_ne_zero
    intro hnone
    rw [hnone, Nat.mul_zero] at hpast
    exact absurd hpast (by decide)
  rw [Nat.add_sub_cancel] at hroom
  have hbelow : ∀ factor < last + 1,
      (List.range' 0 factor samplingInterval.toNat).countP collector.isActive <
        maxSamples.toNat :=
    fun factor hfactor ↦ (countP_walk_mono (Nat.le_of_lt_succ hfactor)).trans_lt hroom
  have htable : ∀ factor < last + 1,
      samplingInterval.toNat * factor < collector.flowMetrics.length := by
    intro factor hfactor
    rw [collector.size_eq]
    exact (hinside factor).mpr hfactor
  rw [hstart] at htrace
  have hpair := hincreasing.sublist (tested_pair htable hbelow (by omega) htrace)
  have hlast : samplingInterval.toNat * last < 2 ^ 32 :=
    (htable last (Nat.lt_succ_self last)).trans (length_lt collector)
  exact not_increasing_of_wraps samplingInterval.toNat_lt hlast hpast (List.pairwise_pair.mp hpair)

/-- **Termination.** The query is defined and its loop index grows until the loop exits if and only
if the cap is not zero and the index does not wrap. -/
theorem runsForward_iff (collector : QoECollector) (maxSamples : UInt32) :
    collector.RunsForward maxSamples ↔ maxSamples ≠ 0 ∧ collector.IndexFits maxSamples := by
  constructor
  · intro hruns
    obtain ⟨tested, samples, hsamples, htrace, hincreasing⟩ :=
      hruns fun _ ↦ ⟨0, 0, 0, 0, 0, false, 0⟩
    have hmax : maxSamples ≠ 0 := by
      intro hzero
      rw [hzero] at hsamples
      cases hsamples
    exact ⟨hmax, indexFits_of_pairwise collector hmax htrace hincreasing⟩
  · intro hfits prior
    obtain ⟨count, hsmall, htrace⟩ := telemetryTrace_eq collector hfits.1 hfits.2 prior
    exact ⟨_, _, getAggregatedTelemetry_eq collector hfits.1 hfits.2 prior, htrace,
      pairwise_map_ofNat (strideFor_pos ..) hsmall⟩

/-- A query for no samples divides by zero. -/
theorem getAggregatedTelemetry_zero :
    (create 1 fun _ ↦ 7).getAggregatedTelemetry 0 (fun _ ↦ ⟨0, 0, 0, 0, 0, false, 0⟩) =
      .error .divideByZero ∧
    ¬(create 1 fun _ ↦ 7).RunsForward 0 := by
  refine ⟨rfl, fun hruns ↦ ?_⟩
  obtain ⟨tested, samples, hsamples, -⟩ := hruns fun _ ↦ ⟨0, 0, 0, 0, 0, false, 0⟩
  cases hsamples

end QoECollector

end VirtualServiceGateway.Analytics
