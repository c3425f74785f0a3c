import VirtualServiceGateway.Analytics.QoeCollector
import VirtualServiceGateway.Foundation.WrappingCounter

/-!
# Flow counters and the samples they count

The counters of a flow's slot are the wrapped totals of the samples recorded for the flow, after
any run. The snapshot of a flow reads them back, except that it divides by the packet count
whenever some latency bucket is not zero: it has no defined result when the packet count has
wrapped to zero under such a bucket.
-/

namespace VirtualServiceGateway.Analytics

open CheckedOperation WrappingCounter

/-- The samples that the calls record for a flow id, oldest first. -/
def samplesOf (flow : ℕ) (calls : List Call) : List TelemetrySample :=
  calls.filterMap fun call ↦
    match call with
    | .recordSample sample _ => if sample.flowId.toNat = flow then some sample else none
    | _ => none

/-- The latency of the sample falls into the bucket: tens of microseconds, the last bucket open. -/
def TelemetrySample.InBucket (bucket : ℕ) (sample : TelemetrySample) : Bool :=
  if bucket < 9 then
    decide (10 * bucket ≤ sample.latencyUs.toNat ∧ sample.latencyUs.toNat < 10 * bucket + 10)
  else decide (90 ≤ sample.latencyUs.toNat)

/-- The slot holds the wrapped totals of the samples. -/
structure FlowMetrics.Counts (metrics : FlowMetrics) (samples : List TelemetrySample) : Prop where
  packets : metrics.packetCount = wrap64 samples.length
  bytes : metrics.byteCount = wrap64 (tally (fun sample ↦ sample.packetSize.toNat) samples)
  losses : metrics.lossCount = wrap32 (samples.countP TelemetrySample.packetLost)
  buckets : ∀ (bucket : ℕ) (h : bucket < 10),
    metrics.latencyBuckets[bucket] = wrap32 (samples.countP (TelemetrySample.InBucket bucket))

/-! ## One sample -/

theorem toNat_bucketOf (latencyUs : UInt32) :
    (FlowMetrics.bucketOf latencyUs).toNat = min 9 (latencyUs.toNat / 10) := by
  unfold FlowMetrics.bucketOf
  rw [toNat_min, UInt32.toNat_div]
  rfl

/-- Every sample falls into exactly the bucket that is incremented for it. -/
theorem bucketOf_eq_iff (sample : TelemetrySample) {bucket : ℕ} (hbucket : bucket < 10) :
    (FlowMetrics.bucketOf sample.latencyUs).toNat = bucket ↔ sample.InBucket bucket := by
  rw [toNat_bucketOf]
  unfold TelemetrySample.InBucket
  by_cases hlast : bucket < 9
  · rw [if_pos hlast, decide_eq_true_iff]
    omega
  · rw [if_neg hlast, decide_eq_true_iff]
    omega

theorem FlowMetrics.fresh_counts (leftover : UInt64) : (fresh leftover).Counts [] where
  packets := rfl
  bytes := rfl
  losses := rfl
  buckets := fun bucket h ↦ by simp [fresh]

/-- A sample adds one to its own bucket. -/
theorem FlowMetrics.latencyBuckets_recordSample (metrics : FlowMetrics) (sample : TelemetrySample)
    (now : UInt64) {bucket : ℕ} (hbucket : bucket < 10) :
    (metrics.recordSample sample now).latencyBuckets[bucket] =
      metrics.latencyBuckets[bucket] + if sample.InBucket bucket then 1 else 0 := by
  have hlt : (bucketOf sample.latencyUs).toNat < 10 := by
    rw [toNat_bucketOf]
    omega
  have hmem := bucketOf_eq_iff sample hbucket
  simp only [FlowMetrics.recordSample, dif_pos hlt, Vector.getElem_set]
  by_cases hsame : (bucketOf sample.latencyUs).toNat = bucket
  · subst hsame
    simp [hmem.mp rfl]
  · have hout : ¬sample.InBucket bucket := hmem.not.mp hsame
    simp [hsame, hout]

/-- Recording a sample extends the counted history by it. -/
theorem FlowMetrics.Counts.recordSample {metrics : FlowMetrics} {samples : List TelemetrySample}
    (hcounts : metrics.Counts samples) (sample : TelemetrySample) (now : UInt64) :
    (metrics.recordSample sample now).Counts (samples ++ [sample]) where
  packets := by
    rw [List.length_append, map_add, ← hcounts.packets]
    rfl
  bytes := by
    rw [tally_append, map_add, ← hcounts.bytes, tally_cons, tally_nil, Nat.add_zero,
      wrap64_toUInt64]
    rfl
  losses := by
    rw [List.countP_append, map_add, ← hcounts.losses]
    cases hlost : sample.packetLost <;> simp [FlowMetrics.recordSample, hlost]
  buckets := by
    intro bucket hbucket
    rw [latencyBuckets_recordSample, List.countP_append, map_add, ← hcounts.buckets bucket hbucket]
    cases hmem : sample.InBucket bucket <;> simp [hmem]

theorem FlowMetrics.Counts.flush {metrics : FlowMetrics} {samples : List TelemetrySample}
    (hcounts : metrics.Counts samples) (maxIdleNs now : UInt64) :
    (metrics.flush maxIdleNs now).Counts samples := by
  unfold FlowMetrics.flush
  split
  case isTrue => exact ⟨hcounts.packets, hcounts.bytes, hcounts.losses, hcounts.buckets⟩
  case isFalse => exact hcounts

theorem FlowMetrics.Counts.toNat_packetCount {metrics : FlowMetrics}
    {samples : List TelemetrySample} (hcounts : metrics.Counts samples)
    (hlength : samples.length < 2 ^ 64) : metrics.packetCount.toNat = samples.length := by
  rw [hcounts.packets, toNat_wrap64, Nat.mod_eq_of_lt hlength]

/-- A slot has no more losses than samples, wrapped or not. -/
theorem FlowMetrics.Counts.toNat_lossCount_le {metrics : FlowMetrics}
    {samples : List TelemetrySample} (hcounts : metrics.Counts samples) :
    metrics.lossCount.toNat ≤ samples.length := by
  rw [hcounts.losses, toNat_wrap32]
  calc
    samples.countP TelemetrySample.packetLost % 2 ^ 32 ≤
        samples.countP TelemetrySample.packetLost := Nat.mod_le _ _
    _ ≤ samples.length := List.countP_le_length

/-! ## One slot at a time -/

/-- The table has a slot for exactly the flow ids below its maximum. -/
theorem toNat_lt_length_iff {collector : QoECollector} {flowId : UInt32} :
    flowId.toNat < collector.flowMetrics.length ↔ flowId < collector.maxFlows := by
  rw [collector.size_eq, UInt32.lt_iff_toNat_lt]

/-- What a call does to the slot of a flow id. -/
def FlowMetrics.step (flow : ℕ) (metrics : FlowMetrics) : Call → FlowMetrics
  | .recordSample sample now =>
      if sample.flowId.toNat = flow then metrics.recordSample sample now else metrics
  | .flushExpiredFlows maxIdleNs now => metrics.flush maxIdleNs now
  | _ => metrics

/-- A call changes each slot by itself, whatever the other slots hold. -/
theorem getElem?_step (collector : QoECollector) (call : Call) (flow : ℕ) :
    (collector.step call).flowMetrics[flow]? =
      collector.flowMetrics[flow]?.map (FlowMetrics.step flow · call) := by
  cases call with
  | recordSample sample now =>
    simp only [QoECollector.step, QoECollector.recordSample, FlowMetrics.step]
    by_cases hsame : sample.flowId.toNat = flow
    · by_cases hout : collector.maxFlows ≤ sample.flowId
      · have hlength := toNat_lt_length_iff.not.mpr (UInt32.not_lt.mpr hout)
        rw [if_pos hout, List.getElem?_eq_none (by omega)]
        rfl
      · simp [hout, hsame]
    · by_cases hout : collector.maxFlows ≤ sample.flowId <;> simp [hout, hsame]
  | flushExpiredFlows maxIdleNs now => exact List.getElem?_map ..
  | _ => simp only [QoECollector.step, FlowMetrics.step, Option.map_id']

/-- After any run, the slot of a flow id is the run of that slot alone. -/
theorem getElem?_after (maxFlows : UInt32) (leftover : ℕ → UInt64) (calls : List Call)
    {flow : ℕ} (hflow : flow < maxFlows.toNat) :
    (QoECollector.after maxFlows leftover calls).flowMetrics[flow]? =
      some (Execution.run (FlowMetrics.step flow) (.fresh (leftover flow)) calls) := by
  have hstart : (QoECollector.create maxFlows leftover).flowMetrics[flow]? =
      some (.fresh (leftover flow)) := by
    unfold QoECollector.create
    rw [List.getElem?_map, List.getElem?_range hflow]
    rfl
  calc
    _ = Execution.run (fun slot call ↦ slot.map (FlowMetrics.step flow · call))
          ((QoECollector.create maxFlows leftover).flowMetrics[flow]?) calls :=
      Execution.run_observed (fun collector : QoECollector ↦ collector.flowMetrics[flow]?)
        (fun collector call ↦ getElem?_step collector call flow) _ calls
    _ = _ := by
      rw [hstart]
      exact (Execution.run_observed some (fun _ _ ↦ rfl) _ calls).symm

theorem samplesOf_concat (flow : ℕ) (calls : List Call) (call : Call) :
    samplesOf flow (calls ++ [call]) = samplesOf flow calls ++ samplesOf flow [call] := by
  unfold samplesOf
  exact List.filterMap_append

/-- One call extends the counted history by the samples it records for the flow. -/
theorem FlowMetrics.Counts.step {metrics : FlowMetrics} {samples : List TelemetrySample}
    (hcounts : metrics.Counts samples) (flow : ℕ) (call : Call) :
    (metrics.step flow call).Counts (samples ++ samplesOf flow [call]) := by
  cases call with
  | recordSample sample now =>
    by_cases hsame : sample.flowId.toNat = flow
    · simpa [FlowMetrics.step, samplesOf, hsame] using hcounts.recordSample sample now
    · simpa [FlowMetrics.step, samplesOf, hsame] using hcounts
  | flushExpiredFlows maxIdleNs now =>
    simpa [FlowMetrics.step, samplesOf] using hcounts.flush maxIdleNs now
  | _ => simpa [FlowMetrics.step, samplesOf] using hcounts

/-- **Counting.** After any run a slot holds the wrapped totals of its own flow's samples. -/
theorem counts_run (flow : ℕ) (leftover : UInt64) (calls : List Call) :
    (Execution.run (FlowMetrics.step flow) (.fresh leftover) calls).Counts
      (samplesOf flow calls) := by
  induction calls using List.reverseRecOn with
  | nil => exact FlowMetrics.fresh_counts leftover
  | append_singleton calls call ih =>
    rw [Execution.run_concat, samplesOf_concat]
    exact ih.step flow call

@[simp]
theorem maxFlows_step (collector : QoECollector) (call : Call) :
    (collector.step call).maxFlows = collector.maxFlows := by
  cases call with
  | recordSample sample now =>
    simp only [QoECollector.step, QoECollector.recordSample]
    split <;> rfl
  | _ => rfl

theorem maxFlows_after (maxFlows : UInt32) (leftover : ℕ → UInt64) (calls : List Call) :
    (QoECollector.after maxFlows leftover calls).maxFlows = maxFlows :=
  Execution.run_invariant (fun collector : QoECollector ↦ collector.maxFlows = maxFlows) rfl
    (fun collector call h ↦ by rw [maxFlows_step, h]) calls

/-! ## Reading a flow -/

/-- The slot can be read: its packet count is zero under empty latency buckets only. -/
def FlowMetrics.Readable (metrics : FlowMetrics) : Prop :=
  metrics.packetCount = 0 → ∀ (bucket : ℕ) (h : bucket < 10), metrics.latencyBuckets[bucket] = 0

/-- Ten 32-bit buckets never wrap their 64-bit sum. -/
theorem totalSamples_eq_zero_iff (metrics : FlowMetrics) :
    metrics.totalSamples = 0 ↔
      ∀ (bucket : ℕ) (h : bucket < 10), metrics.latencyBuckets[bucket] = 0 := by
  have htotal : metrics.totalSamples =
      wrap64 (tally UInt32.toNat metrics.latencyBuckets.toList) := by
    have hfold := foldl_add_wrap wrap64 UInt32.toNat 0 metrics.latencyBuckets.toList
    rw [zero_add] at hfold
    rw [← hfold]
    simp only [FlowMetrics.totalSamples, wrap64_toUInt64]
  have hbound : tally UInt32.toNat metrics.latencyBuckets.toList ≤ 10 * 2 ^ 32 := by
    have hle : tally UInt32.toNat metrics.latencyBuckets.toList ≤
        metrics.latencyBuckets.toList.length * 2 ^ 32 :=
      tally_le_length_mul fun bucket _ ↦ bucket.toNat_lt.le
    rwa [Vector.length_toList] at hle
  rw [htotal, wrap64_eq_zero_iff, Nat.mod_eq_of_lt (by omega), tally_eq_zero_iff]
  constructor
  · intro h bucket hbucket
    have hmem : metrics.latencyBuckets[bucket] ∈ metrics.latencyBuckets.toList := by simp
    exact UInt32.toNat.inj (h _ hmem)
  · intro h count hcount
    obtain ⟨bucket, hbucket, rfl⟩ := Vector.mem_iff_getElem.mp (Vector.mem_toList_iff.mp hcount)
    rw [h bucket hbucket]
    rfl

/-- What a defined snapshot assigns: the flow id, and for a flow in the table its packets and bytes
and possibly a percentage. -/
theorem getFlowKpi_eq_ok {collector : QoECollector} {flowId : UInt32} {prior kpi : FlowKPI}
    (h : collector.getFlowKpi flowId prior = .ok kpi) :
    (collector.flowMetrics[flowId.toNat]? = none ∧ kpi = { prior with flowId := flowId }) ∨
    ∃ metrics lossPercent, collector.flowMetrics[flowId.toNat]? = some metrics ∧
      kpi = { prior with
        flowId := flowId
        packetCount := metrics.packetCount
        byteCount := metrics.byteCount
        lossPercent := lossPercent } := by
  cases hmetrics : collector.flowMetrics[flowId.toNat]? with
  | none =>
    simp only [QoECollector.getFlowKpi, hmetrics] at h
    exact Or.inl ⟨rfl, (Except.ok.inj h).symm⟩
  | some metrics =>
    simp only [QoECollector.getFlowKpi, hmetrics] at h
    split at h
    case isTrue =>
      cases hpercent : divide (metrics.lossCount * 100).toUInt64 metrics.packetCount with
      | error fault =>
        rw [hpercent] at h
        cases h
      | ok percent =>
        rw [hpercent] at h
        exact Or.inr ⟨metrics, percent.toUInt32, rfl, (Except.ok.inj h).symm⟩
    case isFalse =>
      exact Or.inr ⟨metrics, prior.lossPercent, rfl, (Except.ok.inj h).symm⟩

/-- A readable slot has a defined snapshot, with the slot's packets and bytes. -/
theorem getFlowKpi_of_readable {collector : QoECollector} {flowId : UInt32}
    {metrics : FlowMetrics} (hmetrics : collector.flowMetrics[flowId.toNat]? = some metrics)
    (hreadable : metrics.Readable) (prior : FlowKPI) :
    ∃ kpi, collector.getFlowKpi flowId prior = .ok kpi ∧ kpi.flowId = flowId ∧
      kpi.packetCount = metrics.packetCount ∧ kpi.byteCount = metrics.byteCount := by
  have hempty := totalSamples_eq_zero_iff metrics
  simp only [QoECollector.getFlowKpi, hmetrics]
  by_cases htotal : 0 < metrics.totalSamples
  · have hpackets : metrics.packetCount ≠ 0 := by
      intro hzero
      rw [hempty.mpr (hreadable hzero)] at htotal
      exact absurd htotal (by decide)
    rw [if_pos htotal, divide_of_ne_zero _ hpackets]
    exact ⟨_, rfl, rfl, rfl, rfl⟩
  · rw [if_neg htotal]
    exact ⟨_, rfl, rfl, rfl, rfl⟩

/-- The snapshot of a slot that is not readable divides by zero. -/
theorem getFlowKpi_of_not_readable {collector : QoECollector} {flowId : UInt32}
    {metrics : FlowMetrics} (hmetrics : collector.flowMetrics[flowId.toNat]? = some metrics)
    (hreadable : ¬metrics.Readable) (prior : FlowKPI) :
    collector.getFlowKpi flowId prior = .error .divideByZero := by
  unfold FlowMetrics.Readable at hreadable
  rw [← totalSamples_eq_zero_iff, Classical.not_imp] at hreadable
  have htotal : 0 < metrics.totalSamples := UInt64.pos_iff_ne_zero.mpr hreadable.2
  simp only [QoECollector.getFlowKpi, hmetrics, if_pos htotal, divide, hreadable.1, if_true]
  rfl

/-- The collector reports the samples as the samples of the flow: the snapshot is defined and has
their number and bytes, and the slot has their losses and latencies. -/
structure QoECollector.Reports (collector : QoECollector) (flowId : UInt32)
    (samples : List TelemetrySample) : Prop where
  kpi : ∀ prior, ∃ kpi, collector.getFlowKpi flowId prior = .ok kpi ∧
    kpi.packetCount.toNat = samples.length % 2 ^ 64 ∧
    kpi.byteCount.toNat = tally (fun sample ↦ sample.packetSize.toNat) samples % 2 ^ 64
  slot : ∃ metrics, collector.flowMetrics[flowId.toNat]? = some metrics ∧
    metrics.lossCount.toNat = samples.countP TelemetrySample.packetLost % 2 ^ 32 ∧
    ∀ (bucket : ℕ) (h : bucket < 10), metrics.latencyBuckets[bucket].toNat =
      samples.countP (TelemetrySample.InBucket bucket) % 2 ^ 32

/-- A slot that counts the samples can be read unless their number wraps to zero under a bucket that
does not. -/
theorem FlowMetrics.Counts.readable_iff {metrics : FlowMetrics} {samples : List TelemetrySample}
    (hcounts : metrics.Counts samples) :
    metrics.Readable ↔ (samples.length % 2 ^ 64 = 0 → ∀ bucket, bucket < 10 →
      samples.countP (TelemetrySample.InBucket bucket) % 2 ^ 32 = 0) := by
  unfold FlowMetrics.Readable
  rw [hcounts.packets, wrap64_eq_zero_iff]
  apply imp_congr_right
  intro _
  apply forall₂_congr
  intro bucket hbucket
  rw [hcounts.buckets bucket hbucket, ← UInt32.toNat_inj, toNat_wrap32]
  rfl

/-- A slot that counts the samples reports them exactly when it can be read. -/
theorem FlowMetrics.Counts.reports_iff {collector : QoECollector} {flowId : UInt32}
    {metrics : FlowMetrics} (hmetrics : collector.flowMetrics[flowId.toNat]? = some metrics)
    {samples : List TelemetrySample} (hcounts : metrics.Counts samples) :
    collector.Reports flowId samples ↔ metrics.Readable := by
  constructor
  · intro hreports
    by_contra hnot
    obtain ⟨kpi, hkpi, -⟩ := hreports.kpi ⟨0, 0, 0, 0, 0, 0⟩
    rw [getFlowKpi_of_not_readable hmetrics hnot] at hkpi
    cases hkpi
  · intro hreadable
    refine ⟨fun prior ↦ ?_, metrics, hmetrics, ?_, fun bucket hbucket ↦ ?_⟩
    · obtain ⟨kpi, hkpi, -, hpackets, hbytes⟩ := getFlowKpi_of_readable hmetrics hreadable prior
      refine ⟨kpi, hkpi, ?_, ?_⟩
      · rw [hpackets, hcounts.packets, toNat_wrap64]
      · rw [hbytes, hcounts.bytes, toNat_wrap64]
    · rw [hcounts.losses, toNat_wrap32]
    · rw [hcounts.buckets bucket hbucket, toNat_wrap32]

/-- A sample outside the table changes nothing. -/
theorem recordSample_of_out {collector : QoECollector} {sample : TelemetrySample}
    (hout : collector.maxFlows ≤ sample.flowId) (now : UInt64) :
    collector.recordSample sample now = collector := if_pos hout

/-- **Exact reading condition.** After any run, a flow's samples are reported if and only if their
number is not a multiple of `2 ^ 64` that leaves a latency bucket other than zero. A sample outside
the table changes nothing. -/
theorem reports_after_iff (maxFlows : UInt32) (leftover : ℕ → UInt64) (calls : List Call)
    (flowId : UInt32) (hflow : flowId < maxFlows) :
    ((QoECollector.after maxFlows leftover calls).Reports flowId (samplesOf flowId.toNat calls) ↔
      ((samplesOf flowId.toNat calls).length % 2 ^ 64 = 0 → ∀ bucket, bucket < 10 →
        (samplesOf flowId.toNat calls).countP (TelemetrySample.InBucket bucket) % 2 ^ 32 = 0)) ∧
    ∀ (sample : TelemetrySample) (now : UInt64), maxFlows ≤ sample.flowId →
      (QoECollector.after maxFlows leftover calls).recordSample sample now =
        QoECollector.after maxFlows leftover calls := by
  have hmetrics := getElem?_after maxFlows leftover calls (UInt32.lt_iff_toNat_lt.mp hflow)
  have hcounts := counts_run flowId.toNat (leftover flowId.toNat) calls
  refine ⟨(hcounts.reports_iff hmetrics).trans hcounts.readable_iff, fun sample now hout ↦ ?_⟩
  apply recordSample_of_out
  rwa [maxFlows_after]

/-- A sample of flow 0 with the given latency. -/
def sampleWithLatency (latencyUs : UInt32) : TelemetrySample := ⟨0, 1, 1, 100, latencyUs, false, 0⟩

/-- One recorded sample is reported. -/
theorem reports_after_one :
    (QoECollector.after 1 (fun _ ↦ 0) [.recordSample (sampleWithLatency 5) 7]).Reports 0
      (samplesOf (0 : UInt32).toNat [.recordSample (sampleWithLatency 5) 7]) :=
  (reports_after_iff 1 (fun _ ↦ 0) [.recordSample (sampleWithLatency 5) 7] 0 (by decide)).1.mpr
    fun h ↦ absurd h (by decide)

/-- The calls that fill a flow's packet count: all samples but the last fall into bucket 0. -/
def fillingCalls (count : ℕ) : List Call :=
  List.replicate count (.recordSample (sampleWithLatency 0) 0) ++
    [.recordSample (sampleWithLatency 10) 0]

theorem samplesOf_fillingCalls (count : ℕ) :
    samplesOf 0 (fillingCalls count) =
      List.replicate count (sampleWithLatency 0) ++ [sampleWithLatency 10] := by
  unfold samplesOf fillingCalls
  rw [List.filterMap_append, List.filterMap_replicate]
  rfl

/-- Once the packet count wraps to zero, the one sample in bucket 1 makes the snapshot divide by
it. -/
theorem getFlowKpi_fillingCalls {count : ℕ} (hcount : count + 1 = 2 ^ 64) (prior : FlowKPI) :
    (QoECollector.after 1 (fun _ ↦ 0) (fillingCalls count)).getFlowKpi 0 prior =
      .error .divideByZero := by
  have hmetrics := getElem?_after 1 (fun _ ↦ 0) (fillingCalls count) (show 0 < 1 by decide)
  have hcounts := counts_run 0 0 (fillingCalls count)
  rw [samplesOf_fillingCalls] at hcounts
  apply getFlowKpi_of_not_readable hmetrics
  intro hreadable
  generalize Execution.run _ _ (fillingCalls count) = metrics at hcounts hreadable
  have hpackets : metrics.packetCount = 0 := by
    rw [hcounts.packets, wrap64_eq_zero_iff, List.length_append, List.length_replicate,
      List.length_singleton, hcount, Nat.mod_self]
  have hbucket := hreadable hpackets 1 (by decide)
  have hfirst : ¬(sampleWithLatency 0).InBucket 1 := by decide
  have hlast : (sampleWithLatency 10).InBucket 1 := by decide
  rw [hcounts.buckets 1 (by decide), List.countP_append, List.countP_replicate, if_neg hfirst,
    List.countP_singleton, if_pos hlast] at hbucket
  exact absurd hbucket (by decide)

/-- After `2 ^ 64` samples the snapshot of the flow has no defined result, and so the samples are
not reported. -/
theorem flow_kpi_undefined_at_wrap :
    (QoECollector.after 1 (fun _ ↦ 0) (fillingCalls (2 ^ 64 - 1))).getFlowKpi 0
      ⟨0, 0, 0, 0, 0, 0⟩ = .error .divideByZero ∧
    ¬(QoECollector.after 1 (fun _ ↦ 0) (fillingCalls (2 ^ 64 - 1))).Reports 0
      (samplesOf 0 (fillingCalls (2 ^ 64 - 1))) := by
  have hcount : 2 ^ 64 - 1 + 1 = 2 ^ 64 := by decide
  generalize 2 ^ 64 - 1 = count at hcount ⊢
  refine ⟨getFlowKpi_fillingCalls hcount _, fun hreports ↦ ?_⟩
  obtain ⟨kpi, hkpi, -⟩ := hreports.kpi ⟨0, 0, 0, 0, 0, 0⟩
  rw [getFlowKpi_fillingCalls hcount] at hkpi
  cases hkpi

end VirtualServiceGateway.Analytics
