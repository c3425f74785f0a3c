import VirtualServiceGateway.Analytics.FlowCounters

/-!
# What the snapshot of a flow leaves unset

The snapshot of a flow never assigns the subscriber and the service, which the table does not keep.
It assigns the packets and bytes of flows in the table only, and the loss percentage only when some
latency bucket is not zero. The rest is what the memory of the result held. So a flow without
samples is reported as zero, and a flow is reported for the subscriber and the service of its
samples, exactly when the memory happened to hold these values.
-/

namespace VirtualServiceGateway.Analytics

open CheckedOperation

/-- The samples of a flow id that are recorded, those inside the table. -/
def recordedSamples (maxFlows flowId : UInt32) (calls : List Call) : List TelemetrySample :=
  (samplesOf flowId.toNat calls).filter fun sample ↦ sample.flowId < maxFlows

/-- All samples carry the subscriber and the service, and there are some. -/
def CarryIdentity (subscriberId : UInt32) (serviceId : UInt16) (samples : List TelemetrySample) :
    Prop :=
  samples ≠ [] ∧
    ∀ sample ∈ samples, sample.subscriberId = subscriberId ∧ sample.serviceId = serviceId

/-- The number of samples does not wrap to zero under a latency bucket that does not. -/
def CountsStay (samples : List TelemetrySample) : Prop :=
  samples.length % 2 ^ 64 = 0 → ∀ bucket, bucket < 10 →
    samples.countP (TelemetrySample.InBucket bucket) % 2 ^ 32 = 0

namespace QoECollector

/-- The snapshot of the flow is defined, and reports nothing. -/
def ReportsZero (collector : QoECollector) (flowId : UInt32) (prior : FlowKPI) : Prop :=
  ∃ kpi, collector.getFlowKpi flowId prior = .ok kpi ∧
    kpi.packetCount = 0 ∧ kpi.byteCount = 0 ∧ kpi.lossPercent = 0

/-- The snapshot of the flow is defined, for this subscriber and service. -/
def ReportsIdentity (collector : QoECollector) (flowId subscriberId : UInt32) (serviceId : UInt16)
    (prior : FlowKPI) : Prop :=
  ∃ kpi, collector.getFlowKpi flowId prior = .ok kpi ∧
    kpi.subscriberId = subscriberId ∧ kpi.serviceId = serviceId

end QoECollector

/-! ## What a snapshot assigns -/

/-- A sample of a flow id is inside the table exactly when the flow id is. -/
theorem recordedSamples_eq_nil_iff {maxFlows flowId : UInt32} {calls : List Call} :
    recordedSamples maxFlows flowId calls = [] ↔
      flowId < maxFlows → samplesOf flowId.toNat calls = [] := by
  have hflow : ∀ sample ∈ samplesOf flowId.toNat calls, sample.flowId = flowId := by
    intro sample hsample
    obtain ⟨call, -, hcall⟩ := List.mem_filterMap.mp hsample
    cases call with
    | recordSample recorded now =>
      simp only [Option.ite_none_right_eq_some, Option.some.injEq] at hcall
      rw [← hcall.2]
      exact UInt32.toNat.inj hcall.1
    | _ => cases hcall
  unfold recordedSamples
  rw [List.filter_eq_nil_iff]
  simp only [decide_eq_true_iff]
  constructor
  · intro hout hinside
    apply List.eq_nil_iff_forall_not_mem.mpr
    intro sample hsample
    apply hout sample hsample
    rwa [hflow sample hsample]
  · intro hempty sample hsample hinside
    rw [hflow sample hsample] at hinside
    rw [hempty hinside] at hsample
    cases hsample

section Snapshot

variable {collector : QoECollector} {flowId : UInt32} {prior kpi : FlowKPI}

/-- No snapshot assigns the subscriber or the service. -/
theorem identity_of_getFlowKpi (h : collector.getFlowKpi flowId prior = .ok kpi) :
    kpi.subscriberId = prior.subscriberId ∧ kpi.serviceId = prior.serviceId := by
  obtain ⟨-, rfl⟩ | ⟨metrics, lossPercent, -, rfl⟩ := getFlowKpi_eq_ok h
  · exact ⟨rfl, rfl⟩
  · exact ⟨rfl, rfl⟩

/-- The snapshot of a flow outside the table assigns the flow id only. -/
theorem getFlowKpi_of_out (hout : collector.maxFlows ≤ flowId) :
    collector.getFlowKpi flowId prior = .ok { prior with flowId := flowId } := by
  have hslot : collector.flowMetrics[flowId.toNat]? = none := by
    rw [List.getElem?_eq_none_iff, collector.size_eq]
    exact UInt32.le_iff_toNat_le.mp hout
  unfold QoECollector.getFlowKpi
  rw [hslot]
  rfl

/-- The snapshot of a slot without samples sets packets and bytes to zero, and no percentage. -/
theorem FlowMetrics.Counts.getFlowKpi_nil {metrics : FlowMetrics} (hcounts : metrics.Counts [])
    (hmetrics : collector.flowMetrics[flowId.toNat]? = some metrics) :
    collector.getFlowKpi flowId prior =
      .ok { prior with flowId := flowId, packetCount := 0, byteCount := 0 } := by
  have hempty : metrics.totalSamples = 0 :=
    (totalSamples_eq_zero_iff metrics).mpr fun bucket hbucket ↦ hcounts.buckets bucket hbucket
  have hpackets : metrics.packetCount = 0 := hcounts.packets
  have hbytes : metrics.byteCount = 0 := hcounts.bytes
  simp only [QoECollector.getFlowKpi, hmetrics, hempty, UInt64.lt_irrefl, if_false, hpackets,
    hbytes]
  rfl

/-- A defined snapshot is for the subscriber and the service that the memory held. -/
theorem reportsIdentity_iff_of_defined {subscriberId : UInt32} {serviceId : UInt16}
    (hdefined : ∃ kpi, collector.getFlowKpi flowId prior = .ok kpi) :
    collector.ReportsIdentity flowId subscriberId serviceId prior ↔
      prior.subscriberId = subscriberId ∧ prior.serviceId = serviceId := by
  constructor
  · intro hreports
    obtain ⟨kpi, hkpi, hsubscriber, hservice⟩ := hreports
    obtain ⟨hsameSubscriber, hsameService⟩ := identity_of_getFlowKpi hkpi
    exact ⟨hsameSubscriber.symm.trans hsubscriber, hsameService.symm.trans hservice⟩
  · intro hheld
    obtain ⟨kpi, hkpi⟩ := hdefined
    obtain ⟨hsubscriber, hservice⟩ := identity_of_getFlowKpi hkpi
    exact ⟨kpi, hkpi, hsubscriber.trans hheld.1, hservice.trans hheld.2⟩

/-- The snapshot of a slot that counts the samples is defined exactly when their number does not
wrap to zero under a bucket that stays. -/
theorem FlowMetrics.Counts.exists_getFlowKpi_iff {metrics : FlowMetrics}
    {samples : List TelemetrySample} (hcounts : metrics.Counts samples)
    (hmetrics : collector.flowMetrics[flowId.toNat]? = some metrics) :
    (∃ kpi, collector.getFlowKpi flowId prior = .ok kpi) ↔ CountsStay samples := by
  unfold CountsStay
  rw [← hcounts.readable_iff]
  constructor
  · intro hdefined
    by_contra hunreadable
    obtain ⟨kpi, hkpi⟩ := hdefined
    rw [getFlowKpi_of_not_readable hmetrics hunreadable] at hkpi
    cases hkpi
  · intro hreadable
    obtain ⟨kpi, hkpi, -⟩ := getFlowKpi_of_readable hmetrics hreadable prior
    exact ⟨kpi, hkpi⟩

end Snapshot

/-! ## Every run -/

section Run

variable (maxFlows : UInt32) (leftover : ℕ → UInt64) (calls : List Call) (flowId : UInt32)
  (prior : FlowKPI)

/-- After any run, the snapshot of a flow is defined unless the flow is in the table and its packet
count has wrapped to zero. -/
theorem exists_getFlowKpi_after_iff :
    (∃ kpi, (QoECollector.after maxFlows leftover calls).getFlowKpi flowId prior = .ok kpi) ↔
      (flowId < maxFlows → CountsStay (samplesOf flowId.toNat calls)) := by
  by_cases hflow : flowId < maxFlows
  · have hmetrics := getElem?_after maxFlows leftover calls (UInt32.lt_iff_toNat_lt.mp hflow)
    rw [(counts_run flowId.toNat (leftover flowId.toNat) calls).exists_getFlowKpi_iff hmetrics]
    exact (imp_iff_right hflow).symm
  · have hout : (QoECollector.after maxFlows leftover calls).maxFlows ≤ flowId := by
      rw [maxFlows_after]
      exact UInt32.not_lt.mp hflow
    exact iff_of_true ⟨_, getFlowKpi_of_out hout⟩ fun h ↦ absurd h hflow

/-- A flow without recorded samples is reported as zero exactly when the memory held zeros where the
snapshot assigns nothing. -/
theorem reportsZero_after_iff (hnone : recordedSamples maxFlows flowId calls = []) :
    (QoECollector.after maxFlows leftover calls).ReportsZero flowId prior ↔
      prior.lossPercent = 0 ∧
        (maxFlows ≤ flowId → prior.packetCount = 0 ∧ prior.byteCount = 0) := by
  unfold QoECollector.ReportsZero
  by_cases hflow : flowId < maxFlows
  · have hmetrics := getElem?_after maxFlows leftover calls (UInt32.lt_iff_toNat_lt.mp hflow)
    have hcounts := counts_run flowId.toNat (leftover flowId.toNat) calls
    rw [recordedSamples_eq_nil_iff.mp hnone hflow] at hcounts
    have hinside : ¬maxFlows ≤ flowId := UInt32.not_le.mpr hflow
    rw [hcounts.getFlowKpi_nil hmetrics]
    simp [hinside]
  · have hout := UInt32.not_lt.mp hflow
    have hlength : (QoECollector.after maxFlows leftover calls).maxFlows ≤ flowId := by
      rwa [maxFlows_after]
    rw [getFlowKpi_of_out hlength]
    simp only [Except.ok.injEq, exists_eq_left', hout, forall_const]
    tauto

/-- **Attribution.** After any run, a flow without recorded samples is reported as zero if and only
if the memory of the result held zero losses, and zero packets and bytes for a flow outside the
table. A flow whose samples agree is reported for their subscriber and service if and only if the
memory held these and the packet count has not wrapped to zero. -/
theorem getFlowKpi_attributes_iff :
    ((recordedSamples maxFlows flowId calls = [] →
        (QoECollector.after maxFlows leftover calls).ReportsZero flowId prior) ↔
      (recordedSamples maxFlows flowId calls = [] → prior.lossPercent = 0 ∧
        (maxFlows ≤ flowId → prior.packetCount = 0 ∧ prior.byteCount = 0))) ∧
    ((∀ subscriberId serviceId,
        CarryIdentity subscriberId serviceId (samplesOf flowId.toNat calls) →
          (QoECollector.after maxFlows leftover calls).ReportsIdentity flowId subscriberId serviceId
            prior) ↔
      ∀ subscriberId serviceId,
        CarryIdentity subscriberId serviceId (samplesOf flowId.toNat calls) →
          (prior.subscriberId = subscriberId ∧ prior.serviceId = serviceId) ∧
            (flowId < maxFlows → CountsStay (samplesOf flowId.toNat calls))) := by
  constructor
  · apply forall_congr'
    intro hnone
    exact reportsZero_after_iff maxFlows leftover calls flowId prior hnone
  · apply forall₃_congr
    intro subscriberId serviceId _
    rw [← exists_getFlowKpi_after_iff maxFlows leftover calls flowId prior]
    constructor
    · intro hreports
      have hdefined : ∃ kpi,
          (QoECollector.after maxFlows leftover calls).getFlowKpi flowId prior = .ok kpi :=
        hreports.imp fun kpi hkpi ↦ hkpi.1
      exact ⟨(reportsIdentity_iff_of_defined hdefined).mp hreports, hdefined⟩
    · intro hheld
      exact (reportsIdentity_iff_of_defined hheld.2).mpr hheld.1

end Run

/-- The memory of the result holds sevens. A sample of subscriber 100 and service 10 is recorded for
flow 1 of two: the snapshot of flow 1 is for subscriber 7 and service 7, flow 0 has a loss of seven
percent, and flow 2, which does not exist, has seven packets. -/
theorem leftover_attributed :
    let prior : FlowKPI := ⟨7, 7, 7, 7, 7, 7⟩
    let calls : List Call := [.recordSample ⟨1, 100, 10, 1500, 50, false, 0⟩ 5]
    let collector := QoECollector.after 2 (fun _ ↦ 0) calls
    collector.getFlowKpi 1 prior = .ok ⟨1, 7, 7, 1, 1500, 0⟩ ∧
    collector.getFlowKpi 0 prior = .ok ⟨0, 7, 7, 0, 0, 7⟩ ∧
    collector.getFlowKpi 2 prior = .ok ⟨2, 7, 7, 7, 7, 7⟩ ∧
    CarryIdentity 100 10 (samplesOf 1 calls) ∧
    ¬collector.ReportsIdentity 1 100 10 prior ∧
    recordedSamples 2 0 calls = [] ∧ ¬collector.ReportsZero 0 prior ∧
    recordedSamples 2 2 calls = [] ∧ ¬collector.ReportsZero 2 prior := by
  intro prior calls collector
  have hsampled : collector.getFlowKpi 1 prior = .ok ⟨1, 7, 7, 1, 1500, 0⟩ := by decide +kernel
  have hunsampled : collector.getFlowKpi 0 prior = .ok ⟨0, 7, 7, 0, 0, 7⟩ := by decide +kernel
  have hout : collector.getFlowKpi 2 prior = .ok ⟨2, 7, 7, 7, 7, 7⟩ := by decide +kernel
  refine ⟨hsampled, hunsampled, hout, ⟨by decide, by decide⟩, ?_, rfl, ?_, rfl, ?_⟩
  · intro hreports
    have hheld := (reportsIdentity_iff_of_defined ⟨_, hsampled⟩).mp hreports
    exact absurd hheld.1 (by decide)
  · intro hzero
    have hheld := (reportsZero_after_iff 2 (fun _ ↦ 0) calls 0 prior rfl).mp hzero
    exact absurd hheld.1 (by decide)
  · intro hzero
    have hheld := (reportsZero_after_iff 2 (fun _ ↦ 0) calls 2 prior rfl).mp hzero
    exact absurd hheld.1 (by decide)

end VirtualServiceGateway.Analytics
