import VirtualServiceGateway.Analytics.TelemetrySampling

/-!
# The listings of active flows

The listing of snapshots and, when it may take at least as many samples as there are flows, the
sampled telemetry contain exactly the active flows in order. The first is defined only when every
active slot can be read; the second always is.
-/

namespace VirtualServiceGateway.Analytics

open CheckedOperation StridedSampling

/-- Both listings are defined and contain the flow exactly once, the sampled one when it may take
at least as many samples as there are flows. -/
structure QoECollector.ListsOnce (collector : QoECollector) (flowId : UInt32) : Prop where
  kpis : ∀ prior, ∃ kpis, collector.getAllFlowKpis prior = .ok kpis ∧
    (kpis.map FlowKPI.flowId).count flowId = 1
  telemetry : ∀ maxSamples prior, collector.maxFlows ≤ maxSamples →
    ∃ samples, collector.getAggregatedTelemetry maxSamples prior = .ok samples ∧
      (samples.map TelemetrySample.flowId).count flowId = 1

/-! ## What the listings contain -/

/-- The flow ids of the active slots, in order. -/
def QoECollector.activeFlows (collector : QoECollector) : List UInt32 :=
  ((List.range collector.flowMetrics.length).filter collector.isActive).map UInt32.ofNat

/-- The flow ids of the slots with a property, in order. -/
def QoECollector.flowsWhere (collector : QoECollector) (select : FlowMetrics → Bool) :
    List UInt32 :=
  ((List.range collector.flowMetrics.length).filter
    fun flow ↦ collector.flowMetrics[flow]?.any select).map UInt32.ofNat

theorem mem_flowsWhere {collector : QoECollector} {select : FlowMetrics → Bool}
    {flowId : UInt32} :
    flowId ∈ collector.flowsWhere select ↔
      ∃ metrics, collector.flowMetrics[flowId.toNat]? = some metrics ∧ select metrics := by
  unfold QoECollector.flowsWhere
  rw [List.mem_map]
  constructor
  · rintro ⟨flow, hflow, rfl⟩
    obtain ⟨hrange, hselect⟩ := List.mem_filter.mp hflow
    rw [toNat_ofNat_flow (List.mem_range.mp hrange)]
    exact (Option.any_eq_true select _).mp hselect
  · rintro ⟨metrics, hmetrics, hselect⟩
    have hrange := (List.getElem?_eq_some_iff.mp hmetrics).1
    have hany := (Option.any_eq_true select _).mpr ⟨metrics, hmetrics, hselect⟩
    exact ⟨flowId.toNat, List.mem_filter.mpr ⟨List.mem_range.mpr hrange, hany⟩,
      UInt32.ofNat_toNat⟩

theorem nodup_flowsWhere (collector : QoECollector) (select : FlowMetrics → Bool) :
    (collector.flowsWhere select).Nodup := by
  apply List.Nodup.map_on _ (List.nodup_range.filter _)
  intro first hfirst second hsecond hsame
  have hfirst := List.mem_range.mp (List.mem_of_mem_filter hfirst)
  have hsecond := List.mem_range.mp (List.mem_of_mem_filter hsecond)
  rw [← toNat_ofNat_flow hfirst, hsame, toNat_ofNat_flow hsecond]

theorem QoECollector.length_flowsWhere (collector : QoECollector) (select : FlowMetrics → Bool) :
    (collector.flowsWhere select).length = collector.flowMetrics.countP select := by
  unfold flowsWhere
  rw [List.length_map, ← List.countP_eq_length_filter]
  calc
    (List.range collector.flowMetrics.length).countP
        (fun flow ↦ collector.flowMetrics[flow]?.any select) =
        ((List.range collector.flowMetrics.length).map fun flow ↦
          collector.flowMetrics[flow]?).countP fun slot ↦ slot.any select := by
      rw [List.countP_map]
      rfl
    _ = (collector.flowMetrics.map some).countP fun slot ↦ slot.any select := by
      congr 1
      apply List.ext_getElem
      · simp
      · intro flow hrange _
        simp
    _ = collector.flowMetrics.countP select := by
      rw [List.countP_map]
      rfl

theorem mem_activeFlows {collector : QoECollector} {flowId : UInt32} :
    flowId ∈ collector.activeFlows ↔ collector.isActive flowId.toNat := by
  rw [isActive_iff]
  exact mem_flowsWhere

/-- A flow id occurs once among the active ones if its slot is active, and not at all otherwise. -/
theorem count_activeFlows (collector : QoECollector) (flowId : UInt32) :
    collector.activeFlows.count flowId = if collector.isActive flowId.toNat then 1 else 0 := by
  by_cases hactive : collector.isActive flowId.toNat
  · rw [if_pos hactive]
    exact List.count_eq_one_of_mem (nodup_flowsWhere collector _) (mem_activeFlows.mpr hactive)
  · rw [if_neg hactive]
    exact List.count_eq_zero.mpr (mem_activeFlows.not.mpr hactive)

/-- A defined snapshot carries the flow id it was asked for. -/
theorem flowId_of_getFlowKpi {collector : QoECollector} {flowId : UInt32} {prior kpi : FlowKPI}
    (h : collector.getFlowKpi flowId prior = .ok kpi) : kpi.flowId = flowId := by
  obtain ⟨-, rfl⟩ | ⟨metrics, lossPercent, -, rfl⟩ := getFlowKpi_eq_ok h
  · rfl
  · rfl

/-- A defined listing of snapshots is the active flows in order. -/
theorem flowIds_of_getAllFlowKpis {collector : QoECollector} {prior : ℕ → FlowKPI}
    {kpis : List FlowKPI} (h : collector.getAllFlowKpis prior = .ok kpis) :
    kpis.map FlowKPI.flowId = collector.activeFlows := by
  have hpointwise := mapM_eq_ok_iff.mp h
  unfold QoECollector.activeFlows
  rw [eq_comm, ← List.forall₂_eq_eq_eq, List.forall₂_map_left_iff, List.forall₂_map_right_iff]
  exact hpointwise.imp fun flow kpi hkpi ↦ (flowId_of_getFlowKpi hkpi).symm

/-- The listing of snapshots is defined exactly when every active slot can be read. -/
theorem getAllFlowKpis_defined_iff (collector : QoECollector) (prior : ℕ → FlowKPI) :
    (∃ kpis, collector.getAllFlowKpis prior = .ok kpis) ↔
      ∀ (flow : ℕ) (metrics : FlowMetrics), collector.flowMetrics[flow]? = some metrics →
        metrics.active → metrics.Readable := by
  have hlength := length_lt collector
  refine exists_mapM_eq_ok_iff.trans
    ⟨fun h flow metrics hmetrics hactive ↦ ?_, fun h flow hflow ↦ ?_⟩
  · have hrange := (List.getElem?_eq_some_iff.mp hmetrics).1
    have hslot : collector.flowMetrics[(UInt32.ofNat flow).toNat]? = some metrics := by
      rwa [toNat_ofNat_flow hrange]
    obtain ⟨kpi, hkpi⟩ := h flow (List.mem_filter.mpr
      ⟨List.mem_range.mpr hrange, isActive_iff.mpr ⟨metrics, hmetrics, hactive⟩⟩)
    by_contra hreadable
    rw [getFlowKpi_of_not_readable hslot hreadable] at hkpi
    cases hkpi
  · obtain ⟨hrange, hactive⟩ := List.mem_filter.mp hflow
    have hrange := List.mem_range.mp hrange
    obtain ⟨metrics, hmetrics, hactive⟩ := isActive_iff.mp hactive
    have hslot : collector.flowMetrics[(UInt32.ofNat flow).toNat]? = some metrics := by
      rwa [toNat_ofNat_flow hrange]
    obtain ⟨kpi, hkpi, -⟩ :=
      getFlowKpi_of_readable hslot (h flow metrics hmetrics hactive) (prior flow)
    exact ⟨kpi, hkpi⟩

/-- With room for every flow the sampled listing is the active flows in order. -/
theorem flowIds_of_getAggregatedTelemetry (collector : QoECollector) {maxSamples : UInt32}
    (hroom : collector.maxFlows ≤ maxSamples) (hflows : collector.maxFlows ≠ 0)
    (prior : UInt32 → TelemetrySample) :
    ∃ samples, collector.getAggregatedTelemetry maxSamples prior = .ok samples ∧
      samples.map TelemetrySample.flowId = collector.activeFlows := by
  have hmax : maxSamples ≠ 0 := by
    intro hzero
    rw [hzero] at hroom
    exact hflows (UInt32.le_zero_iff.mp hroom)
  rw [UInt32.le_iff_toNat_le] at hroom
  refine ⟨_, QoECollector.getAggregatedTelemetry_eq collector hmax
    (QoECollector.indexFits_of_le hroom) prior, ?_⟩
  rw [sampled_of_le hroom, List.map_map, ← collector.size_eq]
  rfl

/-- A flow is listed once exactly when its slot is active and every active slot can be read. -/
theorem listsOnce_iff (collector : QoECollector) {flowId : UInt32}
    (hflow : flowId < collector.maxFlows) :
    collector.ListsOnce flowId ↔ collector.isActive flowId.toNat ∧
      ∀ (flow : ℕ) (metrics : FlowMetrics), collector.flowMetrics[flow]? = some metrics →
        metrics.active → metrics.Readable := by
  have hcount := count_activeFlows collector flowId
  constructor
  · intro hlists
    obtain ⟨kpis, hkpis, honce⟩ := hlists.kpis fun _ ↦ ⟨0, 0, 0, 0, 0, 0⟩
    rw [flowIds_of_getAllFlowKpis hkpis, hcount] at honce
    refine ⟨?_, (getAllFlowKpis_defined_iff collector _).mp ⟨kpis, hkpis⟩⟩
    by_contra hinactive
    rw [if_neg hinactive] at honce
    cases honce
  · rintro ⟨hactive, hreadable⟩
    rw [if_pos hactive] at hcount
    refine ⟨fun prior ↦ ?_, fun maxSamples prior hroom ↦ ?_⟩
    · obtain ⟨kpis, hkpis⟩ := (getAllFlowKpis_defined_iff collector prior).mpr hreadable
      exact ⟨kpis, hkpis, by rw [flowIds_of_getAllFlowKpis hkpis, hcount]⟩
    · have hflows : collector.maxFlows ≠ 0 := by
        intro hzero
        rw [hzero] at hflow
        exact absurd (UInt32.lt_iff_toNat_lt.mp hflow) (Nat.not_lt_zero _)
      obtain ⟨samples, hsamples, hids⟩ :=
        flowIds_of_getAggregatedTelemetry collector hroom hflows prior
      exact ⟨samples, hsamples, by rw [hids, hcount]⟩

end VirtualServiceGateway.Analytics
