import VirtualServiceGateway.Analytics.ServiceTotals

/-!
# Flows that were never recorded

The slots of a fresh table are active, and their time stamps are whatever the memory held. So a flow
of which no sample was ever recorded is listed, and it is counted by service queries and by flushes
as soon as the window or the idle limit reaches its time stamp. The queries and flushes leave out
all unrecorded flows exactly when the table has none.
-/

namespace VirtualServiceGateway.Analytics

open CheckedOperation WrappingCounter

namespace QoECollector

/-- The flow ids that a service query counts: the slots not updated before the window. -/
def servedFlows (collector : QoECollector) (windowNs now : UInt64) : List UInt32 :=
  collector.flowsWhere fun metrics ↦ !decide (metrics.lastUpdateNs < now - windowNs)

/-- The flow ids that a flush counts: the idle slots. -/
def idleFlows (collector : QoECollector) (maxIdleNs now : UInt64) : List UInt32 :=
  collector.flowsWhere fun metrics ↦ metrics.expired maxIdleNs now

/-- The flow is in neither listing, and neither a service query nor a flush counts it: the numbers
they return are those of the other flows. -/
structure Omits (collector : QoECollector) (flowId : UInt32) : Prop where
  kpis : ∀ prior kpis, collector.getAllFlowKpis prior = .ok kpis →
    flowId ∉ kpis.map FlowKPI.flowId
  telemetry : ∀ maxSamples prior samples,
    collector.getAggregatedTelemetry maxSamples prior = .ok samples →
      flowId ∉ samples.map TelemetrySample.flowId
  service : ∀ serviceId windowNs now prior,
    (collector.getServiceKpi serviceId windowNs now prior).totalFlows =
      prior.totalFlows + wrap64 ((collector.servedFlows windowNs now).erase flowId).length
  flush : ∀ maxIdleNs now,
    (collector.flushExpiredFlows maxIdleNs now).1 =
      wrap32 ((collector.idleFlows maxIdleNs now).erase flowId).length

/-! ## What the queries and flushes count -/

/-- The number of flows in a service query is the number of slots in its window. -/
theorem totalFlows_getServiceKpi (collector : QoECollector) (serviceId : UInt16)
    (windowNs now : UInt64) (prior : ServiceKPI) :
    (collector.getServiceKpi serviceId windowNs now prior).totalFlows =
      prior.totalFlows + wrap64 (collector.servedFlows windowNs now).length := by
  have hlength : (collector.servedFlows windowNs now).length =
      (collector.windowSlots windowNs now).length := by
    unfold servedFlows
    rw [length_flowsWhere, List.countP_eq_length_filter]
    rfl
  rw [getServiceKpi_eq, hlength]

/-- The result of a flush is the number of idle slots. -/
theorem flushExpiredFlows_fst (collector : QoECollector) (maxIdleNs now : UInt64) :
    (collector.flushExpiredFlows maxIdleNs now).1 =
      wrap32 (collector.idleFlows maxIdleNs now).length := by
  unfold idleFlows
  rw [length_flowsWhere]
  exact (foldl_count_wrap wrap32 _ 0 _).trans (zero_add _)

/-- The telemetry lists flows with active slots only. -/
theorem mem_telemetryFrom {collector : QoECollector} {maxSamples samplingInterval : UInt32}
    {prior : UInt32 → TelemetrySample} {fuel : ℕ} {i : UInt32}
    {samples result : List TelemetrySample}
    (hresult : collector.telemetryFrom maxSamples samplingInterval prior fuel i samples =
      .ok result) {flowId : UInt32} (hmem : flowId ∈ result.map TelemetrySample.flowId) :
    flowId ∈ samples.map TelemetrySample.flowId ∨ flowId ∈ collector.activeFlows := by
  induction fuel generalizing i samples with
  | zero => cases hresult
  | succ fuel ih =>
    unfold telemetryFrom at hresult
    cases hmetrics : collector.flowMetrics[i.toNat]? with
    | none =>
      simp only [hmetrics] at hresult
      exact Or.inl (Except.ok.inj hresult ▸ hmem)
    | some metrics =>
      simp only [hmetrics] at hresult
      split at hresult
      · exact Or.inl (Except.ok.inj hresult ▸ hmem)
      · split at hresult
        case isTrue hactive =>
          rcases ih hresult with hlisted | hlater
          · rw [List.map_append, List.mem_append] at hlisted
            rcases hlisted with hearlier | hnew
            · exact Or.inl hearlier
            · obtain rfl := List.mem_singleton.mp hnew
              exact Or.inr (mem_flowsWhere.mpr ⟨metrics, hmetrics, hactive⟩)
          · exact Or.inr hlater
        case isFalse => exact ih hresult

theorem mem_getAggregatedTelemetry {collector : QoECollector} {maxSamples : UInt32}
    {prior : UInt32 → TelemetrySample} {samples : List TelemetrySample}
    (hsamples : collector.getAggregatedTelemetry maxSamples prior = .ok samples)
    {flowId : UInt32} (hmem : flowId ∈ samples.map TelemetrySample.flowId) :
    flowId ∈ collector.activeFlows := by
  unfold getAggregatedTelemetry at hsamples
  by_cases hzero : maxSamples.toUInt64 = 0
  · simp only [divide, hzero, if_true] at hsamples
    cases hsamples
  · rw [divide_of_ne_zero _ hzero] at hsamples
    rcases mem_telemetryFrom hsamples hmem with hnone | hactive
    · cases hnone
    · exact hactive

/-! ## Leaving out a flow -/

/-- A flow outside the table is left out of everything. -/
theorem omits_of_out {collector : QoECollector} {flowId : UInt32}
    (hout : collector.maxFlows ≤ flowId) : collector.Omits flowId := by
  have hnone (select : FlowMetrics → Bool) : flowId ∉ collector.flowsWhere select := by
    intro hmem
    obtain ⟨metrics, hmetrics, -⟩ := mem_flowsWhere.mp hmem
    have hrange := (List.getElem?_eq_some_iff.mp hmetrics).1
    exact UInt32.not_lt.mpr hout (toNat_lt_length_iff.mp hrange)
  exact {
    kpis := fun prior kpis hkpis ↦ by
      rw [flowIds_of_getAllFlowKpis hkpis]
      exact hnone _
    telemetry := fun maxSamples prior samples hsamples hmem ↦
      hnone _ (mem_getAggregatedTelemetry hsamples hmem)
    service := fun serviceId windowNs now prior ↦ by
      rw [totalFlows_getServiceKpi, servedFlows, List.erase_of_not_mem (hnone _)]
    flush := fun maxIdleNs now ↦ by
      rw [flushExpiredFlows_fst, idleFlows, List.erase_of_not_mem (hnone _)] }

/-- A service query whose window begins at time zero counts every flow of the table. -/
theorem mem_servedFlows_whole {collector : QoECollector} {flowId : UInt32}
    (hflow : flowId < collector.maxFlows) (now : UInt64) :
    flowId ∈ collector.servedFlows now now := by
  have hrange := toNat_lt_length_iff.mpr hflow
  refine mem_flowsWhere.mpr ⟨_, List.getElem?_eq_getElem hrange, ?_⟩
  rw [UInt64.sub_self]
  simp [UInt64.lt_iff_toNat_lt]

/-- So a flow of the table is left out by none. -/
theorem not_omits {collector : QoECollector} {flowId : UInt32}
    (hflow : flowId < collector.maxFlows) : ¬collector.Omits flowId := by
  intro homits
  have hmem := mem_servedFlows_whole hflow 0
  have hothers := homits.service 0 0 0 .zero
  rw [totalFlows_getServiceKpi] at hothers
  have hsame := add_left_cancel hothers
  rw [← List.length_erase_add_one hmem, map_add, wrap64_one] at hsame
  have hone : (1 : UInt64) = 0 := add_eq_left.mp hsame
  exact absurd hone (by decide)

/-- **No phantom flows.** After any run, the flows that were never recorded are left out of all
listings and counts if and only if every flow id of the table was recorded. -/
theorem omits_unrecorded_iff (maxFlows : UInt32) (leftover : ℕ → UInt64) (calls : List Call) :
    (∀ flowId, samplesOf flowId.toNat calls = [] →
        (QoECollector.after maxFlows leftover calls).Omits flowId) ↔
      ∀ flowId, flowId < maxFlows → samplesOf flowId.toNat calls ≠ [] := by
  constructor
  · intro homits flowId hflow hnone
    rw [← maxFlows_after maxFlows leftover calls] at hflow
    exact not_omits hflow (homits flowId hnone)
  · intro hrecorded flowId hnone
    apply omits_of_out
    rw [maxFlows_after]
    exact UInt32.not_lt.mp fun hflow ↦ hrecorded flowId hflow hnone

/-- In a fresh table of one flow, whose time stamp was left zero, the flow is in both listings, and
a service query and a flush count it. -/
theorem unrecorded_flow_counted :
    let collector := QoECollector.after 1 (fun _ ↦ 0) []
    let kpi : FlowKPI := ⟨0, 0, 0, 0, 0, 0⟩
    let sample : TelemetrySample := ⟨0, 0, 0, 0, 0, false, 0⟩
    samplesOf 0 [] = [] ∧
    collector.getAllFlowKpis (fun _ ↦ kpi) = .ok [kpi] ∧
    collector.getAggregatedTelemetry 10 (fun _ ↦ sample) = .ok [sample] ∧
    (collector.getServiceKpi 20 1000 1000 .zero).totalFlows = 1 ∧
    (collector.flushExpiredFlows 10 1000).1 = 1 := by
  decide +kernel

end QoECollector

end VirtualServiceGateway.Analytics
