import Mathlib.Algebra.BigOperators.Group.List.Basic
import VirtualServiceGateway.Analytics.FlowCounters

/-!
# When a service query depends on its own service only

The service query adds up every slot of the table that was updated inside the window, whatever
service its samples belong to. Its answer is independent of the samples of other services on other
flows exactly when there is no room for such a sample: every flow id of the table already carries a
sample of the service.
-/

namespace VirtualServiceGateway.Analytics

/-- Recorded samples with the clock readings of their recording, oldest first. -/
abbrev History := List (TelemetrySample × UInt64)

/-- The table after recording a history. -/
def tableAfter (maxFlows : UInt32) (leftover : ℕ → UInt64) (history : History) : QoECollector :=
  .after maxFlows leftover (history.map fun entry ↦ .recordSample entry.1 entry.2)

/-- The flow ids that carry samples of the service. -/
def serviceFlows (serviceId : UInt16) (history : History) : List UInt32 :=
  (history.filter fun entry ↦ entry.1.serviceId = serviceId).map fun entry ↦ entry.1.flowId

/-- What a history has of a service: its samples, and whatever else is recorded on its flows. Two
histories with the same view differ in samples of other services on other flows only. -/
def serviceView (serviceId : UInt16) (history : History) : History :=
  history.filter fun entry ↦
    entry.1.serviceId = serviceId ∨ entry.1.flowId ∈ serviceFlows serviceId history

/-- The four totals of a service query. -/
def ServiceKPI.totals (kpi : ServiceKPI) : UInt64 × UInt64 × UInt64 × UInt32 :=
  (kpi.totalFlows, kpi.totalPackets, kpi.totalBytes, kpi.avgLossPercent)

/-- A result struct of zeros. -/
def ServiceKPI.zero : ServiceKPI := ⟨0, 0, 0, 0, 0, 0, 0⟩

/-- For every window and clock reading, the totals for the service are the same after all histories
with the same view of it. -/
def Isolated (maxFlows : UInt32) (leftover : ℕ → UInt64) (serviceId : UInt16)
    (history : History) : Prop :=
  ∀ other, serviceView serviceId other = serviceView serviceId history →
    ∀ windowNs now,
      ((tableAfter maxFlows leftover other).getServiceKpi serviceId windowNs now .zero).totals =
        ((tableAfter maxFlows leftover history).getServiceKpi serviceId windowNs now .zero).totals

/-! ## The table depends on in-range samples only -/

theorem tableAfter_concat (maxFlows : UInt32) (leftover : ℕ → UInt64) (history : History)
    (entry : TelemetrySample × UInt64) :
    tableAfter maxFlows leftover (history ++ [entry]) =
      (tableAfter maxFlows leftover history).recordSample entry.1 entry.2 := by
  unfold tableAfter QoECollector.after
  rw [List.map_append, List.map_singleton, Execution.run_concat]
  rfl

/-- Samples outside the table can be left out. -/
theorem tableAfter_filter (maxFlows : UInt32) (leftover : ℕ → UInt64)
    (select : TelemetrySample × UInt64 → Bool) (history : History)
    (hout : ∀ entry ∈ history, ¬select entry → maxFlows ≤ entry.1.flowId) :
    tableAfter maxFlows leftover (history.filter select) =
      tableAfter maxFlows leftover history := by
  induction history using List.reverseRecOn with
  | nil => rfl
  | append_singleton history entry ih =>
    have hbefore := ih fun earlier hearlier ↦ hout earlier (List.mem_append_left _ hearlier)
    rw [List.filter_append, tableAfter_concat]
    by_cases hselect : select entry
    · rw [List.filter_cons_of_pos hselect, List.filter_nil, tableAfter_concat, hbefore]
    · have hentry := hout entry (List.mem_append_right _ (List.mem_singleton_self entry)) hselect
      have hmax : (tableAfter maxFlows leftover history).maxFlows = maxFlows :=
        maxFlows_after maxFlows leftover _
      rw [List.filter_cons_of_neg hselect, List.filter_nil, List.append_nil, hbefore,
        recordSample_of_out (by rwa [hmax])]

theorem serviceFlows_view (serviceId : UInt16) (history : History) :
    serviceFlows serviceId (serviceView serviceId history) = serviceFlows serviceId history := by
  unfold serviceView
  generalize hflows : serviceFlows serviceId history = flows
  rw [← hflows]
  unfold serviceFlows
  rw [List.filter_filter]
  congr 1
  apply List.filter_congr
  intro entry _
  by_cases hservice : entry.1.serviceId = serviceId <;> simp [hservice]

/-- When the service's flows fill the table, the view of the service determines the table. -/
theorem tableAfter_view (maxFlows : UInt32) (leftover : ℕ → UInt64) (serviceId : UInt16)
    (history : History)
    (hfull : ∀ flowId, flowId < maxFlows → flowId ∈ serviceFlows serviceId history) :
    tableAfter maxFlows leftover (serviceView serviceId history) =
      tableAfter maxFlows leftover history := by
  apply tableAfter_filter
  intro entry _ hselect
  by_contra hin
  have hflow := hfull entry.1.flowId (UInt32.not_le.mp hin)
  exact hselect (decide_eq_true (Or.inr hflow))

/-! ## A window that counts every slot -/

theorem addToService_of_before {metrics : FlowMetrics} {kpi : ServiceKPI}
    (hbefore : metrics.lastUpdateNs < kpi.windowStartNs) (totalLoss totalPackets : UInt64) :
    QoECollector.addToService (kpi, totalLoss, totalPackets) metrics =
      (kpi, totalLoss, totalPackets) := if_pos hbefore

theorem addToService_of_counted {metrics : FlowMetrics} {kpi : ServiceKPI}
    (hcounted : ¬metrics.lastUpdateNs < kpi.windowStartNs) (totalLoss totalPackets : UInt64) :
    QoECollector.addToService (kpi, totalLoss, totalPackets) metrics =
      ({ kpi with
          totalFlows := kpi.totalFlows + 1
          totalPackets := kpi.totalPackets + metrics.packetCount
          totalBytes := kpi.totalBytes + metrics.byteCount },
        totalLoss + metrics.lossCount.toUInt64, totalPackets + metrics.packetCount) :=
  if_neg hcounted

/-- The service query adds up the slots updated at or after the start of its window. -/
theorem foldl_addToService (slots : List FlowMetrics) (kpi : ServiceKPI)
    (totalLoss totalPackets : UInt64) :
    let counted := slots.filter fun metrics ↦ !decide (metrics.lastUpdateNs < kpi.windowStartNs)
    slots.foldl QoECollector.addToService (kpi, totalLoss, totalPackets) =
      ({ kpi with
          totalFlows := kpi.totalFlows + (counted.map fun _ ↦ 1).sum
          totalPackets := kpi.totalPackets + (counted.map FlowMetrics.packetCount).sum
          totalBytes := kpi.totalBytes + (counted.map FlowMetrics.byteCount).sum },
        totalLoss + (counted.map fun metrics ↦ metrics.lossCount.toUInt64).sum,
        totalPackets + (counted.map FlowMetrics.packetCount).sum) := by
  induction slots generalizing kpi totalLoss totalPackets with
  | nil => simp
  | cons metrics slots ih =>
    intro counted
    by_cases hbefore : metrics.lastUpdateNs < kpi.windowStartNs
    · have hcounted : counted =
          slots.filter fun metrics ↦ !decide (metrics.lastUpdateNs < kpi.windowStartNs) :=
        List.filter_cons_of_neg (by simpa using hbefore)
      rw [List.foldl_cons, addToService_of_before hbefore, ih, hcounted]
    · have hcounted : counted = metrics ::
          slots.filter fun metrics ↦ !decide (metrics.lastUpdateNs < kpi.windowStartNs) :=
        List.filter_cons_of_pos (by simpa using hbefore)
      rw [List.foldl_cons, addToService_of_counted hbefore, ih, hcounted]
      simp only [List.map_cons, List.sum_cons, add_assoc]

/-- With a window that starts at time zero, the packets of the whole table are reported. -/
theorem totalPackets_getServiceKpi (collector : QoECollector) (serviceId : UInt16) :
    (collector.getServiceKpi serviceId 0 0 .zero).totalPackets =
      (collector.flowMetrics.map FlowMetrics.packetCount).sum := by
  have hall : ∀ metrics : FlowMetrics,
      (!decide (metrics.lastUpdateNs < (0 : UInt64) - 0)) = true := by
    intro metrics
    simp [UInt64.lt_iff_toNat_lt]
  simp only [QoECollector.getServiceKpi, foldl_addToService, hall, List.filter_true,
    ServiceKPI.zero, zero_add]
  split <;> rfl

/-- Recording a sample in the table adds one packet to it. -/
theorem sum_packetCount_recordSample {collector : QoECollector} {sample : TelemetrySample}
    (hin : sample.flowId < collector.maxFlows) (now : UInt64) :
    ((collector.recordSample sample now).flowMetrics.map FlowMetrics.packetCount).sum =
      (collector.flowMetrics.map FlowMetrics.packetCount).sum + 1 := by
  have hrange := toNat_lt_length_iff.mpr hin
  have hslots : (collector.recordSample sample now).flowMetrics =
      collector.flowMetrics.set sample.flowId.toNat
        (collector.flowMetrics[sample.flowId.toNat].recordSample sample now) := by
    unfold QoECollector.recordSample
    rw [if_neg (UInt32.not_le.mpr hin)]
    exact List.modify_eq_set_get _ hrange
  rw [hslots, List.map_set, List.sum_set', dif_pos (by simpa using hrange), List.getElem_map]
  change _ + (-_ + (collector.flowMetrics[sample.flowId.toNat].packetCount + 1)) = _
  rw [neg_add_cancel_left]

/-- A sample of another service on a free flow is not part of the view. -/
theorem serviceView_concat_other {serviceId : UInt16} {history : History}
    {entry : TelemetrySample × UInt64} (hservice : entry.1.serviceId ≠ serviceId)
    (hfree : entry.1.flowId ∉ serviceFlows serviceId history) :
    serviceView serviceId (history ++ [entry]) = serviceView serviceId history := by
  have hflows : serviceFlows serviceId (history ++ [entry]) = serviceFlows serviceId history := by
    unfold serviceFlows
    simp [hservice]
  unfold serviceView
  rw [hflows, List.filter_append]
  simp [hservice, hfree]

/-- **Exact isolation condition.** The totals for a service are independent of the samples of other
services on other flows if and only if every flow id of the table carries a sample of the service.
-/
theorem isolated_iff (maxFlows : UInt32) (leftover : ℕ → UInt64) (serviceId : UInt16)
    (history : History) :
    Isolated maxFlows leftover serviceId history ↔
      ∀ flowId, flowId < maxFlows → flowId ∈ serviceFlows serviceId history := by
  constructor
  · intro hisolated flowId hin
    by_contra hfree
    have hother : serviceId + 1 ≠ serviceId := by
      intro h
      have hone : (1 : UInt16) = 0 := add_eq_left.mp h
      exact absurd hone (by decide)
    let sample : TelemetrySample := ⟨flowId, 0, serviceId + 1, 0, 0, false, 0⟩
    have hview : serviceView serviceId (history ++ [(sample, 0)]) =
        serviceView serviceId history := serviceView_concat_other hother hfree
    have htotals := congrArg (fun totals ↦ totals.2.1) (hisolated _ hview 0 0)
    have hmax : (tableAfter maxFlows leftover history).maxFlows = maxFlows :=
      maxFlows_after maxFlows leftover _
    simp only [ServiceKPI.totals, totalPackets_getServiceKpi, tableAfter_concat] at htotals
    rw [sum_packetCount_recordSample (by rwa [hmax])] at htotals
    have hone : (1 : UInt64) = 0 := add_eq_left.mp htotals
    exact absurd hone (by decide)
  · intro hfull other hview windowNs now
    have hflows : serviceFlows serviceId other = serviceFlows serviceId history := by
      rw [← serviceFlows_view, hview, serviceFlows_view]
    have hsame : tableAfter maxFlows leftover other = tableAfter maxFlows leftover history := by
      rw [← tableAfter_view maxFlows leftover serviceId history hfull, ← hview,
        tableAfter_view maxFlows leftover serviceId other (by rwa [hflows])]
    rw [hsame]

/-- One sample of service 7 on flow 1 changes the totals reported for service 20, whose only sample
is on flow 0. -/
theorem other_service_counted :
    let own : TelemetrySample := ⟨0, 100, 20, 1500, 40, false, 0⟩
    let foreign : TelemetrySample := ⟨1, 101, 7, 500, 40, true, 0⟩
    let alone : History := [(own, 100)]
    let mixed : History := [(own, 100), (foreign, 150)]
    serviceView 20 mixed = serviceView 20 alone ∧
    ((tableAfter 2 (fun _ ↦ 0) alone).getServiceKpi 20 150 200 .zero).totals = (1, 1, 1500, 0) ∧
    ((tableAfter 2 (fun _ ↦ 0) mixed).getServiceKpi 20 150 200 .zero).totals =
      (2, 2, 2000, 50) := by
  decide +kernel

end VirtualServiceGateway.Analytics
