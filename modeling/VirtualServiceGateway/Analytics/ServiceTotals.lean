import VirtualServiceGateway.Analytics.FlowListing
import VirtualServiceGateway.Analytics.ServiceIsolation

/-!
# The totals of a service query

A service query adds the slots of its window to whatever its result held, and divides the losses by
the packets in 64 bits when there are any. So its totals are those of the window exactly when the
result was empty before and the percentage of the window survives the arithmetic.
-/

namespace VirtualServiceGateway.Analytics

open CheckedOperation WrappingCounter

def slotPackets (slots : List FlowMetrics) : ℕ :=
  tally (fun metrics ↦ metrics.packetCount.toNat) slots

def slotBytes (slots : List FlowMetrics) : ℕ :=
  tally (fun metrics ↦ metrics.byteCount.toNat) slots

def slotLosses (slots : List FlowMetrics) : ℕ :=
  tally (fun metrics ↦ metrics.lossCount.toNat) slots

namespace QoECollector

/-- The slots that a service query counts: those not updated before the start of its window, which
is taken modulo `2 ^ 64`. -/
def windowSlots (collector : QoECollector) (windowNs now : UInt64) : List FlowMetrics :=
  collector.flowMetrics.filter fun metrics ↦ !decide (metrics.lastUpdateNs < now - windowNs)

/-- The slots updated since the start of a window that began after time zero. -/
def recentSlots (collector : QoECollector) (windowNs now : UInt64) : List FlowMetrics :=
  collector.flowMetrics.filter fun metrics ↦
    decide (now.toNat - windowNs.toNat ≤ metrics.lastUpdateNs.toNat)

end QoECollector

/-- The result has the totals of the slots modulo `2 ^ 64`, and their loss percentage, which is zero
without packets. -/
structure ServiceKPI.Reports (kpi : ServiceKPI) (slots : List FlowMetrics) : Prop where
  flows : kpi.totalFlows.toNat = slots.length % 2 ^ 64
  packets : kpi.totalPackets.toNat = slotPackets slots % 2 ^ 64
  bytes : kpi.totalBytes.toNat = slotBytes slots % 2 ^ 64
  loss : kpi.avgLossPercent.toNat = 100 * slotLosses slots / slotPackets slots

/-- The 64-bit percentage of these losses and packets is the one over the natural numbers. Without
packets modulo `2 ^ 64` it is left over from the memory of the result. Fewer packets than `2 ^ 64`
need a product and a quotient that fit their words; more may agree by chance. -/
structure PercentFits (leftover : UInt32) (losses packets : ℕ) : Prop where
  unset : packets % 2 ^ 64 = 0 → leftover.toNat = 100 * losses / packets
  fits : packets % 2 ^ 64 ≠ 0 → packets < 2 ^ 64 →
    100 * losses < 2 ^ 64 ∧ 100 * losses / packets < 2 ^ 32
  wrapped : packets % 2 ^ 64 ≠ 0 → 2 ^ 64 ≤ packets →
    100 * losses % 2 ^ 64 / (packets % 2 ^ 64) % 2 ^ 32 = 100 * losses / packets

/-- The memory of the result holds no totals, and the percentage of the slots fits. -/
structure ServiceKPI.ReadyFor (prior : ServiceKPI) (slots : List FlowMetrics) : Prop where
  flows : prior.totalFlows = 0
  packets : prior.totalPackets = 0
  bytes : prior.totalBytes = 0
  percent : PercentFits prior.avgLossPercent (slotLosses slots) (slotPackets slots)

/-! ## The query as a whole -/

/-- The loss percentage that a query leaves in its result. -/
def percentOf (leftover : UInt32) (losses packets : ℕ) : UInt32 :=
  if 0 < wrap64 packets then (wrap64 losses * 100 / wrap64 packets).toUInt32 else leftover

/-- What a service query returns. -/
theorem getServiceKpi_eq (collector : QoECollector) (serviceId : UInt16) (windowNs now : UInt64)
    (prior : ServiceKPI) :
    let slots := collector.windowSlots windowNs now
    collector.getServiceKpi serviceId windowNs now prior =
      { serviceId := serviceId
        totalFlows := prior.totalFlows + wrap64 slots.length
        totalBytes := prior.totalBytes + wrap64 (slotBytes slots)
        totalPackets := prior.totalPackets + wrap64 (slotPackets slots)
        avgLossPercent := percentOf prior.avgLossPercent (slotLosses slots) (slotPackets slots)
        windowStartNs := now - windowNs
        windowEndNs := now } := by
  intro slots
  have hflows : (slots.map fun _ ↦ (1 : UInt64)).sum = wrap64 slots.length := by
    rw [sum_map_eq_wrap64, ← tally_one]
    rfl
  have hlosses : (slots.map fun metrics ↦ metrics.lossCount.toUInt64).sum =
      wrap64 (slotLosses slots) := by
    rw [sum_map_eq_wrap64]
    simp only [UInt32.toNat_toUInt64]
    rfl
  have hpackets : (slots.map FlowMetrics.packetCount).sum = wrap64 (slotPackets slots) :=
    sum_map_eq_wrap64 _ slots
  have hbytes : (slots.map FlowMetrics.byteCount).sum = wrap64 (slotBytes slots) :=
    sum_map_eq_wrap64 _ slots
  have hslots : (collector.flowMetrics.filter fun metrics ↦
      !decide (metrics.lastUpdateNs < now - windowNs)) = slots := rfl
  simp only [QoECollector.getServiceKpi, foldl_addToService, hslots, hflows, hlosses, hpackets,
    hbytes, zero_add, percentOf]
  split <;> rfl

/-! ## The percentage -/

theorem percentOf_of_unset {packets : ℕ} (hunset : packets % 2 ^ 64 = 0) (leftover : UInt32)
    (losses : ℕ) : percentOf leftover losses packets = leftover := by
  have hnone : ¬0 < wrap64 packets := by
    rw [(wrap64_eq_zero_iff packets).mpr hunset]
    decide
  exact if_neg hnone

/-- With packets the percentage is a quotient of wrapped numbers, cut to 32 bits. -/
theorem toNat_percentOf {packets : ℕ} (hset : packets % 2 ^ 64 ≠ 0) (leftover : UInt32)
    (losses : ℕ) :
    (percentOf leftover losses packets).toNat =
      100 * losses % 2 ^ 64 / (packets % 2 ^ 64) % 2 ^ 32 := by
  have hsome : 0 < wrap64 packets := by
    rw [UInt64.pos_iff_ne_zero, Ne, wrap64_eq_zero_iff]
    exact hset
  have hproduct : (wrap64 losses * 100).toNat = 100 * losses % 2 ^ 64 := by
    rw [UInt64.toNat_mul, toNat_wrap64, Nat.mod_mul_mod, Nat.mul_comm]
    rfl
  unfold percentOf
  rw [if_pos hsome, UInt64.toNat_toUInt32, UInt64.toNat_div, hproduct, toNat_wrap64]

/-- The percentage is exact exactly when it fits. -/
theorem toNat_percentOf_eq_iff (leftover : UInt32) (losses packets : ℕ) :
    (percentOf leftover losses packets).toNat = 100 * losses / packets ↔
      PercentFits leftover losses packets := by
  by_cases hunset : packets % 2 ^ 64 = 0
  · rw [percentOf_of_unset hunset]
    exact ⟨fun hexact ↦ ⟨fun _ ↦ hexact, fun hset ↦ absurd hunset hset,
      fun hset ↦ absurd hunset hset⟩, fun hfits ↦ hfits.unset hunset⟩
  rw [toNat_percentOf hunset]
  by_cases hsmall : packets < 2 ^ 64
  · have hpos : 0 < packets := by omega
    rw [Nat.mod_eq_of_lt hsmall]
    constructor
    · intro hexact
      have hcut : 100 * losses % 2 ^ 64 / packets % 2 ^ 32 ≤ 100 * losses % 2 ^ 64 / packets :=
        Nat.mod_le _ _
      have hwrap : 100 * losses % 2 ^ 64 / packets ≤ 100 * losses / packets :=
        Nat.div_le_div_right (Nat.mod_le _ _)
      have hquotient : 100 * losses % 2 ^ 64 / packets = 100 * losses / packets := by omega
      have hproduct := (mod_div_eq_div_iff hpos hsmall.le).mp hquotient
      have hword : 100 * losses / packets < 2 ^ 32 := by
        rw [← hexact]
        exact Nat.mod_lt _ (by decide)
      exact ⟨fun h ↦ absurd h hunset, fun _ _ ↦ ⟨hproduct, hword⟩,
        fun _ hlarge ↦ absurd hsmall (Nat.not_lt.mpr hlarge)⟩
    · intro hfits
      obtain ⟨hproduct, hword⟩ := hfits.fits hunset hsmall
      rw [Nat.mod_eq_of_lt hproduct, Nat.mod_eq_of_lt hword]
  · have hlarge := Nat.not_lt.mp hsmall
    exact ⟨fun hexact ↦ ⟨fun h ↦ absurd h hunset, fun _ h ↦ absurd h hsmall, fun _ _ ↦ hexact⟩,
      fun hfits ↦ hfits.wrapped hunset hlarge⟩

/-! ## The totals -/

/-- What a counter that starts at its leftover ends with is the wrapped total exactly when the
leftover was zero. -/
theorem toNat_add_wrap64_iff (leftover : UInt64) (total : ℕ) :
    (leftover + wrap64 total).toNat = total % 2 ^ 64 ↔ leftover = 0 := by
  rw [← toNat_wrap64, UInt64.toNat_inj]
  exact add_eq_right

/-- In a window that does not reach back before time zero the query counts the recent slots. -/
theorem windowSlots_eq_recentSlots (collector : QoECollector) {windowNs now : UInt64}
    (hwindow : windowNs ≤ now) :
    collector.windowSlots windowNs now = collector.recentSlots windowNs now := by
  apply List.filter_congr
  intro metrics _
  rw [← decide_not, decide_eq_decide, UInt64.not_lt, UInt64.le_iff_toNat_le,
    UInt64.toNat_sub_of_le _ _ hwindow]

/-- A defined snapshot of a flow has the packets and bytes of its slot. -/
theorem counts_of_getFlowKpi {collector : QoECollector} {flowId : UInt32} {metrics : FlowMetrics}
    (hmetrics : collector.flowMetrics[flowId.toNat]? = some metrics) {prior kpi : FlowKPI}
    (hkpi : collector.getFlowKpi flowId prior = .ok kpi) :
    kpi.packetCount = metrics.packetCount ∧ kpi.byteCount = metrics.byteCount := by
  obtain ⟨hnone, -⟩ | ⟨found, lossPercent, hfound, rfl⟩ := getFlowKpi_eq_ok hkpi
  · rw [hnone] at hmetrics
    cases hmetrics
  · rw [hmetrics] at hfound
    obtain rfl := Option.some.inj hfound
    exact ⟨rfl, rfl⟩

/-- **Exact totals condition.** In every state and for every window that does not reach back before
time zero, a service query reports the totals of the slots updated in the window if and only if the
memory of its result held no totals and the percentage fits. The packets and bytes of a slot are
those of its flow's snapshot. -/
theorem getServiceKpi_reports_iff (collector : QoECollector) (serviceId : UInt16)
    (windowNs now : UInt64) (prior : ServiceKPI) (hwindow : windowNs ≤ now) :
    ((collector.getServiceKpi serviceId windowNs now prior).Reports
        (collector.recentSlots windowNs now) ↔
      prior.ReadyFor (collector.recentSlots windowNs now)) ∧
    ∀ flowId metrics, collector.flowMetrics[UInt32.toNat flowId]? = some metrics →
      ∀ priorKpi kpi, collector.getFlowKpi flowId priorKpi = .ok kpi →
        kpi.packetCount = metrics.packetCount ∧ kpi.byteCount = metrics.byteCount := by
  refine ⟨?_, fun flowId metrics hmetrics priorKpi kpi hkpi ↦ counts_of_getFlowKpi hmetrics hkpi⟩
  rw [getServiceKpi_eq, windowSlots_eq_recentSlots collector hwindow]
  generalize collector.recentSlots windowNs now = slots
  constructor
  · intro hreports
    exact {
      flows := (toNat_add_wrap64_iff _ _).mp hreports.flows
      packets := (toNat_add_wrap64_iff _ _).mp hreports.packets
      bytes := (toNat_add_wrap64_iff _ _).mp hreports.bytes
      percent := (toNat_percentOf_eq_iff _ _ _).mp hreports.loss }
  · intro hready
    exact {
      flows := (toNat_add_wrap64_iff _ _).mpr hready.flows
      packets := (toNat_add_wrap64_iff _ _).mpr hready.packets
      bytes := (toNat_add_wrap64_iff _ _).mpr hready.bytes
      loss := (toNat_percentOf_eq_iff _ _ _).mpr hready.percent }

/-- A table of one flow with one sample of 100 bytes, recorded at time 50. -/
def oneSampleTable : QoECollector :=
  .after 1 (fun _ ↦ 0) [.recordSample ⟨0, 1, 1, 100, 5, false, 0⟩ 50]

/-- From a result of zeros, the sample is reported. -/
theorem one_sample_reported :
    (oneSampleTable.getServiceKpi 20 60 100 .zero).Reports (oneSampleTable.recentSlots 60 100) :=
  (getServiceKpi_reports_iff oneSampleTable 20 60 100 .zero (by decide)).1.mpr
    ⟨rfl, rfl, rfl, ⟨by decide +kernel, by decide +kernel, by decide +kernel⟩⟩

/-- A result that held 7 flows reports 8 of them for the one of the table, and one that held a
percentage of 42 keeps it when the window has no packets. -/
theorem leftover_reported :
    (oneSampleTable.getServiceKpi 20 60 100 { ServiceKPI.zero with totalFlows := 7 }).totalFlows
      = 8 ∧
    ¬(oneSampleTable.getServiceKpi 20 60 100 { ServiceKPI.zero with totalFlows := 7 }).Reports
      (oneSampleTable.recentSlots 60 100) ∧
    (oneSampleTable.getServiceKpi 20 10 100 { ServiceKPI.zero with avgLossPercent := 42 }).totals =
      (0, 0, 0, 42) := by
  refine ⟨by decide +kernel, fun hreports ↦ ?_, by decide +kernel⟩
  exact absurd hreports.flows (by decide +kernel)

end VirtualServiceGateway.Analytics
