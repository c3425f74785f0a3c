import VirtualServiceGateway.Analytics.PhantomFlows

/-!
# Widening the window of a service query

The start of the window is taken modulo `2 ^ 64`, so a window longer than the clock reading starts
after it. A wider window then counts every flow of a narrower one when both are on the same side of
the clock reading, and otherwise only when no flow was updated between the two starts.
-/

namespace VirtualServiceGateway.Analytics

open WrappingCounter

namespace QoECollector

/-- Every flow counted in the narrow window is counted in the wide one, and no total of a query that
starts from zeros gets smaller, as long as the totals of the wide window do not wrap. -/
structure Widens (collector : QoECollector) (narrowNs wideNs now : UInt64) : Prop where
  flows : collector.servedFlows narrowNs now ⊆ collector.servedFlows wideNs now
  totals : ∀ serviceId,
    slotPackets (collector.windowSlots wideNs now) < 2 ^ 64 →
    slotBytes (collector.windowSlots wideNs now) < 2 ^ 64 →
    let narrow := collector.getServiceKpi serviceId narrowNs now .zero
    let wide := collector.getServiceKpi serviceId wideNs now .zero
    narrow.totalFlows ≤ wide.totalFlows ∧ narrow.totalPackets ≤ wide.totalPackets ∧
      narrow.totalBytes ≤ wide.totalBytes

/-- No slot was updated after the start of the narrow window and before the start of the wide one,
which lies after the clock reading when the wide window is longer than it. -/
def NoneBetween (collector : QoECollector) (narrowNs wideNs now : UInt64) : Prop :=
  ∀ metrics ∈ collector.flowMetrics,
    metrics.lastUpdateNs.toNat < now.toNat - narrowNs.toNat ∨
      2 ^ 64 + now.toNat - wideNs.toNat ≤ metrics.lastUpdateNs.toNat

/-! ## Starts of windows -/

/-- Where a window starts, on the clock. -/
theorem toNat_windowStart (windowNs now : UInt64) :
    (now - windowNs).toNat =
      if windowNs ≤ now then now.toNat - windowNs.toNat
      else 2 ^ 64 + now.toNat - windowNs.toNat := by
  have hwindow := windowNs.toNat_lt
  have hnow := now.toNat_lt
  rw [UInt64.toNat_sub]
  split
  case isTrue hle =>
    rw [UInt64.le_iff_toNat_le] at hle
    omega
  case isFalse hlt =>
    rw [UInt64.le_iff_toNat_le] at hlt
    omega

/-- The flows of one window are among those of the other exactly when this holds slot by slot. -/
theorem servedFlows_subset_iff (collector : QoECollector) (narrowNs wideNs now : UInt64) :
    collector.servedFlows narrowNs now ⊆ collector.servedFlows wideNs now ↔
      ∀ metrics ∈ collector.flowMetrics, now - narrowNs ≤ metrics.lastUpdateNs →
        now - wideNs ≤ metrics.lastUpdateNs := by
  have hserved (windowNs : UInt64) (metrics : FlowMetrics) :
      (!decide (metrics.lastUpdateNs < now - windowNs)) = true ↔
        now - windowNs ≤ metrics.lastUpdateNs := by
    rw [Bool.not_eq_true', decide_eq_false_iff_not, UInt64.not_lt]
  constructor
  · intro hsubset metrics hmetrics hnarrow
    obtain ⟨flow, hslot⟩ := List.getElem?_of_mem hmetrics
    have hflow := toNat_ofNat_flow (List.getElem?_eq_some_iff.mp hslot).1
    have hcounted : UInt32.ofNat flow ∈ collector.servedFlows narrowNs now :=
      mem_flowsWhere.mpr ⟨metrics, by rwa [hflow], (hserved narrowNs metrics).mpr hnarrow⟩
    obtain ⟨found, hfound, hwide⟩ := mem_flowsWhere.mp (hsubset hcounted)
    rw [hflow, hslot] at hfound
    obtain rfl := Option.some.inj hfound
    exact (hserved wideNs metrics).mp hwide
  · intro hslots flowId hcounted
    obtain ⟨metrics, hslot, hnarrow⟩ := mem_flowsWhere.mp hcounted
    have hwide := hslots metrics (List.mem_of_getElem? hslot)
      ((hserved narrowNs metrics).mp hnarrow)
    exact mem_flowsWhere.mpr ⟨metrics, hslot, (hserved wideNs metrics).mpr hwide⟩

/-- Slot by slot, the wide window keeps what the narrow one counts in these three cases only. -/
theorem starts_iff (collector : QoECollector) {narrowNs wideNs : UInt64} (hle : narrowNs ≤ wideNs)
    (now : UInt64) :
    (∀ metrics ∈ collector.flowMetrics, now - narrowNs ≤ metrics.lastUpdateNs →
        now - wideNs ≤ metrics.lastUpdateNs) ↔
      wideNs ≤ now ∨ now < narrowNs ∨ collector.NoneBetween narrowNs wideNs now := by
  have hnarrow := toNat_windowStart narrowNs now
  have hwide := toNat_windowStart wideNs now
  simp only [UInt64.le_iff_toNat_le, UInt64.lt_iff_toNat_lt, hnarrow, hwide] at hle ⊢
  unfold NoneBetween
  by_cases hinside : wideNs.toNat ≤ now.toNat
  · refine iff_of_true (fun metrics _ hcounted ↦ ?_) (Or.inl hinside)
    rw [if_pos (hle.trans hinside)] at hcounted
    rw [if_pos hinside]
    omega
  · by_cases hbeyond : now.toNat < narrowNs.toNat
    · refine iff_of_true (fun metrics _ hcounted ↦ ?_) (Or.inr (Or.inl hbeyond))
      rw [if_neg (Nat.not_le.mpr hbeyond)] at hcounted
      rw [if_neg hinside]
      omega
    · rw [or_iff_right hinside, or_iff_right hbeyond, if_pos (Nat.not_lt.mp hbeyond),
        if_neg hinside]
      apply forall₂_congr
      intro metrics _
      omega

/-! ## Totals -/

/-- The totals of a query that starts from zeros, before they wrap. -/
theorem totals_getServiceKpi_zero (collector : QoECollector) (serviceId : UInt16)
    (windowNs now : UInt64) :
    let kpi := collector.getServiceKpi serviceId windowNs now .zero
    let slots := collector.windowSlots windowNs now
    kpi.totalFlows = wrap64 slots.length ∧ kpi.totalPackets = wrap64 (slotPackets slots) ∧
      kpi.totalBytes = wrap64 (slotBytes slots) := by
  intro kpi slots
  have hkpi : kpi = _ := getServiceKpi_eq collector serviceId windowNs now .zero
  rw [hkpi]
  exact ⟨zero_add _, zero_add _, zero_add _⟩

/-- Wrapping keeps the order of totals that fit. -/
theorem wrap64_le_wrap64 {smaller larger : ℕ} (hle : smaller ≤ larger) (hfits : larger < 2 ^ 64) :
    wrap64 smaller ≤ wrap64 larger := by
  rw [UInt64.le_iff_toNat_le, toNat_wrap64, toNat_wrap64, Nat.mod_eq_of_lt hfits,
    Nat.mod_eq_of_lt (hle.trans_lt hfits)]
  exact hle

theorem length_windowSlots_lt (collector : QoECollector) (windowNs now : UInt64) :
    (collector.windowSlots windowNs now).length < 2 ^ 64 := by
  calc
    (collector.windowSlots windowNs now).length ≤ collector.flowMetrics.length :=
      List.length_filter_le ..
    _ < 2 ^ 32 := length_lt collector
    _ < 2 ^ 64 := by decide

/-- Slots that are in order slot by slot are so as lists. -/
theorem windowSlots_sublist {collector : QoECollector} {narrowNs wideNs now : UInt64}
    (hstarts : ∀ metrics ∈ collector.flowMetrics, now - narrowNs ≤ metrics.lastUpdateNs →
      now - wideNs ≤ metrics.lastUpdateNs) :
    (collector.windowSlots narrowNs now).Sublist (collector.windowSlots wideNs now) := by
  have hboth : collector.windowSlots narrowNs now =
      (collector.windowSlots wideNs now).filter
        fun metrics ↦ !decide (metrics.lastUpdateNs < now - narrowNs) := by
    unfold windowSlots
    rw [List.filter_filter]
    apply List.filter_congr
    intro metrics hmetrics
    have hslot := hstarts metrics hmetrics
    simp only [← decide_not, UInt64.not_lt, ← Bool.decide_and, decide_eq_decide]
    exact (and_iff_left_of_imp hslot).symm
  rw [hboth]
  exact List.filter_sublist

/-- When every slot of the narrow window is in the wide one, the totals are in order. -/
theorem Widens.of_starts {collector : QoECollector} {narrowNs wideNs now : UInt64}
    (hstarts : ∀ metrics ∈ collector.flowMetrics, now - narrowNs ≤ metrics.lastUpdateNs →
      now - wideNs ≤ metrics.lastUpdateNs) : collector.Widens narrowNs wideNs now where
  flows := (servedFlows_subset_iff collector narrowNs wideNs now).mpr hstarts
  totals serviceId hpackets hbytes := by
    intro narrow wide
    have hslots := windowSlots_sublist hstarts
    obtain ⟨hflowsNarrow, hpacketsNarrow, hbytesNarrow⟩ :=
      totals_getServiceKpi_zero collector serviceId narrowNs now
    obtain ⟨hflowsWide, hpacketsWide, hbytesWide⟩ :=
      totals_getServiceKpi_zero collector serviceId wideNs now
    refine ⟨?_, ?_, ?_⟩
    · rw [hflowsNarrow, hflowsWide]
      exact wrap64_le_wrap64 hslots.length_le (length_windowSlots_lt collector wideNs now)
    · rw [hpacketsNarrow, hpacketsWide]
      exact wrap64_le_wrap64 (tally_sublist _ hslots) hpackets
    · rw [hbytesNarrow, hbytesWide]
      exact wrap64_le_wrap64 (tally_sublist _ hslots) hbytes

/-- **Exact widening condition.** For two windows the wider one counts every flow of the narrower
one if and only if it is not longer than the clock reading, the narrower one is longer too, or no
flow was updated between their starts. -/
theorem widens_iff (collector : QoECollector) (narrowNs wideNs now : UInt64)
    (hle : narrowNs ≤ wideNs) :
    collector.Widens narrowNs wideNs now ↔
      wideNs ≤ now ∨ now < narrowNs ∨ collector.NoneBetween narrowNs wideNs now := by
  rw [← starts_iff collector hle]
  constructor
  · intro hwidens
    exact (servedFlows_subset_iff collector narrowNs wideNs now).mp hwidens.flows
  · exact Widens.of_starts

/-- A window within the clock reading widens to the whole of it. -/
theorem widens_to_clock : oneSampleTable.Widens 60 100 100 :=
  (widens_iff oneSampleTable 60 100 100 (by decide)).mpr (Or.inl (by decide))

/-- The longest window, at time 100, leaves out the flow that a window of 60 counts. -/
theorem longest_window_counts_less :
    oneSampleTable.servedFlows 60 100 = [0] ∧
    oneSampleTable.servedFlows (2 ^ 64 - 1) 100 = [] ∧
    ¬oneSampleTable.Widens 60 (2 ^ 64 - 1) 100 := by
  refine ⟨by decide +kernel, by decide +kernel, fun hwidens ↦ ?_⟩
  have hlost : (0 : UInt32) ∉ oneSampleTable.servedFlows (2 ^ 64 - 1) 100 := by decide +kernel
  exact hlost (hwidens.flows (by decide +kernel))

end QoECollector

end VirtualServiceGateway.Analytics
