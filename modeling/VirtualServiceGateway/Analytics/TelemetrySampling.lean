import VirtualServiceGateway.Analytics.FlowCounters
import VirtualServiceGateway.Foundation.StridedSampling

/-!
# The sampled telemetry

The sampling loop walks the table by a stride and stops at its end or at the cap. As long as the
32-bit index does not wrap before that, the result is the first active flows among the multiples of
the stride. The index wraps only in tables whose size comes within a stride of `2 ^ 32`, and only
when too few flows are active to reach the cap before. A cap of zero divides by zero.
-/

namespace VirtualServiceGateway.Analytics

open CheckedOperation StridedSampling

/-! ## Slots by flow id -/

theorem isActive_iff {collector : QoECollector} {flow : ℕ} :
    collector.isActive flow ↔
      ∃ metrics, collector.flowMetrics[flow]? = some metrics ∧ metrics.active := by
  unfold QoECollector.isActive
  rw [Option.any_eq_true]

theorem length_lt (collector : QoECollector) : collector.flowMetrics.length < 2 ^ 32 := by
  rw [collector.size_eq]
  exact collector.maxFlows.toNat_lt

/-- A flow id of the table is the number of its slot. -/
theorem toNat_ofNat_flow {collector : QoECollector} {flow : ℕ}
    (hflow : flow < collector.flowMetrics.length) : (UInt32.ofNat flow).toNat = flow := by
  rw [UInt32.toNat_ofNat', Nat.mod_eq_of_lt (hflow.trans (length_lt collector))]

/-! ## The walk of the loop index -/

namespace QoECollector

/-- The sampling loop, with the loop index of every test of its condition so far, the last one
included. -/
def telemetryTraceFrom (collector : QoECollector) (maxSamples samplingInterval : UInt32)
    (prior : UInt32 → TelemetrySample) :
    ℕ → UInt32 → List UInt32 → List TelemetrySample →
      Except Fault (List UInt32 × List TelemetrySample)
  | 0, _, _, _ => .error .endless
  | fuel + 1, i, tested, samples =>
      match collector.flowMetrics[i.toNat]? with
      | none => pure (tested ++ [i], samples)
      | some metrics =>
          if maxSamples.toNat ≤ samples.length then pure (tested ++ [i], samples)
          else if metrics.active then
            telemetryTraceFrom collector maxSamples samplingInterval prior fuel
              (i + samplingInterval) (tested ++ [i])
              (samples ++
                [{ prior i with flowId := i, timestampNs := metrics.lastUpdateNs }])
          else
            telemetryTraceFrom collector maxSamples samplingInterval prior fuel
              (i + samplingInterval) (tested ++ [i]) samples

def telemetryTrace (collector : QoECollector) (maxSamples : UInt32)
    (prior : UInt32 → TelemetrySample) : Except Fault (List UInt32 × List TelemetrySample) := do
  let quotient ← divide (UInt64.ofNat collector.flowMetrics.length) maxSamples.toUInt64
  telemetryTraceFrom collector maxSamples (max 1 quotient.toUInt32) prior (2 ^ 64) 0 [] []

/-- Recording the loop index changes neither the samples nor whether they are defined. -/
theorem telemetryTraceFrom_snd (collector : QoECollector) (maxSamples samplingInterval : UInt32)
    (prior : UInt32 → TelemetrySample) (fuel : ℕ) (i : UInt32) (tested : List UInt32)
    (samples : List TelemetrySample) :
    Prod.snd <$>
        collector.telemetryTraceFrom maxSamples samplingInterval prior fuel i tested samples =
      collector.telemetryFrom maxSamples samplingInterval prior fuel i samples := by
  induction fuel generalizing i tested samples with
  | zero => rfl
  | succ fuel ih =>
    unfold telemetryTraceFrom telemetryFrom
    cases collector.flowMetrics[i.toNat]? with
    | none => rfl
    | some metrics =>
      simp only
      by_cases hcap : maxSamples.toNat ≤ samples.length
      · rw [if_pos hcap, if_pos hcap]
        rfl
      · rw [if_neg hcap, if_neg hcap]
        by_cases hactive : metrics.active
        · rw [if_pos hactive, if_pos hactive]
          exact ih ..
        · rw [if_neg hactive, if_neg hactive]
          exact ih ..

theorem telemetryTrace_snd (collector : QoECollector) (maxSamples : UInt32)
    (prior : UInt32 → TelemetrySample) :
    Prod.snd <$> collector.telemetryTrace maxSamples prior =
      collector.getAggregatedTelemetry maxSamples prior := by
  unfold telemetryTrace getAggregatedTelemetry
  cases divide (UInt64.ofNat collector.flowMetrics.length) maxSamples.toUInt64 with
  | error fault => rfl
  | ok quotient => exact telemetryTraceFrom_snd ..

/-- What the loop pushes for an active flow. -/
def sampleOf (collector : QoECollector) (prior : UInt32 → TelemetrySample) (flow : ℕ) :
    TelemetrySample :=
  { prior (UInt32.ofNat flow) with
    flowId := UInt32.ofNat flow
    timestampNs := (collector.flowMetrics[flow]?.map FlowMetrics.lastUpdateNs).getD 0 }

section Loop

variable {collector : QoECollector} {maxSamples samplingInterval : UInt32}
  {prior : UInt32 → TelemetrySample} {flow count : ℕ} {tested : List UInt32}
  {samples : List TelemetrySample}

/-- Past the table the loop ends. -/
theorem telemetryTraceFrom_end (fuel : ℕ) {i : UInt32}
    (hend : collector.flowMetrics.length ≤ i.toNat) :
    collector.telemetryTraceFrom maxSamples samplingInterval prior (fuel + 1) i tested samples =
      .ok (tested ++ [i], samples) := by
  unfold telemetryTraceFrom
  rw [List.getElem?_eq_none hend]
  rfl

/-- At the cap the loop ends. -/
theorem telemetryTraceFrom_cap (fuel : ℕ) (i : UInt32)
    (hcap : maxSamples.toNat ≤ samples.length) :
    collector.telemetryTraceFrom maxSamples samplingInterval prior (fuel + 1) i tested samples =
      .ok (tested ++ [i], samples) := by
  unfold telemetryTraceFrom
  cases collector.flowMetrics[i.toNat]? with
  | none => rfl
  | some metrics => exact if_pos hcap

/-- Below the cap, a slot of the table adds its sample if it is active, and the index moves on. -/
theorem telemetryTraceFrom_step (fuel : ℕ) (hflow : flow < collector.flowMetrics.length)
    (hroom : samples.length < maxSamples.toNat) :
    collector.telemetryTraceFrom maxSamples samplingInterval prior (fuel + 1)
        (UInt32.ofNat flow) tested samples =
      collector.telemetryTraceFrom maxSamples samplingInterval prior fuel
        (UInt32.ofNat (flow + samplingInterval.toNat)) (tested ++ [UInt32.ofNat flow])
        (samples ++ ([flow].filter collector.isActive).map (collector.sampleOf prior)) := by
  have hnext : UInt32.ofNat flow + samplingInterval =
      UInt32.ofNat (flow + samplingInterval.toNat) := by
    rw [UInt32.ofNat_add, UInt32.ofNat_toNat]
  have hactive : collector.isActive flow = collector.flowMetrics[flow].active := by
    unfold isActive
    rw [List.getElem?_eq_getElem hflow]
    rfl
  have hsample : collector.sampleOf prior flow = { prior (UInt32.ofNat flow) with
      flowId := UInt32.ofNat flow
      timestampNs := collector.flowMetrics[flow].lastUpdateNs } := by
    unfold sampleOf
    rw [List.getElem?_eq_getElem hflow]
    rfl
  rw [telemetryTraceFrom, toNat_ofNat_flow hflow, List.getElem?_eq_getElem hflow]
  simp only [Nat.not_le.mpr hroom, if_false]
  rw [List.filter_singleton, hactive, hnext]
  cases collector.flowMetrics[flow].active with
  | true => rw [cond_true, List.map_singleton, hsample, if_pos rfl]
  | false => rw [cond_false, List.map_nil, List.append_nil, if_neg Bool.false_ne_true]

/-- **The loop.** As long as the cap is not reached, the loop tests one multiple of the stride after
the other and adds the active flows among them. -/
theorem telemetryTraceFrom_zero {rounds : ℕ}
    (hinside : ∀ factor < count,
      samplingInterval.toNat * factor < collector.flowMetrics.length)
    (hroom : ∀ factor < count, (List.range' 0 factor samplingInterval.toNat).countP
      collector.isActive < maxSamples.toNat)
    (hrounds : count ≤ rounds) :
    collector.telemetryTraceFrom maxSamples samplingInterval prior rounds 0 [] [] =
      collector.telemetryTraceFrom maxSamples samplingInterval prior (rounds - count)
        (UInt32.ofNat (samplingInterval.toNat * count))
        ((List.range' 0 count samplingInterval.toNat).map UInt32.ofNat)
        (((List.range' 0 count samplingInterval.toNat).filter collector.isActive).map
          (collector.sampleOf prior)) := by
  induction count with
  | zero => rfl
  | succ count ih =>
    have hlast := Nat.lt_succ_self count
    have hbelow : (((List.range' 0 count samplingInterval.toNat).filter collector.isActive).map
        (collector.sampleOf prior)).length < maxSamples.toNat := by
      rw [List.length_map, ← List.countP_eq_length_filter]
      exact hroom count hlast
    have hfuel : rounds - count = rounds - (count + 1) + 1 := by omega
    rw [ih (fun factor hfactor ↦ hinside factor (hfactor.trans hlast))
        (fun factor hfactor ↦ hroom factor (hfactor.trans hlast)) (by omega),
      hfuel, telemetryTraceFrom_step _ (hinside count hlast) hbelow, List.range'_concat,
      Nat.zero_add]
    simp only [List.map_append, List.map_singleton, List.filter_append, Nat.mul_succ]

/-- A loop that reaches the cap inside the table ends with the first samples of the walk. -/
theorem telemetryTraceFrom_capped {points reached rounds : ℕ}
    (hinside : ∀ factor < points,
      samplingInterval.toNat * factor < collector.flowMetrics.length)
    (hreached : reached < points)
    (hbefore : ∀ factor < reached, (List.range' 0 factor samplingInterval.toNat).countP
      collector.isActive < maxSamples.toNat)
    (hmet : maxSamples.toNat ≤ (List.range' 0 reached samplingInterval.toNat).countP
      collector.isActive)
    (hrounds : points < rounds) :
    collector.telemetryTraceFrom maxSamples samplingInterval prior rounds 0 [] [] =
      .ok ((List.range' 0 (reached + 1) samplingInterval.toNat).map UInt32.ofNat,
        (((List.range' 0 points samplingInterval.toNat).filter collector.isActive).take
          maxSamples.toNat).map (collector.sampleOf prior)) := by
  have hexact := Nat.le_antisymm (countP_walk_le hbefore) hmet
  have hfuel : rounds - reached = rounds - (reached + 1) + 1 := by omega
  rw [telemetryTraceFrom_zero (fun factor hfactor ↦ hinside factor (hfactor.trans hreached))
    hbefore (by omega), hfuel, telemetryTraceFrom_cap, take_filter_walk hreached.le hexact,
    List.range'_concat]
  · simp
  · rw [List.length_map, ← List.countP_eq_length_filter, hexact]

/-- A loop that stays below the cap ends past the table with all samples of the walk. -/
theorem telemetryTraceFrom_exhausted {points rounds : ℕ}
    (hinside : ∀ factor < points,
      samplingInterval.toNat * factor < collector.flowMetrics.length)
    (hbefore : ∀ factor < points, (List.range' 0 factor samplingInterval.toNat).countP
      collector.isActive < maxSamples.toNat)
    (hpast : collector.flowMetrics.length ≤ samplingInterval.toNat * points)
    (hend : samplingInterval.toNat * points < 2 ^ 32) (hrounds : points < rounds) :
    collector.telemetryTraceFrom maxSamples samplingInterval prior rounds 0 [] [] =
      .ok ((List.range' 0 (points + 1) samplingInterval.toNat).map UInt32.ofNat,
        (((List.range' 0 points samplingInterval.toNat).filter collector.isActive).take
          maxSamples.toNat).map (collector.sampleOf prior)) := by
  have hfuel : rounds - points = rounds - (points + 1) + 1 := by omega
  have hindex : (UInt32.ofNat (samplingInterval.toNat * points)).toNat =
      samplingInterval.toNat * points := by
    rw [UInt32.toNat_ofNat', Nat.mod_eq_of_lt hend]
  rw [telemetryTraceFrom_zero hinside hbefore (by omega), hfuel, telemetryTraceFrom_end,
    List.take_of_length_le, List.range'_concat]
  · simp
  · rw [← List.countP_eq_length_filter]
    exact countP_walk_le hbefore
  · rwa [hindex]

/-- Every test of the loop condition is recorded. -/
theorem tested_prefix_of_telemetryTraceFrom {fuel : ℕ} {i : UInt32}
    {result : List UInt32 × List TelemetrySample}
    (hresult : collector.telemetryTraceFrom maxSamples samplingInterval prior fuel i tested
      samples = .ok result) : tested ++ [i] <+: result.1 := by
  induction fuel generalizing i tested samples with
  | zero => cases hresult
  | succ fuel ih =>
    have hearlier (next : UInt32) : tested ++ [i] <+: tested ++ [i] ++ [next] :=
      List.prefix_append ..
    unfold telemetryTraceFrom at hresult
    split at hresult
    · rw [← Except.ok.inj hresult]
    · split at hresult
      · rw [← Except.ok.inj hresult]
      · split at hresult
        · exact (hearlier _).trans (ih hresult)
        · exact (hearlier _).trans (ih hresult)

/-- Below the cap, two multiples in a row are tested one after the other. -/
theorem tested_pair {last rounds : ℕ} {result : List UInt32 × List TelemetrySample}
    (hinside : ∀ factor < last + 1,
      samplingInterval.toNat * factor < collector.flowMetrics.length)
    (hbelow : ∀ factor < last + 1, (List.range' 0 factor samplingInterval.toNat).countP
      collector.isActive < maxSamples.toNat)
    (hrounds : last + 1 ≤ rounds)
    (hresult : collector.telemetryTraceFrom maxSamples samplingInterval prior rounds 0 [] [] =
      .ok result) :
    [UInt32.ofNat (samplingInterval.toNat * last),
      UInt32.ofNat (samplingInterval.toNat * (last + 1))].Sublist result.1 := by
  rw [telemetryTraceFrom_zero hinside hbelow hrounds] at hresult
  have htested := (tested_prefix_of_telemetryTraceFrom hresult).sublist
  rw [List.range'_concat, List.map_append, List.map_singleton, Nat.zero_add] at htested
  exact ((List.sublist_append_right _ _).append (List.Sublist.refl _)).trans htested

end Loop

/-! ## The whole walk -/

/-- The loop index does not wrap: either the multiple past the table still fits, or the cap is
reached before the last multiple. -/
def IndexFits (collector : QoECollector) (maxSamples : UInt32) : Prop :=
  let size := collector.maxFlows.toNat
  let stride := strideFor size maxSamples.toNat
  stride * (size ⌈/⌉ stride) < 2 ^ 32 ∨
    maxSamples.toNat ≤ (grid (size - stride) stride).countP collector.isActive

/-- Without a division by zero, the loop walks by the rounded-down quotient. -/
theorem telemetryTrace_of_ne_zero (collector : QoECollector) {maxSamples : UInt32}
    (hmax : maxSamples ≠ 0) (prior : UInt32 → TelemetrySample) :
    ∃ samplingInterval : UInt32,
      samplingInterval.toNat = strideFor collector.maxFlows.toNat maxSamples.toNat ∧
      collector.telemetryTrace maxSamples prior =
        collector.telemetryTraceFrom maxSamples samplingInterval prior (2 ^ 64) 0 [] [] := by
  have hlength := length_lt collector
  have hdivisor : maxSamples.toUInt64 ≠ 0 := by
    intro hzero
    have hvalue := congrArg UInt64.toNat hzero
    rw [UInt32.toNat_toUInt64] at hvalue
    exact hmax (UInt32.toNat.inj hvalue)
  have hquotient : collector.flowMetrics.length / maxSamples.toNat ≤ collector.flowMetrics.length :=
    Nat.div_le_self ..
  refine ⟨max 1 (UInt64.ofNat collector.flowMetrics.length / maxSamples.toUInt64).toUInt32, ?_, ?_⟩
  · rw [toNat_max, UInt64.toNat_toUInt32, UInt64.toNat_div, UInt32.toNat_toUInt64,
      UInt64.toNat_ofNat', Nat.mod_eq_of_lt (a := collector.flowMetrics.length) (by omega),
      Nat.mod_eq_of_lt (by omega), collector.size_eq]
    rfl
  · unfold telemetryTrace
    rw [divide_of_ne_zero _ hdivisor]
    rfl

/-- **The walk.** If the index does not wrap, the samples are the first active flows among the
multiples of the stride, and the loop index tested the multiples one after the other. -/
theorem telemetryTrace_eq (collector : QoECollector) {maxSamples : UInt32}
    (hmax : maxSamples ≠ 0) (hfits : collector.IndexFits maxSamples)
    (prior : UInt32 → TelemetrySample) :
    ∃ count, (∀ factor < count,
        strideFor collector.maxFlows.toNat maxSamples.toNat * factor < 2 ^ 32) ∧
      collector.telemetryTrace maxSamples prior =
        .ok ((List.range' 0 count (strideFor collector.maxFlows.toNat maxSamples.toNat)).map
            UInt32.ofNat,
          (sampled collector.maxFlows.toNat maxSamples.toNat collector.isActive).map
            (collector.sampleOf prior)) := by
  obtain ⟨samplingInterval, hinterval, htrace⟩ :=
    telemetryTrace_of_ne_zero collector hmax prior
  have hstride := strideFor_pos collector.maxFlows.toNat maxSamples.toNat
  have hsize := collector.size_eq
  have hlength := length_lt collector
  unfold sampled
  unfold IndexFits at hfits
  simp only [grid_eq_range' hstride, ceilDiv_sub hstride] at hfits ⊢
  rw [htrace]
  simp only [← hinterval] at hfits hstride ⊢
  generalize hpoints : collector.maxFlows.toNat ⌈/⌉ samplingInterval.toNat = points at hfits ⊢
  have hinside : ∀ factor, samplingInterval.toNat * factor < collector.flowMetrics.length ↔
      factor < points := by
    intro factor
    rw [hsize, ← hpoints]
    exact mul_lt_iff_lt_ceilDiv hstride factor
  have hsmall : ∀ factor < points, samplingInterval.toNat * factor < 2 ^ 32 := by
    intro factor hfactor
    exact ((hinside factor).mpr hfactor).trans hlength
  have hrounds : points < 2 ^ 64 := by
    have hle := ceilDiv_le_self hstride collector.maxFlows.toNat
    omega
  by_cases hcapped : ∃ reached < points, maxSamples.toNat ≤
      (List.range' 0 reached samplingInterval.toNat).countP collector.isActive
  · obtain ⟨reached, ⟨hreached, hmet⟩, hfirst⟩ := Nat.findX hcapped
    have hbefore : ∀ factor < reached,
        (List.range' 0 factor samplingInterval.toNat).countP collector.isActive <
          maxSamples.toNat := fun factor hfactor ↦
      Nat.not_le.mp fun h ↦ hfirst factor hfactor ⟨hfactor.trans hreached, h⟩
    exact ⟨reached + 1, fun factor hfactor ↦ hsmall factor (by omega),
      telemetryTraceFrom_capped (fun factor ↦ (hinside factor).mpr) hreached hbefore hmet hrounds⟩
  · simp only [not_exists, not_and, Nat.not_le] at hcapped
    have hend : samplingInterval.toNat * points < 2 ^ 32 := by
      rcases hfits with hfits | hmet
      · exact hfits
      · rcases Nat.eq_zero_or_pos points with rfl | hpos
        · exact Nat.two_pow_pos 32
        · exact absurd hmet (Nat.not_le.mpr (hcapped (points - 1) (Nat.sub_one_lt_of_lt hpos)))
    have hpast : collector.flowMetrics.length ≤ samplingInterval.toNat * points := by
      rw [← Nat.not_lt, hinside]
      exact Nat.lt_irrefl points
    refine ⟨points + 1, fun factor hfactor ↦ ?_, telemetryTraceFrom_exhausted
      (fun factor ↦ (hinside factor).mpr) hcapped hpast hend hrounds⟩
    rcases Nat.lt_succ_iff_lt_or_eq.mp hfactor with hearlier | rfl
    · exact hsmall factor hearlier
    · exact hend

theorem getAggregatedTelemetry_eq (collector : QoECollector) {maxSamples : UInt32}
    (hmax : maxSamples ≠ 0) (hfits : collector.IndexFits maxSamples)
    (prior : UInt32 → TelemetrySample) :
    collector.getAggregatedTelemetry maxSamples prior =
      .ok ((sampled collector.maxFlows.toNat maxSamples.toNat collector.isActive).map
        (collector.sampleOf prior)) := by
  obtain ⟨count, -, htrace⟩ := telemetryTrace_eq collector hmax hfits prior
  rw [← telemetryTrace_snd, htrace]
  rfl

/-! ## When the index fits -/

/-- In a table of less than half the index range the index does not wrap. -/
theorem indexFits_of_lt {collector : QoECollector} (hflows : collector.maxFlows.toNat < 2 ^ 31)
    (maxSamples : UInt32) : collector.IndexFits maxSamples := by
  have hpast := mul_ceilDiv_lt (strideFor_pos collector.maxFlows.toNat maxSamples.toNat)
    collector.maxFlows.toNat
  have hstride : strideFor collector.maxFlows.toNat maxSamples.toNat ≤
      max 1 collector.maxFlows.toNat :=
    max_le_max le_rfl (Nat.div_le_self ..)
  exact Or.inl (by omega)

/-- With room for every flow the index takes every slot and does not wrap. -/
theorem indexFits_of_le {collector : QoECollector} {maxSamples : UInt32}
    (hroom : collector.maxFlows.toNat ≤ maxSamples.toNat) : collector.IndexFits maxSamples := by
  have hpast := mul_ceilDiv_lt (strideFor_pos collector.maxFlows.toNat maxSamples.toNat)
    collector.maxFlows.toNat
  have hbound := collector.maxFlows.toNat_lt
  unfold IndexFits
  simp only [strideFor_of_le hroom] at hpast ⊢
  exact Or.inl (by omega)

/-- When every flow is active the index does not wrap: the cap strides fit into the table, and if
there are more multiples than the cap takes, the cap ends the loop. -/
theorem indexFits_of_all {collector : QoECollector}
    (hall : ∀ flow < collector.maxFlows.toNat, collector.isActive flow) (maxSamples : UInt32) :
    collector.IndexFits maxSamples := by
  rcases Nat.le_total collector.maxFlows.toNat maxSamples.toNat with hsmall | hlarge
  · exact indexFits_of_le hsmall
  · have hstride := strideFor_pos collector.maxFlows.toNat maxSamples.toNat
    have hpoints := le_length_grid hlarge
    rw [length_grid hstride] at hpoints
    rcases Nat.eq_or_lt_of_le hpoints with hexact | hmore
    · refine Or.inl ?_
      calc
        strideFor collector.maxFlows.toNat maxSamples.toNat *
            (collector.maxFlows.toNat ⌈/⌉
              strideFor collector.maxFlows.toNat maxSamples.toNat) =
            maxSamples.toNat * strideFor collector.maxFlows.toNat maxSamples.toNat := by
          rw [← hexact, Nat.mul_comm]
        _ ≤ collector.maxFlows.toNat := mul_strideFor_le hlarge
        _ < 2 ^ 32 := collector.maxFlows.toNat_lt
    · refine Or.inr ?_
      have hactive : ∀ flow ∈ grid (collector.maxFlows.toNat -
          strideFor collector.maxFlows.toNat maxSamples.toNat)
            (strideFor collector.maxFlows.toNat maxSamples.toNat), collector.isActive flow :=
        fun flow hflow ↦ hall flow ((mem_grid.mp hflow).1.trans_le (Nat.sub_le ..))
      rw [List.countP_eq_length.mpr hactive, length_grid hstride, ceilDiv_sub hstride]
      omega

end QoECollector

end VirtualServiceGateway.Analytics
