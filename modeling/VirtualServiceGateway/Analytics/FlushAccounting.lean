import VirtualServiceGateway.Analytics.ExpirySweep
import VirtualServiceGateway.Analytics.FlowListing

/-!
# What a flush counts

A flush counts every idle slot it finds, and an idle slot stays idle after it was deactivated. So
the results of a run count a flow again with each flush until its next sample. Through a run the
flushes count exactly the flows they deactivate if and only if every slot that a flush finds idle is
still active.
-/

namespace VirtualServiceGateway.Analytics

open CheckedOperation WrappingCounter

/-- What a slot counts. -/
def FlowMetrics.counters (metrics : FlowMetrics) : UInt64 × UInt64 × UInt32 × Vector UInt32 10 :=
  (metrics.packetCount, metrics.byteCount, metrics.lossCount, metrics.latencyBuckets)

/-- The clock reading of a call that changes the table. -/
def Call.clock : Call → Option UInt64
  | .recordSample _ now => some now
  | .flushExpiredFlows _ now => some now
  | _ => none

namespace QoECollector

/-- The flows that a call changes from active to inactive. -/
def deactivatedBy (collector : QoECollector) (call : Call) : List ℕ :=
  (List.range collector.maxFlows.toNat).filter fun flow ↦
    collector.isActive flow && !(collector.step call).isActive flow

/-- The result of a flush; other calls return no such count. -/
def flushResult (collector : QoECollector) : Call → ℕ
  | .flushExpiredFlows maxIdleNs now => (collector.flushExpiredFlows maxIdleNs now).1.toNat
  | _ => 0

/-- The flushes of a run count the flows they deactivate: each does, a repeated flush counts none,
the results add up to the deactivations, and no flush changes a counter. -/
structure FlushesAccounted (maxFlows : UInt32) (leftover : ℕ → UInt64) (calls : List Call) :
    Prop where
  counted : ∀ before call, before ++ [call] <+: calls →
    (after maxFlows leftover before).flushResult call =
      ((after maxFlows leftover before).deactivatedBy call).length
  repeated : ∀ before maxIdleNs now,
    before ++ [.flushExpiredFlows maxIdleNs now] ++ [.flushExpiredFlows maxIdleNs now] <+: calls →
      (after maxFlows leftover (before ++ [.flushExpiredFlows maxIdleNs now])).flushResult
        (.flushExpiredFlows maxIdleNs now) = 0
  total : Execution.total step flushResult (create maxFlows leftover) calls =
    Execution.total step (fun collector call ↦ (collector.deactivatedBy call).length)
      (create maxFlows leftover) calls
  counters : ∀ before maxIdleNs now, before ++ [.flushExpiredFlows maxIdleNs now] <+: calls →
    (after maxFlows leftover (before ++ [.flushExpiredFlows maxIdleNs now])).flowMetrics.map
        FlowMetrics.counters =
      (after maxFlows leftover before).flowMetrics.map FlowMetrics.counters

/-- Every slot that a flush finds idle is still active. -/
def IdleActive (collector : QoECollector) : Call → Prop
  | .flushExpiredFlows maxIdleNs now => ∀ metrics ∈ collector.flowMetrics,
      metrics.expired maxIdleNs now → metrics.active
  | _ => True

/-! ## One flush -/

/-- The result of a flush is the number of idle slots, which the 32-bit count can hold. -/
theorem flushResult_eq (collector : QoECollector) (maxIdleNs now : UInt64) :
    collector.flushResult (.flushExpiredFlows maxIdleNs now) =
      collector.flowMetrics.countP (·.expired maxIdleNs now) := by
  have hcount : (collector.flushExpiredFlows maxIdleNs now).1 =
      wrap32 (collector.flowMetrics.countP (·.expired maxIdleNs now)) :=
    (foldl_count_wrap wrap32 _ 0 _).trans (zero_add _)
  have hlength := length_lt collector
  have hidle : collector.flowMetrics.countP (·.expired maxIdleNs now) ≤
      collector.flowMetrics.length := List.countP_le_length
  calc
    collector.flushResult (.flushExpiredFlows maxIdleNs now) =
        (collector.flushExpiredFlows maxIdleNs now).1.toNat := rfl
    _ = collector.flowMetrics.countP (·.expired maxIdleNs now) % 2 ^ 32 := by
      rw [hcount, toNat_wrap32]
    _ = collector.flowMetrics.countP (·.expired maxIdleNs now) :=
      Nat.mod_eq_of_lt (hidle.trans_lt hlength)

/-- A flush deactivates the active slots among the idle ones. -/
theorem length_deactivatedBy_flush (collector : QoECollector) (maxIdleNs now : UInt64) :
    (collector.deactivatedBy (.flushExpiredFlows maxIdleNs now)).length =
      collector.flowMetrics.countP fun metrics ↦
        metrics.active && metrics.expired maxIdleNs now := by
  have hselect (flow : ℕ) :
      (collector.isActive flow &&
        !(collector.step (.flushExpiredFlows maxIdleNs now)).isActive flow) =
      collector.flowMetrics[flow]?.any fun metrics ↦
        metrics.active && metrics.expired maxIdleNs now := by
    unfold isActive
    rw [getElem?_step]
    cases collector.flowMetrics[flow]? with
    | none => rfl
    | some metrics =>
      simp only [Option.map_some, Option.any_some, FlowMetrics.step, FlowMetrics.active_flush]
      cases metrics.active <;> simp
  calc
    (collector.deactivatedBy (.flushExpiredFlows maxIdleNs now)).length =
        ((List.range collector.flowMetrics.length).filter fun flow ↦
          collector.flowMetrics[flow]?.any fun metrics ↦
            metrics.active && metrics.expired maxIdleNs now).length := by
      unfold deactivatedBy
      simp only [hselect, collector.size_eq]
    _ = (collector.flowsWhere fun metrics ↦
        metrics.active && metrics.expired maxIdleNs now).length := (List.length_map _).symm
    _ = _ := length_flowsWhere collector _

/-- A call that leaves the active flags alone deactivates nothing. -/
theorem deactivatedBy_eq_nil {collector : QoECollector} {call : Call}
    (hsame : ∀ flow, (collector.step call).isActive flow = collector.isActive flow) :
    collector.deactivatedBy call = [] := by
  apply List.filter_eq_nil_iff.mpr
  intro flow _
  rw [hsame, Bool.and_not_self]
  exact Bool.false_ne_true

/-- **One call.** A call counts the flows it deactivates exactly when every slot it finds idle is
still active. -/
theorem flushResult_eq_iff (collector : QoECollector) (call : Call) :
    collector.flushResult call = (collector.deactivatedBy call).length ↔
      collector.IdleActive call := by
  cases call with
  | flushExpiredFlows maxIdleNs now =>
    have hactive : collector.flowMetrics.countP (fun metrics ↦
        metrics.active && metrics.expired maxIdleNs now) =
        (collector.flowMetrics.filter (·.expired maxIdleNs now)).countP FlowMetrics.active :=
      List.countP_filter.symm
    rw [flushResult_eq, length_deactivatedBy_flush, hactive, List.countP_eq_length_filter, eq_comm,
      List.countP_eq_length]
    simp only [List.mem_filter, and_imp, IdleActive]
  | recordSample sample now =>
    have hnone : collector.deactivatedBy (.recordSample sample now) = [] :=
      deactivatedBy_eq_nil (isActive_recordSample collector sample now)
    rw [hnone]
    exact iff_of_true rfl trivial
  | _ =>
    rw [deactivatedBy_eq_nil fun flow ↦ rfl]
    exact iff_of_true rfl trivial

/-! ## Every run -/

/-- A slot that a flush leaves active is not idle for the same limit and clock reading. -/
theorem flushResult_repeated {collector : QoECollector} {maxIdleNs now : UInt64}
    (hactive : (collector.step (.flushExpiredFlows maxIdleNs now)).IdleActive
      (.flushExpiredFlows maxIdleNs now)) :
    (collector.step (.flushExpiredFlows maxIdleNs now)).flushResult
      (.flushExpiredFlows maxIdleNs now) = 0 := by
  rw [flushResult_eq, List.countP_eq_zero]
  intro flushed hmem hexpired
  have hkept := hactive flushed hmem hexpired
  obtain ⟨metrics, -, rfl⟩ := List.mem_map.mp hmem
  rw [FlowMetrics.expired_flush] at hexpired
  rw [FlowMetrics.active_flush, hexpired, Bool.not_true, Bool.and_false] at hkept
  cases hkept

/-- A flush changes no counter. -/
theorem map_counters_flush (collector : QoECollector) (maxIdleNs now : UInt64) :
    (collector.step (.flushExpiredFlows maxIdleNs now)).flowMetrics.map FlowMetrics.counters =
      collector.flowMetrics.map FlowMetrics.counters := by
  change (collector.flowMetrics.map _).map _ = _
  rw [List.map_map]
  apply List.map_congr_left
  intro metrics _
  simp only [Function.comp_apply, FlowMetrics.flush]
  split <;> rfl

/-- **Flush accounting.** The flushes of a run count the flows they deactivate if and only if every
slot that a flush finds idle is still active. -/
theorem flushesAccounted_iff (maxFlows : UInt32) (leftover : ℕ → UInt64) (calls : List Call) :
    FlushesAccounted maxFlows leftover calls ↔
      Execution.StepsMeet step IdleActive (create maxFlows leftover) calls := by
  constructor
  · intro haccounted
    rw [Execution.stepsMeet_iff_forall_prefix]
    intro before call hearlier
    exact (flushResult_eq_iff _ call).mp (haccounted.counted before call hearlier)
  · intro hmeet
    have hidle := (Execution.stepsMeet_iff_forall_prefix ..).mp hmeet
    exact {
      counted := fun before call hearlier ↦
        (flushResult_eq_iff _ call).mpr (hidle before call hearlier)
      repeated := fun before maxIdleNs now hearlier ↦ by
        have hsecond := hidle _ _ hearlier
        unfold after
        rw [Execution.run_concat] at hsecond ⊢
        exact flushResult_repeated hsecond
      total := Execution.total_eq_of_stepsMeet
        (fun collector call ↦ (flushResult_eq_iff collector call).mpr) hmeet
      counters := fun before maxIdleNs now _ ↦ by
        unfold after
        rw [Execution.run_concat]
        exact map_counters_flush _ maxIdleNs now }

/-- A flow recorded at 50 is flushed at 100 and counted, and it is counted again by the same flush
at the same clock reading, although nothing is deactivated then. -/
theorem flush_counted_again :
    let flush := Call.flushExpiredFlows 10 100
    let before := [.recordSample (sampleWithLatency 5) 50, flush]
    (before ++ [flush]).filterMap Call.clock = [50, 100, 100] ∧
    (after 1 (fun _ ↦ 0) before).flushResult flush = 1 ∧
    (after 1 (fun _ ↦ 0) before).deactivatedBy flush = [] ∧
    ¬FlushesAccounted 1 (fun _ ↦ 0) (before ++ [flush]) := by
  intro flush before
  have hresult : (after 1 (fun _ ↦ 0) before).flushResult flush = 1 := by decide +kernel
  have hnone : (after 1 (fun _ ↦ 0) before).deactivatedBy flush = [] := by decide +kernel
  refine ⟨rfl, hresult, hnone, fun haccounted ↦ ?_⟩
  have hcounted := haccounted.counted before flush List.prefix_rfl
  rw [hresult, hnone] at hcounted
  cases hcounted

end QoECollector

end VirtualServiceGateway.Analytics
