import VirtualServiceGateway.Analytics.TelemetrySampling

/-!
# The sweep of a flush and the samples recorded meanwhile

A flush reads the clock once and then visits the slots one after the other, so a sample recorded
meanwhile may carry a later time stamp than the reading. The age of such a slot wraps to almost
`2 ^ 64` nanoseconds, and the flush takes the most recent flow for the oldest: it deactivates it
unless the idle limit is as large as the wrapped age.
-/

namespace VirtualServiceGateway.Analytics

namespace QoECollector

end QoECollector

/-! ## The age of a slot -/

namespace FlowMetrics

theorem active_flush (metrics : FlowMetrics) (maxIdleNs now : UInt64) :
    (metrics.flush maxIdleNs now).active = (metrics.active && !metrics.expired maxIdleNs now) := by
  unfold flush
  cases hexpired : metrics.expired maxIdleNs now with
  | true => rw [if_pos rfl, Bool.not_true, Bool.and_false]
  | false => rw [if_neg Bool.false_ne_true, Bool.not_false, Bool.and_true]

theorem expired_flush (metrics : FlowMetrics) (maxIdleNs now : UInt64) :
    (metrics.flush maxIdleNs now).expired maxIdleNs now = metrics.expired maxIdleNs now := by
  unfold flush
  split <;> rfl

end FlowMetrics

/-- A recording deactivates no flow. -/
theorem QoECollector.isActive_recordSample (collector : QoECollector) (sample : TelemetrySample)
    (stamp : UInt64) (flow : ℕ) :
    (collector.recordSample sample stamp).isActive flow = collector.isActive flow := by
  have hslot := getElem?_step collector (.recordSample sample stamp) flow
  unfold QoECollector.isActive
  rw [show collector.recordSample sample stamp = collector.step (.recordSample sample stamp) from
    rfl, hslot, Option.any_map]
  congr 1
  funext metrics
  simp only [FlowMetrics.step]
  split <;> rfl

/-! ## The sweep -/

/-- A flush in progress: the table, the slot it visits next and the number of idle slots so far. -/
structure Sweep where
  collector : QoECollector
  next : ℕ
  flushed : UInt32

/-- What happens while a flush runs. The flush reads only the time stamp of a slot and writes only
its active flag, so a recording counts as a whole when it stores the time stamp. -/
inductive SweepEvent where
  | visit
  | recordSample (sample : TelemetrySample) (stamp : UInt64)

namespace Sweep

def start (collector : QoECollector) : Sweep := ⟨collector, 0, 0⟩

/-- Visit the next slot, if there is one. -/
def visit (maxIdleNs now : UInt64) (sweep : Sweep) : Sweep :=
  match sweep.collector.flowMetrics[sweep.next]? with
  | none => sweep
  | some metrics =>
      { collector := { sweep.collector with
          flowMetrics :=
            sweep.collector.flowMetrics.set sweep.next (metrics.flush maxIdleNs now)
          size_eq := by rw [List.length_set]; exact sweep.collector.size_eq }
        next := sweep.next + 1
        flushed := if metrics.expired maxIdleNs now then sweep.flushed + 1 else sweep.flushed }

def step (maxIdleNs now : UInt64) (sweep : Sweep) : SweepEvent → Sweep
  | .visit => sweep.visit maxIdleNs now
  | .recordSample sample stamp =>
      { sweep with collector := sweep.collector.recordSample sample stamp }

end Sweep

/-! ## One step of the sweep -/

namespace Sweep

/-- The first visits, without recordings in between, flush the slots they reach and count the idle
ones among them. -/
theorem run_visits (collector : QoECollector) (maxIdleNs now : UInt64) {count : ℕ}
    (hcount : count ≤ collector.flowMetrics.length) :
    let sweep := Execution.run (step maxIdleNs now) (start collector)
      (List.replicate count .visit)
    sweep.next = count ∧
    sweep.collector.flowMetrics =
      (collector.flowMetrics.take count).map (·.flush maxIdleNs now) ++
        collector.flowMetrics.drop count ∧
    sweep.flushed = (collector.flowMetrics.take count).foldl (fun flushed metrics ↦
      if metrics.expired maxIdleNs now then flushed + 1 else flushed) 0 := by
  induction count with
  | zero => exact ⟨rfl, rfl, rfl⟩
  | succ count ih =>
    obtain ⟨hnext, htable, hflushed⟩ := ih (by omega)
    rw [List.replicate_succ', Execution.run_concat]
    generalize Execution.run (step maxIdleNs now) (start collector)
      (List.replicate count .visit) = sweep at hnext htable hflushed ⊢
    have hlt : count < collector.flowMetrics.length := hcount
    have hvisited : ((collector.flowMetrics.take count).map
        (·.flush maxIdleNs now)).length = count := by
      rw [List.length_map, List.length_take, Nat.min_eq_left hlt.le]
    have htake : collector.flowMetrics.take (count + 1) =
        collector.flowMetrics.take count ++ [collector.flowMetrics[count]] :=
      List.take_succ_eq_append_getElem hlt
    rw [List.drop_eq_getElem_cons hlt] at htable
    have hslot : sweep.collector.flowMetrics[sweep.next]? = some collector.flowMetrics[count] := by
      rw [hnext, htable, List.getElem?_append_right hvisited.le, hvisited, Nat.sub_self]
      rfl
    simp only [step, visit, hslot]
    refine ⟨by rw [hnext], ?_, ?_⟩
    · rw [hnext, htable, List.set_append_right _ _ hvisited.le, hvisited, Nat.sub_self,
        List.set_cons_zero, htake, List.map_append, List.append_assoc]
      rfl
    · rw [htake, List.foldl_append, hflushed]
      rfl

/-- A sweep without recordings is the flush. -/
theorem run_visits_eq_flush (collector : QoECollector) (maxIdleNs now : UInt64) :
    let sweep := Execution.run (step maxIdleNs now) (start collector)
      (List.replicate collector.flowMetrics.length .visit)
    sweep.collector.flowMetrics =
      (collector.flushExpiredFlows maxIdleNs now).2.flowMetrics ∧
    sweep.flushed = (collector.flushExpiredFlows maxIdleNs now).1 := by
  obtain ⟨-, htable, hflushed⟩ := run_visits collector maxIdleNs now le_rfl
  rw [List.take_length] at htable hflushed
  rw [List.drop_length, List.append_nil] at htable
  exact ⟨htable, hflushed⟩

end Sweep

end VirtualServiceGateway.Analytics
