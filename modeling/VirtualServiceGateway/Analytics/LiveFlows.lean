import VirtualServiceGateway.Analytics.FlowListing

/-!
# When live flows are listed

A flow is live until a flush finds it idle, and again from its next sample on. The table forgets
the second half: recording a sample leaves the active flag cleared, so a flow that was expired once
is never listed again. Live flows stay listed through a run exactly when no sample is recorded for
an expired flow, and no recording leaves a slot that cannot be read.
-/

namespace VirtualServiceGateway.Analytics

/-- What a run means for one flow: its last update, and whether it is live. -/
structure FlowLife where
  lastUpdateNs : UInt64
  live : Bool

/-- What a call means for a flow. A flush expires the flow if it finds it idle; a sample of the
flow revives it. -/
def FlowLife.step (flow : ℕ) (life : FlowLife) : Call → FlowLife
  | .recordSample sample now => if sample.flowId.toNat = flow then ⟨now, true⟩ else life
  | .flushExpiredFlows maxIdleNs now =>
      if maxIdleNs < now - life.lastUpdateNs then { life with live := false } else life
  | _ => life

/-- What a call means for all flows. -/
def watch (lives : ℕ → FlowLife) (call : Call) : ℕ → FlowLife :=
  fun flow ↦ (lives flow).step flow call

/-- The lives of the flows after the calls; every flow starts live. -/
def livesAfter (leftover : ℕ → UInt64) (calls : List Call) : ℕ → FlowLife :=
  Execution.run watch (fun flow ↦ ⟨leftover flow, true⟩) calls

/-- The slot agrees with the life of its flow: same last update, and active only if live. -/
def FlowMetrics.Agrees (metrics : FlowMetrics) (life : FlowLife) : Prop :=
  metrics.lastUpdateNs = life.lastUpdateNs ∧ (metrics.active → life.live)

/-- The slot of a live flow is active, and an active slot can be read. -/
def FlowMetrics.Serves (metrics : FlowMetrics) (life : FlowLife) : Prop :=
  (life.live → metrics.active) ∧ (metrics.active → metrics.Readable)

/-- Every slot of the table agrees with the life of its flow. -/
def Agrees (collector : QoECollector) (lives : ℕ → FlowLife) : Prop :=
  ∀ (flow : ℕ) (metrics : FlowMetrics), collector.flowMetrics[flow]? = some metrics →
    metrics.Agrees (lives flow)

/-- Every live flow of the table is listed once. -/
def LiveListed (collector : QoECollector) (lives : ℕ → FlowLife) : Prop :=
  ∀ flowId, flowId < collector.maxFlows → (lives flowId.toNat).live →
    collector.ListsOnce flowId

/-- The slot can be read after one more sample: if the packet count is about to wrap to zero, so is
every latency bucket. -/
def FlowMetrics.StaysReadable (metrics : FlowMetrics) (sample : TelemetrySample) : Prop :=
  metrics.packetCount + 1 = 0 → ∀ (bucket : ℕ) (h : bucket < 10),
    (metrics.latencyBuckets[bucket] + if sample.InBucket bucket then 1 else 0) = 0

/-- A sample is recorded in an active slot only, and in one that can be read after it. -/
def RecordsOnActive (collector : QoECollector) : Call → Prop
  | .recordSample sample _ =>
      ∀ metrics ∈ collector.flowMetrics[sample.flowId.toNat]?,
        metrics.active ∧ metrics.StaysReadable sample
  | _ => True

/-! ## One call on one slot -/

theorem readable_recordSample_iff (metrics : FlowMetrics) (sample : TelemetrySample)
    (now : UInt64) :
    (metrics.recordSample sample now).Readable ↔ metrics.StaysReadable sample := by
  unfold FlowMetrics.Readable FlowMetrics.StaysReadable
  simp only [FlowMetrics.latencyBuckets_recordSample]
  rfl

theorem FlowMetrics.Agrees.flush {metrics : FlowMetrics} {life : FlowLife}
    (hagrees : metrics.Agrees life) (flow : ℕ) (maxIdleNs now : UInt64) :
    (metrics.flush maxIdleNs now).Agrees
      (life.step flow (.flushExpiredFlows maxIdleNs now)) := by
  unfold FlowMetrics.flush FlowMetrics.expired FlowLife.step
  rw [hagrees.1]
  by_cases hidle : maxIdleNs < now - life.lastUpdateNs
  · simp [hidle, FlowMetrics.Agrees]
  · simpa [hidle] using hagrees

theorem FlowMetrics.Agrees.step {metrics : FlowMetrics} {life : FlowLife}
    (hagrees : metrics.Agrees life) (flow : ℕ) (call : Call) :
    (metrics.step flow call).Agrees (life.step flow call) := by
  cases call with
  | recordSample sample now =>
    simp only [FlowMetrics.step, FlowLife.step]
    split
    case isTrue => exact ⟨rfl, fun _ ↦ rfl⟩
    case isFalse => exact hagrees
  | flushExpiredFlows maxIdleNs now => exact hagrees.flush flow maxIdleNs now
  | _ => exact hagrees

/-- A flush expires slot and flow together. -/
theorem FlowMetrics.Serves.flush {metrics : FlowMetrics} {life : FlowLife}
    (hagrees : metrics.Agrees life) (hserves : metrics.Serves life) (flow : ℕ)
    (maxIdleNs now : UInt64) :
    (metrics.flush maxIdleNs now).Serves
      (life.step flow (.flushExpiredFlows maxIdleNs now)) := by
  unfold FlowMetrics.flush FlowMetrics.expired FlowLife.step
  rw [hagrees.1]
  by_cases hidle : maxIdleNs < now - life.lastUpdateNs
  · simp [hidle, FlowMetrics.Serves]
  · simpa [hidle] using hserves

/-! ## One call on the table -/

theorem agrees_step (collector : QoECollector) (lives : ℕ → FlowLife) (call : Call)
    (hagrees : Agrees collector lives) : Agrees (collector.step call) (watch lives call) := by
  intro flow metrics hmetrics
  rw [getElem?_step] at hmetrics
  obtain ⟨old, hold, rfl⟩ := Option.map_eq_some_iff.mp hmetrics
  exact (hagrees flow old hold).step flow call

/-- In a table that agrees with the lives, the live flows are listed exactly when every slot serves
its flow. -/
theorem liveListed_iff {collector : QoECollector} {lives : ℕ → FlowLife}
    (hagrees : Agrees collector lives) :
    LiveListed collector lives ↔
      ∀ (flow : ℕ) (metrics : FlowMetrics), collector.flowMetrics[flow]? = some metrics →
        metrics.Serves (lives flow) := by
  constructor
  · intro hlisted flow metrics hmetrics
    have hrange := (List.getElem?_eq_some_iff.mp hmetrics).1
    have hflow := toNat_ofNat_flow hrange
    have hin : UInt32.ofNat flow < collector.maxFlows := by
      rw [← toNat_lt_length_iff, hflow]
      exact hrange
    have hlists := fun hlive ↦ (listsOnce_iff collector hin).mp
      (hlisted (UInt32.ofNat flow) hin (by rwa [hflow]))
    refine ⟨fun hlive ↦ ?_, fun hactive ↦ ?_⟩
    · obtain ⟨found, hfound, hactive⟩ := isActive_iff.mp (hlists hlive).1
      rw [hflow, hmetrics, Option.some.injEq] at hfound
      exact hfound ▸ hactive
    · exact (hlists ((hagrees flow metrics hmetrics).2 hactive)).2 flow metrics hmetrics hactive
  · intro hserves flowId hflow hlive
    have hrange := toNat_lt_length_iff.mpr hflow
    have hmetrics := List.getElem?_eq_getElem hrange
    apply (listsOnce_iff collector hflow).mpr
    exact ⟨isActive_iff.mpr ⟨_, hmetrics, (hserves _ _ hmetrics).1 hlive⟩,
      fun flow metrics hslot ↦ (hserves flow metrics hslot).2⟩

/-- One call keeps the live flows listed exactly when it records on an active flow. -/
theorem liveListed_step_iff (collector : QoECollector) (lives : ℕ → FlowLife) (call : Call)
    (hagrees : Agrees collector lives) (hlisted : LiveListed collector lives) :
    LiveListed (collector.step call) (watch lives call) ↔ RecordsOnActive collector call := by
  have hserves := (liveListed_iff hagrees).mp hlisted
  rw [liveListed_iff (agrees_step collector lives call hagrees)]
  simp only [getElem?_step, Option.map_eq_some_iff]
  cases call with
  | recordSample sample now =>
    constructor
    · intro h metrics hmetrics
      obtain ⟨hactive, hreadable⟩ := h sample.flowId.toNat _ ⟨metrics, hmetrics, rfl⟩
      simp only [FlowMetrics.step, watch, FlowLife.step, if_true] at hactive hreadable
      rw [readable_recordSample_iff] at hreadable
      exact ⟨hactive trivial, hreadable (hactive trivial)⟩
    · rintro h flow _ ⟨metrics, hmetrics, rfl⟩
      simp only [FlowMetrics.step, watch, FlowLife.step]
      by_cases hsame : sample.flowId.toNat = flow
      · subst hsame
        obtain ⟨hactive, hreadable⟩ := h metrics hmetrics
        rw [if_pos rfl, if_pos rfl]
        exact ⟨fun _ ↦ hactive,
          fun _ ↦ (readable_recordSample_iff metrics sample now).mpr hreadable⟩
      · rw [if_neg hsame, if_neg hsame]
        exact hserves flow metrics hmetrics
  | flushExpiredFlows maxIdleNs now =>
    simp only [RecordsOnActive, iff_true]
    rintro flow _ ⟨metrics, hmetrics, rfl⟩
    exact (hserves flow metrics hmetrics).flush (hagrees flow metrics hmetrics) flow maxIdleNs now
  | _ =>
    simp only [RecordsOnActive, iff_true]
    rintro flow _ ⟨metrics, hmetrics, rfl⟩
    exact hserves flow metrics hmetrics

/-! ## Every run -/

theorem getElem?_create {maxFlows : UInt32} {leftover : ℕ → UInt64} {flow : ℕ}
    {metrics : FlowMetrics}
    (hmetrics : (QoECollector.create maxFlows leftover).flowMetrics[flow]? = some metrics) :
    metrics = .fresh (leftover flow) := by
  unfold QoECollector.create at hmetrics
  rw [List.getElem?_map] at hmetrics
  obtain ⟨index, hindex, rfl⟩ := Option.map_eq_some_iff.mp hmetrics
  obtain ⟨-, rfl⟩ := List.getElem?_eq_some_iff.mp hindex
  rw [List.getElem_range]

/-- **Exact listing condition.** Through a run the live flows are listed once in every state if and
only if every sample is recorded for a flow that is still active, and leaves it readable. -/
theorem liveListed_iff_recordsOnActive (maxFlows : UInt32) (leftover : ℕ → UInt64)
    (calls : List Call) :
    (∀ before, before <+: calls →
        LiveListed (QoECollector.after maxFlows leftover before) (livesAfter leftover before)) ↔
      Execution.StepsMeet QoECollector.step RecordsOnActive (.create maxFlows leftover) calls := by
  have hstart : Agrees (.create maxFlows leftover) fun flow ↦ ⟨leftover flow, true⟩ := by
    intro flow metrics hmetrics
    rw [getElem?_create hmetrics]
    exact ⟨rfl, fun _ ↦ rfl⟩
  apply Execution.forall_prefix_iff_stepsMeet_watched _ watch _ _ Agrees LiveListed RecordsOnActive
    hstart agrees_step _ liveListed_step_iff
  apply (liveListed_iff hstart).mpr
  intro flow metrics hmetrics
  rw [getElem?_create hmetrics]
  exact ⟨fun _ ↦ rfl, fun _ _ bucket hbucket ↦ by simp [FlowMetrics.fresh]⟩

/-- A flow that is recorded, expired and recorded again is live, and neither listing has it. -/
theorem revived_flow_not_listed :
    let sample : TelemetrySample := ⟨0, 1, 1, 1500, 40, false, 0⟩
    let calls : List Call :=
      [.recordSample sample 100, .flushExpiredFlows 10 1000, .recordSample sample 2000]
    let collector := QoECollector.after 1 (fun _ ↦ 0) calls
    (livesAfter (fun _ ↦ 0) calls 0).live ∧
    collector.getAllFlowKpis (fun _ ↦ ⟨0, 0, 0, 0, 0, 0⟩) = .ok [] ∧
    collector.getAggregatedTelemetry 1 (fun _ ↦ sample) = .ok [] := by
  decide +kernel

end VirtualServiceGateway.Analytics
