import VirtualServiceGateway.Analytics.ConcurrentSnapshot

/-!
# When a snapshot under concurrent recording is safe

The snapshot tests the latency buckets and divides by a packet count that it has read before them. A
slot never holds more losses than packets, nor a latency without a packet; but what is recorded
after the first read counts for the later ones. The snapshot is safe if, between its first and its
last read, no loss takes the losses above the packets read and no latency goes into a bucket still
to be read when no packets were.
-/

namespace VirtualServiceGateway.Analytics

open CheckedOperation WrappingCounter

/-- The losses are at most 100 percent of the packets, in the arithmetic of the snapshot. -/
def WithinPackets (lossCount : UInt32) (packetCount : UInt64) : Prop :=
  (lossCount * 100).toNat < 101 * packetCount.toNat

/-- What a snapshot between its first and its last read relies on: the packets it has read, and the
first bucket it has still to read. -/
def SnapshotReader.held : SnapshotReader → Option (UInt64 × ℕ)
  | .counted packetCount => some (packetCount, 0)
  | .summing packetCount _ next _ => some (packetCount, next)
  | _ => none

/-- A finished snapshot has a defined result, and a loss percentage, if it has computed one, of at
most 100. -/
def SnapshotReader.Safe (reader : SnapshotReader) : Prop :=
  ∀ flowId prior result, reader.result flowId prior = some result →
    ∃ kpi, result = .ok kpi ∧
      ((∀ packetCount byteCount, reader ≠ .finished packetCount byteCount none) →
        kpi.lossPercent ≤ 100)

/-- The field that is updated next fits a snapshot that holds what it has read: the packets do not
wrap to zero, a loss leaves the losses within the packets read, and if none were read a latency goes
into a bucket that has been read already. -/
def UpdateFits (metrics : FlowMetrics) (held : Option (UInt64 × ℕ)) (sample : TelemetrySample) :
    RecordStage → Prop
  | .packetCount => metrics.packetCount + 1 ≠ 0
  | .lossCount => sample.packetLost → ∀ reading ∈ held, reading.1 ≠ 0 →
      WithinPackets (metrics.lossCount + 1) reading.1
  | .bucket => ∀ reading ∈ held, reading.1 = 0 →
      (FlowMetrics.bucketOf sample.latencyUs).toNat < reading.2
  | _ => True

/-- The update of a recorder that takes a step fits the snapshot. -/
def LiveSnapshot.StepFits (state : LiveSnapshot) : SnapshotEvent → Prop
  | .read => True
  | .record place =>
      ∀ recorder ∈ state.config.workers[place]?, ∀ entry ∈ recorder.samples.head?,
        UpdateFits state.config.shared state.reader.held entry.1 recorder.stage

instance (lossCount : UInt32) (packetCount : UInt64) :
    Decidable (WithinPackets lossCount packetCount) :=
  inferInstanceAs (Decidable (_ < _))

instance (metrics : FlowMetrics) (held : Option (UInt64 × ℕ)) (sample : TelemetrySample) :
    ∀ stage, Decidable (UpdateFits metrics held sample stage)
  | .packetCount => inferInstanceAs (Decidable (_ ≠ _))
  | .lossCount => inferInstanceAs (Decidable (_ → ∀ reading ∈ held, reading.1 ≠ 0 →
      WithinPackets (metrics.lossCount + 1) reading.1))
  | .bucket => inferInstanceAs (Decidable (∀ reading ∈ held, reading.1 = 0 →
      (FlowMetrics.bucketOf sample.latencyUs).toNat < reading.2))
  | .byteCount => inferInstanceAs (Decidable True)
  | .lastUpdate => inferInstanceAs (Decidable True)

instance (state : LiveSnapshot) : ∀ event, Decidable (state.StepFits event)
  | .read => inferInstanceAs (Decidable True)
  | .record place =>
      inferInstanceAs (Decidable (∀ recorder ∈ state.config.workers[place]?,
        ∀ entry ∈ recorder.samples.head?,
          UpdateFits state.config.shared state.reader.held entry.1 recorder.stage))

/-! ## The slot -/

/-- The losses a recorder has still to count for a packet it has counted. -/
def Recorder.owedLosses : Recorder → ℕ
  | ⟨(sample, _) :: _, .byteCount⟩ => if sample.packetLost then 1 else 0
  | ⟨(sample, _) :: _, .lastUpdate⟩ => if sample.packetLost then 1 else 0
  | ⟨(sample, _) :: _, .lossCount⟩ => if sample.packetLost then 1 else 0
  | _ => 0

/-- The slot has no latencies. -/
def FlowMetrics.NoLatencies (metrics : FlowMetrics) : Prop :=
  ∀ (bucket : ℕ) (h : bucket < 10), metrics.latencyBuckets[bucket] = 0

/-- Losses, counted and owed, are of counted packets, and so are latencies. -/
structure Consistent (config : Interleaving.Config FlowMetrics Recorder) : Prop where
  losses : config.shared.lossCount.toNat + (config.workers.map Recorder.owedLosses).sum ≤
    config.shared.packetCount.toNat
  latencies : config.shared.packetCount = 0 → config.shared.NoLatencies
  recorders : ∀ recorder ∈ config.workers, recorder.stage ≠ .packetCount →
    config.shared.packetCount ≠ 0

theorem toNat_pos_of_ne {count : UInt64} (h : count ≠ 0) : 0 < count.toNat :=
  Nat.pos_of_ne_zero fun hzero ↦ h (UInt64.toNat.inj hzero)

theorem toNat_add_one_of_ne {count : UInt64} (h : count + 1 ≠ 0) :
    (count + 1).toNat = count.toNat + 1 := by
  have hpos := toNat_pos_of_ne h
  rw [UInt64.toNat_add, UInt64.toNat_one] at hpos ⊢
  have hlt := count.toNat_lt
  omega

theorem toNat_add_one_le (count : UInt32) : (count + 1).toNat ≤ count.toNat + 1 := by
  rw [UInt32.toNat_add, UInt32.toNat_one]
  exact Nat.mod_le _ _

/-- Within consistent counters the losses are within the packets. -/
theorem Consistent.withinPackets {config : Interleaving.Config FlowMetrics Recorder}
    (hconsistent : Consistent config) (hpackets : config.shared.packetCount ≠ 0) :
    WithinPackets config.shared.lossCount config.shared.packetCount := by
  have hlosses := hconsistent.losses
  have hpos := toNat_pos_of_ne hpackets
  have hproduct : (config.shared.lossCount * 100).toNat ≤ config.shared.lossCount.toNat * 100 := by
    rw [UInt32.toNat_mul]
    exact Nat.mod_le _ _
  unfold WithinPackets
  omega

theorem owedLosses_idle (samples : History) :
    Recorder.owedLosses ⟨samples, .packetCount⟩ = 0 := by
  cases samples <;> rfl

/-- What an update leaves consistent: it counts no more losses than packets, and no latencies
without packets. -/
theorem Consistent.set {config : Interleaving.Config FlowMetrics Recorder} {place : ℕ}
    {recorder moved : Recorder} {metrics : FlowMetrics} (hconsistent : Consistent config)
    (hrecorder : config.workers[place]? = some recorder)
    (hlosses : metrics.lossCount.toNat + moved.owedLosses + config.shared.packetCount.toNat ≤
      config.shared.lossCount.toNat + recorder.owedLosses + metrics.packetCount.toNat)
    (hlatencies : metrics.packetCount = 0 → metrics.NoLatencies)
    (hpackets : config.shared.packetCount ≠ 0 → metrics.packetCount ≠ 0)
    (hmoved : moved.stage ≠ .packetCount → metrics.packetCount ≠ 0) :
    Consistent ⟨metrics, config.workers.set place moved⟩ where
  losses := by
    have hbefore := hconsistent.losses
    have hset := Interleaving.sum_map_set Recorder.owedLosses hrecorder moved
    dsimp only
    omega
  latencies := hlatencies
  recorders := Interleaving.forall_workers_set _ hmoved
    fun other hother hstage ↦ hpackets (hconsistent.recorders other hother hstage)

/-- An update of a packet count that does not wrap keeps the slot consistent. -/
theorem Consistent.advance {config : Interleaving.Config FlowMetrics Recorder} {place : ℕ}
    {recorder : Recorder} (hconsistent : Consistent config)
    (hrecorder : config.workers[place]? = some recorder)
    (hwrap : recorder.stage = .packetCount → recorder.samples ≠ [] →
      config.shared.packetCount + 1 ≠ 0) :
    Consistent ⟨(recorder.advance config.shared).1,
      config.workers.set place (recorder.advance config.shared).2⟩ := by
  have hstage := hconsistent.recorders recorder (List.mem_of_getElem? hrecorder)
  obtain ⟨samples, stage⟩ := recorder
  cases samples with
  | nil => exact hconsistent.set hrecorder le_rfl hconsistent.latencies id hstage
  | cons entry rest =>
    cases stage with
    | packetCount =>
      have hne := hwrap rfl (List.cons_ne_nil _ _)
      refine hconsistent.set hrecorder ?_ (fun hzero ↦ absurd hzero hne) (fun _ ↦ hne) fun _ ↦ hne
      have hnext := toNat_add_one_of_ne hne
      simp only [Recorder.advance, Recorder.owedLosses]
      split <;> omega
    | byteCount =>
      have hne := hstage (by simp)
      exact hconsistent.set hrecorder le_rfl hconsistent.latencies id fun _ ↦ hne
    | lastUpdate =>
      have hne := hstage (by simp)
      exact hconsistent.set hrecorder le_rfl hconsistent.latencies id fun _ ↦ hne
    | lossCount =>
      have hne := hstage (by simp)
      have hnext := toNat_add_one_le config.shared.lossCount
      cases hlost : entry.1.packetLost with
      | false =>
        simp only [Recorder.advance, hlost]
        apply hconsistent.set hrecorder _ hconsistent.latencies id fun _ ↦ hne
        simp [Recorder.owedLosses, hlost]
      | true =>
        simp only [Recorder.advance, hlost, if_true]
        refine hconsistent.set hrecorder ?_ hconsistent.latencies id fun _ ↦ hne
        simp only [Recorder.owedLosses, hlost, if_true]
        omega
    | bucket =>
      have hne := hstage (by simp)
      refine hconsistent.set hrecorder ?_ (fun hzero ↦ absurd hzero hne) id fun _ ↦ hne
      simp only [Recorder.advance, owedLosses_idle]
      exact le_rfl

/-- The slot counts the samples recorded in it. -/
theorem slotAfter_counts (leftover : UInt64) (earlier : History) :
    (LiveSnapshot.slotAfter leftover earlier).Counts (earlier.map Prod.fst) := by
  induction earlier using List.reverseRecOn with
  | nil => exact FlowMetrics.fresh_counts leftover
  | append_singleton earlier entry ih =>
    unfold LiveSnapshot.slotAfter at ih ⊢
    rw [List.foldl_append, List.map_append]
    exact ih.recordSample entry.1 entry.2

/-- The slot has no more losses than samples. -/
theorem lossCount_slotAfter_le (leftover : UInt64) (earlier : History) :
    (LiveSnapshot.slotAfter leftover earlier).lossCount.toNat ≤ earlier.length := by
  have hle := (slotAfter_counts leftover earlier).toNat_lossCount_le
  rwa [List.length_map] at hle

theorem packetCount_slotAfter (leftover : UInt64) {earlier : History}
    (hearlier : earlier.length < 2 ^ 64) :
    (LiveSnapshot.slotAfter leftover earlier).packetCount.toNat = earlier.length := by
  rw [(slotAfter_counts leftover earlier).toNat_packetCount (by rwa [List.length_map]),
    List.length_map]

theorem sum_owedLosses_start (histories : List History) :
    ((histories.map (Recorder.mk · .packetCount)).map Recorder.owedLosses).sum = 0 := by
  apply List.sum_eq_zero
  intro owed howed
  rw [List.map_map] at howed
  obtain ⟨samples, -, rfl⟩ := List.mem_map.mp howed
  exact owedLosses_idle samples

/-- Samples recorded one after the other, fewer than the packet count can hold, leave the slot
consistent. -/
theorem consistent_start (leftover : UInt64) {earlier : History} (histories : List History)
    (hearlier : earlier.length < 2 ^ 64) :
    Consistent (LiveSnapshot.start leftover earlier histories).config where
  losses := by
    have howed := sum_owedLosses_start histories
    have hpackets := packetCount_slotAfter leftover hearlier
    have hlosses := lossCount_slotAfter_le leftover earlier
    dsimp only [LiveSnapshot.start]
    omega
  latencies := by
    intro hzero bucket hbucket
    have hpackets := packetCount_slotAfter leftover hearlier
    have hcounts := (slotAfter_counts leftover earlier).buckets bucket hbucket
    dsimp only [LiveSnapshot.start] at hzero ⊢
    rw [hzero] at hpackets
    obtain rfl := List.length_eq_zero_iff.mp hpackets.symm
    rw [hcounts]
    rfl
  recorders := by
    intro recorder hrecorder hstage
    obtain ⟨samples, -, rfl⟩ := List.mem_map.mp hrecorder
    exact absurd rfl hstage

/-! ## The snapshot -/

/-- What a snapshot in progress has read agrees with what it will read: the losses are within its
packets, and without packets it has seen no latencies and will see none. The percentage of a
finished one is defined and at most 100. -/
structure SnapshotReader.Sound (reader : SnapshotReader) (metrics : FlowMetrics) : Prop where
  losses : ∀ held ∈ reader.held, held.1 ≠ 0 → WithinPackets metrics.lossCount held.1
  unread : ∀ held ∈ reader.held, held.1 = 0 → ∀ (bucket : ℕ) (h : bucket < 10),
    held.2 ≤ bucket → metrics.latencyBuckets[bucket] = 0
  summed : ∀ byteCount next totalSamples,
    reader = .summing 0 byteCount next totalSamples → totalSamples = 0
  percent : ∀ packetCount byteCount quotient,
    reader = .finished packetCount byteCount (some quotient) →
      ∃ percent, quotient = .ok percent ∧ percent ≤ 100

namespace SnapshotReader

theorem Sound.safe {reader : SnapshotReader} {metrics : FlowMetrics}
    (hsound : reader.Sound metrics) : reader.Safe := by
  intro flowId prior result hresult
  cases reader with
  | finished packetCount byteCount percent =>
    cases percent with
    | none =>
      refine ⟨_, (Option.some.inj hresult).symm, fun hmeasured ↦ ?_⟩
      exact absurd rfl (hmeasured packetCount byteCount)
    | some quotient =>
      obtain ⟨percent, rfl, hpercent⟩ := hsound.percent packetCount byteCount quotient rfl
      refine ⟨_, (Option.some.inj hresult).symm, fun _ ↦ ?_⟩
      rw [UInt64.le_iff_toNat_le] at hpercent
      rw [UInt32.le_iff_toNat_le]
      calc
        percent.toUInt32.toNat = percent.toNat % 2 ^ 32 := UInt64.toNat_toUInt32 _
        _ ≤ percent.toNat := Nat.mod_le _ _
        _ ≤ 100 := hpercent
  | _ => cases hresult

/-- Losses within the packets give a percentage of at most 100. -/
theorem divide_of_withinPackets {lossCount : UInt32} {packetCount : UInt64}
    (hpackets : packetCount ≠ 0) (hwithin : WithinPackets lossCount packetCount) :
    ∃ percent, divide (lossCount * 100).toUInt64 packetCount = .ok percent ∧ percent ≤ 100 := by
  refine ⟨_, divide_of_ne_zero _ hpackets, ?_⟩
  have hpos := toNat_pos_of_ne hpackets
  unfold WithinPackets at hwithin
  rw [UInt64.le_iff_toNat_le, UInt64.toNat_div, UInt32.toNat_toUInt64]
  exact Nat.lt_succ_iff.mp ((Nat.div_lt_iff_lt_mul hpos).mpr hwithin)

/-- The next read of a sound snapshot leaves it sound. -/
theorem Sound.read {reader : SnapshotReader}
    {config : Interleaving.Config FlowMetrics Recorder} (hsound : reader.Sound config.shared)
    (hconsistent : Consistent config) : (reader.read config.shared).Sound config.shared := by
  obtain ⟨hlosses, hunread, hsummed, hpercent⟩ := hsound
  cases reader with
  | start =>
    refine ⟨?_, ?_, by simp [SnapshotReader.read], by simp [SnapshotReader.read]⟩
    · rintro _ ⟨⟩
      exact hconsistent.withinPackets
    · rintro _ ⟨⟩ hzero bucket hbucket -
      exact hconsistent.latencies hzero bucket hbucket
  | counted packetCount =>
    refine ⟨hlosses, hunread, ?_, by simp [SnapshotReader.read]⟩
    rintro _ _ _ ⟨⟩
    rfl
  | summing packetCount byteCount next totalSamples =>
    by_cases hnext : next < 10
    · simp only [SnapshotReader.read, dif_pos hnext]
      refine ⟨?_, ?_, ?_, by simp⟩
      · rintro _ ⟨⟩
        exact hlosses (packetCount, next) rfl
      · rintro _ ⟨⟩ hzero bucket hbucket hle
        exact hunread (packetCount, next) rfl hzero bucket hbucket (Nat.le_of_succ_le hle)
      · rintro _ _ _ ⟨⟩
        rw [hsummed _ _ _ rfl, hunread _ rfl rfl next hnext le_rfl]
        rfl
    · simp only [SnapshotReader.read, dif_neg hnext]
      by_cases htotal : 0 < totalSamples
      · have hpackets : packetCount ≠ 0 := by
          rintro rfl
          rw [hsummed _ _ _ rfl] at htotal
          exact absurd htotal (by decide)
        rw [if_pos htotal]
        refine ⟨by simp [held], by simp [held], by simp, ?_⟩
        rintro _ _ _ ⟨⟩
        exact divide_of_withinPackets hpackets (hlosses _ rfl hpackets)
      · rw [if_neg htotal]
        exact ⟨by simp [held], by simp [held], by simp, by simp⟩
  | finished packetCount byteCount percent => exact ⟨hlosses, hunread, hsummed, hpercent⟩

/-- An update that fits leaves a snapshot sound. -/
theorem Sound.advance {reader : SnapshotReader} {metrics : FlowMetrics} {recorder : Recorder}
    (hsound : reader.Sound metrics)
    (hfits : ∀ entry ∈ recorder.samples.head?,
      UpdateFits metrics reader.held entry.1 recorder.stage) :
    reader.Sound (recorder.advance metrics).1 := by
  obtain ⟨hlosses, hunread, hsummed, hpercent⟩ := hsound
  obtain ⟨samples, stage⟩ := recorder
  cases samples with
  | nil => exact ⟨hlosses, hunread, hsummed, hpercent⟩
  | cons entry rest =>
    have hfits := hfits entry rfl
    cases stage with
    | lossCount =>
      cases hlost : entry.1.packetLost with
      | false =>
        simp only [Recorder.advance, hlost]
        exact ⟨hlosses, hunread, hsummed, hpercent⟩
      | true =>
        simp only [Recorder.advance, hlost, if_true]
        exact ⟨hfits hlost, hunread, hsummed, hpercent⟩
    | bucket =>
      refine ⟨hlosses, fun held hheld hzero bucket hbucket hle ↦ ?_, hsummed, hpercent⟩
      have hread := hfits held hheld hzero
      have hbefore := hunread held hheld hzero bucket hbucket hle
      have hlt : (FlowMetrics.bucketOf entry.1.latencyUs).toNat < 10 := by omega
      simp only [Recorder.advance, FlowMetrics.addLatency, dif_pos hlt]
      rw [Vector.getElem_set_ne _ _ (by omega), hbefore]
    | _ => exact ⟨hlosses, hunread, hsummed, hpercent⟩

end SnapshotReader

/-! ## Every run -/

namespace LiveSnapshot

/-- The invariant of the runs whose updates fit. -/
theorem invariant_step (state : LiveSnapshot) (event : SnapshotEvent)
    (hfits : state.StepFits event)
    (hinvariant : Consistent state.config ∧ state.reader.Sound state.config.shared) :
    Consistent (state.step event).config ∧
      (state.step event).reader.Sound (state.step event).config.shared := by
  obtain ⟨hconsistent, hsound⟩ := hinvariant
  cases event with
  | read => exact ⟨hconsistent, hsound.read hconsistent⟩
  | record place =>
    cases hrecorder : state.config.workers[place]? with
    | none =>
      simp only [step, Interleaving.step, hrecorder]
      exact ⟨hconsistent, hsound⟩
    | some recorder =>
      have hfits := hfits recorder hrecorder
      have hstep : state.step (.record place) =
          ⟨state.reader, (recorder.advance state.config.shared).1,
            state.config.workers.set place (recorder.advance state.config.shared).2⟩ :=
        congrArg (LiveSnapshot.mk state.reader) (Interleaving.step_of_worker hrecorder)
      rw [hstep]
      refine ⟨hconsistent.advance hrecorder fun hstage hsamples ↦ ?_, hsound.advance hfits⟩
      obtain ⟨entry, rest, hentry⟩ := List.exists_cons_of_ne_nil hsamples
      have hupdate := hfits entry (by rw [hentry]; rfl)
      rwa [hstage] at hupdate

/-- **A safe snapshot.** In every run whose updates all fit the snapshot under way, the snapshot is
defined and computes a percentage of at most 100, whatever was recorded before. -/
theorem safe_of_stepsFit (leftover : UInt64) (earlier : History) (histories : List History)
    (events : List SnapshotEvent) (hearlier : earlier.length < 2 ^ 64)
    (hfits : Execution.StepsMeet step StepFits (start leftover earlier histories) events) :
    ∀ before, before <+: events →
      (after leftover earlier histories before).reader.Safe := by
  have hstart : (start leftover earlier histories).reader.Sound
      (start leftover earlier histories).config.shared :=
    ⟨by simp [start, SnapshotReader.held], by simp [start, SnapshotReader.held],
      by simp [start], by simp [start]⟩
  have hinvariant := Execution.forall_prefix_of_stepsMeet
    (fun state : LiveSnapshot ↦ Consistent state.config ∧ state.reader.Sound state.config.shared)
    ⟨consistent_start leftover histories hearlier, hstart⟩ invariant_step hfits
  exact fun before hbefore ↦ (hinvariant before hbefore).2.safe

/-- A first read, a number of recording steps and the other twelve reads. -/
def readAround (steps : ℕ) : List SnapshotEvent :=
  .read :: (List.replicate steps (.record 0) ++ List.replicate 12 .read)

/-- A sample of flow 0. -/
def sampleOf (packetLost : Bool) : TelemetrySample := ⟨0, 1, 1, 100, 5, packetLost, 0⟩

/-- A lost sample recorded inside the snapshot, after one recorded before it. -/
theorem safe_of_one_loss :
    (after 0 [(sampleOf false, 0)] [[(sampleOf true, 0)]] (readAround 5)).reader.Safe :=
  safe_of_stepsFit 0 [(sampleOf false, 0)] [[(sampleOf true, 0)]] (readAround 5) (by decide)
    (by decide +kernel) (readAround 5) List.prefix_rfl

/-- The first sample of a flow, recorded after the snapshot has read the packet count, makes it
divide by zero; two lost samples recorded after one packet was read make it report 200 percent. -/
theorem snapshot_unsafe_inside :
    let prior : FlowKPI := ⟨0, 0, 0, 0, 0, 0⟩
    (after 0 [] [[(sampleOf false, 0)]] (readAround 5)).reader.result 0 prior =
      some (.error .divideByZero) ∧
    (after 0 [(sampleOf false, 0)] [[(sampleOf true, 0), (sampleOf true, 0)]]
        (readAround 10)).reader.result 0 prior = some (.ok ⟨0, 0, 0, 1, 300, 200⟩) := by
  decide +kernel

end LiveSnapshot

end VirtualServiceGateway.Analytics
