import VirtualServiceGateway.Analytics.ConcurrentRecording

/-!
# What threads store and still owe

Read as numbers, the counters of a slot only grow as long as they do not wrap: what a thread has
still to add to a counter and what the counter holds keep their sum. The time stamps of the slots are
those that the slots had or that the samples bring.
-/

namespace VirtualServiceGateway.Analytics

open Interleaving WrappingCounter

/-! ## Counters as numbers -/

/-- A counter of a slot, read as a number that wraps at a bound. -/
structure NumberedCounter (Amount : Type*) [AddCommMonoid Amount] extends SlotCounter Amount where
  wrap : ℕ →+ Amount
  held : Amount → ℕ
  bound : ℕ
  amount : TelemetrySample → ℕ
  wrap_amount : ∀ sample, wrap (amount sample) = weight sample
  wrap_held : ∀ count, wrap (held count) = count
  held_wrap : ∀ total, held (wrap total) = total % bound

def packetNumber : NumberedCounter UInt64 where
  toSlotCounter := packetCounter
  wrap := wrap64
  held := UInt64.toNat
  bound := 2 ^ 64
  amount := fun _ ↦ 1
  wrap_amount := fun _ ↦ rfl
  wrap_held := wrap64_toNat
  held_wrap := toNat_wrap64

def byteNumber : NumberedCounter UInt64 where
  toSlotCounter := byteCounter
  wrap := wrap64
  held := UInt64.toNat
  bound := 2 ^ 64
  amount := fun sample ↦ sample.packetSize.toNat
  wrap_amount := fun sample ↦ wrap64_toUInt64 sample.packetSize
  wrap_held := wrap64_toNat
  held_wrap := toNat_wrap64

def lossNumber : NumberedCounter UInt32 where
  toSlotCounter := lossCounter
  wrap := wrap32
  held := UInt32.toNat
  bound := 2 ^ 32
  amount := fun sample ↦ if sample.packetLost then 1 else 0
  wrap_amount := by
    intro sample
    cases hlost : sample.packetLost <;> simp [lossCounter, hlost]
  wrap_held := fun _ ↦ UInt32.ofNat_toNat
  held_wrap := toNat_wrap32

namespace NumberedCounter

variable {Amount : Type*} [AddCommMonoid Amount] (counter : NumberedCounter Amount) (flow : ℕ)

/-- What the counter of the flow holds. -/
def stored (config : Config QoECollector TableUser) : ℕ :=
  counter.held (counter.inTable flow config.shared)

/-- What a sample adds to the counter of the flow. -/
def part (entry : TelemetrySample × UInt64) : ℕ :=
  if entry.1.flowId.toNat = flow then counter.amount entry.1 else 0

/-- What a thread has still to add to the counter of the flow. -/
def owedBy : TableUser → ℕ
  | .flusher _ => 0
  | .recorder ⟨[], _⟩ => 0
  | .recorder ⟨entry :: rest, stage⟩ =>
      (if stage.index ≤ counter.stage.index then counter.part flow entry else 0) +
        tally (counter.part flow) rest

/-- What all threads have still to add to the counter of the flow. -/
def owed (config : Config QoECollector TableUser) : ℕ :=
  (config.workers.map (counter.owedBy flow)).sum

theorem wrap_part (entry : TelemetrySample × UInt64) :
    counter.wrap (counter.part flow entry) = counter.share flow entry := by
  unfold part SlotCounter.share
  split
  · exact counter.wrap_amount entry.1
  · exact map_zero counter.wrap

theorem wrap_owedBy (thread : TableUser) :
    counter.wrap (counter.owedBy flow thread) = counter.pendingOf flow thread := by
  match thread with
  | .flusher _ => exact map_zero counter.wrap
  | .recorder ⟨[], _⟩ => exact map_zero counter.wrap
  | .recorder ⟨entry :: rest, stage⟩ =>
    have hrest : counter.wrap (tally (counter.part flow) rest) =
        (rest.map (counter.share flow)).sum := by
      rw [← sum_map_wrap]
      simp only [wrap_part]
    simp only [owedBy, map_add, hrest, SlotCounter.pendingOf, SlotCounter.pending]
    split
    · rw [wrap_part]
    · rw [map_zero]

/-- Stored and owed amounts together are the wrapped numbers. -/
theorem wrap_stored_add_owed (config : Config QoECollector TableUser) :
    counter.wrap (counter.stored flow config + counter.owed flow config) =
      total (counter.inTable flow) (counter.pendingOf flow) config := by
  rw [map_add, stored, counter.wrap_held, owed, map_list_sum, List.map_map, total]
  refine congrArg (_ + List.sum ·) (List.map_congr_left fun thread _ ↦ ?_)
  exact counter.wrap_owedBy flow thread

theorem owedBy_fresh (samples : History) :
    counter.owedBy flow (.recorder ⟨samples, .packetCount⟩) = tally (counter.part flow) samples := by
  cases samples with
  | nil => rfl
  | cons entry rest => exact congrArg (· + _) (if_pos (Nat.zero_le _))

/-- A recorder owes less the further it is with a sample. -/
theorem owedBy_later (entry : TelemetrySample × UInt64) (rest : History)
    {reached later : RecordStage} (hlater : reached.index ≤ later.index) :
    counter.owedBy flow (.recorder ⟨entry :: rest, later⟩) ≤
      counter.owedBy flow (.recorder ⟨entry :: rest, reached⟩) := by
  refine Nat.add_le_add_right ?_ _
  by_cases hstage : later.index ≤ counter.stage.index
  · rw [if_pos hstage, if_pos (hlater.trans hstage)]
  · rw [if_neg hstage]
    exact Nat.zero_le _

theorem owedBy_rest (entry : TelemetrySample × UInt64) (rest : History) (stage : RecordStage) :
    counter.owedBy flow (.recorder ⟨rest, .packetCount⟩) ≤
      counter.owedBy flow (.recorder ⟨entry :: rest, stage⟩) := by
  rw [owedBy_fresh]
  exact Nat.le_add_left _ _

/-- A thread that moves owes no more than before. -/
theorem owedBy_advance (collector : QoECollector) (clock : UInt64) (thread : TableUser) :
    counter.owedBy flow (thread.advance clock collector).2 ≤ counter.owedBy flow thread := by
  match thread with
  | .flusher _ => exact le_rfl
  | .recorder ⟨[], _⟩ => exact le_rfl
  | .recorder ⟨(sample, now) :: rest, stage⟩ =>
    cases hslot : collector.flowMetrics[sample.flowId.toNat]? with
    | none =>
      simp only [TableUser.advance, Recorder.advanceTable, hslot]
      exact counter.owedBy_rest flow _ rest stage
    | some metrics =>
      simp only [TableUser.advance, Recorder.advanceTable, hslot]
      cases stage with
      | bucket => exact counter.owedBy_rest flow _ rest .bucket
      | packetCount | byteCount | lastUpdate | lossCount =>
        exact counter.owedBy_later flow _ rest (by decide)

theorem owed_step (config : Config QoECollector TableUser) (pick : ℕ × UInt64) :
    counter.owed flow (Interleaving.step TableUser.advance config pick) ≤
      counter.owed flow config := by
  apply step_induction config pick (fun config' ↦ counter.owed flow config' ≤
    counter.owed flow config) le_rfl
  intro thread shared moved hthread hmove
  have hless := counter.owedBy_advance flow config.shared pick.2 thread
  rw [hmove] at hless
  have hset := sum_map_set (counter.owedBy flow) hthread moved
  unfold owed
  dsimp only at hless ⊢
  omega

/-- No counter of a slot wraps while the threads record. -/
def Fits (start : Config QoECollector TableUser) : Prop :=
  ∀ flow < start.shared.flowMetrics.length,
    counter.stored flow start + counter.owed flow start < counter.bound

/-- What was owed is stored. -/
def Keeps (start config : Config QoECollector TableUser) : Prop :=
  ∀ flow < start.shared.flowMetrics.length,
    counter.stored flow config + counter.owed flow config =
      counter.stored flow start + counter.owed flow start

variable {start config : Config QoECollector TableUser}

theorem Keeps.stored_le (hfits : counter.Fits start) (hkeeps : counter.Keeps start config)
    {flow : ℕ} (hflow : flow < start.shared.flowMetrics.length) :
    counter.stored flow config < counter.bound := by
  have hsame := hkeeps flow hflow
  have hroom := hfits flow hflow
  omega

variable [IsLeftCancelAdd Amount]

/-- **One step.** Where nothing wraps, a step of a thread takes from what is owed what it adds to what
is stored. -/
theorem stored_step (hflow : flow < config.shared.flowMetrics.length)
    (hroom : counter.stored flow config + counter.owed flow config < counter.bound)
    (pick : ℕ × UInt64) :
    counter.stored flow (Interleaving.step TableUser.advance config pick) +
        counter.owed flow (Interleaving.step TableUser.advance config pick) =
      counter.stored flow config + counter.owed flow config := by
  have htotal := (Conserved.step counter.toSlotCounter flow hflow ⟨rfl, rfl⟩ pick).2
  rw [← wrap_stored_add_owed, ← wrap_stored_add_owed] at htotal
  obtain ⟨moved, hmoved⟩ := Nat.exists_eq_add_of_le (counter.owed_step flow config pick)
  generalize Interleaving.step TableUser.advance config pick = config' at htotal hmoved ⊢
  have hwrap : counter.wrap (counter.stored flow config') =
      counter.wrap (counter.stored flow config + moved) := by
    apply add_left_cancel (a := counter.wrap (counter.owed flow config'))
    rw [← map_add, ← map_add, Nat.add_comm, htotal, hmoved]
    congr 1
    omega
  have hstored := congrArg counter.held hwrap
  have hlt : counter.stored flow config' < counter.bound := by
    rw [stored, ← counter.wrap_held (counter.inTable flow config'.shared), counter.held_wrap]
    exact Nat.mod_lt _ (by omega)
  rw [counter.held_wrap, counter.held_wrap, Nat.mod_eq_of_lt hlt, Nat.mod_eq_of_lt (by omega)]
    at hstored
  omega

theorem Keeps.step (hfits : counter.Fits start)
    (hlength : config.shared.flowMetrics.length = start.shared.flowMetrics.length)
    (hkeeps : counter.Keeps start config) (pick : ℕ × UInt64) :
    counter.Keeps start (Interleaving.step TableUser.advance config pick) ∧
      ∀ flow < start.shared.flowMetrics.length, counter.stored flow config ≤
        counter.stored flow (Interleaving.step TableUser.advance config pick) := by
  have hstep : ∀ flow < start.shared.flowMetrics.length, _ := fun flow hflow ↦
    counter.stored_step flow (hlength ▸ hflow) (hkeeps flow hflow ▸ hfits flow hflow) pick
  constructor
  · intro flow hflow
    rw [hstep flow hflow, hkeeps flow hflow]
  · intro flow hflow
    have howed := counter.owed_step flow config pick
    have hsame := hstep flow hflow
    omega

end NumberedCounter

/-! ## Time stamps -/

/-- The samples that a thread still records. -/
def TableUser.samples : TableUser → History
  | .recorder thread => thread.samples
  | .flusher _ => []

/-- The slot of the flow has the stamp, or a thread records a sample of the flow with it. -/
def Possible (start : Config QoECollector TableUser) (flow : ℕ) (stamp : UInt64) : Prop :=
  start.shared.flowMetrics[flow]?.map FlowMetrics.lastUpdateNs = some stamp ∨
    ∃ thread ∈ start.workers, ∃ entry ∈ thread.samples,
      entry.1.flowId.toNat = flow ∧ entry.2 = stamp

/-- The stamps of the slots and of the samples still to record are among the given ones. -/
structure Stamped (possible : ℕ → UInt64 → Prop) (config : Config QoECollector TableUser) :
    Prop where
  slots : ∀ (flow : ℕ) metrics, config.shared.flowMetrics[flow]? = some metrics →
    possible flow metrics.lastUpdateNs
  samples : ∀ thread ∈ config.workers, ∀ entry ∈ thread.samples,
    possible entry.1.flowId.toNat entry.2

theorem stamped_start (start : Config QoECollector TableUser) :
    Stamped (Possible start) start where
  slots := fun flow metrics hslot ↦ .inl (by rw [hslot, Option.map_some])
  samples := fun thread hthread entry hentry ↦ .inr ⟨thread, hthread, entry, hentry, rfl, rfl⟩

theorem samples_advance (clock : UInt64) (collector : QoECollector) (thread : TableUser) :
    ∀ entry ∈ (thread.advance clock collector).2.samples, entry ∈ thread.samples := by
  match thread with
  | .flusher _ => exact fun _ hentry ↦ hentry
  | .recorder ⟨[], _⟩ => exact fun _ hentry ↦ hentry
  | .recorder ⟨(sample, now) :: rest, stage⟩ =>
    intro entry hentry
    simp only [TableUser.advance, Recorder.advanceTable] at hentry
    split at hentry
    · exact List.mem_cons_of_mem _ hentry
    · cases stage with
      | bucket => exact List.mem_cons_of_mem _ hentry
      | _ => exact hentry

/-- A slot has the stamp that it had, or the one of a sample that the moving thread records. -/
theorem lastUpdate_advance (clock : UInt64) (collector : QoECollector) (thread : TableUser)
    (flow : ℕ) (metrics : FlowMetrics)
    (hslot : (thread.advance clock collector).1.flowMetrics[flow]? = some metrics) :
    (∃ old, collector.flowMetrics[flow]? = some old ∧ metrics.lastUpdateNs = old.lastUpdateNs) ∨
      ∃ entry ∈ thread.samples, entry.1.flowId.toNat = flow ∧ entry.2 = metrics.lastUpdateNs := by
  match thread with
  | .recorder ⟨[], _⟩ => exact .inl ⟨metrics, hslot, rfl⟩
  | .recorder ⟨(sample, now) :: rest, stage⟩ =>
    cases hold : collector.flowMetrics[sample.flowId.toNat]? with
    | none =>
      simp only [TableUser.advance, Recorder.advanceTable, hold] at hslot
      exact .inl ⟨metrics, hslot, rfl⟩
    | some old =>
      simp only [TableUser.advance, Recorder.advanceTable, hold, QoECollector.setSlot] at hslot
      rcases getElem?_set_eq_some hslot with ⟨rfl, rfl⟩ | ⟨hsame, -⟩
      · cases stage with
        | lastUpdate => exact .inr ⟨(sample, now), List.mem_cons_self, rfl, rfl⟩
        | lossCount =>
          refine .inl ⟨old, hold, ?_⟩
          cases hlost : sample.packetLost <;> simp [Recorder.advance, hlost]
        | packetCount | byteCount | bucket => exact .inl ⟨old, hold, rfl⟩
      · exact .inl ⟨metrics, hsame, rfl⟩
  | .flusher ⟨[], _, _⟩ => exact .inl ⟨metrics, hslot, rfl⟩
  | .flusher ⟨_ :: _, .idle, _⟩ => exact .inl ⟨metrics, hslot, rfl⟩
  | .flusher ⟨maxIdleNs :: _, .looking now index _, _⟩ =>
    simp only [TableUser.advance, Flusher.advance] at hslot
    split at hslot
    · exact .inl ⟨metrics, hslot, rfl⟩
    · split at hslot <;> exact .inl ⟨metrics, hslot, rfl⟩
  | .flusher ⟨_ :: _, .marking _ index _, _⟩ =>
    cases hold : collector.flowMetrics[index]? with
    | none =>
      simp only [TableUser.advance, Flusher.advance, hold] at hslot
      exact .inl ⟨metrics, hslot, rfl⟩
    | some old =>
      simp only [TableUser.advance, Flusher.advance, hold, QoECollector.setSlot] at hslot
      rcases getElem?_set_eq_some hslot with ⟨rfl, rfl⟩ | ⟨hsame, -⟩
      · exact .inl ⟨old, hold, rfl⟩
      · exact .inl ⟨metrics, hsame, rfl⟩

theorem Stamped.step {possible : ℕ → UInt64 → Prop} {config : Config QoECollector TableUser}
    (hstamped : Stamped possible config) (pick : ℕ × UInt64) :
    Stamped possible (Interleaving.step TableUser.advance config pick) := by
  apply step_induction config pick (Stamped possible) hstamped
  intro thread shared moved hthread hmove
  have hmem := List.mem_of_getElem? hthread
  constructor
  · intro flow metrics hslot
    have hadvance := lastUpdate_advance pick.2 config.shared thread flow metrics
    rw [hmove] at hadvance
    rcases hadvance hslot with ⟨old, hold, hsame⟩ | ⟨entry, hentry, rfl, hsame⟩
    · rw [hsame]
      exact hstamped.slots flow old hold
    · rw [← hsame]
      exact hstamped.samples thread hmem entry hentry
  · apply forall_workers_set
    · intro entry hentry
      have hsamples := samples_advance pick.2 config.shared thread entry
      rw [hmove] at hsamples
      exact hstamped.samples thread hmem entry (hsamples hentry)
    · exact hstamped.samples

end VirtualServiceGateway.Analytics
