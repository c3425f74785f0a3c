import VirtualServiceGateway.Metering.PeriodRollup

/-!
# Rollups of pairs without a counter

`getCounter` answers for a missing counter with an initialised empty one, and `rollup` leaves the
counters and the sample count of its result as the memory held them. So the two agree on every pair
that has a counter, and on the others exactly when that memory was zero.
-/

namespace VirtualServiceGateway.Metering

namespace UBBMeter

/-- The map holds a counter for the pair. -/
def hasCounter (meter : UBBMeter) (pair : Pair) : Bool :=
  (meter.counters.lookup (CounterKey.pack pair.1 pair.2)).isSome

/-- The rollup of the pair has the four counters of its snapshot, and its sample count is one if the
pair has a counter and zero otherwise. -/
structure RollupAgrees (meter : UBBMeter) (pair : Pair) (rollupPeriodNs : UInt64)
    (start stop : Int64) (priorCounter : UsageCounter) (priorRollup : UsageRollup) : Prop where
  counters : ∀ quantity,
    (meter.rollup pair.1 pair.2 rollupPeriodNs start stop priorRollup).read quantity =
      (meter.getCounter pair.1 pair.2 priorCounter).read quantity
  samples : (meter.rollup pair.1 pair.2 rollupPeriodNs start stop priorRollup).sampleCount =
    if meter.hasCounter pair then 1 else 0

end UBBMeter

/-- The memory of a rollup is zero wherever a pair without a counter leaves it unset. -/
def UsageRollup.ZeroTotals (rollup : UsageRollup) : Prop :=
  (∀ quantity, rollup.read quantity = 0) ∧ rollup.sampleCount = 0

/-- A pair has a counter exactly when a packet was accounted on it since its last reset. -/
theorem Refines.hasCounter_iff {meter : UBBMeter} {ledger : Ledger}
    (hrefines : Refines meter ledger) (pair : Pair) :
    meter.hasCounter pair ↔ ledger pair ≠ [] := by
  have htracks := hrefines.tracks pair
  unfold UBBMeter.hasCounter
  generalize ledger pair = usages at htracks ⊢
  generalize meter.counters.lookup (CounterKey.pack pair.1 pair.2) = entry at htracks ⊢
  cases htracks with
  | unused => simp
  | counted hused _ _ _ => simpa using hused

/-- With a counter the rollup and the snapshot read the same object. -/
theorem rollupAgrees_of_stored {meter : UBBMeter} {pair : Pair} {counter : UsageCounter}
    (hstored : meter.counters.lookup (CounterKey.pack pair.1 pair.2) = some counter)
    (rollupPeriodNs : UInt64) (start stop : Int64) (priorCounter : UsageCounter)
    (priorRollup : UsageRollup) :
    meter.RollupAgrees pair rollupPeriodNs start stop priorCounter priorRollup where
  counters quantity := by
    simp only [UBBMeter.rollup, UBBMeter.getCounter, hstored]
    cases quantity <;> rfl
  samples := by
    simp only [UBBMeter.rollup, UBBMeter.hasCounter, hstored]
    rfl

/-- Without one the rollup reports what its memory held, and the snapshot reports zeros. -/
theorem rollupAgrees_iff_of_missing {meter : UBBMeter} {pair : Pair}
    (hmissing : meter.counters.lookup (CounterKey.pack pair.1 pair.2) = none)
    (rollupPeriodNs : UInt64) (start stop : Int64) (priorCounter : UsageCounter)
    (priorRollup : UsageRollup) :
    meter.RollupAgrees pair rollupPeriodNs start stop priorCounter priorRollup ↔
      priorRollup.ZeroTotals := by
  have hrollup (quantity : Quantity) :
      (meter.rollup pair.1 pair.2 rollupPeriodNs start stop priorRollup).read quantity =
        priorRollup.read quantity := by
    simp only [UBBMeter.rollup, hmissing]
    cases quantity <;> rfl
  have hcounter (quantity : Quantity) :
      (meter.getCounter pair.1 pair.2 priorCounter).read quantity = 0 := by
    simp only [UBBMeter.getCounter, hmissing]
    cases quantity <;> rfl
  have hsamples : (meter.rollup pair.1 pair.2 rollupPeriodNs start stop priorRollup).sampleCount =
      priorRollup.sampleCount := by
    simp only [UBBMeter.rollup, hmissing]
  have hnone : meter.hasCounter pair = false := by
    simp only [UBBMeter.hasCounter, hmissing]
    rfl
  constructor
  · intro hagrees
    refine ⟨fun quantity ↦ ?_, ?_⟩
    · rw [← hrollup, hagrees.counters, hcounter]
    · rw [← hsamples, hagrees.samples, hnone]
      rfl
  · rintro ⟨hzero, hnoSamples⟩
    refine ⟨fun quantity ↦ ?_, ?_⟩
    · rw [hrollup, hcounter, hzero]
    · rw [hsamples, hnone, hnoSamples]
      rfl

/-- **Exact agreement condition.** After any run, the rollup of a pair agrees with its snapshot if
and only if a packet was accounted on the pair since its last reset or the memory of the result
held zeros. -/
theorem rollupAgrees_after_iff (order : IterationOrder) (maxSubscribers : UInt32)
    (calls : List Call) (pair : Pair) (rollupPeriodNs : UInt64) (start stop : Int64)
    (priorCounter : UsageCounter) (priorRollup : UsageRollup) :
    (UBBMeter.after order maxSubscribers calls).RollupAgrees pair rollupPeriodNs start stop
        priorCounter priorRollup ↔
      sinceReset calls pair ≠ [] ∨ priorRollup.ZeroTotals := by
  have hrefines := refines_after order maxSubscribers calls
  rw [← hrefines.hasCounter_iff]
  generalize UBBMeter.after order maxSubscribers calls = meter
  cases hlookup : meter.counters.lookup (CounterKey.pack pair.1 pair.2) with
  | none =>
    have hnone : ¬meter.hasCounter pair := by simp [UBBMeter.hasCounter, hlookup]
    rw [rollupAgrees_iff_of_missing hlookup]
    exact (or_iff_right hnone).symm
  | some counter =>
    have hsome : meter.hasCounter pair := by simp [UBBMeter.hasCounter, hlookup]
    exact iff_of_true (rollupAgrees_of_stored hlookup _ _ _ _ _) (Or.inl hsome)

/-- After its reset a pair is rolled up as whatever the memory held: 77 bytes in 5 samples here,
where the snapshot reports none. -/
theorem reset_pair_rolled_up :
    let calls : List Call := [.updateCounter 1 100 1000 true 5 5, .resetCounter 1 100]
    let meter := UBBMeter.after storedOrder 1000 calls
    let priorCounter : UsageCounter := UBBMeter.freshCounter 0 0 0
    let priorRollup : UsageRollup := ⟨0, 0, 0, 0, 77, 0, 0, 0, 5⟩
    (meter.rollup 1 100 10 20 20 priorRollup).uplinkBytes = 77 ∧
    (meter.rollup 1 100 10 20 20 priorRollup).sampleCount = 5 ∧
    (meter.getCounter 1 100 priorCounter).uplinkBytes = 0 ∧
    ¬meter.RollupAgrees (1, 100) 10 20 20 priorCounter priorRollup := by
  refine ⟨by decide +kernel, by decide +kernel, by decide +kernel, fun hagrees ↦ ?_⟩
  exact absurd (hagrees.counters .uplinkBytes) (by decide +kernel)

end VirtualServiceGateway.Metering
