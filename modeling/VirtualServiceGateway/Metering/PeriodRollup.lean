import VirtualServiceGateway.Metering.MeterSnapshot

/-!
# What a rollup reports for its period

A rollup labels its counters with the interval that ends now and is as long as the rollup period,
but the counters it copies are those of all packets since the last reset. Reported and accounted
traffic therefore agree exactly when the packets older than the period contribute nothing and what
those inside it add up to fits into the counters.
-/

namespace VirtualServiceGateway.Metering

open WrappingCounter

/-- The packet's clock reading lies in the interval that the rollup reports. -/
def Usage.within (rollup : UsageRollup) (usage : Usage) : Bool :=
  decide ((rollup.periodStartNs.toNat : ℤ) ≤ usage.time.toInt ∧
    usage.time.toInt ≤ rollup.periodEndNs.toNat)

/-- The packet is older than the time. -/
def Usage.before (time : ℤ) (usage : Usage) : Bool := decide (usage.time.toInt < time)

/-- The rollup reports exactly the packets of its interval. -/
def UsageRollup.ReportsPeriod (rollup : UsageRollup) (usages : List Usage) : Prop :=
  ∀ quantity, (rollup.read quantity).toNat =
    tally (Usage.amount quantity) (usages.filter (Usage.within rollup))

instance (rollup : UsageRollup) (usages : List Usage) : Decidable (rollup.ReportsPeriod usages) :=
  inferInstanceAs (Decidable (∀ quantity, (rollup.read quantity).toNat =
    tally (Usage.amount quantity) (usages.filter (Usage.within rollup))))

/-- A rollup of the pair for the period, by itself or as an entry of a batch, with the two clock
readings taken for it. -/
inductive RollupProduced (meter : UBBMeter) (pair : Pair) (rollupPeriodNs : UInt64)
    (start stop : Int64) : UsageRollup → Prop where
  | single (prior : UsageRollup) : RollupProduced meter pair rollupPeriodNs start stop
      (meter.rollup pair.1 pair.2 rollupPeriodNs start stop prior)
  | entry (order : IterationOrder) (clock : ℕ → Int64 × Int64) (index : ℕ) (rollup : UsageRollup)
      (hentry : (meter.batchRollup order rollupPeriodNs clock)[index]? = some rollup)
      (hpair : rollup.pair = pair) (hclock : clock index = (start, stop)) :
      RollupProduced meter pair rollupPeriodNs start stop rollup

/-- A reading at or after the epoch keeps its value as an unsigned time stamp. -/
theorem toNat_toUInt64_of_nonneg (reading : Int64) (h : 0 ≤ reading.toInt) :
    (reading.toUInt64.toNat : ℤ) = reading.toInt := by
  have hcond := BitVec.toInt_eq_toNat_cond reading.toBitVec
  have hlt := reading.toBitVec.isLt
  change 0 ≤ reading.toBitVec.toInt at h
  change (reading.toBitVec.toNat : ℤ) = reading.toBitVec.toInt
  split at hcond <;> omega

/-- Every produced rollup of a used pair reports the totals since the last reset, under the
interval computed from its two clock readings. -/
theorem RollupProduced.spec {meter : UBBMeter} {ledger : Ledger} (hrefines : Refines meter ledger)
    {pair : Pair} {rollupPeriodNs : UInt64} {start stop : Int64} {rollup : UsageRollup}
    (hproduced : RollupProduced meter pair rollupPeriodNs start stop rollup)
    (hused : ledger pair ≠ []) :
    rollup.periodStartNs = start.toUInt64 - rollupPeriodNs ∧
    rollup.periodEndNs = stop.toUInt64 ∧
    ∀ quantity, rollup.read quantity =
      wrap64 (tally (Usage.amount quantity) (ledger pair)) := by
  cases hproduced with
  | single prior =>
    obtain ⟨key, counter, hstored, rfl⟩ := (hrefines.used_iff pair).mp hused
    obtain ⟨hkey, htracks⟩ := hrefines.tracks_stored hstored
    have hlookup : meter.counters.lookup (CounterKey.pack counter.pair.1 counter.pair.2) =
        some counter := by
      rw [← hstored, hkey]
      rfl
    simp only [UBBMeter.rollup, hlookup, true_and]
    intro quantity
    rw [← htracks.totals quantity]
    cases quantity <;> rfl
  | entry order clock index _ hentry hpair hclock =>
    obtain ⟨key, counter, hstored, rfl⟩ := exists_of_getElem?_batchRollup hentry
    have htracks := (hrefines.tracks_stored hstored).2
    subst hpair
    rw [hclock]
    refine ⟨rfl, rfl, fun quantity ↦ ?_⟩
    rw [read_rollupEntry]
    exact htracks.totals quantity

/-- With a non-decreasing clock a packet lies in the reported interval exactly when it is not
older than the period. -/
theorem within_eq_not_before {rollup : UsageRollup} {rollupPeriodNs : UInt64}
    {start stop : Int64} (hstart : rollup.periodStartNs = start.toUInt64 - rollupPeriodNs)
    (hend : rollup.periodEndNs = stop.toUInt64)
    (hperiod : (rollupPeriodNs.toNat : ℤ) ≤ start.toInt) (hstop : start ≤ stop)
    (usage : Usage) (hclock : usage.time ≤ start) :
    usage.within rollup = !usage.before (start.toInt - rollupPeriodNs.toNat) := by
  have hstartNonneg : 0 ≤ start.toInt := by omega
  have hstop' := Int64.le_iff_toInt_le.mp hstop
  have hclock' := Int64.le_iff_toInt_le.mp hclock
  have hstartNat := toNat_toUInt64_of_nonneg start hstartNonneg
  have hstopNat := toNat_toUInt64_of_nonneg stop (by omega)
  have hle : rollupPeriodNs ≤ start.toUInt64 := UInt64.le_iff_toNat_le.mpr (by omega)
  have hperiodStart : (rollup.periodStartNs.toNat : ℤ) = start.toInt - rollupPeriodNs.toNat := by
    rw [hstart, UInt64.toNat_sub_of_le _ _ hle]
    omega
  rw [Bool.eq_iff_iff]
  simp only [Usage.within, Usage.before, decide_eq_true_eq, Bool.not_eq_true',
    decide_eq_false_iff_not, hperiodStart, hend, hstopNat]
  omega

/-- Below `2 ^ 64` packets nothing older than the period means no packet at all. -/
theorem filter_before_eq_nil_iff (usages : List Usage) (time : ℤ)
    (hlength : usages.length < 2 ^ 64) :
    usages.filter (Usage.before time) = [] ↔
      ∀ quantity,
        tally (Usage.amount quantity) (usages.filter (Usage.before time)) % 2 ^ 64 = 0 := by
  have hshort := (List.length_filter_le (Usage.before time) usages).trans_lt hlength
  generalize usages.filter (Usage.before time) = early at hshort
  constructor
  · rintro rfl quantity
    rfl
  · intro h
    have hpackets : tally (Usage.amount .uplinkPackets) early +
        tally (Usage.amount .downlinkPackets) early = early.length := by
      clear hshort h
      induction early with
      | nil => rfl
      | cons usage early ih => cases hlink : usage.uplink <;> simp [Usage.amount, hlink] <;> omega
    have hup := h .uplinkPackets
    have hdown := h .downlinkPackets
    rw [← List.length_eq_zero_iff]
    omega

/-- One iteration order: the order in which the association list stores the entries. -/
def storedOrder : IterationOrder := ⟨fun counters ↦ counters.entries, fun _ ↦ List.Perm.refl _⟩

/-- **Exact period condition.** A rollup of a used pair, taken after any run with a non-decreasing
clock, reports exactly the packets of its interval if and only if, in each quantity, the packets
accounted since the last reset but before the interval add up to a multiple of `2 ^ 64` and those
inside it add up to less than `2 ^ 64`. For fewer than `2 ^ 64` packets the first part says that no
packet since the last reset is older than the interval. -/
theorem rollup_reportsPeriod_iff (order : IterationOrder) (maxSubscribers : UInt32)
    (calls : List Call) (pair : Pair) (rollupPeriodNs : UInt64) (start stop : Int64)
    (rollup : UsageRollup) (hused : sinceReset calls pair ≠ [])
    (hproduced : RollupProduced (UBBMeter.after order maxSubscribers calls) pair rollupPeriodNs
      start stop rollup)
    (hperiod : (rollupPeriodNs.toNat : ℤ) ≤ start.toInt)
    (hclock : ∀ usage ∈ sinceReset calls pair, usage.time ≤ start) (hstop : start ≤ stop) :
    let older := (sinceReset calls pair).filter
      (Usage.before (start.toInt - rollupPeriodNs.toNat))
    let inside := (sinceReset calls pair).filter fun usage ↦
      !usage.before (start.toInt - rollupPeriodNs.toNat)
    (rollup.ReportsPeriod (sinceReset calls pair) ↔
      ∀ quantity, tally (Usage.amount quantity) older % 2 ^ 64 = 0 ∧
        tally (Usage.amount quantity) inside < 2 ^ 64) ∧
    ((sinceReset calls pair).length < 2 ^ 64 →
      ((∀ quantity, tally (Usage.amount quantity) older % 2 ^ 64 = 0) ↔ older = [])) := by
  obtain ⟨hperiodStart, hperiodEnd, htotals⟩ :=
    hproduced.spec (refines_after order maxSubscribers calls) hused
  generalize sinceReset calls pair = usages at hclock htotals ⊢
  intro older inside
  have hwithin : usages.filter (Usage.within rollup) = inside := by
    apply List.filter_congr
    intro usage husage
    exact within_eq_not_before hperiodStart hperiodEnd hperiod hstop usage (hclock usage husage)
  refine ⟨?_, fun hlength ↦ (filter_before_eq_nil_iff usages _ hlength).symm⟩
  unfold UsageRollup.ReportsPeriod
  apply forall_congr'
  intro quantity
  have hsplit : tally (Usage.amount quantity) older + tally (Usage.amount quantity) inside =
      tally (Usage.amount quantity) usages := tally_filter_add _ _ usages
  rw [htotals, toNat_wrap64, hwithin]
  omega

/-- A rollup that reaches back to the first packet reports its period. -/
theorem rollup_reportsPeriod_fresh :
    ((UBBMeter.after storedOrder 1000 [.updateCounter 1 100 1000 true 5 5]).rollup 1 100 10 10 10
      ⟨0, 0, 0, 0, 0, 0, 0, 0, 0⟩).ReportsPeriod
        (sinceReset [.updateCounter 1 100 1000 true 5 5] (1, 100)) :=
  (rollup_reportsPeriod_iff storedOrder 1000 [.updateCounter 1 100 1000 true 5 5] (1, 100) 10 10 10
    _ (by decide) (RollupProduced.single _) (by decide) (by decide) (by decide)).1.mpr
      fun quantity ↦ by cases quantity <;> decide

/-- The same 1000 bytes, accounted at time 5, are reported for `[0, 10]` and for `[50, 100]`. -/
theorem rollup_reports_twice :
    let calls : List Call := [.updateCounter 1 100 1000 true 5 5]
    let meter := UBBMeter.after storedOrder 1000 calls
    let prior : UsageRollup := ⟨0, 0, 0, 0, 0, 0, 0, 0, 0⟩
    let first := meter.rollup 1 100 10 10 10 prior
    let second := meter.rollup 1 100 50 100 100 prior
    first.ReportsPeriod (sinceReset calls (1, 100)) ∧
    first.periodEndNs < second.periodStartNs ∧
    first.uplinkBytes = 1000 ∧ second.uplinkBytes = 1000 ∧
    ¬second.ReportsPeriod (sinceReset calls (1, 100)) := by
  decide +kernel

end VirtualServiceGateway.Metering
