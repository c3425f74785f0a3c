import VirtualServiceGateway.Metering.UsageLedger

/-!
# Agreement of the four read paths

`getCounter` and `rollup` reach a counter through the packed key; `batchRollup` and
`getTotalUsage` iterate over the map and take the identity from the counter itself. On a meter
that refines a ledger the four agree: the batch has one entry for each used pair, every entry
carries the pair's own counters, and the entries add up to the total.
-/

namespace VirtualServiceGateway.Metering

open WrappingCounter

/-- The pair a rollup reports on. -/
def UsageRollup.pair (rollup : UsageRollup) : Pair := (rollup.subscriberId, rollup.serviceId)

/-- Bytes of both directions that a rollup reports. -/
def UsageRollup.bothBytes (rollup : UsageRollup) : ℕ :=
  rollup.uplinkBytes.toNat + rollup.downlinkBytes.toNat

/-- Bytes of both directions that a counter holds. -/
def UsageCounter.bothBytes (counter : UsageCounter) : ℕ :=
  counter.uplinkBytes.toNat + counter.downlinkBytes.toNat

@[simp]
theorem read_rollupEntry (quantity : Quantity) (counter : UsageCounter) (rollupPeriodNs : UInt64)
    (start stop : Int64) :
    (UBBMeter.rollupEntry counter rollupPeriodNs start stop).read quantity =
      counter.read quantity := by
  cases quantity <;> rfl

/-- Whatever does not depend on the clock can be read off the batch in iteration order. -/
theorem map_batchRollup {Result : Type*} (order : IterationOrder) (meter : UBBMeter)
    (rollupPeriodNs : UInt64) (clock : ℕ → Int64 × Int64) (onRollup : UsageRollup → Result)
    (onCounter : UsageCounter → Result)
    (hsame : ∀ counter start stop,
      onRollup (UBBMeter.rollupEntry counter rollupPeriodNs start stop) = onCounter counter) :
    (meter.batchRollup order rollupPeriodNs clock).map onRollup =
      (order.pairs meter.counters).map fun pair ↦ onCounter pair.2 := by
  apply List.ext_getElem?
  intro index
  simp [UBBMeter.batchRollup, Function.comp_def, hsame]

/-- The iteration visits exactly the stored counters. -/
theorem mem_pairs_iff (order : IterationOrder) (counters : CounterMap) (key : CounterKey)
    (counter : UsageCounter) :
    ⟨key, counter⟩ ∈ order.pairs counters ↔ counters.lookup key = some counter := by
  rw [(order.perm counters).mem_iff, ← AList.mem_lookup_iff, Option.mem_def]

/-- An entry of a batch rollup comes from a stored counter. -/
theorem exists_of_getElem?_batchRollup {order : IterationOrder} {meter : UBBMeter}
    {rollupPeriodNs : UInt64} {clock : ℕ → Int64 × Int64} {index : ℕ} {rollup : UsageRollup}
    (hrollup : (meter.batchRollup order rollupPeriodNs clock)[index]? = some rollup) :
    ∃ key counter, meter.counters.lookup key = some counter ∧
      rollup = UBBMeter.rollupEntry counter rollupPeriodNs (clock index).1 (clock index).2 := by
  rw [UBBMeter.batchRollup, List.getElem?_mapIdx, Option.map_eq_some_iff] at hrollup
  obtain ⟨⟨key, counter⟩, hpair, rfl⟩ := hrollup
  exact ⟨key, counter, (mem_pairs_iff order _ key counter).mp (List.mem_of_getElem? hpair), rfl⟩

/-- A stored counter of a refined meter tracks the pair it names. -/
theorem Refines.tracks_stored {meter : UBBMeter} {ledger : Ledger}
    (hrefines : Refines meter ledger) {key : CounterKey} {counter : UsageCounter}
    (hstored : meter.counters.lookup key = some counter) :
    key = CounterKey.pack counter.subscriberId counter.serviceId ∧
      Tracks counter.pair (ledger counter.pair) (some counter) := by
  have hkey := hrefines.keyed key counter hstored
  refine ⟨hkey, ?_⟩
  have htracks := hrefines.tracks counter.pair
  rw [show CounterKey.pack counter.pair.1 counter.pair.2 = key from hkey.symm, hstored] at htracks
  exact htracks

theorem Tracks.totals {pair : Pair} {usages : List Usage} {counter : UsageCounter}
    (htracks : Tracks pair usages (some counter)) (quantity : Quantity) :
    counter.read quantity = wrap64 (tally (Usage.amount quantity) usages) := by
  cases htracks with
  | counted _ _ _ htotals => exact htotals quantity

/-- A pair is used exactly when the map holds a counter that names it. -/
theorem Refines.used_iff {meter : UBBMeter} {ledger : Ledger} (hrefines : Refines meter ledger)
    (pair : Pair) :
    ledger pair ≠ [] ↔ ∃ key counter, meter.counters.lookup key = some counter ∧
      counter.pair = pair := by
  have htracks := hrefines.tracks pair
  constructor
  · intro hused
    cases hlookup : meter.counters.lookup (CounterKey.pack pair.1 pair.2) with
    | none =>
      rw [hlookup] at htracks
      generalize ledger pair = usages at htracks hused
      cases htracks
      exact absurd rfl hused
    | some counter =>
      rw [hlookup] at htracks
      generalize ledger pair = usages at htracks
      cases htracks with
      | counted _ hsubscriber hservice _ =>
        exact ⟨_, counter, hlookup, Prod.ext hsubscriber hservice⟩
  · rintro ⟨key, counter, hstored, rfl⟩
    have hcounted := (hrefines.tracks_stored hstored).2
    generalize ledger counter.pair = usages at hcounted
    cases hcounted with
    | counted hused _ _ _ => exact hused

/-- No two entries of the batch report on one pair. -/
theorem Refines.nodup_pairs {meter : UBBMeter} {ledger : Ledger} (hrefines : Refines meter ledger)
    (order : IterationOrder) :
    ((order.pairs meter.counters).map fun pair ↦ pair.2.pair).Nodup := by
  have hkeys : (order.pairs meter.counters).map Sigma.fst =
      ((order.pairs meter.counters).map fun pair ↦ pair.2.pair).map fun pair ↦
        CounterKey.pack pair.1 pair.2 := by
    rw [List.map_map]
    apply List.map_congr_left
    intro entry hentry
    exact hrefines.keyed _ _ ((mem_pairs_iff order _ _ _).mp hentry)
  have hnodup : ((order.pairs meter.counters).map Sigma.fst).Nodup :=
    ((order.perm meter.counters).map Sigma.fst).nodup_iff.mpr meter.counters.keys_nodup
  rw [hkeys] at hnodup
  exact hnodup.of_map

/-- The total adds up the bytes of every stored counter. -/
theorem getTotalUsage_eq (order : IterationOrder) (meter : UBBMeter) :
    meter.getTotalUsage order =
      wrap64 (tally (fun entry ↦ entry.2.bothBytes) meter.counters.entries) := by
  have hstep : (fun (total : UInt64) (pair : Σ _ : CounterKey, UsageCounter) ↦
      total + pair.2.uplinkBytes + pair.2.downlinkBytes) =
        fun total pair ↦ total + wrap64 pair.2.bothBytes := by
    funext total pair
    rw [UsageCounter.bothBytes, map_add, wrap64_toNat, wrap64_toNat, add_assoc]
  unfold UBBMeter.getTotalUsage
  rw [hstep, foldl_add_wrap, zero_add, tally_perm _ (order.perm meter.counters)]

/-- An entry of the batch reports what `getCounter` and `rollup` report for its pair. -/
theorem Refines.read_batch_entry {meter : UBBMeter} {ledger : Ledger}
    (hrefines : Refines meter ledger) {order : IterationOrder} {rollupPeriodNs : UInt64}
    {clock : ℕ → Int64 × Int64} {rollup : UsageRollup}
    (hrollup : rollup ∈ meter.batchRollup order rollupPeriodNs clock) (quantity : Quantity)
    (period : UInt64) (start stop : Int64) (priorCounter : UsageCounter)
    (priorRollup : UsageRollup) :
    rollup.read quantity =
      (meter.getCounter rollup.subscriberId rollup.serviceId priorCounter).read quantity ∧
    rollup.read quantity =
      (meter.rollup rollup.subscriberId rollup.serviceId period start stop priorRollup).read
        quantity := by
  obtain ⟨index, hindex⟩ := List.getElem?_of_mem hrollup
  obtain ⟨key, counter, hstored, rfl⟩ := exists_of_getElem?_batchRollup hindex
  have hlookup : meter.counters.lookup (CounterKey.pack counter.subscriberId counter.serviceId) =
      some counter := hrefines.keyed key counter hstored ▸ hstored
  simp only [UBBMeter.getCounter, UBBMeter.rollup, UBBMeter.rollupEntry, hlookup]
  cases quantity <;> exact ⟨rfl, rfl⟩

/-- The entries of the batch add up to the total. -/
theorem tally_batchRollup (order totalOrder : IterationOrder) (meter : UBBMeter)
    (rollupPeriodNs : UInt64) (clock : ℕ → Int64 × Int64) :
    tally UsageRollup.bothBytes (meter.batchRollup order rollupPeriodNs clock) % 2 ^ 64 =
      (meter.getTotalUsage totalOrder).toNat := by
  have hentries := map_batchRollup order meter rollupPeriodNs clock UsageRollup.bothBytes
    UsageCounter.bothBytes fun _ _ _ ↦ rfl
  have hbytes : tally UsageRollup.bothBytes (meter.batchRollup order rollupPeriodNs clock) =
      tally (fun entry ↦ entry.2.bothBytes) (order.pairs meter.counters) :=
    congrArg List.sum hentries
  rw [getTotalUsage_eq, toNat_wrap64, hbytes, tally_perm _ (order.perm meter.counters)]

/-- **Snapshot agreement.** After any run and for every iteration order, the batch rollup has
exactly one entry for each pair used since its last reset and no other, every entry reports the
counters that `getCounter` and `rollup` report for the entry's own pair, and the entries' bytes add
up to `getTotalUsage` modulo `2 ^ 64`. -/
theorem batchRollup_agrees (order : IterationOrder) (maxSubscribers : UInt32) (calls : List Call)
    (rollupPeriodNs : UInt64) (clock : ℕ → Int64 × Int64) :
    let meter := UBBMeter.after order maxSubscribers calls
    let rollups := meter.batchRollup order rollupPeriodNs clock
    (rollups.map UsageRollup.pair).Nodup ∧
    (∀ pair, pair ∈ rollups.map UsageRollup.pair ↔ sinceReset calls pair ≠ []) ∧
    (∀ rollup ∈ rollups, ∀ quantity period start stop priorCounter priorRollup,
      rollup.read quantity =
        (meter.getCounter rollup.subscriberId rollup.serviceId priorCounter).read quantity ∧
      rollup.read quantity =
        (meter.rollup rollup.subscriberId rollup.serviceId period start stop priorRollup).read
          quantity) ∧
    ∀ totalOrder, tally UsageRollup.bothBytes rollups % 2 ^ 64 =
      (meter.getTotalUsage totalOrder).toNat := by
  intro meter rollups
  have hrefines : Refines meter (sinceReset calls) := refines_after order maxSubscribers calls
  have hpairs : rollups.map UsageRollup.pair =
      (order.pairs meter.counters).map fun pair ↦ pair.2.pair :=
    map_batchRollup order meter rollupPeriodNs clock _ _ fun _ _ _ ↦ rfl
  refine ⟨?_, ?_, ?_, ?_⟩
  · rw [hpairs]
    exact hrefines.nodup_pairs order
  · intro pair
    rw [hpairs, hrefines.used_iff, List.mem_map]
    constructor
    · rintro ⟨⟨key, counter⟩, hmem, hpair⟩
      exact ⟨key, counter, (mem_pairs_iff order _ key counter).mp hmem, hpair⟩
    · rintro ⟨key, counter, hstored, hpair⟩
      exact ⟨⟨key, counter⟩, (mem_pairs_iff order _ key counter).mpr hstored, hpair⟩
  · intro rollup hrollup quantity period start stop priorCounter priorRollup
    exact hrefines.read_batch_entry hrollup quantity period start stop priorCounter priorRollup
  · intro totalOrder
    exact tally_batchRollup order totalOrder meter rollupPeriodNs clock

end VirtualServiceGateway.Metering
