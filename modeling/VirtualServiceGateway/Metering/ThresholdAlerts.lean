import VirtualServiceGateway.Metering.SubscriberCap

/-!
# Threshold alerts

A threshold check compares the sum of a pair's two byte counters with the threshold and counts a
breach. The sum is the wrapped total of the bytes recorded since the pair's last reset, so the check
is exact and, from then on, monotone as long as that total does not wrap. The breach count is that
of the checks since the last reset that returned true, and nothing else changes.
-/

namespace VirtualServiceGateway.Metering

open WrappingCounter

/-- The bytes of both directions in a pair's history. -/
def recordedBytes (usages : List Usage) : ℕ := tally (fun usage ↦ usage.bytes.toNat) usages

/-- A counter with one more breach. -/
def UsageCounter.breach (counter : UsageCounter) : UsageCounter :=
  { counter with thresholdBreaches := counter.thresholdBreaches + 1 }

/-- The breach count of a pair, zero without a counter. -/
def UBBMeter.breaches (meter : UBBMeter) (pair : Pair) : UInt32 :=
  ((meter.counters.lookup (CounterKey.pack pair.1 pair.2)).map
    UsageCounter.thresholdBreaches).getD 0

/-- A meter with, for every pair, the number of its checks since its last reset that returned
true. -/
structure WatchedMeter where
  meter : UBBMeter
  alerts : Pair → ℕ

def WatchedMeter.step (order : IterationOrder) (watched : WatchedMeter) (call : Call) :
    WatchedMeter where
  meter := watched.meter.step order call
  alerts :=
    match call with
    | .resetCounter subscriberId serviceId =>
        Function.update watched.alerts (subscriberId, serviceId) 0
    | .checkThreshold subscriberId serviceId thresholdBytes =>
        if (watched.meter.checkThreshold subscriberId serviceId thresholdBytes).1 then
          Function.update watched.alerts (subscriberId, serviceId)
            (watched.alerts (subscriberId, serviceId) + 1)
        else watched.alerts
    | _ => watched.alerts

def WatchedMeter.after (order : IterationOrder) (maxSubscribers : UInt32) (calls : List Call) :
    WatchedMeter :=
  Execution.run (WatchedMeter.step order) ⟨.create maxSubscribers, fun _ ↦ 0⟩ calls

/-- The checks of each pair since its last reset that returned true. -/
def alertsAfter (order : IterationOrder) (maxSubscribers : UInt32) (calls : List Call) :
    Pair → ℕ :=
  (WatchedMeter.after order maxSubscribers calls).alerts

/-! ## Bytes recorded on a pair -/

theorem recordedBytes_append (first second : List Usage) :
    recordedBytes (first ++ second) = recordedBytes first + recordedBytes second :=
  tally_append _ first second

/-- Every packet counts in one of the two directions. -/
theorem recordedBytes_eq (usages : List Usage) :
    recordedBytes usages =
      tally (Usage.amount .uplinkBytes) usages + tally (Usage.amount .downlinkBytes) usages := by
  unfold recordedBytes
  induction usages with
  | nil => rfl
  | cons usage usages ih =>
    rw [tally_cons, tally_cons, tally_cons, ih]
    cases hlink : usage.uplink <;> simp [Usage.amount, hlink] <;> omega

/-- Without a reset of the pair its history grows at the end only. -/
theorem sinceReset_append {pair : Pair} (calls : List Call) {later : List Call}
    (hlater : ∀ call ∈ later, call ≠ .resetCounter pair.1 pair.2) :
    sinceReset calls pair <+: sinceReset (calls ++ later) pair := by
  unfold sinceReset
  rw [Execution.run_append]
  generalize Execution.run Ledger.step (fun _ ↦ []) calls = ledger
  induction later generalizing ledger with
  | nil => exact List.prefix_rfl
  | cons call later ih =>
    have hnext : ledger pair <+: ledger.step call pair := by
      by_cases hcall : call.pair? = some pair
      · cases call with
        | updateCounter subscriberId serviceId bytes uplink created now =>
          obtain rfl := Option.some.inj hcall
          have hself :
              ledger.step (.updateCounter subscriberId serviceId bytes uplink created now)
                  (subscriberId, serviceId) =
                ledger (subscriberId, serviceId) ++ [⟨now, bytes, uplink⟩] :=
            Function.update_self ..
          rw [hself]
          exact List.prefix_append _ _
        | resetCounter subscriberId serviceId =>
          obtain rfl := Option.some.inj hcall
          exact absurd rfl (hlater _ List.mem_cons_self)
        | _ => cases hcall
      · rw [Ledger.step_of_pair?_ne ledger call pair hcall]
    exact hnext.trans (ih (fun call hcall ↦ hlater call (List.mem_cons_of_mem _ hcall)) _)

/-! ## One check -/

namespace UBBMeter

/-- A check returns true exactly when there is a counter and its bytes exceed the threshold. -/
theorem checkThreshold_fst (meter : UBBMeter) (subscriberId : UInt32) (serviceId : UInt16)
    (thresholdBytes : UInt64) :
    (meter.checkThreshold subscriberId serviceId thresholdBytes).1 =
      (meter.counters.lookup (CounterKey.pack subscriberId serviceId)).any fun counter ↦
        thresholdBytes < counter.uplinkBytes + counter.downlinkBytes := by
  unfold checkThreshold
  cases hlookup : meter.counters.lookup (CounterKey.pack subscriberId serviceId) with
  | none => simp only [hlookup, Option.any_none]
  | some counter =>
    simp only [hlookup, Option.any_some]
    split
    case isTrue hbreach => exact (decide_eq_true hbreach).symm
    case isFalse hbelow => exact (decide_eq_false hbelow).symm

/-- What a check leaves under each key: the counter as it was, with one more breach if it is the
pair's own and the check returned true. -/
theorem lookup_checkThreshold (meter : UBBMeter) (subscriberId : UInt32) (serviceId : UInt16)
    (thresholdBytes : UInt64) (key : CounterKey) :
    (meter.checkThreshold subscriberId serviceId thresholdBytes).2.counters.lookup key =
      (meter.counters.lookup key).map fun counter ↦
        if key = CounterKey.pack subscriberId serviceId ∧
            (meter.checkThreshold subscriberId serviceId thresholdBytes).1 then counter.breach
        else counter := by
  unfold checkThreshold
  cases hlookup : meter.counters.lookup (CounterKey.pack subscriberId serviceId) with
  | none => simp only [hlookup, Bool.false_eq_true, and_false, if_false, Option.map_id']
  | some counter =>
    simp only [hlookup]
    by_cases hbreach : thresholdBytes < counter.uplinkBytes + counter.downlinkBytes
    · simp only [if_pos hbreach, and_true]
      by_cases hkey : key = CounterKey.pack subscriberId serviceId
      · subst hkey
        rw [AList.lookup_insert, hlookup, Option.map_some, if_pos rfl]
        rfl
      · simp only [AList.lookup_insert_ne hkey, hkey, if_false, Option.map_id']
    · simp only [if_neg hbreach, Bool.false_eq_true, and_false, if_false, Option.map_id']

end UBBMeter

/-- On a refined meter a check compares the threshold with the wrapped bytes of the pair. -/
theorem Refines.checkThreshold_iff {meter : UBBMeter} {ledger : Ledger}
    (hrefines : Refines meter ledger) (subscriberId : UInt32) (serviceId : UInt16)
    (thresholdBytes : UInt64) :
    (meter.checkThreshold subscriberId serviceId thresholdBytes).1 ↔
      thresholdBytes.toNat < recordedBytes (ledger (subscriberId, serviceId)) % 2 ^ 64 := by
  have htracks := hrefines.tracks (subscriberId, serviceId)
  rw [UBBMeter.checkThreshold_fst, recordedBytes_eq]
  generalize ledger (subscriberId, serviceId) = usages at htracks ⊢
  generalize meter.counters.lookup _ = entry at htracks ⊢
  cases htracks with
  | unused => simp
  | @counted usages counter _ _ _ htotals =>
    have hup : counter.uplinkBytes = _ := htotals .uplinkBytes
    have hdown : counter.downlinkBytes = _ := htotals .downlinkBytes
    rw [Option.any_some, decide_eq_true_iff, hup, hdown, ← map_add, UInt64.lt_iff_toNat_lt,
      toNat_wrap64]

/-! ## Counting breaches -/

theorem thresholdBreaches_getCounter (meter : UBBMeter) (pair : Pair) (prior : UsageCounter) :
    (meter.getCounter pair.1 pair.2 prior).thresholdBreaches = meter.breaches pair := by
  unfold UBBMeter.getCounter UBBMeter.breaches
  cases meter.counters.lookup (CounterKey.pack pair.1 pair.2) <;> rfl

@[simp]
theorem account_thresholdBreaches (counter : UsageCounter) (bytes : UInt32) (uplink : Bool)
    (now : Int64) :
    (counter.account bytes uplink now).thresholdBreaches = counter.thresholdBreaches := by
  cases uplink <;> rfl

/-- An update leaves every breach count as it was. -/
theorem breaches_updateCounter (meter : UBBMeter) (pair : Pair) (bytes : UInt32) (uplink : Bool)
    (created now : Int64) (other : Pair) :
    (meter.updateCounter pair.1 pair.2 bytes uplink created now).breaches other =
      meter.breaches other := by
  unfold UBBMeter.updateCounter UBBMeter.breaches
  by_cases hother : other = pair
  · subst hother
    simp only [AList.lookup_insert, Option.map_some, Option.getD_some, account_thresholdBreaches]
    cases meter.counters.lookup (CounterKey.pack other.1 other.2) <;> rfl
  · simp only [AList.lookup_insert_ne (pack_eq_pack_iff.not.mpr hother)]

theorem breaches_resetCounter (meter : UBBMeter) (pair other : Pair) :
    (meter.resetCounter pair.1 pair.2).breaches other =
      if other = pair then 0 else meter.breaches other := by
  unfold UBBMeter.resetCounter UBBMeter.breaches
  by_cases hother : other = pair
  · subst hother
    rw [AList.lookup_erase, if_pos rfl]
    rfl
  · rw [AList.lookup_erase_ne (pack_eq_pack_iff.not.mpr hother), if_neg hother]

/-- A check that returns true adds one to the breach count of its pair. -/
theorem breaches_checkThreshold (meter : UBBMeter) (pair other : Pair) (thresholdBytes : UInt64) :
    (meter.checkThreshold pair.1 pair.2 thresholdBytes).2.breaches other =
      if other = pair ∧ (meter.checkThreshold pair.1 pair.2 thresholdBytes).1 then
        meter.breaches other + 1
      else meter.breaches other := by
  have hresult := meter.checkThreshold_fst pair.1 pair.2 thresholdBytes
  unfold UBBMeter.breaches
  rw [UBBMeter.lookup_checkThreshold]
  simp only [pack_eq_pack_iff]
  split
  case isTrue hcounted =>
    obtain ⟨rfl, hbreach⟩ := hcounted
    rw [hresult, Option.any_eq_true] at hbreach
    obtain ⟨counter, hstored, -⟩ := hbreach
    rw [hstored]
    rfl
  case isFalse => rw [Option.map_id']

/-- **Step.** The breach counts stay the wrapped numbers of alerts. -/
theorem breaches_step (order : IterationOrder) (watched : WatchedMeter) (call : Call)
    (hcounts : ∀ pair, watched.meter.breaches pair = wrap32 (watched.alerts pair)) (pair : Pair) :
    (watched.step order call).meter.breaches pair =
      wrap32 ((watched.step order call).alerts pair) := by
  cases call with
  | updateCounter subscriberId serviceId bytes uplink created now =>
    exact (breaches_updateCounter watched.meter (subscriberId, serviceId) bytes uplink created now
      pair).trans (hcounts pair)
  | resetCounter subscriberId serviceId =>
    refine (breaches_resetCounter watched.meter (subscriberId, serviceId) pair).trans ?_
    simp only [WatchedMeter.step, Function.update_apply]
    split
    · rfl
    · exact hcounts pair
  | checkThreshold subscriberId serviceId thresholdBytes =>
    refine (breaches_checkThreshold watched.meter (subscriberId, serviceId) pair
      thresholdBytes).trans ?_
    simp only [WatchedMeter.step]
    by_cases hbreach : (watched.meter.checkThreshold subscriberId serviceId thresholdBytes).1
    · simp only [hbreach, and_true, if_true, Function.update_apply]
      split
      case isTrue hpair =>
        subst hpair
        rw [hcounts, map_add, wrap32_one]
      case isFalse => exact hcounts pair
    · simp only [hbreach, and_false, if_false, Bool.false_eq_true]
      exact hcounts pair
  | _ => exact hcounts pair

theorem meter_watched (order : IterationOrder) (maxSubscribers : UInt32) (calls : List Call) :
    (WatchedMeter.after order maxSubscribers calls).meter =
      UBBMeter.after order maxSubscribers calls :=
  Execution.run_observed WatchedMeter.meter (fun _ _ ↦ rfl) _ calls

/-- **Run.** After any calls the breach counts are the wrapped numbers of alerts. -/
theorem breaches_after (order : IterationOrder) (maxSubscribers : UInt32) (calls : List Call)
    (pair : Pair) :
    (UBBMeter.after order maxSubscribers calls).breaches pair =
      wrap32 (alertsAfter order maxSubscribers calls pair) := by
  rw [← meter_watched]
  refine Execution.run_invariant
    (fun watched : WatchedMeter ↦
      ∀ pair, watched.meter.breaches pair = wrap32 (watched.alerts pair))
    ?_ (breaches_step order) calls pair
  intro pair
  unfold UBBMeter.breaches UBBMeter.create
  rw [AList.lookup_empty]
  rfl

/-- **Threshold alerts.** After any run, a check of a pair with fewer than `2 ^ 64` recorded bytes
returns true exactly when they exceed the threshold. Once true it stays true, also for smaller
thresholds, until the pair is reset. The breach count is the number of the pair's alerts since its
last reset modulo `2 ^ 32`, and a check changes nothing but that count. -/
theorem checkThreshold_after (order : IterationOrder) (maxSubscribers : UInt32)
    (calls : List Call) (subscriberId : UInt32) (serviceId : UInt16) (thresholdBytes : UInt64)
    (prior : UsageCounter) :
    let meter := UBBMeter.after order maxSubscribers calls
    let pair := (subscriberId, serviceId)
    let checked := meter.checkThreshold subscriberId serviceId thresholdBytes
    (recordedBytes (sinceReset calls pair) < 2 ^ 64 →
      (checked.1 ↔ thresholdBytes.toNat < recordedBytes (sinceReset calls pair))) ∧
    (∀ later : List Call, (∀ call ∈ later, call ≠ .resetCounter subscriberId serviceId) →
      recordedBytes (sinceReset (calls ++ later) pair) < 2 ^ 64 →
      ∀ smaller, smaller ≤ thresholdBytes → checked.1 →
        ((UBBMeter.after order maxSubscribers (calls ++ later)).checkThreshold subscriberId
          serviceId smaller).1) ∧
    (meter.getCounter subscriberId serviceId prior).thresholdBreaches.toNat =
      alertsAfter order maxSubscribers calls pair % 2 ^ 32 ∧
    checked.2.maxSubscribers = meter.maxSubscribers ∧
    ∀ key, checked.2.counters.lookup key = (meter.counters.lookup key).map fun counter ↦
      if key = CounterKey.pack subscriberId serviceId ∧ checked.1 then counter.breach
      else counter := by
  intro meter pair checked
  have hchecked : checked.1 ↔
      thresholdBytes.toNat < recordedBytes (sinceReset calls pair) % 2 ^ 64 :=
    (refines_after order maxSubscribers calls).checkThreshold_iff _ _ _
  refine ⟨fun hfits ↦ ?_, fun later hlater hfits smaller hsmaller hbreach ↦ ?_, ?_,
    meter.maxSubscribers_step order (.checkThreshold subscriberId serviceId thresholdBytes),
    meter.lookup_checkThreshold _ _ _⟩
  · rwa [Nat.mod_eq_of_lt hfits] at hchecked
  · obtain ⟨added, hadded⟩ : sinceReset calls pair <+: sinceReset (calls ++ later) pair :=
      sinceReset_append calls hlater
    have hgrows := recordedBytes_append (sinceReset calls pair) added
    rw [hadded] at hgrows
    rw [hchecked, Nat.mod_eq_of_lt (by omega)] at hbreach
    rw [(refines_after order maxSubscribers (calls ++ later)).checkThreshold_iff,
      Nat.mod_eq_of_lt hfits]
    have hle := UInt64.le_iff_toNat_le.mp hsmaller
    omega
  · rw [thresholdBreaches_getCounter meter pair, breaches_after, toNat_wrap32]

/-- 500 megabytes exceed a threshold of 100 megabytes, and they still do after another packet. -/
theorem alert_stays :
    ((UBBMeter.after storedOrder 1000 ([.updateCounter 1 100 500000000 true 5 5] ++
      [.updateCounter 1 100 1 false 6 6])).checkThreshold 1 100 100000000).1 :=
  (checkThreshold_after storedOrder 1000 [.updateCounter 1 100 500000000 true 5 5] 1 100 100000000
    (UBBMeter.freshCounter 0 0 0)).2.1 [.updateCounter 1 100 1 false 6 6] (by simp)
      (by decide +kernel) 100000000 (by decide)
      (((checkThreshold_after storedOrder 1000 [.updateCounter 1 100 500000000 true 5 5] 1 100
        100000000 (UBBMeter.freshCounter 0 0 0)).1 (by decide +kernel)).mpr (by decide +kernel))

end VirtualServiceGateway.Metering
