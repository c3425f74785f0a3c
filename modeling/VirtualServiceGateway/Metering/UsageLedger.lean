import Mathlib.Data.Fintype.Defs
import Mathlib.Data.Finset.Insert
import VirtualServiceGateway.Foundation.WrappingCounter
import VirtualServiceGateway.Metering.UsageMeter

/-!
# The ledger a meter stands for

The abstract meter is a ledger: for every subscriber and service pair, the packets accounted on
it since its last reset, in order. A counter refines the ledger's entry when it holds the wrapped
totals of that entry. Every call keeps the refinement, so after any run the four counters of any
pair are the totals of its own packets.
-/

namespace VirtualServiceGateway.Metering

open WrappingCounter

/-- A subscriber and service pair. -/
abbrev Pair := UInt32 × UInt16

theorem pack_eq_pack_iff {pair other : Pair} :
    CounterKey.pack pair.1 pair.2 = CounterKey.pack other.1 other.2 ↔ pair = other := by
  rw [CounterKey.pack_inj, Prod.ext_iff]

/-- The pair a counter belongs to. -/
def UsageCounter.pair (counter : UsageCounter) : Pair := (counter.subscriberId, counter.serviceId)

/-- One accounted packet: the clock reading of its update, its size and its direction. -/
structure Usage where
  time : Int64
  bytes : UInt32
  uplink : Bool
  deriving DecidableEq, Repr

/-- The four quantities that a counter accumulates. -/
inductive Quantity where
  | uplinkBytes
  | downlinkBytes
  | uplinkPackets
  | downlinkPackets
  deriving DecidableEq, Repr

instance : Fintype Quantity where
  elems := {.uplinkBytes, .downlinkBytes, .uplinkPackets, .downlinkPackets}
  complete := fun quantity ↦ by cases quantity <;> decide

/-- What one packet adds to a quantity. -/
def Usage.amount : Quantity → Usage → ℕ
  | .uplinkBytes, usage => if usage.uplink then usage.bytes.toNat else 0
  | .downlinkBytes, usage => if usage.uplink then 0 else usage.bytes.toNat
  | .uplinkPackets, usage => if usage.uplink then 1 else 0
  | .downlinkPackets, usage => if usage.uplink then 0 else 1

/-- The counter that accumulates a quantity. -/
def UsageCounter.read : Quantity → UsageCounter → UInt64
  | .uplinkBytes => UsageCounter.uplinkBytes
  | .downlinkBytes => UsageCounter.downlinkBytes
  | .uplinkPackets => UsageCounter.uplinkPackets
  | .downlinkPackets => UsageCounter.downlinkPackets

/-- The field of a rollup that reports a quantity. -/
def UsageRollup.read : Quantity → UsageRollup → UInt64
  | .uplinkBytes => UsageRollup.uplinkBytes
  | .downlinkBytes => UsageRollup.downlinkBytes
  | .uplinkPackets => UsageRollup.uplinkPackets
  | .downlinkPackets => UsageRollup.downlinkPackets

/-- Packets accounted since the last reset, for each pair. -/
abbrev Ledger := Pair → List Usage

/-- What a call means for the ledger: only updates and resets change it, and only at one pair. -/
def Ledger.step (ledger : Ledger) : Call → Ledger
  | .updateCounter subscriberId serviceId bytes uplink _ now =>
      Function.update ledger (subscriberId, serviceId)
        (ledger (subscriberId, serviceId) ++ [⟨now, bytes, uplink⟩])
  | .resetCounter subscriberId serviceId => Function.update ledger (subscriberId, serviceId) []
  | _ => ledger

/-- The packets that the calls account on each pair since its last reset. -/
def sinceReset (calls : List Call) : Ledger := Execution.run Ledger.step (fun _ ↦ []) calls

/-! ## Refinement -/

/-- An entry of the counter map stands for the packets accounted on the pair. -/
inductive Tracks (pair : Pair) : List Usage → Option UsageCounter → Prop where
  | unused : Tracks pair [] none
  | counted {usages : List Usage} {counter : UsageCounter} (hused : usages ≠ [])
      (hsubscriber : counter.subscriberId = pair.1) (hservice : counter.serviceId = pair.2)
      (htotals : ∀ quantity,
        counter.read quantity = wrap64 (tally (Usage.amount quantity) usages)) :
      Tracks pair usages (some counter)

/-- The meter refines the ledger: every pair's entry tracks its packets, and every stored counter
sits under the key of its own pair. -/
structure Refines (meter : UBBMeter) (ledger : Ledger) : Prop where
  tracks : ∀ pair : Pair,
    Tracks pair (ledger pair) (meter.counters.lookup (CounterKey.pack pair.1 pair.2))
  keyed : ∀ key counter, meter.counters.lookup key = some counter →
    key = CounterKey.pack counter.subscriberId counter.serviceId

@[simp]
theorem read_freshCounter (quantity : Quantity) (subscriberId : UInt32) (serviceId : UInt16)
    (created : Int64) :
    (UBBMeter.freshCounter subscriberId serviceId created).read quantity = 0 := by
  cases quantity <;> rfl

@[simp]
theorem account_subscriberId (counter : UsageCounter) (bytes : UInt32) (uplink : Bool)
    (now : Int64) : (counter.account bytes uplink now).subscriberId = counter.subscriberId := by
  cases uplink <;> rfl

@[simp]
theorem account_serviceId (counter : UsageCounter) (bytes : UInt32) (uplink : Bool)
    (now : Int64) : (counter.account bytes uplink now).serviceId = counter.serviceId := by
  cases uplink <;> rfl

/-- One packet adds its own amount to every quantity. -/
theorem read_account (quantity : Quantity) (counter : UsageCounter) (bytes : UInt32)
    (uplink : Bool) (now : Int64) :
    (counter.account bytes uplink now).read quantity =
      counter.read quantity + wrap64 (Usage.amount quantity ⟨now, bytes, uplink⟩) := by
  cases quantity <;> cases uplink <;>
    simp [UsageCounter.account, UsageCounter.read, Usage.amount, wrap64_toUInt64]

/-- Accounting a packet on a tracked entry, found or created, tracks the longer history. -/
theorem Tracks.account {pair : Pair} {usages : List Usage} {entry : Option UsageCounter}
    (htracks : Tracks pair usages entry) (bytes : UInt32) (uplink : Bool) (created now : Int64) :
    Tracks pair (usages ++ [⟨now, bytes, uplink⟩])
      (some ((entry.getD (UBBMeter.freshCounter pair.1 pair.2 created)).account bytes uplink
        now)) := by
  have hused : usages ++ [⟨now, bytes, uplink⟩] ≠ [] := by simp
  cases htracks with
  | unused =>
    apply Tracks.counted hused
    · simp [UBBMeter.freshCounter]
    · simp [UBBMeter.freshCounter]
    · intro quantity
      simp [read_account]
  | counted _ hsubscriber hservice htotals =>
    apply Tracks.counted hused
    · simpa using hsubscriber
    · simpa using hservice
    · intro quantity
      simp [read_account, htotals]

/-- A change of fields other than the identity and the four counters is invisible. -/
theorem Tracks.congr {pair : Pair} {usages : List Usage} {counter counter' : UsageCounter}
    (htracks : Tracks pair usages (some counter))
    (hsubscriber : counter'.subscriberId = counter.subscriberId)
    (hservice : counter'.serviceId = counter.serviceId)
    (hread : ∀ quantity, counter'.read quantity = counter.read quantity) :
    Tracks pair usages (some counter') := by
  cases htracks with
  | counted hused hsubscriber' hservice' htotals =>
    apply Tracks.counted hused (hsubscriber.trans hsubscriber') (hservice.trans hservice')
    intro quantity
    rw [hread, htotals]

/-- A map that differs at one pair's key only keeps the refinement when its entry there tracks the
pair's new history. -/
theorem Refines.update {meter : UBBMeter} {ledger : Ledger} (hrefines : Refines meter ledger)
    {pair : Pair} {usages : List Usage} {counters : CounterMap}
    (hothers : ∀ key ≠ CounterKey.pack pair.1 pair.2,
      counters.lookup key = meter.counters.lookup key)
    (htracks : Tracks pair usages (counters.lookup (CounterKey.pack pair.1 pair.2))) :
    Refines { meter with counters := counters } (Function.update ledger pair usages) where
  tracks other := by
    by_cases hother : other = pair
    · subst hother
      rwa [Function.update_self]
    · have hkey : CounterKey.pack other.1 other.2 ≠ CounterKey.pack pair.1 pair.2 :=
        pack_eq_pack_iff.not.mpr hother
      rw [Function.update_of_ne hother, hothers _ hkey]
      exact hrefines.tracks other
  keyed key stored hstored := by
    by_cases hkey : key = CounterKey.pack pair.1 pair.2
    · subst hkey
      rw [hstored] at htracks
      cases htracks with
      | counted _ hsubscriber hservice _ => rw [hsubscriber, hservice]
    · rw [hothers key hkey] at hstored
      exact hrefines.keyed key stored hstored

/-- An entry stored under its pair's key keeps the refinement when it tracks the pair's new
history. -/
theorem Refines.insert {meter : UBBMeter} {ledger : Ledger} (hrefines : Refines meter ledger)
    (pair : Pair) (usages : List Usage) (counter : UsageCounter)
    (htracks : Tracks pair usages (some counter)) :
    Refines { meter with
      counters := meter.counters.insert (CounterKey.pack pair.1 pair.2) counter }
      (Function.update ledger pair usages) := by
  apply hrefines.update
  · intro key hkey
    exact AList.lookup_insert_ne hkey
  · rwa [AList.lookup_insert]

/-- Erasing a pair's entry forgets its history and no other. -/
theorem Refines.erase {meter : UBBMeter} {ledger : Ledger} (hrefines : Refines meter ledger)
    (pair : Pair) :
    Refines { meter with counters := meter.counters.erase (CounterKey.pack pair.1 pair.2) }
      (Function.update ledger pair []) := by
  apply hrefines.update
  · intro key hkey
    exact AList.lookup_erase_ne hkey
  · rw [AList.lookup_erase]
    exact Tracks.unused

theorem refines_create (maxSubscribers : UInt32) :
    Refines (UBBMeter.create maxSubscribers) fun _ ↦ [] where
  tracks pair := by
    rw [UBBMeter.create, AList.lookup_empty]
    exact Tracks.unused
  keyed key counter h := by
    rw [UBBMeter.create, AList.lookup_empty] at h
    cases h

/-- A threshold check writes at most the breach count of one stored counter. -/
theorem refines_checkThreshold {meter : UBBMeter} {ledger : Ledger}
    (hrefines : Refines meter ledger) (subscriberId : UInt32) (serviceId : UInt16)
    (thresholdBytes : UInt64) :
    Refines (meter.checkThreshold subscriberId serviceId thresholdBytes).2 ledger := by
  have htracks := hrefines.tracks (subscriberId, serviceId)
  unfold UBBMeter.checkThreshold
  cases hlookup : meter.counters.lookup (CounterKey.pack subscriberId serviceId) with
  | none => simpa only [hlookup] using hrefines
  | some counter =>
    rw [hlookup] at htracks
    by_cases hbreach : thresholdBytes < counter.uplinkBytes + counter.downlinkBytes
    · have hbumped := hrefines.insert (subscriberId, serviceId) (ledger (subscriberId, serviceId))
        { counter with thresholdBreaches := counter.thresholdBreaches + 1 }
        (htracks.congr rfl rfl fun quantity ↦ by cases quantity <;> rfl)
      rw [Function.update_eq_self] at hbumped
      simpa only [hlookup, if_pos hbreach] using hbumped
    · simpa only [hlookup, if_neg hbreach] using hrefines

/-- **Step.** Every call keeps the refinement. -/
theorem refines_step (order : IterationOrder) (meter : UBBMeter) (ledger : Ledger) (call : Call)
    (hrefines : Refines meter ledger) : Refines (meter.step order call) (ledger.step call) := by
  cases call with
  | updateCounter subscriberId serviceId bytes uplink created now =>
    exact hrefines.insert (subscriberId, serviceId) _ _
      ((hrefines.tracks (subscriberId, serviceId)).account bytes uplink created now)
  | resetCounter subscriberId serviceId => exact hrefines.erase (subscriberId, serviceId)
  | checkThreshold subscriberId serviceId thresholdBytes =>
    exact refines_checkThreshold hrefines subscriberId serviceId thresholdBytes
  | getCounter subscriberId serviceId prior => exact hrefines
  | rollup subscriberId serviceId rollupPeriodNs start stop prior => exact hrefines
  | batchRollup rollupPeriodNs clock => exact hrefines
  | getTotalUsage => exact hrefines

/-- **Run.** The meter after any calls refines the ledger of those calls. -/
theorem refines_after (order : IterationOrder) (maxSubscribers : UInt32) (calls : List Call) :
    Refines (UBBMeter.after order maxSubscribers calls) (sinceReset calls) :=
  Execution.run_related Refines (refines_create maxSubscribers)
    (fun meter ledger call h ↦ refines_step order meter ledger call h) calls

/-! ## Reading a counter -/

/-- A snapshot of a refined meter reports the wrapped totals of the pair's packets. -/
theorem read_getCounter {meter : UBBMeter} {ledger : Ledger} (hrefines : Refines meter ledger)
    (subscriberId : UInt32) (serviceId : UInt16) (prior : UsageCounter) (quantity : Quantity) :
    (meter.getCounter subscriberId serviceId prior).read quantity =
      wrap64 (tally (Usage.amount quantity) (ledger (subscriberId, serviceId))) := by
  have htracks := hrefines.tracks (subscriberId, serviceId)
  unfold UBBMeter.getCounter
  generalize ledger (subscriberId, serviceId) = usages at htracks ⊢
  cases hlookup : meter.counters.lookup (CounterKey.pack subscriberId serviceId) with
  | none =>
    rw [hlookup] at htracks
    cases htracks
    cases quantity <;> rfl
  | some counter =>
    rw [hlookup] at htracks
    cases htracks with
    | counted _ _ _ htotals => exact htotals quantity

/-- The pair that an update or a reset is made for. -/
def Call.pair? : Call → Option Pair
  | .updateCounter subscriberId serviceId _ _ _ _ => some (subscriberId, serviceId)
  | .resetCounter subscriberId serviceId => some (subscriberId, serviceId)
  | _ => none

/-- Only an update or a reset of the pair itself changes its history. -/
theorem Ledger.step_of_pair?_ne (ledger : Ledger) (call : Call) (pair : Pair)
    (hcall : call.pair? ≠ some pair) : ledger.step call pair = ledger pair := by
  have hne {other : Pair} (hother : some other ≠ some pair) : pair ≠ other :=
    fun h ↦ hother (congrArg some h.symm)
  cases call <;> first | rfl | exact Function.update_of_ne (hne hcall) _ _

/-- **Exact metering.** After any run the four counters of any pair are the totals, modulo
`2 ^ 64`, of the packets accounted on that pair since its last reset, and no further call made
for another pair changes them. -/
theorem getCounter_after (order : IterationOrder) (maxSubscribers : UInt32) (calls : List Call)
    (subscriberId : UInt32) (serviceId : UInt16) (prior : UsageCounter) (quantity : Quantity) :
    (((UBBMeter.after order maxSubscribers calls).getCounter subscriberId serviceId prior).read
        quantity).toNat =
      tally (Usage.amount quantity) (sinceReset calls (subscriberId, serviceId)) % 2 ^ 64 ∧
    ∀ call : Call, call.pair? ≠ some (subscriberId, serviceId) →
      ((UBBMeter.after order maxSubscribers (calls ++ [call])).getCounter subscriberId serviceId
          prior).read quantity =
        ((UBBMeter.after order maxSubscribers calls).getCounter subscriberId serviceId prior).read
          quantity := by
  have hread := read_getCounter (refines_after order maxSubscribers calls) subscriberId serviceId
    prior quantity
  refine ⟨by rw [hread, toNat_wrap64], fun call hcall ↦ ?_⟩
  have hreadNext := read_getCounter (refines_after order maxSubscribers (calls ++ [call]))
    subscriberId serviceId prior quantity
  have hsame : sinceReset (calls ++ [call]) (subscriberId, serviceId) =
      sinceReset calls (subscriberId, serviceId) := by
    unfold sinceReset
    rw [Execution.run_concat, Ledger.step_of_pair?_ne _ _ _ hcall]
  rw [hreadNext, hread, hsame]

end VirtualServiceGateway.Metering
