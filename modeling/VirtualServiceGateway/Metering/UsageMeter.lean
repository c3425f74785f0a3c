import Mathlib.Data.List.AList
import Mathlib.Data.UInt
import VirtualServiceGateway.Foundation.Execution

/-!
# The usage-based billing meter

`UBBMeter` keeps one counter for each subscriber and service pair in an unordered map whose key
packs the pair into 64 bits. A call that reads the clock takes the readings as arguments, in the
order the code takes them: `created` is read only when the counter is new. A function that
returns a local without initialising all of it takes the prior contents of that memory.

The map is an association list with distinct keys. Its order carries no meaning: whatever
iterates over the map goes through an `IterationOrder`.
-/

namespace VirtualServiceGateway.Metering

/-- Packed `(subscriber_id << 16) | service_id`. -/
structure CounterKey where
  key : UInt64
  deriving DecidableEq, Repr

/-- The constructor of the key. -/
def CounterKey.pack (subscriberId : UInt32) (serviceId : UInt16) : CounterKey :=
  ⟨(subscriberId.toUInt64 <<< 16) ||| serviceId.toUInt64⟩

theorem CounterKey.toNat_pack (subscriberId : UInt32) (serviceId : UInt16) :
    (CounterKey.pack subscriberId serviceId).key.toNat =
      subscriberId.toNat * 2 ^ 16 + serviceId.toNat := by
  have hsubscriber := subscriberId.toNat_lt
  have hservice := serviceId.toNat_lt
  have hshift : subscriberId.toNat <<< 16 = subscriberId.toNat * 2 ^ 16 := Nat.shiftLeft_eq _ _
  have hfits : subscriberId.toNat <<< 16 < 2 ^ 64 := by omega
  simp only [pack, UInt64.toNat_or, UInt64.toNat_shiftLeft, UInt32.toNat_toUInt64,
    UInt16.toNat_toUInt64]
  change (subscriberId.toNat <<< 16) % 2 ^ 64 ||| serviceId.toNat = _
  rw [Nat.mod_eq_of_lt hfits, ← Nat.shiftLeft_add_eq_or_of_lt hservice, hshift]

/-- No two pairs share a key. -/
@[simp]
theorem CounterKey.pack_inj {subscriberId subscriberId' : UInt32} {serviceId serviceId' : UInt16} :
    CounterKey.pack subscriberId serviceId = CounterKey.pack subscriberId' serviceId' ↔
      subscriberId = subscriberId' ∧ serviceId = serviceId' := by
  constructor
  · intro h
    have hkey := congrArg (fun packed ↦ packed.key.toNat) h
    simp only [toNat_pack] at hkey
    have hservice := serviceId.toNat_lt
    have hservice' := serviceId'.toNat_lt
    constructor
    · exact UInt32.toNat.inj (by omega)
    · exact UInt16.toNat.inj (by omega)
  · rintro ⟨rfl, rfl⟩
    rfl

/-- Per-subscriber, per-service byte and packet counters. -/
structure UsageCounter where
  subscriberId : UInt32
  serviceId : UInt16
  uplinkBytes : UInt64 := 0
  downlinkBytes : UInt64 := 0
  uplinkPackets : UInt64 := 0
  downlinkPackets : UInt64 := 0
  createdTimeNs : Int64
  lastUpdateNs : Int64
  active : Bool := true
  thresholdBreaches : UInt32 := 0
  deriving DecidableEq, Repr

/-- Rollup aggregation unit. -/
structure UsageRollup where
  subscriberId : UInt32
  serviceId : UInt16
  periodStartNs : UInt64
  periodEndNs : UInt64
  uplinkBytes : UInt64
  downlinkBytes : UInt64
  uplinkPackets : UInt64
  downlinkPackets : UInt64
  sampleCount : UInt32
  deriving DecidableEq, Repr

/-- The map from packed keys to counters. -/
abbrev CounterMap := AList fun _ : CounterKey ↦ UsageCounter

/-- The meter: the counter map and the configured subscriber cap. -/
structure UBBMeter where
  counters : CounterMap
  maxSubscribers : UInt32

/-- One order in which a range-for may visit the entries of an unordered map. -/
structure IterationOrder where
  pairs : CounterMap → List (Σ _ : CounterKey, UsageCounter)
  perm : ∀ counters, (pairs counters).Perm counters.entries

namespace UBBMeter

/-- The constructor: no counters. -/
def create (maxSubscribers : UInt32) : UBBMeter := ⟨∅, maxSubscribers⟩

/-- A counter as `make_shared` builds it, with the identity and creation time filled in. -/
def freshCounter (subscriberId : UInt32) (serviceId : UInt16) (created : Int64) : UsageCounter where
  subscriberId := subscriberId
  serviceId := serviceId
  createdTimeNs := created
  lastUpdateNs := 0

end UBBMeter

/-- Account one packet on a counter. -/
def UsageCounter.account (counter : UsageCounter) (bytes : UInt32) (uplink : Bool) (now : Int64) :
    UsageCounter :=
  if uplink then
    { counter with
      lastUpdateNs := now
      uplinkBytes := counter.uplinkBytes + bytes.toUInt64
      uplinkPackets := counter.uplinkPackets + 1 }
  else
    { counter with
      lastUpdateNs := now
      downlinkBytes := counter.downlinkBytes + bytes.toUInt64
      downlinkPackets := counter.downlinkPackets + 1 }

namespace UBBMeter

/-- Find or create the counter of the pair, then account the packet on it. -/
def updateCounter (meter : UBBMeter) (subscriberId : UInt32) (serviceId : UInt16)
    (bytes : UInt32) (uplink : Bool) (created now : Int64) : UBBMeter :=
  let key := CounterKey.pack subscriberId serviceId
  let counter := (meter.counters.lookup key).getD (freshCounter subscriberId serviceId created)
  { meter with counters := meter.counters.insert key (counter.account bytes uplink now) }

/-- Counter snapshot. On a miss the two time stamps of the returned object stay unset. -/
def getCounter (meter : UBBMeter) (subscriberId : UInt32) (serviceId : UInt16)
    (prior : UsageCounter) : UsageCounter :=
  match meter.counters.lookup (CounterKey.pack subscriberId serviceId) with
  | none =>
      { subscriberId := subscriberId
        serviceId := serviceId
        createdTimeNs := prior.createdTimeNs
        lastUpdateNs := prior.lastUpdateNs }
  | some counter => counter

/-- Rollup of one pair; `start` and `stop` are the two clock readings. On a miss the counters
and the sample count of the returned object stay unset. -/
def rollup (meter : UBBMeter) (subscriberId : UInt32) (serviceId : UInt16)
    (rollupPeriodNs : UInt64) (start stop : Int64) (prior : UsageRollup) : UsageRollup :=
  let rollup := { prior with
    subscriberId := subscriberId
    serviceId := serviceId
    periodStartNs := start.toUInt64 - rollupPeriodNs
    periodEndNs := stop.toUInt64 }
  match meter.counters.lookup (CounterKey.pack subscriberId serviceId) with
  | none => rollup
  | some counter =>
      { rollup with
        uplinkBytes := counter.uplinkBytes
        downlinkBytes := counter.downlinkBytes
        uplinkPackets := counter.uplinkPackets
        downlinkPackets := counter.downlinkPackets
        sampleCount := 1 }

/-- One entry of a batch rollup, with the identity taken from the counter itself. -/
def rollupEntry (counter : UsageCounter) (rollupPeriodNs : UInt64) (start stop : Int64) :
    UsageRollup where
  subscriberId := counter.subscriberId
  serviceId := counter.serviceId
  periodStartNs := start.toUInt64 - rollupPeriodNs
  periodEndNs := stop.toUInt64
  uplinkBytes := counter.uplinkBytes
  downlinkBytes := counter.downlinkBytes
  uplinkPackets := counter.uplinkPackets
  downlinkPackets := counter.downlinkPackets
  sampleCount := 1

/-- Rollup of every counter; `clock i` holds the two clock readings for the `i`-th entry. -/
def batchRollup (order : IterationOrder) (meter : UBBMeter) (rollupPeriodNs : UInt64)
    (clock : ℕ → Int64 × Int64) : List UsageRollup :=
  (order.pairs meter.counters).mapIdx fun index pair ↦
    rollupEntry pair.2 rollupPeriodNs (clock index).1 (clock index).2

/-- Forget the counter of the pair. -/
def resetCounter (meter : UBBMeter) (subscriberId : UInt32) (serviceId : UInt16) : UBBMeter :=
  { meter with counters := meter.counters.erase (CounterKey.pack subscriberId serviceId) }

/-- Compare the pair's total with a threshold and count a breach. -/
def checkThreshold (meter : UBBMeter) (subscriberId : UInt32) (serviceId : UInt16)
    (thresholdBytes : UInt64) : Bool × UBBMeter :=
  let key := CounterKey.pack subscriberId serviceId
  match meter.counters.lookup key with
  | none => (false, meter)
  | some counter =>
      let total := counter.uplinkBytes + counter.downlinkBytes
      if thresholdBytes < total then
        let counter := { counter with thresholdBreaches := counter.thresholdBreaches + 1 }
        (true, { meter with counters := meter.counters.insert key counter })
      else (false, meter)

/-- Total bytes over all counters. -/
def getTotalUsage (order : IterationOrder) (meter : UBBMeter) : UInt64 :=
  (order.pairs meter.counters).foldl
    (fun total pair ↦ total + pair.2.uplinkBytes + pair.2.downlinkBytes) 0

end UBBMeter

/-! ## Calls and runs -/

/-- A call on the meter, with the clock readings it takes. -/
inductive Call where
  | updateCounter (subscriberId : UInt32) (serviceId : UInt16) (bytes : UInt32) (uplink : Bool)
      (created now : Int64)
  | getCounter (subscriberId : UInt32) (serviceId : UInt16) (prior : UsageCounter)
  | rollup (subscriberId : UInt32) (serviceId : UInt16) (rollupPeriodNs : UInt64)
      (start stop : Int64) (prior : UsageRollup)
  | batchRollup (rollupPeriodNs : UInt64) (clock : ℕ → Int64 × Int64)
  | resetCounter (subscriberId : UInt32) (serviceId : UInt16)
  | checkThreshold (subscriberId : UInt32) (serviceId : UInt16) (thresholdBytes : UInt64)
  | getTotalUsage

/-- What a call returns. -/
inductive Reply where
  | nothing
  | counter (counter : UsageCounter)
  | rollup (rollup : UsageRollup)
  | rollups (rollups : List UsageRollup)
  | breached (breached : Bool)
  | total (total : UInt64)

/-- Perform one call. -/
def UBBMeter.perform (order : IterationOrder) (meter : UBBMeter) : Call → Reply × UBBMeter
  | .updateCounter subscriberId serviceId bytes uplink created now =>
      (.nothing, meter.updateCounter subscriberId serviceId bytes uplink created now)
  | .getCounter subscriberId serviceId prior =>
      (.counter (meter.getCounter subscriberId serviceId prior), meter)
  | .rollup subscriberId serviceId rollupPeriodNs start stop prior =>
      (.rollup (meter.rollup subscriberId serviceId rollupPeriodNs start stop prior), meter)
  | .batchRollup rollupPeriodNs clock =>
      (.rollups (meter.batchRollup order rollupPeriodNs clock), meter)
  | .resetCounter subscriberId serviceId => (.nothing, meter.resetCounter subscriberId serviceId)
  | .checkThreshold subscriberId serviceId thresholdBytes =>
      let (breached, meter) := meter.checkThreshold subscriberId serviceId thresholdBytes
      (.breached breached, meter)
  | .getTotalUsage => (.total (meter.getTotalUsage order), meter)

/-- The meter after one call. -/
def UBBMeter.step (order : IterationOrder) (meter : UBBMeter) (call : Call) : UBBMeter :=
  (meter.perform order call).2

/-- The meter after the calls, from an empty one. -/
def UBBMeter.after (order : IterationOrder) (maxSubscribers : UInt32) (calls : List Call) :
    UBBMeter :=
  Execution.run (UBBMeter.step order) (UBBMeter.create maxSubscribers) calls

end VirtualServiceGateway.Metering
