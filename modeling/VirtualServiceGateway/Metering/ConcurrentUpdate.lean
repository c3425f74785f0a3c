import VirtualServiceGateway.Foundation.Interleaving
import VirtualServiceGateway.Metering.UsageLedger

/-!
# Concurrent updates

Workers run `updateCounter` in the steps the code takes: find the key, store a fresh counter on a
miss, find the key again, then one atomic add of the bytes and one of the packet. The map slot of
a key holds a pointer to a counter object, and storing a fresh counter replaces the pointer, so
the object it pointed to is no longer reachable by `getCounter`. Amounts are conserved over all
objects ever made; no update is lost as long as no store replaces a pointer to a counter that has
been, or is about to be, updated.

A worker holds a reference to the slot, not a pointer of its own: compiled code may keep the
pointer it has read or read the slot again. The `reload` move is such a second read. Time stamps
are not modelled here.
-/

namespace VirtualServiceGateway.Metering

open WrappingCounter Interleaving

/-- The arguments of one `updateCounter` call. -/
structure UpdateCall where
  subscriberId : UInt32
  serviceId : UInt16
  bytes : UInt32
  uplink : Bool
  deriving DecidableEq, Repr

def UpdateCall.pair (call : UpdateCall) : Pair := (call.subscriberId, call.serviceId)

def UpdateCall.key (call : UpdateCall) : CounterKey :=
  CounterKey.pack call.subscriberId call.serviceId

/-- What the call should add to a quantity of a pair. -/
def UpdateCall.amountFor (pair : Pair) (quantity : Quantity) (call : UpdateCall) : ℕ :=
  if call.pair = pair then Usage.amount quantity ⟨0, call.bytes, call.uplink⟩ else 0

/-- The map from keys to counter objects, and every counter object made so far. -/
structure SharedMeter where
  slots : AList fun _ : CounterKey ↦ ℕ
  objects : List UsageCounter

/-- Where a worker is inside `updateCounter`. -/
inductive Phase where
  | find
  | store
  | findAgain
  | addBytes (object : ℕ)
  | addPacket (object : ℕ)
  deriving DecidableEq, Repr

/-- A worker: the calls it has not finished, the first of them in progress, and its phase. -/
structure Worker where
  calls : List UpdateCall
  phase : Phase
  deriving DecidableEq, Repr

/-- A scheduled worker takes its next step, or reads the map slot again. -/
inductive Move where
  | advance
  | reload
  deriving DecidableEq, Repr

/-- The atomic add of the bytes. -/
def UsageCounter.addBytes (counter : UsageCounter) (call : UpdateCall) : UsageCounter :=
  if call.uplink then
    { counter with uplinkBytes := counter.uplinkBytes + call.bytes.toUInt64 }
  else { counter with downlinkBytes := counter.downlinkBytes + call.bytes.toUInt64 }

/-- The atomic add of the packet. -/
def UsageCounter.addPacket (counter : UsageCounter) (call : UpdateCall) : UsageCounter :=
  if call.uplink then { counter with uplinkPackets := counter.uplinkPackets + 1 }
  else { counter with downlinkPackets := counter.downlinkPackets + 1 }

namespace SharedMeter

/-- Apply an atomic operation to a counter object. -/
def modify (meter : SharedMeter) (object : ℕ) (operation : UsageCounter → UsageCounter) :
    SharedMeter :=
  match meter.objects[object]? with
  | none => meter
  | some counter => { meter with objects := meter.objects.set object (operation counter) }

/-- `counters_[key] = counter` with a counter just made. -/
def store (meter : SharedMeter) (call : UpdateCall) : SharedMeter where
  slots := meter.slots.insert call.key meter.objects.length
  objects := meter.objects ++ [UBBMeter.freshCounter call.subscriberId call.serviceId 0]

/-- One move of a worker. -/
def move : Move → SharedMeter → Worker → SharedMeter × Worker
  | _, meter, ⟨[], phase⟩ => (meter, ⟨[], phase⟩)
  | .advance, meter, ⟨call :: rest, .find⟩ =>
      match meter.slots.lookup call.key with
      | none => (meter, ⟨call :: rest, .store⟩)
      | some object => (meter, ⟨call :: rest, .addBytes object⟩)
  | .advance, meter, ⟨call :: rest, .store⟩ => (meter.store call, ⟨call :: rest, .findAgain⟩)
  | .advance, meter, ⟨call :: rest, .findAgain⟩ =>
      match meter.slots.lookup call.key with
      | none => (meter, ⟨call :: rest, .findAgain⟩)
      | some object => (meter, ⟨call :: rest, .addBytes object⟩)
  | .advance, meter, ⟨call :: rest, .addBytes object⟩ =>
      (meter.modify object (UsageCounter.addBytes · call), ⟨call :: rest, .addPacket object⟩)
  | .advance, meter, ⟨call :: rest, .addPacket object⟩ =>
      (meter.modify object (UsageCounter.addPacket · call), ⟨rest, .find⟩)
  | .reload, meter, ⟨call :: rest, .addBytes object⟩ =>
      (meter, ⟨call :: rest, .addBytes ((meter.slots.lookup call.key).getD object)⟩)
  | .reload, meter, ⟨call :: rest, .addPacket object⟩ =>
      (meter, ⟨call :: rest, .addPacket ((meter.slots.lookup call.key).getD object)⟩)
  | .reload, meter, worker => (meter, worker)

/-- The counter object a slot points to. -/
def object (meter : SharedMeter) (object : ℕ) : UsageCounter :=
  (meter.objects[object]?).getD (UBBMeter.freshCounter 0 0 0)

/-- The meter that the slots and the objects make up. -/
def snapshot (meter : SharedMeter) (maxSubscribers : UInt32) : UBBMeter where
  counters := ⟨meter.slots.entries.map (.map id fun _ object ↦ meter.object object),
    List.NodupKeys.map₂ _ _ meter.slots.nodupKeys⟩
  maxSubscribers := maxSubscribers

theorem lookup_snapshot (meter : SharedMeter) (maxSubscribers : UInt32) (key : CounterKey) :
    (meter.snapshot maxSubscribers).counters.lookup key =
      (meter.slots.lookup key).map meter.object :=
  List.dlookup_map₂ key

end SharedMeter

/-- Every worker before its first call, on an empty meter. -/
def startUpdates (workloads : List (List UpdateCall)) : Config SharedMeter Worker :=
  ⟨⟨∅, []⟩, workloads.map fun calls ↦ ⟨calls, .find⟩⟩

/-- The configuration after a schedule. -/
def runUpdates (workloads : List (List UpdateCall)) (schedule : List (ℕ × Move)) :
    Config SharedMeter Worker :=
  Interleaving.run SharedMeter.move (startUpdates workloads) schedule

/-- All calls have finished. -/
def Finished (config : Config SharedMeter Worker) : Prop :=
  ∀ worker ∈ config.workers, worker.calls = []

instance (config : Config SharedMeter Worker) : Decidable (Finished config) :=
  inferInstanceAs (Decidable (∀ worker ∈ config.workers, worker.calls = []))

/-! ## What one move can do -/

/-- The counter object a worker is about to update, with the key it was found under. -/
def Worker.target : Worker → Option (CounterKey × ℕ)
  | ⟨call :: _, .addBytes object⟩ => some (call.key, object)
  | ⟨call :: _, .addPacket object⟩ => some (call.key, object)
  | _ => none

/-- The effects of a move. -/
inductive Moved (meter : SharedMeter) : Worker → SharedMeter → Worker → Prop where
  | stutter (worker : Worker) : Moved meter worker meter worker
  | missed (call : UpdateCall) (rest : List UpdateCall) :
      Moved meter ⟨call :: rest, .find⟩ meter ⟨call :: rest, .store⟩
  | obtained (call : UpdateCall) (rest : List UpdateCall) (phase : Phase) (object : ℕ)
      (hphase : ∀ held, phase ≠ .addPacket held)
      (hslot : meter.slots.lookup call.key = some object) :
      Moved meter ⟨call :: rest, phase⟩ meter ⟨call :: rest, .addBytes object⟩
  | reloaded (call : UpdateCall) (rest : List UpdateCall) (held object : ℕ)
      (hslot : meter.slots.lookup call.key = some object) :
      Moved meter ⟨call :: rest, .addPacket held⟩ meter ⟨call :: rest, .addPacket object⟩
  | stored (call : UpdateCall) (rest : List UpdateCall) :
      Moved meter ⟨call :: rest, .store⟩ (meter.store call) ⟨call :: rest, .findAgain⟩
  | addedBytes (call : UpdateCall) (rest : List UpdateCall) (object : ℕ) :
      Moved meter ⟨call :: rest, .addBytes object⟩
        (meter.modify object (UsageCounter.addBytes · call)) ⟨call :: rest, .addPacket object⟩
  | addedPacket (call : UpdateCall) (rest : List UpdateCall) (object : ℕ) :
      Moved meter ⟨call :: rest, .addPacket object⟩
        (meter.modify object (UsageCounter.addPacket · call)) ⟨rest, .find⟩

theorem moved_of_move_eq {move : Move} {meter meter' : SharedMeter} {worker worker' : Worker}
    (hmove : SharedMeter.move move meter worker = (meter', worker')) :
    Moved meter worker meter' worker' := by
  obtain ⟨calls, phase⟩ := worker
  cases calls with
  | nil =>
    obtain ⟨rfl, rfl⟩ : meter = meter' ∧ ⟨[], phase⟩ = worker' := by
      cases move <;> simpa [SharedMeter.move] using hmove
    exact Moved.stutter _
  | cons call rest =>
    cases hslot : meter.slots.lookup call.key with
    | none =>
      cases move <;> cases phase <;>
        simp only [SharedMeter.move, hslot, Option.getD_none, Prod.mk.injEq] at hmove <;>
        obtain ⟨rfl, rfl⟩ := hmove
      all_goals first
        | exact Moved.stutter _
        | exact Moved.missed _ _
        | exact Moved.stored _ _
        | exact Moved.addedBytes _ _ _
        | exact Moved.addedPacket _ _ _
    | some object =>
      cases move <;> cases phase <;>
        simp only [SharedMeter.move, hslot, Option.getD_some, Prod.mk.injEq] at hmove <;>
        obtain ⟨rfl, rfl⟩ := hmove
      all_goals first
        | exact Moved.stutter _
        | exact Moved.stored _ _
        | exact Moved.addedBytes _ _ _
        | exact Moved.addedPacket _ _ _
        | exact Moved.reloaded _ _ _ _ hslot
        | exact Moved.obtained _ _ _ _ (by simp) hslot

end VirtualServiceGateway.Metering
