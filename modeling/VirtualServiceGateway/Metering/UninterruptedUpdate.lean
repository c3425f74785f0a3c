import Mathlib.Logic.Function.Iterate
import VirtualServiceGateway.Metering.LostUpdate

/-!
# A worker that is not interrupted

The steps of the concurrent model make up the sequential `updateCounter`: a worker that runs one
call from its start to its end, with no other worker in between, leaves a meter with the same
readings for every pair.
-/

namespace VirtualServiceGateway.Metering

open Interleaving

/-- Steps of one worker with no other worker in between. -/
def SharedMeter.advance (count : ℕ) (state : SharedMeter × Worker) : SharedMeter × Worker :=
  (fun state ↦ SharedMeter.move .advance state.1 state.2)^[count] state

/-- What `getCounter` reports of a quantity is the stored counter's, or zero. -/
theorem read_getCounter_eq (meter : UBBMeter) (pair : Pair) (prior : UsageCounter)
    (quantity : Quantity) :
    (meter.getCounter pair.1 pair.2 prior).read quantity =
      ((meter.counters.lookup (CounterKey.pack pair.1 pair.2)).map
        (UsageCounter.read quantity)).getD 0 := by
  unfold UBBMeter.getCounter
  cases meter.counters.lookup (CounterKey.pack pair.1 pair.2) with
  | none => cases quantity <;> rfl
  | some counter => rfl

/-- The two atomic adds account one packet. -/
theorem read_addPacket_addBytes (counter : UsageCounter) (call : UpdateCall) (now : Int64)
    (quantity : Quantity) :
    ((counter.addBytes call).addPacket call).read quantity =
      (counter.account call.bytes call.uplink now).read quantity := by
  unfold UsageCounter.addBytes UsageCounter.addPacket UsageCounter.account
  cases call.uplink <;> cases quantity <;> rfl

theorem objects_modify {meter : SharedMeter} {place : ℕ} {counter : UsageCounter}
    (hcounter : meter.objects[place]? = some counter) (operation : UsageCounter → UsageCounter)
    (object : ℕ) :
    (meter.modify place operation).objects[object]? =
      if object = place then some (operation counter) else meter.objects[object]? := by
  have hplace := (List.getElem?_eq_some_iff.mp hcounter).1
  simp only [SharedMeter.modify, hcounter]
  by_cases hsame : object = place
  · rw [if_pos hsame, hsame, List.getElem?_set_self hplace]
  · rw [if_neg hsame, List.getElem?_set_ne (Ne.symm hsame)]

/-- The object is the one in the map under the key, and under no other key. -/
structure SharedMeter.Holds (meter : SharedMeter) (key : CounterKey) (place : ℕ)
    (counter : UsageCounter) : Prop where
  slot : meter.slots.lookup key = some place
  object : meter.objects[place]? = some counter
  others : ∀ other, other ≠ key → meter.slots.lookup other ≠ some place

/-- The meter after both atomic adds of a call on an object. -/
def SharedMeter.addBoth (meter : SharedMeter) (object : ℕ) (call : UpdateCall) : SharedMeter :=
  (meter.modify object (UsageCounter.addBytes · call)).modify object
    (UsageCounter.addPacket · call)

/-- The adds change the reading under the call's key only. -/
theorem lookup_addBoth {meter : SharedMeter} {call : UpdateCall} {place : ℕ}
    {counter : UsageCounter} (hholds : meter.Holds call.key place counter)
    (maxSubscribers : UInt32) (key : CounterKey) :
    ((meter.addBoth place call).snapshot maxSubscribers).counters.lookup key =
      if key = call.key then some ((counter.addBytes call).addPacket call)
      else (meter.snapshot maxSubscribers).counters.lookup key := by
  have hbytes : (meter.modify place (UsageCounter.addBytes · call)).objects[place]? =
      some (counter.addBytes call) := by
    rw [objects_modify hholds.object, if_pos rfl]
  have hobjects (object : ℕ) : (meter.addBoth place call).objects[object]? =
      if object = place then some ((counter.addBytes call).addPacket call)
      else meter.objects[object]? := by
    unfold SharedMeter.addBoth
    rw [objects_modify hbytes, objects_modify hholds.object]
    split <;> rfl
  have hslots : (meter.addBoth place call).slots = meter.slots := by
    unfold SharedMeter.addBoth
    rw [slots_modify, slots_modify]
  rw [SharedMeter.lookup_snapshot, SharedMeter.lookup_snapshot, hslots]
  by_cases hkey : key = call.key
  · rw [if_pos hkey, hkey, hholds.slot, Option.map_some, SharedMeter.object, hobjects, if_pos rfl]
    rfl
  · rw [if_neg hkey]
    cases hother : meter.slots.lookup key with
    | none => rfl
    | some object =>
      have hne : object ≠ place := by
        rintro rfl
        exact hholds.others key hkey hother
      rw [Option.map_some, Option.map_some, SharedMeter.object, SharedMeter.object, hobjects,
        if_neg hne]

/-- An update stores the accounted counter under its own key. -/
theorem lookup_updateCounter (meter : UBBMeter) (call : UpdateCall) (created now : Int64)
    (key : CounterKey) :
    (meter.updateCounter call.subscriberId call.serviceId call.bytes call.uplink created
        now).counters.lookup key =
      if key = call.key then
        some (((meter.counters.lookup call.key).getD
          (UBBMeter.freshCounter call.subscriberId call.serviceId created)).account call.bytes
            call.uplink now)
      else meter.counters.lookup key := by
  unfold UBBMeter.updateCounter UpdateCall.key
  by_cases hkey : key = CounterKey.pack call.subscriberId call.serviceId
  · rw [if_pos hkey, hkey, AList.lookup_insert]
  · rw [if_neg hkey, AList.lookup_insert_ne hkey]

section Found

variable {config : Config SharedMeter Worker}

/-- A slot that is found holds its counter for one key only. -/
theorem Sound.holds (hsound : Sound config) {key : CounterKey} {place : ℕ}
    (hslot : config.shared.slots.lookup key = some place) :
    ∃ counter, config.shared.Holds key place counter := by
  obtain ⟨counter, hcounter, hkey⟩ := hsound.slot key place hslot
  refine ⟨counter, hslot, hcounter, ?_⟩
  intro otherKey hne hother
  obtain ⟨other, hfound, hotherKey⟩ := hsound.slot otherKey place hother
  rw [hcounter, Option.some.injEq] at hfound
  exact hne (by rw [← hotherKey, ← hfound, hkey])

/-- A store makes a new object, so no other key finds it. -/
theorem Sound.holds_store (hsound : Sound config) (call : UpdateCall) :
    (config.shared.store call).Holds call.key config.shared.objects.length
      (UBBMeter.freshCounter call.subscriberId call.serviceId 0) where
  slot := by rw [slots_store, AList.lookup_insert]
  object := objects_store config.shared call
  others := by
    intro key hne hother
    rw [slots_store, AList.lookup_insert_ne hne] at hother
    obtain ⟨_, hfound, -⟩ := hsound.slot key _ hother
    simp at hfound

/-- A store changes no reading of another key. -/
theorem Sound.lookup_snapshot_store (hsound : Sound config) {call : UpdateCall} {key : CounterKey}
    (hne : key ≠ call.key) (maxSubscribers : UInt32) :
    ((config.shared.store call).snapshot maxSubscribers).counters.lookup key =
      (config.shared.snapshot maxSubscribers).counters.lookup key := by
  rw [SharedMeter.lookup_snapshot, SharedMeter.lookup_snapshot, slots_store,
    AList.lookup_insert_ne hne]
  cases hother : config.shared.slots.lookup key with
  | none => rfl
  | some object =>
    obtain ⟨_, hfound, -⟩ := hsound.slot key object hother
    have hlt := (List.getElem?_eq_some_iff.mp hfound).1
    simp only [Option.map_some, SharedMeter.object, SharedMeter.store,
      List.getElem?_append_left hlt]

end Found

/-- A worker that starts a call and is not interrupted ends it after both adds on one object: the
one in the map, or one it has made. -/
theorem exists_advance {config : Config SharedMeter Worker} (hsound : Sound config)
    (call : UpdateCall) (rest : List UpdateCall) (maxSubscribers : UInt32) :
    ∃ (count : ℕ) (base : SharedMeter) (place : ℕ) (counter : UsageCounter),
      SharedMeter.advance count (config.shared, ⟨call :: rest, .find⟩) =
        (base.addBoth place call, ⟨rest, .find⟩) ∧
      base.Holds call.key place counter ∧
      (∀ key, key ≠ call.key → (base.snapshot maxSubscribers).counters.lookup key =
        (config.shared.snapshot maxSubscribers).counters.lookup key) ∧
      counter = ((config.shared.snapshot maxSubscribers).counters.lookup call.key).getD
        (UBBMeter.freshCounter call.subscriberId call.serviceId 0) := by
  cases hslot : config.shared.slots.lookup call.key with
  | some place =>
    obtain ⟨counter, hholds⟩ := hsound.holds hslot
    refine ⟨3, config.shared, place, counter, ?_, hholds, fun _ _ ↦ rfl, ?_⟩
    · simp only [SharedMeter.advance, Function.iterate_succ, Function.iterate_zero,
        Function.comp_apply, id_eq, SharedMeter.move, hslot]
      rfl
    · rw [SharedMeter.lookup_snapshot, hslot]
      simp [SharedMeter.object, hholds.object]
  | none =>
    have hholds := hsound.holds_store call
    refine ⟨5, config.shared.store call, config.shared.objects.length,
      UBBMeter.freshCounter call.subscriberId call.serviceId 0, ?_, hholds,
      fun key hne ↦ hsound.lookup_snapshot_store hne maxSubscribers, ?_⟩
    · simp only [SharedMeter.advance, Function.iterate_succ, Function.iterate_zero,
        Function.comp_apply, id_eq, SharedMeter.move, hslot, hholds.slot]
      rfl
    · rw [SharedMeter.lookup_snapshot, hslot]
      rfl

/-- **Refinement.** In every state that a schedule reaches, a worker that runs a call without
interruption does what the sequential `updateCounter` does: every pair has the same readings after
both. -/
theorem advance_refines_updateCounter (workloads : List (List UpdateCall))
    (schedule : List (ℕ × Move)) (call : UpdateCall) (rest : List UpdateCall)
    (maxSubscribers : UInt32) (created now : Int64) :
    let meter := (runUpdates workloads schedule).shared
    ∃ count shared,
      SharedMeter.advance count (meter, ⟨call :: rest, .find⟩) = (shared, ⟨rest, .find⟩) ∧
      ∀ (pair : Pair) (prior : UsageCounter) (quantity : Quantity),
        ((shared.snapshot maxSubscribers).getCounter pair.1 pair.2 prior).read quantity =
          (((meter.snapshot maxSubscribers).updateCounter call.subscriberId call.serviceId
            call.bytes call.uplink created now).getCounter pair.1 pair.2 prior).read quantity := by
  intro meter
  obtain ⟨count, base, place, counter, hadvance, hholds, hkept, hfound⟩ :=
    exists_advance (sound_runUpdates workloads schedule) call rest maxSubscribers
  refine ⟨count, base.addBoth place call, hadvance, fun pair prior quantity ↦ ?_⟩
  rw [read_getCounter_eq, read_getCounter_eq, lookup_updateCounter, lookup_addBoth hholds]
  by_cases hkey : CounterKey.pack pair.1 pair.2 = call.key
  · rw [if_pos hkey, if_pos hkey, Option.map_some, Option.map_some,
      read_addPacket_addBytes counter call now, hfound]
    cases (meter.snapshot maxSubscribers).counters.lookup call.key with
    | none => simp only [Option.getD_none, Option.getD_some, read_account, read_freshCounter]
    | some found => rfl
  · rw [if_neg hkey, if_neg hkey, hkept _ hkey]

end VirtualServiceGateway.Metering
