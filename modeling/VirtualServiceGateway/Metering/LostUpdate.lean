import VirtualServiceGateway.Metering.ConcurrentUpdate

/-!
# When concurrent updates are all counted

Over all counter objects ever made, every schedule conserves the amounts: what the objects of a
pair hold and what the unfinished calls will still add is the total of all calls. An update is lost
when the object it went to is no longer the one in the map. The condition on a store that rules
this out is that the object it replaces, if any, is still untouched and no worker is about to
update it; then every object outside the map stays zero.
-/

namespace VirtualServiceGateway.Metering

open WrappingCounter Interleaving

/-- Does the quantity count bytes? -/
def Quantity.countsBytes : Quantity → Bool
  | .uplinkBytes | .downlinkBytes => true
  | .uplinkPackets | .downlinkPackets => false

/-- The part of a call's amount that its byte add contributes. -/
def UpdateCall.byteShare (pair : Pair) (quantity : Quantity) (call : UpdateCall) : ℕ :=
  if quantity.countsBytes then call.amountFor pair quantity else 0

/-- The part of a call's amount that its packet add contributes. -/
def UpdateCall.packetShare (pair : Pair) (quantity : Quantity) (call : UpdateCall) : ℕ :=
  if quantity.countsBytes then 0 else call.amountFor pair quantity

theorem byteShare_add_packetShare (pair : Pair) (quantity : Quantity) (call : UpdateCall) :
    call.byteShare pair quantity + call.packetShare pair quantity =
      call.amountFor pair quantity := by
  unfold UpdateCall.byteShare UpdateCall.packetShare
  cases quantity.countsBytes <;> simp

/-- What a counter object holds for a pair. -/
def UsageCounter.amountFor (pair : Pair) (quantity : Quantity) (counter : UsageCounter) : UInt64 :=
  if counter.pair = pair then counter.read quantity else 0

/-- What all counter objects together hold for a pair. -/
def SharedMeter.amountFor (pair : Pair) (quantity : Quantity) (meter : SharedMeter) : UInt64 :=
  (meter.objects.map (UsageCounter.amountFor pair quantity)).sum

/-- What a worker's unfinished calls will still add for a pair. -/
def Worker.pending (pair : Pair) (quantity : Quantity) : Worker → ℕ
  | ⟨[], _⟩ => 0
  | ⟨call :: rest, .addPacket _⟩ =>
      call.packetShare pair quantity + tally (UpdateCall.amountFor pair quantity) rest
  | ⟨call :: rest, _⟩ => tally (UpdateCall.amountFor pair quantity) (call :: rest)

theorem pending_find (pair : Pair) (quantity : Quantity) (calls : List UpdateCall) :
    Worker.pending pair quantity ⟨calls, .find⟩ =
      tally (UpdateCall.amountFor pair quantity) calls := by
  cases calls <;> rfl

/-- Held and pending amounts together. -/
def accounted (pair : Pair) (quantity : Quantity) (config : Config SharedMeter Worker) : UInt64 :=
  total (SharedMeter.amountFor pair quantity)
    (fun worker ↦ wrap64 (worker.pending pair quantity)) config

/-- The key of the pair a counter belongs to. -/
def UsageCounter.key (counter : UsageCounter) : CounterKey :=
  CounterKey.pack counter.subscriberId counter.serviceId

theorem UsageCounter.pair_eq_of_key {counter : UsageCounter} {call : UpdateCall}
    (hkey : counter.key = call.key) : counter.pair = call.pair :=
  pack_eq_pack_iff.mp hkey

theorem UsageCounter.key_eq_of_pair {counter : UsageCounter} {pair : Pair}
    (hpair : counter.pair = pair) : counter.key = CounterKey.pack pair.1 pair.2 := by
  subst hpair
  rfl

/-! ## Atomic operations -/

@[simp]
theorem addBytes_pair (counter : UsageCounter) (call : UpdateCall) :
    (counter.addBytes call).pair = counter.pair := by
  unfold UsageCounter.addBytes
  cases call.uplink <;> rfl

@[simp]
theorem addPacket_pair (counter : UsageCounter) (call : UpdateCall) :
    (counter.addPacket call).pair = counter.pair := by
  unfold UsageCounter.addPacket
  cases call.uplink <;> rfl

@[simp]
theorem addBytes_key (counter : UsageCounter) (call : UpdateCall) :
    (counter.addBytes call).key = counter.key := by
  unfold UsageCounter.addBytes
  cases call.uplink <;> rfl

@[simp]
theorem addPacket_key (counter : UsageCounter) (call : UpdateCall) :
    (counter.addPacket call).key = counter.key := by
  unfold UsageCounter.addPacket
  cases call.uplink <;> rfl

/-- The byte add contributes the call's byte share to its pair's object. -/
theorem amountFor_addBytes (pair : Pair) (quantity : Quantity) (counter : UsageCounter)
    (call : UpdateCall) (hpair : counter.pair = call.pair) :
    (counter.addBytes call).amountFor pair quantity =
      counter.amountFor pair quantity + wrap64 (call.byteShare pair quantity) := by
  unfold UsageCounter.amountFor UpdateCall.byteShare UpdateCall.amountFor
  rw [addBytes_pair, hpair]
  by_cases hcall : call.pair = pair
  · cases hlink : call.uplink <;> cases quantity <;>
      simp [UsageCounter.addBytes, UsageCounter.read, Usage.amount, Quantity.countsBytes, hcall,
        hlink, wrap64_toUInt64]
  · simp [hcall]

/-- The packet add contributes the call's packet share to its pair's object. -/
theorem amountFor_addPacket (pair : Pair) (quantity : Quantity) (counter : UsageCounter)
    (call : UpdateCall) (hpair : counter.pair = call.pair) :
    (counter.addPacket call).amountFor pair quantity =
      counter.amountFor pair quantity + wrap64 (call.packetShare pair quantity) := by
  unfold UsageCounter.amountFor UpdateCall.packetShare UpdateCall.amountFor
  rw [addPacket_pair, hpair]
  by_cases hcall : call.pair = pair
  · cases hlink : call.uplink <;> cases quantity <;>
      simp [UsageCounter.addPacket, UsageCounter.read, Usage.amount, Quantity.countsBytes, hcall,
        hlink]
  · simp [hcall]

/-- A fresh object holds nothing. -/
theorem amountFor_store (pair : Pair) (quantity : Quantity) (meter : SharedMeter)
    (call : UpdateCall) :
    (meter.store call).amountFor pair quantity = meter.amountFor pair quantity := by
  simp [SharedMeter.amountFor, SharedMeter.store, UsageCounter.amountFor]

/-- An operation on an object adds to the shared amount what it adds to the object. -/
theorem amountFor_modify (pair : Pair) (quantity : Quantity) {meter : SharedMeter} {object : ℕ}
    {counter : UsageCounter} (hcounter : meter.objects[object]? = some counter)
    (operation : UsageCounter → UsageCounter) (share : ℕ)
    (hshare : (operation counter).amountFor pair quantity =
      counter.amountFor pair quantity + wrap64 share) :
    (meter.modify object operation).amountFor pair quantity =
      meter.amountFor pair quantity + wrap64 share := by
  have hset := sum_map_set (UsageCounter.amountFor pair quantity) hcounter (operation counter)
  unfold SharedMeter.modify SharedMeter.amountFor
  rw [hcounter]
  apply add_right_cancel (b := counter.amountFor pair quantity)
  rw [hset, hshare]
  ac_rfl

/-! ## Conservation under every schedule -/

/-- Slots and workers point to objects of the right pair. -/
structure Sound (config : Config SharedMeter Worker) : Prop where
  slot : ∀ key object, config.shared.slots.lookup key = some object →
    ∃ counter, config.shared.objects[object]? = some counter ∧ counter.key = key
  target : ∀ worker ∈ config.workers, ∀ key object, worker.target = some (key, object) →
    ∃ counter, config.shared.objects[object]? = some counter ∧ counter.key = key

/-- An object that can be found stays, with its key, whatever a worker does. -/
theorem Moved.object_stays {meter meter' : SharedMeter} {worker worker' : Worker}
    (hmoved : Moved meter worker meter' worker') {key : CounterKey} {object : ℕ}
    (hobject : ∃ counter, meter.objects[object]? = some counter ∧ counter.key = key) :
    ∃ counter, meter'.objects[object]? = some counter ∧ counter.key = key := by
  obtain ⟨counter, hcounter, hkey⟩ := hobject
  have hlt := (List.getElem?_eq_some_iff.mp hcounter).1
  have hmodify (place : ℕ) (operation : UsageCounter → UsageCounter)
      (hoperation : ∀ counter, (operation counter).key = counter.key) :
      ∃ counter, (meter.modify place operation).objects[object]? = some counter ∧
        counter.key = key := by
    unfold SharedMeter.modify
    cases hplace : meter.objects[place]? with
    | none => exact ⟨counter, hcounter, hkey⟩
    | some old =>
      by_cases hsame : place = object
      · subst hsame
        obtain rfl : old = counter := Option.some.inj (hplace.symm.trans hcounter)
        exact ⟨operation old, List.getElem?_set_self hlt, by rw [hoperation, hkey]⟩
      · exact ⟨counter, by simpa [hsame] using hcounter, hkey⟩
  cases hmoved with
  | stored call rest =>
    refine ⟨counter, ?_, hkey⟩
    simp only [SharedMeter.store]
    rw [List.getElem?_append_left hlt, hcounter]
  | addedBytes call rest place => exact hmodify place _ fun counter ↦ addBytes_key counter call
  | addedPacket call rest place => exact hmodify place _ fun counter ↦ addPacket_key counter call
  | _ => exact ⟨counter, hcounter, hkey⟩

theorem slots_modify (meter : SharedMeter) (object : ℕ)
    (operation : UsageCounter → UsageCounter) :
    (meter.modify object operation).slots = meter.slots := by
  unfold SharedMeter.modify
  cases meter.objects[object]? <;> rfl

@[simp]
theorem slots_store (meter : SharedMeter) (call : UpdateCall) :
    (meter.store call).slots = meter.slots.insert call.key meter.objects.length := rfl

/-- The object a store makes is a fresh one for the call's own key. -/
theorem objects_store (meter : SharedMeter) (call : UpdateCall) :
    (meter.store call).objects[meter.objects.length]? =
      some (UBBMeter.freshCounter call.subscriberId call.serviceId 0) :=
  List.getElem?_concat_length

section Move

variable {config : Config SharedMeter Worker} {meter : SharedMeter} {worker moved : Worker}
  {key : CounterKey} {object : ℕ}

/-- After a move the slots point to objects of the right pair again. -/
theorem Moved.slot_sound (hmoved : Moved config.shared worker meter moved) (hsound : Sound config)
    (hslot : meter.slots.lookup key = some object) :
    ∃ counter, meter.objects[object]? = some counter ∧ counter.key = key := by
  have hslots (hold : config.shared.slots.lookup key = some object) :
      ∃ counter, meter.objects[object]? = some counter ∧ counter.key = key :=
    hmoved.object_stays (hsound.slot key object hold)
  cases hmoved with
  | stored call rest =>
    by_cases hkey : key = call.key
    · subst hkey
      rw [slots_store, AList.lookup_insert, Option.some.injEq] at hslot
      subst hslot
      exact ⟨_, objects_store config.shared call, rfl⟩
    · rw [slots_store, AList.lookup_insert_ne hkey] at hslot
      exact hslots hslot
  | addedBytes call rest place =>
    rw [slots_modify] at hslot
    exact hslots hslot
  | addedPacket call rest place =>
    rw [slots_modify] at hslot
    exact hslots hslot
  | _ => exact hsound.slot key object hslot

/-- After a move the worker points to an object of the right pair again. -/
theorem Moved.target_sound (hmoved : Moved config.shared worker meter moved)
    (hsound : Sound config) (hmem : worker ∈ config.workers)
    (htarget : moved.target = some (key, object)) :
    ∃ counter, meter.objects[object]? = some counter ∧ counter.key = key := by
  have htargets (hold : worker.target = some (key, object)) :
      ∃ counter, meter.objects[object]? = some counter ∧ counter.key = key :=
    hmoved.object_stays (hsound.target worker hmem key object hold)
  cases hmoved with
  | stutter => exact htargets htarget
  | missed call rest => cases htarget
  | obtained call rest phase place hphase hslot =>
    cases htarget
    exact hsound.slot _ _ hslot
  | reloaded call rest held place hslot =>
    cases htarget
    exact hsound.slot _ _ hslot
  | stored call rest => cases htarget
  | addedBytes call rest place => exact htargets htarget
  | addedPacket call rest place => cases rest <;> cases htarget

end Move

/-- Every schedule keeps slots and workers sound. -/
theorem sound_step (config : Config SharedMeter Worker) (pick : ℕ × Move)
    (hsound : Sound config) : Sound (step SharedMeter.move config pick) := by
  apply step_induction config pick Sound hsound
  intro worker meter' worker' hworker hmove
  have hmem := List.mem_of_getElem? hworker
  have hmoved := moved_of_move_eq hmove
  constructor
  · intro key object hslot
    exact hmoved.slot_sound hsound hslot
  · apply forall_workers_set
    · intro key object htarget
      exact hmoved.target_sound hsound hmem htarget
    · intro other hother key object htarget
      exact hmoved.object_stays (hsound.target other hother key object htarget)

/-- **Conservation.** No step changes what the objects hold and the workers still owe together. -/
theorem accounted_step (pair : Pair) (quantity : Quantity) (config : Config SharedMeter Worker)
    (pick : ℕ × Move) (hsound : Sound config) :
    accounted pair quantity (step SharedMeter.move config pick) =
      accounted pair quantity config := by
  apply step_induction config pick
    (fun config' ↦ accounted pair quantity config' = accounted pair quantity config) rfl
  intro worker meter' worker' hworker hmove
  have hmem := List.mem_of_getElem? hworker
  have hmoved := moved_of_move_eq hmove
  apply total_set _ _ hworker
  cases hmoved with
  | stutter => rfl
  | missed call rest => rfl
  | obtained call rest phase object hphase hslot =>
    cases phase with
    | addPacket held => exact absurd rfl (hphase held)
    | _ => rfl
  | reloaded call rest held object hslot => rfl
  | stored call rest =>
    rw [amountFor_store]
    rfl
  | addedBytes call rest object =>
    obtain ⟨counter, hcounter, hkey⟩ := hsound.target _ hmem call.key object rfl
    have hshare := amountFor_addBytes pair quantity counter call (UsageCounter.pair_eq_of_key hkey)
    simp only [amountFor_modify pair quantity hcounter (UsageCounter.addBytes · call) _ hshare,
      Worker.pending, tally_cons, ← byteShare_add_packetShare, map_add]
    ac_rfl
  | addedPacket call rest object =>
    obtain ⟨counter, hcounter, hkey⟩ := hsound.target _ hmem call.key object rfl
    have hshare := amountFor_addPacket pair quantity counter call
      (UsageCounter.pair_eq_of_key hkey)
    rw [amountFor_modify pair quantity hcounter (UsageCounter.addPacket · call) _ hshare,
      pending_find]
    simp only [Worker.pending, map_add]
    ac_rfl

/-! ## Stores that lose nothing -/

/-- A store of a fresh counter replaces no counter, or one that nobody has updated and no worker
is about to update. -/
def StoreReplacesUntouched (config : Config SharedMeter Worker) (pick : ℕ × Move) : Prop :=
  ∀ worker ∈ config.workers[pick.1]?, worker.phase = .store → ∀ call ∈ worker.calls.head?,
    ∀ object ∈ config.shared.slots.lookup call.key,
      (∀ counter ∈ config.shared.objects[object]?, ∀ quantity, counter.read quantity = 0) ∧
      ∀ other ∈ config.workers, other.target ≠ some (call.key, object)

instance : DecidableRel StoreReplacesUntouched := fun config pick ↦
  inferInstanceAs (Decidable (∀ worker ∈ config.workers[pick.1]?, worker.phase = .store →
    ∀ call ∈ worker.calls.head?, ∀ object ∈ config.shared.slots.lookup call.key,
      (∀ counter ∈ config.shared.objects[object]?, ∀ quantity, counter.read quantity = 0) ∧
      ∀ other ∈ config.workers, other.target ≠ some (call.key, object)))

/-- Workers update the object in the map, and every other object is zero. -/
structure Linked (config : Config SharedMeter Worker) : Prop where
  target : ∀ worker ∈ config.workers, ∀ key object, worker.target = some (key, object) →
    config.shared.slots.lookup key = some object
  unlinked : ∀ object counter, config.shared.objects[object]? = some counter →
    config.shared.slots.lookup counter.key = some object ∨
      ∀ quantity, counter.read quantity = 0

/-- An operation on a linked object keeps every other object linked or zero. -/
theorem unlinked_modify {meter : SharedMeter} {place : ℕ} {key : CounterKey}
    {operation : UsageCounter → UsageCounter}
    (hoperation : ∀ counter, (operation counter).key = counter.key)
    (hplace : meter.slots.lookup key = some place)
    (hkey : ∃ counter, meter.objects[place]? = some counter ∧ counter.key = key)
    (hunlinked : ∀ object counter, meter.objects[object]? = some counter →
      meter.slots.lookup counter.key = some object ∨ ∀ quantity, counter.read quantity = 0) :
    ∀ object counter, (meter.modify place operation).objects[object]? = some counter →
      meter.slots.lookup counter.key = some object ∨ ∀ quantity, counter.read quantity = 0 := by
  intro object counter hcounter
  obtain ⟨old, hold, hkey⟩ := hkey
  simp only [SharedMeter.modify, hold] at hcounter
  rcases getElem?_set_eq_some hcounter with ⟨rfl, rfl⟩ | ⟨hcounter, _⟩
  · left
    rw [hoperation, hkey, hplace]
  · exact hunlinked object counter hcounter

/-- A store that replaces only an untouched object leaves every object linked or zero. -/
theorem unlinked_store {meter : SharedMeter} {call : UpdateCall}
    (hreplaced : ∀ object, meter.slots.lookup call.key = some object →
      ∀ counter, meter.objects[object]? = some counter → ∀ quantity, counter.read quantity = 0)
    (hunlinked : ∀ object counter, meter.objects[object]? = some counter →
      meter.slots.lookup counter.key = some object ∨ ∀ quantity, counter.read quantity = 0) :
    ∀ object counter, (meter.store call).objects[object]? = some counter →
      (meter.store call).slots.lookup counter.key = some object ∨
        ∀ quantity, counter.read quantity = 0 := by
  intro object counter hcounter
  rw [slots_store]
  rcases lt_or_ge object meter.objects.length with hlt | hge
  · rw [SharedMeter.store, List.getElem?_append_left hlt] at hcounter
    rcases hunlinked object counter hcounter with hslot | hzero
    · by_cases hkey : counter.key = call.key
      · exact Or.inr (hreplaced object (hkey ▸ hslot) counter hcounter)
      · rw [AList.lookup_insert_ne hkey]
        exact Or.inl hslot
    · exact Or.inr hzero
  · right
    rw [SharedMeter.store, List.getElem?_append_right hge, List.getElem?_singleton] at hcounter
    obtain ⟨_, rfl⟩ : object - meter.objects.length = 0 ∧
        UBBMeter.freshCounter call.subscriberId call.serviceId 0 = counter := by
      simpa using hcounter
    exact fun quantity ↦ read_freshCounter quantity _ _ _

/-- **Step.** A safe step keeps workers on the object in the map and the other objects zero. -/
theorem linked_step (config : Config SharedMeter Worker) (pick : ℕ × Move)
    (hsound : Sound config) (hlinked : Linked config)
    (hsafe : StoreReplacesUntouched config pick) :
    Linked (step SharedMeter.move config pick) := by
  apply step_induction config pick Linked hlinked
  intro worker meter' worker' hworker hmove
  have hmem := List.mem_of_getElem? hworker
  have hmoved := moved_of_move_eq hmove
  have hsame (moved : Worker) (hslots : meter'.slots = config.shared.slots)
      (htarget : ∀ key object, moved.target = some (key, object) →
        config.shared.slots.lookup key = some object) :
      ∀ other ∈ config.workers.set pick.1 moved, ∀ key object, other.target = some (key, object) →
        meter'.slots.lookup key = some object := by
    rw [hslots]
    exact forall_workers_set _ htarget hlinked.target
  cases hmoved with
  | stutter => exact ⟨hsame _ rfl (hlinked.target _ hmem), hlinked.unlinked⟩
  | missed call rest => exact ⟨hsame _ rfl (by simp [Worker.target]), hlinked.unlinked⟩
  | obtained call rest phase object hphase hslot =>
    exact ⟨hsame _ rfl (by simpa [Worker.target] using hslot), hlinked.unlinked⟩
  | reloaded call rest held object hslot =>
    exact ⟨hsame _ rfl (by simpa [Worker.target] using hslot), hlinked.unlinked⟩
  | stored call rest =>
    have hreplaced := hsafe _ hworker rfl call rfl
    refine ⟨forall_workers_set _ ?_ ?_,
      unlinked_store (fun object hslot ↦ (hreplaced object hslot).1) hlinked.unlinked⟩
    · intro key object htarget
      cases htarget
    · intro other hother key object htarget
      have hslot := hlinked.target other hother key object htarget
      have hkey : key ≠ call.key := by
        rintro rfl
        exact (hreplaced object hslot).2 other hother htarget
      rw [slots_store, AList.lookup_insert_ne hkey]
      exact hslot
  | addedBytes call rest object =>
    have hslot := hlinked.target _ hmem call.key object rfl
    refine ⟨hsame _ (slots_modify _ _ _) (by simpa [Worker.target] using hslot), ?_⟩
    simp only [slots_modify]
    exact unlinked_modify (fun counter ↦ addBytes_key counter call) hslot
      (hsound.target _ hmem call.key object rfl) hlinked.unlinked
  | addedPacket call rest object =>
    have hslot := hlinked.target _ hmem call.key object rfl
    have htarget : Worker.target ⟨rest, .find⟩ = none := by cases rest <;> rfl
    refine ⟨hsame _ (slots_modify _ _ _) (by simp [htarget]), ?_⟩
    simp only [slots_modify]
    exact unlinked_modify (fun counter ↦ addPacket_key counter call) hslot
      (hsound.target _ hmem call.key object rfl) hlinked.unlinked

/-! ## Whole schedules -/

theorem sound_startUpdates (workloads : List (List UpdateCall)) :
    Sound (startUpdates workloads) where
  slot key object hslot := by simp [startUpdates] at hslot
  target worker hworker key object htarget := by
    obtain ⟨calls, _, rfl⟩ := List.mem_map.mp hworker
    cases calls <;> cases htarget

/-- Every reachable configuration is sound. -/
theorem sound_runUpdates (workloads : List (List UpdateCall)) (schedule : List (ℕ × Move)) :
    Sound (runUpdates workloads schedule) :=
  Execution.run_invariant Sound (sound_startUpdates workloads) sound_step schedule

theorem linked_startUpdates (workloads : List (List UpdateCall)) :
    Linked (startUpdates workloads) where
  target worker hworker key object htarget := by
    obtain ⟨calls, _, rfl⟩ := List.mem_map.mp hworker
    cases calls <;> cases htarget
  unlinked object counter hcounter := by simp [startUpdates] at hcounter

/-- The workers of the initial configuration owe all calls. -/
theorem accounted_startUpdates (pair : Pair) (quantity : Quantity)
    (workloads : List (List UpdateCall)) :
    accounted pair quantity (startUpdates workloads) =
      wrap64 (tally (UpdateCall.amountFor pair quantity) workloads.flatten) := by
  have hpending : ((workloads.map fun calls ↦ (⟨calls, .find⟩ : Worker)).map fun worker ↦
      wrap64 (worker.pending pair quantity)).sum =
        wrap64 (tally (UpdateCall.amountFor pair quantity) workloads.flatten) := by
    induction workloads with
    | nil => simp
    | cons calls workloads ih =>
      simp only [List.map_cons, List.sum_cons, List.flatten_cons, tally_append, map_add, ← ih,
        pending_find]
  simp only [accounted, total, startUpdates, hpending, SharedMeter.amountFor, List.map_nil,
    List.sum_nil, zero_add]

/-- **Conservation.** After every schedule the objects hold and the workers owe all calls. -/
theorem accounted_runUpdates (pair : Pair) (quantity : Quantity)
    (workloads : List (List UpdateCall)) (schedule : List (ℕ × Move)) :
    accounted pair quantity (runUpdates workloads schedule) =
      wrap64 (tally (UpdateCall.amountFor pair quantity) workloads.flatten) := by
  have hinvariant : Sound (runUpdates workloads schedule) ∧
      accounted pair quantity (runUpdates workloads schedule) =
        accounted pair quantity (startUpdates workloads) :=
    Execution.run_invariant
      (fun config ↦ Sound config ∧
        accounted pair quantity config = accounted pair quantity (startUpdates workloads))
      ⟨sound_startUpdates workloads, rfl⟩
      (fun config pick ⟨hsound, haccounted⟩ ↦ ⟨sound_step config pick hsound,
        (accounted_step pair quantity config pick hsound).trans haccounted⟩) schedule
  rw [hinvariant.2, accounted_startUpdates]

/-- After a schedule of safe steps every object outside the map is zero. -/
theorem linked_runUpdates (workloads : List (List UpdateCall)) (schedule : List (ℕ × Move))
    (hsafe : Execution.StepsMeet (step SharedMeter.move) StoreReplacesUntouched
      (startUpdates workloads) schedule) : Linked (runUpdates workloads schedule) := by
  have hinvariant : Sound (runUpdates workloads schedule) ∧
      Linked (runUpdates workloads schedule) :=
    Execution.run_invariant_of_stepsMeet (fun config ↦ Sound config ∧ Linked config)
      ⟨sound_startUpdates workloads, linked_startUpdates workloads⟩
      (fun config pick hstore ⟨hsound, hlinked⟩ ↦ ⟨sound_step config pick hsound,
        linked_step config pick hsound hlinked hstore⟩) hsafe
  exact hinvariant.2

/-- With every worker finished, what is accounted is what the objects hold. -/
theorem accounted_of_finished (pair : Pair) (quantity : Quantity)
    (config : Config SharedMeter Worker) (hfinished : Finished config) :
    accounted pair quantity config = config.shared.amountFor pair quantity := by
  have hzero : (config.workers.map fun worker ↦ wrap64 (worker.pending pair quantity)).sum = 0 := by
    apply List.sum_eq_zero
    intro amount hamount
    obtain ⟨⟨calls, phase⟩, hworker, rfl⟩ := List.mem_map.mp hamount
    obtain rfl : calls = [] := hfinished _ hworker
    simp [Worker.pending]
  rw [accounted, total, hzero, add_zero]

/-- An object that is not the one in the map for a pair holds nothing for the pair. -/
theorem Linked.amountFor_eq_zero {config : Config SharedMeter Worker} (hlinked : Linked config)
    {object : ℕ} {counter : UsageCounter}
    (hcounter : config.shared.objects[object]? = some counter) (pair : Pair)
    (hslot : config.shared.slots.lookup (CounterKey.pack pair.1 pair.2) ≠ some object)
    (quantity : Quantity) : counter.amountFor pair quantity = 0 := by
  unfold UsageCounter.amountFor
  split
  case isTrue hpair =>
    rcases hlinked.unlinked object counter hcounter with hcurrent | hempty
    · rw [UsageCounter.key_eq_of_pair hpair] at hcurrent
      exact absurd hcurrent hslot
    · exact hempty quantity
  case isFalse => rfl

/-- When every object outside the map is zero, `getCounter` reads all that the objects hold. -/
theorem read_getCounter_snapshot {config : Config SharedMeter Worker} (hsound : Sound config)
    (hlinked : Linked config) (maxSubscribers : UInt32) (subscriberId : UInt32)
    (serviceId : UInt16) (prior : UsageCounter) (quantity : Quantity) :
    ((config.shared.snapshot maxSubscribers).getCounter subscriberId serviceId prior).read
        quantity =
      config.shared.amountFor (subscriberId, serviceId) quantity := by
  have hlookup := config.shared.lookup_snapshot maxSubscribers
    (CounterKey.pack subscriberId serviceId)
  unfold UBBMeter.getCounter SharedMeter.amountFor
  cases hslot : config.shared.slots.lookup (CounterKey.pack subscriberId serviceId) with
  | none =>
    have hzero : (config.shared.objects.map
        (UsageCounter.amountFor (subscriberId, serviceId) quantity)).sum = 0 := by
      apply List.sum_eq_zero
      intro amount hamount
      obtain ⟨counter, hcounter, rfl⟩ := List.mem_map.mp hamount
      obtain ⟨object, hobject⟩ := List.getElem?_of_mem hcounter
      exact hlinked.amountFor_eq_zero hobject (subscriberId, serviceId) (by simp [hslot]) quantity
    rw [hlookup, hslot, hzero]
    cases quantity <;> rfl
  | some object =>
    obtain ⟨counter, hcounter, hkey⟩ := hsound.slot _ object hslot
    have hpair : counter.pair = (subscriberId, serviceId) :=
      pack_eq_pack_iff.mp hkey
    have hsum := sum_map_eq_single (UsageCounter.amountFor (subscriberId, serviceId) quantity)
      hcounter fun index other hother hindex ↦
        hlinked.amountFor_eq_zero hother (subscriberId, serviceId)
          (by simpa [hslot] using Ne.symm hindex) quantity
    rw [hlookup, hslot, hsum, UsageCounter.amountFor, if_pos hpair]
    simp [SharedMeter.object, hcounter]

/-- **No lost update.** In every schedule whose stores replace only untouched counters, once all
calls have finished `getCounter` of every pair returns the totals of all the calls made for it. -/
theorem getCounter_runUpdates (workloads : List (List UpdateCall)) (schedule : List (ℕ × Move))
    (hsafe : Execution.StepsMeet (step SharedMeter.move) StoreReplacesUntouched
      (startUpdates workloads) schedule)
    (hfinished : Finished (runUpdates workloads schedule)) (maxSubscribers : UInt32)
    (subscriberId : UInt32) (serviceId : UInt16) (prior : UsageCounter) (quantity : Quantity) :
    ((((runUpdates workloads schedule).shared.snapshot maxSubscribers).getCounter subscriberId
        serviceId prior).read quantity).toNat =
      tally (UpdateCall.amountFor (subscriberId, serviceId) quantity) workloads.flatten %
        2 ^ 64 := by
  have hsound := sound_runUpdates workloads schedule
  have hlinked := linked_runUpdates workloads schedule hsafe
  rw [read_getCounter_snapshot hsound hlinked, ← accounted_of_finished _ _ _ hfinished,
    accounted_runUpdates, toNat_wrap64]

/-- One worker after the other: both updates are counted. -/
theorem getCounter_runUpdates_sequential :
    let workloads : List (List UpdateCall) := [[⟨1, 100, 100, true⟩], [⟨1, 100, 100, true⟩]]
    let schedule : List (ℕ × Move) :=
      [(0, .advance), (0, .advance), (0, .advance), (0, .advance), (0, .advance),
        (1, .advance), (1, .advance), (1, .reload), (1, .advance)]
    ((((runUpdates workloads schedule).shared.snapshot 1000).getCounter 1 100
        (UBBMeter.freshCounter 0 0 0)).read .uplinkBytes).toNat =
      tally (UpdateCall.amountFor (1, 100) .uplinkBytes) workloads.flatten % 2 ^ 64 :=
  getCounter_runUpdates _ _ (by decide +kernel) (by decide +kernel) 1000 1 100 _ .uplinkBytes

/-- Two workers miss on one pair before either stores: the second store drops the first worker's
update. -/
theorem concurrent_update_lost :
    let workloads : List (List UpdateCall) := [[⟨1, 100, 100, true⟩], [⟨1, 100, 100, true⟩]]
    let schedule : List (ℕ × Move) :=
      [(0, .advance), (1, .advance), (0, .advance), (0, .advance), (0, .advance), (0, .advance),
        (1, .advance), (1, .advance), (1, .advance), (1, .advance)]
    let final := runUpdates workloads schedule
    Finished final ∧
    tally (UpdateCall.amountFor (1, 100) .uplinkBytes) workloads.flatten = 200 ∧
    ((final.shared.snapshot 1000).getCounter 1 100
      (UBBMeter.freshCounter 0 0 0)).uplinkBytes = 100 := by
  decide +kernel

end VirtualServiceGateway.Metering
