import Mathlib.Algebra.Order.Group.Nat
import VirtualServiceGateway.Foundation.CollectedSum
import VirtualServiceGateway.Metering.MeterSnapshot
import VirtualServiceGateway.Metering.UninterruptedUpdate

/-!
# Totals read while counters are updated

`getTotalUsage` and `checkThreshold` load the byte counters one at a time, while other threads add
to them. As long as every pair that is updated has its counter, so that the map stays as it is, and
the bytes fit into 64 bits, a total lies between what the counters held when the call began and what
they hold when it ends, and a threshold decision is one that a total in between gives.
-/

namespace VirtualServiceGateway.Metering

open WrappingCounter Interleaving CollectedSum

/-- A byte counter: the counter object, and whether it counts uplink. -/
abbrev ByteCell := ℕ × Bool

def SharedMeter.load (meter : SharedMeter) (cell : ByteCell) : UInt64 :=
  if cell.2 then (meter.object cell.1).uplinkBytes else (meter.object cell.1).downlinkBytes

/-- The byte counters that a call has still to load, and their total so far. -/
structure ByteTotal where
  left : List ByteCell
  total : UInt64
  deriving DecidableEq, Repr

def ByteTotal.next (meter : SharedMeter) (loading : ByteTotal) : ByteTotal :=
  match loading.left with
  | [] => loading
  | cell :: left => ⟨left, loading.total + meter.load cell⟩

/-- A thread: it updates counters, adds up all bytes, or checks a threshold. -/
inductive MeterThread where
  | updating (worker : Worker)
  | totalling (loading : ByteTotal)
  | checking (object : ℕ) (thresholdBytes : UInt64) (loading : ByteTotal)
  | checked (breached : Bool)
  deriving DecidableEq, Repr

/-- The atomic add of a breach. -/
def UsageCounter.addBreach (counter : UsageCounter) : UsageCounter :=
  { counter with thresholdBreaches := counter.thresholdBreaches + 1 }

/-- The next step of a thread. -/
def MeterThread.advance (choice : Move) (meter : SharedMeter) :
    MeterThread → SharedMeter × MeterThread
  | .updating worker =>
      let (meter, worker) := SharedMeter.move choice meter worker
      (meter, .updating worker)
  | .totalling loading => (meter, .totalling (loading.next meter))
  | .checking object thresholdBytes loading =>
      if loading.left = [] then
        if thresholdBytes < loading.total then
          (meter.modify object UsageCounter.addBreach, .checked true)
        else (meter, .checked false)
      else (meter, .checking object thresholdBytes (loading.next meter))
  | .checked breached => (meter, .checked breached)

/-- Both byte counters of every object of a list. -/
def bothCells (objects : List ℕ) : List ByteCell :=
  objects.flatMap fun object ↦ [(object, true), (object, false)]

/-- `getTotalUsage` before its first load, for the order in which it visits the map. -/
def startTotal (visited : List (Σ _ : CounterKey, ℕ)) : MeterThread :=
  .totalling ⟨bothCells (visited.map Sigma.snd), 0⟩

/-- `checkThreshold` after its lookup. The two loads are made in either order. -/
def startCheck (meter : SharedMeter) (subscriberId : UInt32) (serviceId : UInt16)
    (thresholdBytes : UInt64) (uplinkFirst : Bool) : MeterThread :=
  match meter.slots.lookup (CounterKey.pack subscriberId serviceId) with
  | none => .checked false
  | some object =>
      .checking object thresholdBytes ⟨[(object, uplinkFirst), (object, !uplinkFirst)], 0⟩

/-- The threads after a schedule. -/
def runThreads (start : Config SharedMeter MeterThread) (schedule : List (ℕ × Move)) :
    Config SharedMeter MeterThread :=
  Interleaving.run MeterThread.advance start schedule

/-! ## Room for the bytes -/

/-- Bytes of all counter objects. -/
def SharedMeter.storedBytes (meter : SharedMeter) : ℕ := tally UsageCounter.bothBytes meter.objects

/-- Bytes that a worker has still to add. -/
def Worker.owedBytes : Worker → ℕ
  | ⟨_ :: rest, .addPacket _⟩ => tally (fun call ↦ call.bytes.toNat) rest
  | ⟨calls, _⟩ => tally (fun call ↦ call.bytes.toNat) calls

def MeterThread.owedBytes : MeterThread → ℕ
  | .updating worker => worker.owedBytes
  | _ => 0

/-- Every pair that the thread updates has its counter, and what it points to exists. -/
def MeterThread.Ready (meter : SharedMeter) : MeterThread → Prop
  | .updating worker =>
      (∀ call ∈ worker.calls, ∃ object, meter.slots.lookup call.key = some object) ∧
        (worker.phase = .find ∨ ∃ object < meter.objects.length,
          worker.phase = .addBytes object ∨ worker.phase = .addPacket object)
  | _ => True

/-- Every slot points to an object of its own, the threads update only pairs that have a counter,
and the bytes fit into 64 bits. -/
structure Steady (config : Config SharedMeter MeterThread) : Prop where
  slots : ∀ entry ∈ config.shared.slots.entries, entry.2 < config.shared.objects.length
  apart : (config.shared.slots.entries.map Sigma.snd).Nodup
  ready : ∀ thread ∈ config.workers, thread.Ready config.shared
  room : total SharedMeter.storedBytes MeterThread.owedBytes config < 2 ^ 64

/-! ## What one step can do -/

/-- What the byte counters hold. -/
def SharedMeter.cells (meter : SharedMeter) (cell : ByteCell) : ℕ := (meter.load cell).toNat

/-- The map is as it was, no byte counter has less than before, and all together have what was
added. -/
structure Grown (before after : SharedMeter) (added : ℕ) : Prop where
  slots : after.slots = before.slots
  length : after.objects.length = before.objects.length
  stored : after.storedBytes = before.storedBytes + added
  cells : ∀ cell, before.cells cell ≤ after.cells cell

theorem grown_self (meter : SharedMeter) : Grown meter meter 0 := ⟨rfl, rfl, rfl, fun _ ↦ le_rfl⟩

theorem grown_modify {meter : SharedMeter} {place : ℕ} {counter : UsageCounter}
    (hcounter : meter.objects[place]? = some counter) (operation : UsageCounter → UsageCounter)
    {added : ℕ} (hbytes : (operation counter).bothBytes = counter.bothBytes + added)
    (hup : counter.uplinkBytes.toNat ≤ (operation counter).uplinkBytes.toNat)
    (hdown : counter.downlinkBytes.toNat ≤ (operation counter).downlinkBytes.toNat) :
    Grown meter (meter.modify place operation) added := by
  have hobjects : (meter.modify place operation).objects =
      meter.objects.set place (operation counter) := by
    simp only [SharedMeter.modify, hcounter]
  constructor
  · exact slots_modify meter place operation
  · rw [hobjects, List.length_set]
  · have hset := sum_map_set UsageCounter.bothBytes hcounter (operation counter)
    unfold SharedMeter.storedBytes tally
    rw [hobjects]
    omega
  · intro cell
    have hobject : (meter.modify place operation).object cell.1 =
        if cell.1 = place then operation counter else meter.object cell.1 := by
      rw [SharedMeter.object, objects_modify hcounter]
      split <;> rfl
    unfold SharedMeter.cells SharedMeter.load
    rw [hobject]
    by_cases hplace : cell.1 = place
    · have hbefore : meter.object cell.1 = counter := by
        rw [hplace, SharedMeter.object, hcounter, Option.getD_some]
      rw [if_pos hplace, hbefore]
      split
      · exact hup
      · exact hdown
    · rw [if_neg hplace]

/-- An operation that leaves the bytes of every counter. -/
theorem grown_modify_of_same (meter : SharedMeter) (place : ℕ)
    {operation : UsageCounter → UsageCounter}
    (hup : ∀ counter, (operation counter).uplinkBytes = counter.uplinkBytes)
    (hdown : ∀ counter, (operation counter).downlinkBytes = counter.downlinkBytes) :
    Grown meter (meter.modify place operation) 0 := by
  cases hcounter : meter.objects[place]? with
  | none =>
    have hsame : meter.modify place operation = meter := by
      simp only [SharedMeter.modify, hcounter]
    rw [hsame]
    exact grown_self meter
  | some counter =>
    have hbytes : (operation counter).bothBytes = counter.bothBytes + 0 := by
      rw [UsageCounter.bothBytes, hup, hdown, UsageCounter.bothBytes, Nat.add_zero]
    exact grown_modify hcounter operation hbytes (by rw [hup]) (by rw [hdown])

/-- The atomic add of the bytes, where there is room for them. -/
theorem grown_addBytes {meter : SharedMeter} {place : ℕ} (hplace : place < meter.objects.length)
    (call : UpdateCall) (hroom : meter.storedBytes + call.bytes.toNat < 2 ^ 64) :
    Grown meter (meter.modify place (UsageCounter.addBytes · call)) call.bytes.toNat := by
  have hcounter := List.getElem?_eq_getElem hplace
  generalize meter.objects[place] = counter at hcounter
  have hstored : counter.bothBytes ≤ meter.storedBytes :=
    List.single_le_sum (fun _ _ ↦ Nat.zero_le _) _
      (List.mem_map_of_mem (List.mem_of_getElem? hcounter))
  have hadd (bytes : UInt64) (hbytes : bytes.toNat ≤ counter.bothBytes) :
      (bytes + call.bytes.toUInt64).toNat = bytes.toNat + call.bytes.toNat := by
    rw [UInt64.toNat_add, UInt32.toNat_toUInt64]
    exact Nat.mod_eq_of_lt (by omega)
  have hup := hadd counter.uplinkBytes (Nat.le_add_right ..)
  have hdown := hadd counter.downlinkBytes (Nat.le_add_left ..)
  cases huplink : call.uplink with
  | true =>
    have hcall : counter.addBytes call =
        { counter with uplinkBytes := counter.uplinkBytes + call.bytes.toUInt64 } := if_pos huplink
    apply grown_modify hcounter
    · rw [hcall, UsageCounter.bothBytes, hup, UsageCounter.bothBytes]
      exact Nat.add_right_comm ..
    · rw [hcall, hup]
      exact Nat.le_add_right ..
    · rw [hcall]
  | false =>
    have hcall : counter.addBytes call =
        { counter with downlinkBytes := counter.downlinkBytes + call.bytes.toUInt64 } :=
      if_neg (by rw [huplink]; exact Bool.false_ne_true)
    apply grown_modify hcounter
    · rw [hcall, UsageCounter.bothBytes, hdown, UsageCounter.bothBytes]
      exact (Nat.add_assoc ..).symm
    · rw [hcall]
    · rw [hcall, hdown]
      exact Nat.le_add_right ..

/-- What a step does: it grows the counters by bytes that the thread owed, and the thread stays
ready. -/
structure Stepped (meter : SharedMeter) (thread : MeterThread) (next : SharedMeter × MeterThread) :
    Prop where
  grown : ∃ added, Grown meter next.1 added ∧ next.2.owedBytes + added = thread.owedBytes
  ready : next.2.Ready next.1

/-- Whether a thread is ready depends on the map and on which objects there are. -/
theorem MeterThread.Ready.of_grown {meter meter' : SharedMeter} {thread : MeterThread} {added : ℕ}
    (hready : thread.Ready meter) (hgrown : Grown meter meter' added) : thread.Ready meter' := by
  cases thread with
  | updating worker =>
    unfold MeterThread.Ready at hready ⊢
    rwa [hgrown.slots, hgrown.length]
  | totalling loading => trivial
  | checking object thresholdBytes loading => trivial
  | checked breached => trivial

theorem Worker.owedBytes_find (calls : List UpdateCall) :
    Worker.owedBytes ⟨calls, .find⟩ = tally (fun call ↦ call.bytes.toNat) calls := by
  cases calls <;> rfl

variable {meter : SharedMeter}

/-- A worker all of whose pairs have their counters never stores one. -/
theorem stepped_updating (hslots : ∀ entry ∈ meter.slots.entries, entry.2 < meter.objects.length)
    (choice : Move) (worker : Worker) (hready : (MeterThread.updating worker).Ready meter)
    (hroom : meter.storedBytes + worker.owedBytes < 2 ^ 64) :
    Stepped meter (.updating worker) (MeterThread.advance choice meter (.updating worker)) := by
  have hkeep (moved : Worker) (howed : moved.owedBytes = worker.owedBytes)
      (hmoved : (MeterThread.updating moved).Ready meter) :
      Stepped meter (.updating worker) (meter, .updating moved) :=
    ⟨⟨0, grown_self meter, howed⟩, hmoved⟩
  obtain ⟨calls, phase⟩ := worker
  cases calls with
  | nil => cases choice <;> exact hkeep _ rfl hready
  | cons call rest =>
    obtain ⟨hcalls, hphase⟩ := hready
    obtain ⟨object, hslot⟩ := hcalls call List.mem_cons_self
    have hobject : object < meter.objects.length :=
      hslots ⟨call.key, object⟩ (AList.mem_lookup_iff.mp hslot)
    have hrest := fun other hother ↦ hcalls other (List.mem_cons_of_mem call hother)
    have hfound (phase : Phase) (held : phase = .addBytes object ∨ phase = .addPacket object) :
        (MeterThread.updating ⟨call :: rest, phase⟩).Ready meter :=
      ⟨hcalls, .inr ⟨object, hobject, held⟩⟩
    rcases hphase with hfind | ⟨place, hplace, hbytes | hpacket⟩
    · -- the lookup finds the counter
      obtain rfl : phase = .find := hfind
      cases choice with
      | advance =>
        simp only [MeterThread.advance, SharedMeter.move, hslot]
        exact hkeep ⟨call :: rest, .addBytes object⟩ rfl (hfound _ (.inl rfl))
      | reload => exact hkeep _ rfl ⟨hcalls, .inl rfl⟩
    · -- the bytes are added
      obtain rfl : phase = .addBytes place := hbytes
      cases choice with
      | advance =>
        have howed : Worker.owedBytes ⟨call :: rest, .addBytes place⟩ =
            call.bytes.toNat + Worker.owedBytes ⟨call :: rest, .addPacket place⟩ := rfl
        have hgrown := grown_addBytes hplace call (by omega)
        have hnext : (MeterThread.updating ⟨call :: rest, .addPacket place⟩).Ready meter :=
          ⟨hcalls, .inr ⟨place, hplace, .inr rfl⟩⟩
        exact ⟨⟨call.bytes.toNat, hgrown, (Nat.add_comm ..).trans howed.symm⟩,
          hnext.of_grown hgrown⟩
      | reload =>
        simp only [MeterThread.advance, SharedMeter.move, hslot, Option.getD_some]
        exact hkeep ⟨call :: rest, .addBytes object⟩ rfl (hfound _ (.inl rfl))
    · -- the packet is added
      obtain rfl : phase = .addPacket place := hpacket
      cases choice with
      | advance =>
        have hgrown : Grown meter (meter.modify place (UsageCounter.addPacket · call)) 0 := by
          apply grown_modify_of_same
          · intro counter
            unfold UsageCounter.addPacket
            split <;> rfl
          · intro counter
            unfold UsageCounter.addPacket
            split <;> rfl
        have hnext : (MeterThread.updating ⟨rest, .find⟩).Ready meter := ⟨hrest, .inl rfl⟩
        exact ⟨⟨0, hgrown, Worker.owedBytes_find rest⟩, hnext.of_grown hgrown⟩
      | reload =>
        simp only [MeterThread.advance, SharedMeter.move, hslot, Option.getD_some]
        exact hkeep ⟨call :: rest, .addPacket object⟩ rfl (hfound _ (.inr rfl))

/-- The step lemma: every thread's step grows the counters by what the thread owed. -/
theorem stepped_advance (hslots : ∀ entry ∈ meter.slots.entries, entry.2 < meter.objects.length)
    (choice : Move) {thread : MeterThread} (hready : thread.Ready meter)
    (hroom : meter.storedBytes + thread.owedBytes < 2 ^ 64) :
    Stepped meter thread (MeterThread.advance choice meter thread) := by
  have hkeep (thread next : MeterThread) (howed : next.owedBytes = thread.owedBytes)
      (hnext : next.Ready meter) : Stepped meter thread (meter, next) :=
    ⟨⟨0, grown_self meter, howed⟩, hnext⟩
  cases thread with
  | updating worker => exact stepped_updating hslots choice worker hready hroom
  | totalling loading => exact hkeep (.totalling loading) _ rfl trivial
  | checking object thresholdBytes loading =>
    rw [MeterThread.advance]
    split
    · split
      · exact ⟨⟨0, grown_modify_of_same meter object (fun _ ↦ rfl) (fun _ ↦ rfl), rfl⟩, trivial⟩
      · exact hkeep (.checking object thresholdBytes loading) _ rfl trivial
    · exact hkeep (.checking object thresholdBytes loading) _ rfl trivial
  | checked breached => exact hkeep (.checked breached) _ rfl trivial

/-! ## Runs -/

section Runs

variable {config : Config SharedMeter MeterThread}

theorem Steady.thread_room (hsteady : Steady config) {thread : MeterThread}
    (hthread : thread ∈ config.workers) :
    config.shared.storedBytes + thread.owedBytes < 2 ^ 64 := by
  have howed : thread.owedBytes ≤ (config.workers.map MeterThread.owedBytes).sum :=
    List.single_le_sum (fun _ _ ↦ Nat.zero_le _) _ (List.mem_map_of_mem hthread)
  have hroom := hsteady.room
  unfold total at hroom
  omega

theorem Steady.stepped (hsteady : Steady config) (choice : Move) {thread : MeterThread}
    (hthread : thread ∈ config.workers) :
    Stepped config.shared thread (MeterThread.advance choice config.shared thread) :=
  stepped_advance hsteady.slots choice (hsteady.ready thread hthread)
    (hsteady.thread_room hthread)

/-- A step keeps the map and the room. -/
theorem Steady.step (hsteady : Steady config) (pick : ℕ × Move) :
    Steady (Interleaving.step MeterThread.advance config pick) ∧
      ∃ added, Grown config.shared
        (Interleaving.step MeterThread.advance config pick).shared added := by
  apply step_induction config pick (fun next ↦
    Steady next ∧ ∃ added, Grown config.shared next.shared added)
  · exact ⟨hsteady, 0, grown_self _⟩
  · intro thread meter moved hworker heq
    have hthread := List.mem_of_getElem? hworker
    have hstepped := hsteady.stepped pick.2 hthread
    rw [heq] at hstepped
    obtain ⟨⟨added, hgrown, howed⟩, hready⟩ := hstepped
    refine ⟨⟨?_, ?_, ?_, ?_⟩, added, hgrown⟩
    · dsimp only
      rw [hgrown.slots, hgrown.length]
      exact hsteady.slots
    · dsimp only
      rw [hgrown.slots]
      exact hsteady.apart
    · exact forall_workers_set _ hready fun other hother ↦
        (hsteady.ready other hother).of_grown hgrown
    · have hstored : meter.storedBytes = config.shared.storedBytes + added := hgrown.stored
      have hpaid : moved.owedBytes + added = thread.owedBytes := howed
      rw [total_set SharedMeter.storedBytes MeterThread.owedBytes hworker meter moved (by omega)]
      exact hsteady.room

/-- **Reading in a run.** What a thread's own steps keep, as long as the bytes have room, and what
growing counters keep, holds of the thread through the whole run. -/
theorem Steady.run_thread {start : Config SharedMeter MeterThread} (hsteady : Steady start)
    (property : SharedMeter → MeterThread → Prop)
    (hown : ∀ config thread choice, Steady config → thread ∈ config.workers →
      config.shared.slots = start.shared.slots → property config.shared thread →
      property (MeterThread.advance choice config.shared thread).1
        (MeterThread.advance choice config.shared thread).2)
    (hothers : ∀ meter meter' thread added, Grown meter meter' added → property meter thread →
      property meter' thread)
    {place : ℕ} {thread : MeterThread} (hthread : start.workers[place]? = some thread)
    (hstart : property start.shared thread) (schedule : List (ℕ × Move)) :
    Steady (runThreads start schedule) ∧
      (runThreads start schedule).shared.slots = start.shared.slots ∧
      ∃ moved, (runThreads start schedule).workers[place]? = some moved ∧
        property (runThreads start schedule).shared moved := by
  induction schedule using List.reverseRecOn with
  | nil => exact ⟨hsteady, rfl, thread, hthread, hstart⟩
  | append_singleton schedule pick ih =>
    obtain ⟨hsteady', hslots, moved, hmoved, hproperty⟩ := ih
    have hlast : runThreads start (schedule ++ [pick]) =
        Interleaving.step MeterThread.advance (runThreads start schedule) pick :=
      Execution.run_concat ..
    obtain ⟨hsteadyNext, added, hgrown⟩ := hsteady'.step pick
    rw [hlast]
    refine ⟨hsteadyNext, hgrown.slots.trans hslots, _, getElem?_step hmoved pick, ?_⟩
    by_cases hplace : pick.1 = place
    · rw [if_pos hplace]
      rw [← hplace] at hmoved
      rw [step_of_worker hmoved]
      exact hown _ moved pick.2 hsteady' (List.mem_of_getElem? hmoved) hslots hproperty
    · rw [if_neg hplace]
      exact hothers _ _ moved added hgrown hproperty

end Runs

/-- The steps that a reading thread has still to make. -/
def MeterThread.untilRead : MeterThread → ℕ
  | .totalling loading => loading.left.length
  | .checking _ _ loading => loading.left.length + 1
  | _ => 0

theorem length_left_next (meter : SharedMeter) (loading : ByteTotal) :
    (loading.next meter).left.length = loading.left.length - 1 := by
  obtain ⟨left, total⟩ := loading
  cases left <;> rfl

theorem untilRead_advance (choice : Move) (meter : SharedMeter) (thread : MeterThread) :
    (MeterThread.advance choice meter thread).2.untilRead ≤ thread.untilRead - 1 := by
  cases thread with
  | updating worker => exact Nat.zero_le _
  | totalling loading => exact (length_left_next meter loading).le
  | checking object thresholdBytes loading =>
    rw [MeterThread.advance]
    by_cases hleft : loading.left = []
    · rw [if_pos hleft]
      split <;> exact Nat.zero_le _
    · have hpos := List.length_pos_iff.mpr hleft
      rw [if_neg hleft, MeterThread.untilRead, MeterThread.untilRead, length_left_next]
      omega
  | checked breached => exact Nat.zero_le _

/-- A reading thread that has had enough turns has read everything. -/
theorem untilRead_runThreads {start : Config SharedMeter MeterThread} {place : ℕ}
    {thread moved : MeterThread} (hthread : start.workers[place]? = some thread)
    {schedule : List (ℕ × Move)}
    (hmoved : (runThreads start schedule).workers[place]? = some moved)
    (hturns : thread.untilRead ≤ schedule.countP fun pick ↦ pick.1 = place) :
    moved.untilRead = 0 := by
  obtain ⟨-, last, hlast, hmeasure⟩ := run_progress (fun _ ↦ True) MeterThread.untilRead
    (fun _ _ _ _ ↦ trivial) (fun choice meter thread _ ↦ untilRead_advance choice meter thread)
    trivial hthread schedule
  obtain rfl : last = moved := Option.some.inj (hlast.symm.trans hmoved)
  omega

/-! ## Which cells are read -/

theorem sumOver_bothCells (meter : SharedMeter) (objects : List ℕ) :
    sumOver meter.cells (bothCells objects) =
      tally (fun object ↦ (meter.object object).bothBytes) objects := by
  induction objects with
  | nil => rfl
  | cons object objects ih =>
    have hcons : sumOver meter.cells (bothCells (object :: objects)) =
        meter.cells (object, true) + (meter.cells (object, false) +
          sumOver meter.cells (bothCells objects)) := rfl
    rw [hcons, ih, tally_cons, ← Nat.add_assoc]
    rfl

/-- Distinct objects hold no more than all objects. -/
theorem tally_objects_le (meter : SharedMeter) {objects : List ℕ} (hdistinct : objects.Nodup)
    (hpresent : ∀ object ∈ objects, object < meter.objects.length) :
    tally (fun object ↦ (meter.object object).bothBytes) objects ≤ meter.storedBytes := by
  have hall : (List.range meter.objects.length).map (fun object ↦ meter.object object) =
      meter.objects := by
    apply List.ext_getElem
    · rw [List.length_map, List.length_range]
    · intro index _ hindex
      rw [List.getElem_map, List.getElem_range, SharedMeter.object,
        List.getElem?_eq_getElem hindex, Option.getD_some]
  have hsubset : objects ⊆ List.range meter.objects.length :=
    fun object hobject ↦ List.mem_range.mpr (hpresent object hobject)
  obtain ⟨arranged, hperm, hsublist⟩ := List.subperm_of_subset hdistinct hsubset
  calc
    _ = tally (fun object ↦ (meter.object object).bothBytes) arranged :=
      (tally_perm _ hperm).symm
    _ ≤ tally (fun object ↦ (meter.object object).bothBytes)
          (List.range meter.objects.length) :=
      (hsublist.map _).sum_le_sum fun _ _ ↦ Nat.zero_le _
    _ = tally UsageCounter.bothBytes
          ((List.range meter.objects.length).map fun object ↦ meter.object object) := by
      rw [tally, tally, List.map_map]
      rfl
    _ = meter.storedBytes := by rw [hall, SharedMeter.storedBytes]

/-- The objects of the map. -/
def SharedMeter.mapped (meter : SharedMeter) : List ℕ := meter.slots.entries.map Sigma.snd

/-- Visited objects of the map hold less than `2 ^ 64`. -/
theorem Steady.cells_lt {config : Config SharedMeter MeterThread} (hsteady : Steady config)
    {objects : List ℕ} (hvisited : objects.Subperm config.shared.mapped) :
    sumOver config.shared.cells (bothCells objects) < 2 ^ 64 := by
  obtain ⟨arranged, hperm, hsublist⟩ := hvisited
  have hdistinct : objects.Nodup := hperm.nodup_iff.mp (hsublist.nodup hsteady.apart)
  have hpresent : ∀ object ∈ objects, object < config.shared.objects.length := by
    intro object hobject
    obtain ⟨entry, hentry, rfl⟩ := List.mem_map.mp (hsublist.subset (hperm.mem_iff.mpr hobject))
    exact hsteady.slots entry hentry
  have hle := tally_objects_le config.shared hdistinct hpresent
  have hroom := hsteady.room
  unfold total at hroom
  rw [sumOver_bothCells]
  omega

/-- A load adds what the cell holds, where the cells have room. -/
theorem collected_next {meter : SharedMeter} {list : List ByteCell} {floor : ℕ}
    {loading : ByteTotal}
    (hcollected : Collected meter.cells list loading.left floor loading.total.toNat)
    (hroom : sumOver meter.cells list < 2 ^ 64) :
    Collected meter.cells list (loading.next meter).left floor
      (loading.next meter).total.toNat := by
  obtain ⟨left, total⟩ := loading
  cases left with
  | nil => exact hcollected
  | cons cell left =>
    have hload := Collected.load hcollected
    have hle : total.toNat + meter.cells cell + sumOver meter.cells left ≤
        sumOver meter.cells list := hload.add_le
    have hcell : (meter.load cell).toNat = meter.cells cell := rfl
    have hsum : (total + meter.load cell).toNat = total.toNat + meter.cells cell := by
      rw [UInt64.toNat_add, hcell]
      exact Nat.mod_eq_of_lt (by omega)
    rw [ByteTotal.next, hsum]
    exact hload

/-! ## One counter, one update, two readers -/

def oneCounter : SharedMeter :=
  ⟨(∅ : AList fun _ : CounterKey ↦ ℕ).insert (CounterKey.pack 7 3) 0,
    [UBBMeter.freshCounter 7 3 0]⟩

/-- A worker with one update, a total, and a check for more than 50 bytes. -/
def threeThreads : Config SharedMeter MeterThread :=
  ⟨oneCounter, [.updating ⟨[⟨7, 3, 100, false⟩], .find⟩, startTotal oneCounter.slots.entries,
    startCheck oneCounter 7 3 50 true]⟩

/-- The uplink counter is read, then the bytes are added, then the downlink counter is read. -/
def updateBetweenLoads : List (ℕ × Move) :=
  [(1, .advance), (2, .advance), (0, .advance), (0, .advance), (1, .advance), (2, .advance),
    (2, .advance)]

theorem steady_threeThreads : Steady threeThreads where
  slots := by decide +kernel
  apart := by decide +kernel
  ready := by
    have hcounter : ∀ call ∈ [UpdateCall.mk 7 3 100 false],
        ∃ object, oneCounter.slots.lookup call.key = some object := by
      intro call hcall
      rw [List.mem_singleton.mp hcall]
      exact ⟨0, by decide +kernel⟩
    intro thread hthread
    simp only [threeThreads, List.mem_cons, List.not_mem_nil, or_false] at hthread
    rcases hthread with rfl | rfl | rfl
    · exact ⟨hcounter, .inl rfl⟩
    · trivial
    · have hchecks : startCheck oneCounter 7 3 50 true =
          .checking 0 50 ⟨[(0, true), (0, false)], 0⟩ := by decide +kernel
      rw [hchecks]
      trivial
  room := by decide +kernel

/-! ## Totals -/

/-- A thread that adds up the cells. -/
def Totals (list : List ByteCell) (floor : ℕ) (meter : SharedMeter) : MeterThread → Prop
  | .totalling loading => Collected meter.cells list loading.left floor loading.total.toNat
  | _ => False

theorem totals_advance {list : List ByteCell} {floor : ℕ} {meter : SharedMeter}
    {thread : MeterThread} (choice : Move) (htotals : Totals list floor meter thread)
    (hroom : sumOver meter.cells list < 2 ^ 64) :
    Totals list floor (MeterThread.advance choice meter thread).1
      (MeterThread.advance choice meter thread).2 := by
  cases thread with
  | totalling loading => exact collected_next htotals hroom
  | _ => exact htotals.elim

theorem Totals.grow {list : List ByteCell} {floor added : ℕ} {meter meter' : SharedMeter}
    {thread : MeterThread} (htotals : Totals list floor meter thread)
    (hgrown : Grown meter meter' added) : Totals list floor meter' thread := by
  cases thread with
  | totalling loading => exact Collected.grow htotals hgrown.cells
  | _ => exact htotals.elim

theorem Steady.toNat_getTotalUsage {config : Config SharedMeter MeterThread}
    (hsteady : Steady config) (order : IterationOrder) (maxSubscribers : UInt32) :
    ((config.shared.snapshot maxSubscribers).getTotalUsage order).toNat =
      sumOver config.shared.cells (bothCells config.shared.mapped) := by
  have hentries : tally (fun entry ↦ entry.2.bothBytes)
      (config.shared.snapshot maxSubscribers).counters.entries =
        tally (fun object ↦ (config.shared.object object).bothBytes) config.shared.mapped := by
    simp only [tally, SharedMeter.snapshot, SharedMeter.mapped, List.map_map]
    rfl
  have hroom := hsteady.cells_lt (List.Subperm.refl _)
  rw [sumOver_bothCells] at hroom ⊢
  rw [getTotalUsage_eq, toNat_wrap64, hentries, Nat.mod_eq_of_lt hroom]

/-- **A total lies in between.** Whatever other threads add meanwhile, `getTotalUsage` returns once
it has made its loads, at least what it would have returned alone when it began, and at most what it
would return alone when it ends. -/
theorem total_between {start : Config SharedMeter MeterThread} (hsteady : Steady start)
    {visited : List (Σ _ : CounterKey, ℕ)} (hvisited : visited.Perm start.shared.slots.entries)
    {place : ℕ} (hreader : start.workers[place]? = some (startTotal visited))
    {schedule : List (ℕ × Move)}
    (hturns : (startTotal visited).untilRead ≤ schedule.countP fun pick ↦ pick.1 = place)
    (order : IterationOrder) (maxSubscribers : UInt32) :
    ∃ total, (runThreads start schedule).workers[place]? = some (.totalling ⟨[], total⟩) ∧
      (start.shared.snapshot maxSubscribers).getTotalUsage order ≤ total ∧
      total ≤ ((runThreads start schedule).shared.snapshot maxSubscribers).getTotalUsage order := by
  have hobjects : (visited.map Sigma.snd).Perm start.shared.mapped := hvisited.map _
  unfold startTotal at hreader hturns
  generalize visited.map Sigma.snd = objects at hobjects hreader hturns
  have hsame (meter : SharedMeter) (hslots : meter.slots = start.shared.slots) :
      sumOver meter.cells (bothCells objects) =
        sumOver meter.cells (bothCells meter.mapped) := by
    rw [sumOver_bothCells, sumOver_bothCells, SharedMeter.mapped, hslots]
    exact tally_perm _ hobjects
  have hbegins : Totals (bothCells objects) (sumOver start.shared.cells (bothCells objects))
      start.shared (.totalling ⟨bothCells objects, 0⟩) := Collected.start _ _
  obtain ⟨hend, hslots, moved, hmoved, htotals⟩ := hsteady.run_thread
    (Totals (bothCells objects) (sumOver start.shared.cells (bothCells objects)))
    (fun config thread choice hsteady' _ hslots htotals ↦ totals_advance choice htotals (by
      rw [hsame config.shared hslots]
      exact hsteady'.cells_lt (List.Subperm.refl _)))
    (fun _ _ _ _ hgrown htotals ↦ htotals.grow hgrown) hreader hbegins schedule
  have hread := untilRead_runThreads hreader hmoved hturns
  cases moved with
  | totalling loading =>
    obtain ⟨left, total⟩ := loading
    obtain rfl : left = [] := List.length_eq_zero_iff.mp hread
    obtain ⟨hfloor, hceiling⟩ := Collected.done htotals
    refine ⟨total, hmoved, ?_⟩
    rw [UInt64.le_iff_toNat_le, UInt64.le_iff_toNat_le, hsteady.toNat_getTotalUsage,
      hend.toNat_getTotalUsage, ← hsame _ rfl, ← hsame _ hslots]
    exact ⟨hfloor, hceiling⟩
  | _ => exact htotals.elim

/-- The update comes between the two loads. -/
theorem total_meets_update :
    ∃ total, (runThreads threeThreads updateBetweenLoads).workers[1]? =
        some (.totalling ⟨[], total⟩) ∧
      (threeThreads.shared.snapshot 10).getTotalUsage ⟨AList.entries, fun _ ↦ .refl _⟩ ≤ total ∧
      total ≤ ((runThreads threeThreads updateBetweenLoads).shared.snapshot 10).getTotalUsage
        ⟨AList.entries, fun _ ↦ .refl _⟩ :=
  have hreader : threeThreads.workers[1]? = some (startTotal oneCounter.slots.entries) := rfl
  have hturns : (startTotal oneCounter.slots.entries).untilRead ≤
      updateBetweenLoads.countP fun pick ↦ pick.1 = 1 := by decide +kernel
  total_between steady_threeThreads (.refl _) hreader hturns _ _

/-! ## Threshold checks -/

/-- A thread that checks the threshold, or has decided. -/
def Decides (thresholdBytes : UInt64) (list : List ByteCell) (floor : ℕ) (meter : SharedMeter) :
    MeterThread → Prop
  | .checking _ threshold loading => threshold = thresholdBytes ∧
      Collected meter.cells list loading.left floor loading.total.toNat
  | .checked breached =>
      (breached = true → thresholdBytes.toNat < sumOver meter.cells list) ∧
        (thresholdBytes.toNat < floor → breached = true)
  | _ => False

/-- Deciding, and the steps before it. -/
theorem decides_advance {thresholdBytes : UInt64} {list : List ByteCell} {floor : ℕ}
    {meter : SharedMeter} {thread : MeterThread} (choice : Move)
    (hdecides : Decides thresholdBytes list floor meter thread)
    (hroom : sumOver meter.cells list < 2 ^ 64) :
    Decides thresholdBytes list floor (MeterThread.advance choice meter thread).1
      (MeterThread.advance choice meter thread).2 := by
  cases thread with
  | checking object threshold loading =>
    obtain ⟨rfl, hcollected⟩ := hdecides
    rw [MeterThread.advance]
    by_cases hleft : loading.left = []
    · rw [if_pos hleft]
      rw [hleft] at hcollected
      obtain ⟨hfloor, hceiling⟩ := hcollected.done
      by_cases hbreach : threshold < loading.total
      · have hgrown : Grown meter (meter.modify object UsageCounter.addBreach) 0 :=
          grown_modify_of_same meter object (fun _ ↦ rfl) fun _ ↦ rfl
        have hnow := sumOver_mono hgrown.cells list
        rw [if_pos hbreach]
        refine ⟨fun _ ↦ ?_, fun _ ↦ rfl⟩
        exact (UInt64.lt_iff_toNat_lt.mp hbreach).trans_le (hceiling.trans hnow)
      · rw [if_neg hbreach]
        rw [UInt64.lt_iff_toNat_lt] at hbreach
        exact ⟨fun h ↦ (by cases h), fun habove ↦ absurd (habove.trans_le hfloor) hbreach⟩
    · rw [if_neg hleft]
      exact ⟨rfl, collected_next hcollected hroom⟩
  | checked breached => exact hdecides
  | _ => exact hdecides.elim

theorem Decides.grow {thresholdBytes : UInt64} {list : List ByteCell} {floor added : ℕ}
    {meter meter' : SharedMeter} {thread : MeterThread}
    (hdecides : Decides thresholdBytes list floor meter thread)
    (hgrown : Grown meter meter' added) : Decides thresholdBytes list floor meter' thread := by
  cases thread with
  | checking object threshold loading => exact ⟨hdecides.1, hdecides.2.grow hgrown.cells⟩
  | checked breached =>
    exact ⟨fun h ↦ (hdecides.1 h).trans_le (sumOver_mono hgrown.cells list), hdecides.2⟩
  | _ => exact hdecides.elim

/-- Both byte counters of an object, in either order. -/
theorem sumOver_eitherFirst (meter : SharedMeter) (object : ℕ) (uplinkFirst : Bool) :
    sumOver meter.cells [(object, uplinkFirst), (object, !uplinkFirst)] =
      (meter.object object).bothBytes := by
  have hboth : sumOver meter.cells [(object, true), (object, false)] =
      (meter.object object).bothBytes := sumOver_bothCells meter [object]
  cases uplinkFirst with
  | true => exact hboth
  | false =>
    rw [← hboth]
    exact ((List.Perm.swap _ _ _).map _).sum_eq

theorem Steady.object_lt {config : Config SharedMeter MeterThread} (hsteady : Steady config)
    {key : CounterKey} {object : ℕ} (hslot : config.shared.slots.lookup key = some object) :
    (config.shared.object object).bothBytes < 2 ^ 64 := by
  have hmapped : [object].Subperm config.shared.mapped :=
    List.singleton_subperm_iff.mpr (List.mem_map_of_mem (AList.mem_lookup_iff.mp hslot))
  have hroom := hsteady.cells_lt hmapped
  rwa [sumOver_bothCells, tally_cons, tally_nil, Nat.add_zero] at hroom

/-- A check without other threads compares what the object of the pair holds. -/
theorem Steady.checkThreshold_iff {config : Config SharedMeter MeterThread}
    (hsteady : Steady config) {subscriberId : UInt32} {serviceId : UInt16} {object : ℕ}
    (hslot : config.shared.slots.lookup (CounterKey.pack subscriberId serviceId) = some object)
    (maxSubscribers : UInt32) (thresholdBytes : UInt64) :
    ((config.shared.snapshot maxSubscribers).checkThreshold subscriberId serviceId
        thresholdBytes).1 = true ↔
      thresholdBytes.toNat < (config.shared.object object).bothBytes := by
  have hroom := hsteady.object_lt hslot
  unfold UsageCounter.bothBytes at hroom ⊢
  have hsum := Nat.mod_eq_of_lt hroom
  rw [← UInt64.toNat_add] at hsum
  rw [← hsum, ← UInt64.lt_iff_toNat_lt, UBBMeter.checkThreshold, SharedMeter.lookup_snapshot, hslot,
    Option.map_some]
  dsimp only
  split
  case isTrue hbreach => exact iff_of_true rfl hbreach
  case isFalse hbelow => exact iff_of_false Bool.false_ne_true hbelow

/-- A check of a pair without a counter reports nothing. -/
theorem checkThreshold_of_lookup_eq_none {meter : SharedMeter} {subscriberId : UInt32}
    {serviceId : UInt16}
    (hslot : meter.slots.lookup (CounterKey.pack subscriberId serviceId) = none)
    (maxSubscribers : UInt32) (thresholdBytes : UInt64) :
    ((meter.snapshot maxSubscribers).checkThreshold subscriberId serviceId thresholdBytes).1 =
      false := by
  rw [UBBMeter.checkThreshold, SharedMeter.lookup_snapshot, hslot, Option.map_none]

/-- **A check decides by a total in between.** Whatever other threads add meanwhile,
`checkThreshold` decides once it has made its loads. It reports a breach if it would have reported
one alone when it began, and only if it would report one alone when it ends. -/
theorem check_between {start : Config SharedMeter MeterThread} (hsteady : Steady start)
    {subscriberId : UInt32} {serviceId : UInt16} {thresholdBytes : UInt64} {uplinkFirst : Bool}
    {place : ℕ} (hchecker : start.workers[place]? =
      some (startCheck start.shared subscriberId serviceId thresholdBytes uplinkFirst))
    {schedule : List (ℕ × Move)} (hturns : 3 ≤ schedule.countP fun pick ↦ pick.1 = place)
    (maxSubscribers : UInt32) :
    ∃ breached, (runThreads start schedule).workers[place]? = some (.checked breached) ∧
      (((start.shared.snapshot maxSubscribers).checkThreshold subscriberId serviceId
          thresholdBytes).1 = true → breached = true) ∧
      (breached = true →
        (((runThreads start schedule).shared.snapshot maxSubscribers).checkThreshold subscriberId
          serviceId thresholdBytes).1 = true) := by
  unfold startCheck at hchecker
  cases hslot : start.shared.slots.lookup (CounterKey.pack subscriberId serviceId) with
  | none =>
    rw [hslot] at hchecker
    obtain ⟨-, -, moved, hmoved, rfl⟩ := hsteady.run_thread
      (fun _ thread ↦ thread = .checked false) (fun _ _ _ _ _ _ h ↦ by rw [h, MeterThread.advance])
      (fun _ _ _ _ _ h ↦ h) hchecker rfl schedule
    refine ⟨false, hmoved, ?_⟩
    rw [checkThreshold_of_lookup_eq_none hslot]
    exact ⟨fun h ↦ h, fun h ↦ (by cases h)⟩
  | some object =>
    rw [hslot] at hchecker
    have hbegins : Decides thresholdBytes [(object, uplinkFirst), (object, !uplinkFirst)]
        (start.shared.object object).bothBytes start.shared (.checking object thresholdBytes
          ⟨[(object, uplinkFirst), (object, !uplinkFirst)], 0⟩) := by
      rw [← sumOver_eitherFirst start.shared object uplinkFirst]
      exact ⟨rfl, Collected.start _ _⟩
    obtain ⟨hend, hslots, moved, hmoved, hdecides⟩ := hsteady.run_thread
      (Decides thresholdBytes [(object, uplinkFirst), (object, !uplinkFirst)]
        (start.shared.object object).bothBytes)
      (fun config thread choice hsteady' _ hslots hdecides ↦ decides_advance choice hdecides (by
        rw [sumOver_eitherFirst]
        rw [← hslots] at hslot
        exact hsteady'.object_lt hslot))
      (fun _ _ _ _ hgrown hdecides ↦ hdecides.grow hgrown) hchecker hbegins schedule
    have hread := untilRead_runThreads hchecker hmoved hturns
    cases moved with
    | checked breached =>
      obtain ⟨hsound, hcomplete⟩ := hdecides
      rw [sumOver_eitherFirst] at hsound
      have hslotEnd := hslot
      rw [← hslots] at hslotEnd
      refine ⟨breached, hmoved, ?_⟩
      rw [hsteady.checkThreshold_iff hslot, hend.checkThreshold_iff hslotEnd]
      exact ⟨hcomplete, hsound⟩
    | checking held threshold loading => cases hread
    | _ => exact hdecides.elim

/-- The update comes between the two loads and makes the breach. -/
theorem check_meets_update :
    ∃ breached, (runThreads threeThreads updateBetweenLoads).workers[2]? =
        some (.checked breached) ∧
      (((threeThreads.shared.snapshot 10).checkThreshold 7 3 50).1 = true → breached = true) ∧
      (breached = true →
        (((runThreads threeThreads updateBetweenLoads).shared.snapshot 10).checkThreshold 7 3
          50).1 = true) :=
  have hchecker : threeThreads.workers[2]? = some (startCheck threeThreads.shared 7 3 50 true) :=
    rfl
  check_between steady_threeThreads hchecker (by decide) 10

end VirtualServiceGateway.Metering
