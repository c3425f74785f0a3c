import Mathlib.Data.List.Infix
import Mathlib.Data.UInt
import Mathlib.Data.Nat.ModEq
import Mathlib.Logic.Function.Basic

/-!
# Bounded rings filled and emptied step by step

A ring of `2 ^ bits` slots has a head and a tail for its producers and another pair for its
consumers. The positions count up in 32 bits and select a slot by their remainder. Items are in the
ring from the consumer tail to the producer tail. An enqueue reads the head, reads the other side's
tail, stores the new head, writes the slots one by one and stores the new tail; a dequeue does the
same on its side. Nothing is compared and swapped, so the rules below are about one enqueue and one
dequeue at a time: together they are a bounded queue.
-/

namespace VirtualServiceGateway.BoundedRing

variable {Item : Type*}

structure SlotRing (Item : Type*) where
  bits : ℕ
  bits_le : bits ≤ 31
  prodHead : UInt32
  prodTail : UInt32
  consHead : UInt32
  consTail : UInt32
  slots : ℕ → Item

/-- An enqueue under way, with the items offered or, once it has found room, taken. -/
inductive Enqueue (Item : Type*) where
  | headRead (head : UInt32) (items : List Item)
  | reserving (head : UInt32) (items : List Item)
  | writing (head : UInt32) (items : List Item) (written : ℕ)

/-- A dequeue under way, with the number of items asked for or, once it has found some, taken. -/
inductive Dequeue (Item : Type*) where
  | headRead (head : UInt32) (count : ℕ)
  | reserving (head : UInt32) (count : ℕ)
  | reading (head : UInt32) (count : ℕ) (items : List Item)

/-- A step leaves the operation under way or ends it with the items it has moved. -/
inductive Outcome (Stage Item : Type*) where
  | running (stage : Stage)
  | finished (items : List Item)

namespace SlotRing

/-- One slot always stays free. -/
def capacity (ring : SlotRing Item) : ℕ := 2 ^ ring.bits - 1

def slot (ring : SlotRing Item) (position : UInt32) : ℕ := position.toNat % 2 ^ ring.bits

def read (ring : SlotRing Item) (position : UInt32) : Item := ring.slots (ring.slot position)

def write (ring : SlotRing Item) (position : UInt32) (item : Item) : SlotRing Item :=
  { ring with slots := Function.update ring.slots (ring.slot position) item }

/-- The number of items between the tails. -/
def used (ring : SlotRing Item) : ℕ := (ring.prodTail - ring.consTail).toNat

/-- The items between the tails, oldest first. -/
def contents (ring : SlotRing Item) : List Item :=
  (List.range ring.used).map fun index ↦ ring.read (ring.consTail + UInt32.ofNat index)

/-- The next step of an enqueue. It takes as many items as there is room for. -/
def enqueueStep (ring : SlotRing Item) : Enqueue Item → SlotRing Item × Outcome (Enqueue Item) Item
  | .headRead head items =>
      let free := (UInt32.ofNat ring.capacity + ring.consTail - head).toNat
      match items.take free with
      | [] => (ring, .finished [])
      | item :: rest => (ring, .running (.reserving head (item :: rest)))
  | .reserving head items =>
      ({ ring with prodHead := head + UInt32.ofNat items.length }, .running (.writing head items 0))
  | .writing head items written =>
      match items[written]? with
      | some item =>
          (ring.write (head + UInt32.ofNat written) item,
            .running (.writing head items (written + 1)))
      | none => ({ ring with prodTail := head + UInt32.ofNat items.length }, .finished items)

/-- The next step of a dequeue. It takes as many items as there are. -/
def dequeueStep (ring : SlotRing Item) : Dequeue Item → SlotRing Item × Outcome (Dequeue Item) Item
  | .headRead head count =>
      let taken := min count (ring.prodTail - head).toNat
      if taken = 0 then (ring, .finished []) else (ring, .running (.reserving head taken))
  | .reserving head count =>
      ({ ring with consHead := head + UInt32.ofNat count }, .running (.reading head count []))
  | .reading head count items =>
      if items.length < count then
        (ring, .running (.reading head count
          (items ++ [ring.read (head + UInt32.ofNat items.length)])))
      else ({ ring with consTail := head + UInt32.ofNat count }, .finished items)

/-! ## Positions -/

theorem two_pow_bits_le (ring : SlotRing Item) : 2 ^ ring.bits ≤ 2 ^ 31 :=
  Nat.pow_le_pow_right (by omega) ring.bits_le

theorem slot_add (ring : SlotRing Item) (position : UInt32) (index : ℕ) :
    ring.slot (position + UInt32.ofNat index) = (position.toNat + index) % 2 ^ ring.bits := by
  have hdvd : 2 ^ ring.bits ∣ 2 ^ 32 := Nat.pow_dvd_pow 2 (by have := ring.bits_le; omega)
  unfold slot
  rw [UInt32.toNat_add, UInt32.toNat_ofNat', Nat.add_mod_mod, Nat.mod_mod_of_dvd _ hdvd]

/-- Positions less than a round apart have different slots. -/
theorem slot_add_ne (ring : SlotRing Item) (position : UInt32) {first second : ℕ}
    (hfirst : first < 2 ^ ring.bits) (hsecond : second < 2 ^ ring.bits) (hne : first ≠ second) :
    ring.slot (position + UInt32.ofNat first) ≠ ring.slot (position + UInt32.ofNat second) := by
  intro hsame
  rw [slot_add, slot_add] at hsame
  have hmod : first ≡ second [MOD 2 ^ ring.bits] := Nat.ModEq.add_left_cancel' _ hsame
  exact hne (hmod.eq_of_lt_of_lt hfirst hsecond)

theorem add_ofNat_add (position : UInt32) (first second : ℕ) :
    position + UInt32.ofNat first + UInt32.ofNat second =
      position + UInt32.ofNat (first + second) := by
  rw [UInt32.ofNat_add, UInt32.add_assoc]

theorem toNat_add_sub (position : UInt32) {count : ℕ} (hcount : count < 2 ^ 32) :
    (position + UInt32.ofNat count - position).toNat = count := by
  rw [UInt32.add_comm, UInt32.add_sub_cancel, UInt32.toNat_ofNat', Nat.mod_eq_of_lt hcount]

/-- The producer tail is the consumer tail and the number of items. -/
theorem consTail_add_used (ring : SlotRing Item) :
    ring.consTail + UInt32.ofNat ring.used = ring.prodTail := by
  unfold used
  rw [UInt32.ofNat_toNat, UInt32.add_comm, UInt32.sub_add_cancel]

@[simp]
theorem length_contents (ring : SlotRing Item) : ring.contents.length = ring.used := by
  rw [contents, List.length_map, List.length_range]

/-! ## Slots and contents -/

@[simp]
theorem read_write_self (ring : SlotRing Item) (position : UInt32) (item : Item) :
    (ring.write position item).read position = item :=
  Function.update_self ..

theorem read_write_of_ne {ring : SlotRing Item} {position other : UInt32}
    (hne : ring.slot other ≠ ring.slot position) (item : Item) :
    (ring.write position item).read other = ring.read other :=
  Function.update_of_ne hne ..

/-- A write behind the producer tail, less than a round away, leaves the contents. -/
theorem contents_write {ring : SlotRing Item} {offset : ℕ}
    (hroom : ring.used + offset < 2 ^ ring.bits) (item : Item) :
    (ring.write (ring.prodTail + UInt32.ofNat offset) item).contents = ring.contents := by
  apply List.map_congr_left
  intro index hindex
  have hindex : index < ring.used := List.mem_range.mp hindex
  apply read_write_of_ne
  rw [← consTail_add_used, add_ofNat_add]
  exact slot_add_ne ring _ (by omega) hroom (by omega)

/-- A new producer tail adds the items that were written behind the old one. -/
theorem contents_prodTail {ring : SlotRing Item} {items : List Item}
    (hroom : ring.used + items.length < 2 ^ ring.bits)
    (hwritten : ∀ (index : ℕ) (h : index < items.length),
      ring.read (ring.prodTail + UInt32.ofNat index) = items[index]) :
    ({ ring with prodTail := ring.prodTail + UInt32.ofNat items.length } : SlotRing Item).contents =
      ring.contents ++ items := by
  have hbits := two_pow_bits_le ring
  have hused : (ring.prodTail + UInt32.ofNat items.length - ring.consTail).toNat =
      ring.used + items.length := by
    rw [← consTail_add_used, add_ofNat_add, toNat_add_sub _ (by omega)]
  have hitems : (List.range items.length).map
      (fun index ↦ ring.read (ring.prodTail + UInt32.ofNat index)) = items := by
    apply List.ext_getElem
    · simp
    · intro index _ hindex
      rw [List.getElem_map, List.getElem_range]
      exact hwritten index hindex
  calc
    _ = (List.range (ring.used + items.length)).map fun index ↦
          ring.read (ring.consTail + UInt32.ofNat index) := by
      rw [← hused]
      rfl
    _ = ring.contents ++ (List.range items.length).map fun index ↦
          ring.read (ring.consTail + UInt32.ofNat (ring.used + index)) := by
      rw [List.range_add, List.map_append, List.map_map]
      rfl
    _ = ring.contents ++ items := by
      simp only [← add_ofNat_add, consTail_add_used, hitems]

/-- A new consumer tail drops the items in front of it. -/
theorem contents_consTail {ring : SlotRing Item} {count : ℕ} (hcount : count ≤ ring.used) :
    ({ ring with consTail := ring.consTail + UInt32.ofNat count } : SlotRing Item).contents =
      ring.contents.drop count := by
  have hlt : ring.used < 2 ^ 32 := UInt32.toNat_lt _
  have hused : (ring.prodTail - (ring.consTail + UInt32.ofNat count)).toNat =
      ring.used - count := by
    rw [← consTail_add_used, ← Nat.add_sub_cancel' hcount, ← add_ofNat_add,
      toNat_add_sub _ (by omega), Nat.add_sub_cancel_left]
  apply List.ext_getElem
  · rw [List.length_drop, length_contents, length_contents]
    exact hused
  · intro index hfirst hsecond
    rw [List.getElem_drop]
    simp only [contents, List.getElem_map, List.getElem_range, ← add_ofNat_add]
    rfl

end SlotRing

/-! ## One enqueue and one dequeue -/

open SlotRing

/-- What the enqueue under way relies on: the heads are where it has left them, there is room for
its items, and those written so far are behind the producer tail. -/
def Enqueue.Fits (ring : SlotRing Item) : Enqueue Item → Prop
  | .headRead head _ => ring.prodHead = head ∧ ring.prodTail = head
  | .reserving head items => ring.prodHead = head ∧ ring.prodTail = head ∧
      ring.used + items.length ≤ ring.capacity
  | .writing head items written => ring.prodHead = head + UInt32.ofNat items.length ∧
      ring.prodTail = head ∧ ring.used + items.length ≤ ring.capacity ∧
      ∀ (index : ℕ) (h : index < items.length), index < written →
        ring.read (head + UInt32.ofNat index) = items[index]

/-- What the dequeue under way relies on: the heads are where it has left them, there are as many
items as it takes, and those read so far are the first of them. -/
def Dequeue.Fits (ring : SlotRing Item) : Dequeue Item → Prop
  | .headRead head _ => ring.consHead = head ∧ ring.consTail = head
  | .reserving head count => ring.consHead = head ∧ ring.consTail = head ∧ count ≤ ring.used
  | .reading head count items => ring.consHead = head + UInt32.ofNat count ∧
      ring.consTail = head ∧ count ≤ ring.used ∧ items.length ≤ count ∧
      items <+: ring.contents

/-- The items an enqueue offers or has taken. -/
def Enqueue.items : Enqueue Item → List Item
  | .headRead _ items => items
  | .reserving _ items => items
  | .writing _ items _ => items

/-- The most items a dequeue ends with. -/
def Dequeue.count : Dequeue Item → ℕ
  | .headRead _ count => count
  | .reserving _ count => count
  | .reading _ count _ => count

/-- The producer side has added the items to the ring. -/
structure Produced (ring after : SlotRing Item) (items : List Item) : Prop where
  capacity : after.capacity = ring.capacity
  consHead : after.consHead = ring.consHead
  consTail : after.consTail = ring.consTail
  contents : after.contents = ring.contents ++ items
  room : after.used ≤ after.capacity

/-- The consumer side has removed the items from the ring. -/
structure Consumed (ring after : SlotRing Item) (items : List Item) : Prop where
  bits : after.bits = ring.bits
  prodHead : after.prodHead = ring.prodHead
  prodTail : after.prodTail = ring.prodTail
  slots : after.slots = ring.slots
  contents : ring.contents = items ++ after.contents

theorem Consumed.capacity {ring after : SlotRing Item} {items : List Item}
    (hconsumed : Consumed ring after items) : after.capacity = ring.capacity := by
  rw [SlotRing.capacity, SlotRing.capacity, hconsumed.bits]

theorem Consumed.used_le {ring after : SlotRing Item} {items : List Item}
    (hconsumed : Consumed ring after items) : after.used ≤ ring.used := by
  rw [← length_contents, ← length_contents, hconsumed.contents, List.length_append]
  exact Nat.le_add_left _ _

/-- The producer side does not disturb a dequeue. -/
theorem Dequeue.Fits.produced {ring after : SlotRing Item} {items : List Item}
    {stage : Dequeue Item} (hfits : stage.Fits ring) (hproduced : Produced ring after items) :
    stage.Fits after := by
  have hused : ring.used ≤ after.used := by
    rw [← length_contents, ← length_contents, hproduced.contents, List.length_append]
    exact Nat.le_add_right _ _
  cases stage with
  | headRead head count => exact ⟨hproduced.consHead ▸ hfits.1, hproduced.consTail ▸ hfits.2⟩
  | reserving head count =>
    obtain ⟨hhead, htail, hcount⟩ := hfits
    exact ⟨hproduced.consHead ▸ hhead, hproduced.consTail ▸ htail, hcount.trans hused⟩
  | reading head count read =>
    obtain ⟨hhead, htail, hcount, hlength, hread⟩ := hfits
    refine ⟨hproduced.consHead ▸ hhead, hproduced.consTail ▸ htail, hcount.trans hused, hlength, ?_⟩
    rw [hproduced.contents]
    exact hread.trans (List.prefix_append _ _)

/-- The consumer side does not disturb an enqueue. -/
theorem Enqueue.Fits.consumed {ring after : SlotRing Item} {items : List Item}
    {stage : Enqueue Item} (hfits : stage.Fits ring) (hconsumed : Consumed ring after items) :
    stage.Fits after := by
  have hused := hconsumed.used_le
  have hcapacity := hconsumed.capacity
  have hread : ∀ position, after.read position = ring.read position := by
    intro position
    rw [SlotRing.read, SlotRing.read, SlotRing.slot, SlotRing.slot, hconsumed.slots, hconsumed.bits]
  cases stage with
  | headRead head offered => exact ⟨hconsumed.prodHead ▸ hfits.1, hconsumed.prodTail ▸ hfits.2⟩
  | reserving head taken =>
    obtain ⟨hhead, htail, hroom⟩ := hfits
    exact ⟨hconsumed.prodHead ▸ hhead, hconsumed.prodTail ▸ htail, by omega⟩
  | writing head taken written =>
    obtain ⟨hhead, htail, hroom, hwritten⟩ := hfits
    refine ⟨hconsumed.prodHead ▸ hhead, hconsumed.prodTail ▸ htail, by omega,
      fun index h hindex ↦ ?_⟩
    rw [hread]
    exact hwritten index h hindex

/-- A step that changes neither contents nor what the consumers own has added nothing. -/
theorem Produced.of_same {ring after : SlotRing Item} (hcapacity : after.capacity = ring.capacity)
    (hconsHead : after.consHead = ring.consHead) (hconsTail : after.consTail = ring.consTail)
    (hcontents : after.contents = ring.contents) (hroom : ring.used ≤ ring.capacity) :
    Produced ring after [] where
  capacity := hcapacity
  consHead := hconsHead
  consTail := hconsTail
  contents := by rw [hcontents, List.append_nil]
  room := by rwa [hcapacity, ← length_contents, hcontents, length_contents]

/-- The free slots that an enqueue counts are the ones that are not used. -/
theorem toNat_free {ring : SlotRing Item} (hroom : ring.used ≤ ring.capacity) :
    (UInt32.ofNat ring.capacity + ring.consTail - ring.prodTail).toNat =
      ring.capacity - ring.used := by
  have hbits := two_pow_bits_le ring
  have hcapacity : ring.capacity < 2 ^ 31 := by
    have hpos := Nat.two_pow_pos ring.bits
    unfold capacity
    omega
  have htail : UInt32.ofNat ring.capacity + ring.consTail =
      ring.prodTail + UInt32.ofNat (ring.capacity - ring.used) := by
    rw [← consTail_add_used, add_ofNat_add, Nat.add_sub_cancel' hroom, UInt32.add_comm]
  rw [htail, toNat_add_sub _ (by omega)]

/-- What a step of an enqueue must do: go on as it should, or end with the items it has added. -/
def Enqueue.Proceeds (ring : SlotRing Item) (stage : Enqueue Item) :
    SlotRing Item × Outcome (Enqueue Item) Item → Prop
  | (after, .running next) =>
      next.Fits after ∧ next.items <+: stage.items ∧ Produced ring after []
  | (after, .finished items) =>
      after.prodHead = after.prodTail ∧ items <+: stage.items ∧ Produced ring after items

theorem capacity_lt (ring : SlotRing Item) : ring.capacity < 2 ^ ring.bits :=
  Nat.sub_lt (Nat.two_pow_pos _) Nat.one_pos

/-- An enqueue takes no more items than there is room for. -/
theorem proceeds_headRead {ring : SlotRing Item} {head : UInt32} {items : List Item}
    (hfits : (Enqueue.headRead head items).Fits ring) (hroom : ring.used ≤ ring.capacity) :
    (Enqueue.headRead head items).Proceeds ring (ring.enqueueStep (.headRead head items)) := by
  obtain ⟨hhead, htail⟩ := hfits
  have hfree := toNat_free hroom
  rw [htail] at hfree
  have htaken : ring.used + (items.take (ring.capacity - ring.used)).length ≤ ring.capacity := by
    rw [List.length_take]
    omega
  have hpart := List.take_prefix (ring.capacity - ring.used) items
  have hsame : Produced ring ring [] := Produced.of_same rfl rfl rfl rfl hroom
  simp only [enqueueStep, hfree]
  cases htake : items.take (ring.capacity - ring.used) with
  | nil => exact ⟨hhead.trans htail.symm, List.nil_prefix, hsame⟩
  | cons item rest =>
    rw [htake] at htaken hpart
    exact ⟨⟨hhead, htail, htaken⟩, hpart, hsame⟩

/-- An enqueue writes its items behind the producer tail, and then moves the tail behind them. -/
theorem proceeds_writing {ring : SlotRing Item} {head : UInt32} {items : List Item} {written : ℕ}
    (hfits : (Enqueue.writing head items written).Fits ring) (hroom : ring.used ≤ ring.capacity) :
    (Enqueue.writing head items written).Proceeds ring
      (ring.enqueueStep (.writing head items written)) := by
  obtain ⟨hhead, rfl, htaken, hwritten⟩ := hfits
  have hcapacity := capacity_lt ring
  cases hitem : items[written]? with
  | some item =>
    obtain ⟨hlt, hget⟩ := List.getElem?_eq_some_iff.mp hitem
    have hcontents : (ring.write (ring.prodTail + UInt32.ofNat written) item).contents =
        ring.contents := contents_write (by omega) item
    simp only [enqueueStep, hitem]
    refine ⟨⟨hhead, rfl, htaken, fun index h hindex ↦ ?_⟩, List.prefix_rfl,
      Produced.of_same rfl rfl rfl hcontents hroom⟩
    rcases Nat.lt_succ_iff_lt_or_eq.mp hindex with hearlier | rfl
    · have hne : ring.slot (ring.prodTail + UInt32.ofNat index) ≠
          ring.slot (ring.prodTail + UInt32.ofNat written) :=
        slot_add_ne ring _ (by omega) (by omega) (by omega)
      exact (read_write_of_ne hne item).trans (hwritten index h hearlier)
    · exact (read_write_self ring _ item).trans hget.symm
  | none =>
    have hlength := List.getElem?_eq_none_iff.mp hitem
    have hcontents := contents_prodTail (by omega : ring.used + items.length < 2 ^ ring.bits)
      fun index h ↦ hwritten index h (by omega)
    simp only [enqueueStep, hitem]
    refine ⟨hhead, List.prefix_rfl, rfl, rfl, rfl, hcontents, ?_⟩
    rw [← length_contents, hcontents, List.length_append, length_contents]
    exact htaken

/-- **One step of an enqueue** that fits a ring which is not overfull. -/
theorem Enqueue.Fits.step {ring : SlotRing Item} {stage : Enqueue Item} (hfits : stage.Fits ring)
    (hroom : ring.used ≤ ring.capacity) : stage.Proceeds ring (ring.enqueueStep stage) := by
  cases stage with
  | headRead head items => exact proceeds_headRead hfits hroom
  | reserving head items =>
    obtain ⟨-, htail, htaken⟩ := hfits
    refine ⟨⟨rfl, htail, htaken, fun _ _ hnone ↦ ?_⟩, List.prefix_rfl,
      Produced.of_same rfl rfl rfl rfl hroom⟩
    exact absurd hnone (Nat.not_lt_zero _)
  | writing head items written => exact proceeds_writing hfits hroom

/-- A step that changes neither contents nor what the producers own has removed nothing. -/
theorem Consumed.of_same {ring after : SlotRing Item} (hbits : after.bits = ring.bits)
    (hprodHead : after.prodHead = ring.prodHead) (hprodTail : after.prodTail = ring.prodTail)
    (hslots : after.slots = ring.slots) (hcontents : after.contents = ring.contents) :
    Consumed ring after [] :=
  ⟨hbits, hprodHead, hprodTail, hslots, hcontents.symm⟩

/-- What a step of a dequeue must do: go on as it should, or end with the items it has removed. -/
def Dequeue.Proceeds (ring : SlotRing Item) (stage : Dequeue Item) :
    SlotRing Item × Outcome (Dequeue Item) Item → Prop
  | (after, .running next) =>
      next.Fits after ∧ next.count ≤ stage.count ∧ Consumed ring after []
  | (after, .finished items) =>
      after.consHead = after.consTail ∧ items.length ≤ stage.count ∧ Consumed ring after items

/-- A dequeue reads the items from the consumer tail on, and then moves the tail behind them. -/
theorem proceeds_reading {ring : SlotRing Item} {head : UInt32} {count : ℕ} {items : List Item}
    (hfits : (Dequeue.reading head count items).Fits ring) :
    (Dequeue.reading head count items).Proceeds ring
      (ring.dequeueStep (.reading head count items)) := by
  obtain ⟨hhead, rfl, hcount, hlength, hread⟩ := hfits
  have htake := List.prefix_iff_eq_take.mp hread
  simp only [dequeueStep]
  by_cases hmore : items.length < count
  · rw [if_pos hmore]
    have hindex : items.length < ring.contents.length := by
      rw [length_contents]
      omega
    have hnext : items ++ [ring.read (ring.consTail + UInt32.ofNat items.length)] =
        ring.contents.take (items.length + 1) := by
      rw [List.take_succ_eq_append_getElem hindex, ← htake]
      simp [contents]
    refine ⟨⟨hhead, rfl, hcount, ?_, ?_⟩, le_rfl, Consumed.of_same rfl rfl rfl rfl rfl⟩
    · rw [List.length_append]
      exact hmore
    · rw [hnext]
      exact List.take_prefix _ _
  · rw [if_neg hmore]
    obtain rfl : items.length = count := by omega
    refine ⟨hhead, le_rfl, rfl, rfl, rfl, rfl, ?_⟩
    rw [contents_consTail hcount]
    exact List.prefix_append_drop hread

/-- **One step of a dequeue** that fits the ring. -/
theorem Dequeue.Fits.step {ring : SlotRing Item} {stage : Dequeue Item} (hfits : stage.Fits ring) :
    stage.Proceeds ring (ring.dequeueStep stage) := by
  cases stage with
  | headRead head count =>
    obtain ⟨hhead, rfl⟩ := hfits
    have hsame : Consumed ring ring [] := Consumed.of_same rfl rfl rfl rfl rfl
    simp only [dequeueStep]
    by_cases hnone : min count (ring.prodTail - ring.consTail).toNat = 0
    · rw [if_pos hnone]
      exact ⟨hhead, Nat.zero_le _, hsame⟩
    · rw [if_neg hnone]
      exact ⟨⟨hhead, rfl, min_le_right _ _⟩, min_le_left _ _, hsame⟩
  | reserving head count =>
    obtain ⟨-, htail, hcount⟩ := hfits
    exact ⟨⟨rfl, htail, hcount, Nat.zero_le _, List.nil_prefix⟩, le_rfl,
      Consumed.of_same rfl rfl rfl rfl rfl⟩
  | reading head count items => exact proceeds_reading hfits

end VirtualServiceGateway.BoundedRing
