import Mathlib.Algebra.Order.BigOperators.Group.List

/-!
# Sums read cell by cell

A reader adds up cells one after the other while others only increase them. What it has added is at
most what the cells it has read hold now, and together with the cells it has still to read at least
what all of them held in the beginning. So its result lies between the two sums. A reader that
chooses its cells on the way ends between the two sums over those it chose.
-/

namespace VirtualServiceGateway.CollectedSum

variable {Cell Amount : Type*} [AddCommMonoid Amount] [PartialOrder Amount]

/-- What the cells of a list hold together. -/
def sumOver (cells : Cell → Amount) (list : List Cell) : Amount := (list.map cells).sum

theorem sumOver_mono [IsOrderedAddMonoid Amount] {cells later : Cell → Amount}
    (hgrow : ∀ cell, cells cell ≤ later cell) (list : List Cell) : sumOver cells list ≤ sumOver later list :=
  List.sum_le_sum fun cell _ ↦ hgrow cell

/-- The reader has still to read the cells that are left, and has added up the others of the list,
which held the floor when it began. -/
structure Collected (cells : Cell → Amount) (list left : List Cell) (floor sum : Amount) :
    Prop where
  above : floor ≤ sum + sumOver cells left
  below : ∃ read, list = read ++ left ∧ sum ≤ sumOver cells read

namespace Collected

variable {cells : Cell → Amount} {list left : List Cell} {floor sum : Amount}

theorem start (cells : Cell → Amount) (list : List Cell) :
    Collected cells list list (sumOver cells list) 0 where
  above := (zero_add _).ge
  below := ⟨[], rfl, le_rfl⟩

variable [IsOrderedAddMonoid Amount]

/-- The reader reads the next cell. -/
theorem load {cell : Cell} (h : Collected cells list (cell :: left) floor sum) :
    Collected cells list left floor (sum + cells cell) := by
  obtain ⟨habove, read, rfl, hbelow⟩ := h
  constructor
  · rwa [sumOver, List.map_cons, List.sum_cons, ← add_assoc] at habove
  · refine ⟨read ++ [cell], by rw [List.append_assoc, List.singleton_append], ?_⟩
    rw [sumOver, List.map_append, List.sum_append, List.map_singleton, List.sum_singleton]
    exact add_le_add hbelow le_rfl

/-- Others increase the cells. -/
theorem grow {later : Cell → Amount} (h : Collected cells list left floor sum)
    (hgrow : ∀ cell, cells cell ≤ later cell) : Collected later list left floor sum := by
  obtain ⟨habove, read, hlist, hbelow⟩ := h
  constructor
  · exact habove.trans (add_le_add le_rfl (sumOver_mono hgrow left))
  · exact ⟨read, hlist, hbelow.trans (sumOver_mono hgrow read)⟩

/-- What the reader has and will add is at most what the cells hold. -/
theorem add_le (h : Collected cells list left floor sum) :
    sum + sumOver cells left ≤ sumOver cells list := by
  obtain ⟨-, read, rfl, hbelow⟩ := h
  calc
    sum + sumOver cells left ≤ sumOver cells read + sumOver cells left := add_le_add hbelow le_rfl
    _ = sumOver cells (read ++ left) := by
      rw [sumOver, sumOver, sumOver, List.map_append, List.sum_append]

/-- **The result lies in between.** -/
theorem done (h : Collected cells list [] floor sum) : floor ≤ sum ∧ sum ≤ sumOver cells list := by
  have habove := h.above
  have hbelow := h.add_le
  rw [sumOver, List.map_nil, List.sum_nil, add_zero] at habove hbelow
  exact ⟨habove, hbelow⟩

end Collected

/-! ## Choosing the cells on the way -/

/-- The reader has added what it read of the cells it chose. Each reading lies between the floor of
its cell and what the cell holds now. -/
structure Chosen (floor cells : Cell → Amount) (chosen : List Cell) (sum : Amount) : Prop where
  above : sumOver floor chosen ≤ sum
  below : sum ≤ sumOver cells chosen

namespace Chosen

variable {floor cells : Cell → Amount} {chosen : List Cell} {sum : Amount}

theorem start (floor cells : Cell → Amount) : Chosen floor cells [] 0 := ⟨le_rfl, le_rfl⟩

variable [IsOrderedAddMonoid Amount]

/-- The reader adds a reading of one more cell. -/
theorem add {cell : Cell} {reading : Amount} (h : Chosen floor cells chosen sum)
    (hfloor : floor cell ≤ reading) (hnow : reading ≤ cells cell) :
    Chosen floor cells (chosen ++ [cell]) (sum + reading) := by
  constructor
  · rw [sumOver, List.map_append, List.sum_append, List.map_singleton, List.sum_singleton]
    exact add_le_add h.above hfloor
  · rw [sumOver, List.map_append, List.sum_append, List.map_singleton, List.sum_singleton]
    exact add_le_add h.below hnow

/-- Others increase the cells. -/
theorem grow {later : Cell → Amount} (h : Chosen floor cells chosen sum)
    (hgrow : ∀ cell ∈ chosen, cells cell ≤ later cell) : Chosen floor later chosen sum :=
  ⟨h.above, h.below.trans (List.sum_le_sum hgrow)⟩

end Chosen

end VirtualServiceGateway.CollectedSum
