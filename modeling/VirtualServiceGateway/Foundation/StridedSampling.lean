import Mathlib.Algebra.Order.Floor.Div
import Mathlib.Data.List.Sort

/-!
# Sampling a table by a stride

The grid of a stride is its multiples below the size of the table. Sampling takes the first points
of the grid that are selected, up to a cap. With the stride that divides the size by the cap and
rounds down, the cap is always reached when every point is selected, but the points under the cap
cover the table only when the cap divides the size or is not reached early.
-/

namespace VirtualServiceGateway.StridedSampling

variable {size stride cap point : ℕ}

/-- The multiples of the stride below the size, in order. -/
def grid (size stride : ℕ) : List ℕ := (List.range size).filter (stride ∣ ·)

/-- The quotient of the size by the cap, at least one. -/
def strideFor (size cap : ℕ) : ℕ := max 1 (size / cap)

/-- The first selected points of the grid, up to the cap. -/
def sampled (size cap : ℕ) (select : ℕ → Bool) : List ℕ :=
  ((grid size (strideFor size cap)).filter select).take cap

theorem mem_grid : point ∈ grid size stride ↔ point < size ∧ stride ∣ point := by
  unfold grid
  rw [List.mem_filter, List.mem_range, decide_eq_true_iff]

theorem sortedLT_grid (size stride : ℕ) : (grid size stride).SortedLT :=
  (List.sortedLT_range size).pairwise.filter _ |>.sortedLT

/-- The sampled points come in increasing order. -/
theorem pairwise_sampled (size cap : ℕ) (select : ℕ → Bool) :
    (sampled size cap select).Pairwise (· < ·) :=
  ((sortedLT_grid size (strideFor size cap)).pairwise.filter select).sublist (List.take_sublist ..)

theorem strideFor_pos (size cap : ℕ) : 0 < strideFor size cap := lt_max_of_lt_left Nat.one_pos

theorem filter_grid_of_all {select : ℕ → Bool} (hall : ∀ point < size, select point) :
    (grid size stride).filter select = grid size stride :=
  List.filter_eq_self.mpr fun point hpoint ↦ hall point (mem_grid.mp hpoint).1

/-! ## The number of points -/

/-- A multiple of the stride lies below the size exactly when its factor lies below the rounded-up
quotient. -/
theorem mul_lt_iff_lt_ceilDiv (hstride : 0 < stride) (factor : ℕ) :
    stride * factor < size ↔ factor < size ⌈/⌉ stride := by
  rw [← Nat.not_le, ← Nat.not_le, ceilDiv_le_iff_le_mul hstride]

theorem ceilDiv_le_self (hstride : 0 < stride) (size : ℕ) : size ⌈/⌉ stride ≤ size :=
  (ceilDiv_le_iff_le_mul hstride).mpr (Nat.le_mul_of_pos_left size hstride)

/-- The first multiple past the table is less than a stride past it. -/
theorem mul_ceilDiv_lt (hstride : 0 < stride) (size : ℕ) :
    stride * (size ⌈/⌉ stride) < size + stride := by
  rcases Nat.eq_zero_or_pos (size ⌈/⌉ stride) with hnone | hpos
  · rw [hnone]
    omega
  · have hlast : stride * (size ⌈/⌉ stride - 1) < size :=
      (mul_lt_iff_lt_ceilDiv hstride _).mpr (Nat.sub_one_lt_of_lt hpos)
    calc
      stride * (size ⌈/⌉ stride) = stride * (size ⌈/⌉ stride - 1 + 1) := by
        rw [Nat.sub_add_cancel hpos]
      _ = stride * (size ⌈/⌉ stride - 1) + stride := Nat.mul_succ ..
      _ < size + stride := Nat.add_lt_add_right hlast stride

/-- The grid is walked from zero in steps of the stride. -/
theorem grid_eq_range' (hstride : 0 < stride) (size : ℕ) :
    grid size stride = List.range' 0 (size ⌈/⌉ stride) stride := by
  apply (sortedLT_grid size stride).eq_of_mem_iff
    (List.pairwise_lt_range' stride hstride).sortedLT
  intro point
  rw [mem_grid, List.mem_range']
  constructor
  · rintro ⟨hpoint, factor, rfl⟩
    exact ⟨factor, (mul_lt_iff_lt_ceilDiv hstride factor).mp hpoint, (Nat.zero_add _).symm⟩
  · rintro ⟨factor, hfactor, rfl⟩
    rw [Nat.zero_add]
    exact ⟨(mul_lt_iff_lt_ceilDiv hstride factor).mpr hfactor, Nat.dvd_mul_right ..⟩

theorem length_grid (hstride : 0 < stride) (size : ℕ) :
    (grid size stride).length = size ⌈/⌉ stride := by
  rw [grid_eq_range' hstride, List.length_range']

/-- All but the last point of the grid are the grid of the table less one stride. -/
theorem ceilDiv_sub (hstride : 0 < stride) (size : ℕ) :
    (size - stride) ⌈/⌉ stride = size ⌈/⌉ stride - 1 := by
  apply eq_of_forall_lt_iff
  intro factor
  rw [← mul_lt_iff_lt_ceilDiv hstride, Nat.lt_sub_iff_add_lt, Nat.lt_sub_iff_add_lt,
    ← mul_lt_iff_lt_ceilDiv hstride, Nat.mul_succ]

/-- The cap strides of the rounded-down quotient fit into the table. -/
theorem mul_strideFor_le (hcap : cap ≤ size) : cap * strideFor size cap ≤ size := by
  unfold strideFor
  rcases Nat.eq_zero_or_pos cap with rfl | hpos
  · omega
  · rw [max_eq_right ((Nat.one_le_div_iff hpos).mpr hcap)]
    exact Nat.mul_div_le size cap

/-- A table no larger than the cap is walked slot by slot. -/
theorem strideFor_of_le (hcap : size ≤ cap) : strideFor size cap = 1 := by
  unfold strideFor
  exact max_eq_left (Nat.div_le_of_le_mul (by omega))

/-- And all its selected slots are sampled. -/
theorem sampled_of_le {select : ℕ → Bool} (hcap : size ≤ cap) :
    sampled size cap select = (List.range size).filter select := by
  unfold sampled grid
  rw [strideFor_of_le hcap]
  simp only [Nat.one_dvd, decide_true, List.filter_true]
  apply List.take_of_length_le
  calc
    ((List.range size).filter select).length ≤ (List.range size).length := List.length_filter_le ..
    _ = size := List.length_range
    _ ≤ cap := hcap

/-- Under the stride for a cap, the grid has a point for each sample that the cap allows. -/
theorem le_length_grid (hcap : cap ≤ size) :
    cap ≤ (grid size (strideFor size cap)).length := by
  rw [length_grid (strideFor_pos size cap)]
  apply Nat.le_of_mul_le_mul_left _ (strideFor_pos size cap)
  calc
    strideFor size cap * cap = cap * strideFor size cap := Nat.mul_comm ..
    _ ≤ size := mul_strideFor_le hcap
    _ ≤ strideFor size cap * (size ⌈/⌉ strideFor size cap) :=
      le_smul_ceilDiv (strideFor_pos size cap)

/-- A table without unselected points yields as many samples as its size and the cap allow. -/
theorem length_sampled_of_all {select : ℕ → Bool} (hall : ∀ point < size, select point) :
    (sampled size cap select).length = min size cap := by
  unfold sampled
  rw [filter_grid_of_all hall, List.length_take]
  rcases Nat.le_total size cap with hsmall | hlarge
  · rw [length_grid (strideFor_pos size cap), strideFor_of_le hsmall, Nat.ceilDiv_eq_add_pred_div,
      Nat.add_sub_cancel, Nat.div_one, Nat.min_comm]
  · rw [Nat.min_eq_left (le_length_grid hlarge), Nat.min_eq_right hlarge]

/-! ## Walking the grid up to a cap -/

section Walk

variable {select : ℕ → Bool} {reached count : ℕ}

/-- One more position selects at most one more, so a walk that was below the cap before its last
position is not above it. -/
theorem countP_walk_le
    (hbefore : ∀ earlier < count, (List.range' 0 earlier stride).countP select < cap) :
    (List.range' 0 count stride).countP select ≤ cap := by
  cases count with
  | zero => exact Nat.zero_le cap
  | succ count =>
    have hlast : [0 + stride * count].countP select ≤ 1 := List.countP_le_length
    have hothers := hbefore count (Nat.lt_succ_self count)
    rw [List.range'_concat, List.countP_append]
    omega

/-- A longer walk selects no less. -/
theorem countP_walk_mono (hreached : reached ≤ count) :
    (List.range' 0 reached stride).countP select ≤ (List.range' 0 count stride).countP select :=
  (List.range'_sublist_right.mpr hreached).countP_le

/-- A walk that meets the cap has selected what the cap takes from every longer walk. -/
theorem take_filter_walk (hreached : reached ≤ count)
    (hcap : (List.range' 0 reached stride).countP select = cap) :
    ((List.range' 0 count stride).filter select).take cap =
      (List.range' 0 reached stride).filter select := by
  obtain ⟨later, rfl⟩ := Nat.exists_eq_add_of_le hreached
  rw [← List.range'_append, List.filter_append]
  exact List.take_left' (by rw [← List.countP_eq_length_filter, hcap])

end Walk

/-! ## What the samples cover -/

/-- The points under the cap are the factors below it. -/
theorem mem_take_grid (hstride : 0 < stride) :
    point ∈ (grid size stride).take cap ↔
      ∃ factor < cap, point = stride * factor ∧ point < size := by
  rw [List.mem_take_iff_getElem]
  simp only [grid_eq_range' hstride, List.getElem_range', List.length_range', Nat.zero_add,
    Nat.lt_min]
  constructor
  · rintro ⟨factor, ⟨hcap, hfactor⟩, rfl⟩
    exact ⟨factor, hcap, rfl, (mul_lt_iff_lt_ceilDiv hstride factor).mpr hfactor⟩
  · rintro ⟨factor, hcap, rfl, hpoint⟩
    exact ⟨factor, ⟨hcap, (mul_lt_iff_lt_ceilDiv hstride factor).mp hpoint⟩, rfl⟩

/-- Every slot lies within one stride after a sampled point. -/
def Covers (size cap : ℕ) (points : List ℕ) : Prop :=
  ∀ slot < size, ∃ point ∈ points, point ≤ slot ∧ slot < point + strideFor size cap

/-- **Coverage.** When every point is selected, the samples cover the table exactly when the table
is no larger than the cap or the cap divides its size. -/
theorem covers_sampled_iff {select : ℕ → Bool} (hall : ∀ point < size, select point) :
    Covers size cap (sampled size cap select) ↔ size ≤ cap ∨ cap ∣ size := by
  have hstride := strideFor_pos size cap
  unfold sampled
  rw [filter_grid_of_all hall]
  constructor
  · intro hcovers
    apply or_iff_not_imp_left.mpr
    intro hlarge
    obtain ⟨point, hpoint, -, hreach⟩ := hcovers (size - 1) (by omega)
    obtain ⟨factor, hfactor, rfl, -⟩ := (mem_take_grid hstride).mp hpoint
    -- The last slot is within one stride of a point below the cap, so the cap strides reach it.
    have hreached : size ≤ cap * strideFor size cap := by
      calc
        size ≤ strideFor size cap * factor + strideFor size cap := by omega
        _ = (factor + 1) * strideFor size cap := by rw [Nat.succ_mul, Nat.mul_comm]
        _ ≤ cap * strideFor size cap := Nat.mul_le_mul_right _ hfactor
    exact ⟨strideFor size cap, Nat.le_antisymm hreached (mul_strideFor_le (by omega))⟩
  · intro hfits slot hslot
    have hcap : slot < strideFor size cap * cap := by
      rcases hfits with hsmall | hdivides
      · rw [strideFor_of_le hsmall]
        omega
      · calc
          slot < size := hslot
          _ = size / cap * cap := (Nat.div_mul_cancel hdivides).symm
          _ ≤ strideFor size cap * cap := Nat.mul_le_mul_right _ (le_max_right ..)
    have hpoint : strideFor size cap * (slot / strideFor size cap) ≤ slot := Nat.mul_div_le ..
    refine ⟨_, (mem_take_grid hstride).mpr
      ⟨slot / strideFor size cap, ?_, rfl, hpoint.trans_lt hslot⟩, hpoint, ?_⟩
    · exact Nat.div_lt_of_lt_mul hcap
    · exact Nat.lt_mul_div_succ slot hstride

end VirtualServiceGateway.StridedSampling
