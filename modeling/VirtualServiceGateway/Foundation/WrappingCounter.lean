import Mathlib.Data.UInt
import Mathlib.Algebra.BigOperators.Group.List.Basic

/-!
# Fixed-width counters and the totals they track

A machine counter of width `w` holds a natural total modulo `2 ^ w`. Wrapping is a homomorphism
of additive monoids, so adding the amounts of a history one by one into the counter leaves the
wrapped total of the whole history.
-/

namespace VirtualServiceGateway.WrappingCounter

/-- A natural total as a 64-bit counter holds it. -/
def wrap64 : ℕ →+ UInt64 where
  toFun := UInt64.ofNat
  map_zero' := rfl
  map_add' := UInt64.ofNat_add

/-- A natural total as a 32-bit counter holds it. -/
def wrap32 : ℕ →+ UInt32 where
  toFun := UInt32.ofNat
  map_zero' := rfl
  map_add' := UInt32.ofNat_add

@[simp]
theorem toNat_wrap64 (total : ℕ) : (wrap64 total).toNat = total % 2 ^ 64 := UInt64.toNat_ofNat'

@[simp]
theorem toNat_wrap32 (total : ℕ) : (wrap32 total).toNat = total % 2 ^ 32 := UInt32.toNat_ofNat'

@[simp]
theorem wrap64_toNat (count : UInt64) : wrap64 count.toNat = count := UInt64.ofNat_toNat

@[simp]
theorem wrap64_one : wrap64 1 = 1 := rfl

@[simp]
theorem wrap32_one : wrap32 1 = 1 := rfl

/-- A 32-bit amount widened to 64 bits is the wrapped amount. -/
theorem wrap64_toUInt64 (amount : UInt32) : wrap64 amount.toNat = amount.toUInt64 := by
  apply UInt64.toNat.inj
  rw [toNat_wrap64, UInt32.toNat_toUInt64, Nat.mod_eq_of_lt]
  exact amount.toNat_lt.trans (by omega)

theorem wrap64_eq_zero_iff (total : ℕ) : wrap64 total = 0 ↔ total % 2 ^ 64 = 0 := by
  rw [← UInt64.toNat_inj, toNat_wrap64]
  rfl

variable {Event : Type*}

/-- The total amount of a history. -/
def tally (amount : Event → ℕ) (history : List Event) : ℕ := (history.map amount).sum

@[simp]
theorem tally_nil (amount : Event → ℕ) : tally amount [] = 0 := rfl

@[simp]
theorem tally_cons (amount : Event → ℕ) (event : Event) (history : List Event) :
    tally amount (event :: history) = amount event + tally amount history := by
  simp [tally]

@[simp]
theorem tally_append (amount : Event → ℕ) (first second : List Event) :
    tally amount (first ++ second) = tally amount first + tally amount second := by
  simp [tally]

/-- A total ignores the order of the history. -/
theorem tally_perm (amount : Event → ℕ) {first second : List Event} (h : first.Perm second) :
    tally amount first = tally amount second :=
  (h.map amount).sum_eq

/-- A total splits over any predicate and its complement. -/
theorem tally_filter_add (amount : Event → ℕ) (select : Event → Bool) (history : List Event) :
    tally amount (history.filter select) + tally amount (history.filter fun event ↦ !select event) =
      tally amount history := by
  induction history with
  | nil => rfl
  | cons event history ih =>
    cases hselect : select event <;> simp [hselect] <;> omega

/-- A total of amounts all zero is zero, and conversely. -/
theorem tally_eq_zero_iff (amount : Event → ℕ) (history : List Event) :
    tally amount history = 0 ↔ ∀ event ∈ history, amount event = 0 := by
  induction history with
  | nil => simp
  | cons event history ih => simp [ih]

/-- Amounts within a bound total at most the bound for each event. -/
theorem tally_le_length_mul {amount : Event → ℕ} {bound : ℕ} {history : List Event}
    (hbound : ∀ event ∈ history, amount event ≤ bound) :
    tally amount history ≤ history.length * bound := by
  induction history with
  | nil => simp
  | cons event history ih =>
    have hhead := hbound event List.mem_cons_self
    have hrest := ih fun later hlater ↦ hbound later (List.mem_cons_of_mem _ hlater)
    calc
      tally amount (event :: history) = amount event + tally amount history := tally_cons ..
      _ ≤ bound + history.length * bound := Nat.add_le_add hhead hrest
      _ = (event :: history).length * bound := by
        rw [List.length_cons, Nat.succ_mul, Nat.add_comm]

/-- Amounts that are smaller one by one have a smaller total. -/
theorem tally_mono {amount larger : Event → ℕ} {history : List Event}
    (hle : ∀ event ∈ history, amount event ≤ larger event) :
    tally amount history ≤ tally larger history := by
  induction history with
  | nil => exact le_rfl
  | cons event history ih =>
    rw [tally_cons, tally_cons]
    exact Nat.add_le_add (hle event List.mem_cons_self)
      (ih fun later hlater ↦ hle later (List.mem_cons_of_mem _ hlater))

/-- Leaving out events makes no total larger. -/
theorem tally_sublist (amount : Event → ℕ) {first second : List Event}
    (hsublist : first.Sublist second) : tally amount first ≤ tally amount second := by
  induction hsublist with
  | slnil => exact le_rfl
  | cons event _ ih =>
    rw [tally_cons]
    exact ih.trans (Nat.le_add_left _ _)
  | cons_cons event _ ih =>
    rw [tally_cons, tally_cons]
    exact Nat.add_le_add_left ih _

theorem tally_add (first second : Event → ℕ) (history : List Event) :
    tally (fun event ↦ first event + second event) history =
      tally first history + tally second history := by
  induction history with
  | nil => rfl
  | cons event history ih =>
    rw [tally_cons, tally_cons, tally_cons, ih]
    ac_rfl

theorem tally_one (history : List Event) : tally (fun _ ↦ 1) history = history.length := by
  induction history with
  | nil => rfl
  | cons event history ih => rw [tally_cons, ih, List.length_cons, Nat.add_comm]

theorem countP_eq_tally (select : Event → Bool) (history : List Event) :
    history.countP select = tally (fun event ↦ if select event then 1 else 0) history := by
  induction history with
  | nil => rfl
  | cons event history ih => rw [List.countP_cons, tally_cons, ih, Nat.add_comm]

/-- Counting related pairs by parts or by events gives the same total. -/
theorem tally_countP_comm {Part : Type*} (related : Part → Event → Bool) (parts : List Part)
    (history : List Event) :
    tally (fun part ↦ history.countP (related part)) parts =
      tally (fun event ↦ parts.countP fun part ↦ related part event) history := by
  induction parts with
  | nil => exact ((tally_eq_zero_iff _ history).mpr fun _ _ ↦ rfl).symm
  | cons part parts ih =>
    simp only [List.countP_cons]
    rw [tally_cons, ih, tally_add, ← countP_eq_tally, Nat.add_comm]

/-- Wrapped amounts add up to the wrapped total. -/
theorem sum_map_wrap {Counter : Type*} [AddCommMonoid Counter] (wrap : ℕ →+ Counter)
    (amount : Event → ℕ) (history : List Event) :
    (history.map fun event ↦ wrap (amount event)).sum = wrap (tally amount history) := by
  rw [tally, map_list_sum, List.map_map]
  rfl

/-- A sum of 64-bit counters is the wrapped total of what they hold. -/
theorem sum_map_eq_wrap64 (count : Event → UInt64) (history : List Event) :
    (history.map count).sum = wrap64 (tally (fun event ↦ (count event).toNat) history) := by
  simp only [← sum_map_wrap, wrap64_toNat]

/-- Adding the amounts one by one into a counter adds the wrapped total. -/
theorem foldl_add_wrap {Counter : Type*} [AddCommMonoid Counter] (wrap : ℕ →+ Counter)
    (amount : Event → ℕ) (start : Counter) (history : List Event) :
    history.foldl (fun count event ↦ count + wrap (amount event)) start =
      start + wrap (tally amount history) := by
  induction history generalizing start with
  | nil => simp
  | cons event history ih => rw [List.foldl_cons, ih, tally_cons, map_add, add_assoc]

/-- Counting the selected events one by one adds the wrapped number of them. -/
theorem foldl_count_wrap {Counter : Type*} [AddCommMonoid Counter] (wrap : ℕ →+ Counter)
    (select : Event → Bool) (start : Counter) (history : List Event) :
    history.foldl (fun count event ↦ if select event then count + wrap 1 else count) start =
      start + wrap (history.countP select) := by
  induction history generalizing start with
  | nil => simp
  | cons event history ih =>
    rw [List.foldl_cons]
    by_cases hselect : select event
    · rw [if_pos hselect, ih, List.countP_cons_of_pos hselect, Nat.add_comm, map_add, add_assoc]
    · rw [if_neg hselect, ih, List.countP_cons_of_neg hselect]

/-! ## Quotients of wrapped products -/

/-- A dividend that wraps loses at least a whole width, and with it at least one from a quotient
whose divisor is within the width. So the quotient is exact only when the dividend does not wrap. -/
theorem mod_div_eq_div_iff {dividend divisor width : ℕ} (hpos : 0 < divisor)
    (hdivisor : divisor ≤ width) :
    dividend % width / divisor = dividend / divisor ↔ dividend < width := by
  constructor
  · intro hexact
    by_contra hwraps
    have hround : 1 ≤ dividend / width :=
      (Nat.one_le_div_iff (hpos.trans_le hdivisor)).mpr (Nat.not_lt.mp hwraps)
    have hlost : dividend % width + divisor ≤ dividend := by
      calc
        dividend % width + divisor ≤ dividend % width + width * 1 := by omega
        _ ≤ dividend % width + width * (dividend / width) :=
          Nat.add_le_add_left (Nat.mul_le_mul_left width hround) _
        _ = dividend := Nat.mod_add_div dividend width
    have hsmaller : dividend % width / divisor + 1 ≤ dividend / divisor := by
      rw [← Nat.add_div_right _ hpos]
      exact Nat.div_le_div_right hlost
    omega
  · intro hfits
    rw [Nat.mod_eq_of_lt hfits]

/-- A share of a whole, scaled, is at most the scale, whether the scaled part wraps or not. -/
theorem scaled_share_le {part whole : ℕ} (hpart : part ≤ whole) (scale width : ℕ) :
    part * scale % width / whole ≤ scale := by
  apply Nat.div_le_of_le_mul
  calc
    part * scale % width ≤ part * scale := Nat.mod_le _ _
    _ ≤ whole * scale := Nat.mul_le_mul_right scale hpart

end VirtualServiceGateway.WrappingCounter
