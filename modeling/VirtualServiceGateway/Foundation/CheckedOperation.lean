import Mathlib.Data.List.Forall2
import Mathlib.Data.List.Infix
import Mathlib.Data.UInt

/-!
# Operations that may have no defined result

A division by zero, a read past the end of a block and a loop whose counter never reaches its
limit have no defined result. Each is an error of the operation here, so that a function built
from such operations says by its own value whether every one of them was defined.
-/

namespace VirtualServiceGateway.CheckedOperation

/-- Why an execution has no defined result. -/
inductive Fault where
  | outOfBounds
  | divideByZero
  | endless
  deriving DecidableEq, Repr

section Division

variable {Word : Type*} [OfNat Word 0] [DecidableEq Word]

/-- A quotient, defined for a divisor other than zero. -/
def divide [Div Word] (dividend divisor : Word) : Except Fault Word :=
  if divisor = 0 then .error .divideByZero else .ok (dividend / divisor)

/-- A remainder, defined for a divisor other than zero. -/
def remainder [Mod Word] (dividend divisor : Word) : Except Fault Word :=
  if divisor = 0 then .error .divideByZero else .ok (dividend % divisor)

theorem divide_of_ne_zero [Div Word] (dividend : Word) {divisor : Word} (h : divisor ≠ 0) :
    divide dividend divisor = .ok (dividend / divisor) := if_neg h

end Division

variable {Byte : Type*}

/-- The `count` bytes from `start` on, defined when all of them lie in the block. -/
def readBlock (bytes : List Byte) (start count : ℕ) : Except Fault (List Byte) :=
  if start + count ≤ bytes.length then .ok ((bytes.drop start).take count)
  else .error .outOfBounds

theorem readBlock_of_le {bytes : List Byte} {start count : ℕ} (h : start + count ≤ bytes.length) :
    readBlock bytes start count = .ok ((bytes.drop start).take count) := if_pos h

/-- A block read equals the pattern exactly when the pattern occurs there. -/
theorem take_drop_eq_iff (bytes pattern : List Byte) (start : ℕ) :
    (bytes.drop start).take pattern.length = pattern ↔ pattern <+: bytes.drop start := by
  rw [List.prefix_iff_eq_take]
  exact eq_comm

/-! ## Sequences of operations -/

section Sequence

variable {Input Output : Type*} {operation : Input → Except Fault Output}

/-- A sequence of operations is defined with these results exactly when each operation is defined
with its own. -/
theorem mapM_eq_ok_iff {inputs : List Input} {outputs : List Output} :
    inputs.mapM operation = .ok outputs ↔
      List.Forall₂ (fun input output ↦ operation input = .ok output) inputs outputs := by
  induction inputs generalizing outputs with
  | nil =>
    rw [List.mapM_nil, List.forall₂_nil_left_iff]
    exact ⟨fun h ↦ (Except.ok.inj h).symm, fun h ↦ h ▸ rfl⟩
  | cons input inputs ih =>
    rw [List.mapM_cons, List.forall₂_cons_left_iff]
    constructor
    · intro h
      cases hfirst : operation input with
      | error fault =>
        rw [hfirst] at h
        cases h
      | ok output =>
        cases hrest : inputs.mapM operation with
        | error fault =>
          rw [hfirst, hrest] at h
          cases h
        | ok rest =>
          rw [hfirst, hrest] at h
          exact ⟨output, rest, rfl, ih.mp hrest, (Except.ok.inj h).symm⟩
    · rintro ⟨output, rest, hfirst, hrest, rfl⟩
      rw [hfirst, ih.mpr hrest]
      rfl

/-- A sequence of operations is defined exactly when each of them is. -/
theorem exists_mapM_eq_ok_iff {inputs : List Input} :
    (∃ outputs, inputs.mapM operation = .ok outputs) ↔
      ∀ input ∈ inputs, ∃ output, operation input = .ok output := by
  simp only [mapM_eq_ok_iff]
  induction inputs with
  | nil => simp
  | cons input inputs ih =>
    rw [List.forall_mem_cons, ← ih]
    constructor
    · rintro ⟨_, h⟩
      obtain ⟨output, rest, hfirst, hrest, -⟩ := List.forall₂_cons_left_iff.mp h
      exact ⟨⟨output, hfirst⟩, rest, hrest⟩
    · rintro ⟨⟨output, hfirst⟩, rest, hrest⟩
      exact ⟨output :: rest, List.Forall₂.cons hfirst hrest⟩

end Sequence

theorem exists_of_map_eq_ok {Input Result : Type*} {computation : Except Fault Input}
    {convert : Input → Result} {result : Result} (h : computation.map convert = .ok result) :
    ∃ input, computation = .ok input ∧ convert input = result := by
  cases computation with
  | error fault => cases h
  | ok input => exact ⟨input, rfl, Except.ok.inj h⟩

/-! ## Loops -/

section Loop

variable {State Input : Type*} (operation : State → Input → Except Fault State)

/-- A loop with a defined result composes the relations of its rounds. -/
theorem foldlM_related (relation : List Input → State → State → Prop)
    (hnil : ∀ state, relation [] state state)
    (hcons : ∀ input inputs before middle after, operation before input = .ok middle →
      relation inputs middle after → relation (input :: inputs) before after)
    {inputs : List Input} {before after : State}
    (hafter : inputs.foldlM operation before = .ok after) : relation inputs before after := by
  induction inputs generalizing before with
  | nil =>
    obtain rfl : before = after := Except.ok.inj hafter
    exact hnil before
  | cons input inputs ih =>
    rw [List.foldlM_cons] at hafter
    cases hfirst : operation before input with
    | error fault =>
      rw [hfirst] at hafter
      cases hafter
    | ok middle =>
      rw [hfirst] at hafter
      exact hcons input inputs before middle after hfirst (ih hafter)

/-- A loop whose rounds are defined under an invariant and keep it is defined. -/
theorem foldlM_defined (invariant : State → Prop) {inputs : List Input}
    (hround : ∀ input ∈ inputs, ∀ state, invariant state →
      ∃ after, operation state input = .ok after ∧ invariant after)
    {before : State} (hbefore : invariant before) :
    ∃ after, inputs.foldlM operation before = .ok after ∧ invariant after := by
  induction inputs generalizing before with
  | nil => exact ⟨before, rfl, hbefore⟩
  | cons input inputs ih =>
    rw [List.forall_mem_cons] at hround
    obtain ⟨middle, hfirst, hmiddle⟩ := hround.1 before hbefore
    obtain ⟨after, hrest, hafter⟩ := ih hround.2 hmiddle
    refine ⟨after, ?_, hafter⟩
    rw [List.foldlM_cons, hfirst]
    exact hrest

end Loop

/-! ## Words -/

theorem toNat_min (first second : UInt32) :
    (min first second).toNat = min first.toNat second.toNat := by
  rw [UInt32.min_def, Nat.min_def]
  simp only [UInt32.le_iff_toNat_le]
  split <;> rfl

theorem toNat_max (first second : UInt32) :
    (max first second).toNat = max first.toNat second.toNat := by
  rw [UInt32.max_def, Nat.max_def]
  simp only [UInt32.le_iff_toNat_le]
  split <;> rfl

/-- A 16-bit variable keeps a 32-bit word exactly when the word fits. -/
theorem toNat_toUInt16_eq_iff (word : UInt32) :
    word.toUInt16.toNat = word.toNat ↔ word.toNat < 2 ^ 16 := by
  rw [UInt32.toNat_toUInt16]
  constructor
  · intro hsame
    rw [← hsame]
    exact Nat.mod_lt _ (Nat.two_pow_pos 16)
  · exact Nat.mod_eq_of_lt

/-- Narrowed and widened again, a word is the same exactly when it fits into 16 bits. -/
theorem toUInt32_toUInt16_eq_iff (word : UInt32) :
    word.toUInt16.toUInt32 = word ↔ word.toNat < 2 ^ 16 := by
  rw [← toNat_toUInt16_eq_iff, ← UInt32.toNat_inj, UInt16.toNat_toUInt32]

end VirtualServiceGateway.CheckedOperation
