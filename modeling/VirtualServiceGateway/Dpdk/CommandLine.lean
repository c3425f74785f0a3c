import Mathlib.Combinatorics.Colex
import Mathlib.Data.Nat.Bitwise
import VirtualServiceGateway.Foundation.OptionScan

/-!
# The command line of the forwarding program

One option names the enabled ports by a hexadecimal mask, and the last one counts. The command line
is accepted exactly when it is a row of such options and operands and the last mask is not zero. The
mask of any set of ports, however it is written, enables the ports of the set and no others.
-/

namespace VirtualServiceGateway.Dpdk

open TextExtraction OptionScan

/-- The letter of the option. -/
def portMaskOption : UInt8 := 112

/-- The option string `p:`. -/
def optstring : Arity := fun letter ↦ if letter = portMaskOption then some true else none

/-- One round of the loop over the options: the mask is replaced, or the loop is left. -/
def parseOption (_enabledPortmask : UInt32) : Report → Option UInt32
  | .given _ (some optarg) => some (strtoul16 optarg).toUInt32
  | _ => none

/-- The mask of the enabled ports, unless an option is not known or has no argument, or no port is
enabled. -/
def parseArgs (arguments : List Text) : Option UInt32 :=
  match (scan optstring arguments).foldlM parseOption 0 with
  | none => none
  | some enabledPortmask => if enabledPortmask = 0 then none else some enabledPortmask

/-- The bit of a port in the mask is set. -/
def portEnabled (enabledPortmask : UInt32) (portId : UInt16) : Bool :=
  enabledPortmask &&& (1 <<< portId.toUInt32) ≠ 0

/-! ## Which command lines are accepted -/

/-- The argument of an option, for a piece of the command line that is one. -/
def optionArgument : Piece → Option Text
  | .operand _ => none
  | .attached _ argument => some argument
  | .separate _ argument => some argument

/-- The mask that the last option of a row gives. -/
def lastMask (pieces : List Piece) : UInt32 :=
  match (pieces.filterMap optionArgument).getLast? with
  | none => 0
  | some optarg => (strtoul16 optarg).toUInt32

/-- The options of a row are read one after the other, and the last one stays. -/
theorem foldlM_parseOption (pieces : List Piece) :
    (pieces.filterMap Piece.report).foldlM parseOption 0 = some (lastMask pieces) := by
  induction pieces using List.reverseRecOn with
  | nil => rfl
  | append_singleton pieces piece ih =>
    have hoption (optarg : Text) (hargument : optionArgument piece = some optarg) :
        lastMask (pieces ++ [piece]) = (strtoul16 optarg).toUInt32 := by
      rw [lastMask, List.filterMap_append, List.filterMap_cons_some hargument, List.filterMap_nil,
        List.getLast?_concat]
    rw [List.filterMap_append, List.foldlM_append, ih, Option.bind_eq_bind, Option.bind_some]
    cases piece with
    | operand word =>
      have hsame : lastMask (pieces ++ [.operand word]) = lastMask pieces := by
        rw [lastMask, List.filterMap_append, List.filterMap_cons_none rfl, List.filterMap_nil,
          List.append_nil, lastMask]
      rw [hsame]
      rfl
    | attached letter argument =>
      rw [hoption argument rfl]
      rfl
    | separate letter argument =>
      rw [hoption argument rfl]
      rfl

/-- The loop goes through only if every option has its argument. -/
theorem hasArgument_of_foldlM {reports : List Report} {start enabledPortmask : UInt32}
    (h : reports.foldlM parseOption start = some enabledPortmask) :
    ∀ report ∈ reports, report.HasArgument := by
  induction reports generalizing start with
  | nil => simp
  | cons report reports ih =>
    rw [List.foldlM_cons] at h
    obtain ⟨next, hnext, hrest⟩ := Option.bind_eq_some_iff.mp h
    refine List.forall_mem_cons.mpr ⟨?_, ih hrest⟩
    cases report with
    | given letter argument =>
      cases argument with
      | none => cases hnext
      | some optarg => trivial
    | unknown letter => cases hnext
    | missing letter => cases hnext

theorem parseArgs_pieces {pieces : List Piece} (hwell : ∀ piece ∈ pieces, piece.Wellformed optstring)
    {tail : List Text} (hends : Ends tail) :
    parseArgs (pieces.flatMap Piece.words ++ tail) =
      if lastMask pieces = 0 then none else some (lastMask pieces) := by
  rw [parseArgs, scan_pieces hwell hends, foldlM_parseOption]

/-- **Accepted command lines.** A command line gives a mask exactly when it is a row of mask options
and operands, with nothing or two dashes after it, whose last option gives this mask, and the mask
is not zero. -/
theorem parseArgs_eq_some_iff (arguments : List Text) (enabledPortmask : UInt32) :
    parseArgs arguments = some enabledPortmask ↔ enabledPortmask ≠ 0 ∧
      ∃ (pieces : List Piece) (tail : List Text),
        (∀ piece ∈ pieces, piece.Wellformed optstring) ∧ Ends tail ∧
          arguments = pieces.flatMap Piece.words ++ tail ∧ lastMask pieces = enabledPortmask := by
  constructor
  · intro h
    unfold parseArgs at h
    cases hfold : (scan optstring arguments).foldlM parseOption 0 with
    | none => simp [hfold] at h
    | some mask =>
      obtain ⟨pieces, tail, hwell, hends, rfl⟩ :=
        exists_pieces optstring arguments (hasArgument_of_foldlM hfold)
      rw [scan_pieces hwell hends, foldlM_parseOption] at hfold
      have hmask := Option.some.inj hfold
      rw [scan_pieces hwell hends, foldlM_parseOption, hmask] at h
      by_cases hzero : mask = 0
      · simp [hzero] at h
      · simp only [hzero, if_false, Option.some.injEq] at h
        subst h
        exact ⟨hzero, pieces, tail, hwell, hends, rfl, hmask⟩
  · rintro ⟨hne, pieces, tail, hwell, hends, rfl, rfl⟩
    rw [parseArgs_pieces hwell hends, if_neg hne]

/-! ## Masks of sets of ports -/

/-- A port is enabled if its bit is set. -/
theorem portEnabled_iff (enabledPortmask : UInt32) {portId : UInt16} (hport : portId < 32) :
    portEnabled enabledPortmask portId = true ↔
      enabledPortmask.toNat.testBit portId.toNat = true := by
  have hbound : portId.toNat < 32 := hport
  have hbit : ((1 : UInt32) <<< portId.toUInt32).toNat = 2 ^ portId.toNat := by
    have hpow : 2 ^ portId.toNat < 2 ^ 32 := Nat.pow_lt_pow_right Nat.one_lt_two hbound
    rw [UInt32.toNat_shiftLeft, UInt16.toNat_toUInt32, Nat.mod_eq_of_lt hbound,
      Nat.shiftLeft_eq, UInt32.toNat_one, Nat.one_mul, Nat.mod_eq_of_lt hpow]
  simp only [portEnabled, ne_eq, decide_not, Bool.not_eq_true', decide_eq_false_iff_not]
  rw [← UInt32.toNat_inj, UInt32.toNat_and, hbit, Nat.and_two_pow]
  simp

/-- The sum of the bits of a set of ports has the bit of each of them. -/
theorem testBit_sum_two_pow (ports : Finset ℕ) (portId : ℕ) :
    (∑ port ∈ ports, 2 ^ port).testBit portId = true ↔ portId ∈ ports := by
  rw [← Nat.mem_bitIndices, ← List.mem_toFinset, Finset.toFinset_bitIndices_sum_two_pow]

/-- **The mask enables its ports.** On any command line whose last option writes, in hexadecimal,
the mask of a set of ports that is not empty, exactly the ports of the set are enabled. -/
theorem parseArgs_ports {pieces : List Piece}
    (hwell : ∀ piece ∈ pieces, piece.Wellformed optstring) {tail : List Text} (hends : Ends tail)
    {optarg : Text} (hlast : (pieces.filterMap optionArgument).getLast? = some optarg)
    {ports : Finset ℕ} (hne : ports.Nonempty) (hports : ∀ port ∈ ports, port < 32)
    (hmask : HexNumber optarg (∑ port ∈ ports, 2 ^ port)) :
    ∃ enabledPortmask, parseArgs (pieces.flatMap Piece.words ++ tail) = some enabledPortmask ∧
      ∀ portId < 32, portEnabled enabledPortmask portId = true ↔ portId.toNat ∈ ports := by
  have hbound : ∑ port ∈ ports, 2 ^ port < 2 ^ 32 := Nat.geomSum_lt le_rfl hports
  have hvalue : (strtoul16 optarg).toUInt32.toNat = ∑ port ∈ ports, 2 ^ port := by
    rw [strtoul16_hexNumber hmask (by omega), UInt64.toNat_toUInt32, UInt64.toNat_ofNat',
      Nat.mod_eq_of_lt (by omega : ∑ port ∈ ports, 2 ^ port < 2 ^ 64), Nat.mod_eq_of_lt hbound]
  have hlastMask : lastMask pieces = (strtoul16 optarg).toUInt32 := by
    rw [lastMask, hlast]
  obtain ⟨port, hport⟩ := hne
  have hzero : lastMask pieces ≠ 0 := by
    rw [hlastMask, ← UInt32.toNat_inj.ne, hvalue]
    have hlt := Finset.lt_geomSum_of_mem (n := 2) le_rfl hport
    exact Nat.ne_of_gt (Nat.zero_lt_of_lt hlt)
  refine ⟨lastMask pieces, ?_, fun portId hportId ↦ ?_⟩
  · rw [parseArgs_pieces hwell hends, if_neg hzero]
  · rw [portEnabled_iff _ hportId, hlastMask, hvalue, testBit_sum_two_pow]

/-- An operand, an option with one port, and an option with the ports 0 and 1. -/
theorem twoPorts_enabled :
    ∃ enabledPortmask,
      parseArgs [ascii "forward", ascii "-p4", ascii "-p", ascii "0X03", ascii "--", ascii "-p"] =
          some enabledPortmask ∧
        ∀ portId < 32, portEnabled enabledPortmask portId = true ↔
          portId.toNat ∈ ({0, 1} : Finset ℕ) :=
  have hmask : HexNumber (ascii "0X03") (∑ port ∈ ({0, 1} : Finset ℕ), 2 ^ port) :=
    ⟨ascii "03", .inr (.inr (by decide)), by decide, by decide +kernel, by decide +kernel⟩
  have hwell : ∀ piece ∈ [.operand (ascii "forward"), .attached portMaskOption (ascii "4"),
      .separate portMaskOption (ascii "0X03")], Piece.Wellformed optstring piece := by
    simp only [List.forall_mem_cons]
    exact ⟨rfl, ⟨by decide, by decide⟩, ⟨by decide, by decide⟩, by simp⟩
  have hends : Ends [ascii "--", ascii "-p"] := by
    intro word hword
    rw [← Option.some.inj hword]
    decide
  parseArgs_ports hwell hends rfl ⟨0, by decide⟩ (by decide) hmask

end VirtualServiceGateway.Dpdk
