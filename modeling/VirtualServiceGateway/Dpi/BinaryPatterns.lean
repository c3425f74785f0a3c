import VirtualServiceGateway.Dpi.SignatureFile
import VirtualServiceGateway.Dpi.FirstMatch

/-!
# Escaped patterns match their own text

The shipped signature file writes binary patterns as bytes in hexadecimal, a backslash and an x
before each. The loader keeps this text as the pattern, four bytes for each byte meant, and the
matcher looks for it in the payload. So the signature agrees with the bytes meant only where neither
can match: when the window, or every payload, is too short for them.
-/

namespace VirtualServiceGateway.Dpi

open RankedList TextExtraction

/-- The bytes occur in the payload from the offset on, within the depth. -/
def OccursInWindow (bytes : List UInt8) (offset depth : UInt32) (payload : Payload) : Prop :=
  ∃ position, offset.toNat ≤ position ∧
    position + bytes.length ≤ min payload.bytes.length (offset.toNat + depth.toNat) ∧
    bytes <+: payload.bytes.drop position

namespace SignatureLine

/-- A signature line whose pattern is an escaped text of the bytes. -/
def escaped (signatureId : UInt16) (classValue : Fin 16) (offset depth : UInt32)
    {bytes : List UInt8} {text : Text} (hbytes : bytes ≠ []) (htext : Escapes bytes text) :
    SignatureLine where
  signatureId := signatureId
  classValue := classValue
  pattern := text
  offset := offset
  depth := depth
  pattern_ne_nil := htext.ne_nil hbytes
  pattern_isWord := htext.not_isSpace

/-- Loading the line installs one more signature, and the matcher finds it in a payload exactly when
the bytes occur in the payload inside the window of the line. -/
def InstallsMatcher (sorter : Sorter DPIClassifier.higherPriority) (classifier : DPIClassifier)
    (line : SignatureLine) (bytes : List UInt8) : Prop :=
  ∃ sig : DPISignature,
    (classifier.loadSignatures sorter (some (renderFile [line]))).2.signatures.Perm
      (sig :: classifier.signatures) ∧
    ∀ payload, visitSignature payload sig = .ok true ↔
      OccursInWindow bytes line.offset line.depth payload

/-! ## What the line installs -/

/-- The signatures after the load are the old ones and what the line parses to. -/
theorem loadSignatures_singleton (sorter : Sorter DPIClassifier.higherPriority)
    (classifier : DPIClassifier) (line : SignatureLine) :
    (classifier.loadSignatures sorter (some (renderFile [line]))).2.signatures.Perm
      (classifier.signatures ++ (DPIClassifier.parseLine line.render).toList) := by
  have hread : DPIClassifier.readSignatures (renderFile [line]) =
      (DPIClassifier.parseLine line.render).toList := by
    rw [readSignatures_renderFile, List.filterMap_cons, List.filterMap_nil]
    cases DPIClassifier.parseLine line.render <;> rfl
  rw [← hread]
  exact sorter.perm _

/-- A line with a class of two digits and an escaped pattern is skipped: the second digit is taken
for the pattern, and the backslash is no offset. -/
theorem parseLine_render_of_escapes {line : SignatureLine} {bytes : List UInt8}
    (hbytes : bytes ≠ []) (htext : Escapes bytes line.pattern)
    (hclass : 10 ≤ (line.classValue : ℕ)) : DPIClassifier.parseLine line.render = none := by
  have hlt := line.classValue.isLt
  have hdecimal : decimal (line.classValue : ℕ) =
      [zero + 1, zero + UInt8.ofNat (line.classValue - 10)] := by
    generalize (line.classValue : ℕ) = value at hclass hlt
    interval_cases value <;> decide
  have hid : extractUnsigned 16 line.render = _ :=
    extractUnsigned_decimal line.signatureId.toNat_lt (stopsAt_space _ (by decide) _)
  have hfirst : isSpace (zero + 1) = false := by decide
  have hsecond : isDigit (zero + UInt8.ofNat (line.classValue - 10)) := by
    rw [isDigit_iff, toNat_zero_add (by omega)]
    omega
  have hword := fun rest ↦ extractWord_append (List.cons_ne_nil _ [])
    (List.forall_mem_singleton.mpr (not_isSpace_of_isDigit hsecond))
    (stopsAt_space (fun byte ↦ !isSpace byte) (by decide) rest)
  obtain ⟨others, hpattern⟩ := htext.exists_eq_cons hbytes
  have hoffset := fun rest ↦ extractUnsigned_eq_none (show isSpace backslash = false by decide)
    (by decide) (by decide) (by decide) 32 rest
  simp only [DPIClassifier.parseLine, hid, hdecimal, List.cons_append, List.nil_append,
    extractByte_space, extractByte_of_not_isSpace hfirst, Option.bind_eq_bind, Option.bind_some]
  simp only [List.singleton_append] at hword
  rw [hword, Option.bind_some]
  simp only [extractUnsigned_space, hpattern, List.cons_append, hoffset, Option.bind_none]

end SignatureLine

/-! ## What the signature matches -/

/-- A pattern that is not empty matches where it occurs in the window. -/
theorem visitSignature_iff_occurs {sig : DPISignature} (hpattern : sig.pattern ≠ [])
    (payload : Payload) :
    visitSignature payload sig = .ok true ↔
      OccursInWindow sig.pattern sig.offset sig.depth payload := by
  have hpos := List.length_pos_of_ne_nil hpattern
  rw [visitSignature_eq, Except.ok.injEq, decide_eq_true_iff]
  constructor
  · intro hmatches
    obtain ⟨-, position, -, hfrom, hend, hfound⟩ := hmatches
    exact ⟨position, hfrom, hend, hfound⟩
  · intro hoccurs
    obtain ⟨position, hfrom, hend, hfound⟩ := hoccurs
    exact ⟨by omega, position, by omega, hfrom, hend, hfound⟩

section Window

variable {bytes text : List UInt8} {offset depth : UInt32}

/-- Bytes that occur fit into the depth, and end inside a payload. -/
theorem fits_of_occurs {payload : Payload} (hoccurs : OccursInWindow bytes offset depth payload) :
    bytes.length ≤ depth.toNat ∧ offset.toNat + bytes.length ≤ payload.bytes.length := by
  obtain ⟨position, hfrom, hend, -⟩ := hoccurs
  omega

/-- Bytes that fit occur right at the offset of a payload that ends with them. -/
theorem exists_occurs (hdepth : bytes.length ≤ depth.toNat)
    (hpayload : offset.toNat + bytes.length < 2 ^ 32) :
    ∃ payload : Payload, payload.bytes.length = offset.toNat + bytes.length ∧
      OccursInWindow bytes offset depth payload := by
  have hlength : (List.replicate offset.toNat 0 ++ bytes).length =
      offset.toNat + bytes.length := by
    rw [List.length_append, List.length_replicate]
  refine ⟨⟨List.replicate offset.toNat 0 ++ bytes, by rwa [hlength]⟩, hlength,
    offset.toNat, le_rfl, ?_, ?_⟩
  · rw [hlength]
    omega
  · rw [List.drop_left' (List.length_replicate ..)]

/-- A longer text occurs in the same payloads exactly when neither it nor the bytes occur in any. -/
theorem occurs_iff_of_longer (hlonger : bytes.length < text.length) :
    (∀ payload, OccursInWindow text offset depth payload ↔
        OccursInWindow bytes offset depth payload) ↔
      depth.toNat < bytes.length ∨ 2 ^ 32 ≤ offset.toNat + bytes.length := by
  constructor
  · intro hsame
    by_contra hfits
    rw [not_or, Nat.not_lt, Nat.not_le] at hfits
    obtain ⟨payload, hlength, hoccurs⟩ := exists_occurs hfits.1 hfits.2
    have htext := fits_of_occurs ((hsame payload).mpr hoccurs)
    omega
  · intro hshort payload
    have hbound := payload.length_lt
    apply iff_of_false
    · intro hoccurs
      have hfits := fits_of_occurs hoccurs
      omega
    · intro hoccurs
      have hfits := fits_of_occurs hoccurs
      omega

end Window

namespace SignatureLine

/-- **Binary patterns.** Loading a line with an escaped pattern installs a signature that matches
where the bytes meant occur if and only if the class has one digit and the bytes can occur in no
payload: they are longer than the depth, or end past the longest payload. -/
theorem installsMatcher_escaped_iff (sorter : Sorter DPIClassifier.higherPriority)
    (classifier : DPIClassifier) (signatureId : UInt16) (classValue : Fin 16)
    (offset depth : UInt32) {bytes : List UInt8} {text : Text} (hbytes : bytes ≠ [])
    (htext : Escapes bytes text) :
    InstallsMatcher sorter classifier
        (escaped signatureId classValue offset depth hbytes htext) bytes ↔
      (classValue : ℕ) < 10 ∧
        (depth.toNat < bytes.length ∨ 2 ^ 32 ≤ offset.toNat + bytes.length) := by
  have hlonger : bytes.length < text.length := by
    have hpos := List.length_pos_of_ne_nil hbytes
    rw [htext.length_eq]
    omega
  let line := escaped signatureId classValue offset depth hbytes htext
  have hload := loadSignatures_singleton sorter classifier line
  by_cases hclass : (classValue : ℕ) < 10
  · have hmatch (payload : Payload) : visitSignature payload line.misread = .ok true ↔
        OccursInWindow text offset depth payload :=
      visitSignature_iff_occurs line.pattern_ne_nil payload
    rw [parseLine_render_of_oneDigit line hclass] at hload
    have hinstalled := hload.trans (List.perm_append_singleton line.misread classifier.signatures)
    rw [and_iff_right hclass, ← occurs_iff_of_longer hlonger]
    constructor
    · intro hinstalls
      obtain ⟨sig, hperm, hsig⟩ := hinstalls
      have hsame : sig = line.misread :=
        (Multiset.cons_inj_left (classifier.signatures : Multiset DPISignature)).mp
          (Multiset.coe_eq_coe.mpr (hperm.symm.trans hinstalled))
      intro payload
      rw [← hmatch, ← hsame]
      exact hsig payload
    · intro hsame
      exact ⟨line.misread, hinstalled, fun payload ↦ (hmatch payload).trans (hsame payload)⟩
  · apply iff_of_false
    · intro hinstalls
      obtain ⟨sig, hperm, -⟩ := hinstalls
      rw [parseLine_render_of_escapes hbytes htext (Nat.not_lt.mp hclass)] at hload
      have hlengths := (hperm.symm.trans hload).length_eq
      simp at hlengths
    · exact fun h ↦ hclass h.1

/-- The three bytes of the HTTPS line of the shipped file, and the twelve characters it writes them
with. -/
def httpsBytes : List UInt8 := [0x16, 0x03, 0x01]
def httpsText : Text := [92, 120, 49, 54, 92, 120, 48, 51, 92, 120, 48, 49]

theorem escapes_https : Escapes httpsBytes httpsText :=
  .cons rfl rfl rfl (.cons rfl rfl rfl (.cons rfl rfl rfl .nil))

/-- In a window of two bytes neither the three bytes nor the text can occur. -/
theorem installsMatcher_of_short_depth :
    InstallsMatcher insertionSorter (.create ⟨1000, 1, 1, false⟩)
      (escaped 2 2 0 2 (List.cons_ne_nil _ _) escapes_https) httpsBytes :=
  (installsMatcher_escaped_iff insertionSorter (.create ⟨1000, 1, 1, false⟩) 2 2 0 2
    (List.cons_ne_nil _ _) escapes_https).mpr (by decide)

/-- The HTTPS line of the shipped file installs a signature that does not match a payload that
starts with the three bytes. -/
theorem https_line_matches_nothing :
    let line := escaped 2 2 0 512 (List.cons_ne_nil _ _) escapes_https
    let payload : Payload := ⟨httpsBytes, by decide⟩
    line.render = ascii "2 2 \\x16\\x03\\x01 0 512" ∧
    OccursInWindow httpsBytes 0 512 payload ∧
    visitSignature payload line.misread = .ok false ∧
    ¬InstallsMatcher insertionSorter (.create ⟨1000, 1, 1, false⟩) line httpsBytes := by
  intro line payload
  have hoccurs : OccursInWindow httpsBytes 0 512 payload :=
    ⟨0, le_rfl, by decide, List.prefix_rfl⟩
  have hvisit : visitSignature payload line.misread = .ok false := by decide +kernel
  have hloaded : ((DPIClassifier.create ⟨1000, 1, 1, false⟩).loadSignatures insertionSorter
      (some (renderFile [line]))).2.signatures = [line.misread] := by decide +kernel
  refine ⟨by decide +kernel, hoccurs, hvisit, fun hinstalls ↦ ?_⟩
  obtain ⟨sig, hperm, hmatch⟩ := hinstalls
  have hsame : line.misread = sig := by
    rw [hloaded] at hperm
    exact List.singleton_perm_singleton.mp hperm
  have hfound := (hmatch payload).mpr hoccurs
  rw [← hsame, hvisit] at hfound
  cases hfound

end SignatureLine

end VirtualServiceGateway.Dpi
