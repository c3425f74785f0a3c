import VirtualServiceGateway.Dpi.PriorityOrder

/-!
# Signature files are not read back

A signature line gives the class as a decimal number, but the loader extracts it into an unsigned
char and so takes the first digit as a character. Every installed class is therefore the code of a
digit, 48 or more, and no line of any file is installed as written. A class of one digit is the
only field that changes; the second digit of a longer class becomes the pattern.
-/

namespace VirtualServiceGateway.Dpi

open RankedList TextExtraction

/-- The fields of a line of a signature file. The class is one of the sixteen enumerators and the
pattern is one word. -/
structure SignatureLine where
  signatureId : UInt16
  classValue : Fin 16
  pattern : Text
  offset : UInt32
  depth : UInt32
  pattern_ne_nil : pattern ≠ []
  pattern_isWord : ∀ byte ∈ pattern, isSpace byte = false
  deriving DecidableEq

namespace SignatureLine

/-- The line as text: `id class pattern offset depth`, numbers in decimal. -/
def render (line : SignatureLine) : Text :=
  decimal line.signatureId.toNat ++ space :: (decimal line.classValue ++ space ::
    (line.pattern ++ space :: (decimal line.offset.toNat ++ space ::
      decimal line.depth.toNat)))

/-- A file made of signature lines. -/
def renderFile (lines : List SignatureLine) : Text :=
  lines.flatMap fun line ↦ line.render ++ [newline]

/-- The signature has exactly the five fields of the line. -/
def Describes (line : SignatureLine) (sig : DPISignature) : Prop :=
  sig.signatureId = line.signatureId ∧ sig.classification.code.toNat = line.classValue ∧
    sig.pattern = line.pattern ∧ sig.offset = line.offset ∧ sig.depth = line.depth

instance (line : SignatureLine) (sig : DPISignature) : Decidable (line.Describes sig) :=
  inferInstanceAs (Decidable (sig.signatureId = line.signatureId ∧
    sig.classification.code.toNat = line.classValue ∧ sig.pattern = line.pattern ∧
    sig.offset = line.offset ∧ sig.depth = line.depth))

/-- Loading the file installs one more signature with the fields of the line for every time that
the file holds the line. -/
def Installed (sorter : Sorter DPIClassifier.higherPriority) (classifier : DPIClassifier)
    (lines : List SignatureLine) (line : SignatureLine) : Prop :=
  (classifier.loadSignatures sorter (some (renderFile lines))).2.signatures.countP
      (fun sig ↦ line.Describes sig) =
    classifier.signatures.countP (fun sig ↦ line.Describes sig) + lines.count line

instance (sorter : Sorter DPIClassifier.higherPriority) (classifier : DPIClassifier)
    (lines : List SignatureLine) (line : SignatureLine) :
    Decidable (Installed sorter classifier lines line) :=
  inferInstanceAs (Decidable (_ = _))

/-! ## Lines of a rendered file -/

theorem stopsAt_space (select : UInt8 → Bool) (hspace : select space = false) (rest : Text) :
    StopsAt select (space :: rest) := by
  intro byte hbyte
  rw [← Option.some.inj hbyte]
  exact hspace

theorem newline_notMem_decimal (value : ℕ) : newline ∉ decimal value := by
  intro h
  have hdigit := isDigit_of_mem_decimal h
  exact absurd hdigit (by decide)

theorem newline_notMem_render (line : SignatureLine) : newline ∉ line.render := by
  have hpattern : newline ∉ line.pattern := by
    intro h
    have hblank := line.pattern_isWord newline h
    exact absurd hblank (by decide)
  have hspace : newline ≠ space := by decide
  simp [render, newline_notMem_decimal, hpattern, hspace]

theorem head?_render (line : SignatureLine) : ∃ byte ∈ line.render.head?, isDigit byte := by
  obtain ⟨first, others, hdecimal⟩ :=
    List.exists_cons_of_ne_nil (decimal_ne_nil line.signatureId.toNat)
  have hfirst : first ∈ decimal line.signatureId.toNat := by simp [hdecimal]
  refine ⟨first, ?_, isDigit_of_mem_decimal hfirst⟩
  simp [render, hdecimal]

/-- The signatures of a rendered file are those that its lines parse to. -/
theorem readSignatures_renderFile (lines : List SignatureLine) :
    DPIClassifier.readSignatures (renderFile lines) =
      lines.filterMap fun line ↦ DPIClassifier.parseLine line.render := by
  unfold DPIClassifier.readSignatures renderFile
  rw [getlines_flatMap render newline_notMem_render, List.filterMap_map]
  apply List.filterMap_congr
  intro line _
  obtain ⟨byte, hhead, hdigit⟩ := head?_render line
  have hnonempty : line.render ≠ [] := by
    intro hempty
    rw [hempty] at hhead
    cases hhead
  have hcomment : line.render.head? ≠ some DPIClassifier.commentMark := by
    rw [hhead]
    intro hmark
    rw [Option.some.inj hmark] at hdigit
    exact absurd hdigit (by decide)
  rw [Function.comp_apply, if_neg (not_or.mpr ⟨hnonempty, hcomment⟩)]

/-! ## What a line parses to -/

/-- The class of a parsed line is the code of a digit. -/
theorem le_code_of_parseLine {line : SignatureLine} {sig : DPISignature}
    (h : DPIClassifier.parseLine line.render = some sig) :
    48 ≤ sig.classification.code.toNat := by
  have hid : extractUnsigned 16 line.render = _ :=
    extractUnsigned_decimal line.signatureId.toNat_lt (stopsAt_space _ (by decide) _)
  obtain ⟨digit, others, hclass⟩ :=
    List.exists_cons_of_ne_nil (decimal_ne_nil (line.classValue : ℕ))
  have hmem : digit ∈ decimal (line.classValue : ℕ) := by simp [hclass]
  have hdigit : isDigit digit := isDigit_of_mem_decimal hmem
  simp only [DPIClassifier.parseLine, hid, hclass, List.cons_append, extractByte_space,
    extractByte_of_not_isSpace (not_isSpace_of_isDigit hdigit), Option.bind_eq_bind,
    Option.bind_some] at h
  obtain ⟨_, -, h⟩ := Option.bind_eq_some_iff.mp h
  obtain ⟨_, -, h⟩ := Option.bind_eq_some_iff.mp h
  obtain ⟨_, -, h⟩ := Option.bind_eq_some_iff.mp h
  rw [← Option.some.inj h]
  exact ((isDigit_iff digit).mp hdigit).1

/-- What a line with a class of one digit is read as. -/
def misread (line : SignatureLine) : DPISignature where
  signatureId := line.signatureId
  classification := ⟨zero + UInt8.ofNat line.classValue⟩
  pattern := line.pattern
  offset := line.offset
  depth := line.depth
  stateless := true
  priority := 0

/-- A line with a class of one digit is read back in every other field. -/
theorem parseLine_render_of_oneDigit (line : SignatureLine) (hclass : (line.classValue : ℕ) < 10) :
    DPIClassifier.parseLine line.render = some line.misread := by
  have hdigit : isDigit (zero + UInt8.ofNat line.classValue) := by
    rw [isDigit_iff, toNat_zero_add hclass]
    omega
  have hdecimal : decimal (line.classValue : ℕ) = [zero + UInt8.ofNat line.classValue] := by
    generalize (line.classValue : ℕ) = digit at hclass
    interval_cases digit <;> decide
  have hid : extractUnsigned 16 line.render = _ :=
    extractUnsigned_decimal line.signatureId.toNat_lt (stopsAt_space _ (by decide) _)
  have hpattern := fun rest ↦ extractWord_append line.pattern_ne_nil line.pattern_isWord
    (stopsAt_space (fun byte ↦ !isSpace byte) (by decide) rest)
  have hoffset := fun rest ↦
    extractUnsigned_decimal line.offset.toNat_lt (stopsAt_space isDigit (by decide) rest)
  have hdepth : extractUnsigned 32 (decimal line.depth.toNat) = some (line.depth.toNat, []) := by
    have hend : StopsAt isDigit [] := fun byte h ↦ by cases h
    have h := extractUnsigned_decimal line.depth.toNat_lt hend
    rwa [List.append_nil] at h
  simp only [DPIClassifier.parseLine, hid, hdecimal, List.singleton_append, extractByte_space,
    extractByte_of_not_isSpace (not_isSpace_of_isDigit hdigit), Option.bind_eq_bind,
    Option.bind_some, extractWord_space, hpattern, extractUnsigned_space, hoffset, hdepth,
    UInt16.ofNat_toNat, UInt32.ofNat_toNat]
  rfl

/-! ## What a file installs -/

/-- Loading a file of lines leaves the number of signatures with the fields of any line. -/
theorem countP_describes_loadSignatures (sorter : Sorter DPIClassifier.higherPriority)
    (classifier : DPIClassifier) (lines : List SignatureLine) (line : SignatureLine) :
    (classifier.loadSignatures sorter (some (renderFile lines))).2.signatures.countP
        (fun sig ↦ line.Describes sig) =
      classifier.signatures.countP (fun sig ↦ line.Describes sig) := by
  have hnone : (DPIClassifier.readSignatures (renderFile lines)).countP
      (fun sig ↦ line.Describes sig) = 0 := by
    apply List.countP_eq_zero.mpr
    intro sig hsig hdescribes
    rw [readSignatures_renderFile] at hsig
    obtain ⟨source, -, hparse⟩ := List.mem_filterMap.mp hsig
    have hcode := le_code_of_parseLine hparse
    have hclass := (of_decide_eq_true hdescribes).2.1
    have hlt := line.classValue.isLt
    omega
  calc
    _ = (classifier.signatures ++ DPIClassifier.readSignatures (renderFile lines)).countP
        (fun sig ↦ line.Describes sig) := (sorter.perm _).countP_eq _
    _ = _ := by rw [List.countP_append, hnone, Nat.add_zero]

/-- **No line is installed as written.** Whatever was installed before, loading a file of signature
lines installs no signature with the fields of any of them. -/
theorem not_installed_of_mem (sorter : Sorter DPIClassifier.higherPriority)
    (classifier : DPIClassifier) (lines : List SignatureLine) (line : SignatureLine)
    (hline : line ∈ lines) : ¬Installed sorter classifier lines line := by
  unfold Installed
  rw [countP_describes_loadSignatures]
  have hcount := List.count_pos_iff.mpr hline
  omega

/-- The two first kinds of lines of the shipped file: a class of one digit and one of two. -/
def httpLine : SignatureLine := ⟨1, 1, ascii "HTTP/1", 0, 512, by decide +kernel, by decide +kernel⟩
def videoLine : SignatureLine :=
  ⟨10, 10, ascii "M3U8", 0, 1024, by decide +kernel, by decide +kernel⟩

theorem httpLine_not_installed :
    ¬Installed insertionSorter (.create ⟨1000, 1, 1, false⟩) [httpLine, videoLine] httpLine :=
  not_installed_of_mem _ _ _ _ (by decide)

/-- The line of class 1 is installed with class 49, the code of the character 1, and the line of
class 10 is not installed at all. -/
theorem load_misreads_class :
    renderFile [httpLine, videoLine] = ascii "1 1 HTTP/1 0 512\n10 10 M3U8 0 1024\n" ∧
    ((DPIClassifier.create ⟨1000, 1, 1, false⟩).loadSignatures insertionSorter
      (some (renderFile [httpLine, videoLine]))).2.signatures =
        [⟨1, ⟨49⟩, ascii "HTTP/1", 0, 512, true, 0⟩] ∧
    ¬Installed insertionSorter (.create ⟨1000, 1, 1, false⟩) [httpLine, videoLine] httpLine ∧
    ¬Installed insertionSorter (.create ⟨1000, 1, 1, false⟩) [httpLine, videoLine] videoLine := by
  decide +kernel

end SignatureLine

end VirtualServiceGateway.Dpi
