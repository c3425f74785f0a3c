import Mathlib.Data.Set.List
import VirtualServiceGateway.Dpi.SignatureFile

/-!
# The format of signature files

What the loader accepts is exactly what can be written as a line: a number of 16 bits, one byte that
is not blank, a word, and two numbers of 32 bits. Every file is read as the file that such lines
make, whatever else it contains, and files are read one after the other when they are joined.
-/

namespace VirtualServiceGateway.Dpi

open RankedList TextExtraction

/-- A signature that a file can bring. -/
structure LoadableSignature where
  signatureId : UInt16
  classByte : UInt8
  pattern : Text
  offset : UInt32
  depth : UInt32
  classByte_notSpace : isSpace classByte = false
  pattern_ne_nil : pattern ≠ []
  pattern_isWord : ∀ byte ∈ pattern, isSpace byte = false

namespace LoadableSignature

/-- The signature as the classifier keeps it. -/
def signature (record : LoadableSignature) : DPISignature where
  signatureId := record.signatureId
  classification := ⟨record.classByte⟩
  pattern := record.pattern
  offset := record.offset
  depth := record.depth
  stateless := true
  priority := 0

/-- The signature as a line, with the class as the byte itself. -/
def render (record : LoadableSignature) : Text :=
  decimal record.signatureId.toNat ++ space :: record.classByte :: space ::
    (record.pattern ++ space :: (decimal record.offset.toNat ++ space ::
      decimal record.depth.toNat))

/-- A file made of signatures. -/
def renderFile (records : List LoadableSignature) : Text :=
  records.flatMap fun record ↦ record.render ++ [newline]

theorem signature_injective : Function.Injective signature := by
  rintro ⟨firstId, firstClass, firstPattern, firstOffset, firstDepth, _, _, _⟩
    ⟨secondId, secondClass, secondPattern, secondOffset, secondDepth, _, _, _⟩ hsame
  simpa [signature] using hsame

/-! ## One line -/

/-- A written signature is read back. -/
theorem parseLine_render (record : LoadableSignature) :
    DPIClassifier.parseLine record.render = some record.signature := by
  have hid : extractUnsigned 16 record.render = _ :=
    extractUnsigned_decimal record.signatureId.toNat_lt
      (SignatureLine.stopsAt_space _ (by decide) _)
  have hpattern := fun rest ↦ extractWord_append record.pattern_ne_nil record.pattern_isWord
    (SignatureLine.stopsAt_space (fun byte ↦ !isSpace byte) (by decide) rest)
  have hoffset := fun rest ↦ extractUnsigned_decimal record.offset.toNat_lt
    (SignatureLine.stopsAt_space isDigit (by decide) rest)
  have hdepth : extractUnsigned 32 (decimal record.depth.toNat) =
      some (record.depth.toNat, []) := by
    have hend : StopsAt isDigit [] := fun byte h ↦ by cases h
    have h := extractUnsigned_decimal record.depth.toNat_lt hend
    rwa [List.append_nil] at h
  simp only [DPIClassifier.parseLine, hid, extractByte_space,
    extractByte_of_not_isSpace record.classByte_notSpace, Option.bind_eq_bind, Option.bind_some,
    extractWord_space, hpattern, extractUnsigned_space, hoffset, hdepth, UInt16.ofNat_toNat,
    UInt32.ofNat_toNat]
  rfl

/-- What a line parses to can be written. -/
theorem exists_of_parseLine {line : Text} {sig : DPISignature}
    (h : DPIClassifier.parseLine line = some sig) :
    ∃ record : LoadableSignature, record.signature = sig := by
  simp only [DPIClassifier.parseLine, Option.bind_eq_bind] at h
  obtain ⟨⟨sigId, afterId⟩, -, h⟩ := Option.bind_eq_some_iff.mp h
  obtain ⟨⟨classVal, afterClass⟩, hclass, h⟩ := Option.bind_eq_some_iff.mp h
  obtain ⟨⟨pattern, afterPattern⟩, hpattern, h⟩ := Option.bind_eq_some_iff.mp h
  obtain ⟨⟨offset, afterOffset⟩, -, h⟩ := Option.bind_eq_some_iff.mp h
  obtain ⟨⟨depth, afterDepth⟩, -, h⟩ := Option.bind_eq_some_iff.mp h
  obtain ⟨hne, hword⟩ := isWord_of_extractWord hpattern
  exact ⟨⟨UInt16.ofNat sigId, classVal, pattern, UInt32.ofNat offset, UInt32.ofNat depth,
    not_isSpace_of_extractByte hclass, hne, hword⟩, Option.some.inj h⟩

theorem newline_notMem_render (record : LoadableSignature) : newline ∉ record.render := by
  have hpattern : newline ∉ record.pattern := by
    intro h
    have hblank := record.pattern_isWord newline h
    exact absurd hblank (by decide)
  have hclass : newline ≠ record.classByte := by
    intro h
    have hblank := record.classByte_notSpace
    rw [← h] at hblank
    exact absurd hblank (by decide)
  have hspace : newline ≠ space := by decide
  simp [render, SignatureLine.newline_notMem_decimal, hpattern, hclass, hspace]

/-- A written signature is neither an empty line nor a comment. -/
theorem not_skipped_render (record : LoadableSignature) :
    ¬(record.render = [] ∨ record.render.head? = some DPIClassifier.commentMark) := by
  obtain ⟨first, others, hdecimal⟩ :=
    List.exists_cons_of_ne_nil (decimal_ne_nil record.signatureId.toNat)
  have hfirst : isDigit first := isDigit_of_mem_decimal (by simp [hdecimal] : first ∈
    decimal record.signatureId.toNat)
  rw [render, hdecimal]
  rintro (hempty | hcomment)
  · cases hempty
  · rw [Option.some.inj hcomment] at hfirst
    exact absurd hfirst (by decide)

/-! ## Whole files -/

/-- A written file is read back, signature for signature. -/
theorem readSignatures_renderFile (records : List LoadableSignature) :
    DPIClassifier.readSignatures (renderFile records) = records.map signature := by
  unfold DPIClassifier.readSignatures renderFile
  rw [getlines_flatMap render newline_notMem_render, List.filterMap_map, ← List.filterMap_eq_map]
  apply List.filterMap_congr
  intro record _
  rw [Function.comp_apply, if_neg record.not_skipped_render, parseLine_render]
  rfl

/-- What is read can be written. -/
theorem exists_of_mem_readSignatures {file : Text} {sig : DPISignature}
    (hsig : sig ∈ DPIClassifier.readSignatures file) :
    ∃ record : LoadableSignature, record.signature = sig := by
  obtain ⟨line, -, hline⟩ := List.mem_filterMap.mp hsig
  split at hline
  · cases hline
  · exact exists_of_parseLine hline

theorem exists_readSignatures_eq_map (file : Text) :
    ∃ records : List LoadableSignature, records.map signature =
      DPIClassifier.readSignatures file := by
  have hrange : DPIClassifier.readSignatures file ∈ Set.range (List.map signature) := by
    rw [Set.range_list_map]
    exact fun sig ↦ exists_of_mem_readSignatures
  exact hrange

/-- **The format.** Every list of signatures that can be written as lines is read back from its
file, and every file whatever is read as exactly one such list. So what a file brings is what its
written form brings. -/
theorem file_format :
    (∀ records : List LoadableSignature,
      DPIClassifier.readSignatures (renderFile records) = records.map signature) ∧
    ∀ file, ∃! records : List LoadableSignature,
      DPIClassifier.readSignatures file = records.map signature ∧
        DPIClassifier.readSignatures (renderFile records) = DPIClassifier.readSignatures file := by
  refine ⟨readSignatures_renderFile, fun file ↦ ?_⟩
  obtain ⟨records, hrecords⟩ := exists_readSignatures_eq_map file
  refine ⟨records, ⟨hrecords.symm, ?_⟩, fun others hothers ↦ ?_⟩
  · rw [readSignatures_renderFile, hrecords]
  · refine List.map_injective_iff.mpr signature_injective ?_
    rw [hrecords, ← hothers.1]

end LoadableSignature

/-! ## Joined files -/

namespace DPIClassifier

/-- The files one after the other, each ended by a newline. -/
def joined (files : List Text) : Text := files.flatMap fun file ↦ file ++ [newline]

/-- Reading is a homomorphism: a newline between two files adds empty lines at most. -/
theorem readSignatures_append (first second : Text) :
    readSignatures (first ++ newline :: second) =
      readSignatures first ++ readSignatures second := by
  obtain ⟨between, hbetween, hlines⟩ := exists_getlines_append first second
  have hnone : between.filterMap (fun line ↦
      if line = [] ∨ line.head? = some commentMark then none else parseLine line) = [] := by
    apply List.filterMap_eq_nil_iff.mpr
    intro line hline
    rw [if_pos (Or.inl (hbetween line hline))]
  unfold readSignatures
  rw [hlines, List.filterMap_append, List.filterMap_append, hnone, List.append_nil]

theorem readSignatures_joined (files : List Text) :
    readSignatures (joined files) = files.flatMap readSignatures := by
  induction files with
  | nil => rfl
  | cons file files ih =>
    have hcons : joined (file :: files) = file ++ newline :: joined files := by
      simp [joined]
    rw [hcons, readSignatures_append, ih, List.flatMap_cons]

/-- Files loaded one after the other add what each of them brings. -/
theorem signatures_loadFiles (sorter : Sorter higherPriority) (classifier : DPIClassifier)
    (files : List Text) :
    (Execution.run (step sorter) classifier
      (files.map fun file ↦ Call.loadSignatures (some file))).signatures.Perm
        (classifier.signatures ++ files.flatMap readSignatures) := by
  induction files generalizing classifier with
  | nil => simp
  | cons file files ih =>
    have hloaded := sorter.perm (classifier.signatures ++ readSignatures file)
    calc
      _ = (Execution.run (step sorter) (step sorter classifier (.loadSignatures (some file)))
            (files.map fun file ↦ Call.loadSignatures (some file))).signatures := rfl
      List.Perm _ ((step sorter classifier (.loadSignatures (some file))).signatures ++
            files.flatMap readSignatures) := ih _
      List.Perm _ ((classifier.signatures ++ readSignatures file) ++
            files.flatMap readSignatures) := hloaded.append_right _
      _ = _ := by rw [List.append_assoc, List.flatMap_cons]

/-- **Joined files.** Loading any files one after the other, in any order, leaves the signatures
that loading the one joined file leaves. -/
theorem load_joined (sorter : Sorter higherPriority) (classifier : DPIClassifier)
    (files others : List Text) (horder : files.Perm others) :
    (Execution.run (step sorter) classifier
      (files.map fun file ↦ Call.loadSignatures (some file))).signatures.Perm
        (classifier.loadSignatures sorter (some (joined others))).2.signatures := by
  have hothers : (classifier.loadSignatures sorter (some (joined others))).2.signatures.Perm
      (classifier.signatures ++ others.flatMap readSignatures) := by
    rw [← readSignatures_joined]
    exact sorter.perm _
  have hsame := (horder.flatMap_right readSignatures).append_left classifier.signatures
  exact ((signatures_loadFiles sorter classifier files).trans hsame).trans hothers.symm

/-- Two files, the first without a newline at its end, joined in the other order. -/
theorem twoFiles_joined :
    (Execution.run (step insertionSorter) (create ⟨1000, 1, 1, false⟩)
      ([ascii "# web\n1 w HTTP/1 0 512", ascii "2 v M3U8 0 9\n"].map
        fun file ↦ Call.loadSignatures (some file))).signatures.Perm
      ((create ⟨1000, 1, 1, false⟩).loadSignatures insertionSorter
        (some (joined [ascii "2 v M3U8 0 9\n", ascii "# web\n1 w HTTP/1 0 512"]))).2.signatures :=
  load_joined insertionSorter _ _ _ (List.Perm.swap _ _ _)

end DPIClassifier

end VirtualServiceGateway.Dpi
