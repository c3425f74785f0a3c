import VirtualServiceGateway.Dpi.PriorityOrder

/-!
# When the signatures form a map by id

Updates and removals change the first signature with the id only, and a load appends whatever the
file holds. The ids stay distinct through a run exactly when every load brings ids that are new and
differ from each other. While they are distinct, an update leaves its signature as the only one
with the id, and a removal leaves none.
-/

namespace VirtualServiceGateway.Dpi

open RankedList TextExtraction

/-- No two installed signatures share an id. -/
def DPIClassifier.IdsDistinct (classifier : DPIClassifier) : Prop :=
  Distinct DPISignature.signatureId classifier.signatures

instance (classifier : DPIClassifier) : Decidable classifier.IdsDistinct :=
  inferInstanceAs (Decidable (classifier.signatures.map DPISignature.signatureId).Nodup)

/-- The signatures of a loaded file have ids that differ from each other and from the installed
ones. -/
def LoadBringsNewIds (classifier : DPIClassifier) : Call → Prop
  | .loadSignatures (some file) =>
      Distinct DPISignature.signatureId (DPIClassifier.readSignatures file) ∧
        ∀ sig ∈ DPIClassifier.readSignatures file, ∀ installed ∈ classifier.signatures,
          installed.signatureId ≠ sig.signatureId
  | _ => True

/-- One call keeps the ids distinct exactly when a load brings new ids only. -/
theorem idsDistinct_step_iff (sorter : Sorter DPIClassifier.higherPriority)
    (classifier : DPIClassifier) (call : Call) (hdistinct : classifier.IdsDistinct) :
    (classifier.step sorter call).IdsDistinct ↔ LoadBringsNewIds classifier call := by
  cases call with
  | loadSignatures file =>
    cases file with
    | none =>
      simp only [LoadBringsNewIds, iff_true]
      exact hdistinct
    | some file =>
      have hperm := sorter.perm (classifier.signatures ++ DPIClassifier.readSignatures file)
      exact (distinct_perm _ hperm).trans (distinct_append_iff _ hdistinct _)
  | updateSignature sig =>
    simp only [DPIClassifier.step, DPIClassifier.updateSignature, LoadBringsNewIds, iff_true]
    cases hfind : classifier.find sig.signatureId with
    | none =>
      apply (distinct_append_iff _ hdistinct [sig]).mpr
      refine ⟨List.nodup_singleton _, fun item hitem installed hinstalled ↦ ?_⟩
      rw [List.mem_singleton.mp hitem]
      exact find_eq_none hfind installed hinstalled
    | some place =>
      obtain ⟨hplace, hid⟩ := find_eq_some hfind
      unfold DPIClassifier.IdsDistinct Distinct
      rw [map_key_set _ (List.getElem?_eq_getElem hplace) hid.symm]
      exact hdistinct
  | removeSignature signatureId =>
    simp only [DPIClassifier.step, DPIClassifier.removeSignature, LoadBringsNewIds, iff_true]
    cases classifier.find signatureId with
    | none => exact hdistinct
    | some place => exact distinct_eraseIdx _ hdistinct place
  | setGuardrails guardrails =>
    simp only [LoadBringsNewIds, iff_true]
    exact hdistinct
  | classify payload draw start stop =>
    simp only [LoadBringsNewIds, iff_true]
    unfold DPIClassifier.IdsDistinct
    rw [signatures_step_classify]
    exact hdistinct

/-- An update puts its signature into the list. -/
theorem mem_updateSignature (classifier : DPIClassifier) (sig : DPISignature) :
    sig ∈ (classifier.updateSignature sig).signatures := by
  unfold DPIClassifier.updateSignature
  cases hfind : classifier.find sig.signatureId with
  | none => exact List.mem_append_right _ (List.mem_singleton_self sig)
  | some place =>
    obtain ⟨hplace, -⟩ := find_eq_some hfind
    exact List.mem_set hplace sig

/-- No result of `classify` comes from a signature with the id: each result other than unknown is
the classification of the first match, and that has another id. -/
def DPIClassifier.NoResultFrom (classifier : DPIClassifier) (signatureId : UInt16) : Prop :=
  ∀ (payload : Payload) (draw : UInt32) (start stop : Int64) (classified : Classified),
    classifier.classify (some payload) draw start stop = .ok classified →
    classified.result ≠ .unknown →
    ∃ sig, firstMatch payload classifier.signatures = some sig ∧
      classified.result = sig.classification ∧ sig.signatureId ≠ signatureId

theorem noResultFrom_of_forall_ne {classifier : DPIClassifier} {signatureId : UInt16}
    (h : ∀ installed ∈ classifier.signatures, installed.signatureId ≠ signatureId) :
    classifier.NoResultFrom signatureId := by
  intro payload draw start stop classified hclassify hresult
  rcases classify_cases hclassify with ⟨rfl, -⟩ | ⟨inspected, hinspected, -, rfl⟩
  · exact absurd rfl hresult
  · obtain rfl : payload = inspected := Option.some.inj hinspected
    have hmatched := settle_result_of_ne hresult
    rw [hmatched] at hresult ⊢
    cases hfound : firstMatch payload classifier.signatures with
    | none =>
      rw [hfound] at hresult
      exact absurd rfl hresult
    | some sig => exact ⟨sig, rfl, rfl, h sig (List.mem_of_find?_eq_some hfound)⟩

/-- What a call on one id has to achieve: after an update its signature is the only one with the
id, after a removal there is none and no result comes from one. -/
def TakesEffect (classifier : DPIClassifier) : Call → Prop
  | .updateSignature sig => ∀ installed,
      installed ∈ classifier.signatures ∧ installed.signatureId = sig.signatureId ↔ installed = sig
  | .removeSignature signatureId =>
      (∀ installed ∈ classifier.signatures, installed.signatureId ≠ signatureId) ∧
        classifier.NoResultFrom signatureId
  | _ => True

/-- On distinct ids, updates and removals take effect. -/
theorem takesEffect_step (sorter : Sorter DPIClassifier.higherPriority)
    (classifier : DPIClassifier) (call : Call) (hdistinct : classifier.IdsDistinct) :
    TakesEffect (classifier.step sorter call) call := by
  cases call with
  | updateSignature sig =>
    have hafter := (idsDistinct_step_iff sorter classifier (.updateSignature sig) hdistinct).mpr
      trivial
    have hmem := mem_updateSignature classifier sig
    intro installed
    constructor
    · intro h
      exact eq_of_distinct _ hafter h.1 hmem h.2
    · rintro rfl
      exact ⟨hmem, rfl⟩
  | removeSignature signatureId =>
    have hremoved : ∀ installed ∈ (classifier.removeSignature signatureId).signatures,
        installed.signatureId ≠ signatureId := by
      unfold DPIClassifier.removeSignature
      cases hfind : classifier.find signatureId with
      | none => exact find_eq_none hfind
      | some place =>
        obtain ⟨hplace, hid⟩ := find_eq_some hfind
        intro installed hinstalled
        rw [← hid]
        exact key_ne_of_mem_eraseIdx _ hdistinct (List.getElem?_eq_getElem hplace) hinstalled
    exact ⟨hremoved, noResultFrom_of_forall_ne hremoved⟩
  | _ => trivial

/-- **Exact id condition.** Through a run the installed ids are distinct in every state if and only
if every load brings new ids only; and then every update and every removal takes effect. -/
theorem idsDistinct_iff_loadsBringNewIds (sorter : Sorter DPIClassifier.higherPriority)
    (guardrails : DPIGuardrails) (calls : List Call) :
    ((∀ before, before <+: calls →
        (DPIClassifier.after sorter guardrails before).IdsDistinct) ↔
      Execution.StepsMeet (DPIClassifier.step sorter) LoadBringsNewIds (.create guardrails)
        calls) ∧
    (Execution.StepsMeet (DPIClassifier.step sorter) LoadBringsNewIds (.create guardrails) calls →
      ∀ before call, before ++ [call] <+: calls →
        TakesEffect (DPIClassifier.after sorter guardrails (before ++ [call])) call) := by
  have hexact := Execution.forall_prefix_iff_stepsMeet (DPIClassifier.step sorter)
    (.create guardrails) DPIClassifier.IdsDistinct LoadBringsNewIds List.nodup_nil
    (idsDistinct_step_iff sorter) calls
  refine ⟨hexact, fun hnew before call hearlier ↦ ?_⟩
  have hdistinct := hexact.mpr hnew before ((List.prefix_append _ _).trans hearlier)
  unfold DPIClassifier.after
  rw [Execution.run_concat]
  exact takesEffect_step sorter _ call hdistinct

/-- The same file loaded twice installs its signature twice; a removal leaves one of them, and
payloads are still classified by it. -/
theorem reload_duplicates_id :
    let file := ascii "7 1 A 0 9\n"
    let payload : Payload := ⟨ascii "A", by decide⟩
    let classifier := DPIClassifier.after insertionSorter ⟨1000, 1, 1, false⟩
      [.loadSignatures (some file), .loadSignatures (some file), .removeSignature 7]
    let installed : DPISignature := ⟨7, ⟨49⟩, ascii "A", 0, 9, true, 0⟩
    ¬(DPIClassifier.after insertionSorter ⟨1000, 1, 1, false⟩
      [.loadSignatures (some file), .loadSignatures (some file)]).IdsDistinct ∧
    classifier.signatures = [installed] ∧
    firstMatch payload classifier.signatures = some installed ∧
    (classifier.classify (some payload) 0 0 0).map Classified.result =
      .ok installed.classification := by
  decide +kernel

end VirtualServiceGateway.Dpi
