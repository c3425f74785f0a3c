import VirtualServiceGateway.Dpi.CounterIndex
import VirtualServiceGateway.Foundation.WrappingCounter

/-!
# What the classification counts count

While every installed signature has a declared class, the count of a class is the wrapped number of
`classify` calls that returned it, through any run. A call that returned unknown, for whatever
reason, leaves all counts as they were.
-/

namespace VirtualServiceGateway.Dpi

open TextExtraction WrappingCounter DPIClassifier

namespace DPIClassifier

/-- The count of a class, zero when it has none. -/
def getClassificationCount (classifier : DPIClassifier) (classification : ClassificationResult) :
    UInt64 :=
  if h : classification.code.toNat < 16 then
    classifier.classificationCounts[classification.code.toNat]
  else 0

/-- How many times the call returns the class: once or not at all. -/
def returned (classification : ClassificationResult) (classifier : DPIClassifier) : Call → ℕ
  | .classify payload draw start stop =>
      match classifier.classify payload draw start stop with
      | .ok classified => if classified.result = classification then 1 else 0
      | .error _ => 0
  | _ => 0

end DPIClassifier

/-- All signatures have a declared class. -/
def AllDeclared (classifier : DPIClassifier) : Prop :=
  ∀ sig ∈ classifier.signatures, sig.classification.Declared

/-! ## One call -/

theorem declared_classificationOf {classifier : DPIClassifier} (hdeclared : AllDeclared classifier)
    (payload : Payload) :
    (classificationOf (firstMatch payload classifier.signatures)).Declared := by
  cases hfound : firstMatch payload classifier.signatures with
  | none => exact Nat.zero_lt_succ 15
  | some sig => exact hdeclared sig (List.mem_of_find?_eq_some hfound)

/-- A settled result is counted once, unless it is unknown or too late. -/
theorem getClassificationCount_settle (classifier : DPIClassifier) {result : ClassificationResult}
    (hresult : result.Declared) (elapsed : UInt32) {classification : ClassificationResult}
    (hunknown : classification ≠ .unknown) :
    (classifier.settle result elapsed).classifier.getClassificationCount classification =
      classifier.getClassificationCount classification +
        if (classifier.settle result elapsed).result = classification then 1 else 0 := by
  have hother : ClassificationResult.unknown ≠ classification := hunknown.symm
  unfold DPIClassifier.settle
  split
  case isTrue => exact (add_zero _).symm
  case isFalse =>
    split
    case isTrue hknown =>
      have hindex : result.code.toNat < 16 := hresult
      unfold getClassificationCount
      simp only [dif_pos hindex]
      by_cases hsame : result = classification
      · rw [← hsame, if_pos rfl, dif_pos hindex, dif_pos hindex, Vector.getElem_set_self]
      · have hcode : result.code.toNat ≠ classification.code.toNat :=
          fun h ↦ hsame (congrArg ClassificationResult.mk (UInt8.toNat.inj h))
        rw [if_neg hsame, add_zero]
        split
        · exact Vector.getElem_set_ne _ _ hcode
        · rfl
    case isFalse hknown =>
      rw [Classical.not_not] at hknown
      rw [hknown, if_neg hother, add_zero]

/-- A settled unknown leaves the counts as they were. -/
theorem classificationCounts_settle_of_unknown {classifier : DPIClassifier}
    {result : ClassificationResult} {elapsed : UInt32}
    (hunknown : (classifier.settle result elapsed).result = .unknown) :
    (classifier.settle result elapsed).classifier.classificationCounts =
      classifier.classificationCounts := by
  unfold DPIClassifier.settle at hunknown ⊢
  split
  case isTrue => rfl
  case isFalse htime =>
    rw [if_neg htime] at hunknown
    split
    case isTrue hknown =>
      rw [if_pos hknown] at hunknown
      exact absurd hunknown hknown
    case isFalse => rfl

/-- One call adds what it returned to the count of each class. -/
theorem getClassificationCount_step (sorter : RankedList.Sorter DPIClassifier.higherPriority)
    {classifier : DPIClassifier} (hdeclared : AllDeclared classifier) (call : Call)
    {classification : ClassificationResult} (hunknown : classification ≠ .unknown) :
    (classifier.step sorter call).getClassificationCount classification =
      classifier.getClassificationCount classification +
        wrap64 (returned classification classifier call) := by
  cases call with
  | classify payload draw start stop =>
    cases hclassify : classifier.classify payload draw start stop with
    | error fault => simp only [DPIClassifier.step, returned, hclassify, map_zero, add_zero]
    | ok classified =>
      simp only [DPIClassifier.step, returned, hclassify]
      rcases classify_cases hclassify with ⟨rfl, -⟩ | ⟨inspected, -, -, rfl⟩
      · rw [if_neg hunknown.symm, map_zero, add_zero]
      · rw [apply_ite wrap64, map_zero, wrap64_one]
        exact getClassificationCount_settle classifier
          (declared_classificationOf hdeclared inspected) _ hunknown
  | loadSignatures file => cases file <;> exact (add_zero _).symm
  | updateSignature sig =>
    simp only [DPIClassifier.step, updateSignature, returned, map_zero, add_zero]
    split <;> rfl
  | removeSignature signatureId =>
    simp only [DPIClassifier.step, removeSignature, returned, map_zero, add_zero]
    split <;> rfl
  | setGuardrails guardrails => exact (add_zero _).symm

/-- A call that returns unknown changes no count. -/
theorem classificationCounts_of_unknown {classifier : DPIClassifier} {payload : Option Payload}
    {draw : UInt32} {start stop : Int64} {classified : Classified}
    (hclassify : classifier.classify payload draw start stop = .ok classified)
    (hunknown : classified.result = .unknown) :
    classified.classifier.classificationCounts = classifier.classificationCounts := by
  rcases classify_cases hclassify with ⟨rfl, -⟩ | ⟨inspected, -, -, rfl⟩
  · rfl
  · exact classificationCounts_settle_of_unknown hunknown

/-! ## Every run -/

/-- Declared classes are all that a call with declared classes leaves. -/
theorem allDeclared_step (sorter : RankedList.Sorter DPIClassifier.higherPriority)
    {classifier : DPIClassifier} (hdeclared : AllDeclared classifier) {call : Call}
    (hinstalls : ∀ sig ∈ call.installs, sig.classification.Declared) :
    AllDeclared (classifier.step sorter call) := by
  intro sig hsig
  rcases mem_signatures_step hsig with hold | hnew
  · exact hdeclared sig hold
  · exact hinstalls sig hnew

theorem getClassificationCount_run (sorter : RankedList.Sorter DPIClassifier.higherPriority)
    {classifier : DPIClassifier} (hdeclared : AllDeclared classifier) {calls : List Call}
    (hinstalls : ∀ call ∈ calls, ∀ sig ∈ call.installs, sig.classification.Declared)
    {classification : ClassificationResult} (hunknown : classification ≠ .unknown) :
    (Execution.run (step sorter) classifier calls).getClassificationCount classification =
      classifier.getClassificationCount classification +
        wrap64 (Execution.total (step sorter) (returned classification) classifier calls) := by
  induction calls generalizing classifier with
  | nil => exact (add_zero _).symm
  | cons call calls ih =>
    have hfirst := List.forall_mem_cons.mp hinstalls
    rw [Execution.run_cons, ih (allDeclared_step sorter hdeclared hfirst.1) hfirst.2,
      getClassificationCount_step sorter hdeclared call hunknown, Execution.total, map_add,
      add_assoc]

/-- **Classification accounting.** While all installed signatures have a declared class, the count
of every class but unknown is the number of calls that returned it, modulo `2 ^ 64`; and no call
that returned unknown changed a count. -/
theorem getClassificationCount_after (sorter : RankedList.Sorter DPIClassifier.higherPriority)
    (guardrails : DPIGuardrails) (calls : List Call)
    (hinstalls : ∀ call ∈ calls, ∀ sig ∈ call.installs, sig.classification.Declared) :
    (∀ classification, classification ≠ .unknown →
      ((DPIClassifier.after sorter guardrails calls).getClassificationCount
          classification).toNat =
        Execution.total (step sorter) (returned classification) (create guardrails) calls %
          2 ^ 64) ∧
    ∀ before payload draw start stop classified,
      before ++ [.classify payload draw start stop] <+: calls →
      (DPIClassifier.after sorter guardrails before).classify payload draw start stop =
        .ok classified →
      classified.result = .unknown →
        classified.classifier.classificationCounts =
          (DPIClassifier.after sorter guardrails before).classificationCounts := by
  constructor
  · intro classification hunknown
    have hstart : (create guardrails).getClassificationCount classification = 0 := by
      unfold getClassificationCount
      split
      · exact Vector.getElem_replicate _
      · rfl
    have hnone : AllDeclared (create guardrails) := fun sig hsig ↦ absurd hsig List.not_mem_nil
    have hrun := getClassificationCount_run sorter hnone hinstalls hunknown
    rw [hstart, zero_add] at hrun
    unfold DPIClassifier.after
    rw [hrun, toNat_wrap64]
  · intro before payload draw start stop classified _ hclassify hresult
    exact classificationCounts_of_unknown hclassify hresult

/-- A matching payload is counted for its class, one that matches nothing is not. -/
theorem getClassificationCount_after_two :
    let sig : DPISignature := ⟨7, ⟨1⟩, ascii "A", 0, 9, true, 0⟩
    let calls := [.updateSignature sig, .classify (some ⟨ascii "A", by decide⟩) 0 0 0,
      .classify (some ⟨ascii "B", by decide⟩) 0 0 0]
    ((DPIClassifier.after insertionSorter ⟨1000, 1, 1, false⟩ calls).getClassificationCount
      ⟨1⟩).toNat = 1 := by
  intro sig calls
  have hinstalls : ∀ call ∈ calls, ∀ sig ∈ call.installs, sig.classification.Declared := by
    simp [calls, sig, Call.installs, ClassificationResult.Declared]
  have hcount := (getClassificationCount_after insertionSorter ⟨1000, 1, 1, false⟩ calls
    hinstalls).1 ⟨1⟩ (by decide)
  rw [hcount]
  decide +kernel

end VirtualServiceGateway.Dpi
