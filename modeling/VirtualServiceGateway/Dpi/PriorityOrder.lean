import Mathlib.Data.List.Sort
import VirtualServiceGateway.Dpi.FirstMatch

/-!
# When the first match has the highest priority

Loads sort the signatures by descending priority and removals keep the order. An update does not
sort: it appends a new signature or writes over the old one in place. The signatures stay ordered
through a run exactly when every update happens to fit where it is put, and in an ordered list the
first match is one of highest priority.
-/

namespace VirtualServiceGateway.Dpi

open RankedList

/-- The priority as a number. -/
def DPISignature.rank (sig : DPISignature) : ℕ := sig.priority.toNat

/-- The signatures stand in descending order of priority. -/
def DPIClassifier.PriorityOrdered (classifier : DPIClassifier) : Prop :=
  Descending DPISignature.rank classifier.signatures

instance (classifier : DPIClassifier) : Decidable classifier.PriorityOrdered :=
  inferInstanceAs (Decidable (classifier.signatures.Pairwise fun earlier later ↦
    later.rank ≤ earlier.rank))

/-- The result is the classification of a matching signature whose priority no other matching
signature exceeds, or unknown when no signature matches. -/
def IsTopClassification (signatures : List DPISignature) (payload : Payload)
    (result : ClassificationResult) : Prop :=
  (∃ sig ∈ signatures, sig.Matches payload ∧ result = sig.classification ∧
    ∀ other ∈ signatures, other.Matches payload → other.rank ≤ sig.rank) ∨
  (∀ sig ∈ signatures, ¬sig.Matches payload) ∧ result = .unknown

instance (signatures : List DPISignature) (payload : Payload) (result : ClassificationResult) :
    Decidable (IsTopClassification signatures payload result) :=
  inferInstanceAs (Decidable ((∃ sig ∈ signatures, sig.Matches payload ∧
    result = sig.classification ∧
      ∀ other ∈ signatures, other.Matches payload → other.rank ≤ sig.rank) ∨
    (∀ sig ∈ signatures, ¬sig.Matches payload) ∧ result = .unknown))

/-- An updated signature fits where it is put: behind all signatures when its id is new, and
between its neighbours when it replaces one. -/
def UpdateFits (classifier : DPIClassifier) : Call → Prop
  | .updateSignature sig =>
      match classifier.find sig.signatureId with
      | none => ∀ installed ∈ classifier.signatures, sig.rank ≤ installed.rank
      | some place =>
          (∀ earlier ∈ classifier.signatures.take place, sig.rank ≤ earlier.rank) ∧
            ∀ later ∈ classifier.signatures.drop (place + 1), later.rank ≤ sig.rank
  | _ => True

theorem descending_sort (sorter : Sorter DPIClassifier.higherPriority)
    (signatures : List DPISignature) :
    Descending DPISignature.rank (sorter.sort signatures) := by
  apply (sorter.ordered signatures).imp
  intro earlier later h
  simpa [DPIClassifier.higherPriority, DPISignature.rank, UInt32.lt_iff_toNat_lt] using h

/-- One call keeps the order exactly when an update fits. -/
theorem priorityOrdered_step_iff (sorter : Sorter DPIClassifier.higherPriority)
    (classifier : DPIClassifier) (call : Call) (hordered : classifier.PriorityOrdered) :
    (classifier.step sorter call).PriorityOrdered ↔ UpdateFits classifier call := by
  cases call with
  | loadSignatures file =>
    simp only [UpdateFits, iff_true]
    cases file with
    | none => exact hordered
    | some file => exact descending_sort sorter _
  | updateSignature sig =>
    simp only [DPIClassifier.step, DPIClassifier.updateSignature, UpdateFits]
    cases hfind : classifier.find sig.signatureId with
    | none => exact descending_append_singleton_iff _ hordered sig
    | some place =>
      obtain ⟨hplace, -⟩ := find_eq_some hfind
      exact descending_set_iff _ hordered hplace sig
  | removeSignature signatureId =>
    simp only [DPIClassifier.step, DPIClassifier.removeSignature, UpdateFits, iff_true]
    cases classifier.find signatureId with
    | none => exact hordered
    | some place => exact descending_eraseIdx _ hordered place
  | setGuardrails guardrails =>
    simp only [UpdateFits, iff_true]
    exact hordered
  | classify payload draw start stop =>
    simp only [UpdateFits, iff_true]
    unfold DPIClassifier.PriorityOrdered
    rw [signatures_step_classify]
    exact hordered

/-- In an ordered list the first match is one of highest priority. -/
theorem isTopClassification_firstMatch {signatures : List DPISignature}
    (hordered : Descending DPISignature.rank signatures) (payload : Payload) :
    IsTopClassification signatures payload (classificationOf (firstMatch payload signatures)) := by
  cases hfound : firstMatch payload signatures with
  | none =>
    right
    have hnone := List.find?_eq_none.mp hfound
    exact ⟨fun sig hsig ↦ by simpa using hnone sig hsig, rfl⟩
  | some sig =>
    left
    have hmatches : sig.Matches payload := by simpa using List.find?_some hfound
    refine ⟨sig, List.mem_of_find?_eq_some hfound, hmatches, rfl, fun other hother hmatch ↦ ?_⟩
    exact rank_le_of_find?_eq_some DPISignature.rank hordered hfound hother (by simpa using hmatch)

/-- Every `classify` that is neither sampled out nor timed out returns the classification of a
matching signature of highest priority. -/
def DPIClassifier.AnswersByPriority (classifier : DPIClassifier) : Prop :=
  ∀ (payload : Payload) (draw : UInt32) (start stop : Int64),
    classifier.sampledOut draw = .ok false →
    elapsedUs start stop ≤ classifier.guardrails.timeoutUs →
    ∃ classified, classifier.classify (some payload) draw start stop = .ok classified ∧
      IsTopClassification classifier.signatures payload classified.result

theorem DPIClassifier.PriorityOrdered.answersByPriority {classifier : DPIClassifier}
    (hordered : classifier.PriorityOrdered) : classifier.AnswersByPriority := by
  intro payload draw start stop hsampled htime
  obtain ⟨classified, hclassify, hresult⟩ :=
    classify_eq classifier payload draw start stop hsampled htime
  refine ⟨classified, hclassify, ?_⟩
  rw [hresult]
  exact isTopClassification_firstMatch hordered payload

/-- **Exact order condition.** Through a run the signatures are ordered in every state if and only
if every update fits where it is put; and then every state answers by priority. -/
theorem priorityOrdered_iff_updatesFit (sorter : Sorter DPIClassifier.higherPriority)
    (guardrails : DPIGuardrails) (calls : List Call) :
    ((∀ before, before <+: calls →
        (DPIClassifier.after sorter guardrails before).PriorityOrdered) ↔
      Execution.StepsMeet (DPIClassifier.step sorter) UpdateFits (.create guardrails) calls) ∧
    (Execution.StepsMeet (DPIClassifier.step sorter) UpdateFits (.create guardrails) calls →
      ∀ before, before <+: calls →
        (DPIClassifier.after sorter guardrails before).AnswersByPriority) := by
  have hexact := Execution.forall_prefix_iff_stepsMeet (DPIClassifier.step sorter)
    (.create guardrails) DPIClassifier.PriorityOrdered UpdateFits List.Pairwise.nil
    (priorityOrdered_step_iff sorter) calls
  exact ⟨hexact, fun hfits before hbefore ↦
    DPIClassifier.PriorityOrdered.answersByPriority (hexact.mpr hfits before hbefore)⟩

/-- One sort that keeps the contract: insertion from the back, which is stable. -/
def insertionSorter : Sorter DPIClassifier.higherPriority where
  sort := List.insertionSort fun first second ↦ second.rank ≤ first.rank
  perm := List.perm_insertionSort _
  ordered := fun signatures ↦ by
    have : Std.Total fun first second : DPISignature ↦ second.rank ≤ first.rank :=
      ⟨fun first second ↦ le_total _ _⟩
    have : IsTrans DPISignature fun first second ↦ second.rank ≤ first.rank :=
      ⟨fun _ _ _ h₁ h₂ ↦ h₂.trans h₁⟩
    apply (List.pairwise_insertionSort _ signatures).imp
    intro earlier later h
    simpa [DPIClassifier.higherPriority, DPISignature.rank, UInt32.lt_iff_toNat_lt] using h

/-- Two updates, the second with the higher priority: a payload that both match is classified by
the first. -/
theorem update_ignores_priority :
    let low : DPISignature := ⟨1, ⟨1⟩, [65], 0, 16, true, 1⟩
    let high : DPISignature := ⟨2, ⟨2⟩, [65], 0, 16, true, 5⟩
    let payload : Payload := ⟨[65], by decide⟩
    let classifier := DPIClassifier.after insertionSorter ⟨1000, 1, 1, false⟩
      [.updateSignature low, .updateSignature high]
    classifier.signatures = [low, high] ∧ low.Matches payload ∧ high.Matches payload ∧
    classifier.sampledOut 0 = .ok false ∧
    (classifier.classify (some payload) 0 0 0).map Classified.result = .ok low.classification ∧
    ¬classifier.PriorityOrdered ∧
    ¬IsTopClassification classifier.signatures payload low.classification := by
  decide +kernel

end VirtualServiceGateway.Dpi
