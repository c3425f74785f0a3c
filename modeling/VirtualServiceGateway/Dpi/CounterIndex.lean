import VirtualServiceGateway.Dpi.PriorityOrder

/-!
# When the counters are indexed inside their bounds

`classify` increments the count at the code of its result, and the constructor allocates sixteen
counts. Neither the parser nor an update looks at the code of a signature, so the index is in
bounds exactly while no counted result comes from a signature with a code of sixteen or more.
-/

namespace VirtualServiceGateway.Dpi

open TextExtraction

/-- The code is one of the sixteen that the constructor allocates counts for. -/
def ClassificationResult.Declared (result : ClassificationResult) : Prop := result.code.toNat < 16

/-- A `classify` call increments a count below the sixteen allocated, or none. -/
def CountsInBounds (classifier : DPIClassifier) : Call → Prop
  | .classify payload draw start stop => ∀ classified index,
      classifier.classify payload draw start stop = .ok classified →
      classified.incremented = some index → index < 16
  | _ => True

/-- A `classify` call that runs the matcher in time finds a signature with a declared class, or
none. -/
def MatchesDeclared (classifier : DPIClassifier) : Call → Prop
  | .classify payload draw start stop => ∀ inspected ∈ payload,
      classifier.Inspects inspected draw →
      DPIClassifier.elapsedUs start stop ≤ classifier.guardrails.timeoutUs →
      ∀ sig ∈ firstMatch inspected classifier.signatures, sig.classification.Declared
  | _ => True

/-- The signatures that a call brings in. -/
def Call.installs : Call → List DPISignature
  | .loadSignatures (some file) => DPIClassifier.readSignatures file
  | .updateSignature sig => [sig]
  | _ => []

/-! ## One call -/

/-- A settled result in time increments the count at its code, unless it is unknown. -/
theorem settle_incremented {classifier : DPIClassifier} {elapsed : UInt32}
    (htime : elapsed ≤ classifier.guardrails.timeoutUs) (result : ClassificationResult) :
    (classifier.settle result elapsed).incremented =
      if result ≠ .unknown then some result.code.toNat else none := by
  unfold DPIClassifier.settle
  rw [if_neg (UInt32.not_lt.mpr htime)]
  split <;> rfl

/-- A timeout increments nothing. -/
theorem settle_incremented_of_timeout {classifier : DPIClassifier} {elapsed : UInt32}
    (htime : classifier.guardrails.timeoutUs < elapsed) (result : ClassificationResult) :
    (classifier.settle result elapsed).incremented = none := by
  unfold DPIClassifier.settle
  rw [if_pos htime]

/-- One call counts in bounds exactly when its match is of a declared class. -/
theorem countsInBounds_iff (classifier : DPIClassifier) (call : Call) :
    CountsInBounds classifier call ↔ MatchesDeclared classifier call := by
  cases call with
  | classify payload draw start stop =>
    constructor
    · rintro h inspected rfl hinspects htime sig hfound
      by_cases hunknown : sig.classification = .unknown
      · rw [hunknown]
        exact Nat.zero_lt_succ 15
      · apply h _ _ (classify_of_inspects hinspects start stop)
        rw [Option.mem_def.mp hfound, settle_incremented htime]
        exact if_pos hunknown
    · intro h classified index hclassify hindex
      rcases classify_cases hclassify with ⟨rfl, -⟩ | ⟨inspected, rfl, hinspects, rfl⟩
      · cases hindex
      · by_cases htime : DPIClassifier.elapsedUs start stop ≤ classifier.guardrails.timeoutUs
        · have hdeclared := h inspected rfl hinspects htime
          rw [settle_incremented htime] at hindex
          cases hfound : firstMatch inspected classifier.signatures with
          | none =>
            rw [hfound] at hindex
            cases hindex
          | some sig =>
            rw [hfound] at hindex
            obtain ⟨-, hindex⟩ := Option.ite_none_right_eq_some.mp hindex
            rw [← Option.some.inj hindex]
            exact hdeclared sig hfound
        · rw [settle_incremented_of_timeout (UInt32.not_le.mp htime)] at hindex
          cases hindex
  | _ => rfl

/-! ## Every run -/

/-- A call only brings in its own signatures. -/
theorem mem_signatures_step {sorter : RankedList.Sorter DPIClassifier.higherPriority}
    {classifier : DPIClassifier} {call : Call} {sig : DPISignature}
    (h : sig ∈ (classifier.step sorter call).signatures) :
    sig ∈ classifier.signatures ∨ sig ∈ call.installs := by
  cases call with
  | loadSignatures file =>
    cases file with
    | none => exact Or.inl h
    | some file => exact List.mem_append.mp ((sorter.perm _).mem_iff.mp h)
  | updateSignature new =>
    simp only [DPIClassifier.step, DPIClassifier.updateSignature] at h
    cases hfind : classifier.find new.signatureId with
    | none =>
      rw [hfind] at h
      exact List.mem_append.mp h
    | some place =>
      rw [hfind] at h
      rcases List.mem_or_eq_of_mem_set h with hold | rfl
      · exact Or.inl hold
      · exact Or.inr (List.mem_singleton_self sig)
  | removeSignature signatureId =>
    simp only [DPIClassifier.step, DPIClassifier.removeSignature] at h
    cases hfind : classifier.find signatureId with
    | none =>
      rw [hfind] at h
      exact Or.inl h
    | some place =>
      rw [hfind] at h
      exact Or.inl (List.mem_of_mem_eraseIdx h)
  | setGuardrails guardrails => exact Or.inl h
  | classify payload draw start stop =>
    rw [signatures_step_classify] at h
    exact Or.inl h

/-- **Exact index condition.** Through a run every increment is in bounds if and only if every
`classify` that runs the matcher in time finds a signature with a declared class or none; and this
is so whenever all installed signatures have a declared class. -/
theorem countsInBounds_iff_matchesDeclared
    (sorter : RankedList.Sorter DPIClassifier.higherPriority) (guardrails : DPIGuardrails)
    (calls : List Call) :
    ((∀ before call, before ++ [call] <+: calls →
        CountsInBounds (DPIClassifier.after sorter guardrails before) call) ↔
      Execution.StepsMeet (DPIClassifier.step sorter) MatchesDeclared (.create guardrails) calls) ∧
    ((∀ call ∈ calls, ∀ sig ∈ call.installs, sig.classification.Declared) →
      Execution.StepsMeet (DPIClassifier.step sorter) MatchesDeclared (.create guardrails)
        calls) := by
  constructor
  · rw [Execution.stepsMeet_iff_forall_prefix]
    apply forall₃_congr
    intro before call _
    exact countsInBounds_iff _ call
  · intro hdeclared
    apply Execution.stepsMeet_of_forall fun classifier : DPIClassifier ↦
      ∀ sig ∈ classifier.signatures, sig.classification.Declared
    · intro sig hsig
      cases hsig
    · intro classifier call hcall hall
      constructor
      · cases call with
        | classify payload draw start stop =>
          intro inspected _ _ _ sig hfound
          exact hall sig (List.mem_of_find?_eq_some hfound)
        | _ => trivial
      · intro sig hsig
        rcases mem_signatures_step hsig with hold | hnew
        · exact hall sig hold
        · exact hdeclared call hcall sig hnew

/-- The first line of the shipped signature file is installed with the code of the digit 1, and a
payload that it matches is counted at index 49. -/
theorem loaded_class_counted_out_of_bounds :
    let payload : Payload := ⟨ascii "HTTP/1.1 200 OK", by decide +kernel⟩
    let classifier := DPIClassifier.after insertionSorter ⟨100, 0, 10, true⟩
      [.loadSignatures (some (ascii "1 1 HTTP/1 0 512\n"))]
    (classifier.classify (some payload) 0 0 0).map Classified.incremented = .ok (some 49) ∧
    ¬CountsInBounds classifier (.classify (some payload) 0 0 0) := by
  intro payload classifier
  have hindex : (classifier.classify (some payload) 0 0 0).map Classified.incremented =
      .ok (some 49) := by decide +kernel
  refine ⟨hindex, fun h ↦ ?_⟩
  cases hclassify : classifier.classify (some payload) 0 0 0 with
  | error fault =>
    rw [hclassify] at hindex
    cases hindex
  | ok classified =>
    rw [hclassify] at hindex
    exact absurd (h classified 49 hclassify (Except.ok.inj hindex)) (by decide)

end VirtualServiceGateway.Dpi
