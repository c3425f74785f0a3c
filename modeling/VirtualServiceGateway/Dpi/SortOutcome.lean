import VirtualServiceGateway.Dpi.PriorityOrder

/-!
# When the sort does not matter

A load sorts by priority with a sort of which only the contract is known, and every loaded
signature has the same priority. A payload is classified the same by every outcome of the sort
exactly when all matching signatures of the highest priority have one classification: otherwise the
sort, and not the order in the file, decides between them.
-/

namespace VirtualServiceGateway.Dpi

open RankedList TextExtraction

/-- A matching signature whose priority no other matching signature exceeds. -/
def IsTop (signatures : List DPISignature) (payload : Payload) (sig : DPISignature) : Prop :=
  sig ∈ signatures ∧ sig.Matches payload ∧
    ∀ other ∈ signatures, other.Matches payload → other.rank ≤ sig.rank

/-- After loading the file, the payload gets the same match from all outcomes that the contract of
the sort permits. -/
def OutcomesAgree (classifier : DPIClassifier) (file : Text) (payload : Payload) : Prop :=
  ∀ first second : Sorter DPIClassifier.higherPriority,
    (classifier.loadSignatures first (some file)).2.matchSignatures payload =
      (classifier.loadSignatures second (some file)).2.matchSignatures payload

/-- The sort that puts a signature in front of all others of its priority. -/
def preferring (sig : DPISignature) : Sorter DPIClassifier.higherPriority :=
  insertionSorter.rearranged
    (fun signatures ↦ if sig ∈ signatures then sig :: signatures.erase sig else signatures)
    fun signatures ↦ by
      split
      case isTrue h => exact (List.perm_cons_erase h).symm
      case isFalse => rfl

/-- Under the sort that prefers a top signature, that signature is the first match. -/
theorem firstMatch_preferring {signatures : List DPISignature} {payload : Payload}
    {sig : DPISignature} (htop : IsTop signatures payload sig) :
    firstMatch payload ((preferring sig).sort signatures) = some sig := by
  obtain ⟨hmem, hmatches, hhighest⟩ := htop
  have hsort : (preferring sig).sort signatures =
      (sig :: signatures.erase sig).insertionSort fun first second ↦ second.rank ≤ first.rank := by
    change insertionSorter.sort (if sig ∈ signatures then _ else _) = _
    rw [if_pos hmem]
    rfl
  unfold firstMatch
  rw [hsort]
  apply find?_insertionSort_cons
  · simpa using hmatches
  · intro other hother hselected
    exact hhighest other (List.mem_of_mem_erase hother) (by simpa using hselected)

/-- Every sort answers with the classification of a top signature, or unknown when none matches. -/
theorem isTopClassification_sort (sorter : Sorter DPIClassifier.higherPriority)
    (signatures : List DPISignature) (payload : Payload) :
    IsTopClassification signatures payload
      (classificationOf (firstMatch payload (sorter.sort signatures))) := by
  have hperm := sorter.perm signatures
  rcases isTopClassification_firstMatch (descending_sort sorter signatures) payload with
    ⟨sig, hmem, hmatches, hresult, hhighest⟩ | ⟨hnone, hresult⟩
  · exact Or.inl ⟨sig, hperm.mem_iff.mp hmem, hmatches, hresult,
      fun other hother ↦ hhighest other (hperm.mem_iff.mpr hother)⟩
  · exact Or.inr ⟨fun sig hsig ↦ hnone sig (hperm.mem_iff.mpr hsig), hresult⟩

theorem matchSignatures_load (classifier : DPIClassifier) (file : Text) (payload : Payload)
    (sorter : Sorter DPIClassifier.higherPriority) :
    (classifier.loadSignatures sorter (some file)).2.matchSignatures payload =
      .ok (classificationOf (firstMatch payload
        (sorter.sort (classifier.signatures ++ DPIClassifier.readSignatures file)))) :=
  matchFrom_eq payload _

/-- All outcomes agree exactly when the top signatures agree. -/
theorem outcomesAgree_iff (classifier : DPIClassifier) (file : Text) (payload : Payload) :
    OutcomesAgree classifier file payload ↔
      ∀ first second,
        IsTop (classifier.signatures ++ DPIClassifier.readSignatures file) payload first →
        IsTop (classifier.signatures ++ DPIClassifier.readSignatures file) payload second →
        first.classification = second.classification := by
  unfold OutcomesAgree
  simp only [matchSignatures_load, Except.ok.injEq]
  generalize classifier.signatures ++ DPIClassifier.readSignatures file = signatures
  constructor
  · intro hagree first second hfirst hsecond
    have hsame := hagree (preferring first) (preferring second)
    rwa [firstMatch_preferring hfirst, firstMatch_preferring hsecond] at hsame
  · intro htops first second
    rcases isTopClassification_sort first signatures payload with
      ⟨sig, hmem, hmatches, hresult, hhighest⟩ | ⟨hnone, hresult⟩
    · rcases isTopClassification_sort second signatures payload with
        ⟨other, hotherMem, hotherMatches, hother, hotherHighest⟩ | ⟨hnone, -⟩
      · rw [hresult, hother]
        exact htops sig other ⟨hmem, hmatches, hhighest⟩ ⟨hotherMem, hotherMatches, hotherHighest⟩
      · exact absurd hmatches (hnone sig hmem)
    · rcases isTopClassification_sort second signatures payload with
        ⟨other, hotherMem, hotherMatches, -⟩ | ⟨-, hother⟩
      · exact absurd hotherMatches (hnone other hotherMem)
      · rw [hresult, hother]

/-- Every parsed line gets the lowest priority. -/
theorem rank_of_mem_readSignatures {file : Text} {sig : DPISignature}
    (h : sig ∈ DPIClassifier.readSignatures file) : sig.rank = 0 := by
  obtain ⟨line, -, hline⟩ := List.mem_filterMap.mp h
  split at hline
  · cases hline
  · unfold DPIClassifier.parseLine at hline
    simp only [bind, Option.bind_eq_some_iff] at hline
    obtain ⟨_, -, _, -, _, -, _, -, _, -, hsig⟩ := hline
    rw [← Option.some.inj hsig]
    rfl

/-- Among the signatures of one file, every match is a top signature. -/
theorem isTop_readSignatures_iff (file : Text) (payload : Payload) (sig : DPISignature) :
    IsTop (DPIClassifier.readSignatures file) payload sig ↔
      sig ∈ DPIClassifier.readSignatures file ∧ sig.Matches payload := by
  constructor
  · intro h
    exact ⟨h.1, h.2.1⟩
  · intro h
    refine ⟨h.1, h.2, fun other hother _ ↦ ?_⟩
    rw [rank_of_mem_readSignatures hother]
    exact Nat.zero_le _

/-- **Exact agreement condition.** After a load, all permitted outcomes of the sort classify the
payload the same if and only if all matching signatures of the highest priority have the same
classification. For a file loaded into a fresh classifier these are all signatures that match. -/
theorem load_outcomesAgree_iff (classifier : DPIClassifier) (guardrails : DPIGuardrails)
    (file : Text) (payload : Payload) :
    (OutcomesAgree classifier file payload ↔
      ∀ first second,
        IsTop (classifier.signatures ++ DPIClassifier.readSignatures file) payload first →
        IsTop (classifier.signatures ++ DPIClassifier.readSignatures file) payload second →
        first.classification = second.classification) ∧
    (OutcomesAgree (.create guardrails) file payload ↔
      ∀ first ∈ DPIClassifier.readSignatures file, ∀ second ∈ DPIClassifier.readSignatures file,
        first.Matches payload → second.Matches payload →
        first.classification = second.classification) := by
  refine ⟨outcomesAgree_iff classifier file payload, ?_⟩
  rw [outcomesAgree_iff]
  simp only [DPIClassifier.create, List.nil_append, isTop_readSignatures_iff]
  constructor
  · intro h first hfirst second hsecond hmatches hother
    exact h first second ⟨hfirst, hmatches⟩ ⟨hsecond, hother⟩
  · intro h first second hfirst hsecond
    exact h first hfirst.1 second hsecond.1 hfirst.2 hsecond.2

/-- Two lines with one pattern and two classes: two sorts that keep the contract classify the
payload differently. -/
theorem sort_decides_classification :
    let file := ascii "1 1 A 0 9\n2 2 A 0 9\n"
    let payload : Payload := ⟨ascii "A", by decide⟩
    let first : DPISignature := ⟨1, ⟨49⟩, ascii "A", 0, 9, true, 0⟩
    let second : DPISignature := ⟨2, ⟨50⟩, ascii "A", 0, 9, true, 0⟩
    let classifier := DPIClassifier.create ⟨100, 0, 10, true⟩
    (classifier.loadSignatures (preferring first) (some file)).2.matchSignatures payload =
      .ok ⟨49⟩ ∧
    (classifier.loadSignatures (preferring second) (some file)).2.matchSignatures payload =
      .ok ⟨50⟩ := by
  decide +kernel

end VirtualServiceGateway.Dpi
