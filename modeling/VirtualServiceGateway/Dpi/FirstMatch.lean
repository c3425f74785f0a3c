import VirtualServiceGateway.Dpi.DpiClassifier

/-!
# Classification is the first match

A signature matches a payload when its pattern occurs inside the signature's window. The matcher
always has a defined result: it reads inside the payload only, its loop counter never wraps, and it
returns the classification of the first matching signature. So does `classify`, unless it samples
the payload out or times out.
-/

namespace VirtualServiceGateway.Dpi

open CheckedOperation

/-- The pattern occurs in the payload at a position from the offset on, and ends both inside the
payload and at most `depth` bytes after the offset. -/
def DPISignature.Matches (sig : DPISignature) (payload : Payload) : Prop :=
  sig.offset.toNat < payload.bytes.length ∧
    ∃ position, position ≤ payload.bytes.length ∧ sig.offset.toNat ≤ position ∧
      position + sig.pattern.length ≤
        min payload.bytes.length (sig.offset.toNat + sig.depth.toNat) ∧
      sig.pattern <+: payload.bytes.drop position

instance (sig : DPISignature) (payload : Payload) : Decidable (sig.Matches payload) :=
  inferInstanceAs (Decidable (sig.offset.toNat < payload.bytes.length ∧
    ∃ position, position ≤ payload.bytes.length ∧ sig.offset.toNat ≤ position ∧
      position + sig.pattern.length ≤
        min payload.bytes.length (sig.offset.toNat + sig.depth.toNat) ∧
      sig.pattern <+: payload.bytes.drop position))

/-- The first signature of the list that matches. -/
def firstMatch (payload : Payload) (signatures : List DPISignature) : Option DPISignature :=
  signatures.find? fun sig ↦ decide (sig.Matches payload)

/-- The classification of a signature that may have been found. -/
def classificationOf (found : Option DPISignature) : ClassificationResult :=
  (found.map DPISignature.classification).getD .unknown

theorem Payload.toNat_len (payload : Payload) : payload.len.toNat = payload.bytes.length := by
  unfold Payload.len
  rw [UInt32.toNat_ofNat', Nat.mod_eq_of_lt payload.length_lt]

/-! ## The search loop -/

/-- The search reads inside the block, terminates, and finds the pattern if it occurs at an offset
from the counter up to the limit. -/
theorem searchFrom_eq {bytes pattern : List UInt8} {start limit : ℕ}
    (hread : start + limit + pattern.length ≤ bytes.length) (hwidth : limit + 1 < 2 ^ 32)
    (fuel : ℕ) (i : UInt32) (hi : i.toNat ≤ limit + 1) (hfuel : limit + 1 < fuel + i.toNat) :
    searchFrom bytes pattern start limit fuel i =
      .ok (decide (∃ k, k ≤ limit ∧ i.toNat ≤ k ∧ pattern <+: bytes.drop (start + k))) := by
  induction fuel generalizing i with
  | zero => omega
  | succ fuel ih =>
    unfold searchFrom
    by_cases hle : i.toNat ≤ limit
    · have hnext : (i + 1).toNat = i.toNat + 1 := by
        rw [UInt32.toNat_add]
        exact Nat.mod_eq_of_lt (by simp; omega)
      have hblock : readBlock bytes (start + i.toNat) pattern.length = _ :=
        readBlock_of_le (by omega)
      have hequal := take_drop_eq_iff bytes pattern (start + i.toNat)
      rw [if_pos hle, hblock]
      change (if (bytes.drop (start + i.toNat)).take pattern.length = pattern then
        Except.ok true else searchFrom bytes pattern start limit fuel (i + 1)) = _
      by_cases hhere : pattern <+: bytes.drop (start + i.toNat)
      · have hfound : ∃ k, k ≤ limit ∧ i.toNat ≤ k ∧ pattern <+: bytes.drop (start + k) :=
          ⟨i.toNat, hle, le_rfl, hhere⟩
        rw [if_pos (hequal.mpr hhere), decide_eq_true hfound]
      · rw [if_neg (hequal.not.mpr hhere), ih (i + 1) (by omega) (by omega), hnext]
        congr 2
        apply propext
        constructor
        · rintro ⟨k, hk, hik, hfound⟩
          exact ⟨k, hk, by omega, hfound⟩
        · rintro ⟨k, hk, hik, hfound⟩
          have hne : k ≠ i.toNat := by
            rintro rfl
            exact hhere hfound
          exact ⟨k, hk, by omega, hfound⟩
    · have hnone : ¬∃ k, k ≤ limit ∧ i.toNat ≤ k ∧ pattern <+: bytes.drop (start + k) := by
        rintro ⟨k, hk, hik, -⟩
        omega
      rw [if_neg hle, decide_eq_false hnone]
      rfl

/-- An empty pattern is found at once, whatever the limit. -/
theorem searchFrom_nil (bytes : List UInt8) (start : ℕ) (hread : start ≤ bytes.length)
    (limit fuel : ℕ) : searchFrom bytes [] start limit (fuel + 1) 0 = .ok true := by
  have hblock : readBlock bytes (start + (0 : UInt32).toNat) ([] : List UInt8).length = _ :=
    readBlock_of_le (by simpa using hread)
  unfold searchFrom
  rw [if_pos (by simp), hblock]
  rfl

/-- The full search decides whether the pattern occurs in the window. -/
theorem searchFrom_start {bytes pattern : List UInt8} {start limit : ℕ}
    (hread : start + limit + pattern.length ≤ bytes.length) (hlength : bytes.length < 2 ^ 32) :
    searchFrom bytes pattern start limit (2 ^ 32) 0 =
      .ok (decide (∃ k, k ≤ limit ∧ pattern <+: bytes.drop (start + k))) := by
  by_cases hempty : pattern = []
  · subst hempty
    have hfound : ∃ k, k ≤ limit ∧ [] <+: bytes.drop (start + k) := ⟨0, by simp⟩
    rw [decide_eq_true hfound]
    exact searchFrom_nil bytes start (by omega) limit (2 ^ 32 - 1)
  · have hpos := List.length_pos_of_ne_nil hempty
    rw [searchFrom_eq hread (by omega) (2 ^ 32) 0 (by simp) (by simp; omega)]
    simp

/-! ## The scan over the signatures -/

/-- The window arithmetic of one signature, in 32-bit words and over the naturals. -/
theorem matches_iff_of_window (sig : DPISignature) (payload : Payload)
    (hoffset : sig.offset.toNat < payload.bytes.length) :
    sig.Matches payload ↔
      sig.pattern.length ≤ min sig.depth.toNat (payload.bytes.length - sig.offset.toNat) ∧
      ∃ k, k ≤ min sig.depth.toNat (payload.bytes.length - sig.offset.toNat) - sig.pattern.length ∧
        sig.pattern <+: payload.bytes.drop (sig.offset.toNat + k) := by
  unfold DPISignature.Matches
  constructor
  · rintro ⟨-, position, -, hfrom, hend, hfound⟩
    refine ⟨by omega, position - sig.offset.toNat, by omega, ?_⟩
    rwa [Nat.add_sub_cancel' hfrom]
  · rintro ⟨hfits, k, hk, hfound⟩
    exact ⟨hoffset, sig.offset.toNat + k, by omega, by omega, by omega, hfound⟩

/-- One position of the scan: does the signature at it match? -/
def visitSignature (payload : Payload) (sig : DPISignature) : Except Fault Bool :=
  if payload.len ≤ sig.offset then pure false
  else
    let searchLen := min sig.depth (payload.len - sig.offset)
    if sig.pattern.length ≤ searchLen.toNat then
      searchFrom payload.bytes sig.pattern sig.offset.toNat
        (searchLen.toNat - sig.pattern.length) (2 ^ 32) 0
    else pure false

/-- The scan visits one position after the other. -/
theorem matchFrom_cons (payload : Payload) (sig : DPISignature) (rest : List DPISignature) :
    matchFrom payload (sig :: rest) = (do
      if ← visitSignature payload sig then pure sig.classification
      else matchFrom payload rest) := by
  rw [matchFrom]
  unfold visitSignature
  split
  case isTrue => rfl
  case isFalse =>
    dsimp only
    split <;> rfl

/-- A visit has a defined result: whether the signature matches. -/
theorem visitSignature_eq (payload : Payload) (sig : DPISignature) :
    visitSignature payload sig = .ok (decide (sig.Matches payload)) := by
  have hlen := payload.toNat_len
  unfold visitSignature
  by_cases hoffset : payload.len ≤ sig.offset
  · have hnone : ¬sig.Matches payload := by
      intro h
      have hoffset := UInt32.le_iff_toNat_le.mp hoffset
      have hbelow := h.1
      omega
    rw [if_pos hoffset, decide_eq_false hnone]
    rfl
  · have hoffset' : sig.offset.toNat < payload.bytes.length := by
      have := UInt32.le_iff_toNat_le.not.mp hoffset
      omega
    have hsearch : (min sig.depth (payload.len - sig.offset)).toNat =
        min sig.depth.toNat (payload.bytes.length - sig.offset.toNat) := by
      rw [toNat_min, UInt32.toNat_sub_of_le _ _ (by rw [UInt32.le_iff_toNat_le]; omega), hlen]
    have hmatches := matches_iff_of_window sig payload hoffset'
    simp only [if_neg hoffset, hsearch]
    by_cases hfits : sig.pattern.length ≤
        min sig.depth.toNat (payload.bytes.length - sig.offset.toNat)
    · rw [if_pos hfits, searchFrom_start (by omega) payload.length_lt]
      congr 1
      rw [decide_eq_decide, hmatches]
      exact ⟨fun hfound ↦ ⟨hfits, hfound⟩, fun h ↦ h.2⟩
    · have hnone : ¬sig.Matches payload := fun h ↦ hfits (hmatches.mp h).1
      rw [if_neg hfits, decide_eq_false hnone]
      rfl

/-- **First match.** On every signature list and payload the scan has a defined result: the
classification of the first matching signature. -/
theorem matchFrom_eq (payload : Payload) (signatures : List DPISignature) :
    matchFrom payload signatures = .ok (classificationOf (firstMatch payload signatures)) := by
  induction signatures with
  | nil => rfl
  | cons sig rest ih =>
    rw [matchFrom_cons, visitSignature_eq, firstMatch]
    by_cases hhere : sig.Matches payload
    · rw [decide_eq_true hhere, List.find?_cons_of_pos (by simpa using hhere)]
      rfl
    · rw [decide_eq_false hhere, List.find?_cons_of_neg (by simpa using hhere)]
      exact ih

theorem firstMatch_of_empty {payload : Payload} (hempty : payload.bytes = [])
    (signatures : List DPISignature) : firstMatch payload signatures = none := by
  apply List.find?_eq_none.mpr
  intro sig _
  simp [DPISignature.Matches, hempty]

/-- What it means for a signature to be the first match of a list. -/
theorem firstMatch_eq_some_iff {payload : Payload} {signatures : List DPISignature}
    {sig : DPISignature} :
    firstMatch payload signatures = some sig ↔
      sig.Matches payload ∧ ∃ before after, signatures = before ++ sig :: after ∧
        ∀ earlier ∈ before, ¬earlier.Matches payload := by
  unfold firstMatch
  rw [List.find?_eq_some_iff_append]
  simp only [decide_eq_true_eq, Bool.not_eq_true', decide_eq_false_iff_not]

theorem firstMatch_eq_none_iff {payload : Payload} {signatures : List DPISignature} :
    firstMatch payload signatures = none ↔ ∀ sig ∈ signatures, ¬sig.Matches payload := by
  unfold firstMatch
  rw [List.find?_eq_none]
  simp only [decide_eq_true_eq]

/-- **The matcher.** On every signature list and payload `matchSignatures` terminates without a read
past the payload. It returns the classification of a signature that matches and has no matching
one before it, or unknown when no signature matches. -/
theorem matchSignatures_finds_first (classifier : DPIClassifier) (payload : Payload) :
    ∃ result, classifier.matchSignatures payload = .ok result ∧
      ((∃ before sig after, classifier.signatures = before ++ sig :: after ∧
          (∀ earlier ∈ before, ¬earlier.Matches payload) ∧ sig.Matches payload ∧
          result = sig.classification) ∨
        (∀ sig ∈ classifier.signatures, ¬sig.Matches payload) ∧ result = .unknown) := by
  refine ⟨_, matchFrom_eq payload classifier.signatures, ?_⟩
  cases hfound : firstMatch payload classifier.signatures with
  | none =>
    right
    exact ⟨firstMatch_eq_none_iff.mp hfound, rfl⟩
  | some sig =>
    obtain ⟨hmatches, before, after, hsignatures, hearlier⟩ := firstMatch_eq_some_iff.mp hfound
    left
    exact ⟨before, sig, after, hsignatures, hearlier, hmatches, rfl⟩

/-! ## Classification -/

@[simp]
theorem settle_signatures (classifier : DPIClassifier) (result : ClassificationResult)
    (elapsed : UInt32) :
    (classifier.settle result elapsed).classifier.signatures = classifier.signatures := by
  unfold DPIClassifier.settle
  split
  case isTrue => rfl
  case isFalse => split <;> rfl

theorem settle_result {classifier : DPIClassifier} {elapsed : UInt32}
    (htime : elapsed ≤ classifier.guardrails.timeoutUs) (result : ClassificationResult) :
    (classifier.settle result elapsed).result = result := by
  unfold DPIClassifier.settle
  rw [if_neg (UInt32.not_lt.mpr htime)]
  split <;> rfl

/-- A settled result other than unknown is the matcher's. -/
theorem settle_result_of_ne {classifier : DPIClassifier} {result : ClassificationResult}
    {elapsed : UInt32} (h : (classifier.settle result elapsed).result ≠ .unknown) :
    (classifier.settle result elapsed).result = result := by
  by_cases htime : elapsed ≤ classifier.guardrails.timeoutUs
  · exact settle_result htime result
  · unfold DPIClassifier.settle at h
    rw [if_pos (UInt32.not_le.mp htime)] at h
    exact absurd rfl h

/-- `classify` of a payload that is not empty, when the sampling check is defined. -/
theorem classify_of_sampledOut {classifier : DPIClassifier} {payload : Payload} {draw : UInt32}
    {start stop : Int64} {sampled : Bool} (hlen : payload.len ≠ 0)
    (hsampled : classifier.sampledOut draw = .ok sampled) :
    classifier.classify (some payload) draw start stop =
      .ok (if sampled then ⟨.unknown, classifier, none⟩
        else classifier.settle (classificationOf (firstMatch payload classifier.signatures))
          (DPIClassifier.elapsedUs start stop)) := by
  have hmatch : classifier.matchSignatures payload = _ := matchFrom_eq payload _
  simp only [DPIClassifier.classify, hlen, if_false, hsampled, hmatch]
  cases sampled <;> rfl

/-- Inspected and in time, `classify` returns the classification of the first match. -/
theorem classify_eq (classifier : DPIClassifier) (payload : Payload) (draw : UInt32)
    (start stop : Int64) (hsampled : classifier.sampledOut draw = .ok false)
    (htime : DPIClassifier.elapsedUs start stop ≤ classifier.guardrails.timeoutUs) :
    ∃ classified, classifier.classify (some payload) draw start stop = .ok classified ∧
      classified.result = classificationOf (firstMatch payload classifier.signatures) := by
  by_cases hlen : payload.len = 0
  · have hempty : payload.bytes = [] := by
      rw [← List.length_eq_zero_iff, ← payload.toNat_len, hlen]
      rfl
    refine ⟨⟨.unknown, classifier, none⟩, ?_, by rw [firstMatch_of_empty hempty]; rfl⟩
    simp only [DPIClassifier.classify, hlen, if_true]
    rfl
  · exact ⟨_, classify_of_sampledOut hlen hsampled, settle_result htime _⟩

/-- A `classify` of the payload runs the matcher: the payload is not empty and not sampled out. -/
def DPIClassifier.Inspects (classifier : DPIClassifier) (payload : Payload) (draw : UInt32) :
    Prop :=
  payload.len ≠ 0 ∧ classifier.sampledOut draw = .ok false

theorem classify_of_inspects {classifier : DPIClassifier} {payload : Payload} {draw : UInt32}
    (hinspects : classifier.Inspects payload draw) (start stop : Int64) :
    classifier.classify (some payload) draw start stop =
      .ok (classifier.settle (classificationOf (firstMatch payload classifier.signatures))
        (DPIClassifier.elapsedUs start stop)) :=
  classify_of_sampledOut hinspects.1 hinspects.2

/-- A `classify` with a defined result returned before the matcher, or settled the first match. -/
theorem classify_cases {classifier : DPIClassifier} {payload : Option Payload} {draw : UInt32}
    {start stop : Int64} {classified : Classified}
    (h : classifier.classify payload draw start stop = .ok classified) :
    (classified = ⟨.unknown, classifier, none⟩ ∧
        ∀ inspected ∈ payload, ¬classifier.Inspects inspected draw) ∨
      ∃ inspected, payload = some inspected ∧ classifier.Inspects inspected draw ∧
        classified = classifier.settle
          (classificationOf (firstMatch inspected classifier.signatures))
          (DPIClassifier.elapsedUs start stop) := by
  cases payload with
  | none => exact Or.inl ⟨(Except.ok.inj h).symm, fun _ hnone ↦ absurd hnone (by simp)⟩
  | some payload =>
    simp only [Option.mem_def, Option.some.injEq, forall_eq']
    by_cases hlen : payload.len = 0
    · simp only [DPIClassifier.classify, hlen, if_true] at h
      exact Or.inl ⟨(Except.ok.inj h).symm, fun hinspects ↦ hinspects.1 hlen⟩
    · cases hsampled : classifier.sampledOut draw with
      | error fault =>
        simp only [DPIClassifier.classify, hlen, if_false, hsampled] at h
        cases h
      | ok sampled =>
        rw [classify_of_sampledOut hlen hsampled] at h
        cases sampled with
        | true =>
          refine Or.inl ⟨(Except.ok.inj h).symm, fun hinspects ↦ ?_⟩
          rw [hinspects.2] at hsampled
          cases hsampled
        | false => exact Or.inr ⟨payload, rfl, ⟨hlen, hsampled⟩, (Except.ok.inj h).symm⟩

/-- Classification never changes the signatures. -/
theorem signatures_classified {classifier : DPIClassifier} {payload : Option Payload}
    {draw : UInt32} {start stop : Int64} {classified : Classified}
    (h : classifier.classify payload draw start stop = .ok classified) :
    classified.classifier.signatures = classifier.signatures := by
  rcases classify_cases h with ⟨rfl, -⟩ | ⟨inspected, -, -, rfl⟩
  · rfl
  · exact settle_signatures classifier _ _

/-! ## Calls that keep the signatures, and the search by id -/

theorem signatures_step_classify (sorter : RankedList.Sorter DPIClassifier.higherPriority)
    (classifier : DPIClassifier) (payload : Option Payload) (draw : UInt32) (start stop : Int64) :
    (DPIClassifier.step sorter classifier (.classify payload draw start stop)).signatures =
      classifier.signatures := by
  cases h : classifier.classify payload draw start stop with
  | ok classified =>
    simp only [DPIClassifier.step, h]
    exact signatures_classified h
  | error fault => simp only [DPIClassifier.step, h]

theorem find_eq_some {classifier : DPIClassifier} {signatureId : UInt16} {place : ℕ}
    (h : classifier.find signatureId = some place) :
    ∃ hplace : place < classifier.signatures.length,
      classifier.signatures[place].signatureId = signatureId := by
  obtain ⟨hplace, hid, -⟩ := List.findIdx?_eq_some_iff_getElem.mp h
  exact ⟨hplace, by simpa using hid⟩

theorem find_eq_none {classifier : DPIClassifier} {signatureId : UInt16}
    (h : classifier.find signatureId = none) :
    ∀ sig ∈ classifier.signatures, sig.signatureId ≠ signatureId := by
  intro sig hsig
  simpa using List.findIdx?_eq_none_iff.mp h sig hsig

end VirtualServiceGateway.Dpi
