import VirtualServiceGateway.Dpi.DegradedMode
import VirtualServiceGateway.Dpi.PriorityOrder

/-!
# When the sample rate divides the draw

The draw is taken modulo the sample rate in degraded mode only, and only a timeout leads there. So
guardrails with a sample rate of zero are harmless as long as they do not permit degradation, or
allow a time that no measurement exceeds. All others divide by zero in some run: one timeout, then
one payload.
-/

namespace VirtualServiceGateway.Dpi

open CheckedOperation

/-- The guardrails never lead to a remainder by zero: the sample rate is not zero, or they never
degrade the classifier. -/
def DPIGuardrails.Safe (guardrails : DPIGuardrails) : Prop :=
  guardrails.sampleRate ≠ 0 ∨ guardrails.degradationEnabled = false ∨
    guardrails.timeoutUs.toNat = 2 ^ 32 - 1

/-- The guardrails that a call sets, if any, are permitted. -/
def Call.SetsOnly (permitted : DPIGuardrails → Prop) : Call → Prop
  | .setGuardrails guardrails => permitted guardrails
  | _ => True

/-- The call takes the draw modulo a sample rate of zero. -/
def DividesByZero (classifier : DPIClassifier) : Call → Prop
  | .classify payload draw start stop =>
      classifier.classify payload draw start stop = .error .divideByZero
  | _ => False

/-- The classifier is degraded only if its guardrails permit it and a timeout is possible. -/
structure RateSafe (classifier : DPIClassifier) : Prop where
  safe : classifier.guardrails.Safe
  degraded : classifier.degraded = true → classifier.guardrails.degradationEnabled = true ∧
    classifier.guardrails.timeoutUs.toNat ≠ 2 ^ 32 - 1

/-! ## One call -/

/-- The sampling check is undefined in degraded mode under a sample rate of zero only. -/
theorem sampledOut_undefined_iff (classifier : DPIClassifier) (draw : UInt32) :
    classifier.sampledOut draw = .error .divideByZero ↔
      classifier.degraded = true ∧ classifier.guardrails.sampleRate = 0 := by
  unfold DPIClassifier.sampledOut remainder
  by_cases hdegraded : classifier.degraded = true
  · rw [if_pos hdegraded]
    by_cases hrate : classifier.guardrails.sampleRate = 0
    · rw [if_pos hrate]
      exact iff_of_true rfl ⟨hdegraded, hrate⟩
    · rw [if_neg hrate]
      exact iff_of_false (fun h ↦ by cases h) fun h ↦ hrate h.2
  · rw [if_neg hdegraded]
    exact iff_of_false (fun h ↦ by cases h) fun h ↦ hdegraded h.1

/-- A call divides by zero exactly when it draws in degraded mode under a sample rate of zero. -/
theorem dividesByZero_classify_iff (classifier : DPIClassifier) (payload : Option Payload)
    (draw : UInt32) (start stop : Int64) :
    DividesByZero classifier (.classify payload draw start stop) ↔
      (∃ inspected ∈ payload, inspected.len ≠ 0) ∧ classifier.degraded = true ∧
        classifier.guardrails.sampleRate = 0 := by
  rw [← sampledOut_undefined_iff classifier draw]
  cases payload with
  | none => exact iff_of_false (fun h ↦ by cases h) fun h ↦ by simp at h
  | some payload =>
    simp only [Option.mem_def, Option.some.injEq, exists_eq_left', DividesByZero]
    by_cases hlen : payload.len = 0
    · simp only [DPIClassifier.classify, hlen, if_true]
      exact iff_of_false (fun h ↦ by cases h) fun h ↦ h.1 rfl
    · cases hsampled : classifier.sampledOut draw with
      | error fault =>
        have hclassify : classifier.classify (some payload) draw start stop = .error fault := by
          simp only [DPIClassifier.classify, hlen, if_false, hsampled]
          rfl
        rw [hclassify, Except.error.injEq, Except.error.injEq]
        exact (and_iff_right hlen).symm
      | ok sampled =>
        rw [classify_of_sampledOut hlen hsampled]
        exact iff_of_false (fun h ↦ by cases h) fun h ↦ by cases h.2

/-- A call can only be late under a limit that a measurement exceeds. -/
theorem timeoutUs_of_timesOut {classifier : DPIClassifier} {call : Call}
    (htimeout : TimesOut classifier call) :
    classifier.guardrails.timeoutUs.toNat ≠ 2 ^ 32 - 1 := by
  cases call with
  | classify payload draw start stop =>
    have hlate := UInt32.lt_iff_toNat_lt.mp htimeout.2
    have helapsed := (DPIClassifier.elapsedUs start stop).toNat_lt
    omega
  | _ => exact htimeout.elim

/-- **Step.** Safe guardrails keep the classifier safe through every call. -/
theorem RateSafe.step {classifier : DPIClassifier} (hsafe : RateSafe classifier)
    (sorter : RankedList.Sorter DPIClassifier.higherPriority) {call : Call}
    (hcall : call.SetsOnly DPIGuardrails.Safe) : RateSafe (classifier.step sorter call) := by
  by_cases hset : call.IsSetGuardrails
  · cases call with
    | setGuardrails guardrails => exact ⟨hcall, fun h ↦ absurd h Bool.false_ne_true⟩
    | _ => exact hset.elim
  · have hguardrails := guardrails_step sorter classifier call hset
    refine ⟨by rw [hguardrails]; exact hsafe.safe, fun hdegraded ↦ ?_⟩
    rw [hguardrails]
    by_cases htimeout : TimesOut classifier call
    · rw [degraded_step_of_timesOut sorter classifier call htimeout] at hdegraded
      exact ⟨hdegraded, timeoutUs_of_timesOut htimeout⟩
    · rw [degraded_step sorter classifier call htimeout hset] at hdegraded
      exact hsafe.degraded hdegraded

theorem RateSafe.not_dividesByZero {classifier : DPIClassifier} (hsafe : RateSafe classifier)
    (call : Call) : ¬DividesByZero classifier call := by
  cases call with
  | classify payload draw start stop =>
    rw [dividesByZero_classify_iff]
    intro hdivides
    have hdegraded := hsafe.degraded hdivides.2.1
    rcases hsafe.safe with hrate | hpermitted | htimeout
    · exact hrate hdivides.2.2
    · rw [hdegraded.1] at hpermitted
      cases hpermitted
    · exact hdegraded.2 htimeout
  | _ => exact id

/-! ## Every run -/

/-- Two payloads, the first of them measured at the largest time. -/
def slowThenAny (payload : Payload) : List Call :=
  [.classify (some payload) 0 0 (Int64.ofNat ((2 ^ 32 - 1) * 1000)),
    .classify (some payload) 0 0 0]

/-- Under guardrails that are not safe, the first payload divides by zero, or it degrades the
classifier and the second one does. -/
theorem dividesByZero_of_not_safe (sorter : RankedList.Sorter DPIClassifier.higherPriority)
    {classifier : DPIClassifier} (hnotSafe : ¬classifier.guardrails.Safe) {payload : Payload}
    (hlen : payload.len ≠ 0) :
    ∃ before call, before ++ [call] <+: slowThenAny payload ∧
      DividesByZero (Execution.run (DPIClassifier.step sorter) classifier before) call := by
  obtain ⟨hrate, hpermitted, hlimit⟩ : classifier.guardrails.sampleRate = 0 ∧
      classifier.guardrails.degradationEnabled = true ∧
      classifier.guardrails.timeoutUs.toNat ≠ 2 ^ 32 - 1 := by
    simpa [DPIGuardrails.Safe] using hnotSafe
  let slow : Call := .classify (some payload) 0 0 (Int64.ofNat ((2 ^ 32 - 1) * 1000))
  by_cases hdegraded : classifier.degraded = true
  · refine ⟨[], slow, List.prefix_append [slow] _, ?_⟩
    rw [Execution.run_nil, dividesByZero_classify_iff]
    exact ⟨⟨payload, rfl, hlen⟩, hdegraded, hrate⟩
  · have helapsed : (DPIClassifier.elapsedUs 0 (Int64.ofNat ((2 ^ 32 - 1) * 1000))).toNat =
        2 ^ 32 - 1 := by decide +kernel
    have hsampled : classifier.sampledOut 0 = .ok false := if_neg hdegraded
    have htimeout : TimesOut classifier slow := by
      refine ⟨⟨payload, rfl, hlen, hsampled⟩, UInt32.lt_iff_toNat_lt.mpr ?_⟩
      have hbound := classifier.guardrails.timeoutUs.toNat_lt
      rw [helapsed]
      omega
    refine ⟨[slow], .classify (some payload) 0 0 0, List.prefix_rfl, ?_⟩
    rw [Execution.run_cons, Execution.run_nil, dividesByZero_classify_iff,
      degraded_step_of_timesOut sorter _ _ htimeout, guardrails_step sorter _ slow id]
    exact ⟨⟨payload, rfl, hlen⟩, hpermitted, hrate⟩

/-- If no run from a state divides by zero, the guardrails of the state are safe. -/
theorem safe_of_never (sorter : RankedList.Sorter DPIClassifier.higherPriority)
    {permitted : DPIGuardrails → Prop} {classifier : DPIClassifier}
    (hnever : ∀ calls : List Call, (∀ call ∈ calls, call.SetsOnly permitted) →
      ∀ before call, before ++ [call] <+: calls →
        ¬DividesByZero (Execution.run (DPIClassifier.step sorter) classifier before) call) :
    classifier.guardrails.Safe := by
  by_contra hnotSafe
  have hlen : (⟨[65], by decide⟩ : Payload).len ≠ 0 := by decide
  obtain ⟨before, call, hearlier, hdivides⟩ := dividesByZero_of_not_safe sorter hnotSafe hlen
  refine hnever _ (fun next hnext ↦ ?_) before call hearlier hdivides
  rcases List.mem_pair.mp hnext with rfl | rfl <;> trivial

/-- **The sample rate.** No run from the guardrails, with permitted guardrails set in between, takes
a draw modulo zero if and only if the guardrails and all permitted ones are safe. -/
theorem never_dividesByZero_iff (sorter : RankedList.Sorter DPIClassifier.higherPriority)
    (guardrails : DPIGuardrails) (permitted : DPIGuardrails → Prop) :
    (∀ calls : List Call, (∀ call ∈ calls, call.SetsOnly permitted) →
      ∀ before call, before ++ [call] <+: calls →
        ¬DividesByZero (DPIClassifier.after sorter guardrails before) call) ↔
      guardrails.Safe ∧ ∀ later, permitted later → later.Safe := by
  constructor
  · intro hnever
    refine ⟨safe_of_never sorter hnever, fun later hlater ↦ ?_⟩
    let start := (DPIClassifier.create guardrails).step sorter (.setGuardrails later)
    have hstart : start.guardrails = later := rfl
    rw [← hstart]
    apply safe_of_never sorter
    intro calls hcalls before call hearlier
    exact hnever (.setGuardrails later :: calls) (List.forall_mem_cons.mpr ⟨hlater, hcalls⟩)
      (.setGuardrails later :: before) call ((List.prefix_cons_inj _).mpr hearlier)
  · intro hsafe calls hcalls before call hearlier
    apply RateSafe.not_dividesByZero
    have hmeet : Execution.StepsMeet (DPIClassifier.step sorter)
        (fun _ call ↦ call.SetsOnly DPIGuardrails.Safe) (.create guardrails) before := by
      rw [Execution.stepsMeet_iff_forall_mem]
      intro next hnext
      have hset := hcalls next (hearlier.subset (List.mem_append_left [call] hnext))
      cases next with
      | setGuardrails later => exact hsafe.2 later hset
      | _ => trivial
    exact Execution.run_invariant_of_stepsMeet RateSafe
      ⟨hsafe.1, fun h ↦ absurd h Bool.false_ne_true⟩
      (fun classifier next hnext hrate ↦ hrate.step sorter hnext) hmeet

/-- Guardrails that allow no time and have a sample rate of zero: a payload measured at one
microsecond degrades the classifier, and the next payload divides by zero. -/
theorem zero_rate_divides :
    DividesByZero (DPIClassifier.after insertionSorter ⟨0, 0, 0, true⟩
        [.classify (some ⟨[65], by decide⟩) 0 0 1000])
      (.classify (some ⟨[65], by decide⟩) 0 0 0) := by
  rw [dividesByZero_classify_iff]
  exact ⟨⟨_, rfl, by decide⟩, by decide +kernel, by decide +kernel⟩

end VirtualServiceGateway.Dpi
