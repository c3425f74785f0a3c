import VirtualServiceGateway.Dpi.FirstMatch

/-!
# The degraded mode

The timeout path copies the guardrails' permission to degrade into the flag, and new guardrails clear
it. Over a run the flag says exactly that the present guardrails allow degradation and that some call
since they were set has taken the timeout path. Outside the degraded mode, and with a sample rate of
one, every payload that is not empty is inspected, whatever is drawn.
-/

namespace VirtualServiceGateway.Dpi

open CheckedOperation

/-- The call runs the matcher and takes the timeout path: the time that 32 bits keep of the elapsed one
is above the limit. -/
def TimesOut (classifier : DPIClassifier) : Call → Prop
  | .classify payload draw start stop =>
      (∃ inspected ∈ payload, classifier.Inspects inspected draw) ∧
        classifier.guardrails.timeoutUs < DPIClassifier.elapsedUs start stop
  | _ => False

def Call.IsSetGuardrails : Call → Prop
  | .setGuardrails _ => True
  | _ => False

/-- It has happened at some call since the guardrails were set last. -/
def HappenedSince (happens : DPIClassifier → Call → Prop)
    (sorter : RankedList.Sorter DPIClassifier.higherPriority) (guardrails : DPIGuardrails)
    (calls : List Call) : Prop :=
  ∃ before call later, calls = before ++ call :: later ∧
    happens (.after sorter guardrails before) call ∧
    ∀ next ∈ call :: later, ¬next.IsSetGuardrails

/-- Every `classify` of the payload runs the matcher and settles its result, whatever is drawn. -/
def DPIClassifier.AlwaysInspects (classifier : DPIClassifier) (payload : Payload) : Prop :=
  ∀ (draw : UInt32) (start stop : Int64), classifier.Inspects payload draw ∧
    classifier.classify (some payload) draw start stop =
      (classifier.matchSignatures payload).map
        (classifier.settle · (elapsedUs start stop))

/-! ## One call -/

section Step

variable (sorter : RankedList.Sorter DPIClassifier.higherPriority) (classifier : DPIClassifier)
  (call : Call)

theorem guardrails_settle (result : ClassificationResult) (elapsed : UInt32) :
    (classifier.settle result elapsed).classifier.guardrails = classifier.guardrails := by
  unfold DPIClassifier.settle
  split
  case isTrue => rfl
  case isFalse => split <;> rfl

/-- A settled result sets the flag on a timeout only. -/
theorem degraded_settle (result : ClassificationResult) (elapsed : UInt32) :
    (classifier.settle result elapsed).classifier.degraded =
      if classifier.guardrails.timeoutUs < elapsed then classifier.guardrails.degradationEnabled
      else classifier.degraded := by
  unfold DPIClassifier.settle
  split
  case isTrue => rfl
  case isFalse => split <;> rfl

theorem step_setGuardrails (guardrails : DPIGuardrails) :
    classifier.step sorter (.setGuardrails guardrails) = classifier.setGuardrails guardrails := rfl

/-- A call that sets no guardrails settles a result, or changes nothing but the signatures. -/
theorem step_of_not_setGuardrails (hcall : ¬call.IsSetGuardrails) :
    (∃ signatures, classifier.step sorter call = { classifier with signatures := signatures }) ∨
    ∃ inspected draw start stop result, call = .classify (some inspected) draw start stop ∧
      classifier.Inspects inspected draw ∧
      classifier.step sorter call =
        (classifier.settle result (DPIClassifier.elapsedUs start stop)).classifier := by
  cases call with
  | loadSignatures file => cases file <;> exact Or.inl ⟨_, rfl⟩
  | updateSignature sig =>
    left
    simp only [DPIClassifier.step, DPIClassifier.updateSignature]
    split <;> exact ⟨_, rfl⟩
  | removeSignature signatureId =>
    left
    simp only [DPIClassifier.step, DPIClassifier.removeSignature]
    split <;> exact ⟨_, rfl⟩
  | setGuardrails guardrails => exact absurd trivial hcall
  | classify payload draw start stop =>
    cases hclassify : classifier.classify payload draw start stop with
    | error fault =>
      simp only [DPIClassifier.step, hclassify]
      exact Or.inl ⟨_, rfl⟩
    | ok classified =>
      simp only [DPIClassifier.step, hclassify]
      rcases classify_cases hclassify with ⟨rfl, -⟩ | ⟨inspected, rfl, hinspects, rfl⟩
      · exact Or.inl ⟨_, rfl⟩
      · exact Or.inr ⟨inspected, draw, start, stop, _, rfl, hinspects, rfl⟩

/-- Only new guardrails replace the guardrails. -/
theorem guardrails_step (hcall : ¬call.IsSetGuardrails) :
    (classifier.step sorter call).guardrails = classifier.guardrails := by
  rcases step_of_not_setGuardrails sorter classifier call hcall with
    ⟨signatures, hstep⟩ | ⟨inspected, draw, start, stop, result, -, -, hstep⟩
  · rw [hstep]
  · rw [hstep, guardrails_settle]

/-- A timeout puts the classifier into the mode that the guardrails permit. -/
theorem degraded_step_of_timesOut (htimeout : TimesOut classifier call) :
    (classifier.step sorter call).degraded = classifier.guardrails.degradationEnabled := by
  cases call with
  | classify payload draw start stop =>
    obtain ⟨⟨inspected, rfl, hinspects⟩, hlate⟩ := htimeout
    simp only [DPIClassifier.step, classify_of_inspects hinspects]
    rw [degraded_settle, if_pos hlate]
  | _ => exact htimeout.elim

/-- No other call but new guardrails changes the mode. -/
theorem degraded_step (htimeout : ¬TimesOut classifier call) (hcall : ¬call.IsSetGuardrails) :
    (classifier.step sorter call).degraded = classifier.degraded := by
  rcases step_of_not_setGuardrails sorter classifier call hcall with
    ⟨signatures, hstep⟩ | ⟨inspected, draw, start, stop, result, rfl, hinspects, hstep⟩
  · rw [hstep]
  · have hintime : ¬classifier.guardrails.timeoutUs < DPIClassifier.elapsedUs start stop :=
      fun hlate ↦ htimeout ⟨⟨inspected, rfl, hinspects⟩, hlate⟩
    rw [hstep, degraded_settle, if_neg hintime]

end Step

/-! ## Every run -/

section Run

variable (sorter : RankedList.Sorter DPIClassifier.higherPriority) (guardrails : DPIGuardrails)

theorem after_concat (calls : List Call) (call : Call) :
    DPIClassifier.after sorter guardrails (calls ++ [call]) =
      (DPIClassifier.after sorter guardrails calls).step sorter call :=
  Execution.run_concat _ _ calls call

/-- It has happened at the last call, or at one before it. -/
theorem happenedSince_concat (happens : DPIClassifier → Call → Prop) (calls : List Call)
    (call : Call) :
    HappenedSince happens sorter guardrails (calls ++ [call]) ↔ ¬call.IsSetGuardrails ∧
      (HappenedSince happens sorter guardrails calls ∨
        happens (.after sorter guardrails calls) call) := by
  constructor
  · rintro ⟨before, first, later, hcalls, hhappens, hsince⟩
    cases later using List.reverseRecOn with
    | nil =>
      obtain ⟨rfl, hfirst⟩ := List.append_inj' hcalls rfl
      obtain rfl := List.singleton_inj.mp hfirst
      exact ⟨hsince call List.mem_cons_self, Or.inr hhappens⟩
    | append_singleton later last =>
      rw [← List.cons_append, ← List.append_assoc] at hcalls
      obtain ⟨rfl, hlast⟩ := List.append_inj' hcalls rfl
      obtain rfl := List.singleton_inj.mp hlast
      refine ⟨hsince call (by simp), Or.inl ⟨before, first, later, rfl, hhappens, ?_⟩⟩
      intro next hnext
      exact hsince next (List.mem_append_left [call] hnext)
  · rintro ⟨hcall, ⟨before, first, later, rfl, hhappens, hsince⟩ | hhappens⟩
    · refine ⟨before, first, later ++ [call], by simp, hhappens, fun next hnext ↦ ?_⟩
      rcases List.mem_append.mp (List.cons_append ▸ hnext) with hearlier | hlast
      · exact hsince next hearlier
      · rwa [List.mem_singleton.mp hlast]
    · refine ⟨calls, call, [], rfl, hhappens, fun next hnext ↦ ?_⟩
      rwa [List.mem_singleton.mp hnext]

/-- The flag means that the guardrails permit it and that some call has taken the timeout path under
them. -/
theorem degraded_iff_timedOutSince (calls : List Call) :
    (DPIClassifier.after sorter guardrails calls).degraded = true ↔
      (DPIClassifier.after sorter guardrails calls).guardrails.degradationEnabled = true ∧
        HappenedSince TimesOut sorter guardrails calls := by
  induction calls using List.reverseRecOn with
  | nil =>
    constructor
    · intro h
      cases h
    · rintro ⟨-, before, call, later, hcalls, -⟩
      simp at hcalls
  | append_singleton calls call ih =>
    rw [after_concat, happenedSince_concat]
    by_cases hcall : call.IsSetGuardrails
    · cases call with
      | setGuardrails new => simp [step_setGuardrails, DPIClassifier.setGuardrails, hcall]
      | _ => exact hcall.elim
    · rw [guardrails_step sorter _ call hcall]
      by_cases htimeout : TimesOut (.after sorter guardrails calls) call
      · simp [degraded_step_of_timesOut sorter _ call htimeout, hcall, htimeout]
      · simp [degraded_step sorter _ call htimeout hcall, hcall, htimeout, ih]

/-- A draw is never taken, or taken modulo one. -/
theorem sampledOut_of_normal {classifier : DPIClassifier}
    (h : classifier.degraded = false ∨ classifier.guardrails.sampleRate = 1) (draw : UInt32) :
    classifier.sampledOut draw = .ok false := by
  unfold DPIClassifier.sampledOut
  by_cases hdegraded : classifier.degraded = true
  · have hrate : classifier.guardrails.sampleRate = 1 := by
      simpa [hdegraded] using h
    have hzero : draw % 1 = 0 := by
      apply UInt32.toNat.inj
      rw [UInt32.toNat_mod]
      exact Nat.mod_one _
    rw [if_pos hdegraded, hrate]
    simp only [remainder, hzero]
    rfl
  · rw [if_neg hdegraded]
    rfl

/-- After every run the flag is set exactly when the present guardrails permit degradation and some
`classify` since they were set has taken the timeout path. While it is clear, or the sample rate is
one, every payload that is not empty is inspected. -/
theorem degraded_after_iff (calls : List Call) :
    let classifier := DPIClassifier.after sorter guardrails calls
    (classifier.degraded = true ↔ classifier.guardrails.degradationEnabled = true ∧
      HappenedSince TimesOut sorter guardrails calls) ∧
    (classifier.degraded = false ∨ classifier.guardrails.sampleRate = 1 →
      ∀ payload : Payload, payload.len ≠ 0 → classifier.AlwaysInspects payload) := by
  intro classifier
  refine ⟨degraded_iff_timedOutSince sorter guardrails calls, ?_⟩
  intro hnormal payload hlen draw start stop
  have hinspects : classifier.Inspects payload draw := ⟨hlen, sampledOut_of_normal hnormal draw⟩
  refine ⟨hinspects, ?_⟩
  have hmatch : classifier.matchSignatures payload = _ := matchFrom_eq payload _
  rw [classify_of_inspects hinspects, hmatch]
  rfl

end Run

end VirtualServiceGateway.Dpi
