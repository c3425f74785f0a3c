import VirtualServiceGateway.Dpi.DegradedMode
import VirtualServiceGateway.Dpi.PriorityOrder

/-!
# The timeout decision and the clock

The microseconds between the two clock readings are a signed 64-bit number, which is stored in an
unsigned 32-bit one before it is compared with the limit. A time below `2 ^ 32` microseconds that is
not negative is stored as it is; all others wrap, and the decision is right only if the wrapped time
happens to lie on the right side of the limit. So the degraded flag tells whether some call has really
exceeded the limit as long as the times that could set it wrap to that side.
-/

namespace VirtualServiceGateway.Dpi

open TextExtraction

/-- The time between two readings in nanoseconds, truncated to microseconds. -/
def elapsedMicroseconds (start stop : Int64) : ℤ := (stop.toInt - start.toInt).tdiv 1000

/-- What 32 bits keep of it, when the difference is taken in 64 bits. -/
def storedMicroseconds (start stop : Int64) : ℤ :=
  ((stop.toInt - start.toInt).bmod (2 ^ 64)).tdiv 1000 % 2 ^ 32

/-- The time fits into 32 bits, or it wraps to the right side of the limit: a negative time to at
most the limit, a longer one above it. -/
def WrapsToSameSide (timeoutUs : UInt32) (start stop : Int64) : Prop :=
  (0 ≤ elapsedMicroseconds start stop ∧ elapsedMicroseconds start stop < 2 ^ 32) ∨
  (elapsedMicroseconds start stop < 0 ∧
    storedMicroseconds start stop ≤ (timeoutUs.toNat : ℤ)) ∨
  (2 ^ 32 ≤ elapsedMicroseconds start stop ∧
    (timeoutUs.toNat : ℤ) < storedMicroseconds start stop)

/-! ## The stored time -/

/-- A signed word cast to 32 bits is its residue. -/
theorem toNat_toUInt32_toUInt64 (word : Int64) :
    (word.toUInt64.toUInt32.toNat : ℤ) = word.toInt % 2 ^ 32 := by
  have hword : (word.toUInt64.toNat : ℤ) = word.toInt % ((2 ^ 64 : ℕ) : ℤ) := by
    have hbits : word.toInt = (word.toUInt64.toNat : ℤ).bmod (2 ^ 64) :=
      BitVec.toInt_eq_toNat_bmod word.toBitVec
    have hlt := word.toUInt64.toNat_lt
    rw [hbits, Int.bmod_emod]
    exact (Int.emod_eq_of_lt (by omega) (by exact_mod_cast hlt)).symm
  rw [UInt64.toNat_toUInt32, Int.natCast_emod, hword]
  exact Int.emod_emod_of_dvd _ (by decide)

theorem toNat_elapsedUs (start stop : Int64) :
    ((DPIClassifier.elapsedUs start stop).toNat : ℤ) = storedMicroseconds start stop := by
  have hthousand : (1000 : Int64).toInt = 1000 := by decide
  unfold DPIClassifier.elapsedUs storedMicroseconds
  rw [toNat_toUInt32_toUInt64, Int64.toInt_div, Int64.toInt_sub, hthousand]
  calc
    (((stop.toInt - start.toInt).bmod (2 ^ 64)).tdiv 1000).bmod (2 ^ 64) % 2 ^ 32 =
        (((stop.toInt - start.toInt).bmod (2 ^ 64)).tdiv 1000).bmod (2 ^ 64) %
          ((2 ^ 64 : ℕ) : ℤ) % 2 ^ 32 := (Int.emod_emod_of_dvd _ (by decide)).symm
    _ = ((stop.toInt - start.toInt).bmod (2 ^ 64)).tdiv 1000 % ((2 ^ 64 : ℕ) : ℤ) % 2 ^ 32 := by
      rw [Int.bmod_emod]
    _ = ((stop.toInt - start.toInt).bmod (2 ^ 64)).tdiv 1000 % 2 ^ 32 :=
      Int.emod_emod_of_dvd _ (by decide)

/-- A time that fits into 32 bits is stored as it is. -/
theorem storedMicroseconds_of_fits {start stop : Int64}
    (hpos : 0 ≤ elapsedMicroseconds start stop) (hfits : elapsedMicroseconds start stop < 2 ^ 32) :
    storedMicroseconds start stop = elapsedMicroseconds start stop := by
  unfold elapsedMicroseconds at hpos hfits ⊢
  have hsplit := Int.mul_tdiv_add_tmod (stop.toInt - start.toInt) 1000
  have hbelow := Int.tmod_lt_of_pos (stop.toInt - start.toInt) (show (0 : ℤ) < 1000 by decide)
  have habove := Int.lt_tmod_of_pos (stop.toInt - start.toInt) (show (0 : ℤ) < 1000 by decide)
  have hdifference : (stop.toInt - start.toInt).bmod (2 ^ 64) = stop.toInt - start.toInt :=
    Int.bmod_eq_of_le (by omega) (by omega)
  unfold storedMicroseconds
  rw [hdifference]
  exact Int.emod_eq_of_lt hpos hfits

/-! ## The decision -/

theorem settle_result_of_timeout {classifier : DPIClassifier} {elapsed : UInt32}
    (htime : classifier.guardrails.timeoutUs < elapsed) (result : ClassificationResult) :
    (classifier.settle result elapsed).result = .unknown := by
  unfold DPIClassifier.settle
  rw [if_pos htime]

/-- The wrapped time decides as the elapsed time does exactly when it wraps to the same side. -/
theorem stored_decides_iff (timeoutUs : UInt32) (start stop : Int64) :
    ((timeoutUs.toNat : ℤ) < storedMicroseconds start stop ↔
        (timeoutUs.toNat : ℤ) < elapsedMicroseconds start stop) ↔
      WrapsToSameSide timeoutUs start stop := by
  have hlimit := timeoutUs.toNat_lt
  unfold WrapsToSameSide
  rcases lt_or_ge (elapsedMicroseconds start stop) 0 with hnegative | hpos
  · have hintime : ¬(timeoutUs.toNat : ℤ) < elapsedMicroseconds start stop := by omega
    rw [iff_false_right hintime]
    omega
  · rcases lt_or_ge (elapsedMicroseconds start stop) (2 ^ 32) with hfits | hlong
    · rw [storedMicroseconds_of_fits hpos hfits]
      exact iff_of_true Iff.rfl (Or.inl ⟨hpos, hfits⟩)
    · have hlate : (timeoutUs.toNat : ℤ) < elapsedMicroseconds start stop := by omega
      rw [iff_true_right hlate]
      omega

theorem timesOut_iff_stored {classifier : DPIClassifier} {payload : Payload} {draw : UInt32}
    (hinspects : classifier.Inspects payload draw) (start stop : Int64) :
    TimesOut classifier (.classify (some payload) draw start stop) ↔
      (classifier.guardrails.timeoutUs.toNat : ℤ) < storedMicroseconds start stop := by
  rw [← toNat_elapsedUs, Int.ofNat_lt, ← UInt32.lt_iff_toNat_lt]
  exact and_iff_right ⟨payload, rfl, hinspects⟩

/-- **Timeouts.** A `classify` that runs the matcher takes the timeout path exactly when the elapsed
time exceeds the limit, if and only if the time fits into 32 bits or wraps to the same side of the
limit. The timeout path returns unknown and assigns the degraded flag; the other one returns the
first match and keeps the flag. -/
theorem timesOut_iff_elapsed (classifier : DPIClassifier) (payload : Payload) (draw : UInt32)
    (start stop : Int64) (hinspects : classifier.Inspects payload draw) :
    ((TimesOut classifier (.classify (some payload) draw start stop) ↔
        (classifier.guardrails.timeoutUs.toNat : ℤ) < elapsedMicroseconds start stop) ↔
      WrapsToSameSide classifier.guardrails.timeoutUs start stop) ∧
    ∃ classified, classifier.classify (some payload) draw start stop = .ok classified ∧
      (TimesOut classifier (.classify (some payload) draw start stop) →
        classified.result = .unknown ∧
        classified.classifier.degraded = classifier.guardrails.degradationEnabled) ∧
      (¬TimesOut classifier (.classify (some payload) draw start stop) →
        classified.result = classificationOf (firstMatch payload classifier.signatures) ∧
        classified.classifier.degraded = classifier.degraded) := by
  constructor
  · rw [timesOut_iff_stored hinspects]
    exact stored_decides_iff _ start stop
  · refine ⟨_, classify_of_inspects hinspects start stop, fun htimeout ↦ ?_, fun hintime ↦ ?_⟩
    · rw [degraded_settle, if_pos htimeout.2]
      exact ⟨settle_result_of_timeout htimeout.2 _, rfl⟩
    · have htime : ¬classifier.guardrails.timeoutUs < DPIClassifier.elapsedUs start stop :=
        fun hlate ↦ hintime ⟨⟨payload, rfl, hinspects⟩, hlate⟩
      rw [degraded_settle, if_neg htime]
      exact ⟨settle_result (UInt32.not_lt.mp htime) _, rfl⟩

/-- Half a second is over a limit of 100 microseconds, and is taken for it. -/
theorem timesOut_half_second :
    let classifier := DPIClassifier.create ⟨100, 1, 1, true⟩
    TimesOut classifier (.classify (some ⟨ascii "A", by decide⟩) 0 0 500000000) ↔
      (100 : ℤ) < elapsedMicroseconds 0 500000000 :=
  (timesOut_iff_elapsed (DPIClassifier.create ⟨100, 1, 1, true⟩) ⟨ascii "A", by decide⟩ 0 0
    500000000 ⟨by decide, rfl⟩).1.mpr (Or.inl (by decide))

/-- The second reading is a millisecond before the first. The time is taken for one above the limit
of 100 microseconds, and the classifier is degraded. -/
theorem backward_clock_degrades :
    let classifier := DPIClassifier.create ⟨100, 1, 1, true⟩
    let payload : Payload := ⟨ascii "A", by decide⟩
    elapsedMicroseconds 1000000 0 = -1000 ∧
    TimesOut classifier (.classify (some payload) 0 1000000 0) ∧
    (classifier.classify (some payload) 0 1000000 0).map
      (fun classified ↦ classified.classifier.degraded) = .ok true := by
  refine ⟨by decide, ⟨⟨_, rfl, by decide, rfl⟩, by decide⟩, by decide +kernel⟩

/-! ## The degraded flag -/

/-- The call runs the matcher, and more time elapses than the guardrails allow. -/
def Exceeds (classifier : DPIClassifier) : Call → Prop
  | .classify payload draw start stop =>
      (∃ inspected ∈ payload, classifier.Inspects inspected draw) ∧
        (classifier.guardrails.timeoutUs.toNat : ℤ) < elapsedMicroseconds start stop
  | _ => False

/-- If the call runs the matcher and could set the flag, its time fits into 32 bits or wraps to the
same side of the limit. -/
def DecidesAsElapsed (classifier : DPIClassifier) : Call → Prop
  | .classify payload draw start stop =>
      (∃ inspected ∈ payload, classifier.Inspects inspected draw) →
        classifier.guardrails.degradationEnabled = true → classifier.degraded = false →
          WrapsToSameSide classifier.guardrails.timeoutUs start stop
  | _ => True

/-- A call that could set the flag takes the timeout path exactly when it exceeds the limit. -/
theorem decidesAsElapsed_iff (classifier : DPIClassifier) (call : Call) :
    DecidesAsElapsed classifier call ↔
      (classifier.guardrails.degradationEnabled = true → classifier.degraded = false →
        (TimesOut classifier call ↔ Exceeds classifier call)) := by
  cases call with
  | classify payload draw start stop =>
    by_cases hinspects : ∃ inspected ∈ payload, classifier.Inspects inspected draw
    · have htimesOut : TimesOut classifier (.classify payload draw start stop) ↔
          (classifier.guardrails.timeoutUs.toNat : ℤ) < storedMicroseconds start stop := by
        rw [← toNat_elapsedUs, Int.ofNat_lt, ← UInt32.lt_iff_toNat_lt]
        exact and_iff_right hinspects
      have hexceeds : Exceeds classifier (.classify payload draw start stop) ↔
          (classifier.guardrails.timeoutUs.toNat : ℤ) < elapsedMicroseconds start stop :=
        and_iff_right hinspects
      rw [htimesOut, hexceeds, stored_decides_iff]
      exact imp_iff_right hinspects
    · refine iff_of_true (fun hmatcher ↦ absurd hmatcher hinspects) fun _ _ ↦ ?_
      exact iff_of_false (fun h ↦ hinspects h.1) fun h ↦ hinspects h.1
  | _ => exact iff_of_true trivial fun _ _ ↦ Iff.rfl

section Run

variable (sorter : RankedList.Sorter DPIClassifier.higherPriority) (guardrails : DPIGuardrails)

/-- The flag is set exactly when the present guardrails permit degradation and some call since they
were set has run the matcher and exceeded their limit. -/
def FlagTells (calls : List Call) : Prop :=
  (DPIClassifier.after sorter guardrails calls).degraded = true ↔
    (DPIClassifier.after sorter guardrails calls).guardrails.degradationEnabled = true ∧
      HappenedSince Exceeds sorter guardrails calls

/-- While the flag is clear or the sample rate is one, every payload that is not empty is inspected,
whatever is drawn. -/
def InspectsUnlessDegraded (classifier : DPIClassifier) : Prop :=
  classifier.degraded = false ∨ classifier.guardrails.sampleRate = 1 →
    ∀ payload : Payload, payload.len ≠ 0 → classifier.AlwaysInspects payload

/-- One more call keeps the flag telling exactly when it decides as the elapsed time does. -/
theorem flagTells_concat_iff (calls : List Call) (call : Call)
    (htells : FlagTells sorter guardrails calls) :
    FlagTells sorter guardrails (calls ++ [call]) ↔
      DecidesAsElapsed (.after sorter guardrails calls) call := by
  rw [decidesAsElapsed_iff]
  unfold FlagTells at htells ⊢
  rw [after_concat, happenedSince_concat]
  by_cases hcall : call.IsSetGuardrails
  · cases call with
    | setGuardrails new =>
      refine iff_of_true ?_ fun _ _ ↦ Iff.rfl
      simp [step_setGuardrails, DPIClassifier.setGuardrails, hcall]
    | _ => exact hcall.elim
  · rw [guardrails_step sorter _ call hcall]
    rw [← Bool.not_eq_true]
    by_cases htimeout : TimesOut (.after sorter guardrails calls) call
    · rw [degraded_step_of_timesOut sorter _ call htimeout]
      tauto
    · rw [degraded_step sorter _ call htimeout hcall]
      tauto

theorem flagTells_nil : FlagTells sorter guardrails [] := by
  constructor
  · intro h
    cases h
  · rintro ⟨-, before, call, later, hcalls, -⟩
    simp at hcalls

/-- **Degraded mode.** In every state of a run the flag tells whether some call since the present
guardrails were set has exceeded their limit, if and only if every call that runs the matcher while
degradation is permitted and the flag is clear decides as the elapsed time does. In every state, while
the flag is clear or the sample rate is one, every payload that is not empty is inspected. -/
theorem degradedMode_iff (calls : List Call) :
    ((∀ before, before <+: calls → FlagTells sorter guardrails before ∧
        InspectsUnlessDegraded (.after sorter guardrails before)) ↔
      Execution.StepsMeet (DPIClassifier.step sorter) DecidesAsElapsed
        (DPIClassifier.create guardrails) calls) ∧
    InspectsUnlessDegraded (.after sorter guardrails calls) := by
  have hinspects (before : List Call) :
      InspectsUnlessDegraded (.after sorter guardrails before) :=
    (degraded_after_iff sorter guardrails before).2
  refine ⟨?_, hinspects calls⟩
  simp only [hinspects, and_true]
  exact Execution.forall_prefix_iff_stepsMeet_history (DPIClassifier.step sorter)
    (DPIClassifier.create guardrails) (FlagTells sorter guardrails) DecidesAsElapsed
    (flagTells_nil sorter guardrails) (flagTells_concat_iff sorter guardrails) calls

end Run

/-- A clock that goes back sets the flag although no call has exceeded the limit, and a call of more
than an hour does not set it. -/
theorem flag_does_not_tell :
    let guardrails : DPIGuardrails := ⟨100, 1, 1, true⟩
    let payload : Payload := ⟨ascii "A", by decide⟩
    ¬FlagTells insertionSorter guardrails [.classify (some payload) 0 1000000 0] ∧
    ¬FlagTells insertionSorter guardrails [.classify (some payload) 0 0 4294967296000] := by
  intro guardrails payload
  have hmatcher : ∃ inspected ∈ some payload,
      (DPIClassifier.create guardrails).Inspects inspected 0 := ⟨payload, rfl, by decide, rfl⟩
  have hrefute (start stop : Int64) (hwraps : ¬WrapsToSameSide 100 start stop) :
      ¬FlagTells insertionSorter guardrails [.classify (some payload) 0 start stop] := by
    intro htells
    have hdecides := (flagTells_concat_iff insertionSorter guardrails []
      (.classify (some payload) 0 start stop) (flagTells_nil _ _)).mp htells
    exact hwraps (hdecides hmatcher rfl rfl)
  exact ⟨hrefute _ _ (by unfold WrapsToSameSide; decide),
    hrefute _ _ (by unfold WrapsToSameSide; decide)⟩

end VirtualServiceGateway.Dpi
