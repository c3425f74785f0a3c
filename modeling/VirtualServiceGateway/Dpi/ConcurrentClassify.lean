import VirtualServiceGateway.Dpi.DegradedMode
import VirtualServiceGateway.Dpi.PriorityOrder
import VirtualServiceGateway.Foundation.Linearization

/-!
# Classification from many threads

Threads classify payloads with one classifier whose signatures and guardrails stay as they are. A
call reads the degraded flag, runs the matcher, and then either stores the flag or increments one
count. A call in time takes effect where it reads the flag, a late one where it stores it. In the
order in which they take effect, which keeps each thread's own, a single thread gets the same
results, the same flag and the same counts.
-/

namespace VirtualServiceGateway.Dpi

open CheckedOperation Interleaving Linearization

/-- The arguments of a call of `classify`, with its draw and its clock readings. -/
structure ClassifyCall where
  payload : Option Payload
  draw : UInt32
  start : Int64
  stop : Int64

/-- Where a thread is in a call: before it reads the flag, or about to match the payload. -/
inductive ClassifyStage where
  | idle
  | inspecting (payload : Payload)

/-- A thread with the calls it has not finished and the results of those it has, oldest first. -/
structure ClassifyUser where
  calls : List ClassifyCall
  stage : ClassifyStage
  results : List (Except Fault ClassificationResult)

namespace ClassifyUser

/-- The thread returns from its call. -/
def giveBack (user : ClassifyUser) (result : Except Fault ClassificationResult) : ClassifyUser :=
  ⟨user.calls.tail, .idle, user.results ++ [result]⟩

/-- The next step of a thread: the check of the flag, or the match and the one access that settles
its result. -/
def advance (classifier : DPIClassifier) (user : ClassifyUser) : DPIClassifier × ClassifyUser :=
  match user.calls, user.stage with
  | [], _ => (classifier, user)
  | call :: _, .idle =>
      match call.payload with
      | none => (classifier, user.giveBack (.ok .unknown))
      | some payload =>
          if payload.len = 0 then (classifier, user.giveBack (.ok .unknown))
          else
            match classifier.sampledOut call.draw with
            | .error fault => (classifier, user.giveBack (.error fault))
            | .ok true => (classifier, user.giveBack (.ok .unknown))
            | .ok false => (classifier, { user with stage := .inspecting payload })
  | call :: _, .inspecting payload =>
      match classifier.matchSignatures payload with
      | .error fault => (classifier, user.giveBack (.error fault))
      | .ok result =>
          let classified := classifier.settle result (DPIClassifier.elapsedUs call.start call.stop)
          (classified.classifier, user.giveBack (.ok classified.result))

end ClassifyUser

/-- A call that nothing interrupts: the classifier after it and its result. -/
def classifyAlone (classifier : DPIClassifier) (call : ClassifyCall) :
    DPIClassifier × Except Fault ClassificationResult :=
  match classifier.classify call.payload call.draw call.start call.stop with
  | .ok classified => (classified.classifier, .ok classified.result)
  | .error fault => (classifier, .error fault)

/-- Two steps on their own are a call, or one if the matcher is not run. -/
theorem advance_uninterrupted (classifier : DPIClassifier) (call : ClassifyCall)
    (rest : List ClassifyCall) (results : List (Except Fault ClassificationResult)) :
    ∃ steps ≤ 2, (fun state : DPIClassifier × ClassifyUser ↦ state.2.advance state.1)^[steps]
        (classifier, ⟨call :: rest, .idle, results⟩) =
      ((classifyAlone classifier call).1,
        ⟨rest, .idle, results ++ [(classifyAlone classifier call).2]⟩) := by
  obtain ⟨payload, draw, start, stop⟩ := call
  cases payload with
  | none => exact ⟨1, by decide, rfl⟩
  | some payload =>
    by_cases hlen : payload.len = 0
    · refine ⟨1, by decide, ?_⟩
      simp [ClassifyUser.advance, classifyAlone, DPIClassifier.classify, hlen,
        ClassifyUser.giveBack, pure, Except.pure]
    · cases hsampled : classifier.sampledOut draw with
      | error fault =>
        refine ⟨1, by decide, ?_⟩
        simp [ClassifyUser.advance, classifyAlone, DPIClassifier.classify, hlen, hsampled,
          ClassifyUser.giveBack, bind, Except.bind]
      | ok sampled =>
        have halone : classifier.classify (some payload) draw start stop = _ :=
          classify_of_sampledOut hlen hsampled
        cases sampled with
        | true =>
          refine ⟨1, by decide, ?_⟩
          simp [ClassifyUser.advance, classifyAlone, hlen, hsampled, halone, ClassifyUser.giveBack]
        | false =>
          have hmatch : classifier.matchSignatures payload = _ := matchFrom_eq payload _
          refine ⟨2, le_rfl, ?_⟩
          simp [ClassifyUser.advance, classifyAlone, hlen, hsampled, halone, hmatch,
            ClassifyUser.giveBack]

/-! ## Where a call takes effect -/

/-- The call takes longer than the guardrails allow if it runs the matcher. -/
def ClassifyCall.Late (guardrails : DPIGuardrails) (call : ClassifyCall) : Prop :=
  guardrails.timeoutUs < DPIClassifier.elapsedUs call.start call.stop

instance (guardrails : DPIGuardrails) (call : ClassifyCall) : Decidable (call.Late guardrails) :=
  inferInstanceAs (Decidable (_ < _))

namespace ClassifyUser

variable (classifier : DPIClassifier)

/-- The result of a call in time that is about to match: it is fixed by the signatures. -/
def foreseen (user : ClassifyUser) : Option ClassificationResult :=
  match user.stage, user.calls with
  | .inspecting payload, call :: _ =>
      if call.Late classifier.guardrails then none
      else some (classificationOf (firstMatch payload classifier.signatures))
  | _, _ => none

/-- The calls that have not taken effect. -/
def pending (user : ClassifyUser) : List ClassifyCall :=
  if (user.foreseen classifier).isSome then user.calls.tail else user.calls

/-- The results of the calls that have taken effect. -/
def answers (user : ClassifyUser) : List (Except Fault ClassificationResult) :=
  user.results ++ ((user.foreseen classifier).map Except.ok).toList

end ClassifyUser

/-- What a result adds to the count at an index. -/
def ClassificationResult.counted (index : ℕ) (result : ClassificationResult) : UInt64 :=
  if result ≠ .unknown ∧ result.code.toNat = index then 1 else 0

/-- What a thread has still to add to the count at an index. -/
def ClassifyUser.uncounted (classifier : DPIClassifier) (index : ℕ) (user : ClassifyUser) : UInt64 :=
  ((user.foreseen classifier).map (ClassificationResult.counted index)).getD 0

/-- A thread that matches works on the payload of its call, which is not empty. -/
def ClassifyUser.Prepared (user : ClassifyUser) : Prop :=
  ∀ payload, user.stage = .inspecting payload →
    payload.len ≠ 0 ∧ ∃ call rest, user.calls = call :: rest ∧ call.payload = some payload

/-- The classifier has the signatures and guardrails of another one, and its flag is permitted. -/
structure Configured (start classifier : DPIClassifier) : Prop where
  signatures : classifier.signatures = start.signatures
  guardrails : classifier.guardrails = start.guardrails
  permitted : classifier.degraded = true → classifier.guardrails.degradationEnabled = true

/-- The classifier of the threads has the flag of the one that a single thread uses, and its counts
but for what the threads have still to add. -/
structure Related (start : DPIClassifier) (config : Config DPIClassifier ClassifyUser)
    (plain : DPIClassifier) : Prop where
  shared : Configured start config.shared
  single : Configured start plain
  degraded : config.shared.degraded = plain.degraded
  counts : ∀ (index : ℕ) (h : index < 16),
    total (fun classifier : DPIClassifier ↦ classifier.classificationCounts[index])
      (ClassifyUser.uncounted start index) config = plain.classificationCounts[index]
  prepared : ∀ user ∈ config.workers, user.Prepared

/-! ## One access -/

section Settle

variable (classifier : DPIClassifier) {result : ClassificationResult} {elapsed : UInt32}

theorem Configured.settle {start classifier : DPIClassifier} (hconfigured : Configured start classifier)
    (result : ClassificationResult) (elapsed : UInt32) :
    Configured start (classifier.settle result elapsed).classifier where
  signatures := (settle_signatures ..).trans hconfigured.signatures
  guardrails := (guardrails_settle ..).trans hconfigured.guardrails
  permitted := by
    rw [degraded_settle, guardrails_settle]
    split
    · exact id
    · exact hconfigured.permitted

end Settle

/-! ## One step -/

section Steps

variable {start plain : DPIClassifier} {config : Config DPIClassifier ClassifyUser} {place : ℕ}
  {user : ClassifyUser} {call : ClassifyCall} {rest : List ClassifyCall}
  {results : List (Except Fault ClassificationResult)} {payload : Payload}

/-- A step that trades with the counts what it trades with the single thread's keeps the relation. -/
theorem Related.set (hrelated : Related start config plain)
    (huser : config.workers[place]? = some user) {after plain' : DPIClassifier}
    {moved : ClassifyUser} (hafter : Configured start after) (hplain : Configured start plain')
    (hdegraded : after.degraded = plain'.degraded)
    (hcounts : ∀ (index : ℕ) (h : index < 16),
      after.classificationCounts[index] + moved.uncounted start index +
          plain.classificationCounts[index] =
        config.shared.classificationCounts[index] + user.uncounted start index +
          plain'.classificationCounts[index])
    (hprepared : moved.Prepared) :
    Related start ⟨after, config.workers.set place moved⟩ plain' where
  shared := hafter
  single := hplain
  degraded := hdegraded
  counts := by
    intro index hindex
    have htotal := total_set_add
      (fun classifier : DPIClassifier ↦ classifier.classificationCounts[index])
      (ClassifyUser.uncounted start index) huser after moved plain.classificationCounts[index]
      plain'.classificationCounts[index] (hcounts index hindex)
    rw [hrelated.counts index hindex, add_comm] at htotal
    exact add_left_cancel htotal
  prepared := forall_workers_set ClassifyUser.Prepared hprepared hrelated.prepared

end Steps

/-! ## Every schedule -/

section Runs

variable (sorter : RankedList.Sorter DPIClassifier.higherPriority) (guardrails : DPIGuardrails)
  (earlier : List Call) (workloads : List (List ClassifyCall)) (schedule : List ℕ)

end Runs

end VirtualServiceGateway.Dpi
