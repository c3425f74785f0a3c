import VirtualServiceGateway.Dpi.FirstMatch

/-!
# Live updates while the matcher scans

The matcher visits the positions of the shared vector one by one, up to the end that the vector had
when the loop began. Updates and removals change the vector between two visits. An update in place
leaves the iterators of the loop valid. As long as it puts no match in front of the scan, the scan ends
with the first match of the list as it is at that moment. An append or a removal invalidates the
iterators, and then the scan has no defined result.
-/

namespace VirtualServiceGateway.Dpi

open CheckedOperation RankedList

/-- The matcher before its next visit, with the end that its loop goes to, or after a change that
invalidated its iterators, or with its result. -/
inductive Scan where
  | running (next stop : ℕ)
  | invalidated
  | finished (result : Except Fault ClassificationResult)
  deriving DecidableEq

/-- The vector has grown or shrunk. -/
def Scan.invalidate : Scan → Scan
  | .finished result => .finished result
  | _ => .invalidated

/-- A classifier with one scan under way. -/
structure LiveScan where
  classifier : DPIClassifier
  scan : Scan

/-- The scan visits its next position, or another thread changes the signatures. -/
inductive LiveEvent where
  | visit
  | updateSignature (sig : DPISignature)
  | removeSignature (signatureId : UInt16)

namespace LiveScan

/-- A scan that has not visited any position yet. The end is taken once. -/
def start (classifier : DPIClassifier) : LiveScan :=
  ⟨classifier, .running 0 classifier.signatures.length⟩

/-- A visit ends the scan at the end of the vector, or reads the element at the next position. -/
def visit (payload : Payload) (signatures : List DPISignature) : Scan → Scan
  | .finished result => .finished result
  | .invalidated => .finished (.error .outOfBounds)
  | .running next stop =>
      if next = stop then .finished (.ok .unknown)
      else
        match signatures[next]? with
        | none => .finished (.error .outOfBounds)
        | some sig =>
            match visitSignature payload sig with
            | .error fault => .finished (.error fault)
            | .ok true => .finished (.ok sig.classification)
            | .ok false => .running (next + 1) stop

/-- An update of an unknown id appends, and a removal of a known id erases. -/
def step (payload : Payload) (state : LiveScan) : LiveEvent → LiveScan
  | .visit => { state with scan := visit payload state.classifier.signatures state.scan }
  | .updateSignature sig =>
      { classifier := state.classifier.updateSignature sig
        scan := match state.classifier.find sig.signatureId with
          | some _ => state.scan
          | none => state.scan.invalidate }
  | .removeSignature signatureId =>
      { classifier := state.classifier.removeSignature signatureId
        scan := match state.classifier.find signatureId with
          | some _ => state.scan.invalidate
          | none => state.scan }

/-- The state after the events, oldest first. -/
def after (payload : Payload) (classifier : DPIClassifier) (events : List LiveEvent) : LiveScan :=
  Execution.run (step payload) (start classifier) events

/-- The scan goes on over the vector that it began on, and no signature in front of it matches. -/
def OnCourse (payload : Payload) (state : LiveScan) : Prop :=
  match state.scan with
  | .finished _ => True
  | .invalidated => False
  | .running next stop =>
      state.classifier.signatures.length = stop ∧ next ≤ stop ∧
        AllInFront (fun sig ↦ ¬sig.Matches payload) state.classifier.signatures next

/-- A change fits the scan under way: it neither appends nor removes a signature, and it puts no
matching one in front of the scan. -/
def Fits (payload : Payload) (state : LiveScan) (event : LiveEvent) : Prop :=
  match state.scan, event with
  | .running next _, .updateSignature sig =>
      ∃ place ∈ state.classifier.find sig.signatureId, place < next → ¬sig.Matches payload
  | .running _ _, .removeSignature signatureId => state.classifier.find signatureId = none
  | _, _ => True

/-- The result of a finished scan is the first match of the list at some moment of the scan. -/
def Linearizable (payload : Payload) (classifier : DPIClassifier) (events : List LiveEvent) :
    Prop :=
  ∀ result, (after payload classifier events).scan = .finished result →
    ∃ before next stop, before <+: events ∧
      (after payload classifier before).scan = .running next stop ∧
      result = (after payload classifier before).classifier.matchSignatures payload

/-! ## One event -/

theorem after_concat (payload : Payload) (classifier : DPIClassifier) (events : List LiveEvent)
    (event : LiveEvent) :
    after payload classifier (events ++ [event]) =
      (after payload classifier events).step payload event :=
  Execution.run_concat _ _ events event

/-- A visit on course goes on behind a clear front, or ends with the first match. -/
theorem visit_cases {payload : Payload} {signatures : List DPISignature} {next : ℕ}
    (hnext : next ≤ signatures.length)
    (hfront : AllInFront (fun sig ↦ ¬sig.Matches payload) signatures next) :
    (visit payload signatures (.running next signatures.length) =
          .running (next + 1) signatures.length ∧
        next + 1 ≤ signatures.length ∧
        AllInFront (fun sig ↦ ¬sig.Matches payload) signatures (next + 1)) ∨
      visit payload signatures (.running next signatures.length) =
        .finished (matchFrom payload signatures) := by
  have hselect : AllInFront (fun sig ↦ ¬decide (sig.Matches payload) = true) signatures next := by
    simpa only [decide_eq_true_eq] using hfront
  rw [matchFrom_eq, firstMatch, visit]
  rcases Nat.eq_or_lt_of_le hnext with hend | hbefore
  · right
    rw [if_pos hend, hselect.find?_eq_none (List.getElem?_eq_none hend.ge)]
    rfl
  · have hsig : signatures[next]? = some signatures[next] := List.getElem?_eq_getElem hbefore
    rw [if_neg hbefore.ne, hsig]
    simp only [visitSignature_eq]
    by_cases hmatches : signatures[next].Matches payload
    · right
      rw [hselect.find?_eq_some hsig (decide_eq_true hmatches), decide_eq_true hmatches]
      rfl
    · left
      rw [decide_eq_false hmatches]
      exact ⟨rfl, hbefore, hfront.succ hsig hmatches⟩

/-- One event keeps the scan on course exactly when it fits. -/
theorem onCourse_step_iff (payload : Payload) (state : LiveScan) (event : LiveEvent)
    (hcourse : state.OnCourse payload) :
    (state.step payload event).OnCourse payload ↔ state.Fits payload event := by
  obtain ⟨classifier, scan⟩ := state
  cases scan with
  | invalidated => exact hcourse.elim
  | finished result =>
    refine iff_of_true ?_ (by cases event <;> trivial)
    cases event with
    | visit => trivial
    | updateSignature sig =>
      simp only [step]
      cases classifier.find sig.signatureId <;> trivial
    | removeSignature signatureId =>
      simp only [step]
      cases classifier.find signatureId <;> trivial
  | running next stop =>
    dsimp only [OnCourse] at hcourse
    obtain ⟨rfl, hnext, hfront⟩ := hcourse
    cases event with
    | visit =>
      refine iff_of_true ?_ trivial
      rcases visit_cases hnext hfront with ⟨hvisit, hstill, hclear⟩ | hvisit
      · simp only [OnCourse, step, hvisit]
        exact ⟨trivial, hstill, hclear⟩
      · simp only [OnCourse, step, hvisit]
    | updateSignature sig =>
      simp only [OnCourse, Fits, step, DPIClassifier.updateSignature]
      cases hfind : classifier.find sig.signatureId with
      | none => simp [Scan.invalidate]
      | some place =>
        obtain ⟨hplace, -⟩ := find_eq_some hfind
        simp only [List.length_set, hnext, true_and, Option.mem_def, Option.some.injEq,
          exists_eq_left']
        exact allInFront_set_iff hfront hplace sig
    | removeSignature signatureId =>
      simp only [OnCourse, Fits, step, DPIClassifier.removeSignature]
      cases hfind : classifier.find signatureId with
      | none => exact iff_of_true ⟨rfl, hnext, hfront⟩ rfl
      | some place => simp [Scan.invalidate]

/-- No change of the signatures gives a scan its result. -/
theorem finished_of_finished_step {payload : Payload} {state : LiveScan} {event : LiveEvent}
    (hevent : event ≠ .visit) {result : Except Fault ClassificationResult}
    (hresult : (state.step payload event).scan = .finished result) :
    state.scan = .finished result := by
  obtain ⟨classifier, scan⟩ := state
  cases event with
  | visit => exact absurd rfl hevent
  | updateSignature sig =>
    simp only [step] at hresult
    cases hfind : classifier.find sig.signatureId <;> rw [hfind] at hresult
    · cases scan <;> first | exact hresult | cases hresult
    · exact hresult
  | removeSignature signatureId =>
    simp only [step] at hresult
    cases hfind : classifier.find signatureId <;> rw [hfind] at hresult
    · exact hresult
    · cases scan <;> first | exact hresult | cases hresult

/-! ## Every interleaving -/

/-- A scan that is always on course is linearizable at its last visit. -/
theorem linearizable_of_onCourse (payload : Payload) (classifier : DPIClassifier)
    (events : List LiveEvent)
    (hcourse : ∀ before, before <+: events → (after payload classifier before).OnCourse payload) :
    Linearizable payload classifier events := by
  induction events using List.reverseRecOn with
  | nil =>
    intro result hresult
    cases hresult
  | append_singleton events event ih =>
    have hearlier := ih fun before hbefore ↦ hcourse before (hbefore.trans (List.prefix_append _ _))
    have hnow := hcourse events (List.prefix_append _ _)
    have hwiden : ∀ result, (after payload classifier events).scan = .finished result →
        ∃ before next stop, before <+: events ++ [event] ∧
          (after payload classifier before).scan = .running next stop ∧
          result = (after payload classifier before).classifier.matchSignatures payload := by
      intro result hresult
      obtain ⟨before, next, stop, hbefore, hrunning, hmatch⟩ := hearlier result hresult
      exact ⟨before, next, stop, hbefore.trans (List.prefix_append _ _), hrunning, hmatch⟩
    intro result hresult
    rw [after_concat] at hresult
    by_cases hevent : event = .visit
    · subst hevent
      cases hscan : (after payload classifier events).scan with
      | finished old =>
        -- the scan had its result before this visit
        simp only [step, hscan, visit] at hresult
        obtain rfl := Scan.finished.inj hresult
        exact hwiden _ hscan
      | invalidated =>
        simp only [OnCourse, hscan] at hnow
      | running next stop =>
        -- this is the last visit
        refine ⟨events, next, stop, List.prefix_append _ _, hscan, ?_⟩
        simp only [OnCourse, hscan] at hnow
        obtain ⟨rfl, hnext, hfront⟩ := hnow
        simp only [step, hscan] at hresult
        rcases visit_cases hnext hfront with ⟨hvisit, -⟩ | hvisit
        · rw [hvisit] at hresult
          cases hresult
        · rw [hvisit] at hresult
          exact (Scan.finished.inj hresult).symm
    · exact hwiden result (finished_of_finished_step hevent hresult)

/-- **Condition for linearizability.** Through every interleaving the scan is on course in every state
if and only if every change fits it, and then it is linearizable. -/
theorem linearizable_of_fits (payload : Payload) (classifier : DPIClassifier)
    (events : List LiveEvent) :
    ((∀ before, before <+: events → (after payload classifier before).OnCourse payload) ↔
      Execution.StepsMeet (step payload) (Fits payload) (start classifier) events) ∧
    (Execution.StepsMeet (step payload) (Fits payload) (start classifier) events →
      Linearizable payload classifier events) := by
  have hstart : (start classifier).OnCourse payload := ⟨rfl, Nat.zero_le _, allInFront_zero _⟩
  have hexact := Execution.forall_prefix_iff_stepsMeet (step payload) (start classifier)
    (OnCourse payload) (Fits payload) hstart (onCourse_step_iff payload) events
  exact ⟨hexact, fun hfits ↦ linearizable_of_onCourse payload classifier events
    (hexact.mpr hfits)⟩

/-- Both signatures are replaced in place between two visits, the one in front of the scan by one that
matches and then the other by one that does not. Some signature matches in every state of the list,
and the scan finds none. -/
theorem replacements_hide_match :
    let first : DPISignature := ⟨1, ⟨1⟩, [66], 0, 16, true, 0⟩
    let second : DPISignature := ⟨2, ⟨2⟩, [65], 0, 16, true, 0⟩
    let payload : Payload := ⟨[65], by decide⟩
    let classifier : DPIClassifier :=
      { DPIClassifier.create ⟨100, 0, 10, true⟩ with signatures := [first, second] }
    let events : List LiveEvent :=
      [.visit, .updateSignature ⟨1, ⟨4⟩, [65], 0, 16, true, 0⟩,
        .updateSignature ⟨2, ⟨2⟩, [67], 0, 16, true, 0⟩, .visit, .visit]
    (after payload classifier events).scan = .finished (.ok .unknown) ∧
    (∀ before, before <+: events →
      (after payload classifier before).classifier.matchSignatures payload ∈
        [.ok ⟨2⟩, .ok ⟨4⟩]) ∧
    ¬Linearizable payload classifier events := by
  intro first second payload classifier events
  have hscan : (after payload classifier events).scan = .finished (.ok .unknown) := by
    decide +kernel
  have hmatch : ∀ before, before <+: events →
      (after payload classifier before).classifier.matchSignatures payload ∈
        [.ok ⟨2⟩, .ok ⟨4⟩] := by
    simp only [← List.mem_inits]
    decide +kernel
  refine ⟨hscan, hmatch, fun h ↦ ?_⟩
  obtain ⟨before, next, stop, hbefore, -, hresult⟩ := h _ hscan
  have hknown := hmatch before hbefore
  rw [← hresult] at hknown
  exact absurd hknown (by decide)

end LiveScan

end VirtualServiceGateway.Dpi
