import Mathlib.Data.List.Infix
import Mathlib.Logic.Basic

/-!
# Executions of a deterministic transition function

A run folds a step function over the events, oldest first. The rules below carry an invariant,
or a relation to a second machine that reads the same events, from one step to every run. The
last rules are the exact ones: a property holds of every prefix of a run, or in every state it passes
through, if and only if every step of the run meets a condition on the state before it.
-/

namespace VirtualServiceGateway.Execution

variable {State Abstract Event : Type*}

/-- The state after the events, oldest first. -/
def run (step : State → Event → State) (start : State) (events : List Event) : State :=
  events.foldl step start

@[simp]
theorem run_nil (step : State → Event → State) (start : State) : run step start [] = start := rfl

@[simp]
theorem run_cons (step : State → Event → State) (start : State) (event : Event)
    (events : List Event) :
    run step start (event :: events) = run step (step start event) events := rfl

theorem run_append (step : State → Event → State) (start : State) (first second : List Event) :
    run step start (first ++ second) = run step (run step start first) second :=
  List.foldl_append

@[simp]
theorem run_concat (step : State → Event → State) (start : State) (events : List Event)
    (event : Event) : run step start (events ++ [event]) = step (run step start events) event := by
  rw [run_append, run_cons, run_nil]

/-- An invariant of one step is an invariant of every run. -/
theorem run_invariant {step : State → Event → State} {start : State} (invariant : State → Prop)
    (hstart : invariant start)
    (hstep : ∀ state event, invariant state → invariant (step state event))
    (events : List Event) : invariant (run step start events) := by
  induction events using List.reverseRecOn with
  | nil => exact hstart
  | append_singleton events event ih =>
    rw [run_concat]
    exact hstep _ event ih

/-- Two machines that read the same events stay related. -/
theorem run_related {step : State → Event → State} {abstractStep : Abstract → Event → Abstract}
    {start : State} {abstractStart : Abstract} (related : State → Abstract → Prop)
    (hstart : related start abstractStart)
    (hstep : ∀ state abstract event, related state abstract →
      related (step state event) (abstractStep abstract event))
    (events : List Event) :
    related (run step start events) (run abstractStep abstractStart events) := by
  induction events using List.reverseRecOn with
  | nil => exact hstart
  | append_singleton events event ih =>
    rw [run_concat, run_concat]
    exact hstep _ _ event ih

/-- An observation that commutes with the step commutes with the run. -/
theorem run_observed {step : State → Event → State} {abstractStep : Abstract → Event → Abstract}
    (observe : State → Abstract)
    (hstep : ∀ state event, observe (step state event) = abstractStep (observe state) event)
    (start : State) (events : List Event) :
    observe (run step start events) = run abstractStep (observe start) events :=
  run_related (fun state abstract ↦ observe state = abstract) rfl
    (fun state abstract event h ↦ by rw [hstep, h]) events

/-- Every step of the run meets the condition in the state before it. -/
def StepsMeet (step : State → Event → State) (condition : State → Event → Prop) :
    State → List Event → Prop
  | _, [] => True
  | state, event :: events =>
      condition state event ∧ StepsMeet step condition (step state event) events

instance instDecidableStepsMeet (step : State → Event → State) (condition : State → Event → Prop)
    [∀ state event, Decidable (condition state event)] :
    ∀ state events, Decidable (StepsMeet step condition state events)
  | _, [] => inferInstanceAs (Decidable True)
  | state, event :: events =>
      have := instDecidableStepsMeet step condition (step state event) events
      inferInstanceAs (Decidable (condition state event ∧
        StepsMeet step condition (step state event) events))

theorem stepsMeet_append (step : State → Event → State) (condition : State → Event → Prop)
    (start : State) (first second : List Event) :
    StepsMeet step condition start (first ++ second) ↔
      StepsMeet step condition start first ∧
        StepsMeet step condition (run step start first) second := by
  induction first generalizing start with
  | nil => simp [StepsMeet]
  | cons event events ih => simp [StepsMeet, ih, and_assoc]

theorem stepsMeet_concat (step : State → Event → State) (condition : State → Event → Prop)
    (start : State) (events : List Event) (event : Event) :
    StepsMeet step condition start (events ++ [event]) ↔
      StepsMeet step condition start events ∧ condition (run step start events) event := by
  rw [stepsMeet_append]
  simp [StepsMeet]

/-- The steps of a run meet the condition exactly when each event does after the ones before it. -/
theorem stepsMeet_iff_forall_prefix (step : State → Event → State)
    (condition : State → Event → Prop) (start : State) (events : List Event) :
    StepsMeet step condition start events ↔
      ∀ before event, before ++ [event] <+: events → condition (run step start before) event := by
  induction events using List.reverseRecOn with
  | nil => simp [StepsMeet]
  | append_singleton events event ih =>
    rw [stepsMeet_concat, ih]
    constructor
    · rintro ⟨hbefore, hlast⟩ before next hearlier
      rcases List.prefix_concat_iff.mp hearlier with hsame | hearlier
      · obtain ⟨rfl, hnext⟩ := List.append_inj' hsame rfl
        rwa [List.singleton_inj.mp hnext]
      · exact hbefore before next hearlier
    · intro h
      exact ⟨fun before next hearlier ↦ h before next (hearlier.trans (List.prefix_append _ _)),
        h events event List.prefix_rfl⟩

/-- A condition that every event meets by itself is met by all steps. -/
theorem stepsMeet_of_forall {step : State → Event → State} {condition : State → Event → Prop}
    {start : State} (invariant : State → Prop) {events : List Event} (hstart : invariant start)
    (hstep : ∀ state, ∀ event ∈ events, invariant state →
      condition state event ∧ invariant (step state event)) :
    StepsMeet step condition start events := by
  induction events generalizing start with
  | nil => trivial
  | cons event events ih =>
    obtain ⟨hcondition, hnext⟩ := hstep start event List.mem_cons_self hstart
    exact ⟨hcondition, ih hnext fun state later hlater ↦
      hstep state later (List.mem_cons_of_mem _ hlater)⟩

/-- A condition on the events alone is met by all steps exactly when every event meets it. -/
theorem stepsMeet_iff_forall_mem (step : State → Event → State) (condition : Event → Prop)
    (start : State) (events : List Event) :
    StepsMeet step (fun _ event ↦ condition event) start events ↔
      ∀ event ∈ events, condition event := by
  induction events generalizing start with
  | nil => simp [StepsMeet]
  | cons event events ih => simp [StepsMeet, ih]

/-- What every step that meets the condition keeps holds after a run whose steps all meet it. -/
theorem run_invariant_of_stepsMeet {step : State → Event → State}
    {condition : State → Event → Prop} (invariant : State → Prop) {start : State}
    (hstart : invariant start)
    (hstep : ∀ state event, condition state event → invariant state → invariant (step state event))
    {events : List Event} (hmeet : StepsMeet step condition start events) :
    invariant (run step start events) := by
  induction events generalizing start with
  | nil => exact hstart
  | cons event events ih => exact ih (hstep start event hmeet.1 hstart) hmeet.2

/-- It holds in every state that such a run passes through. -/
theorem forall_prefix_of_stepsMeet {step : State → Event → State}
    {condition : State → Event → Prop} (invariant : State → Prop) {start : State}
    (hstart : invariant start)
    (hstep : ∀ state event, condition state event → invariant state → invariant (step state event))
    {events : List Event} (hmeet : StepsMeet step condition start events) :
    ∀ before, before <+: events → invariant (run step start before) := by
  rintro before ⟨later, rfl⟩
  exact run_invariant_of_stepsMeet invariant hstart hstep
    ((stepsMeet_append step condition start before later).mp hmeet).1

/-- What some event of a run establishes in any state and every event keeps holds after the run. -/
theorem run_established {step : State → Event → State} (property : State → Prop)
    {events : List Event} (hsome : ∃ event ∈ events, ∀ state, property (step state event))
    (hkeep : ∀ event ∈ events, ∀ state, property state → property (step state event))
    (start : State) : property (run step start events) := by
  obtain ⟨event, hevent, hestablishes⟩ := hsome
  obtain ⟨before, after, rfl⟩ := List.append_of_mem hevent
  have hafter : StepsMeet step (fun _ later ↦ later ∈ after)
      (step (run step start before) event) after :=
    (stepsMeet_iff_forall_mem step (· ∈ after) _ after).mpr fun _ hlater ↦ hlater
  rw [run_append, run_cons]
  refine run_invariant_of_stepsMeet property (hestablishes _) ?_ hafter
  intro state later hlater
  exact hkeep later (List.mem_append_right _ (List.mem_cons_of_mem _ hlater)) state

/-- The total of what the steps of a run add, each read off the state before it. -/
def total (step : State → Event → State) (amount : State → Event → ℕ) : State → List Event → ℕ
  | _, [] => 0
  | state, event :: events => amount state event + total step amount (step state event) events

/-- Amounts that agree under a condition have the same total over a run whose steps all meet it. -/
theorem total_eq_of_stepsMeet {step : State → Event → State} {condition : State → Event → Prop}
    {first second : State → Event → ℕ} {start : State} {events : List Event}
    (hsame : ∀ state event, condition state event → first state event = second state event)
    (hmeet : StepsMeet step condition start events) :
    total step first start events = total step second start events := by
  induction events generalizing start with
  | nil => rfl
  | cons event events ih =>
    unfold total
    rw [hsame start event hmeet.1, ih hmeet.2]

/-- **Exact step conditions.** If one more event keeps a property of the history exactly when it meets
the condition in the state before it, then the property holds of every prefix of a run exactly when
all steps of the run meet the condition. -/
theorem forall_prefix_iff_stepsMeet_history (step : State → Event → State) (start : State)
    (property : List Event → Prop) (condition : State → Event → Prop) (hstart : property [])
    (hexact : ∀ events event, property events →
      (property (events ++ [event]) ↔ condition (run step start events) event))
    (events : List Event) :
    (∀ before, before <+: events → property before) ↔ StepsMeet step condition start events := by
  induction events using List.reverseRecOn with
  | nil => exact iff_of_true (fun before hbefore ↦ List.prefix_nil.mp hbefore ▸ hstart) trivial
  | append_singleton events event ih =>
    rw [stepsMeet_concat, ← ih]
    constructor
    · intro h
      have hbefore : ∀ before, before <+: events → property before :=
        fun before hearlier ↦ h before (hearlier.trans (List.prefix_append _ _))
      exact ⟨hbefore, (hexact events event (hbefore events List.prefix_rfl)).mp
        (h _ List.prefix_rfl)⟩
    · rintro ⟨hbefore, hcondition⟩ before hearlier
      rcases List.prefix_concat_iff.mp hearlier with rfl | hearlier
      · exact (hexact events event (hbefore events List.prefix_rfl)).mpr hcondition
      · exact hbefore before hearlier

/-- Exact step conditions for two machines. Let a second machine watch the same events, and let
`sound` hold of both states throughout. If one step from related states keeps the property exactly
when it meets the condition, then a run has the property in every state it passes through exactly
when all its steps meet the condition. -/
theorem forall_prefix_iff_stepsMeet_watched (step : State → Event → State)
    (watch : Abstract → Event → Abstract) (start : State) (watchStart : Abstract)
    (sound property : State → Abstract → Prop) (condition : State → Event → Prop)
    (hsound : sound start watchStart)
    (hkeep : ∀ state abstract event, sound state abstract →
      sound (step state event) (watch abstract event))
    (hstart : property start watchStart)
    (hexact : ∀ state abstract event, sound state abstract → property state abstract →
      (property (step state event) (watch abstract event) ↔ condition state event))
    (events : List Event) :
    (∀ before, before <+: events →
        property (run step start before) (run watch watchStart before)) ↔
      StepsMeet step condition start events := by
  refine forall_prefix_iff_stepsMeet_history step start
    (fun before ↦ property (run step start before) (run watch watchStart before)) condition hstart
    (fun before event hbefore ↦ ?_) events
  rw [run_concat, run_concat]
  exact hexact _ _ event (run_related sound hsound hkeep before) hbefore

/-- Exact step conditions for a property of the state alone. -/
theorem forall_prefix_iff_stepsMeet (step : State → Event → State) (start : State)
    (property : State → Prop) (condition : State → Event → Prop) (hstart : property start)
    (hexact : ∀ state event, property state →
      (property (step state event) ↔ condition state event))
    (events : List Event) :
    (∀ before, before <+: events → property (run step start before)) ↔
      StepsMeet step condition start events :=
  forall_prefix_iff_stepsMeet_history step start (fun before ↦ property (run step start before))
    condition hstart
    (fun before event hbefore ↦ by rw [run_concat]; exact hexact _ event hbefore) events

end VirtualServiceGateway.Execution
