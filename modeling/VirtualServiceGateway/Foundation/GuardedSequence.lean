import Mathlib.Data.List.Infix
import Mathlib.Data.UInt
import VirtualServiceGateway.Foundation.Execution

/-!
# Attempts that may fail, and loops that stop at the first failure

An attempt appends events to a trace and says whether it succeeded. A sequence of attempts stops at
the first one that fails, and keeps the events up to there. The rules below carry facts about the
appended events, and about the trace after a success, through such sequences.
-/

namespace VirtualServiceGateway.GuardedSequence

variable {Event : Type*}

/-- An operation on a trace that succeeds or fails. -/
abbrev Attempt (Event : Type*) := List Event → Bool × List Event

/-- The second attempt follows when the first one succeeds. -/
def andThen (first second : Attempt Event) : Attempt Event := fun trace ↦
  match first trace with
  | (true, next) => second next
  | (false, next) => (false, next)

/-- A loop that returns at the first failure. -/
def forAll {Item : Type*} (attempt : Item → Attempt Event) : List Item → Attempt Event
  | [] => fun trace ↦ (true, trace)
  | item :: items => andThen (attempt item) (forAll attempt items)

theorem andThen_of_succeeds {first : Attempt Event} (second : Attempt Event) {trace : List Event}
    (h : (first trace).1 = true) : andThen first second trace = second (first trace).2 := by
  unfold andThen
  cases hattempt : first trace with
  | mk succeeded next =>
    obtain rfl : succeeded = true := by rwa [hattempt] at h
    rfl

theorem andThen_of_fails {first : Attempt Event} (second : Attempt Event) {trace : List Event}
    (h : ¬(first trace).1 = true) : andThen first second trace = (false, (first trace).2) := by
  unfold andThen
  cases hattempt : first trace with
  | mk succeeded next =>
    obtain rfl : succeeded = false := by rwa [hattempt, Bool.not_eq_true] at h
    rfl

/-! ## What is appended -/

/-- The attempt only appends, and only events with the property. -/
def Appends (property : Event → Prop) (attempt : Attempt Event) : Prop :=
  ∀ trace, ∃ added, (attempt trace).2 = trace ++ added ∧ ∀ event ∈ added, property event

variable {property : Event → Prop}

theorem appends_const (succeeded : Bool) :
    Appends property fun trace : List Event ↦ (succeeded, trace) :=
  fun trace ↦ ⟨[], by simp⟩

theorem appends_andThen {first second : Attempt Event} (hfirst : Appends property first)
    (hsecond : Appends property second) : Appends property (andThen first second) := by
  intro trace
  obtain ⟨before, hbefore, hproperty⟩ := hfirst trace
  by_cases h : (first trace).1 = true
  · obtain ⟨added, hadded, hlater⟩ := hsecond (first trace).2
    refine ⟨before ++ added, ?_, List.forall_mem_append.mpr ⟨hproperty, hlater⟩⟩
    rw [andThen_of_succeeds second h, hadded, hbefore, List.append_assoc]
  · refine ⟨before, ?_, hproperty⟩
    rw [andThen_of_fails second h, hbefore]

theorem appends_forAll_mem {Item : Type*} {attempt : Item → Attempt Event} {items : List Item}
    (hattempt : ∀ item ∈ items, Appends property (attempt item)) :
    Appends property (forAll attempt items) := by
  induction items with
  | nil => exact appends_const true
  | cons item items ih =>
    rw [List.forall_mem_cons] at hattempt
    exact appends_andThen hattempt.1 (ih hattempt.2)

theorem appends_forAll {Item : Type*} {attempt : Item → Attempt Event}
    (hattempt : ∀ item, Appends property (attempt item)) (items : List Item) :
    Appends property (forAll attempt items) :=
  appends_forAll_mem fun item _ ↦ hattempt item

/-! ## After a success -/

/-- A success relates the trace before to the trace after. -/
def Ensures (relation : List Event → List Event → Prop) (attempt : Attempt Event) : Prop :=
  ∀ trace next, attempt trace = (true, next) → relation trace next

theorem ensures_andThen {first second : Attempt Event}
    {before after : List Event → List Event → Prop} (hfirst : Ensures before first)
    (hsecond : Ensures after second) :
    Ensures (fun trace next ↦ ∃ middle, before trace middle ∧ after middle next)
      (andThen first second) := by
  intro trace next h
  by_cases hsucceeds : (first trace).1 = true
  · rw [andThen_of_succeeds second hsucceeds] at h
    exact ⟨(first trace).2, hfirst trace _ (Prod.ext hsucceeds rfl), hsecond _ next h⟩
  · rw [andThen_of_fails second hsucceeds] at h
    cases h

/-- What the attempt appends, it appends on success as well. -/
theorem Appends.ensures {attempt : Attempt Event} (h : Appends property attempt) :
    Ensures (fun trace next ↦ ∃ added, next = trace ++ added ∧ ∀ event ∈ added, property event)
      attempt := by
  intro trace next hnext
  have happends := h trace
  rwa [hnext] at happends

/-- A loop that succeeds composes the relations of its rounds. -/
theorem ensures_forAll {Item : Type*} {attempt : Item → Attempt Event}
    {relation : List Item → List Event → List Event → Prop}
    (hnil : ∀ trace, relation [] trace trace)
    (hcons : ∀ item items trace middle next, attempt item trace = (true, middle) →
      relation items middle next → relation (item :: items) trace next)
    (items : List Item) : Ensures (relation items) (forAll attempt items) := by
  induction items with
  | nil =>
    intro trace next h
    obtain rfl : trace = next := (Prod.mk.inj h).2
    exact hnil trace
  | cons item items ih =>
    intro trace next h
    obtain ⟨middle, hfirst, hrest⟩ := ensures_andThen
      (fun _ _ hattempt ↦ hattempt) ih trace next h
    exact hcons item items trace middle next hfirst hrest

/-! ## Before and after -/

/-- From a trace with the first property, a success leads to the second and a failure to the
third. -/
def Triple (before : List Event → Prop) (attempt : Attempt Event)
    (after failed : List Event → Prop) : Prop :=
  ∀ trace, before trace →
    if (attempt trace).1 then after (attempt trace).2 else failed (attempt trace).2

section Triple

variable {before middle after failed : List Event → Prop}

theorem triple_andThen {first second : Attempt Event} (hfirst : Triple before first middle failed)
    (hsecond : Triple middle second after failed) :
    Triple before (andThen first second) after failed := by
  intro trace hbefore
  have hmiddle := hfirst trace hbefore
  by_cases h : (first trace).1 = true
  · rw [if_pos h] at hmiddle
    rw [andThen_of_succeeds second h]
    exact hsecond _ hmiddle
  · rw [if_neg h] at hmiddle
    rw [andThen_of_fails second h]
    exact hmiddle

/-- A property of a failure may be weakened. -/
theorem Triple.mono_failed {attempt : Attempt Event} {worse : List Event → Prop}
    (h : Triple before attempt after failed) (himp : ∀ trace, failed trace → worse trace) :
    Triple before attempt after worse := by
  intro trace hbefore
  have hafter := h trace hbefore
  by_cases hsucceeds : (attempt trace).1 = true
  · rwa [if_pos hsucceeds] at hafter ⊢
  · rw [if_neg hsucceeds] at hafter ⊢
    exact himp _ hafter

/-- A loop carries an invariant that speaks of the items it has gone through. -/
theorem triple_forAll {Item : Type*} {attempt : Item → Attempt Event}
    (invariant : List Item → List Event → Prop) {items : List Item} (done : List Item)
    (hattempt : ∀ before item after, done ++ items = before ++ item :: after →
      Triple (invariant before) (attempt item) (invariant (before ++ [item])) failed) :
    Triple (invariant done) (forAll attempt items) (invariant (done ++ items)) failed := by
  induction items generalizing done with
  | nil =>
    intro trace hbefore
    rw [List.append_nil]
    exact hbefore
  | cons item items ih =>
    have hrest := ih (done ++ [item]) (by simpa using hattempt)
    rw [List.append_assoc, List.singleton_append] at hrest
    exact triple_andThen (hattempt done item items rfl) hrest

end Triple

/-! ## Scripts -/

/-- Every event of the script is accepted after the trace and the events before it. -/
def Accepted (accepts : List Event → Event → Prop) (trace script : List Event) : Prop :=
  Execution.StepsMeet (fun trace event ↦ trace ++ [event]) accepts trace script

theorem run_append_event (trace script : List Event) :
    Execution.run (fun trace event ↦ trace ++ [event]) trace script = trace ++ script := by
  induction script generalizing trace with
  | nil => exact (List.append_nil trace).symm
  | cons event script ih => rw [Execution.run_cons, ih, List.append_assoc, List.singleton_append]

theorem accepted_append (accepts : List Event → Event → Prop) (trace first second : List Event) :
    Accepted accepts trace (first ++ second) ↔
      Accepted accepts trace first ∧ Accepted accepts (trace ++ first) second := by
  unfold Accepted
  rw [Execution.stepsMeet_append, run_append_event]

/-- The attempt succeeds exactly when the guard holds and the script is accepted, and then it has
appended the script. -/
structure Performs (accepts : List Event → Event → Prop) (guard : Prop) (script : List Event)
    (attempt : Attempt Event) : Prop where
  succeeds_iff : ∀ trace, (attempt trace).1 = true ↔ guard ∧ Accepted accepts trace script
  appends : ∀ trace, (attempt trace).1 = true → (attempt trace).2 = trace ++ script

section Performs

variable {accepts : List Event → Event → Prop}

theorem performs_done : Performs accepts True [] fun trace : List Event ↦ (true, trace) where
  succeeds_iff := fun _ ↦ iff_of_true rfl ⟨trivial, trivial⟩
  appends := fun trace _ ↦ (List.append_nil trace).symm

/-- An attempt that is made only outside a bad case. -/
theorem performs_unless {bad : Prop} [Decidable bad] {script : List Event} {attempt : Attempt Event}
    (hattempt : Performs accepts True script attempt) :
    Performs accepts (¬bad) script (if bad then fun trace ↦ (false, trace) else attempt) := by
  by_cases h : bad
  · rw [if_pos h]
    exact ⟨fun _ ↦ by simp [h], fun _ hsucceeds ↦ by cases hsucceeds⟩
  · rw [if_neg h, iff_true_intro h]
    exact hattempt

theorem performs_andThen {firstGuard secondGuard : Prop} {firstScript secondScript : List Event}
    {first second : Attempt Event} (hfirst : Performs accepts firstGuard firstScript first)
    (hsecond : Performs accepts secondGuard secondScript second) :
    Performs accepts (firstGuard ∧ secondGuard) (firstScript ++ secondScript)
      (andThen first second) := by
  constructor
  · intro trace
    rw [accepted_append]
    by_cases h : (first trace).1 = true
    · have hguard := (hfirst.succeeds_iff trace).mp h
      rw [andThen_of_succeeds second h, hfirst.appends trace h, hsecond.succeeds_iff]
      tauto
    · have hguard := (hfirst.succeeds_iff trace).not.mp h
      rw [andThen_of_fails second h]
      tauto
  · intro trace hsucceeds
    by_cases h : (first trace).1 = true
    · rw [andThen_of_succeeds second h, hfirst.appends trace h] at hsucceeds ⊢
      rw [hsecond.appends _ hsucceeds, List.append_assoc]
    · rw [andThen_of_fails second h] at hsucceeds
      cases hsucceeds

theorem performs_forAll {Item : Type*} {guard : Item → Prop} {script : Item → List Event}
    {attempt : Item → Attempt Event}
    (hattempt : ∀ item, Performs accepts (guard item) (script item) (attempt item))
    (items : List Item) :
    Performs accepts (∀ item ∈ items, guard item) (items.flatMap script)
      (forAll attempt items) := by
  induction items with
  | nil =>
    have hguard : (∀ item ∈ ([] : List Item), guard item) ↔ True := by simp
    rw [hguard]
    exact performs_done
  | cons item items ih =>
    rw [List.forall_mem_cons, List.flatMap_cons]
    exact performs_andThen (hattempt item) ih

end Performs

/-! ## Loops with a counter -/

section Counter

variable {Counter : Type*} {continues : Counter → Bool} {advance : Counter → Counter}

/-- A loop that tests its counter before each round. It has no result if the rounds are not enough
for it to end. -/
def counted (continues : Counter → Bool) (advance : Counter → Counter)
    (attempt : Counter → Attempt Event) :
    ℕ → Counter → List Event → Option (Bool × List Event)
  | 0, _, _ => none
  | rounds + 1, counter, trace =>
      if continues counter then
        match attempt counter trace with
        | (true, next) => counted continues advance attempt rounds (advance counter) next
        | (false, next) => some (false, next)
      else some (true, trace)

/-- From the counter on, the loop goes through these values and then ends. -/
def Visits (continues : Counter → Bool) (advance : Counter → Counter) :
    Counter → List Counter → Prop
  | counter, [] => ¬continues counter
  | counter, visited :: rest =>
      visited = counter ∧ continues counter ∧ Visits continues advance (advance counter) rest

/-- With enough rounds, a loop with a counter is the loop over the values that it goes through. -/
theorem counted_eq_forAll (attempt : Counter → Attempt Event) {counter : Counter}
    {counters : List Counter} (hvisits : Visits continues advance counter counters) {rounds : ℕ}
    (hrounds : counters.length < rounds) (trace : List Event) :
    counted continues advance attempt rounds counter trace =
      some (forAll attempt counters trace) := by
  induction counters generalizing counter rounds trace with
  | nil =>
    obtain ⟨fuel, rfl⟩ := Nat.exists_eq_add_one_of_ne_zero (Nat.ne_of_gt hrounds)
    exact if_neg hvisits
  | cons visited rest ih =>
    obtain ⟨rfl, hcontinues, hrest⟩ := hvisits
    obtain ⟨fuel, rfl⟩ := Nat.exists_eq_add_one_of_ne_zero (Nat.ne_zero_of_lt hrounds)
    rw [counted, if_pos hcontinues]
    unfold forAll andThen
    cases attempt visited trace with
    | mk succeeded next =>
      cases succeeded with
      | false => rfl
      | true => exact ih hrest (Nat.lt_of_succ_lt_succ hrounds) next

/-- A 16-bit counter that is incremented up to a bound goes through all values below it. -/
theorem visits_below {continues : UInt16 → Bool} {bound : ℕ} (hbound : bound < 2 ^ 16)
    (hcontinues : ∀ counter, continues counter ↔ counter.toNat < bound) {start count : ℕ}
    (hcount : start + count = bound) :
    Visits continues (· + 1) (UInt16.ofNat start)
      ((List.range' start count).map UInt16.ofNat) := by
  have hvalue (value : ℕ) (hvalue : value ≤ bound) : (UInt16.ofNat value).toNat = value :=
    UInt16.toNat_ofNat_of_lt' (hvalue.trans_lt hbound)
  induction count generalizing start with
  | zero =>
    change ¬continues (UInt16.ofNat start)
    rw [hcontinues, hvalue start (by omega)]
    omega
  | succ count ih =>
    have hnext : UInt16.ofNat start + 1 = UInt16.ofNat (start + 1) := (UInt16.ofNat_add ..).symm
    refine ⟨rfl, ?_, ?_⟩
    · rw [hcontinues, hvalue start (by omega)]
      omega
    · change Visits continues (· + 1) (UInt16.ofNat start + 1) _
      rw [hnext]
      exact ih (by omega)

end Counter

/-! ## The values of a 16-bit counter -/

section Values

variable {bound : ℕ}

/-- As numbers, the values of a 16-bit counter below a bound are the numbers below it. -/
theorem map_toNat_map_ofNat_range (hbound : bound < 2 ^ 16) :
    ((List.range bound).map UInt16.ofNat).map UInt16.toNat = List.range bound := by
  rw [List.map_map]
  conv_rhs => rw [← List.map_id (List.range bound)]
  apply List.map_congr_left
  intro value hvalue
  exact UInt16.toNat_ofNat_of_lt' ((List.mem_range.mp hvalue).trans hbound)

theorem mem_map_ofNat_range (hbound : bound < 2 ^ 16) {counter : UInt16} :
    counter ∈ (List.range bound).map UInt16.ofNat ↔ counter.toNat < bound := by
  rw [← List.mem_map_of_injective fun _ _ ↦ UInt16.toNat.inj, map_toNat_map_ofNat_range hbound,
    List.mem_range]

end Values

end VirtualServiceGateway.GuardedSequence
