import Mathlib.Data.Finset.Card
import VirtualServiceGateway.Metering.PeriodRollup

/-!
# The cap on tracked subscribers

The meter stores the maximum number of subscribers and never reads it. A subscriber is tracked while
some service of it has a counter, so an update adds at most its own subscriber and a reset adds
none. The cap is kept through a run exactly when no update brings a new subscriber to a full meter.
-/

namespace VirtualServiceGateway.Metering

open WrappingCounter

namespace UBBMeter

/-- The subscribers that hold at least one counter. -/
def subscribers (meter : UBBMeter) : Finset UInt32 :=
  (meter.counters.entries.map fun entry ↦ entry.2.subscriberId).toFinset

/-- No more subscribers are tracked than configured, and every update for one of them accounts its
packet. -/
structure WithinCap (meter : UBBMeter) : Prop where
  bounded : meter.subscribers.card ≤ meter.maxSubscribers.toNat
  accounted : ∀ subscriberId ∈ meter.subscribers, ∀ serviceId bytes uplink created now prior
    quantity,
    ((meter.updateCounter subscriberId serviceId bytes uplink created now).getCounter subscriberId
        serviceId prior).read quantity =
      (meter.getCounter subscriberId serviceId prior).read quantity +
        wrap64 (Usage.amount quantity ⟨now, bytes, uplink⟩)

/-- An update is for a tracked subscriber or finds room for a new one. -/
def Admits (meter : UBBMeter) : Call → Prop
  | .updateCounter subscriberId _ _ _ _ _ =>
      subscriberId ∈ meter.subscribers ∨ meter.subscribers.card < meter.maxSubscribers.toNat
  | _ => True

/-! ## Tracked subscribers in the ledger -/

theorem mem_subscribers {meter : UBBMeter} {subscriberId : UInt32} :
    subscriberId ∈ meter.subscribers ↔
      ∃ key counter, meter.counters.lookup key = some counter ∧
        counter.subscriberId = subscriberId := by
  unfold subscribers
  rw [List.mem_toFinset, List.mem_map]
  constructor
  · intro ⟨⟨key, counter⟩, hentry, hsubscriber⟩
    exact ⟨key, counter, AList.mem_lookup_iff.mpr hentry, hsubscriber⟩
  · intro ⟨key, counter, hstored, hsubscriber⟩
    exact ⟨⟨key, counter⟩, AList.mem_lookup_iff.mp hstored, hsubscriber⟩

@[simp]
theorem subscribers_create (maxSubscribers : UInt32) : (create maxSubscribers).subscribers = ∅ :=
  rfl

end UBBMeter

/-- A subscriber is tracked exactly when one of its services has accounted packets. -/
theorem Refines.mem_subscribers_iff {meter : UBBMeter} {ledger : Ledger}
    (hrefines : Refines meter ledger) (subscriberId : UInt32) :
    subscriberId ∈ meter.subscribers ↔ ∃ serviceId, ledger (subscriberId, serviceId) ≠ [] := by
  rw [UBBMeter.mem_subscribers]
  constructor
  · intro ⟨key, counter, hstored, hsubscriber⟩
    refine ⟨counter.serviceId, (hrefines.used_iff _).mpr ⟨key, counter, hstored, ?_⟩⟩
    rw [UsageCounter.pair, hsubscriber]
  · intro ⟨serviceId, hused⟩
    obtain ⟨key, counter, hstored, hpair⟩ := (hrefines.used_iff _).mp hused
    exact ⟨key, counter, hstored, congrArg Prod.fst hpair⟩

/-- An update tracks its subscriber and keeps the others. -/
theorem subscribers_updateCounter {meter : UBBMeter} {ledger : Ledger}
    (hrefines : Refines meter ledger) (order : IterationOrder) (subscriberId : UInt32)
    (serviceId : UInt16) (bytes : UInt32) (uplink : Bool) (created now : Int64) :
    (meter.step order
        (.updateCounter subscriberId serviceId bytes uplink created now)).subscribers =
      insert subscriberId meter.subscribers := by
  have hnext := refines_step order meter ledger
    (.updateCounter subscriberId serviceId bytes uplink created now) hrefines
  ext other
  rw [hnext.mem_subscribers_iff, Finset.mem_insert, hrefines.mem_subscribers_iff]
  by_cases hother : other = subscriberId
  · subst hother
    refine iff_of_true ⟨serviceId, ?_⟩ (Or.inl rfl)
    simp [Ledger.step]
  · rw [or_iff_right hother]
    apply exists_congr
    intro otherService
    rw [Ledger.step_of_pair?_ne]
    intro hpair
    exact hother (congrArg Prod.fst (Option.some.inj hpair)).symm

/-- A reset tracks no new subscriber. -/
theorem subscribers_resetCounter {meter : UBBMeter} {ledger : Ledger}
    (hrefines : Refines meter ledger) (order : IterationOrder) (subscriberId : UInt32)
    (serviceId : UInt16) :
    (meter.step order (.resetCounter subscriberId serviceId)).subscribers ⊆
      meter.subscribers := by
  have hnext := refines_step order meter ledger (.resetCounter subscriberId serviceId) hrefines
  intro other hother
  obtain ⟨otherService, hused⟩ := (hnext.mem_subscribers_iff other).mp hother
  refine (hrefines.mem_subscribers_iff other).mpr ⟨otherService, ?_⟩
  by_cases hpair : (other, otherService) = (subscriberId, serviceId)
  · rw [hpair] at hused
    exact absurd (Function.update_self ..) hused
  · have hcall : Call.pair? (.resetCounter subscriberId serviceId) ≠ some (other, otherService) :=
      fun h ↦ hpair (Option.some.inj h).symm
    rwa [Ledger.step_of_pair?_ne _ _ _ hcall] at hused

/-- The other calls leave the ledger, and so the tracked subscribers, as they were. -/
theorem subscribers_step_of_same {meter : UBBMeter} {ledger : Ledger}
    (hrefines : Refines meter ledger) (order : IterationOrder) {call : Call}
    (hsame : ledger.step call = ledger) :
    (meter.step order call).subscribers = meter.subscribers := by
  have hnext := refines_step order meter ledger call hrefines
  ext subscriberId
  rw [hnext.mem_subscribers_iff, hrefines.mem_subscribers_iff, hsame]

namespace UBBMeter

/-! ## One call -/

@[simp]
theorem maxSubscribers_step (order : IterationOrder) (meter : UBBMeter) (call : Call) :
    (meter.step order call).maxSubscribers = meter.maxSubscribers := by
  cases call with
  | checkThreshold subscriberId serviceId thresholdBytes =>
    simp only [step, perform, checkThreshold]
    split
    case h_1 => rfl
    case h_2 => split <;> rfl
  | _ => rfl

/-- An update accounts its packet, whoever is tracked. -/
theorem read_getCounter_updateCounter (meter : UBBMeter) (subscriberId : UInt32)
    (serviceId : UInt16) (bytes : UInt32) (uplink : Bool) (created now : Int64)
    (prior : UsageCounter) (quantity : Quantity) :
    ((meter.updateCounter subscriberId serviceId bytes uplink created now).getCounter subscriberId
        serviceId prior).read quantity =
      (meter.getCounter subscriberId serviceId prior).read quantity +
        wrap64 (Usage.amount quantity ⟨now, bytes, uplink⟩) := by
  simp only [updateCounter, getCounter, AList.lookup_insert, read_account]
  congr 1
  cases meter.counters.lookup (CounterKey.pack subscriberId serviceId) with
  | none =>
    rw [Option.getD_none, read_freshCounter]
    cases quantity <;> rfl
  | some counter => rfl

/-- A meter is within its cap as soon as the number of its subscribers is. -/
theorem withinCap_iff {meter : UBBMeter} :
    meter.WithinCap ↔ meter.subscribers.card ≤ meter.maxSubscribers.toNat :=
  ⟨fun hcap ↦ hcap.bounded, fun hbounded ↦ ⟨hbounded, fun _ _ _ _ _ _ _ _ _ ↦
    read_getCounter_updateCounter ..⟩⟩

/-- **Step.** A call keeps the cap exactly when the meter admits it. -/
theorem withinCap_step_iff (order : IterationOrder) {meter : UBBMeter} {ledger : Ledger}
    (call : Call) (hrefines : Refines meter ledger) (hcap : meter.WithinCap) :
    (meter.step order call).WithinCap ↔ meter.Admits call := by
  have hbounded := hcap.bounded
  rw [withinCap_iff, maxSubscribers_step]
  cases call with
  | updateCounter subscriberId serviceId bytes uplink created now =>
    rw [subscribers_updateCounter hrefines]
    change _ ↔ subscriberId ∈ meter.subscribers ∨ _
    by_cases htracked : subscriberId ∈ meter.subscribers
    · rw [Finset.insert_eq_of_mem htracked]
      exact iff_of_true hbounded (Or.inl htracked)
    · rw [Finset.card_insert_of_notMem htracked, or_iff_right htracked]
      exact Nat.succ_le_iff
  | resetCounter subscriberId serviceId =>
    have hfewer := Finset.card_le_card
      (subscribers_resetCounter hrefines order subscriberId serviceId)
    exact iff_of_true (hfewer.trans hbounded) trivial
  | _ =>
    rw [subscribers_step_of_same hrefines order rfl]
    exact iff_of_true hbounded trivial

/-- **Exact cap condition.** Through a run the meter stays within its cap, and accounts every update
of the tracked subscribers, if and only if every update is for a tracked subscriber or made while
fewer subscribers than the maximum are tracked. -/
theorem withinCap_iff_admits (order : IterationOrder) (maxSubscribers : UInt32)
    (calls : List Call) :
    (∀ before, before <+: calls → (after order maxSubscribers before).WithinCap) ↔
      Execution.StepsMeet (step order) Admits (create maxSubscribers) calls := by
  apply Execution.forall_prefix_iff_stepsMeet_watched (step order) Ledger.step _ (fun _ ↦ [])
    Refines (fun meter _ ↦ meter.WithinCap) Admits (refines_create maxSubscribers)
    (refines_step order)
  · rw [withinCap_iff, subscribers_create, Finset.card_empty]
    exact Nat.zero_le _
  · intro meter ledger call hrefines hcap
    exact withinCap_step_iff order call hrefines hcap

/-- A meter for one subscriber tracks two after an update for each. -/
theorem cap_exceeded :
    let meter := after storedOrder 1
      [.updateCounter 1 100 1000 true 5 5, .updateCounter 2 100 1000 true 6 6]
    meter.maxSubscribers = 1 ∧ meter.subscribers = {1, 2} ∧ ¬meter.WithinCap := by
  refine ⟨rfl, by decide +kernel, fun hcap ↦ ?_⟩
  exact absurd hcap.bounded (by decide +kernel)

end UBBMeter

end VirtualServiceGateway.Metering
