import Mathlib.Data.List.Rotate
import VirtualServiceGateway.Dpdk.WorkerPipeline

/-!
# When the workers poll all their queues

The workers are all that ever call `rx_burst`, and the static index that they share starts at 0. It
goes round one worker's queues as long as no other worker advances it. So a worker that is alone polls
each of its queues once in a pass, and so do workers with one queue each. In every other case some
schedule makes a worker poll a queue twice, or one that it does not have.
-/

namespace VirtualServiceGateway.Dpdk

open Interleaving

/-- No worker has more than one queue. -/
def SingleQueues (configs : List WorkerConfig) : Prop :=
  ∀ config ∈ configs, config.rxQueues.length ≤ 1

/-- Only one worker has queues, and no more than the shared index can count. -/
def OneWorker (configs : List WorkerConfig) : Prop :=
  ∃ (place : ℕ) (config : WorkerConfig), configs[place]? = some config ∧
    config.rxQueues.length ≤ 2 ^ 16 ∧
    ∀ (other : ℕ) (rest : WorkerConfig), configs[other]? = some rest → other ≠ place →
      rest.rxQueues = []

/-! ## Rounds -/

theorem rxQueues_ne_nil {worker : Worker} (hqueues : worker.queues ≠ 0) :
    worker.config.rxQueues ≠ [] :=
  fun hempty ↦ hqueues (List.length_eq_zero_iff.mpr hempty)

theorem round_of_empty {worker : Worker} (hempty : worker.config.rxQueues = [])
    (queueIdx : UInt16) : worker.round queueIdx = (queueIdx, worker) := by
  simp [Worker.round, WorkerConfig.rxBurst, hempty]

theorem round_of_ne {worker : Worker} (hqueues : worker.config.rxQueues ≠ [])
    (queueIdx : UInt16) :
    worker.round queueIdx =
      (nextQueueIdx worker.queues queueIdx, worker.record queueIdx.toNat) := by
  simp [Worker.round, WorkerConfig.rxBurst, hqueues, Worker.queues]

/-- The last round ends the pass. -/
theorem record_of_last {worker : Worker} (hlast : worker.pass.length + 1 = worker.queues)
    (index : ℕ) :
    worker.record index =
      { worker with pass := [], passes := worker.passes ++ [worker.pass ++ [index]] } := by
  simp [Worker.record, hlast]

theorem record_of_ne {worker : Worker} (hlast : worker.pass.length + 1 ≠ worker.queues)
    (index : ℕ) : worker.record index = { worker with pass := worker.pass ++ [index] } := by
  simp [Worker.record, hlast]

@[simp]
theorem config_record (worker : Worker) (index : ℕ) :
    (worker.record index).config = worker.config := by
  unfold Worker.record
  dsimp only
  split <;> rfl

@[simp]
theorem config_round (worker : Worker) (queueIdx : UInt16) :
    (worker.round queueIdx).2.config = worker.config := by
  by_cases hempty : worker.config.rxQueues = []
  · rw [round_of_empty hempty]
  · rw [round_of_ne hempty, config_record]

theorem poll_concat (configs : List WorkerConfig) (schedule : List ℕ) (place : ℕ) :
    poll configs (schedule ++ [place]) =
      step (fun _ : Unit ↦ Worker.round) (poll configs schedule) (place, ()) := by
  unfold poll Interleaving.run
  rw [List.map_append, List.map_singleton, Execution.run_concat]

/-- Index by index, the shared index below the number of queues. -/
theorem toNat_nextQueueIdx {queues : ℕ} (hqueues : queues ≤ 2 ^ 16) {queueIdx : UInt16}
    (hindex : queueIdx.toNat < queues) :
    (nextQueueIdx queues queueIdx).toNat = (queueIdx.toNat + 1) % queues := by
  have hlt : (queueIdx.toNat + 1) % queues < queues := Nat.mod_lt _ (by omega)
  unfold nextQueueIdx
  rw [UInt16.toNat_ofNat', Nat.mod_eq_of_lt (by omega)]

/-! ## Workers that poll all their queues -/

/-- Going round from any index visits every index once. -/
theorem perm_range_of_rotation (queues start : ℕ) :
    ((List.range queues).map fun round ↦ (start + round) % queues).Perm (List.range queues) := by
  have hrotate : (List.range queues).map (fun round ↦ (start + round) % queues) =
      (List.range queues).rotate start := by
    apply List.ext_getElem
    · simp
    · intro index _ _
      simp [List.getElem_rotate, Nat.add_comm]
  rw [hrotate]
  exact List.rotate_perm _ _

/-- The worker's pass under way has gone round from some index up to the shared one, and all its
completed passes have gone round completely. -/
def Worker.GoesRound (worker : Worker) (queueIdx : UInt16) : Prop :=
  (∃ start, worker.pass =
      (List.range worker.pass.length).map (fun round ↦ (start + round) % worker.queues) ∧
    queueIdx.toNat = (start + worker.pass.length) % worker.queues) ∧
  worker.pass.length < worker.queues ∧
  ∀ pass ∈ worker.passes, pass.Perm (List.range worker.queues)

/-- A round goes on where the pass stands. -/
theorem Worker.GoesRound.round {worker : Worker} {queueIdx : UInt16}
    (hround : worker.GoesRound queueIdx) (hqueues : worker.queues ≤ 2 ^ 16) :
    (worker.round queueIdx).2.GoesRound (worker.round queueIdx).1 := by
  obtain ⟨⟨start, hpass, hindex⟩, hlength, hpasses⟩ := hround
  have hne := rxQueues_ne_nil (by omega : worker.queues ≠ 0)
  have hlt : queueIdx.toNat < worker.queues := by
    rw [hindex]
    exact Nat.mod_lt _ (by omega)
  have hnext : (nextQueueIdx worker.queues queueIdx).toNat =
      (start + (worker.pass.length + 1)) % worker.queues := by
    rw [toNat_nextQueueIdx hqueues hlt, hindex, Nat.mod_add_mod, Nat.add_assoc]
  have hextended : worker.pass ++ [queueIdx.toNat] =
      (List.range (worker.pass.length + 1)).map
        fun round ↦ (start + round) % worker.queues := by
    rw [List.range_succ, List.map_append, ← hpass, hindex]
    rfl
  rw [round_of_ne hne]
  by_cases hlast : worker.pass.length + 1 = worker.queues
  · -- the pass ends: it went round once
    rw [record_of_last hlast]
    refine ⟨⟨start + worker.queues, by simp, ?_⟩, Nat.zero_lt_of_lt hlength, ?_⟩
    · change (nextQueueIdx worker.queues queueIdx).toNat =
        (start + worker.queues + 0) % worker.queues
      rw [hnext, hlast, Nat.add_zero]
    · intro pass hmem
      rcases List.mem_append.mp hmem with hearlier | hnew
      · exact hpasses pass hearlier
      · rw [List.mem_singleton.mp hnew, hextended, hlast]
        exact perm_range_of_rotation _ _
  · rw [record_of_ne hlast]
    have hlength' : (worker.pass ++ [queueIdx.toNat]).length = worker.pass.length + 1 := by simp
    refine ⟨⟨start, ?_, ?_⟩, ?_, hpasses⟩
    · dsimp only
      rw [hlength']
      exact hextended
    · dsimp only
      rw [hlength']
      exact hnext
    · dsimp only
      rw [hlength']
      change _ < worker.queues
      omega

theorem Worker.GoesRound.pollsAll {worker : Worker} {queueIdx : UInt16}
    (hround : worker.GoesRound queueIdx) : worker.PollsAll := by
  obtain ⟨⟨start, hpass, -⟩, hlength, hpasses⟩ := hround
  refine ⟨fun pass hmem index hindex ↦ ?_, hpasses⟩
  rcases List.mem_cons.mp hmem with rfl | hearlier
  · rw [hpass] at hindex
    obtain ⟨round, -, rfl⟩ := List.mem_map.mp hindex
    exact Nat.mod_lt _ (by omega)
  · exact List.mem_range.mp ((hpasses pass hearlier).mem_iff.mp hindex)

/-- The worker has no queues, and so no passes. -/
def Worker.Idle (worker : Worker) : Prop :=
  worker.config.rxQueues = [] ∧ worker.pass = [] ∧ worker.passes = []

theorem Worker.Idle.pollsAll {worker : Worker} (hidle : worker.Idle) : worker.PollsAll := by
  obtain ⟨-, hpass, hpasses⟩ := hidle
  rw [Worker.PollsAll, hpass, hpasses]
  simp

theorem Worker.fresh_goesRound {config : WorkerConfig} (hqueues : config.rxQueues ≠ []) :
    (Worker.fresh config).GoesRound 0 :=
  ⟨⟨0, rfl, by simp [Worker.fresh]⟩, List.length_pos_of_ne_nil hqueues, fun _ hnone ↦ by
    cases hnone⟩

/-- A property of the shared index and each worker by its place, kept by every round, holds of all
workers after every schedule. -/
theorem poll_invariant (configs : List WorkerConfig) (property : UInt16 → ℕ → Worker → Prop)
    (hstart : ∀ (place : ℕ) (config : WorkerConfig), configs[place]? = some config →
      property 0 place (.fresh config))
    (hround : ∀ queueIdx place worker, property queueIdx place worker →
      property (worker.round queueIdx).1 place (worker.round queueIdx).2)
    (hothers : ∀ queueIdx place worker other rest, property queueIdx place worker →
      property queueIdx other rest → other ≠ place →
      property (worker.round queueIdx).1 other rest)
    (schedule : List ℕ) (place : ℕ) (worker : Worker)
    (hworker : (poll configs schedule).workers[place]? = some worker) :
    property (poll configs schedule).shared place worker := by
  induction schedule using List.reverseRecOn generalizing place worker with
  | nil =>
    change (configs.map Worker.fresh)[place]? = some worker at hworker
    rw [List.getElem?_map] at hworker
    obtain ⟨config, hconfig, rfl⟩ := Option.map_eq_some_iff.mp hworker
    exact hstart place config hconfig
  | append_singleton schedule next ih =>
    rw [poll_concat] at hworker ⊢
    cases hmoved : (poll configs schedule).workers[next]? with
    | none =>
      simp only [step, hmoved] at hworker ⊢
      exact ih place worker hworker
    | some old =>
      rw [step_of_worker hmoved] at hworker ⊢
      have hold := ih next old hmoved
      rcases getElem?_set_eq_some hworker with ⟨rfl, rfl⟩ | ⟨hkept, hne⟩
      · exact hround _ _ _ hold
      · exact hothers _ _ _ _ _ hold (ih place worker hkept) hne

/-- One worker alone goes round its queues. -/
theorem pollsAll_of_oneWorker {configs : List WorkerConfig} (hone : OneWorker configs)
    (schedule : List ℕ) : ∀ worker ∈ (poll configs schedule).workers, worker.PollsAll := by
  obtain ⟨active, config, hconfig, hqueues, hothers⟩ := hone
  have hinvariant := poll_invariant configs
    (fun queueIdx place worker ↦ worker.Idle ∨
      (place = active ∧ worker.queues ≤ 2 ^ 16 ∧ worker.GoesRound queueIdx)) ?_ ?_ ?_ schedule
  · intro worker hmem
    obtain ⟨place, hplace⟩ := List.getElem?_of_mem hmem
    rcases hinvariant place worker hplace with hidle | ⟨-, -, hround⟩
    · exact hidle.pollsAll
    · exact hround.pollsAll
  · intro place found hfound
    by_cases hempty : found.rxQueues = []
    · exact Or.inl ⟨hempty, rfl, rfl⟩
    · have hplace : place = active := by
        by_contra hne
        exact hempty (hothers place found hfound hne)
      subst hplace
      obtain rfl := Option.some.inj (hconfig.symm.trans hfound)
      exact Or.inr ⟨rfl, hqueues, Worker.fresh_goesRound hempty⟩
  · rintro queueIdx place worker (hidle | ⟨rfl, hsize, hround⟩)
    · rw [round_of_empty hidle.1]
      exact Or.inl hidle
    · refine Or.inr ⟨rfl, ?_, hround.round hsize⟩
      rwa [Worker.queues, config_round]
  · rintro queueIdx place worker other rest hworker hrest hne
    rcases hworker with hidle | ⟨rfl, -, -⟩
    · rw [round_of_empty hidle.1]
      exact hrest
    · rcases hrest with hidle | ⟨rfl, -, -⟩
      · exact Or.inl hidle
      · exact absurd rfl hne

/-- Workers with one queue each leave the shared index at zero. -/
theorem pollsAll_of_singleQueues {configs : List WorkerConfig} (hsingle : SingleQueues configs)
    (schedule : List ℕ) : ∀ worker ∈ (poll configs schedule).workers, worker.PollsAll := by
  have hzero : ∀ queueIdx, nextQueueIdx 1 queueIdx = 0 := by
    intro queueIdx
    rw [nextQueueIdx, Nat.mod_one]
    rfl
  have hinvariant := poll_invariant configs
    (fun queueIdx _ worker ↦ queueIdx = 0 ∧
      (worker.Idle ∨ (worker.queues = 1 ∧ worker.GoesRound 0))) ?_ ?_ ?_ schedule
  · intro worker hmem
    obtain ⟨place, hplace⟩ := List.getElem?_of_mem hmem
    rcases hinvariant place worker hplace with ⟨-, hidle | ⟨-, hround⟩⟩
    · exact hidle.pollsAll
    · exact hround.pollsAll
  · intro place config hconfig
    refine ⟨rfl, ?_⟩
    by_cases hempty : config.rxQueues = []
    · exact Or.inl ⟨hempty, rfl, rfl⟩
    · have hlength := hsingle config (List.mem_of_getElem? hconfig)
      have hpos := List.length_pos_of_ne_nil hempty
      refine Or.inr ⟨?_, Worker.fresh_goesRound hempty⟩
      change config.rxQueues.length = 1
      omega
  · rintro queueIdx place worker ⟨rfl, hidle | ⟨hqueues, hround⟩⟩
    · rw [round_of_empty hidle.1]
      exact ⟨rfl, Or.inl hidle⟩
    · have hnext := hround.round (by omega)
      have hne := rxQueues_ne_nil (by omega : worker.queues ≠ 0)
      have hshared : (worker.round 0).1 = 0 := by
        rw [round_of_ne hne, hqueues]
        exact hzero 0
      rw [hshared] at hnext ⊢
      refine ⟨rfl, Or.inr ⟨?_, hnext⟩⟩
      rwa [Worker.queues, config_round]
  · rintro queueIdx place worker other rest ⟨rfl, hidle | ⟨hqueues, -⟩⟩ ⟨-, hrest⟩ -
    · rw [round_of_empty hidle.1]
      exact ⟨rfl, hrest⟩
    · have hne := rxQueues_ne_nil (by omega : worker.queues ≠ 0)
      rw [round_of_ne hne, hqueues]
      exact ⟨hzero 0, hrest⟩

/-! ## Schedules that miss a queue -/

/-- The indices that one worker selects in a number of rounds on its own. -/
def selectedIndices (queues : ℕ) : ℕ → UInt16 → List ℕ
  | 0, _ => []
  | rounds + 1, queueIdx =>
      queueIdx.toNat :: selectedIndices queues rounds (nextQueueIdx queues queueIdx)

theorem length_selectedIndices (queues rounds : ℕ) (queueIdx : UInt16) :
    (selectedIndices queues rounds queueIdx).length = rounds := by
  induction rounds generalizing queueIdx with
  | zero => rfl
  | succ rounds ih => rw [selectedIndices, List.length_cons, ih]

theorem selectedIndices_add (queues first second : ℕ) (queueIdx : UInt16) :
    selectedIndices queues (first + second) queueIdx =
      selectedIndices queues first queueIdx ++
        selectedIndices queues second ((nextQueueIdx queues)^[first] queueIdx) := by
  induction first generalizing queueIdx with
  | zero => rw [Nat.zero_add]; rfl
  | succ first ih =>
    rw [Nat.succ_add, selectedIndices, ih, selectedIndices, Function.iterate_succ_apply,
      List.cons_append]

/-- The shared index counts up until it has reached the last queue, or the last 16-bit value. -/
theorem toNat_iterate_nextQueueIdx {queues rounds : ℕ} {queueIdx : UInt16}
    (hrounds : queueIdx.toNat + rounds < min queues (2 ^ 16)) :
    ((nextQueueIdx queues)^[rounds] queueIdx).toNat = queueIdx.toNat + rounds := by
  induction rounds with
  | zero => rfl
  | succ rounds ih =>
    rw [Function.iterate_succ_apply', nextQueueIdx, ih (by omega), UInt16.toNat_ofNat',
      Nat.mod_eq_of_lt (a := _ + 1) (by omega), Nat.mod_eq_of_lt (by omega), Nat.add_assoc]

/-- One round later it is back at zero. -/
theorem iterate_nextQueueIdx_eq_zero {queues rounds : ℕ} {queueIdx : UInt16}
    (hrounds : queueIdx.toNat + rounds + 1 = min queues (2 ^ 16)) :
    (nextQueueIdx queues)^[rounds + 1] queueIdx = 0 := by
  rw [Function.iterate_succ_apply', nextQueueIdx, toNat_iterate_nextQueueIdx (by omega), hrounds]
  apply UInt16.toNat.inj
  rw [UInt16.toNat_ofNat']
  rcases Nat.le_total queues (2 ^ 16) with hle | hle
  · rw [min_eq_left hle, Nat.mod_self]
    rfl
  · rw [min_eq_right hle]
    rcases Nat.eq_or_lt_of_le hle with rfl | hlt
    · rw [Nat.mod_self]
      rfl
    · rw [Nat.mod_eq_of_lt hlt, Nat.mod_self]
      rfl

/-- A worker on its own selects the next indices, and no other worker changes. -/
theorem poll_append_replicate {configs : List WorkerConfig} {schedule : List ℕ} {place : ℕ}
    {worker : Worker} (rounds : ℕ)
    (hworker : (poll configs schedule).workers[place]? = some worker)
    (hqueues : worker.config.rxQueues ≠ []) :
    poll configs (schedule ++ List.replicate rounds place) =
      ⟨(nextQueueIdx worker.queues)^[rounds] (poll configs schedule).shared,
        (poll configs schedule).workers.set place
          ((selectedIndices worker.queues rounds (poll configs schedule).shared).foldl
            Worker.record worker)⟩ := by
  induction rounds generalizing schedule worker with
  | zero =>
    obtain ⟨hplace, rfl⟩ := List.getElem?_eq_some_iff.mp hworker
    rw [List.replicate_zero, List.append_nil]
    change _ = Config.mk (poll configs schedule).shared
      ((poll configs schedule).workers.set place (poll configs schedule).workers[place])
    rw [List.set_getElem_self]
  | succ rounds ih =>
    have hstep : poll configs (schedule ++ [place]) =
        ⟨nextQueueIdx worker.queues (poll configs schedule).shared,
          (poll configs schedule).workers.set place
            (worker.record (poll configs schedule).shared.toNat)⟩ := by
      rw [poll_concat, step_of_worker hworker, round_of_ne hqueues]
    have hset : (poll configs (schedule ++ [place])).workers[place]? =
        some (worker.record (poll configs schedule).shared.toNat) := by
      rw [hstep]
      exact List.getElem?_set_self (List.getElem?_eq_some_iff.mp hworker).1
    have hrest := ih hset (by rwa [config_record])
    rw [List.append_assoc, List.singleton_append] at hrest
    rw [List.replicate_succ, hrest, hstep, List.set_set]
    simp only [Worker.queues, config_record]
    rfl

/-- The rounds that fill a pass end it. -/
theorem foldl_record_of_filled {worker : Worker} {indices : List ℕ} (hne : indices ≠ [])
    (hlength : worker.pass.length + indices.length = worker.queues) :
    indices.foldl Worker.record worker =
      { worker with pass := [], passes := worker.passes ++ [worker.pass ++ indices] } := by
  induction indices generalizing worker with
  | nil => exact absurd rfl hne
  | cons index indices ih =>
    rw [List.length_cons] at hlength
    rw [List.foldl_cons]
    by_cases hlast : indices = []
    · subst hlast
      exact record_of_last (by simpa using hlength) index
    · have hpos := List.length_pos_of_ne_nil hlast
      rw [record_of_ne (by omega), ih hlast]
      · simp
      · change (worker.pass ++ [index]).length + _ = worker.queues
        rw [List.length_append, List.length_singleton]
        omega

/-- A pass that selects the index zero twice misses another one. -/
theorem not_perm_range_of_zero_twice {queues : ℕ} {between later : List ℕ} :
    ¬(0 :: (between ++ 0 :: later)).Perm (List.range queues) := by
  intro hperm
  have hnodup := hperm.nodup_iff.mpr List.nodup_range
  simp at hnodup

/-- Where the shared index comes back to zero, a worker on its own selects zero again. -/
theorem selectedIndices_of_back {queues rounds : ℕ}
    (hback : (nextQueueIdx queues)^[rounds + 1] 0 = 0) (more : ℕ) :
    selectedIndices queues (rounds + 1 + (more + 1)) 0 =
      0 :: (selectedIndices queues rounds (nextQueueIdx queues 0) ++
        0 :: selectedIndices queues more (nextQueueIdx queues 0)) := by
  rw [selectedIndices_add, hback]
  rfl

/-- From the index a worker left, the rounds of another worker lead back to zero. -/
theorem exists_iterate_eq_zero {queues : ℕ} (hqueues : queues ≠ 0) :
    ∃ rounds, (nextQueueIdx queues)^[rounds] 1 = 0 := by
  by_cases hone : queues = 1
  · subst hone
    exact ⟨1, by rw [Function.iterate_one, nextQueueIdx, Nat.mod_one]; rfl⟩
  · refine ⟨min queues (2 ^ 16) - 2 + 1, iterate_nextQueueIdx_eq_zero ?_⟩
    rw [UInt16.toNat_one]
    omega

theorem poll_nil_getElem? {configs : List WorkerConfig} {place : ℕ} {config : WorkerConfig}
    (hconfig : configs[place]? = some config) :
    (poll configs []).workers[place]? = some (Worker.fresh config) := by
  change (configs.map Worker.fresh)[place]? = _
  rw [List.getElem?_map, hconfig, Option.map_some]

/-- A worker that ends its pass on its own and has selected zero twice has missed a queue. -/
theorem exists_missed {configs : List WorkerConfig} {schedule : List ℕ} {place rounds : ℕ}
    {worker : Worker} {between later : List ℕ}
    (hworker : (poll configs schedule).workers[place]? = some worker)
    (hrounds : worker.pass.length + (rounds + 1) = worker.queues)
    (hpass : worker.pass ++
        selectedIndices worker.queues (rounds + 1) (poll configs schedule).shared =
      0 :: (between ++ 0 :: later)) :
    ∃ schedule, ∃ worker ∈ (poll configs schedule).workers, ¬worker.PollsAll := by
  have hqueues := rxQueues_ne_nil (by omega : worker.queues ≠ 0)
  have hended : (selectedIndices worker.queues (rounds + 1) (poll configs schedule).shared).foldl
      Worker.record worker = _ :=
    foldl_record_of_filled (List.cons_ne_nil _ _) (by rwa [length_selectedIndices])
  have hmem : (selectedIndices worker.queues (rounds + 1) (poll configs schedule).shared).foldl
      Worker.record worker ∈
        (poll configs (schedule ++ List.replicate (rounds + 1) place)).workers := by
    rw [poll_append_replicate _ hworker hqueues]
    exact List.mem_set (List.getElem?_eq_some_iff.mp hworker).1 _
  refine ⟨schedule ++ List.replicate (rounds + 1) place, _, hmem, fun hpolls ↦ ?_⟩
  rw [hended] at hpolls
  have hperm := hpolls.2 _ (List.mem_append_right _ (List.mem_singleton_self _))
  rw [hpass] at hperm
  exact not_perm_range_of_zero_twice hperm

/-- A worker with more queues than 16 bits count polls the first queue again before the last. -/
theorem exists_missed_of_large {configs : List WorkerConfig} {place : ℕ} {config : WorkerConfig}
    (hconfig : configs[place]? = some config) (hlarge : 2 ^ 16 < config.rxQueues.length) :
    ∃ schedule, ∃ worker ∈ (poll configs schedule).workers, ¬worker.PollsAll := by
  obtain ⟨last, hlast⟩ : ∃ last, last + 1 = 2 ^ 16 := ⟨2 ^ 16 - 1, rfl⟩
  obtain ⟨more, hmore⟩ : ∃ more, last + 1 + (more + 1) = config.rxQueues.length :=
    ⟨config.rxQueues.length - 2 ^ 16 - 1, by omega⟩
  have hback : (nextQueueIdx config.rxQueues.length)^[last + 1] 0 = 0 := by
    apply iterate_nextQueueIdx_eq_zero
    rw [UInt16.toNat_zero]
    omega
  have hrounds : 0 + (last + 1 + more + 1) = config.rxQueues.length := by omega
  exact exists_missed (poll_nil_getElem? hconfig) hrounds (selectedIndices_of_back hback more)

/-- A worker with several queues polls the first one again after another worker has taken the shared
index round. -/
theorem exists_missed_of_others {configs : List WorkerConfig} {place other : ℕ}
    {config rest : WorkerConfig} (hconfig : configs[place]? = some config)
    (hseveral : 2 ≤ config.rxQueues.length) (hrest : configs[other]? = some rest)
    (hother : other ≠ place) (hqueues : rest.rxQueues ≠ []) :
    ∃ schedule, ∃ worker ∈ (poll configs schedule).workers, ¬worker.PollsAll := by
  obtain ⟨later, hlater⟩ : ∃ later, later + 2 = config.rxQueues.length :=
    ⟨config.rxQueues.length - 2, by omega⟩
  obtain ⟨rounds, hrounds⟩ :=
    exists_iterate_eq_zero (List.length_pos_of_ne_nil hqueues).ne'
  have hne : config.rxQueues ≠ [] := List.ne_nil_of_length_pos (by omega)
  -- the worker takes the first index and leaves the second one
  have hfirst : nextQueueIdx config.rxQueues.length 0 = 1 := by
    rw [nextQueueIdx, UInt16.toNat_zero, Nat.mod_eq_of_lt (by omega)]
    rfl
  have hstarted : (Worker.fresh config).record 0 = ⟨config, [0], []⟩ := by
    apply record_of_ne
    change 0 + 1 ≠ config.rxQueues.length
    omega
  have hone : poll configs [place] =
      ⟨1, (configs.map Worker.fresh).set place ⟨config, [0], []⟩⟩ := by
    rw [← List.nil_append [place], poll_concat, step_of_worker (poll_nil_getElem? hconfig),
      round_of_ne hne]
    exact congrArg₂ Config.mk hfirst (congrArg _ hstarted)
  -- the other worker brings the index back
  have hrest' : (poll configs [place]).workers[other]? = some (Worker.fresh rest) := by
    rw [hone, List.getElem?_set_ne (Ne.symm hother)]
    exact poll_nil_getElem? hrest
  have hback := poll_append_replicate rounds hrest' hqueues
  have hshared : (poll configs ([place] ++ List.replicate rounds other)).shared = 0 := by
    rw [hback, hone]
    exact hrounds
  have hworker : (poll configs ([place] ++ List.replicate rounds other)).workers[place]? =
      some ⟨config, [0], []⟩ := by
    rw [hback, List.getElem?_set_ne hother, hone]
    exact List.getElem?_set_self (List.getElem?_eq_some_iff.mp (poll_nil_getElem? hconfig)).1
  have hended : 1 + (later + 1) = config.rxQueues.length := by omega
  apply exists_missed hworker hended
  rw [hshared]
  exact (rfl : _ = 0 :: ([] ++ 0 :: _))

/-- **Polling all queues.** Whatever the schedule, the workers select their own queues and all of
them once in a pass, exactly when no worker has several queues or a single worker has queues, which
16 bits can count. -/
theorem pollsAll_iff (configs : List WorkerConfig) :
    (∀ schedule, ∀ worker ∈ (poll configs schedule).workers, worker.PollsAll) ↔
      SingleQueues configs ∨ OneWorker configs := by
  constructor
  · intro hpolls
    have hnone : ¬∃ schedule, ∃ worker ∈ (poll configs schedule).workers, ¬worker.PollsAll := by
      rintro ⟨schedule, worker, hworker, hmissed⟩
      exact hmissed (hpolls schedule worker hworker)
    by_cases hsingle : SingleQueues configs
    · exact Or.inl hsingle
    · rw [SingleQueues] at hsingle
      push Not at hsingle
      obtain ⟨config, hmem, hseveral⟩ := hsingle
      obtain ⟨place, hconfig⟩ := List.getElem?_of_mem hmem
      refine Or.inr ⟨place, config, hconfig, ?_, fun other rest hrest hother ↦ ?_⟩
      · by_contra hlarge
        exact hnone (exists_missed_of_large hconfig (by omega))
      · by_contra hqueues
        exact hnone (exists_missed_of_others hconfig hseveral hrest hother hqueues)
  · rintro (hsingle | hone) schedule
    · exact pollsAll_of_singleQueues hsingle schedule
    · exact pollsAll_of_oneWorker hone schedule

/-- Two workers, one with a single queue and one with two. Once the second worker has received, the
first one selects a second queue, which it does not have; the second worker then ends its pass with
its first queue selected twice. -/
theorem shared_index_misses_queues :
    let configs : List WorkerConfig := [⟨0, [0]⟩, ⟨1, [1, 2]⟩]
    (∃ worker ∈ (poll configs [1, 0]).workers, worker.passes = [[1]] ∧ ¬worker.PollsAll) ∧
      ∃ worker ∈ (poll configs [1, 0, 1]).workers, worker.passes = [[0, 0]] ∧
        ¬worker.PollsAll := by
  refine ⟨⟨⟨⟨0, [0]⟩, [], [[1]]⟩, List.mem_cons_self, rfl, fun hpolls ↦ ?_⟩,
    ⟨⟨1, [1, 2]⟩, [], [[0, 0]]⟩, List.mem_cons_of_mem _ List.mem_cons_self, rfl, fun hpolls ↦ ?_⟩
  · have hindex := hpolls.1 [1] (by decide) 1 (by decide)
    exact absurd hindex (by decide)
  · have hperm := hpolls.2 [0, 0] (by decide)
    exact absurd hperm (by decide)

end VirtualServiceGateway.Dpdk
