import Mathlib.Algebra.BigOperators.Group.List.Basic
import VirtualServiceGateway.Foundation.Execution

/-!
# Interleaved workers on shared state

A configuration is one shared state and a list of workers with their own local states. A schedule
names, step by step, the worker that moves and the move it makes. Two rules carry facts through
every schedule: a property of each worker against the shared state that no other worker's step
disturbs, and a total of shared and local amounts that no step changes.
-/

namespace VirtualServiceGateway.Interleaving

variable {Shared Local Move : Type*}

/-- A shared state with the local states of its workers. -/
structure Config (Shared Local : Type*) where
  shared : Shared
  workers : List Local

/-- One scheduled step: the chosen worker, if there is one, makes the chosen move. -/
def step (move : Move → Shared → Local → Shared × Local) (config : Config Shared Local)
    (pick : ℕ × Move) : Config Shared Local :=
  match config.workers[pick.1]? with
  | none => config
  | some worker =>
      let (shared, worker) := move pick.2 config.shared worker
      ⟨shared, config.workers.set pick.1 worker⟩

/-- The configuration after a schedule. -/
def run (move : Move → Shared → Local → Shared × Local) (start : Config Shared Local)
    (schedule : List (ℕ × Move)) : Config Shared Local :=
  Execution.run (step move) start schedule

theorem step_of_worker {move : Move → Shared → Local → Shared × Local}
    {config : Config Shared Local} {pick : ℕ × Move} {worker : Local}
    (hworker : config.workers[pick.1]? = some worker) :
    step move config pick = ⟨(move pick.2 config.shared worker).1,
      config.workers.set pick.1 (move pick.2 config.shared worker).2⟩ := by
  simp only [step, hworker]

/-- What holds of the present configuration and after every move of a present worker holds after
the step. -/
theorem step_induction {move : Move → Shared → Local → Shared × Local}
    (config : Config Shared Local) (pick : ℕ × Move)
    (property : Config Shared Local → Prop) (hidle : property config)
    (hmove : ∀ worker shared moved, config.workers[pick.1]? = some worker →
      move pick.2 config.shared worker = (shared, moved) →
      property ⟨shared, config.workers.set pick.1 moved⟩) :
    property (step move config pick) := by
  cases hworker : config.workers[pick.1]? with
  | none => simpa only [step, hworker] using hidle
  | some worker =>
    rw [step_of_worker hworker]
    exact hmove worker _ _ hworker rfl

/-- After one entry changes, every entry is the new one or an old one from another place. -/
theorem getElem?_set_eq_some {Entry : Type*} {entries : List Entry} {place index : ℕ}
    {entry found : Entry} (hfound : (entries.set place entry)[index]? = some found) :
    found = entry ∧ index = place ∨ entries[index]? = some found ∧ index ≠ place := by
  by_cases hindex : index = place
  · subst hindex
    rw [List.getElem?_set_self'] at hfound
    obtain ⟨_, _, rfl⟩ := Option.map_eq_some_iff.mp hfound
    exact Or.inl ⟨rfl, rfl⟩
  · rw [List.getElem?_set_ne (Ne.symm hindex)] at hfound
    exact Or.inr ⟨hfound, hindex⟩

/-- **Non-interference.** A property of every worker survives a move when the moved worker has it
and the move disturbs no worker's. -/
theorem forall_workers_set {workers : List Local} {place : ℕ} {moved : Local}
    (property : Local → Prop) (hmoved : property moved)
    (hworkers : ∀ worker ∈ workers, property worker) :
    ∀ worker ∈ workers.set place moved, property worker := by
  intro worker hmem
  rcases List.mem_or_eq_of_mem_set hmem with hold | rfl
  · exact hworkers worker hold
  · exact hmoved

/-! ## Progress -/

/-- A worker that moves does not leave the list, and the others are where they were. -/
theorem getElem?_step {move : Move → Shared → Local → Shared × Local}
    {config : Config Shared Local} {place : ℕ} {worker : Local}
    (hworker : config.workers[place]? = some worker) (pick : ℕ × Move) :
    (step move config pick).workers[place]? =
      some (if pick.1 = place then (move pick.2 config.shared worker).2 else worker) := by
  by_cases hplace : pick.1 = place
  · rw [← hplace] at hworker ⊢
    rw [step_of_worker hworker, if_pos rfl, List.getElem?_set_self']
    exact congrArg (Option.map _) hworker
  · rw [if_neg hplace]
    cases hother : config.workers[pick.1]? with
    | none => simpa only [step, hother] using hworker
    | some other => rw [step_of_worker hother, List.getElem?_set_ne hplace, hworker]

/-- **Progress.** While the shared state is ready, and no move ends that, every move of a worker
takes one from its measure. So a worker that moves often enough has none left. -/
theorem run_progress {move : Move → Shared → Local → Shared × Local} (ready : Shared → Prop)
    (measure : Local → ℕ)
    (hready : ∀ choice shared worker, ready shared → ready (move choice shared worker).1)
    (hmove : ∀ choice shared worker, ready shared →
      measure (move choice shared worker).2 ≤ measure worker - 1)
    {start : Config Shared Local} (hstart : ready start.shared) {place : ℕ} {worker : Local}
    (hworker : start.workers[place]? = some worker) (schedule : List (ℕ × Move)) :
    ready (run move start schedule).shared ∧
      ∃ moved, (run move start schedule).workers[place]? = some moved ∧
        measure moved ≤ measure worker - schedule.countP fun pick ↦ pick.1 = place := by
  induction schedule using List.reverseRecOn with
  | nil => exact ⟨hstart, worker, hworker, le_rfl⟩
  | append_singleton schedule pick ih =>
    obtain ⟨hready', moved, hmoved, hmeasure⟩ := ih
    have hlast : run move start (schedule ++ [pick]) = step move (run move start schedule) pick :=
      Execution.run_concat ..
    rw [hlast]
    refine ⟨?_, _, getElem?_step hmoved pick, ?_⟩
    · exact step_induction _ pick (fun config ↦ ready config.shared) hready'
        fun other shared _ _ heq ↦ by
          have hkept := hready pick.2 _ other hready'
          rwa [heq] at hkept
    · rw [List.countP_append, List.countP_singleton]
      by_cases hplace : pick.1 = place
      · have hstep := hmove pick.2 _ moved hready'
        rw [if_pos hplace, if_pos (decide_eq_true hplace)]
        omega
      · rwa [if_neg hplace, if_neg (by simpa using hplace), Nat.add_zero]

/-- No schedule adds or removes a worker. -/
theorem length_workers_run (move : Move → Shared → Local → Shared × Local)
    (start : Config Shared Local) (schedule : List (ℕ × Move)) :
    (run move start schedule).workers.length = start.workers.length := by
  apply Execution.run_invariant fun config : Config Shared Local ↦
    config.workers.length = start.workers.length
  · rfl
  · intro config pick hlength
    exact step_induction config pick (fun config ↦ config.workers.length = start.workers.length)
      hlength fun _ _ _ _ _ ↦ List.length_set.trans hlength

/-- **Completion.** When every worker has made as many moves as it had in its measure, no worker has
any left. -/
theorem run_completes {move : Move → Shared → Local → Shared × Local} (measure : Local → ℕ)
    (hmove : ∀ choice shared worker, measure (move choice shared worker).2 ≤ measure worker - 1)
    {start : Config Shared Local} {schedule : List (ℕ × Move)}
    (hmoves : ∀ (place : ℕ) worker, start.workers[place]? = some worker →
      measure worker ≤ schedule.countP fun pick ↦ pick.1 = place) :
    ∀ worker ∈ (run move start schedule).workers, measure worker = 0 := by
  intro worker hworker
  obtain ⟨place, hplace⟩ := List.getElem?_of_mem hworker
  have hlt := (List.getElem?_eq_some_iff.mp hplace).1
  rw [length_workers_run] at hlt
  have hfirst := List.getElem?_eq_getElem hlt
  obtain ⟨-, moved, hmoved, hmeasure⟩ := run_progress (fun _ ↦ True) measure
    (fun _ _ _ _ ↦ trivial) (fun choice shared worker _ ↦ hmove choice shared worker) trivial hfirst
    schedule
  obtain rfl := Option.some.inj (hplace.symm.trans hmoved)
  have henough := hmoves place _ hfirst
  omega

/-! ## Conserved totals -/

variable {Amount : Type*} [AddCommMonoid Amount]

/-- Replacing one entry exchanges its amount in the total. -/
theorem sum_map_set {Entry : Type*} (amount : Entry → Amount) {entries : List Entry} {place : ℕ}
    {old : Entry} (hold : entries[place]? = some old) (new : Entry) :
    ((entries.set place new).map amount).sum + amount old =
      (entries.map amount).sum + amount new := by
  induction entries generalizing place with
  | nil => simp at hold
  | cons entry entries ih =>
    cases place with
    | zero =>
      simp only [List.getElem?_cons_zero, Option.some.injEq] at hold
      subst hold
      simp only [List.set_cons_zero, List.map_cons, List.sum_cons]
      ac_rfl
    | succ place =>
      rw [List.getElem?_cons_succ] at hold
      simp only [List.set_cons_succ, List.map_cons, List.sum_cons, add_assoc, ih hold]

/-- A total with at most one nonzero amount is that amount. -/
theorem sum_map_eq_single {Entry : Type*} (amount : Entry → Amount) {entries : List Entry}
    {place : ℕ} {entry : Entry} (hentry : entries[place]? = some entry)
    (hothers : ∀ index other, entries[index]? = some other → index ≠ place → amount other = 0) :
    (entries.map amount).sum = amount entry := by
  induction entries generalizing place with
  | nil => simp at hentry
  | cons head entries ih =>
    cases place with
    | zero =>
      simp only [List.getElem?_cons_zero, Option.some.injEq] at hentry
      subst hentry
      have hrest : (entries.map amount).sum = 0 := by
        apply List.sum_eq_zero
        intro value hvalue
        obtain ⟨other, hother, rfl⟩ := List.mem_map.mp hvalue
        obtain ⟨index, hindex⟩ := List.getElem?_of_mem hother
        exact hothers (index + 1) other (by simpa using hindex) (by simp)
      rw [List.map_cons, List.sum_cons, hrest, add_zero]
    | succ place =>
      have hhead : amount head = 0 := hothers 0 head rfl (by simp)
      rw [List.map_cons, List.sum_cons, hhead, zero_add]
      apply ih (by simpa using hentry)
      intro index other hother hindex
      exact hothers (index + 1) other (by simpa using hother) (by simpa using hindex)

/-- Shared and local amounts together. -/
def total (sharedAmount : Shared → Amount) (localAmount : Local → Amount)
    (config : Config Shared Local) : Amount :=
  sharedAmount config.shared + (config.workers.map localAmount).sum

/-- An additive map of a total is the total of the mapped amounts. -/
theorem map_total {Other : Type*} [AddCommMonoid Other] (hom : Amount →+ Other)
    (sharedAmount : Shared → Amount) (localAmount : Local → Amount)
    (config : Config Shared Local) :
    hom (total sharedAmount localAmount config) =
      total (fun shared ↦ hom (sharedAmount shared)) (fun worker ↦ hom (localAmount worker))
        config := by
  rw [total, total, map_add, map_list_sum, List.map_map]
  rfl

/-- A move that trades amount with the outside changes the total by what was traded. -/
theorem total_set_add [IsLeftCancelAdd Amount] (sharedAmount : Shared → Amount)
    (localAmount : Local → Amount) {config : Config Shared Local} {place : ℕ} {worker : Local}
    (hworker : config.workers[place]? = some worker) (shared : Shared) (moved : Local)
    (paid gained : Amount)
    (hmove : sharedAmount shared + localAmount moved + paid =
      sharedAmount config.shared + localAmount worker + gained) :
    total sharedAmount localAmount ⟨shared, config.workers.set place moved⟩ + paid =
      total sharedAmount localAmount config + gained := by
  have hset := sum_map_set localAmount hworker moved
  unfold total
  apply add_left_cancel (a := localAmount worker + localAmount moved)
  calc
    localAmount worker + localAmount moved +
        (sharedAmount shared + ((config.workers.set place moved).map localAmount).sum + paid) =
        (sharedAmount shared + localAmount moved + paid) +
          (((config.workers.set place moved).map localAmount).sum + localAmount worker) := by
      ac_rfl
    _ = (sharedAmount config.shared + localAmount worker + gained) +
          ((config.workers.map localAmount).sum + localAmount moved) := by
      rw [hmove, hset]
    _ = _ := by ac_rfl

/-- **Conservation.** A move that shifts amount between the shared state and the moving worker
leaves the total as it was. -/
theorem total_set [IsLeftCancelAdd Amount] (sharedAmount : Shared → Amount)
    (localAmount : Local → Amount) {config : Config Shared Local} {place : ℕ} {worker : Local}
    (hworker : config.workers[place]? = some worker) (shared : Shared) (moved : Local)
    (hmove : sharedAmount shared + localAmount moved =
      sharedAmount config.shared + localAmount worker) :
    total sharedAmount localAmount ⟨shared, config.workers.set place moved⟩ =
      total sharedAmount localAmount config := by
  have hadd := total_set_add sharedAmount localAmount hworker shared moved 0 0 (by
    rw [add_zero, add_zero, hmove])
  rwa [add_zero, add_zero] at hadd

section Intake

variable [IsLeftCancelAdd Amount] {move : Move → Shared → Local → Shared × Local}
  (sharedAmount : Shared → Amount) (localAmount : Local → Amount) (intake : Shared → Amount)

/-- When every move changes the amounts by what the shared state takes in from outside, a step
changes the total by that. -/
theorem total_step
    (hmove : ∀ choice shared worker,
      sharedAmount (move choice shared worker).1 + localAmount (move choice shared worker).2 +
          intake shared =
        sharedAmount shared + localAmount worker + intake (move choice shared worker).1)
    (config : Config Shared Local) (pick : ℕ × Move) :
    total sharedAmount localAmount (step move config pick) + intake config.shared =
      total sharedAmount localAmount config + intake (step move config pick).shared := by
  apply step_induction config pick (fun config' ↦
    total sharedAmount localAmount config' + intake config.shared =
      total sharedAmount localAmount config + intake config'.shared) rfl
  intro worker shared moved hworker heq
  have hworkerMove := hmove pick.2 config.shared worker
  rw [heq] at hworkerMove
  exact total_set_add sharedAmount localAmount hworker shared moved _ _ hworkerMove

/-- **Conservation with an intake.** A total that starts as the intake is the intake after every
schedule. -/
theorem total_run
    (hmove : ∀ choice shared worker,
      sharedAmount (move choice shared worker).1 + localAmount (move choice shared worker).2 +
          intake shared =
        sharedAmount shared + localAmount worker + intake (move choice shared worker).1)
    {start : Config Shared Local}
    (hstart : total sharedAmount localAmount start = intake start.shared)
    (schedule : List (ℕ × Move)) :
    total sharedAmount localAmount (run move start schedule) =
      intake (run move start schedule).shared := by
  apply Execution.run_invariant
    (fun config ↦ total sharedAmount localAmount config = intake config.shared) hstart
  intro config pick htotal
  have hstep := total_step sharedAmount localAmount intake hmove config pick
  rw [htotal, add_comm] at hstep
  exact add_left_cancel hstep

end Intake

end VirtualServiceGateway.Interleaving
