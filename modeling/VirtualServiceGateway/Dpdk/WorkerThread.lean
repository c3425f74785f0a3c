import VirtualServiceGateway.Dpdk.PipelineAccounting

/-!
# The thread of a worker

One thread starts, stops and in the end destroys a worker, whose loop runs in a thread of its own.
Their steps interleave. The loop looks at the flag once in a pass over the queues, so a stop lets the
pass under way end, and the worker is never destroyed or given a second thread while its loop runs.
The rounds of all its threads together are one run of the loop.
-/

namespace VirtualServiceGateway.Dpdk

variable {Mbuf Rest : Type*}

/-! ## The worker and its caller -/

/-- Where the thread of the loop is: before it looks at the flag, in a pass with some queues left, or
out of the loop. -/
inductive LoopPlace where
  | head
  | pass (left : ℕ)
  | finished
  deriving DecidableEq

inductive ControlCall where
  | start
  | stop
  deriving DecidableEq

/-- Where the caller is: between two calls, in `start` after the flag is set, in `stop` after the
flag is cleared, or in the destructor, which stops the worker first. -/
inductive ControlStage where
  | idle
  | launching
  | joining
  | destroying
  | destructing
  | destroyed
  deriving DecidableEq

/-- A worker with the thread that `worker_thread_` owns, if it owns one, the calls to be made before
the destructor, whether `std::terminate` was called, and the receptions of all rounds so far. -/
structure PipelineHost (Mbuf Rest : Type*) where
  running : Bool
  thread : Option LoopPlace
  pipeline : WorkerPipeline Mbuf Rest
  calls : List ControlCall
  stage : ControlStage
  terminated : Bool
  rounds : List (Reception Mbuf Rest)

namespace PipelineHost

def fresh (pipeline : WorkerPipeline Mbuf Rest) (calls : List ControlCall) :
    PipelineHost Mbuf Rest where
  running := false
  thread := none
  pipeline := pipeline
  calls := calls
  stage := .idle
  terminated := false
  rounds := []

/-- Join the thread if there is one to join: wait for it, and go on. -/
def join (host : PipelineHost Mbuf Rest) (next : ControlStage) : PipelineHost Mbuf Rest :=
  match host.thread with
  | none => { host with stage := next }
  | some .finished => { host with thread := none, stage := next }
  | some _ => host

/-- The next step of the caller. -/
def control (host : PipelineHost Mbuf Rest) : PipelineHost Mbuf Rest :=
  match host.stage with
  | .idle =>
      match host.calls with
      | .start :: rest =>
          if host.running then { host with calls := rest }
          else { host with running := true, calls := rest, stage := .launching }
      | .stop :: rest => { host with running := false, calls := rest, stage := .joining }
      | [] => { host with running := false, stage := .destroying }
  | .launching =>
      -- assigning to a thread object that owns a thread calls `std::terminate`
      { host with
        thread := some .head
        terminated := host.terminated || host.thread.isSome
        stage := .idle }
  | .joining => host.join .idle
  | .destroying => host.join .destructing
  | .destructing =>
      { host with
        terminated := host.terminated || host.thread.isSome
        stage := .destroyed }
  | .destroyed => host

/-- The next step of the loop, with what the device does if the step is a round. -/
def work (host : PipelineHost Mbuf Rest) (reception : Reception Mbuf Rest) :
    PipelineHost Mbuf Rest :=
  match host.thread with
  | some .head =>
      { host with
        thread := some (if host.running then .pass host.pipeline.config.rxQueues.length
          else .finished) }
  | some (.pass 0) => { host with thread := some .head }
  | some (.pass (left + 1)) =>
      { host with
        pipeline := host.pipeline.queueRound reception
        thread := some (.pass left)
        rounds := host.rounds ++ [reception] }
  | _ => host

end PipelineHost

/-- A step of the caller or of the loop. -/
inductive HostMove (Mbuf Rest : Type*) where
  | control
  | work (reception : Reception Mbuf Rest)

def HostMove.isWork : HostMove Mbuf Rest → Bool
  | .control => false
  | .work _ => true

def PipelineHost.step (host : PipelineHost Mbuf Rest) : HostMove Mbuf Rest → PipelineHost Mbuf Rest
  | .control => host.control
  | .work reception => host.work reception

/-- A worker after a schedule of steps of its caller and its loop. -/
def manage (pipeline : WorkerPipeline Mbuf Rest) (calls : List ControlCall)
    (schedule : List (HostMove Mbuf Rest)) : PipelineHost Mbuf Rest :=
  Execution.run PipelineHost.step (.fresh pipeline calls) schedule

/-! ## One step -/

/-- The rounds that the pass under way still makes. -/
def LoopPlace.left : LoopPlace → ℕ
  | .pass left => left
  | _ => 0

/-- What the flag and the thread are between the steps of the caller. -/
def Attended (running : Bool) (thread : Option LoopPlace) : ControlStage → Prop
  | .idle => (running = true → thread ≠ none) ∧ (running = false → thread = none)
  | .launching => running = true ∧ thread = none
  | .joining | .destroying => running = false
  | .destructing | .destroyed => running = false ∧ thread = none

/-- The invariant of a worker that one thread calls. -/
structure Managed (start : WorkerPipeline Mbuf Rest) (host : PipelineHost Mbuf Rest) : Prop where
  pipeline : host.pipeline = start.workerLoop host.rounds
  config : host.pipeline.config = start.config
  whole : start.config.rxQueues.length ∣
    host.rounds.length + (host.thread.map LoopPlace.left).getD 0
  short : (host.thread.map LoopPlace.left).getD 0 ≤ start.config.rxQueues.length
  unfinished : host.running = true → host.thread ≠ some .finished
  attended : Attended host.running host.thread host.stage
  notTerminated : host.terminated = false

theorem config_queueRound (pipeline : WorkerPipeline Mbuf Rest)
    (reception : Reception Mbuf Rest) :
    (pipeline.queueRound reception).config = pipeline.config := by
  unfold WorkerPipeline.queueRound
  split <;> rfl

variable {start : WorkerPipeline Mbuf Rest} {host : PipelineHost Mbuf Rest}

/-- A worker whose loop is at the same place, but for a flag that is cleared or a thread that has
ended. -/
theorem Managed.attend (hmanaged : Managed start host) {running : Bool} {stage : ControlStage}
    (calls : List ControlCall) (hrunning : running = true → host.thread ≠ some .finished)
    (hattended : Attended running host.thread stage) :
    Managed start { host with running := running, calls := calls, stage := stage } :=
  ⟨hmanaged.pipeline, hmanaged.config, hmanaged.whole, hmanaged.short, hrunning, hattended,
    hmanaged.notTerminated⟩

/-- A thread is joined after its loop, or there is none. -/
theorem Managed.join (hmanaged : Managed start host) (hrunning : host.running = false)
    {next : ControlStage} (hnext : Attended false none next) : Managed start (host.join next) := by
  have hnotRunning (thread : Option LoopPlace) : host.running = true → thread ≠ some .finished := by
    rw [hrunning]
    exact fun h ↦ absurd h Bool.false_ne_true
  unfold PipelineHost.join
  split
  next hthread =>
    apply hmanaged.attend host.calls (hnotRunning _)
    rw [hrunning, hthread]
    exact hnext
  next hthread =>
    have hwhole := hmanaged.whole
    rw [hthread] at hwhole
    exact {
      pipeline := hmanaged.pipeline
      config := hmanaged.config
      whole := hwhole
      short := Nat.zero_le _
      unfinished := hnotRunning _
      attended := by
        rw [hrunning]
        exact hnext
      notTerminated := hmanaged.notTerminated }
  next => exact hmanaged

theorem Managed.control (hmanaged : Managed start host) : Managed start host.control := by
  have hattended := hmanaged.attended
  cases hstage : host.stage with
  | idle =>
    rw [hstage] at hattended
    cases hcalls : host.calls with
    | nil =>
      simp only [PipelineHost.control, hstage, hcalls]
      exact hmanaged.attend [] (fun h ↦ absurd h Bool.false_ne_true) rfl
    | cons call rest =>
      cases call with
      | stop =>
        simp only [PipelineHost.control, hstage, hcalls]
        exact hmanaged.attend rest (fun h ↦ absurd h Bool.false_ne_true) rfl
      | start =>
        cases hrunning : host.running with
        | true =>
          simp only [PipelineHost.control, hstage, hcalls, hrunning, if_true]
          have hkept := hmanaged.attend rest hmanaged.unfinished hattended
          rwa [hrunning] at hkept
        | false =>
          have hnone := hattended.2 hrunning
          simp only [PipelineHost.control, hstage, hcalls, hrunning, Bool.false_eq_true, if_false]
          apply hmanaged.attend rest
          · rw [hnone]
            exact fun _ ↦ (Option.some_ne_none _).symm
          · exact ⟨rfl, hnone⟩
  | launching =>
    rw [hstage] at hattended
    obtain ⟨hrunning, hnone⟩ := hattended
    have hwhole := hmanaged.whole
    rw [hnone] at hwhole
    simp only [PipelineHost.control, hstage]
    exact {
      pipeline := hmanaged.pipeline
      config := hmanaged.config
      whole := hwhole
      short := Nat.zero_le _
      unfinished := fun _ ↦ by simp
      attended := ⟨fun _ ↦ Option.some_ne_none _,
        fun h ↦ absurd (hrunning.symm.trans h) (by decide)⟩
      notTerminated := by rw [hmanaged.notTerminated, hnone]; rfl }
  | joining =>
    rw [hstage] at hattended
    simp only [PipelineHost.control, hstage]
    exact hmanaged.join hattended ⟨fun h ↦ absurd h (by decide), fun _ ↦ rfl⟩
  | destroying =>
    rw [hstage] at hattended
    simp only [PipelineHost.control, hstage]
    exact hmanaged.join hattended ⟨rfl, rfl⟩
  | destructing =>
    rw [hstage] at hattended
    simp only [PipelineHost.control, hstage]
    exact {
      pipeline := hmanaged.pipeline
      config := hmanaged.config
      whole := hmanaged.whole
      short := hmanaged.short
      unfinished := hmanaged.unfinished
      attended := hattended
      notTerminated := by rw [hmanaged.notTerminated, hattended.2]; rfl }
  | destroyed =>
    simp only [PipelineHost.control, hstage]
    exact hmanaged

/-- The loop moves on where the caller does not look. -/
theorem Attended.moves {running : Bool} {place next : LoopPlace} {stage : ControlStage}
    (hattended : Attended running (some place) stage) : Attended running (some next) stage := by
  cases stage with
  | idle =>
    exact ⟨fun _ ↦ Option.some_ne_none _, fun h ↦ absurd (hattended.2 h) (Option.some_ne_none _)⟩
  | launching => exact absurd hattended.2 (Option.some_ne_none _)
  | joining | destroying => exact hattended
  | destructing | destroyed => exact absurd hattended.2 (Option.some_ne_none _)

theorem Managed.work (hmanaged : Managed start host) (reception : Reception Mbuf Rest) :
    Managed start (host.work reception) := by
  have hattended := hmanaged.attended
  have hwhole := hmanaged.whole
  have hshort := hmanaged.short
  unfold PipelineHost.work
  split
  next hthread =>
    rw [hthread] at hattended hwhole
    have hqueues : host.pipeline.config.rxQueues.length = start.config.rxQueues.length := by
      rw [hmanaged.config]
    cases hrunning : host.running with
    | true =>
      rw [hqueues]
      exact {
        pipeline := hmanaged.pipeline
        config := hmanaged.config
        whole := Nat.dvd_add hwhole (dvd_refl _)
        short := le_rfl
        unfinished := fun _ ↦ by simp
        attended := by
          rw [hrunning] at hattended
          exact hattended.moves
        notTerminated := hmanaged.notTerminated }
    | false =>
      exact {
        pipeline := hmanaged.pipeline
        config := hmanaged.config
        whole := hwhole
        short := Nat.zero_le _
        unfinished := fun h ↦ absurd h Bool.false_ne_true
        attended := by
          rw [hrunning] at hattended
          exact hattended.moves
        notTerminated := hmanaged.notTerminated }
  next hthread =>
    rw [hthread] at hattended hwhole
    exact {
      pipeline := hmanaged.pipeline
      config := hmanaged.config
      whole := hwhole
      short := Nat.zero_le _
      unfinished := fun _ ↦ by simp
      attended := hattended.moves
      notTerminated := hmanaged.notTerminated }
  next left hthread =>
    rw [hthread] at hattended hwhole hshort
    have hrounds : (host.rounds ++ [reception]).length + left =
        host.rounds.length + (left + 1) := by
      rw [List.length_append, List.length_singleton]
      omega
    exact {
      pipeline := by
        change host.pipeline.queueRound reception = start.workerLoop (host.rounds ++ [reception])
        rw [hmanaged.pipeline]
        exact (Execution.run_concat ..).symm
      config := (config_queueRound ..).trans hmanaged.config
      whole := hrounds ▸ hwhole
      short := Nat.le_of_succ_le hshort
      unfinished := fun _ ↦ by simp
      attended := hattended.moves
      notTerminated := hmanaged.notTerminated }
  next => exact hmanaged

/-! ## Every schedule -/

theorem managed_manage (start : WorkerPipeline Mbuf Rest) (calls : List ControlCall)
    (schedule : List (HostMove Mbuf Rest)) : Managed start (manage start calls schedule) := by
  apply Execution.run_invariant (Managed start)
  · exact ⟨rfl, rfl, dvd_zero _, Nat.zero_le _, fun h ↦ absurd h Bool.false_ne_true,
      ⟨fun h ↦ absurd h Bool.false_ne_true, fun _ ↦ rfl⟩, rfl⟩
  · intro host move hmanaged
    cases move with
    | control => exact hmanaged.control
    | work reception => exact hmanaged.work reception

/-- **The threads of a worker run its loop.** Whatever calls one thread makes and however its steps
and those of the loop interleave, the worker is never given a thread while it owns one nor destroyed
with one, the rounds of all its threads are one run of the loop, and a worker without a thread has
made whole passes over its queues. -/
theorem manage_runs_loop (start : WorkerPipeline Mbuf Rest) (calls : List ControlCall)
    (schedule : List (HostMove Mbuf Rest)) :
    let host := manage start calls schedule
    host.terminated = false ∧ host.pipeline = start.workerLoop host.rounds ∧
      (host.stage = .destroyed ∨ host.stage = .idle ∧ host.running = false → host.thread = none) ∧
      (host.thread = none → start.config.rxQueues.length ∣ host.rounds.length) := by
  intro host
  have hmanaged : Managed start host := managed_manage start calls schedule
  refine ⟨hmanaged.notTerminated, hmanaged.pipeline, ?_, ?_⟩
  · have hattended := hmanaged.attended
    rintro (hdestroyed | ⟨hidle, hstopped⟩)
    · rw [hdestroyed] at hattended
      exact hattended.2
    · rw [hidle] at hattended
      exact hattended.2 hstopped
  · intro hnone
    have hwhole := hmanaged.whole
    rwa [hnone] at hwhole

/-! ## Stopping -/

/-- The most steps of the loop until it ends after the flag is cleared. -/
def LoopPlace.untilFinished : LoopPlace → ℕ
  | .head => 1
  | .pass left => left + 2
  | .finished => 0

namespace PipelineHost

/-- The rounds that the pass under way still makes. -/
def left (host : PipelineHost Mbuf Rest) : ℕ := (host.thread.map LoopPlace.left).getD 0

def untilFinished (host : PipelineHost Mbuf Rest) : ℕ :=
  (host.thread.map LoopPlace.untilFinished).getD 0

/-- The caller waits for the thread. -/
def Waits (host : PipelineHost Mbuf Rest) : Prop :=
  host.running = false ∧ (host.stage = .joining ∨ host.stage = .destroying)

end PipelineHost

def ControlStage.afterJoin : ControlStage → ControlStage
  | .joining => .idle
  | .destroying => .destructing
  | stage => stage

/-- The call that waits for the thread has returned, after the rounds that were left of the pass. -/
structure Returned (host ended : PipelineHost Mbuf Rest) : Prop where
  thread : ended.thread = none
  stage : ended.stage = host.stage.afterJoin
  calls : ended.calls = host.calls
  rounds : ended.rounds.length = host.rounds.length + host.left

theorem PipelineHost.control_of_waits (hwaits : host.Waits) :
    host.control = host.join host.stage.afterJoin := by
  obtain ⟨-, hstage | hstage⟩ := hwaits <;> simp only [PipelineHost.control, hstage] <;> rfl

/-- While the caller waits, every step of the loop brings it nearer to its end. -/
theorem PipelineHost.work_of_waits (hwaits : host.Waits) (reception : Reception Mbuf Rest) :
    (host.work reception).Waits ∧ (host.work reception).stage = host.stage ∧
      (host.work reception).calls = host.calls ∧
      (host.work reception).untilFinished ≤ host.untilFinished - 1 ∧
      (host.work reception).rounds.length + (host.work reception).left =
        host.rounds.length + host.left := by
  unfold PipelineHost.work
  split
  next hthread =>
    simp only [hwaits.1, Bool.false_eq_true, if_false]
    exact ⟨⟨rfl, hwaits.2⟩, trivial, trivial, by simp [untilFinished, LoopPlace.untilFinished],
      by simp [PipelineHost.left, hthread, LoopPlace.left]⟩
  next hthread =>
    exact ⟨hwaits, rfl, rfl, by simp [untilFinished, hthread, LoopPlace.untilFinished],
      by simp [PipelineHost.left, hthread, LoopPlace.left]⟩
  next left hthread =>
    refine ⟨hwaits, rfl, rfl, by simp [untilFinished, hthread, LoopPlace.untilFinished], ?_⟩
    simp only [PipelineHost.left, hthread, LoopPlace.left, Option.map_some, Option.getD_some,
      List.length_append, List.length_singleton]
    omega
  next hhead hpass hround =>
    refine ⟨hwaits, rfl, rfl, ?_, rfl⟩
    have hdone : host.untilFinished = 0 := by
      cases hthread : host.thread with
      | none => simp [untilFinished, hthread]
      | some place =>
        cases place with
        | finished => simp [untilFinished, hthread, LoopPlace.untilFinished]
        | head => exact absurd hthread hhead
        | pass left =>
          cases left with
          | zero => exact absurd hthread hpass
          | succ left => exact absurd hthread (hround left)
    omega

/-- The caller goes on as soon as there is no thread to wait for. -/
theorem PipelineHost.returned_of_finished (hwaits : host.Waits) (hdone : host.untilFinished = 0) :
    Returned host host.control := by
  rw [host.control_of_waits hwaits]
  cases hthread : host.thread with
  | none =>
    simp only [PipelineHost.join, hthread]
    exact ⟨rfl, rfl, rfl, by simp [PipelineHost.left, hthread]⟩
  | some place =>
    cases place with
    | finished =>
      simp only [PipelineHost.join, hthread]
      exact ⟨rfl, rfl, rfl, by simp [PipelineHost.left, hthread, LoopPlace.left]⟩
    | head | pass left => simp [untilFinished, hthread, LoopPlace.untilFinished] at hdone

theorem PipelineHost.control_of_unfinished (hwaits : host.Waits) (hbusy : host.untilFinished ≠ 0) :
    host.control = host := by
  rw [host.control_of_waits hwaits]
  cases hthread : host.thread with
  | none => simp [untilFinished, hthread] at hbusy
  | some place =>
    cases place with
    | finished => simp [untilFinished, hthread, LoopPlace.untilFinished] at hbusy
    | head | pass left => simp only [PipelineHost.join, hthread]

/-- A caller that waits goes on once the loop has made its last steps. -/
theorem returns_of_waits (hwaits : host.Waits) (later : List (HostMove Mbuf Rest))
    (hmoves : host.untilFinished ≤ later.countP HostMove.isWork) :
    ∃ moves, moves <+: later ++ [.control] ∧
      Returned host (Execution.run PipelineHost.step host moves) := by
  induction later generalizing host with
  | nil =>
    exact ⟨[.control], List.prefix_rfl, host.returned_of_finished hwaits (Nat.le_zero.mp hmoves)⟩
  | cons move later ih =>
    cases move with
    | control =>
      by_cases hdone : host.untilFinished = 0
      · exact ⟨[.control], ⟨later ++ [.control], rfl⟩, host.returned_of_finished hwaits hdone⟩
      · obtain ⟨moves, hprefix, hreturned⟩ := ih hwaits hmoves
        refine ⟨.control :: moves, (List.prefix_cons_inj _).mpr hprefix, ?_⟩
        rw [Execution.run_cons, PipelineHost.step, host.control_of_unfinished hwaits hdone]
        exact hreturned
    | work reception =>
      obtain ⟨hstill, hstage, hcalls, hless, hrounds⟩ := host.work_of_waits hwaits reception
      rw [List.countP_cons_of_pos rfl] at hmoves
      obtain ⟨moves, hprefix, hreturned⟩ := ih hstill (by omega)
      refine ⟨.work reception :: moves, (List.prefix_cons_inj _).mpr hprefix, ?_⟩
      rw [Execution.run_cons, PipelineHost.step]
      exact ⟨hreturned.thread, hstage ▸ hreturned.stage, hcalls ▸ hreturned.calls,
        hreturned.rounds.trans hrounds⟩

/-- **A stop lets the pass end.** Whenever the caller waits in `stop` or in the destructor, at most
two steps of the loop more than it has queues let it go on, and the loop makes exactly the rounds
that are left of the pass under way. -/
theorem stop_returns (start : WorkerPipeline Mbuf Rest) (calls : List ControlCall)
    (before later : List (HostMove Mbuf Rest))
    (hstage : (manage start calls before).stage = .joining ∨
      (manage start calls before).stage = .destroying)
    (hmoves : start.config.rxQueues.length + 2 ≤ later.countP HostMove.isWork) :
    ∃ moves, moves <+: later ++ [.control] ∧
      Returned (manage start calls before) (manage start calls (before ++ moves)) := by
  have hmanaged := managed_manage start calls before
  have hshort : (manage start calls before).untilFinished ≤ start.config.rxQueues.length + 2 := by
    have hleft := hmanaged.short
    cases hthread : (manage start calls before).thread with
    | none => simp [PipelineHost.untilFinished, hthread]
    | some place =>
      rw [hthread] at hleft
      cases place with
      | head | finished => simp [PipelineHost.untilFinished, hthread, LoopPlace.untilFinished]
      | pass left =>
        simp only [PipelineHost.untilFinished, hthread, LoopPlace.untilFinished, Option.map_some,
          Option.getD_some]
        exact Nat.add_le_add_right hleft 2
  have hwaits : (manage start calls before).Waits := by
    refine ⟨?_, hstage⟩
    have hattended := hmanaged.attended
    rcases hstage with hstage | hstage <;>
    · rw [hstage] at hattended
      exact hattended
  obtain ⟨moves, hprefix, hreturned⟩ := returns_of_waits hwaits later (hshort.trans hmoves)
  refine ⟨moves, hprefix, ?_⟩
  have hsplit : manage start calls (before ++ moves) =
      Execution.run PipelineHost.step (manage start calls before) moves := Execution.run_append ..
  rwa [hsplit]

/-- The caller starts a worker with two queues and stops it in its first pass. -/
def stoppedInPass : List (HostMove ℕ Unit) :=
  [.control, .control, .work ⟨[], by decide, ⟨fun _ ↦ 0, ()⟩⟩, .control]

/-- The worker makes the two rounds of its pass before the stop returns. -/
theorem stoppedInPass_returns :
    let start : WorkerPipeline ℕ Unit := .create ⟨0, [0, 1]⟩ [] ⟨fun _ ↦ 0, ()⟩
    let round : HostMove ℕ Unit := .work ⟨[], by decide, ⟨fun _ ↦ 0, ()⟩⟩
    ∃ moves, moves <+: [round, .control, round, round, round] ++ [.control] ∧
      Returned (manage start [.start, .stop] stoppedInPass)
        (manage start [.start, .stop] (stoppedInPass ++ moves)) :=
  stop_returns _ _ stoppedInPass _ (by decide) (by decide)

end VirtualServiceGateway.Dpdk
