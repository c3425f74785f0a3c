import Mathlib.Data.UInt
import VirtualServiceGateway.Foundation.Interleaving

/-!
# The queue loop of the workers

A worker goes over its receive queues again and again, and receives once for every queue. Which
queue it receives from is not the one of the loop, but the one at an index that all workers share
and advance modulo the number of their own queues.
-/

namespace VirtualServiceGateway.Dpdk

structure WorkerConfig where
  workerId : UInt32
  rxQueues : List UInt16

/-- What `rx_burst` does: the index it selects, in range or not, the shared index it leaves, and the
number of packets it receives. -/
structure RxBurst where
  selected : Option ℕ
  queueIdx : UInt16
  nbRx : UInt16

/-- Advance the shared index: incremented as an integer, reduced by the number of queues, and stored
in 16 bits. -/
def nextQueueIdx (queues : ℕ) (queueIdx : UInt16) : UInt16 :=
  UInt16.ofNat ((queueIdx.toNat + 1) % queues)

/-- The placeholder selects a queue and receives nothing from it. -/
def WorkerConfig.rxBurst (config : WorkerConfig) (queueIdx : UInt16) : RxBurst :=
  if config.rxQueues = [] then ⟨none, queueIdx, 0⟩
  else ⟨some queueIdx.toNat, nextQueueIdx config.rxQueues.length queueIdx, 0⟩

/-- A worker in its loop: the indices selected so far in the pass under way, and those of the passes
it has completed. -/
structure Worker where
  config : WorkerConfig
  pass : List ℕ
  passes : List (List ℕ)

namespace Worker

/-- The number of receive queues, which is the number of rounds of a pass. -/
def queues (worker : Worker) : ℕ := worker.config.rxQueues.length

def fresh (config : WorkerConfig) : Worker := ⟨config, [], []⟩

/-- One round of the queue loop has selected an index. The last round ends the pass. -/
def record (worker : Worker) (index : ℕ) : Worker :=
  let pass := worker.pass ++ [index]
  if pass.length = worker.queues then
    { worker with pass := [], passes := worker.passes ++ [pass] }
  else { worker with pass := pass }

/-- One round of the queue loop. Nothing is received, so nothing is processed. -/
def round (queueIdx : UInt16) (worker : Worker) : UInt16 × Worker :=
  let burst := worker.config.rxBurst queueIdx
  match burst.selected with
  | none => (burst.queueIdx, worker)
  | some index => (burst.queueIdx, worker.record index)

end Worker

/-- The workers with their shared index after a schedule that names, round by round, the worker that
receives. -/
def poll (configs : List WorkerConfig) (schedule : List ℕ) : Interleaving.Config UInt16 Worker :=
  Interleaving.run (fun _ : Unit ↦ Worker.round) ⟨0, configs.map Worker.fresh⟩
    (schedule.map fun place ↦ (place, ()))

/-- Every selected index is inside the worker's list, and every completed pass has selected each
queue exactly once. -/
def Worker.PollsAll (worker : Worker) : Prop :=
  (∀ pass ∈ worker.pass :: worker.passes, ∀ index ∈ pass, index < worker.queues) ∧
    ∀ pass ∈ worker.passes, pass.Perm (List.range worker.queues)

end VirtualServiceGateway.Dpdk
