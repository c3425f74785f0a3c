import VirtualServiceGateway.Foundation.BoundedRing
import VirtualServiceGateway.Foundation.Interleaving

/-!
# The ring queue between the stages

A ring queue creates its ring with flags for a single producer or a single consumer, but its
operations never look at them: every enqueue is the single-producer one and every dequeue the
single-consumer one. Any number of threads call the operations, and their steps on the ring
interleave.
-/

namespace VirtualServiceGateway.Dpdk

open BoundedRing

variable {Mbuf : Type*}

/-- What `rte_ring_create` is asked for. -/
structure RingRequest where
  name : String
  count : UInt32
  socketId : Int32
  flags : UInt32

def ringFSpEnq : UInt32 := 0x0001

def ringFScDeq : UInt32 := 0x0002

/-- A queue with its ring; `none` is the null pointer of a failed creation. -/
structure RingQueue (Mbuf : Type*) where
  ring : Option (SlotRing Mbuf)
  name : String
  size : UInt32

/-- The constructor; `rteRingCreate` is what the library answers to a request. -/
def RingQueue.create (rteRingCreate : RingRequest → Option (SlotRing Mbuf)) (name : String)
    (size : UInt32) (numaNode : Int32) (sp sc : Bool) : RingQueue Mbuf :=
  let flags : UInt32 := 0
  let flags := if sp then flags ||| ringFSpEnq else flags
  let flags := if sc then flags ||| ringFScDeq else flags
  { ring := rteRingCreate ⟨name, size, numaNode, flags⟩
    name := name
    size := size }

/-- A created ring is empty. -/
def CreatesEmptyRings (rteRingCreate : RingRequest → Option (SlotRing Mbuf)) : Prop :=
  ∀ request ring, rteRingCreate request = some ring →
    ring.prodHead = ring.prodTail ∧ ring.consHead = ring.consTail ∧ ring.prodTail = ring.consTail

/-! ## Calls and what they return -/

/-- A call of an operation of the queue. -/
inductive RingCall (Mbuf : Type*) where
  | enqueue (obj : Mbuf)
  | enqueueBurst (objs : List Mbuf)
  | dequeue
  | dequeueBurst (maxCount : UInt32)

/-- A call that has returned, with its result. A burst of dequeues returns as many as it stores. -/
inductive RingReport (Mbuf : Type*) where
  | enqueue (obj : Mbuf) (result : ℤ)
  | enqueueBurst (objs : List Mbuf) (result : ℤ)
  | dequeue (result : Option Mbuf)
  | dequeueBurst (objs : List Mbuf)
  deriving DecidableEq

/-- The mbufs that a call has reported as accepted. -/
def RingReport.accepted : RingReport Mbuf → List Mbuf
  | .enqueue obj result => if result = 0 then [obj] else []
  | .enqueueBurst objs result => objs.take result.toNat
  | _ => []

/-- The mbufs that a call has delivered. -/
def RingReport.delivered : RingReport Mbuf → List Mbuf
  | .dequeue result => result.toList
  | .dequeueBurst objs => objs
  | _ => []

inductive RingSide where
  | producer
  | consumer
  deriving DecidableEq, Repr

/-- Where a thread is inside an operation. -/
inductive RingStage (Mbuf : Type*) where
  | idle
  | enqueuing (stage : Enqueue Mbuf)
  | dequeuing (stage : Dequeue Mbuf)

/-- The side of the ring that the thread is working on. -/
def RingStage.side : RingStage Mbuf → Option RingSide
  | .idle => none
  | .enqueuing _ => some .producer
  | .dequeuing _ => some .consumer

namespace RingCall

def side : RingCall Mbuf → RingSide
  | .enqueue _ => .producer
  | .enqueueBurst _ => .producer
  | .dequeue => .consumer
  | .dequeueBurst _ => .consumer

/-- What the operations return without a ring. -/
def refused : RingCall Mbuf → RingReport Mbuf
  | .enqueue obj => .enqueue obj (-1)
  | .enqueueBurst objs => .enqueueBurst objs 0
  | .dequeue => .dequeue none
  | .dequeueBurst _ => .dequeueBurst []

/-- The first step of a call: the single-producer or single-consumer operation reads its head. -/
def begin (ring : SlotRing Mbuf) : RingCall Mbuf → RingStage Mbuf
  | .enqueue obj => .enqueuing (.headRead ring.prodHead [obj])
  | .enqueueBurst objs => .enqueuing (.headRead ring.prodHead objs)
  | .dequeue => .dequeuing (.headRead ring.consHead 1)
  | .dequeueBurst maxCount => .dequeuing (.headRead ring.consHead maxCount.toNat)

/-- What the operations return once the ring operation has moved the items: zero or minus `ENOBUFS`
for a single enqueue, the number of items for a burst. -/
def finished (items : List Mbuf) : RingCall Mbuf → RingReport Mbuf
  | .enqueue obj => .enqueue obj (if items.isEmpty then -105 else 0)
  | .enqueueBurst objs => .enqueueBurst objs items.length
  | .dequeue => .dequeue items.head?
  | .dequeueBurst _ => .dequeueBurst items

end RingCall

/-! ## Threads on one queue -/

/-- The queue and the calls that have returned, oldest first. -/
structure SharedQueue (Mbuf : Type*) where
  queue : RingQueue Mbuf
  reports : List (RingReport Mbuf)

/-- A thread with the calls it has not finished, the first of them under way unless it is idle. -/
structure RingUser (Mbuf : Type*) where
  calls : List (RingCall Mbuf)
  stage : RingStage Mbuf

namespace SharedQueue

def setRing (shared : SharedQueue Mbuf) (ring : SlotRing Mbuf) : SharedQueue Mbuf :=
  { shared with queue := { shared.queue with ring := some ring } }

def report (shared : SharedQueue Mbuf) (result : RingReport Mbuf) : SharedQueue Mbuf :=
  { shared with reports := shared.reports ++ [result] }

def accepted (shared : SharedQueue Mbuf) : List Mbuf := shared.reports.flatMap RingReport.accepted

def delivered (shared : SharedQueue Mbuf) : List Mbuf := shared.reports.flatMap RingReport.delivered

/-- The mbufs in the ring, if there is one. -/
def contents (shared : SharedQueue Mbuf) : List Mbuf :=
  (shared.queue.ring.map SlotRing.contents).getD []

/-- Every mbuf is delivered at most as often as it was accepted, and every acceptance is delivered
or still in the ring. -/
structure Owned [DecidableEq Mbuf] (shared : SharedQueue Mbuf) : Prop where
  noDuplicate : ∀ mbuf, shared.delivered.count mbuf ≤ shared.accepted.count mbuf
  noLoss : ∀ mbuf,
    shared.accepted.count mbuf ≤ shared.delivered.count mbuf + shared.contents.count mbuf

end SharedQueue

/-- The next step of a thread. -/
def RingUser.advance (shared : SharedQueue Mbuf) (user : RingUser Mbuf) :
    SharedQueue Mbuf × RingUser Mbuf :=
  match user.calls, shared.queue.ring with
  | [], _ => (shared, user)
  | call :: rest, none => (shared.report call.refused, ⟨rest, .idle⟩)
  | call :: rest, some ring =>
      match user.stage with
      | .idle => (shared, ⟨call :: rest, call.begin ring⟩)
      | .enqueuing stage =>
          match ring.enqueueStep stage with
          | (ring, .running stage) => (shared.setRing ring, ⟨call :: rest, .enqueuing stage⟩)
          | (ring, .finished items) =>
              ((shared.setRing ring).report (call.finished items), ⟨rest, .idle⟩)
      | .dequeuing stage =>
          match ring.dequeueStep stage with
          | (ring, .running stage) => (shared.setRing ring, ⟨call :: rest, .dequeuing stage⟩)
          | (ring, .finished items) =>
              ((shared.setRing ring).report (call.finished items), ⟨rest, .idle⟩)

/-- The thread at a place takes its next step. -/
def ringStep (config : Interleaving.Config (SharedQueue Mbuf) (RingUser Mbuf)) (place : ℕ) :
    Interleaving.Config (SharedQueue Mbuf) (RingUser Mbuf) :=
  Interleaving.step (fun _ : Unit ↦ RingUser.advance) config (place, ())

/-- The threads before their first calls. -/
def startCalls (queue : RingQueue Mbuf) (workloads : List (List (RingCall Mbuf))) :
    Interleaving.Config (SharedQueue Mbuf) (RingUser Mbuf) :=
  ⟨⟨queue, []⟩, workloads.map (⟨·, .idle⟩)⟩

/-- The threads after a schedule that names, step by step, the one that moves. -/
def runCalls (queue : RingQueue Mbuf) (workloads : List (List (RingCall Mbuf)))
    (schedule : List ℕ) : Interleaving.Config (SharedQueue Mbuf) (RingUser Mbuf) :=
  Execution.run ringStep (startCalls queue workloads) schedule

/-- A thread begins a call only when no thread is working on the same side of the ring. -/
def NoOverlap (config : Interleaving.Config (SharedQueue Mbuf) (RingUser Mbuf)) (place : ℕ) :
    Prop :=
  ∀ user ∈ config.workers[place]?, user.stage.side = none → ∀ call ∈ user.calls.head?,
    ∀ other ∈ config.workers, other.stage.side ≠ some call.side

instance (config : Interleaving.Config (SharedQueue Mbuf) (RingUser Mbuf)) (place : ℕ) :
    Decidable (NoOverlap config place) :=
  inferInstanceAs (Decidable (∀ user ∈ config.workers[place]?, user.stage.side = none →
    ∀ call ∈ user.calls.head?, ∀ other ∈ config.workers, other.stage.side ≠ some call.side))

end VirtualServiceGateway.Dpdk
