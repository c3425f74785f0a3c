import VirtualServiceGateway.Foundation.GuardedSequence

/-!
# The batch processor

A batch is an array of packet pointers with a 16-bit count. Four packets are prefetched first; then
every packet is processed, and the one four entries ahead is prefetched. Prefetching reads the mbuf
it is given, null or not, while processing skips a null entry. What is read and written goes into a
trace, and the first access that is not defined ends it.
-/

namespace VirtualServiceGateway.Dpdk

open GuardedSequence

variable {Mbuf Storage : Type*}

structure PacketMetadata where
  flowId : UInt32
  subscriberId : UInt32
  serviceId : UInt16
  ingressPort : UInt16
  egressPort : UInt16
  rxTimestampNs : UInt64
  dpiClass : UInt8
  qosQueue : UInt8
  packetBytes : UInt32
  uplink : Bool
  deriving DecidableEq, Repr

/-- A message buffer: its lengths, and the pointer to its user data. -/
structure RteMbuf (Storage : Type*) where
  dataLen : UInt16
  pktLen : UInt32
  userdata : Option Storage

/-- An access of the batch processor. -/
inductive BatchAccess (Mbuf Storage : Type*) where
  /-- An entry of the array is read. -/
  | entry (index : ℕ)
  /-- Fields of the mbuf are read. -/
  | mbuf (pkt : Option Mbuf)
  /-- Metadata is constructed where the packet's user data points to. -/
  | construct (pkt : Mbuf) (storage : Option Storage) (metadata : PacketMetadata)
  deriving DecidableEq

/-- No access through a null pointer is defined. -/
def BatchAccess.defined : BatchAccess Mbuf Storage → Bool
  | .entry _ => true
  | .mbuf pkt => pkt.isSome
  | .construct _ storage _ => storage.isSome

def access (event : BatchAccess Mbuf Storage) : Attempt (BatchAccess Mbuf Storage) :=
  fun trace ↦ (event.defined, trace ++ [event])

/-- Metadata with all fields zero. -/
def PacketMetadata.zero : PacketMetadata where
  flowId := 0
  subscriberId := 0
  serviceId := 0
  ingressPort := 0
  egressPort := 0
  rxTimestampNs := 0
  dpiClass := 0
  qosQueue := 0
  packetBytes := 0
  uplink := false

/-- The metadata of a processed packet. The length goes through a 16-bit variable. -/
def RteMbuf.metadata (mbuf : RteMbuf Storage) (timestamp : UInt64) : PacketMetadata :=
  { PacketMetadata.zero with
    packetBytes := mbuf.pktLen.toUInt16.toUInt32
    rxTimestampNs := timestamp }

section Batch

variable (mbufs : Mbuf → RteMbuf Storage) (rdtsc : ℕ → UInt64) (pkts : ℕ → Option Mbuf)
  (count : UInt16)

/-- Read an entry and prefetch its packet. The address of the data is read from the mbuf. -/
def prefetchEntry (index : ℕ) : Attempt (BatchAccess Mbuf Storage) :=
  andThen (access (.entry index)) (access (.mbuf (pkts index)))

/-- Prefetch the first four packets. A 16-bit loop that ends has at most `2 ^ 16` tests. -/
def prefetchBatch : List (BatchAccess Mbuf Storage) →
    Option (Bool × List (BatchAccess Mbuf Storage)) :=
  counted (fun i ↦ decide (i < count) && decide (i < 4)) (· + 1)
    (fun i ↦ prefetchEntry pkts i.toNat) (2 ^ 16) 0

/-- Process a packet, or skip a null pointer. -/
def processSingle (timestamp : UInt64) : Option Mbuf → Attempt (BatchAccess Mbuf Storage)
  | none => fun trace ↦ (true, trace)
  | some pkt =>
      andThen (access (.mbuf (some pkt)))
        (access (.construct pkt (mbufs pkt).userdata ((mbufs pkt).metadata timestamp)))

/-- One round of the loop. The sum of the lookahead is an integer and does not wrap. -/
def processEntry (index : ℕ) : Attempt (BatchAccess Mbuf Storage) :=
  andThen (access (.entry index))
    (andThen (processSingle mbufs (rdtsc index) (pkts index))
      (if index + 4 < count.toNat then prefetchEntry pkts (index + 4)
        else fun trace ↦ (true, trace)))

/-- The whole batch: whether every access was defined, and the trace. -/
def processBatch (trace : List (BatchAccess Mbuf Storage)) :
    Option (Bool × List (BatchAccess Mbuf Storage)) := do
  let (defined, trace) ← prefetchBatch pkts count trace
  if defined then
    counted (fun i ↦ decide (i < count)) (· + 1)
      (fun i ↦ processEntry mbufs rdtsc pkts count i.toNat) (2 ^ 16) 0 trace
  else some (false, trace)

end Batch

/-! ## Metadata -/

/-- The stored metadata after an access. -/
def storeAccess [DecidableEq Storage] (contents : Storage → PacketMetadata) :
    BatchAccess Mbuf Storage → Storage → PacketMetadata
  | .construct _ (some storage) metadata => Function.update contents storage metadata
  | _ => contents

/-- The stored metadata after a trace. -/
def metadataAfter [DecidableEq Storage] (contents : Storage → PacketMetadata)
    (trace : List (BatchAccess Mbuf Storage)) : Storage → PacketMetadata :=
  Execution.run storeAccess contents trace

/-- What the target pointer points to after the extraction, if it is not null itself. -/
def extractMetadata (mbufs : Mbuf → RteMbuf Storage) (contents : Storage → PacketMetadata)
    (pkt : Option Mbuf) (target : Option PacketMetadata) : Option PacketMetadata :=
  match pkt, target with
  | some pkt, some prior =>
      match (mbufs pkt).userdata with
      | some stored => some (contents stored)
      | none => some prior
  | _, target => target

end VirtualServiceGateway.Dpdk
