import VirtualServiceGateway.Dpdk.WorkerPipeline
import VirtualServiceGateway.Foundation.WrappingCounter

/-!
# What a worker's statistics account for

In each round of its loop a worker counts the packets and bytes it receives, runs the processors,
frees the packets and counts them as sent. It counts no bytes as sent and nothing as dropped. So
packets are balanced and released in every run, and bytes exactly as long as nothing but empty
packets is received.
-/

namespace VirtualServiceGateway.Dpdk

open WrappingCounter

variable {Mbuf Rest : Type*}

def pktBurstSize : ℕ := 64

structure PipelineStats where
  rxPkts : UInt64
  rxBytes : UInt64
  txPkts : UInt64
  txBytes : UInt64
  droppedPkts : UInt64
  droppedBytes : UInt64
  processingErrors : UInt64
  meteringUpdates : UInt64
  dpiClassifications : UInt64
  deriving DecidableEq, Repr

/-- The lengths of the packets, and the rest of the memory with the packets' data and the state of
the processors. -/
structure Memory (Mbuf Rest : Type*) where
  pktLen : Mbuf → UInt32
  rest : Rest

/-- A stage that may rewrite everything but the lengths of the packets. -/
structure PacketProcessor (Mbuf Rest : Type*) where
  processBurst : List Mbuf → Memory Mbuf Rest → Memory Mbuf Rest
  keepsLengths : ∀ pkts memory, (processBurst pkts memory).pktLen = memory.pktLen

/-- What the device does in a call of `rx_burst`: the burst it returns and the memory it leaves. -/
structure Reception (Mbuf Rest : Type*) where
  pkts : List Mbuf
  length_le : pkts.length ≤ pktBurstSize
  memory : Memory Mbuf Rest

def Reception.nbRx (reception : Reception Mbuf Rest) : UInt16 :=
  UInt16.ofNat reception.pkts.length

/-- The worker, with the mbufs it has received and those it has released, oldest first. -/
structure WorkerPipeline (Mbuf Rest : Type*) where
  config : WorkerConfig
  processors : List (PacketProcessor Mbuf Rest)
  stats : PipelineStats
  memory : Memory Mbuf Rest
  received : List Mbuf
  released : List Mbuf

namespace WorkerPipeline

/-- The constructor, with the processors added before the start. -/
def create (config : WorkerConfig) (processors : List (PacketProcessor Mbuf Rest))
    (memory : Memory Mbuf Rest) : WorkerPipeline Mbuf Rest where
  config := config
  processors := processors
  stats := ⟨0, 0, 0, 0, 0, 0, 0, 0, 0⟩
  memory := memory
  received := []
  released := []

def rxBurst (pipeline : WorkerPipeline Mbuf Rest) (reception : Reception Mbuf Rest) :
    WorkerPipeline Mbuf Rest :=
  { pipeline with
    memory := reception.memory
    received := pipeline.received ++ reception.pkts }

/-- Count the received packets, and their bytes one packet after the other. -/
def countReceived (pipeline : WorkerPipeline Mbuf Rest) (pkts : List Mbuf) (nbRx : UInt16) :
    WorkerPipeline Mbuf Rest :=
  { pipeline with
    stats := { pipeline.stats with
      rxPkts := pipeline.stats.rxPkts + nbRx.toUInt64
      rxBytes := pkts.foldl (fun bytes mbuf ↦ bytes + (pipeline.memory.pktLen mbuf).toUInt64)
        pipeline.stats.rxBytes } }

def process (pipeline : WorkerPipeline Mbuf Rest) (pkts : List Mbuf) : WorkerPipeline Mbuf Rest :=
  { pipeline with
    memory := pipeline.processors.foldl
      (fun memory processor ↦ processor.processBurst pkts memory) pipeline.memory }

/-- The placeholder frees every packet of the burst. -/
def txBurst (pipeline : WorkerPipeline Mbuf Rest) (pkts : List Mbuf) : WorkerPipeline Mbuf Rest :=
  { pipeline with released := pipeline.released ++ pkts }

def countSent (pipeline : WorkerPipeline Mbuf Rest) (nbRx : UInt16) : WorkerPipeline Mbuf Rest :=
  { pipeline with
    stats := { pipeline.stats with txPkts := pipeline.stats.txPkts + nbRx.toUInt64 } }

/-- One round of the queue loop. -/
def queueRound (pipeline : WorkerPipeline Mbuf Rest) (reception : Reception Mbuf Rest) :
    WorkerPipeline Mbuf Rest :=
  let pipeline := pipeline.rxBurst reception
  if reception.nbRx = 0 then pipeline
  else
    let pipeline := pipeline.countReceived reception.pkts reception.nbRx
    let pipeline := pipeline.process reception.pkts
    let pipeline := pipeline.txBurst reception.pkts
    pipeline.countSent reception.nbRx

/-- The worker after its rounds. Passes over the queues follow each other until the worker is
stopped, so a run of the loop is the sequence of its rounds. -/
def workerLoop (pipeline : WorkerPipeline Mbuf Rest) (receptions : List (Reception Mbuf Rest)) :
    WorkerPipeline Mbuf Rest :=
  Execution.run queueRound pipeline receptions

/-- Packets and bytes are balanced, and every received mbuf is released as often as received. -/
structure Balanced (pipeline : WorkerPipeline Mbuf Rest) : Prop where
  packets : pipeline.stats.rxPkts = pipeline.stats.txPkts + pipeline.stats.droppedPkts
  bytes : pipeline.stats.rxBytes = pipeline.stats.txBytes + pipeline.stats.droppedBytes
  released : pipeline.released.Perm pipeline.received

end WorkerPipeline

/-- The bytes of a burst, as the device leaves it. -/
def Reception.bytes (reception : Reception Mbuf Rest) : ℕ :=
  tally (fun mbuf ↦ (reception.memory.pktLen mbuf).toNat) reception.pkts

theorem Reception.nbRx_eq_zero_iff (reception : Reception Mbuf Rest) :
    reception.nbRx = 0 ↔ reception.pkts = [] := by
  have hlength := reception.length_le
  unfold pktBurstSize at hlength
  rw [← List.length_eq_zero_iff, ← UInt16.toNat_inj]
  unfold Reception.nbRx
  rw [UInt16.toNat_ofNat', Nat.mod_eq_of_lt (by omega)]
  rfl

namespace WorkerPipeline

/-- What a round leaves in the statistics. -/
theorem stats_queueRound (pipeline : WorkerPipeline Mbuf Rest)
    (reception : Reception Mbuf Rest) :
    (pipeline.queueRound reception).stats =
      { pipeline.stats with
        rxPkts := pipeline.stats.rxPkts + reception.nbRx.toUInt64
        rxBytes := pipeline.stats.rxBytes + wrap64 reception.bytes
        txPkts := pipeline.stats.txPkts + reception.nbRx.toUInt64 } := by
  have hbytes : reception.pkts.foldl
      (fun bytes mbuf ↦ bytes + (reception.memory.pktLen mbuf).toUInt64) pipeline.stats.rxBytes =
        pipeline.stats.rxBytes + wrap64 reception.bytes := by
    have hfold := foldl_add_wrap wrap64 (fun mbuf ↦ (reception.memory.pktLen mbuf).toNat)
      pipeline.stats.rxBytes reception.pkts
    simp only [wrap64_toUInt64] at hfold
    exact hfold
  unfold queueRound
  split
  case isTrue hnone =>
    have hempty := reception.nbRx_eq_zero_iff.mp hnone
    have hnoBytes : reception.bytes = 0 := by
      unfold Reception.bytes
      rw [hempty, tally_nil]
    have hzero : reception.nbRx.toUInt64 = 0 := by
      rw [hnone]
      rfl
    rw [hnoBytes, hzero, map_zero, UInt64.add_zero, UInt64.add_zero, UInt64.add_zero]
    rfl
  case isFalse =>
    rw [← hbytes]
    rfl

/-- What a round receives and what it releases. -/
theorem mbufs_queueRound (pipeline : WorkerPipeline Mbuf Rest)
    (reception : Reception Mbuf Rest) :
    (pipeline.queueRound reception).received = pipeline.received ++ reception.pkts ∧
      (pipeline.queueRound reception).released = pipeline.released ++ reception.pkts := by
  unfold queueRound
  split
  case isTrue hnone =>
    have hempty := reception.nbRx_eq_zero_iff.mp hnone
    refine ⟨rfl, ?_⟩
    rw [hempty, List.append_nil]
    rfl
  case isFalse => exact ⟨rfl, rfl⟩

/-- What holds of every worker in its loop. -/
structure Running (pipeline : WorkerPipeline Mbuf Rest) : Prop where
  sent : pipeline.stats.txPkts = pipeline.stats.rxPkts
  noneDropped : pipeline.stats.droppedPkts = 0
  noBytes : pipeline.stats.txBytes + pipeline.stats.droppedBytes = 0
  released : pipeline.released = pipeline.received

/-- **Step.** -/
theorem Running.queueRound {pipeline : WorkerPipeline Mbuf Rest} (hrunning : pipeline.Running)
    (reception : Reception Mbuf Rest) : (pipeline.queueRound reception).Running := by
  have hstats := pipeline.stats_queueRound reception
  obtain ⟨hreceived, hreleased⟩ := pipeline.mbufs_queueRound reception
  exact {
    sent := by rw [hstats, hrunning.sent]
    noneDropped := by rw [hstats, hrunning.noneDropped]
    noBytes := by rw [hstats, hrunning.noBytes]
    released := by rw [hreleased, hreceived, hrunning.released] }

end WorkerPipeline

end VirtualServiceGateway.Dpdk
