import Mathlib.Data.UInt
import VirtualServiceGateway.Foundation.Interleaving

/-!
# The forwarding cores

One core receives bursts and puts them into a ring, the other takes them out, exchanges the
addresses of each packet and transmits them. Each frees what the ring or the port does not take. The
port and the ring answer every call with a number of packets of their own choice, the ring as a
bounded queue. A step is one call or one round of a loop, and the cores' steps interleave.
-/

namespace VirtualServiceGateway.Dpdk

variable {Mbuf : Type*}

/-- `BURST_SIZE`. -/
def burstSize : ℕ := 64

/-- The number of packets a ring of `RING_SIZE` slots holds. -/
def ringCapacity : ℕ := 2047

structure EtherHdr where
  dstAddr : Vector UInt8 6
  srcAddr : Vector UInt8 6
  deriving DecidableEq

def EtherHdr.swap (header : EtherHdr) : EtherHdr := ⟨header.srcAddr, header.dstAddr⟩

/-- What the cores share, and the mbufs that were received, handed to the port and freed so far,
oldest first. -/
structure Forwarder (Mbuf : Type*) where
  forceQuit : Bool
  rxPackets : UInt64
  txPackets : UInt64
  ring : List Mbuf
  headers : Mbuf → EtherHdr
  received : List Mbuf
  transmitted : List Mbuf
  freed : List Mbuf

/-- How the port and the ring answer the call of a step, if it makes one: the burst that has arrived
with its headers, and the number of packets to move. -/
structure Answer (Mbuf : Type*) where
  arrived : List Mbuf
  headers : Mbuf → EtherHdr
  moved : ℕ

/-! ## Calls -/

section Calls

variable (forwarder : Forwarder Mbuf) (answer : Answer Mbuf)

def rteEthRxBurst [DecidableEq Mbuf] : Forwarder Mbuf × List Mbuf :=
  let bufs := answer.arrived.take burstSize
  ({ forwarder with
      headers := fun mbuf ↦ if mbuf ∈ bufs then answer.headers mbuf else forwarder.headers mbuf
      received := forwarder.received ++ bufs }, bufs)

/-- The ring takes the first packets of the burst, no more than it has room for. -/
def rteRingSpEnqueueBurst (bufs : List Mbuf) : Forwarder Mbuf × ℕ :=
  let nbEnqueued := min answer.moved (min bufs.length (ringCapacity - forwarder.ring.length))
  ({ forwarder with ring := forwarder.ring ++ bufs.take nbEnqueued }, nbEnqueued)

/-- The ring gives its oldest packets. -/
def rteRingScDequeueBurst : Forwarder Mbuf × List Mbuf :=
  let nbDequeued := min answer.moved burstSize
  ({ forwarder with ring := forwarder.ring.drop nbDequeued }, forwarder.ring.take nbDequeued)

/-- The port takes ownership of the first packets of the burst. -/
def rteEthTxBurst (bufs : List Mbuf) : Forwarder Mbuf × ℕ :=
  let nbTx := min answer.moved bufs.length
  ({ forwarder with transmitted := forwarder.transmitted ++ bufs.take nbTx }, nbTx)

def rtePktmbufFree (mbuf : Mbuf) : Forwarder Mbuf :=
  { forwarder with freed := forwarder.freed ++ [mbuf] }

end Calls

/-! ## Cores -/

/-- Where the receiving core is in its loop. -/
inductive RxStage (Mbuf : Type*) where
  | polling
  | counting (bufs : List Mbuf)
  | enqueuing (bufs : List Mbuf)
  | freeing (bufs : List Mbuf) (i : ℕ)
  | exited

/-- Where the transmitting core is in its loop. -/
inductive TxStage (Mbuf : Type*) where
  | polling
  | swapping (bufs : List Mbuf) (i : ℕ)
  | sending (bufs : List Mbuf)
  | freeing (bufs : List Mbuf) (nbTx i : ℕ)
  | counting (sent : ℕ)
  | exited

/-- The next step of `lcore_rx`. -/
def lcoreRx [DecidableEq Mbuf] (answer : Answer Mbuf) (forwarder : Forwarder Mbuf) :
    RxStage Mbuf → Forwarder Mbuf × RxStage Mbuf
  | .polling =>
      if forwarder.forceQuit then (forwarder, .exited)
      else
        let (forwarder, bufs) := rteEthRxBurst forwarder answer
        if bufs.length = 0 then (forwarder, .polling) else (forwarder, .counting bufs)
  | .counting bufs =>
      ({ forwarder with rxPackets := forwarder.rxPackets + UInt64.ofNat bufs.length },
        .enqueuing bufs)
  | .enqueuing bufs =>
      let (forwarder, nbEnqueued) := rteRingSpEnqueueBurst forwarder answer bufs
      if nbEnqueued < bufs.length then (forwarder, .freeing bufs nbEnqueued)
      else (forwarder, .polling)
  | .freeing bufs i =>
      match bufs[i]? with
      | some mbuf => (rtePktmbufFree forwarder mbuf, .freeing bufs (i + 1))
      | none => (forwarder, .polling)
  | .exited => (forwarder, .exited)

/-- The next step of `lcore_tx`. -/
def lcoreTx [DecidableEq Mbuf] (answer : Answer Mbuf) (forwarder : Forwarder Mbuf) :
    TxStage Mbuf → Forwarder Mbuf × TxStage Mbuf
  | .polling =>
      if forwarder.forceQuit then (forwarder, .exited)
      else
        let (forwarder, bufs) := rteRingScDequeueBurst forwarder answer
        if bufs.length = 0 then (forwarder, .polling) else (forwarder, .swapping bufs 0)
  | .swapping bufs i =>
      match bufs[i]? with
      | some mbuf =>
          ({ forwarder with
              headers := Function.update forwarder.headers mbuf (forwarder.headers mbuf).swap },
            .swapping bufs (i + 1))
      | none => (forwarder, .sending bufs)
  | .sending bufs =>
      let (forwarder, nbTx) := rteEthTxBurst forwarder answer bufs
      if nbTx < bufs.length then (forwarder, .freeing bufs nbTx nbTx)
      else (forwarder, .counting bufs.length)
  | .freeing bufs nbTx i =>
      match bufs[i]? with
      | some mbuf => (rtePktmbufFree forwarder mbuf, .freeing bufs nbTx (i + 1))
      | none => (forwarder, .counting nbTx)
  | .counting sent =>
      ({ forwarder with txPackets := forwarder.txPackets + UInt64.ofNat sent }, .polling)
  | .exited => (forwarder, .exited)

/-- The two cores, and the signal handler that ends their loops. -/
inductive Core (Mbuf : Type*) where
  | rx (stage : RxStage Mbuf)
  | tx (stage : TxStage Mbuf)
  | signalHandler

/-- The next step of a core. -/
def Core.advance [DecidableEq Mbuf] (answer : Answer Mbuf) (forwarder : Forwarder Mbuf) :
    Core Mbuf → Forwarder Mbuf × Core Mbuf
  | .rx stage =>
      let (forwarder, stage) := lcoreRx answer forwarder stage
      (forwarder, .rx stage)
  | .tx stage =>
      let (forwarder, stage) := lcoreTx answer forwarder stage
      (forwarder, .tx stage)
  | .signalHandler => ({ forwarder with forceQuit := true }, .signalHandler)

/-! ## Runs -/

/-- The application when its cores are launched. -/
def launched (headers : Mbuf → EtherHdr) : Interleaving.Config (Forwarder Mbuf) (Core Mbuf) where
  shared :=
    { forceQuit := false
      rxPackets := 0
      txPackets := 0
      ring := []
      headers := headers
      received := []
      transmitted := []
      freed := [] }
  workers := [.rx .polling, .tx .polling, .signalHandler]

/-- The application after a schedule that names, step by step, the core that moves and how its call
is answered. -/
def forward [DecidableEq Mbuf] (headers : Mbuf → EtherHdr) (schedule : List (ℕ × Answer Mbuf)) :
    Interleaving.Config (Forwarder Mbuf) (Core Mbuf) :=
  Interleaving.run Core.advance (launched headers) schedule

end VirtualServiceGateway.Dpdk
