import VirtualServiceGateway.Dpdk.PacketHeaders
import VirtualServiceGateway.Foundation.CheckedOperation
import VirtualServiceGateway.Foundation.WrappingCounter

/-!
# The example pipeline

A loop receives bursts, finds the headers of each packet, classifies it, meters it, and answers it
with its addresses swapped. A packet that is not accepted, or that exceeds the quota, is freed. It
stays in the burst that is sent, so it is handed over a second time. The ledger below says which
packets those are in any run. A run ends without a result when a packet is classified through a
pointer that the record held before the loop and that cannot be read.
-/

namespace VirtualServiceGateway.Dpdk

open CheckedOperation WrappingCounter

variable {Mbuf : Type*}

/-! ## Metering -/

structure MeterStats where
  bytes : UInt64
  packets : UInt64
  deriving DecidableEq, Repr

def updateMeter (meter : MeterStats) (packetBytes : UInt32) : MeterStats where
  bytes := meter.bytes + packetBytes.toUInt64
  packets := meter.packets + 1

def checkQuota (meter : MeterStats) (quotaBytes : UInt64) : Bool := quotaBytes < meter.bytes

/-- The quota of the pipeline. -/
def quotaBytes : UInt64 := 1000000

/-! ## Reading through the record -/

section Reading

variable {readable : Mbuf × ℕ → Bool}

/-- The pointer through which the ports are read. -/
def PacketHeaders.consulted (hdrs : PacketHeaders Mbuf) : HeaderPointer Mbuf :=
  hdrs.tcp.or hdrs.udp

/-- The pointers to transport headers are null or can be read. -/
def PacketHeaders.Readable (readable : Mbuf × ℕ → Bool) (hdrs : PacketHeaders Mbuf) : Prop :=
  (∀ header ∈ hdrs.tcp, readable header) ∧ ∀ header ∈ hdrs.udp, readable header

/-- Classify a packet, with a result when the pointer that is consulted is null or can be read. -/
def classifyReadable (readable : Mbuf × ℕ → Bool) (order : ByteOrder) (memory : PacketMemory Mbuf)
    (hdrs : PacketHeaders Mbuf) : Except Fault PacketClass :=
  if ∀ header ∈ hdrs.consulted, readable header then .ok (classifyPacket order memory hdrs)
  else .error .outOfBounds

/-- The extraction keeps such a record when the headers of the packet can be read, wherever the length
in an IPv4 header puts the transport header. -/
theorem PacketHeaders.Readable.extract {hdrs : PacketHeaders Mbuf}
    (hreadable : hdrs.Readable readable) (order : ByteOrder) (memory : PacketMemory Mbuf)
    {pkt : Mbuf} (hpkt : ∀ offset ≤ 74, readable (pkt, offset)) :
    (extractPacketHeaders order memory pkt hdrs).1.Readable readable := by
  have htransport (offset : ℕ) (hoffset : offset ≤ 74) (hdrs : PacketHeaders Mbuf)
      (hreadable : hdrs.Readable readable) :
      (extractTransport order memory pkt offset hdrs).Readable readable := by
    obtain ⟨htcp, hudp⟩ := hreadable
    have hheader : ∀ header ∈ some (pkt, offset), readable header := by
      rintro _ ⟨⟩
      exact hpkt offset hoffset
    unfold extractTransport
    split_ifs
    · exact ⟨hheader, hudp⟩
    · exact ⟨htcp, hheader⟩
    · exact ⟨htcp, hudp⟩
  have hlength : (memory.byte pkt 14 % 16).toNat < 16 := by
    rw [UInt8.toNat_mod]
    exact Nat.mod_lt _ (by decide)
  unfold extractPacketHeaders
  dsimp only
  split_ifs
  · exact hreadable
  · exact hreadable
  · exact htransport _ (by omega) _ hreadable
  · exact hreadable
  · exact htransport _ (by omega) _ hreadable
  · exact hreadable

end Reading

/-! ## Rewriting and counting -/

/-- Swap the first two fields of six bytes at a header. -/
def macSwap [DecidableEq Mbuf] (memory : PacketMemory Mbuf) (eth : Mbuf × ℕ) :
    PacketMemory Mbuf where
  pktLen := memory.pktLen
  byte := fun pkt offset ↦
    if pkt = eth.1 ∧ eth.2 ≤ offset ∧ offset < eth.2 + 6 then memory.byte pkt (offset + 6)
    else if pkt = eth.1 ∧ eth.2 + 6 ≤ offset ∧ offset < eth.2 + 12 then memory.byte pkt (offset - 6)
    else memory.byte pkt offset

structure PortStats where
  rxPackets : UInt64
  rxBytes : UInt64
  txPackets : UInt64
  txBytes : UInt64
  droppedPackets : UInt64
  errors : UInt64
  deriving DecidableEq, Repr

def updateStats (memory : PacketMemory Mbuf) (stats : PortStats) (bufs : List Mbuf)
    (received : Bool) : PortStats :=
  bufs.foldl (fun stats pkt ↦
    if received then
      { stats with
        rxPackets := stats.rxPackets + 1
        rxBytes := stats.rxBytes + (memory.pktLen pkt).toUInt64 }
    else
      { stats with
        txPackets := stats.txPackets + 1
        txBytes := stats.txBytes + (memory.pktLen pkt).toUInt64 }) stats

/-! ## The loop -/

/-- The loop, with the mbufs it has freed and those the device has taken, oldest first. -/
structure ExamplePipeline (Mbuf : Type*) where
  memory : PacketMemory Mbuf
  hdrs : PacketHeaders Mbuf
  meter : MeterStats
  stats : PortStats
  freed : List Mbuf
  transmitted : List Mbuf

/-- What the device does in a round: the burst it returns with the memory it leaves, and how many
packets it takes. -/
structure Exchange (Mbuf : Type*) where
  bufs : List Mbuf
  length_le : bufs.length ≤ 64
  memory : PacketMemory Mbuf
  taken : ℕ

namespace ExamplePipeline

/-- The loop as it starts. Neither the record of headers nor the meter is initialised. -/
def create (memory : PacketMemory Mbuf) (hdrs : PacketHeaders Mbuf) (meter : MeterStats) :
    ExamplePipeline Mbuf where
  memory := memory
  hdrs := hdrs
  meter := meter
  stats := ⟨0, 0, 0, 0, 0, 0⟩
  freed := []
  transmitted := []

def countError (pipeline : ExamplePipeline Mbuf) : ExamplePipeline Mbuf :=
  { pipeline with stats := { pipeline.stats with errors := pipeline.stats.errors + 1 } }

def countDropped (pipeline : ExamplePipeline Mbuf) : ExamplePipeline Mbuf :=
  { pipeline with
    stats := { pipeline.stats with droppedPackets := pipeline.stats.droppedPackets + 1 } }

def rtePktmbufFree (pipeline : ExamplePipeline Mbuf) (pkt : Mbuf) : ExamplePipeline Mbuf :=
  { pipeline with freed := pipeline.freed ++ [pkt] }

/-- The device takes the packets. -/
def rteEthTxBurst (pipeline : ExamplePipeline Mbuf) (taken : List Mbuf) : ExamplePipeline Mbuf :=
  { pipeline with transmitted := pipeline.transmitted ++ taken }

def freeUnsent (pipeline : ExamplePipeline Mbuf) (pkt : Mbuf) : ExamplePipeline Mbuf :=
  (pipeline.rtePktmbufFree pkt).countDropped

section Rounds

variable [DecidableEq Mbuf] (readable : Mbuf × ℕ → Bool) (order : ByteOrder)

def processPacket (pipeline : ExamplePipeline Mbuf) (pkt : Mbuf) :
    Except Fault (ExamplePipeline Mbuf) :=
  let (hdrs, accepted) := extractPacketHeaders order pipeline.memory pkt pipeline.hdrs
  let pipeline := { pipeline with hdrs := hdrs }
  if !accepted then .ok (pipeline.rtePktmbufFree pkt).countError
  else
    -- nothing looks at the class
    (classifyReadable readable order pipeline.memory hdrs).map fun _ ↦
      let pipeline := { pipeline with
        meter := updateMeter pipeline.meter (pipeline.memory.pktLen pkt) }
      if checkQuota pipeline.meter quotaBytes then (pipeline.rtePktmbufFree pkt).countDropped
      else
        let memory := match hdrs.eth with
          | some eth => macSwap pipeline.memory eth
          | none => pipeline.memory
        { pipeline with
          memory := memory
          stats := updateStats memory pipeline.stats [pkt] false }

/-- A round of the loop. -/
def round (pipeline : ExamplePipeline Mbuf) (exchange : Exchange Mbuf) :
    Except Fault (ExamplePipeline Mbuf) :=
  let pipeline := { pipeline with memory := exchange.memory }
  if exchange.bufs = [] then .ok pipeline
  else
    (exchange.bufs.foldlM (processPacket readable order) pipeline).map fun pipeline ↦
      let nbTx := min exchange.taken exchange.bufs.length
      let pipeline := pipeline.rteEthTxBurst (exchange.bufs.take nbTx)
      (exchange.bufs.drop nbTx).foldl freeUnsent pipeline

/-- The loop after the rounds. -/
def afterRounds (memory : PacketMemory Mbuf) (hdrs : PacketHeaders Mbuf) (meter : MeterStats)
    (exchanges : List (Exchange Mbuf)) : Except Fault (ExamplePipeline Mbuf) :=
  exchanges.foldlM (round readable order) (create memory hdrs meter)

end Rounds

end ExamplePipeline

/-! ## The ledger of a run -/

/-- A received packet by what the loop goes by. -/
structure Arrival (Mbuf : Type*) where
  pkt : Mbuf
  length : UInt32
  accepted : Bool

namespace Arrival

/-- The bytes a packet is metered with. -/
def metered (arrival : Arrival Mbuf) : ℕ := if arrival.accepted then arrival.length.toNat else 0

/-- The packet is passed on by a meter that held the given bytes before it. -/
def passed (bytes : UInt64) (arrival : Arrival Mbuf) : Bool :=
  arrival.accepted && bytes + wrap64 arrival.metered ≤ quotaBytes

end Arrival

/-- The packets that are freed before the burst is sent. -/
def discarded (bytes : UInt64) : List (Arrival Mbuf) → List Mbuf
  | [] => []
  | arrival :: arrivals =>
      (if arrival.passed bytes then [] else [arrival.pkt]) ++
        discarded (bytes + wrap64 arrival.metered) arrivals

section Arrivals

variable (order : ByteOrder)

/-- A packet as it arrives in memory. -/
def PacketMemory.arrival (memory : PacketMemory Mbuf) (pkt : Mbuf) : Arrival Mbuf where
  pkt := pkt
  length := memory.pktLen pkt
  accepted := (extractPacketHeaders order memory pkt .cleared).2

def Exchange.arrivals (exchange : Exchange Mbuf) : List (Arrival Mbuf) :=
  exchange.bufs.map (exchange.memory.arrival order)

/-- The packets received in the rounds, oldest first. -/
def received (exchanges : List (Exchange Mbuf)) : List (Arrival Mbuf) :=
  exchanges.flatMap (Exchange.arrivals order)

/-- The packets of a burst that the device takes. -/
def Exchange.sent (exchange : Exchange Mbuf) : List Mbuf :=
  exchange.bufs.take (min exchange.taken exchange.bufs.length)

/-- The packets of a burst that the device does not take. -/
def Exchange.unsent (exchange : Exchange Mbuf) : List Mbuf :=
  exchange.bufs.drop (min exchange.taken exchange.bufs.length)

theorem sent_append_unsent (exchanges : List (Exchange Mbuf)) :
    (exchanges.flatMap Exchange.sent ++ exchanges.flatMap Exchange.unsent).Perm
      ((received order exchanges).map Arrival.pkt) := by
  have hburst : ∀ exchange : Exchange Mbuf,
      (exchange.arrivals order).map Arrival.pkt = exchange.sent ++ exchange.unsent := by
    intro exchange
    rw [Exchange.sent, Exchange.unsent, List.take_append_drop, Exchange.arrivals, List.map_map]
    exact List.map_id _
  rw [received, List.map_flatMap]
  simp only [hburst]
  exact List.flatMap_append_perm _ _ _

end Arrivals

/-- Memory that differs at most in the addresses of the packets. -/
structure SwappedFrom (memory swapped : PacketMemory Mbuf) : Prop where
  pktLen_eq : swapped.pktLen = memory.pktLen
  byte_eq : ∀ pkt offset, 12 ≤ offset → swapped.byte pkt offset = memory.byte pkt offset

section Verdicts

variable (order : ByteOrder) {memory swapped : PacketMemory Mbuf} (pkt : Mbuf)
  {hdrs : PacketHeaders Mbuf}

/-- What the record held and the addresses play no part in whether a packet is accepted. -/
theorem accepted_eq (hswapped : SwappedFrom memory swapped) (hdrs : PacketHeaders Mbuf) :
    (extractPacketHeaders order swapped pkt hdrs).2 = (memory.arrival order pkt).accepted := by
  have htype : order.load16 swapped pkt 12 = order.load16 memory pkt 12 := by
    cases order with
    | network | reversed =>
      simp only [ByteOrder.load16, hswapped.byte_eq pkt 12 le_rfl,
        hswapped.byte_eq pkt (12 + 1) (by omega)]
  simp only [PacketMemory.arrival, extractPacketHeaders, hswapped.pktLen_eq, htype]
  split_ifs <;> rfl

/-- The Ethernet header of an accepted packet is at its start. -/
theorem eth_of_accepted (haccepted : (extractPacketHeaders order memory pkt hdrs).2 = true) :
    (extractPacketHeaders order memory pkt hdrs).1.eth = some (pkt, 0) := by
  have htransport : ∀ (offset : ℕ) (hdrs : PacketHeaders Mbuf),
      (extractTransport order memory pkt offset hdrs).eth = hdrs.eth := by
    intro offset hdrs
    unfold extractTransport
    split_ifs <;> rfl
  revert haccepted
  simp only [extractPacketHeaders]
  split_ifs <;> simp [htransport]

theorem SwappedFrom.macSwap [DecidableEq Mbuf] (hswapped : SwappedFrom memory swapped) :
    SwappedFrom memory (macSwap swapped (pkt, 0)) := by
  refine ⟨hswapped.pktLen_eq, fun other offset hoffset ↦ ?_⟩
  rw [Dpdk.macSwap]
  dsimp only
  rw [if_neg (by omega), if_neg (by omega), hswapped.byte_eq other offset hoffset]

end Verdicts

/-! ## From one packet to every run -/

theorem discarded_append (bytes : UInt64) (first second : List (Arrival Mbuf)) :
    discarded bytes (first ++ second) =
      discarded bytes first ++ discarded (bytes + wrap64 (tally Arrival.metered first)) second := by
  induction first generalizing bytes with
  | nil => simp [discarded]
  | cons arrival first ih =>
    rw [List.cons_append, discarded, ih, discarded, tally_cons, map_add, List.append_assoc,
      add_assoc]

/-- Packets that are not accepted are all discarded, and none is metered. -/
theorem discarded_of_rejected (bytes : UInt64) {arrivals : List (Arrival Mbuf)}
    (hrejected : ∀ arrival ∈ arrivals, arrival.accepted = false) :
    discarded bytes arrivals = arrivals.map Arrival.pkt ∧ tally Arrival.metered arrivals = 0 := by
  induction arrivals generalizing bytes with
  | nil => exact ⟨rfl, rfl⟩
  | cons arrival arrivals ih =>
    have hfirst := hrejected arrival List.mem_cons_self
    have hmetered : arrival.metered = 0 := by
      rw [Arrival.metered, hfirst]
      rfl
    have hnot : arrival.passed bytes = false := by rw [Arrival.passed, hfirst, Bool.false_and]
    obtain ⟨hrest, hzero⟩ := ih (bytes + wrap64 arrival.metered)
      fun later hlater ↦ hrejected later (List.mem_cons_of_mem _ hlater)
    constructor
    · rw [discarded, hnot, hrest]
      rfl
    · rw [tally_cons, hmetered, hzero]

/-- No packet is discarded exactly when each is accepted and the bytes metered up to it are within
the quota. -/
theorem discarded_eq_nil_iff (bytes : UInt64) (arrivals : List (Arrival Mbuf)) :
    discarded bytes arrivals = [] ↔ ∀ before arrival, before ++ [arrival] <+: arrivals →
      arrival.accepted = true ∧
        (bytes.toNat + tally Arrival.metered (before ++ [arrival])) % 2 ^ 64 ≤ 1000000 := by
  have hpassed : ∀ (before : List (Arrival Mbuf)) (arrival : Arrival Mbuf),
      arrival.passed (bytes + wrap64 (tally Arrival.metered before)) = true ↔
        arrival.accepted = true ∧
          (bytes.toNat + tally Arrival.metered (before ++ [arrival])) % 2 ^ 64 ≤ 1000000 := by
    intro before arrival
    have hmetered : bytes + wrap64 (tally Arrival.metered before) + wrap64 arrival.metered =
        wrap64 (bytes.toNat + tally Arrival.metered (before ++ [arrival])) := by
      rw [tally_append, tally_cons, tally_nil, Nat.add_zero, map_add, map_add, wrap64_toNat,
        add_assoc]
    rw [Arrival.passed, hmetered, Bool.and_eq_true, decide_eq_true_iff, UInt64.le_iff_toNat_le,
      toNat_wrap64]
    rfl
  simp only [← hpassed]
  induction arrivals using List.reverseRecOn with
  | nil => simp [discarded]
  | append_singleton arrivals arrival ih =>
    rw [discarded_append, List.append_eq_nil_iff]
    constructor
    · rintro ⟨hnone, hlast⟩ before next hearlier
      rcases List.prefix_concat_iff.mp hearlier with hsame | hearlier
      · obtain ⟨rfl, hnext⟩ := List.append_inj' hsame rfl
        obtain rfl := List.singleton_inj.mp hnext
        by_contra hnot
        simp [discarded, hnot] at hlast
      · exact ih.mp hnone before next hearlier
    · intro h
      have hnone : discarded bytes arrivals = [] :=
        ih.mpr fun before next hearlier ↦ h before next (hearlier.trans (List.prefix_append _ _))
      refine ⟨hnone, ?_⟩
      simp [discarded, h arrivals arrival List.prefix_rfl]

/-- What a part of a run adds to the meter, the logs and the statistics. -/
structure Accounts (arrivals : List (Arrival Mbuf)) (sent unsent : List Mbuf)
    (before after : ExamplePipeline Mbuf) : Prop where
  bytes : after.meter.bytes = before.meter.bytes + wrap64 (tally Arrival.metered arrivals)
  transmitted : after.transmitted = before.transmitted ++ sent
  freed : after.freed.Perm (before.freed ++ (discarded before.meter.bytes arrivals ++ unsent))
  lost : after.stats.errors + after.stats.droppedPackets =
    before.stats.errors + before.stats.droppedPackets +
      wrap64 ((discarded before.meter.bytes arrivals).length + unsent.length)
  counted : after.stats.txPackets + wrap64 (discarded before.meter.bytes arrivals).length =
    before.stats.txPackets + wrap64 arrivals.length

namespace Accounts

variable {arrivals : List (Arrival Mbuf)} {sent unsent : List Mbuf}
  {before middle after : ExamplePipeline Mbuf}

theorem refl (pipeline : ExamplePipeline Mbuf) : Accounts [] [] [] pipeline pipeline := by
  constructor <;> simp [discarded]

theorem trans (hfirst : Accounts arrivals sent unsent before middle)
    {arrivals' : List (Arrival Mbuf)} {sent' unsent' : List Mbuf}
    (hsecond : Accounts arrivals' sent' unsent' middle after) :
    Accounts (arrivals ++ arrivals') (sent ++ sent') (unsent ++ unsent') before after := by
  have hdiscarded := discarded_append before.meter.bytes arrivals arrivals'
  rw [← hfirst.bytes] at hdiscarded
  constructor
  · rw [hsecond.bytes, hfirst.bytes, tally_append, map_add, add_assoc]
  · rw [hsecond.transmitted, hfirst.transmitted, List.append_assoc]
  · have hfreed := hsecond.freed.trans (hfirst.freed.append_right _)
    simp only [List.append_assoc] at hfreed
    simp only [hdiscarded, List.append_assoc]
    -- what the first part left unsent stands before what the second discards
    exact hfreed.trans (((List.perm_append_comm_assoc _ _ _).append_left _).append_left _)
  · rw [hsecond.lost, hfirst.lost, hdiscarded, List.length_append, List.length_append, add_assoc,
      ← map_add]
    congr 2
    omega
  · rw [hdiscarded, List.length_append, List.length_append, map_add, map_add]
    calc
      _ = after.stats.txPackets + wrap64 (discarded middle.meter.bytes arrivals').length +
          wrap64 (discarded before.meter.bytes arrivals).length := by ac_rfl
      _ = middle.stats.txPackets + wrap64 (discarded before.meter.bytes arrivals).length +
          wrap64 arrivals'.length := by
        rw [hsecond.counted, add_right_comm]
      _ = _ := by rw [hfirst.counted, add_assoc]

section Single

variable {arrival : Arrival Mbuf}

theorem of_discarded (hnot : arrival.passed before.meter.bytes = false)
    (hbytes : after.meter.bytes = before.meter.bytes + wrap64 arrival.metered)
    (htransmitted : after.transmitted = before.transmitted)
    (hfreed : after.freed = before.freed ++ [arrival.pkt])
    (hlost : after.stats.errors + after.stats.droppedPackets =
      before.stats.errors + before.stats.droppedPackets + 1)
    (hcounted : after.stats.txPackets = before.stats.txPackets) :
    Accounts [arrival] [] [] before after := by
  have hdiscarded : discarded before.meter.bytes [arrival] = [arrival.pkt] := by
    rw [discarded, hnot]
    rfl
  constructor
  · rw [hbytes, tally_cons, tally_nil, Nat.add_zero]
  · rw [htransmitted, List.append_nil]
  · rw [hfreed, hdiscarded, List.append_nil]
  · rw [hlost, hdiscarded]
    rfl
  · rw [hcounted, hdiscarded]
    rfl

theorem of_passed (hpassed : arrival.passed before.meter.bytes = true)
    (hbytes : after.meter.bytes = before.meter.bytes + wrap64 arrival.metered)
    (htransmitted : after.transmitted = before.transmitted)
    (hfreed : after.freed = before.freed)
    (hlost : after.stats.errors + after.stats.droppedPackets =
      before.stats.errors + before.stats.droppedPackets)
    (hcounted : after.stats.txPackets = before.stats.txPackets + 1) :
    Accounts [arrival] [] [] before after := by
  have hdiscarded : discarded before.meter.bytes [arrival] = [] := by
    rw [discarded, hpassed]
    rfl
  constructor
  · rw [hbytes, tally_cons, tally_nil, Nat.add_zero]
  · rw [htransmitted, List.append_nil]
  · rw [hfreed, hdiscarded, List.append_nil, List.append_nil]
  · rw [hlost, hdiscarded]
    exact (add_zero _).symm
  · rw [hcounted, hdiscarded]
    exact add_zero _

end Single

end Accounts

namespace ExamplePipeline

section Steps

variable [DecidableEq Mbuf] {readable : Mbuf × ℕ → Bool} {order : ByteOrder}
  {memory : PacketMemory Mbuf} {pipeline after : ExamplePipeline Mbuf} {pkt : Mbuf}

/-- The ways of a packet: it is not accepted, or it is classified, and then it exceeds the quota or
is answered. -/
theorem processPacket_eq (hswapped : SwappedFrom memory pipeline.memory) :
    processPacket readable order pipeline pkt =
      let pipeline := { pipeline with
        hdrs := (extractPacketHeaders order pipeline.memory pkt pipeline.hdrs).1 }
      let arrival := memory.arrival order pkt
      if arrival.accepted = false then .ok (pipeline.rtePktmbufFree pkt).countError
      else
        (classifyReadable readable order pipeline.memory pipeline.hdrs).map fun _ ↦
          let passed := arrival.passed pipeline.meter.bytes
          let pipeline := { pipeline with meter := updateMeter pipeline.meter arrival.length }
          if passed = false then (pipeline.rtePktmbufFree pkt).countDropped
          else
            let memory := macSwap pipeline.memory (pkt, 0)
            { pipeline with
              memory := memory
              stats := updateStats memory pipeline.stats [pkt] false } := by
  have haccepted := accepted_eq order pkt hswapped pipeline.hdrs
  have hlength : pipeline.memory.pktLen pkt = (memory.arrival order pkt).length :=
    congrFun hswapped.pktLen_eq pkt
  unfold processPacket
  dsimp only
  rw [haccepted, hlength]
  cases hverdict : (memory.arrival order pkt).accepted with
  | false => rfl
  | true =>
    rw [hverdict] at haccepted
    have hover : checkQuota (updateMeter pipeline.meter (memory.arrival order pkt).length)
        quotaBytes = !(memory.arrival order pkt).passed pipeline.meter.bytes := by
      rw [Arrival.passed, Arrival.metered, hverdict, if_pos rfl, wrap64_toUInt64, checkQuota,
        updateMeter, Bool.true_and, ← decide_not]
      exact decide_eq_decide.mpr UInt64.not_le.symm
    rw [hover, eth_of_accepted order pkt haccepted]
    cases (memory.arrival order pkt).passed pipeline.meter.bytes <;> rfl

theorem processPacket_accounts (hswapped : SwappedFrom memory pipeline.memory)
    (hafter : processPacket readable order pipeline pkt = .ok after) :
    SwappedFrom memory after.memory ∧
      Accounts [memory.arrival order pkt] [] [] pipeline after := by
  rw [processPacket_eq hswapped] at hafter
  dsimp only at hafter
  cases hverdict : (memory.arrival order pkt).accepted with
  | false =>
    have hnone : wrap64 (memory.arrival order pkt).metered = 0 := by
      rw [Arrival.metered, hverdict]
      rfl
    have hnot : (memory.arrival order pkt).passed pipeline.meter.bytes = false := by
      rw [Arrival.passed, hverdict, Bool.false_and]
    rw [hverdict, if_pos rfl] at hafter
    obtain rfl := Except.ok.inj hafter
    refine ⟨hswapped, .of_discarded hnot ?_ rfl rfl (add_right_comm _ _ _) rfl⟩
    rw [hnone, add_zero]
    rfl
  | true =>
    have hlength : wrap64 (memory.arrival order pkt).metered =
        (memory.arrival order pkt).length.toUInt64 := by
      rw [Arrival.metered, hverdict, if_pos rfl, wrap64_toUInt64]
    rw [hverdict, if_neg (by decide)] at hafter
    obtain ⟨_, -, rfl⟩ := exists_of_map_eq_ok hafter
    cases hpassed : (memory.arrival order pkt).passed pipeline.meter.bytes with
    | false =>
      rw [if_pos rfl]
      refine ⟨hswapped, .of_discarded hpassed ?_ rfl rfl (add_assoc _ _ _).symm rfl⟩
      rw [hlength]
      rfl
    | true =>
      rw [if_neg (by decide)]
      refine ⟨hswapped.macSwap pkt, .of_passed hpassed ?_ rfl rfl rfl rfl⟩
      rw [hlength]
      rfl

/-- A burst in the memory it arrived in. -/
theorem burst_accounts {bufs : List Mbuf} (hswapped : SwappedFrom memory pipeline.memory)
    (hafter : bufs.foldlM (processPacket readable order) pipeline = .ok after) :
    Accounts (bufs.map (memory.arrival order)) [] [] pipeline after := by
  have hrelated := foldlM_related (processPacket readable order)
    (fun bufs before after ↦ SwappedFrom memory before.memory →
      Accounts (bufs.map (memory.arrival order)) [] [] before after)
    (fun pipeline _ ↦ .refl pipeline)
    (fun pkt bufs before middle after hfirst hrest hswapped ↦ by
      obtain ⟨hstill, haccounts⟩ := processPacket_accounts hswapped hfirst
      exact haccounts.trans (hrest hstill))
    hafter
  exact hrelated hswapped

end Steps

theorem freeUnsent_accounts (pipeline : ExamplePipeline Mbuf) (unsent : List Mbuf) :
    Accounts [] [] unsent pipeline (unsent.foldl freeUnsent pipeline) := by
  induction unsent generalizing pipeline with
  | nil => exact .refl pipeline
  | cons pkt unsent ih =>
    have hfirst : Accounts [] [] [pkt] pipeline (pipeline.freeUnsent pkt) := by
      constructor
      · exact (add_zero _).symm
      · exact (List.append_nil _).symm
      · exact .refl _
      · exact (add_assoc _ _ _).symm
      · rfl
    exact hfirst.trans (ih _)

theorem freeUnsent_hdrs (pipeline : ExamplePipeline Mbuf) (unsent : List Mbuf) :
    (unsent.foldl freeUnsent pipeline).hdrs = pipeline.hdrs := by
  induction unsent generalizing pipeline with
  | nil => rfl
  | cons pkt unsent ih => exact ih _

theorem rteEthTxBurst_accounts (pipeline : ExamplePipeline Mbuf) (sent : List Mbuf) :
    Accounts [] sent [] pipeline (pipeline.rteEthTxBurst sent) := by
  constructor
  · exact (add_zero _).symm
  · rfl
  · exact .of_eq (List.append_nil _).symm
  · exact (add_zero _).symm
  · rfl

section Runs

variable [DecidableEq Mbuf] {readable : Mbuf × ℕ → Bool} {order : ByteOrder}

theorem round_accounts {pipeline after : ExamplePipeline Mbuf} {exchange : Exchange Mbuf}
    (hafter : round readable order pipeline exchange = .ok after) :
    Accounts (exchange.arrivals order) exchange.sent exchange.unsent pipeline after := by
  have hreceived : Accounts [] [] [] pipeline { pipeline with memory := exchange.memory } :=
    { Accounts.refl pipeline with }
  unfold round at hafter
  unfold Exchange.arrivals Exchange.sent Exchange.unsent
  dsimp only at hafter
  split_ifs at hafter with hempty
  · rw [hempty, List.take_nil, List.drop_nil]
    obtain rfl := Except.ok.inj hafter
    exact hreceived
  · obtain ⟨processed, hprocessed, rfl⟩ := exists_of_map_eq_ok hafter
    have hswapped : SwappedFrom exchange.memory exchange.memory := ⟨rfl, fun _ _ _ ↦ rfl⟩
    have hsent := (hreceived.trans (burst_accounts hswapped hprocessed)).trans
      (rteEthTxBurst_accounts _ (exchange.bufs.take (min exchange.taken exchange.bufs.length)))
    have hall := hsent.trans (freeUnsent_accounts _
      (exchange.bufs.drop (min exchange.taken exchange.bufs.length)))
    simpa only [List.nil_append, List.append_nil] using hall

variable {memory : PacketMemory Mbuf} {hdrs : PacketHeaders Mbuf} {meter : MeterStats}
  {exchanges : List (Exchange Mbuf)} {after : ExamplePipeline Mbuf}

theorem afterRounds_accounts
    (hafter : afterRounds readable order memory hdrs meter exchanges = .ok after) :
    Accounts (received order exchanges) (exchanges.flatMap Exchange.sent)
      (exchanges.flatMap Exchange.unsent) (create memory hdrs meter) after := by
  refine foldlM_related (round readable order) (fun exchanges before after ↦
    Accounts (received order exchanges) (exchanges.flatMap Exchange.sent)
      (exchanges.flatMap Exchange.unsent) before after) .refl ?_ hafter
  intro exchange exchanges before middle after hfirst hrest
  simp only [received, List.flatMap_cons]
  exact (round_accounts hfirst).trans hrest

/-- What is discarded is handed over twice, and everything else once. -/
theorem handed_over
    (hafter : afterRounds readable order memory hdrs meter exchanges = .ok after) :
    (after.freed ++ after.transmitted).Perm
      ((received order exchanges).map Arrival.pkt ++
        discarded meter.bytes (received order exchanges)) := by
  have haccounts := afterRounds_accounts hafter
  have hparts := sent_append_unsent order exchanges
  have hfreed := haccounts.freed
  rw [haccounts.transmitted]
  refine (hfreed.append_right _).trans ?_
  rw [create, List.nil_append, List.append_assoc]
  have hunsent : (exchanges.flatMap Exchange.unsent ++ exchanges.flatMap Exchange.sent).Perm
      ((received order exchanges).map Arrival.pkt) := List.perm_append_comm.trans hparts
  exact (hunsent.append_left _).trans List.perm_append_comm

/-! ## Runs with a result -/

/-- The packets of a burst keep a property of the record, and none is classified through a pointer
that cannot be read. -/
def ClassifiesReadable (readable : Mbuf × ℕ → Bool) (order : ByteOrder)
    (property : PacketHeaders Mbuf → Prop) (exchange : Exchange Mbuf) : Prop :=
  ∀ pkt ∈ exchange.bufs, ∀ memory hdrs, SwappedFrom exchange.memory memory → property hdrs →
    property (extractPacketHeaders order memory pkt hdrs).1 ∧
      ((extractPacketHeaders order memory pkt hdrs).2 = true →
        ∀ header ∈ (extractPacketHeaders order memory pkt hdrs).1.consulted, readable header)

theorem processPacket_defined {property : PacketHeaders Mbuf → Prop} {exchange : Exchange Mbuf}
    (hclassifies : ClassifiesReadable readable order property exchange) {pkt : Mbuf}
    (hpkt : pkt ∈ exchange.bufs) {pipeline : ExamplePipeline Mbuf}
    (hswapped : SwappedFrom exchange.memory pipeline.memory) (hproperty : property pipeline.hdrs) :
    ∃ after, processPacket readable order pipeline pkt = .ok after ∧ property after.hdrs := by
  obtain ⟨hkept, hreadable⟩ := hclassifies pkt hpkt _ _ hswapped hproperty
  rw [accepted_eq order pkt hswapped] at hreadable
  rw [processPacket_eq hswapped]
  dsimp only
  split
  · exact ⟨_, rfl, hkept⟩
  · next haccepted =>
    rw [classifyReadable, if_pos (hreadable (by simpa using haccepted))]
    refine ⟨_, rfl, ?_⟩
    dsimp only
    split <;> exact hkept

theorem round_defined {property : PacketHeaders Mbuf → Prop} {exchange : Exchange Mbuf}
    (hclassifies : ClassifiesReadable readable order property exchange)
    {pipeline : ExamplePipeline Mbuf} (hproperty : property pipeline.hdrs) :
    ∃ after, round readable order pipeline exchange = .ok after ∧ property after.hdrs := by
  have hstart : SwappedFrom exchange.memory exchange.memory ∧ property pipeline.hdrs :=
    ⟨⟨rfl, fun _ _ _ ↦ rfl⟩, hproperty⟩
  unfold round
  dsimp only
  split
  · exact ⟨_, rfl, hproperty⟩
  · have hburst : ∃ after, exchange.bufs.foldlM (processPacket readable order)
        { pipeline with memory := exchange.memory } = .ok after ∧
          SwappedFrom exchange.memory after.memory ∧ property after.hdrs := by
      apply foldlM_defined (processPacket readable order) (fun pipeline ↦
        SwappedFrom exchange.memory pipeline.memory ∧ property pipeline.hdrs) ?_ hstart
      intro pkt hpkt pipeline ⟨hswapped, hproperty⟩
      obtain ⟨after, hafter, hkept⟩ := processPacket_defined hclassifies hpkt hswapped hproperty
      exact ⟨after, hafter, (processPacket_accounts hswapped hafter).1, hkept⟩
    obtain ⟨processed, hprocessed, -, hkept⟩ := hburst
    rw [hprocessed]
    refine ⟨_, rfl, ?_⟩
    rw [freeUnsent_hdrs]
    exact hkept

theorem afterRounds_defined (memory : PacketMemory Mbuf) (meter : MeterStats)
    (property : PacketHeaders Mbuf → Prop)
    (hclassifies : ∀ exchange ∈ exchanges, ClassifiesReadable readable order property exchange)
    (hproperty : property hdrs) :
    ∃ after, afterRounds readable order memory hdrs meter exchanges = .ok after := by
  have hstart : property (create memory hdrs meter).hdrs := hproperty
  obtain ⟨after, hafter, -⟩ := foldlM_defined (round readable order)
    (fun pipeline ↦ property pipeline.hdrs)
    (fun exchange hexchange pipeline hkept ↦ round_defined (hclassifies exchange hexchange) hkept)
    hstart
  exact ⟨after, hafter⟩

/-- The headers of the packets of a burst can be read. -/
def HeadersReadable (readable : Mbuf × ℕ → Bool) (exchange : Exchange Mbuf) : Prop :=
  ∀ pkt ∈ exchange.bufs, ∀ offset ≤ 74, readable (pkt, offset)

/-- From a record whose pointers are null or can be read the loop goes on. -/
theorem afterRounds_defined_of_readable (order : ByteOrder) (memory : PacketMemory Mbuf)
    (meter : MeterStats) (hrecord : hdrs.Readable readable)
    (hheaders : ∀ exchange ∈ exchanges, HeadersReadable readable exchange) :
    ∃ after, afterRounds readable order memory hdrs meter exchanges = .ok after := by
  refine afterRounds_defined memory meter (fun hdrs ↦ hdrs.Readable readable) ?_ hrecord
  intro exchange hexchange pkt hpkt memory hdrs _ hreadable
  have hkept := hreadable.extract order memory (hheaders exchange hexchange pkt hpkt)
  refine ⟨hkept, fun _ header hheader ↦ ?_⟩
  rcases Option.or_eq_some_iff.mp hheader with htcp | ⟨-, hudp⟩
  · exact hkept.1 header htcp
  · exact hkept.2 header hudp

/-! ## Every run -/

variable (readable order memory hdrs meter exchanges)

/-- **When the loop hands over each packet once.** The loop goes on from a record whose pointers are
null or can be read. In any run that goes on, the packets that are freed and those the device takes
are the received ones and, once more, the discarded ones. So each packet is handed over once exactly
when every one is accepted and the bytes metered up to it, from what the meter held, stay within the
quota. -/
theorem handed_over_once_iff :
    (hdrs.Readable readable → (∀ exchange ∈ exchanges, HeadersReadable readable exchange) →
      ∃ after, afterRounds readable order memory hdrs meter exchanges = .ok after) ∧
    ∀ after, afterRounds readable order memory hdrs meter exchanges = .ok after →
      (after.freed ++ after.transmitted).Perm
        ((received order exchanges).map Arrival.pkt ++
          discarded meter.bytes (received order exchanges)) ∧
      ((after.freed ++ after.transmitted).Perm ((received order exchanges).map Arrival.pkt) ↔
        ∀ before arrival, before ++ [arrival] <+: received order exchanges →
          arrival.accepted = true ∧
            (meter.bytes.toNat + tally Arrival.metered (before ++ [arrival])) % 2 ^ 64 ≤
              1000000) := by
  refine ⟨afterRounds_defined_of_readable order memory meter, fun after hafter ↦ ?_⟩
  have hover := handed_over hafter
  refine ⟨hover, ?_⟩
  rw [← discarded_eq_nil_iff]
  constructor
  · intro honce
    have hlength := (hover.symm.trans honce).length_eq
    rw [List.length_append] at hlength
    exact List.length_eq_zero_iff.mp (by omega)
  · intro hnone
    rwa [hnone, List.append_nil] at hover

/-- **What the statistics count.** The loop goes on from a record whose pointers are null or can be
read. In any run that goes on, the errors and the drops are the packets freed, modulo the width of the
counters. A packet the device does not take is counted as sent and as dropped, so the statistics add
up to the packets received only when it takes them all, or a multiple of `2 ^ 64` too few. -/
theorem statistics_balanced_iff :
    (hdrs.Readable readable → (∀ exchange ∈ exchanges, HeadersReadable readable exchange) →
      ∃ after, afterRounds readable order memory hdrs meter exchanges = .ok after) ∧
    ∀ after, afterRounds readable order memory hdrs meter exchanges = .ok after →
      after.stats.errors + after.stats.droppedPackets = wrap64 after.freed.length ∧
      (after.stats.errors + after.stats.droppedPackets + after.stats.txPackets =
          wrap64 (received order exchanges).length ↔
        ((received order exchanges).length - after.transmitted.length) % 2 ^ 64 = 0) := by
  refine ⟨afterRounds_defined_of_readable order memory meter, fun after hafter ↦ ?_⟩
  have haccounts := afterRounds_accounts hafter
  have hlost : after.stats.errors + after.stats.droppedPackets =
      wrap64 ((discarded meter.bytes (received order exchanges)).length +
        (exchanges.flatMap Exchange.unsent).length) := haccounts.lost.trans (zero_add _)
  have hcounted : after.stats.txPackets +
      wrap64 (discarded meter.bytes (received order exchanges)).length =
        wrap64 (received order exchanges).length := haccounts.counted.trans (zero_add _)
  have hfreed : after.freed.length =
      (discarded meter.bytes (received order exchanges)).length +
        (exchanges.flatMap Exchange.unsent).length := by
    rw [haccounts.freed.length_eq, List.length_append, List.length_append]
    exact Nat.zero_add _
  have hunsent : (received order exchanges).length - after.transmitted.length =
      (exchanges.flatMap Exchange.unsent).length := by
    have hparts := (sent_append_unsent order exchanges).length_eq
    rw [List.length_append, List.length_map] at hparts
    rw [haccounts.transmitted, create, List.nil_append]
    omega
  refine ⟨by rw [hlost, hfreed], ?_⟩
  have htotal : after.stats.errors + after.stats.droppedPackets + after.stats.txPackets =
      wrap64 (received order exchanges).length +
        wrap64 (exchanges.flatMap Exchange.unsent).length := by
    rw [hlost, ← hcounted, map_add]
    ac_rfl
  rw [htotal, hunsent, ← wrap64_eq_zero_iff, add_eq_left]

/-- **Frames on a host of the other byte order.** Whatever the record held, the loop goes on. Every
frame received is freed and still sent. None is metered, and none is counted as sent. -/
theorem frames_handed_over_twice
    (hframes : ∀ exchange ∈ exchanges, ∀ pkt ∈ exchange.bufs, ∃ frame : Frame,
      exchange.memory.Holds pkt frame.render) :
    ∃ after, afterRounds readable .reversed memory hdrs meter exchanges = .ok after ∧
      (after.freed ++ after.transmitted).Perm
        ((received .reversed exchanges).map Arrival.pkt ++
          (received .reversed exchanges).map Arrival.pkt) ∧
      after.meter.bytes = meter.bytes ∧
      after.stats.txPackets = 0 := by
  have hnone : ∀ exchange ∈ exchanges, ∀ pkt ∈ exchange.bufs,
      (exchange.memory.arrival .reversed pkt).accepted = false := by
    intro exchange hexchange pkt hpkt
    obtain ⟨frame, hholds⟩ := hframes exchange hexchange pkt hpkt
    rw [PacketMemory.arrival, extract_frame .reversed hholds .cleared]
  have hrejected : ∀ arrival ∈ received .reversed exchanges, arrival.accepted = false := by
    intro arrival harrival
    obtain ⟨exchange, hexchange, harrival⟩ := List.mem_flatMap.mp harrival
    obtain ⟨pkt, hpkt, rfl⟩ := List.mem_map.mp harrival
    exact hnone exchange hexchange pkt hpkt
  obtain ⟨after, hafter⟩ : ∃ after,
      afterRounds readable .reversed memory hdrs meter exchanges = .ok after := by
    refine afterRounds_defined memory meter (fun _ ↦ True) ?_ trivial
    intro exchange hexchange pkt hpkt swapped hdrs hswapped _
    rw [accepted_eq .reversed pkt hswapped, hnone exchange hexchange pkt hpkt]
    exact ⟨trivial, fun h ↦ (by cases h)⟩
  obtain ⟨hdiscarded, hmetered⟩ := discarded_of_rejected meter.bytes hrejected
  have hover := handed_over hafter
  have haccounts := afterRounds_accounts hafter
  have hbytes := haccounts.bytes
  have hcounted := haccounts.counted
  rw [hdiscarded] at hover
  refine ⟨after, hafter, hover, ?_, ?_⟩
  · rw [hbytes, hmetered, map_zero, add_zero]
    rfl
  · have hall : (discarded (create memory hdrs meter).meter.bytes
        (received .reversed exchanges)).length = (received .reversed exchanges).length := by
      rw [show (create memory hdrs meter).meter.bytes = meter.bytes from rfl, hdiscarded,
        List.length_map]
    rw [hall] at hcounted
    exact add_right_cancel hcounted

end Runs

end ExamplePipeline

/-- A round in which the segment is received and taken. -/
def segmentExchange : Exchange Unit where
  bufs := [()]
  length_le := by decide
  memory := memoryOf fun _ ↦ segment
  taken := 1

theorem segment_handed_over_once :
    ∃ after, ExamplePipeline.afterRounds (fun _ ↦ true) .network (memoryOf fun _ ↦ segment)
        .cleared ⟨0, 0⟩ [segmentExchange] = .ok after ∧
      (after.freed ++ after.transmitted).Perm [()] := by
  obtain ⟨hdefined, hledger⟩ := ExamplePipeline.handed_over_once_iff (fun _ ↦ true) .network
    (memoryOf fun _ ↦ segment) .cleared ⟨0, 0⟩ [segmentExchange]
  obtain ⟨after, hafter⟩ := hdefined ⟨fun _ _ ↦ rfl, fun _ _ ↦ rfl⟩ fun _ _ _ _ _ _ ↦ rfl
  exact ⟨after, hafter, (hledger after hafter).1⟩

theorem segment_counted :
    ∃ after, ExamplePipeline.afterRounds (fun _ ↦ true) .network (memoryOf fun _ ↦ segment)
        .cleared ⟨0, 0⟩ [segmentExchange] = .ok after ∧
      after.stats.errors + after.stats.droppedPackets = wrap64 after.freed.length := by
  obtain ⟨hdefined, hcounts⟩ := ExamplePipeline.statistics_balanced_iff (fun _ ↦ true) .network
    (memoryOf fun _ ↦ segment) .cleared ⟨0, 0⟩ [segmentExchange]
  obtain ⟨after, hafter⟩ := hdefined ⟨fun _ _ ↦ rfl, fun _ _ ↦ rfl⟩ fun _ _ _ _ _ _ ↦ rfl
  exact ⟨after, hafter, (hcounts after hafter).1⟩

theorem segment_handed_over_twice :
    ∃ after, ExamplePipeline.afterRounds (fun _ ↦ false) .reversed (memoryOf fun _ ↦ segment)
        .cleared ⟨0, 0⟩ [segmentExchange] = .ok after ∧
      (after.freed ++ after.transmitted).Perm [(), ()] := by
  obtain ⟨after, hafter, hover, -⟩ := ExamplePipeline.frames_handed_over_twice (fun _ ↦ false)
    (memoryOf fun _ ↦ segment) .cleared ⟨0, 0⟩ [segmentExchange] (by
      intro exchange hexchange pkt _
      obtain rfl := List.mem_singleton.mp hexchange
      exact ⟨segment, holds_memoryOf (fun _ ↦ segment) pkt⟩)
  exact ⟨after, hafter, hover⟩

end VirtualServiceGateway.Dpdk
