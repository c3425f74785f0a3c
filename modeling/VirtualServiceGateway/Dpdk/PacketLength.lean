import VirtualServiceGateway.Dpdk.BatchSafety
import VirtualServiceGateway.Dpdk.MempoolManager
import VirtualServiceGateway.Dpdk.PipelineAccounting

/-!
# The length of a packet on its way to the metadata

A packet length has 32 bits in the mbuf and in the metadata. On allocation it is also stored as the
16-bit length of the data, and in processing it goes through a 16-bit variable, while the worker
counts all 32 bits. So the lengths agree exactly for packets below `2 ^ 16` bytes.
-/

namespace VirtualServiceGateway.Dpdk

open CheckedOperation GuardedSequence Execution

variable {Mbuf Storage Pool Rest : Type*}

/-! ## Allocation -/

/-- Allocate a packet from the pool of the node, and set its lengths for a size other than zero. -/
def MempoolManager.allocPkt (manager : MempoolManager Pool)
    (rtePktmbufAlloc : Pool → Option (RteMbuf Storage)) (numaNode size : UInt32) :
    Option (RteMbuf Storage) :=
  match manager.getMempool numaNode with
  | none => none
  | some pool =>
      (rtePktmbufAlloc pool).map fun mbuf ↦
        if 0 < size then { mbuf with dataLen := size.toUInt16, pktLen := size } else mbuf

/-- Both lengths of the packet are the size. -/
def RteMbuf.HasLength (mbuf : RteMbuf Storage) (size : UInt32) : Prop :=
  mbuf.dataLen.toNat = size.toNat ∧ mbuf.pktLen = size

/-- An allocated packet has the size exactly when the data length can hold it. -/
theorem hasLength_allocPkt_iff {manager : MempoolManager Pool}
    {rtePktmbufAlloc : Pool → Option (RteMbuf Storage)} {numaNode size : UInt32}
    {mbuf : RteMbuf Storage} (hsize : 0 < size)
    (halloc : manager.allocPkt rtePktmbufAlloc numaNode size = some mbuf) :
    mbuf.HasLength size ↔ size.toNat < 2 ^ 16 := by
  unfold MempoolManager.allocPkt at halloc
  cases hpool : manager.getMempool numaNode with
  | none =>
    rw [hpool] at halloc
    cases halloc
  | some pool =>
    simp only [hpool, if_pos hsize] at halloc
    obtain ⟨fresh, -, rfl⟩ := Option.map_eq_some_iff.mp halloc
    unfold RteMbuf.HasLength
    rw [toNat_toUInt16_eq_iff]
    exact and_iff_left rfl

/-! ## Metadata of a batch -/

/-- User data points to storage of the packet's own. -/
structure PrivateUserdata (mbufs : Mbuf → RteMbuf Storage) : Prop where
  points : ∀ pkt, (mbufs pkt).userdata ≠ none
  apart : Function.Injective fun pkt ↦ (mbufs pkt).userdata

/-- The packet bytes that an extraction from the packet finds. -/
def extractedBytes (mbufs : Mbuf → RteMbuf Storage) (contents : Storage → PacketMetadata)
    (prior : PacketMetadata) (pkt : Mbuf) : Option UInt32 :=
  (extractMetadata mbufs contents (some pkt) (some prior)).map PacketMetadata.packetBytes

/-- What a construction stores is the metadata of its own packet. -/
def BatchAccess.Faithful (mbufs : Mbuf → RteMbuf Storage) : BatchAccess Mbuf Storage → Prop
  | .construct pkt storage metadata =>
      storage = (mbufs pkt).userdata ∧
        metadata.packetBytes = (mbufs pkt).pktLen.toUInt16.toUInt32
  | _ => True

section Batch

variable (mbufs : Mbuf → RteMbuf Storage) (rdtsc : ℕ → UInt64) (pkts : ℕ → Option Mbuf)
  (count : UInt16)

theorem faithful_batchScript :
    ∀ event ∈ batchScript mbufs rdtsc pkts count, event.Faithful mbufs := by
  apply forall_batchScript
  · intro index
    trivial
  · intro index _
    simp [prefetchScript, BatchAccess.Faithful]
  · intro index _
    cases pkts index with
    | none => exact fun event hevent ↦ absurd hevent List.not_mem_nil
    | some pkt => simp [singleScript, BatchAccess.Faithful, RteMbuf.metadata]

variable [DecidableEq Storage] {mbufs rdtsc pkts count}

/-- After the batch, the storage of each of its packets holds the packet's length as a 16-bit
variable keeps it. -/
theorem packetBytes_metadataAfter (hprivate : PrivateUserdata mbufs) {index : ℕ}
    (hindex : index < count.toNat) {pkt : Mbuf} (hpkt : pkts index = some pkt) {storage : Storage}
    (hstorage : (mbufs pkt).userdata = some storage) (contents : Storage → PacketMetadata) :
    (metadataAfter contents (batchScript mbufs rdtsc pkts count) storage).packetBytes =
      (mbufs pkt).pktLen.toUInt16.toUInt32 := by
  apply run_established fun contents : Storage → PacketMetadata ↦
    (contents storage).packetBytes = (mbufs pkt).pktLen.toUInt16.toUInt32
  · refine ⟨.construct pkt (some storage) ((mbufs pkt).metadata (rdtsc index)), ?_, ?_⟩
    · apply entryScript_subset mbufs rdtsc pkts count hindex
      simp [entryScript, singleScript, hpkt, hstorage]
    · intro contents
      simp only [storeAccess, Function.update_self]
      rfl
  · intro event hevent contents hkept
    have hfaithful := faithful_batchScript mbufs rdtsc pkts count event hevent
    cases event with
    | construct other place metadata =>
      obtain ⟨hplace, hbytes⟩ := hfaithful
      cases place with
      | none => exact hkept
      | some place =>
        by_cases hsame : storage = place
        · have hother : other = pkt := by
            apply hprivate.apart
            change (mbufs other).userdata = (mbufs pkt).userdata
            rw [hstorage, hsame, hplace]
          rw [← hother, ← hbytes, storeAccess, hsame, Function.update_self]
        · rw [storeAccess, Function.update_of_ne hsame]
          exact hkept
    | _ => exact hkept

/-- An extraction from a packet of the batch finds what a 16-bit variable keeps of its length. -/
theorem extractedBytes_of_mem (hprivate : PrivateUserdata mbufs) {packets : List Mbuf}
    (hcount : packets.length = count.toNat) {pkt : Mbuf} (hpkt : pkt ∈ packets)
    (contents : Storage → PacketMetadata) (prior : PacketMetadata) :
    extractedBytes mbufs
        (metadataAfter contents (batchScript mbufs rdtsc (packets[·]?) count)) prior pkt =
      some (mbufs pkt).pktLen.toUInt16.toUInt32 := by
  obtain ⟨storage, hstorage⟩ := Option.ne_none_iff_exists'.mp (hprivate.points pkt)
  obtain ⟨index, hindex, hentry⟩ := List.getElem_of_mem hpkt
  have hfound : packets[index]? = some pkt := List.getElem?_eq_some_iff.mpr ⟨hindex, hentry⟩
  have hbytes : (metadataAfter contents (batchScript mbufs rdtsc (packets[·]?) count)
      storage).packetBytes = (mbufs pkt).pktLen.toUInt16.toUInt32 :=
    packetBytes_metadataAfter hprivate (hcount ▸ hindex) hfound hstorage contents
  simp only [extractedBytes, extractMetadata, hstorage, Option.map_some, hbytes]

end Batch

/-- The extractions from the packets find their lengths, and the bytes that the worker counts for
the packets are the sum of what they find. -/
structure KeepsLengths (mbufs : Mbuf → RteMbuf Storage) (contents : Storage → PacketMetadata)
    (pipeline : WorkerPipeline Mbuf Rest) (packets : List Mbuf) (count : UInt16) : Prop where
  extracted : ∀ prior, ∀ pkt ∈ packets,
    extractedBytes mbufs contents prior pkt = some (mbufs pkt).pktLen
  received : ∀ prior, (pipeline.countReceived packets count).stats.rxBytes =
    packets.foldl
      (fun bytes pkt ↦ bytes + ((extractedBytes mbufs contents prior pkt).getD 0).toUInt64)
      pipeline.stats.rxBytes

/-- Where the extractions find the lengths, the worker counts what they find. -/
theorem keepsLengths_iff {mbufs : Mbuf → RteMbuf Storage} {contents : Storage → PacketMetadata}
    {pipeline : WorkerPipeline Mbuf Rest}
    (hlengths : pipeline.memory.pktLen = fun pkt ↦ (mbufs pkt).pktLen) (packets : List Mbuf)
    (count : UInt16) :
    KeepsLengths mbufs contents pipeline packets count ↔ ∀ prior, ∀ pkt ∈ packets,
      extractedBytes mbufs contents prior pkt = some (mbufs pkt).pktLen := by
  refine ⟨KeepsLengths.extracted, fun hextracted ↦ ⟨hextracted, fun prior ↦ ?_⟩⟩
  simp only [WorkerPipeline.countReceived, hlengths]
  apply List.foldl_ext
  intro bytes pkt hpkt
  rw [hextracted prior pkt hpkt, Option.getD_some]

section Processed

variable {mbufs : Mbuf → RteMbuf Storage} {rdtsc : ℕ → UInt64} {packets : List Mbuf}
  {count : UInt16}

/-- A batch of packets with user data of their own is processed to its end. -/
theorem processBatch_packets (hprivate : PrivateUserdata mbufs)
    (hcount : packets.length = count.toNat) :
    processBatch mbufs rdtsc (packets[·]?) count [] =
      some (true, batchScript mbufs rdtsc (packets[·]?) count) := by
  rw [processBatch_defined_iff, forall_defined_iff]
  refine ⟨fun index hindex ↦ ?_, rfl⟩
  rw [← hcount] at hindex
  exact ⟨packets[index], List.getElem?_eq_getElem hindex, hprivate.points _⟩

/-- The metadata of a batch keeps the lengths exactly when all of them fit into 16 bits. -/
theorem keepsLengths_batch_iff [DecidableEq Storage] (hprivate : PrivateUserdata mbufs)
    {contents : Storage → PacketMetadata} (hcount : packets.length = count.toNat)
    {pipeline : WorkerPipeline Mbuf Rest}
    (hlengths : pipeline.memory.pktLen = fun pkt ↦ (mbufs pkt).pktLen)
    {trace : List (BatchAccess Mbuf Storage)}
    (hbatch : processBatch mbufs rdtsc (packets[·]?) count [] = some (true, trace)) :
    KeepsLengths mbufs (metadataAfter contents trace) pipeline packets count ↔
      ∀ pkt ∈ packets, (mbufs pkt).pktLen.toNat < 2 ^ 16 := by
  obtain ⟨-, rfl⟩ := (processBatch_defined_iff mbufs rdtsc (packets[·]?) count trace).mp hbatch
  rw [keepsLengths_iff hlengths]
  have hfound (prior : PacketMetadata) (pkt : Mbuf) (hpkt : pkt ∈ packets) :
      extractedBytes mbufs (metadataAfter contents
          (batchScript mbufs rdtsc (packets[·]?) count)) prior pkt = some (mbufs pkt).pktLen ↔
        (mbufs pkt).pktLen.toNat < 2 ^ 16 := by
    rw [extractedBytes_of_mem hprivate hcount hpkt, Option.some.injEq]
    exact toUInt32_toUInt16_eq_iff _
  constructor
  · intro hextracted pkt hpkt
    exact (hfound .zero pkt hpkt).mp (hextracted .zero pkt hpkt)
  · intro hshort prior pkt hpkt
    exact (hfound prior pkt hpkt).mpr (hshort pkt hpkt)

end Processed

/-- **Packet lengths.** An allocated packet has the size in both its lengths if and only if the size
is below `2 ^ 16`. Every batch of packets with user data of their own is processed to its end, and
its metadata has the lengths of the packets, as the worker counts them, if and only if all of them
are below `2 ^ 16`. -/
theorem packetLength_kept_iff [DecidableEq Storage] (manager : MempoolManager Pool)
    (rtePktmbufAlloc : Pool → Option (RteMbuf Storage)) (numaNode size : UInt32)
    (mbuf : RteMbuf Storage) (mbufs : Mbuf → RteMbuf Storage) (rdtsc : ℕ → UInt64)
    (contents : Storage → PacketMetadata) (packets : List Mbuf) (count : UInt16)
    (pipeline : WorkerPipeline Mbuf Rest) :
    (0 < size → manager.allocPkt rtePktmbufAlloc numaNode size = some mbuf →
      (mbuf.HasLength size ↔ size.toNat < 2 ^ 16)) ∧
    (PrivateUserdata mbufs → packets.length = count.toNat →
      pipeline.memory.pktLen = (fun pkt ↦ (mbufs pkt).pktLen) →
      ∃ trace, processBatch mbufs rdtsc (packets[·]?) count [] = some (true, trace) ∧
        (KeepsLengths mbufs (metadataAfter contents trace) pipeline packets count ↔
          ∀ pkt ∈ packets, (mbufs pkt).pktLen.toNat < 2 ^ 16)) := by
  refine ⟨hasLength_allocPkt_iff, fun hprivate hcount hlengths ↦ ?_⟩
  have hbatch : processBatch mbufs rdtsc (packets[·]?) count [] =
      some (true, batchScript mbufs rdtsc (packets[·]?) count) :=
    processBatch_packets hprivate hcount
  exact ⟨_, hbatch, keepsLengths_batch_iff hprivate hcount hlengths hbatch⟩

/-- A packet of 64 bytes is allocated, and two packets of 100 bytes are processed. -/
theorem packetLength_kept_short :
    let mbufs : ℕ → RteMbuf ℕ := fun pkt ↦ ⟨100, 100, some pkt⟩
    let pipeline : WorkerPipeline ℕ Unit := .create ⟨0, [0]⟩ [] ⟨fun _ ↦ 100, ()⟩
    (RteMbuf.mk 64 64 (some 0)).HasLength 64 ∧
    ∃ trace, processBatch mbufs (fun _ ↦ 0) ([0, 1][·]?) 2 [] = some (true, trace) ∧
      KeepsLengths mbufs (metadataAfter (fun _ ↦ .zero) trace) pipeline [0, 1] 2 := by
  intro mbufs pipeline
  have hprivate : PrivateUserdata mbufs :=
    ⟨fun pkt ↦ Option.some_ne_none pkt, Option.some_injective ℕ⟩
  let manager : MempoolManager Unit := ⟨[some ()], 256, by decide⟩
  have halloc : manager.allocPkt (fun _ ↦ some ⟨0, 0, some 0⟩) 0 64 =
      some ⟨64, 64, some 0⟩ := rfl
  have hshort : (100 : UInt32).toNat < 2 ^ 16 := by decide
  obtain ⟨hallocated, hprocessed⟩ := packetLength_kept_iff manager
    (fun _ ↦ some ⟨0, 0, some 0⟩) 0 64 ⟨64, 64, some 0⟩ mbufs (fun _ ↦ 0) (fun _ ↦ .zero) [0, 1] 2
    pipeline
  obtain ⟨trace, hbatch, hkept⟩ := hprocessed hprivate rfl rfl
  exact ⟨(hallocated (by decide) halloc).mpr (by decide), trace, hbatch,
    hkept.mpr fun _ _ ↦ hshort⟩

/-- A packet of 65536 bytes is allocated with a data length of zero. A packet of 65636 bytes is
processed to metadata of 100 bytes, while the worker counts 65636. -/
theorem long_packet_narrowed :
    let manager : MempoolManager Unit := ⟨[some ()], 256, by decide⟩
    let mbufs : ℕ → RteMbuf ℕ := fun pkt ↦ ⟨100, 65636, some pkt⟩
    let pipeline : WorkerPipeline ℕ Unit := .create ⟨0, [0]⟩ [] ⟨fun _ ↦ 65636, ()⟩
    manager.allocPkt (fun _ ↦ some ⟨0, 0, some 0⟩) 0 65536 = some ⟨0, 65536, some 0⟩ ∧
    ¬(RteMbuf.mk 0 65536 (some 0)).HasLength 65536 ∧
    ((processBatch mbufs (fun _ ↦ 0) ([0][·]?) 1 []).map fun outcome ↦
      extractedBytes mbufs (metadataAfter (fun _ ↦ .zero) outcome.2) .zero 0) =
        some (some 100) ∧
    (pipeline.countReceived [0] 1).stats.rxBytes = 65636 ∧
    ∀ trace, processBatch mbufs (fun _ ↦ 0) ([0][·]?) 1 [] = some (true, trace) →
      ¬KeepsLengths mbufs (metadataAfter (fun _ ↦ .zero) trace) pipeline [0] 1 := by
  intro manager mbufs pipeline
  refine ⟨rfl, fun hlength ↦ absurd hlength.1 (by decide), by decide +kernel, by decide, ?_⟩
  intro trace hbatch hkept
  have hprivate : PrivateUserdata mbufs :=
    ⟨fun pkt ↦ Option.some_ne_none pkt, Option.some_injective ℕ⟩
  have hshort := (keepsLengths_batch_iff hprivate (show [0].length = (1 : UInt16).toNat from rfl)
    (show pipeline.memory.pktLen = fun pkt ↦ (mbufs pkt).pktLen from rfl) hbatch).mp hkept 0
    (List.mem_singleton_self 0)
  exact absurd hshort (by decide)

end VirtualServiceGateway.Dpdk
