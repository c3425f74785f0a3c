import VirtualServiceGateway.Dpdk.PacketHeaders

/-!
# Classifying a burst of packets

The headers of all packets of a burst are found in one record. The pointers that one packet leaves
there are still there for the next ones, so from the first TCP packet on every packet has the class of
the last TCP packet up to it, a UDP packet among them. What the record points to before the burst is
null or can be read.
-/

namespace VirtualServiceGateway.Dpdk

variable {Mbuf : Type*}

section Burst

variable (order : ByteOrder) (memory : PacketMemory Mbuf)

/-- The class of each packet of a burst, if it is accepted, from what the record of headers holds. -/
def processBurstOptimized (hdrs : PacketHeaders Mbuf) : List Mbuf → List (Option PacketClass)
  | [] => []
  | pkt :: bufs =>
      let (hdrs, accepted) := extractPacketHeaders order memory pkt hdrs
      (if accepted then some (classifyPacket order memory hdrs) else none) ::
        processBurstOptimized hdrs bufs

end Burst

/-- The ports of a frame with a TCP header. -/
def Frame.tcpPorts (frame : Frame) : Option (UInt16 × UInt16) :=
  match frame.transport with
  | .tcp _ _ _ _ => frame.transport.ports
  | _ => none

/-- The ports of a frame with a UDP header. -/
def Frame.udpPorts (frame : Frame) : Option (UInt16 × UInt16) :=
  match frame.transport with
  | .udp _ _ => frame.transport.ports
  | _ => none

/-- The ports at the last header of a kind in the frames, or those the record held before them. -/
def lastPorts (ports : Frame → Option (UInt16 × UInt16)) (held : Option (UInt16 × UInt16))
    (frames : List Frame) : Option (UInt16 × UInt16) :=
  (frames.filterMap ports).getLast?.or held

/-- The class by the last TCP header, or by the last UDP header if there is none. -/
def classOfFrames (heldTcp heldUdp : Option (UInt16 × UInt16)) (frames : List Frame) :
    PacketClass :=
  match (lastPorts Frame.tcpPorts heldTcp frames).or (lastPorts Frame.udpPorts heldUdp frames) with
  | some (sport, dport) => classOfPorts sport dport
  | none => .other

/-- The pointers of the record lead to the ports of the last headers. -/
structure PointsTo (order : ByteOrder) (memory : PacketMemory Mbuf)
    (heldTcp heldUdp : Option (UInt16 × UInt16)) (hdrs : PacketHeaders Mbuf)
    (frames : List Frame) : Prop where
  tcp : hdrs.tcp.map (portsAt order memory) = lastPorts Frame.tcpPorts heldTcp frames
  udp : hdrs.udp.map (portsAt order memory) = lastPorts Frame.udpPorts heldUdp frames

section Frames

variable {order : ByteOrder} {memory : PacketMemory Mbuf} {hdrs : PacketHeaders Mbuf}
  {heldTcp heldUdp : Option (UInt16 × UInt16)} {frames : List Frame}

theorem classifyPacket_eq (hpoints : PointsTo order memory heldTcp heldUdp hdrs frames) :
    classifyPacket order memory hdrs = classOfFrames heldTcp heldUdp frames := by
  unfold classOfFrames
  rw [← hpoints.tcp, ← hpoints.udp]
  unfold classifyPacket
  cases hdrs.tcp <;> cases hdrs.udp <;> rfl

/-- A new header leads to its own ports, and the pointer to the last one stays otherwise. -/
theorem lastPorts_concat (ports : Frame → Option (UInt16 × UInt16))
    (held : Option (UInt16 × UInt16)) (frames : List Frame) (frame : Frame) :
    lastPorts ports held (frames ++ [frame]) = (ports frame).or (lastPorts ports held frames) := by
  rw [lastPorts, List.filterMap_append, List.getLast?_append]
  cases hports : ports frame <;> simp [hports, lastPorts]

theorem PointsTo.extract (hpoints : PointsTo .network memory heldTcp heldUdp hdrs frames) {pkt : Mbuf}
    {frame : Frame} (hholds : memory.Holds pkt frame.render) :
    PointsTo .network memory heldTcp heldUdp
      (extractPacketHeaders .network memory pkt hdrs).1 (frames ++ [frame]) := by
  obtain ⟨htcp, hudp⟩ := hpoints
  rw [extract_frame .network hholds hdrs]
  constructor
  · rw [lastPorts_concat, ← htcp]
    unfold Frame.withTransport Frame.tcpPorts
    cases htransport : frame.transport with
    | tcp front flags options options_fit =>
      have hports := portsAt_frame .network hholds (by rw [htransport]; rfl)
      exact congrArg some hports
    | udp | other => simp
  · rw [lastPorts_concat, ← hudp]
    unfold Frame.withTransport Frame.udpPorts
    cases htransport : frame.transport with
    | udp front checksum =>
      have hports := portsAt_frame .network hholds (by rw [htransport]; rfl)
      exact congrArg some hports
    | tcp | other => simp

theorem processBurst_network (hpoints : PointsTo .network memory heldTcp heldUdp hdrs frames) {bufs : List Mbuf}
    {frameOf : Mbuf → Frame} (hholds : ∀ pkt ∈ bufs, memory.Holds pkt (frameOf pkt).render)
    {i : ℕ} (hi : i < bufs.length) :
    (processBurstOptimized .network memory hdrs bufs)[i]? =
      some (some (classOfFrames heldTcp heldUdp (frames ++ (bufs.take (i + 1)).map frameOf))) := by
  induction bufs generalizing hdrs frames i with
  | nil => cases hi
  | cons pkt bufs ih =>
    have hfirst := hholds pkt List.mem_cons_self
    have hnext := hpoints.extract hfirst
    have haccepted : (extractPacketHeaders .network memory pkt hdrs).2 = true := by
      rw [extract_frame .network hfirst hdrs]
    cases i with
    | zero =>
      simp only [processBurstOptimized, haccepted, if_true, List.getElem?_cons_zero,
        classifyPacket_eq hnext, List.take_succ_cons, List.take_zero, List.map_cons, List.map_nil]
    | succ i =>
      have hrest := ih hnext (fun other hother ↦ hholds other (List.mem_cons_of_mem _ hother))
        (Nat.lt_of_succ_lt_succ hi)
      simp only [processBurstOptimized, List.getElem?_cons_succ, hrest, List.append_assoc,
        List.take_succ_cons, List.map_cons, List.singleton_append]

/-- No frame is accepted in the other byte order, so none is classified. -/
theorem processBurst_reversed {bufs : List Mbuf} {frameOf : Mbuf → Frame}
    (hholds : ∀ pkt ∈ bufs, memory.Holds pkt (frameOf pkt).render) (hdrs : PacketHeaders Mbuf) :
    processBurstOptimized .reversed memory hdrs bufs = bufs.map fun _ ↦ none := by
  induction bufs generalizing hdrs with
  | nil => rfl
  | cons pkt bufs ih =>
    have hrejected : (extractPacketHeaders .reversed memory pkt hdrs).2 = false := by
      rw [extract_frame .reversed (hholds pkt List.mem_cons_self) hdrs]
    simp only [processBurstOptimized, hrejected, List.map_cons]
    rw [ih fun other hother ↦ hholds other (List.mem_cons_of_mem _ hother)]
    rfl

/-- **A burst of frames is classified by what came before.** On a host of the network's byte order
every frame is accepted, and its class is that of the last TCP frame up to it, then of a TCP pointer
left in the record, then of the last UDP frame; a pointer left there is null or can be read. On a host
of the other order none is accepted. -/
theorem burst_of_frames {bufs : List Mbuf} {frameOf : Mbuf → Frame}
    (hholds : ∀ pkt ∈ bufs, memory.Holds pkt (frameOf pkt).render) (hdrs : PacketHeaders Mbuf) :
    (∀ i < bufs.length, (processBurstOptimized .network memory hdrs bufs)[i]? =
      some (some (classOfFrames (hdrs.tcp.map (portsAt .network memory))
        (hdrs.udp.map (portsAt .network memory)) ((bufs.take (i + 1)).map frameOf)))) ∧
    processBurstOptimized .reversed memory hdrs bufs = bufs.map fun _ ↦ none := by
  refine ⟨fun i hi ↦ ?_, processBurst_reversed hholds hdrs⟩
  have hpoints : PointsTo .network memory (hdrs.tcp.map (portsAt .network memory))
      (hdrs.udp.map (portsAt .network memory)) hdrs [] := ⟨rfl, rfl⟩
  exact processBurst_network hpoints hholds hi

end Frames

/-- A DNS request over IPv6. -/
def datagram : Frame where
  addresses := Vector.replicate 12 2
  network := .ipv6 (Vector.replicate 6 0) (Vector.replicate 33 9)
  transport := .udp #v[192, 1, 0, 53] (Vector.replicate 2 0)
  payload := [1, 2]
  payload_fits := by decide

/-- Behind the segment the request counts as HTTPS. -/
theorem datagram_behind_segment :
    (processBurstOptimized .network (memoryOf fun second ↦ if second then datagram else segment)
      .cleared [false, true])[1]? = some (some .https) := by
  have hholds : ∀ pkt ∈ [false, true],
      (memoryOf fun second ↦ if second then datagram else segment).Holds pkt
        (if pkt then datagram else segment).render :=
    fun pkt _ ↦ holds_memoryOf _ pkt
  rw [(burst_of_frames hholds .cleared).1 1 (by decide)]
  rfl

end VirtualServiceGateway.Dpdk
