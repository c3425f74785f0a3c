import VirtualServiceGateway.Dpdk.BurstClassification

/-!
# The hash of a flow

The hash that spreads flows over workers is computed from the headers in a record. A record may still
lead to headers of an earlier packet, through pointers that are null or can be read. So the hash is kept together for the packets of a flow, whatever
their records held, exactly when they carry TCP over IPv4. The two directions of such a flow differ in
their hash unless their ports are equal.
-/

namespace VirtualServiceGateway.Dpdk

variable {Mbuf : Type*}

/-! ## The hash -/

/-- Two ports in one word. -/
def portsWord (ports : UInt16 × UInt16) : UInt32 :=
  (ports.1.toUInt32 <<< 16) ||| ports.2.toUInt32

section Hash

variable (order : ByteOrder) (memory : PacketMemory Mbuf)

/-- The source and destination address at an IPv4 header. -/
def addressesAt (header : Mbuf × ℕ) : UInt32 × UInt32 :=
  (order.load32 memory header.1 (header.2 + 12), order.load32 memory header.1 (header.2 + 16))

def computeFlowHash (hdrs : PacketHeaders Mbuf) : UInt32 :=
  let hash := match hdrs.ipv4 with
    | some header => (addressesAt order memory header).1 ^^^ (addressesAt order memory header).2
    | none => 0
  match hdrs.tcp, hdrs.udp with
  | some header, _ => hash ^^^ portsWord (portsAt order memory header)
  | none, some header => hash ^^^ portsWord (portsAt order memory header)
  | none, none => hash

end Hash

/-! ## Frames -/

/-- The hash from what was found of each header. -/
def hashOf (addresses : Option (UInt32 × UInt32)) (ports : Option (UInt16 × UInt16)) : UInt32 :=
  ((addresses.map fun found ↦ found.1 ^^^ found.2).getD 0) ^^^ ((ports.map portsWord).getD 0)

section Reading

variable {memory : PacketMemory Mbuf} {pkt : Mbuf} {frame : Frame}

theorem computeFlowHash_eq (order : ByteOrder) (hdrs : PacketHeaders Mbuf) :
    computeFlowHash order memory hdrs = hashOf (hdrs.ipv4.map (addressesAt order memory))
      ((hdrs.tcp.map (portsAt order memory)).or (hdrs.udp.map (portsAt order memory))) := by
  unfold computeFlowHash hashOf
  cases hdrs.ipv4 <;> cases hdrs.tcp <;> cases hdrs.udp <;> simp

/-- The addresses are read at the network header. -/
theorem addressesAt_frame (hholds : memory.Holds pkt frame.render) {addresses : UInt32 × UInt32}
    (haddresses : frame.network.addresses = some addresses) :
    addressesAt .network memory (pkt, 14) = addresses := by
  cases hnetwork : frame.network with
  | ipv6 =>
    rw [hnetwork] at haddresses
    cases haddresses
  | ipv4 service route options options_fit =>
    rw [hnetwork] at haddresses
    obtain rfl := Option.some.inj haddresses
    have hbyte : ∀ (k : ℕ) (hk : k < 10), memory.byte pkt (24 + k) = route[k] := by
      intro k hk
      have hheader : frame.network.render frame.transport.protocol =
          UInt8.ofNat (4 * 16 + (5 + options.length / 4)) :: (service.toList ++
            frame.transport.protocol :: route.toList.take k) ++
              route[k] :: (route.toList.drop (k + 1) ++ options) := by
        rw [hnetwork, NetworkHeader.render, toList_append_eq route options hk]
        simp only [List.cons_append, List.append_assoc]
      apply hholds.network_at _ hheader
      simp only [List.length_cons, List.length_append, Vector.length_toList, List.length_take]
      omega
    have hload : ∀ (k : ℕ) (hk : k + 3 < 10), ByteOrder.network.load32 memory pkt (24 + k) =
        wordOf route[k] route[k + 1] route[k + 2] route[k + 3] := by
      intro k hk
      rw [ByteOrder.load32, Nat.add_assoc, Nat.add_assoc, Nat.add_assoc, hbyte k (by omega),
        hbyte (k + 1) (by omega), hbyte (k + 2) (by omega), hbyte (k + 3) (by omega)]
    exact congrArg₂ Prod.mk (hload 2 (by omega)) (hload 6 (by omega))

/-- What a frame does not have is taken from the record. -/
theorem hash_of_frame (hholds : memory.Holds pkt frame.render) (hdrs : PacketHeaders Mbuf) :
    computeFlowHash .network memory (extractPacketHeaders .network memory pkt hdrs).1 =
      hashOf (frame.network.addresses.or (hdrs.ipv4.map (addressesAt .network memory)))
        ((frame.tcpPorts.or (hdrs.tcp.map (portsAt .network memory))).or
          (frame.udpPorts.or (hdrs.udp.map (portsAt .network memory)))) := by
  have hpoints : PointsTo .network memory (hdrs.tcp.map (portsAt .network memory))
      (hdrs.udp.map (portsAt .network memory)) hdrs [] := ⟨rfl, rfl⟩
  obtain ⟨htcp, hudp⟩ := hpoints.extract hholds
  rw [lastPorts_concat] at htcp hudp
  have hipv4 : (extractPacketHeaders .network memory pkt hdrs).1.ipv4.map
      (addressesAt .network memory) =
        frame.network.addresses.or (hdrs.ipv4.map (addressesAt .network memory)) := by
    rw [extract_frame .network hholds hdrs]
    dsimp only
    rw [withTransport_ipv4, withNetwork_ipv4]
    cases haddresses : frame.network.addresses with
    | some addresses => exact congrArg some (addressesAt_frame hholds haddresses)
    | none => rfl
  rw [computeFlowHash_eq, hipv4, htcp, hudp]
  rfl

end Reading

/-! ## Flows -/

theorem toNat_portsWord (ports : UInt16 × UInt16) :
    (portsWord ports).toNat = ports.1.toNat * 2 ^ 16 + ports.2.toNat := by
  have hsource := ports.1.toNat_lt
  have hdestination := ports.2.toNat_lt
  have hshift : (16 : UInt32).toNat % 32 = 16 := rfl
  rw [portsWord, UInt32.toNat_or, UInt32.toNat_shiftLeft, UInt16.toNat_toUInt32,
    UInt16.toNat_toUInt32, hshift, Nat.mod_eq_of_lt, ← Nat.shiftLeft_add_eq_or_of_lt hdestination,
    Nat.shiftLeft_eq]
  rw [Nat.shiftLeft_eq]
  omega

theorem portsWord_inj {ports other : UInt16 × UInt16} :
    portsWord ports = portsWord other ↔ ports = other := by
  constructor
  · intro h
    have hword := congrArg UInt32.toNat h
    rw [toNat_portsWord, toNat_portsWord] at hword
    have hdestination := ports.2.toNat_lt
    have hother := other.2.toNat_lt
    exact Prod.ext (UInt16.toNat.inj (by omega)) (UInt16.toNat.inj (by omega))
  · exact congrArg portsWord

/-- Memory with a frame in every packet, and behind it two bytes that are not zero. -/
def memoryBehind (frame : Frame) : PacketMemory Mbuf where
  pktLen := fun _ ↦ UInt32.ofNat frame.render.length
  byte := fun _ offset ↦ frame.render.getD offset
    (if offset = frame.render.length ∨ offset = frame.render.length + 12 then 1 else 0)

section Behind

variable (frame : Frame) (pkt : Mbuf)

theorem holds_memoryBehind : (memoryBehind frame).Holds pkt frame.render :=
  ⟨(holds_memoryOf (fun _ : Mbuf ↦ frame) pkt).1, fun _ _ ↦ (List.getElem_eq_getD _).symm⟩

theorem byte_behind (k : ℕ) :
    (memoryBehind frame).byte pkt (frame.render.length + k) = if k = 0 ∨ k = 12 then 1 else 0 := by
  rw [memoryBehind]
  dsimp only
  rw [List.getD_eq_getElem?_getD, List.getElem?_eq_none (Nat.le_add_right _ _), Option.getD_none]
  simp only [Nat.add_eq_left, Nat.add_left_cancel_iff]

theorem addresses_behind :
    addressesAt .network (memoryBehind frame) (pkt, frame.render.length) = (0x01000000, 0) := by
  simp only [addressesAt, ByteOrder.load32, Nat.add_assoc, byte_behind]
  decide

theorem ports_behind :
    portsAt .network (memoryBehind frame) (pkt, frame.render.length) = (256, 0) ∧
      portsAt .network (memoryBehind frame) (pkt, frame.render.length + 2) = (0, 0) := by
  have hfirst := byte_behind frame pkt 0
  rw [Nat.add_zero] at hfirst
  constructor
  · simp only [portsAt, ntohs_load16, Nat.add_assoc, hfirst, byte_behind]
    decide
  · simp only [portsAt, ntohs_load16, Nat.add_assoc, byte_behind]
    decide

end Behind

/-- **When a hash does not depend on the record.** The hash of a frame is the same from every record,
in every memory that holds the frame, exactly when the frame carries TCP over IPv4. -/
theorem hash_kept_iff (frame : Frame) (pkt : Mbuf) :
    (∀ memory : PacketMemory Mbuf, memory.Holds pkt frame.render → ∀ hdrs other,
      computeFlowHash .network memory (extractPacketHeaders .network memory pkt hdrs).1 =
        computeFlowHash .network memory (extractPacketHeaders .network memory pkt other).1) ↔
      frame.network.addresses.isSome = true ∧ frame.tcpPorts.isSome = true := by
  constructor
  · intro hkept
    have hholds := holds_memoryBehind frame pkt
    have hsame := hkept _ hholds
    simp only [hash_of_frame hholds] at hsame
    constructor
    · cases haddresses : frame.network.addresses with
      | some addresses => rfl
      | none =>
        -- addresses left in the record against none
        have hleft := hsame { PacketHeaders.cleared with ipv4 := some (pkt, frame.render.length) }
          .cleared
        rw [haddresses, hashOf, hashOf, UInt32.xor_left_inj] at hleft
        simp only [PacketHeaders.cleared, Option.map_none, Option.map_some, Option.none_or,
          addresses_behind] at hleft
        exact absurd hleft (by decide)
    · cases hports : frame.tcpPorts with
      | some ports => rfl
      | none =>
        -- two TCP headers left in the record
        have hleft := hsame { PacketHeaders.cleared with tcp := some (pkt, frame.render.length) }
          { PacketHeaders.cleared with tcp := some (pkt, frame.render.length + 2) }
        obtain ⟨hfirst, hsecond⟩ := ports_behind frame pkt
        rw [hports, hashOf, hashOf] at hleft
        simp only [PacketHeaders.cleared, Option.map_none, Option.map_some, Option.none_or,
          Option.some_or, hfirst, hsecond, UInt32.xor_right_inj] at hleft
        exact absurd hleft (by decide)
  · rintro ⟨haddresses, hports⟩ memory hholds hdrs other
    obtain ⟨addresses, haddresses⟩ := Option.isSome_iff_exists.mp haddresses
    obtain ⟨ports, hports⟩ := Option.isSome_iff_exists.mp hports
    rw [hash_of_frame hholds, hash_of_frame hholds, haddresses, hports]
    rfl

section Connections

variable {memory memory' : PacketMemory Mbuf} {pkt pkt' : Mbuf} {frame frame' : Frame}
  {addresses : UInt32 × UInt32} {ports : UInt16 × UInt16}

theorem hash_of_connection (hholds : memory.Holds pkt frame.render)
    (haddresses : frame.network.addresses = some addresses) (hports : frame.tcpPorts = some ports)
    (hdrs : PacketHeaders Mbuf) :
    computeFlowHash .network memory (extractPacketHeaders .network memory pkt hdrs).1 =
      addresses.1 ^^^ addresses.2 ^^^ portsWord ports := by
  rw [hash_of_frame hholds, haddresses, hports]
  rfl

/-- **The hash of a connection.** The frames of a direction of a TCP connection over IPv4 have one
hash, whatever memory and record they are read with. The frames of the other direction have it exactly
when the two ports are equal. -/
theorem connection_hash (hholds : memory.Holds pkt frame.render)
    (hholds' : memory'.Holds pkt' frame'.render)
    (haddresses : frame.network.addresses = some addresses) (hports : frame.tcpPorts = some ports)
    (hdrs hdrs' : PacketHeaders Mbuf) :
    (frame'.network.addresses = some addresses → frame'.tcpPorts = some ports →
      computeFlowHash .network memory' (extractPacketHeaders .network memory' pkt' hdrs').1 =
        computeFlowHash .network memory (extractPacketHeaders .network memory pkt hdrs).1) ∧
    (frame'.network.addresses = some addresses.swap → frame'.tcpPorts = some ports.swap →
      (computeFlowHash .network memory' (extractPacketHeaders .network memory' pkt' hdrs').1 =
        computeFlowHash .network memory (extractPacketHeaders .network memory pkt hdrs).1 ↔
          ports.1 = ports.2)) := by
  rw [hash_of_connection hholds haddresses hports hdrs]
  constructor
  · intro hsame hsamePorts
    exact hash_of_connection hholds' hsame hsamePorts hdrs'
  · intro hswapped hswappedPorts
    rw [hash_of_connection hholds' hswapped hswappedPorts hdrs', Prod.fst_swap, Prod.snd_swap,
      UInt32.xor_comm addresses.2, UInt32.xor_right_inj, portsWord_inj]
    constructor
    · intro h
      exact (congrArg Prod.snd h)
    · intro h
      exact Prod.ext h.symm h

end Connections

/-- An answer to the segment. -/
def segmentReply : Frame where
  addresses := Vector.replicate 12 2
  network := .ipv4 (Vector.replicate 8 0) (Vector.replicate 10 7) [0, 0, 0, 0] (by decide)
  transport :=
    .tcp #v[192, 1, 1, 187, 0, 0, 0, 0, 0, 0, 0, 0] (Vector.replicate 7 0) [2, 4, 5, 180] (by decide)
  payload := []
  payload_fits := by decide

theorem segmentReply_hashed_apart :
    computeFlowHash .network (memoryOf fun _ : Unit ↦ segmentReply)
        (extractPacketHeaders .network (memoryOf fun _ : Unit ↦ segmentReply) () .cleared).1 ≠
      computeFlowHash .network (memoryOf fun _ : Unit ↦ segment)
        (extractPacketHeaders .network (memoryOf fun _ : Unit ↦ segment) () .cleared).1 := by
  have hreply := (connection_hash (holds_memoryOf (fun _ : Unit ↦ segment) ())
    (holds_memoryOf (fun _ : Unit ↦ segmentReply) ()) rfl rfl .cleared .cleared).2 rfl rfl
  rw [Ne, hreply]
  decide

end VirtualServiceGateway.Dpdk
