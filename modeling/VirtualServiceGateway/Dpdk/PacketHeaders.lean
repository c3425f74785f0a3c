import Mathlib.Data.UInt

/-!
# Packet headers

The helpers that find the headers of a packet and classify it by its ports. They read packets through
pointers and multi-byte fields in the byte order of the host. A frame in network byte order, without
padding behind its payload, is read as it was written on a host of that order, and rejected on a host
of the other: the EtherType is compared without a conversion. A pointer that is read through is null
or leads to memory that can be read; only the example pipeline looks at others.
-/

namespace VirtualServiceGateway.Dpdk

/-! ## Memory -/

/-- The byte order of the host: that of the network, or the reversed one. -/
inductive ByteOrder where
  | network
  | reversed
  deriving DecidableEq, Repr

/-- The lengths of the packets, and the memory from the start of each packet's data on. -/
structure PacketMemory (Mbuf : Type*) where
  pktLen : Mbuf → UInt32
  byte : Mbuf → ℕ → UInt8

/-- A pointer to a header: null, or an address by its offset from some packet's data, which may be one
that cannot be read. -/
abbrev HeaderPointer (Mbuf : Type*) := Option (Mbuf × ℕ)

/-- Two bytes, the more significant one first. -/
def wide (high low : UInt8) : UInt16 := high.toUInt16 * 256 + low.toUInt16

/-- Four bytes, the most significant one first. -/
def wordOf (first second third fourth : UInt8) : UInt32 :=
  (wide first second).toUInt32 * 65536 + (wide third fourth).toUInt32

namespace ByteOrder

/-- Convert a 16-bit field: a host of the other order exchanges its bytes. -/
def ntohs (order : ByteOrder) (field : UInt16) : UInt16 :=
  match order with
  | .network => field
  | .reversed => field * 256 + field / 256

/-- Load a 16-bit field. -/
def load16 {Mbuf : Type*} (order : ByteOrder) (memory : PacketMemory Mbuf) (pkt : Mbuf)
    (offset : ℕ) : UInt16 :=
  match order with
  | .network => wide (memory.byte pkt offset) (memory.byte pkt (offset + 1))
  | .reversed => wide (memory.byte pkt (offset + 1)) (memory.byte pkt offset)

/-- Load a 32-bit field. -/
def load32 {Mbuf : Type*} (order : ByteOrder) (memory : PacketMemory Mbuf) (pkt : Mbuf)
    (offset : ℕ) : UInt32 :=
  match order with
  | .network => wordOf (memory.byte pkt offset) (memory.byte pkt (offset + 1))
      (memory.byte pkt (offset + 2)) (memory.byte pkt (offset + 3))
  | .reversed => wordOf (memory.byte pkt (offset + 3)) (memory.byte pkt (offset + 2))
      (memory.byte pkt (offset + 1)) (memory.byte pkt offset)

end ByteOrder

/-! ## Header extraction -/

variable {Mbuf : Type*}

structure PacketHeaders (Mbuf : Type*) where
  eth : HeaderPointer Mbuf
  ipv4 : HeaderPointer Mbuf
  ipv6 : HeaderPointer Mbuf
  tcp : HeaderPointer Mbuf
  udp : HeaderPointer Mbuf
  payloadSize : UInt32
  l3Proto : UInt16
  l4Proto : UInt8
  deriving DecidableEq

/-- No header found yet. -/
def PacketHeaders.cleared : PacketHeaders Mbuf := ⟨none, none, none, none, none, 0, 0, 0⟩

def etherTypeIpv4 : UInt16 := 0x0800

def etherTypeIpv6 : UInt16 := 0x86DD

def ipprotoTcp : UInt8 := 6

def ipprotoUdp : UInt8 := 17

section Extraction

variable (order : ByteOrder) (memory : PacketMemory Mbuf) (pkt : Mbuf)

/-- The part of the extraction behind the network header. -/
def extractTransport (dataPtr : ℕ) (hdrs : PacketHeaders Mbuf) : PacketHeaders Mbuf :=
  if hdrs.l4Proto = ipprotoTcp then
    { hdrs with
      tcp := some (pkt, dataPtr)
      payloadSize := memory.pktLen pkt - UInt32.ofNat dataPtr -
        (memory.byte pkt (dataPtr + 12) / 16).toUInt32 * 4 }
  else if hdrs.l4Proto = ipprotoUdp then
    { hdrs with
      udp := some (pkt, dataPtr)
      payloadSize := (order.ntohs (order.load16 memory pkt (dataPtr + 4))).toUInt32 - 8 }
  else { hdrs with payloadSize := memory.pktLen pkt - UInt32.ofNat dataPtr }

/-- Find the headers of a packet, and whether it is accepted. What is not found stays as it was. -/
def extractPacketHeaders (hdrs : PacketHeaders Mbuf) : PacketHeaders Mbuf × Bool :=
  if memory.pktLen pkt < 14 then (hdrs, false)
  else
    let hdrs := { hdrs with
      eth := some (pkt, 0)
      l3Proto := order.load16 memory pkt 12 }
    if hdrs.l3Proto = etherTypeIpv4 then
      if memory.pktLen pkt < 14 + 20 then (hdrs, false)
      else
        let hdrs := { hdrs with
          ipv4 := some (pkt, 14)
          l4Proto := memory.byte pkt (14 + 9) }
        -- the header length is the low half of the first byte, in words of four bytes
        (extractTransport order memory pkt (14 + (memory.byte pkt 14 % 16).toNat * 4) hdrs, true)
    else if hdrs.l3Proto = etherTypeIpv6 then
      if memory.pktLen pkt < 14 + 40 then (hdrs, false)
      else
        let hdrs := { hdrs with
          ipv6 := some (pkt, 14)
          l4Proto := memory.byte pkt (14 + 6) }
        (extractTransport order memory pkt (14 + 40) hdrs, true)
    else (hdrs, false)

end Extraction

/-! ## Classification -/

inductive PacketClass where
  | http
  | https
  | dns
  | ssh
  | other
  deriving DecidableEq, Repr

/-- The class of a pair of ports. -/
def classOfPorts (sport dport : UInt16) : PacketClass :=
  if sport = 80 ∨ dport = 80 then .http
  else if sport = 443 ∨ dport = 443 then .https
  else if sport = 53 ∨ dport = 53 then .dns
  else if sport = 22 ∨ dport = 22 then .ssh
  else .other

section Classification

variable (order : ByteOrder) (memory : PacketMemory Mbuf)

/-- The source and destination ports at a transport header. -/
def portsAt (header : Mbuf × ℕ) : UInt16 × UInt16 :=
  (order.ntohs (order.load16 memory header.1 header.2),
    order.ntohs (order.load16 memory header.1 (header.2 + 2)))

def classifyPacket (hdrs : PacketHeaders Mbuf) : PacketClass :=
  match hdrs.tcp, hdrs.udp with
  | some header, _ => classOfPorts (portsAt order memory header).1 (portsAt order memory header).2
  | none, some header =>
      classOfPorts (portsAt order memory header).1 (portsAt order memory header).2
  | none, none => .other

end Classification

/-! ## Frames -/

/-- The network header of a frame, with the bytes around its protocol field. -/
inductive NetworkHeader where
  | ipv4 (service : Vector UInt8 8) (route : Vector UInt8 10) (options : List UInt8)
      (options_fit : options.length % 4 = 0 ∧ options.length ≤ 40)
  | ipv6 (label : Vector UInt8 6) (route : Vector UInt8 33)

/-- The transport header of a frame, with the bytes around its length fields. -/
inductive TransportHeader where
  | tcp (ports : Vector UInt8 12) (flags : Vector UInt8 7) (options : List UInt8)
      (options_fit : options.length % 4 = 0 ∧ options.length ≤ 40)
  | udp (ports : Vector UInt8 4) (checksum : Vector UInt8 2)
  | other (protocol : UInt8) (ne_tcp : protocol ≠ ipprotoTcp) (ne_udp : protocol ≠ ipprotoUdp)

/-- A frame without padding, with a payload that a datagram has room for. -/
structure Frame where
  addresses : Vector UInt8 12
  network : NetworkHeader
  transport : TransportHeader
  payload : List UInt8
  payload_fits : payload.length + 8 < 2 ^ 16

namespace NetworkHeader

/-- The EtherType on the wire. -/
def etherType : NetworkHeader → UInt8 × UInt8
  | .ipv4 _ _ _ _ => (0x08, 0x00)
  | .ipv6 _ _ => (0x86, 0xDD)

/-- The source and destination address of an IPv4 header. -/
def addresses : NetworkHeader → Option (UInt32 × UInt32)
  | .ipv4 _ route _ _ => some (wordOf route[2] route[3] route[4] route[5],
      wordOf route[6] route[7] route[8] route[9])
  | .ipv6 _ _ => none

def render (protocol : UInt8) : NetworkHeader → List UInt8
  | .ipv4 service route options _ =>
      UInt8.ofNat (4 * 16 + (5 + options.length / 4)) ::
        (service.toList ++ protocol :: (route.toList ++ options))
  | .ipv6 label route => label.toList ++ protocol :: route.toList

end NetworkHeader

namespace TransportHeader

def protocol : TransportHeader → UInt8
  | .tcp _ _ _ _ => ipprotoTcp
  | .udp _ _ => ipprotoUdp
  | .other protocol _ _ => protocol

/-- The source and destination ports, in the first four bytes. -/
def ports : TransportHeader → Option (UInt16 × UInt16)
  | .tcp front _ _ _ => some (wide front[0] front[1], wide front[2] front[3])
  | .udp front _ => some (wide front[0] front[1], wide front[2] front[3])
  | .other _ _ _ => none

/-- The header in front of a payload of the given length. -/
def render (payloadLength : ℕ) : TransportHeader → List UInt8
  | .tcp ports flags options _ =>
      ports.toList ++ UInt8.ofNat ((5 + options.length / 4) * 16) :: (flags.toList ++ options)
  | .udp ports checksum =>
      ports.toList ++ UInt8.ofNat ((payloadLength + 8) / 256) ::
        UInt8.ofNat ((payloadLength + 8) % 256) :: checksum.toList
  | .other _ _ _ => []

end TransportHeader

namespace Frame

/-- The offset of the transport header. -/
def transportOffset (frame : Frame) : ℕ :=
  14 + (frame.network.render frame.transport.protocol).length

def render (frame : Frame) : List UInt8 :=
  frame.addresses.toList ++ frame.network.etherType.1 :: frame.network.etherType.2 ::
    (frame.network.render frame.transport.protocol ++
      (frame.transport.render frame.payload.length ++ frame.payload))

end Frame

/-- The packet is the list of bytes. -/
def PacketMemory.Holds (memory : PacketMemory Mbuf) (pkt : Mbuf) (bytes : List UInt8) : Prop :=
  (memory.pktLen pkt).toNat = bytes.length ∧
    ∀ (offset : ℕ) (h : offset < bytes.length), memory.byte pkt offset = bytes[offset]

theorem toNat_wide (high low : UInt8) : (wide high low).toNat = high.toNat * 256 + low.toNat := by
  have hhigh := high.toNat_lt
  have hlow := low.toNat_lt
  rw [wide, UInt16.toNat_add, UInt16.toNat_mul, UInt8.toNat_toUInt16, UInt8.toNat_toUInt16]
  change (high.toNat * 256 % 2 ^ 16 + low.toNat) % 2 ^ 16 = _
  omega

/-- A converted field is the one on the wire. -/
theorem ntohs_load16 (order : ByteOrder) (memory : PacketMemory Mbuf) (pkt : Mbuf) (offset : ℕ) :
    order.ntohs (order.load16 memory pkt offset) =
      wide (memory.byte pkt offset) (memory.byte pkt (offset + 1)) := by
  cases order with
  | network => rfl
  | reversed =>
    have hfirst := (memory.byte pkt offset).toNat_lt
    have hsecond := (memory.byte pkt (offset + 1)).toNat_lt
    apply UInt16.toNat.inj
    rw [ByteOrder.ntohs, ByteOrder.load16, UInt16.toNat_add, UInt16.toNat_mul, UInt16.toNat_div,
      toNat_wide, toNat_wide]
    generalize (memory.byte pkt offset).toNat = first at hfirst ⊢
    generalize (memory.byte pkt (offset + 1)).toNat = second at hsecond ⊢
    have h256 : (256 : UInt16).toNat = 256 := rfl
    have hlow : (second * 256 + first) * 256 % 2 ^ 16 = first * 256 := by omega
    have hhigh : (second * 256 + first) / 256 = second := by omega
    rw [h256, hlow, hhigh, Nat.mod_eq_of_lt (by omega)]

section Holding

variable {memory : PacketMemory Mbuf} {pkt : Mbuf} {bytes : List UInt8}

theorem PacketMemory.Holds.byte_at (hholds : memory.Holds pkt bytes) (front : List UInt8)
    {back : List UInt8} {value : UInt8} (hbytes : bytes = front ++ value :: back) {offset : ℕ}
    (hoffset : front.length = offset) : memory.byte pkt offset = value := by
  subst hbytes hoffset
  rw [hholds.2 front.length (by simp)]
  simp

theorem PacketMemory.Holds.pktLen_eq (hholds : memory.Holds pkt bytes) :
    memory.pktLen pkt = UInt32.ofNat bytes.length := by
  rw [← hholds.1, UInt32.ofNat_toNat]

/-! ### Reading a frame -/

variable {frame : Frame} (order : ByteOrder)

/-- The network header as it is found. -/
def Frame.withNetwork (frame : Frame) (pkt : Mbuf) (hdrs : PacketHeaders Mbuf) :
    PacketHeaders Mbuf :=
  match frame.network with
  | .ipv4 _ _ _ _ => { hdrs with ipv4 := some (pkt, 14), l4Proto := frame.transport.protocol }
  | .ipv6 _ _ => { hdrs with ipv6 := some (pkt, 14), l4Proto := frame.transport.protocol }

/-- The transport header as it is found, and the length of the payload. -/
def Frame.withTransport (frame : Frame) (pkt : Mbuf) (hdrs : PacketHeaders Mbuf) :
    PacketHeaders Mbuf :=
  let hdrs := { hdrs with payloadSize := UInt32.ofNat frame.payload.length }
  match frame.transport with
  | .tcp _ _ _ _ => { hdrs with tcp := some (pkt, frame.transportOffset) }
  | .udp _ _ => { hdrs with udp := some (pkt, frame.transportOffset) }
  | .other _ _ _ => hdrs

theorem Frame.length_render (frame : Frame) :
    frame.render.length = frame.transportOffset +
      (frame.transport.render frame.payload.length).length + frame.payload.length := by
  simp only [Frame.render, Frame.transportOffset, List.length_append, List.length_cons,
    Vector.length_toList]
  omega

/-- A byte of the transport header stands behind the network header. -/
theorem PacketMemory.Holds.transport_at (hholds : memory.Holds pkt frame.render)
    (front : List UInt8) {back : List UInt8} {value : UInt8}
    (hheader : frame.transport.render frame.payload.length = front ++ value :: back) {offset : ℕ}
    (hoffset : frame.transportOffset + front.length = offset) :
    memory.byte pkt offset = value := by
  have hrender : frame.render = (frame.addresses.toList ++ frame.network.etherType.1 ::
      frame.network.etherType.2 :: (frame.network.render frame.transport.protocol ++ front)) ++
        value :: (back ++ frame.payload) := by
    rw [Frame.render, hheader]
    simp only [List.append_assoc, List.cons_append]
  apply hholds.byte_at _ hrender
  rw [← hoffset, Frame.transportOffset]
  simp only [List.length_append, List.length_cons, Vector.length_toList]
  omega

theorem payloadSize_of_header {length header payload : ℕ} {size : UInt32}
    (hlength : length = header + payload) (hsize : size = UInt32.ofNat header) (offset : ℕ) :
    UInt32.ofNat (offset + length) - UInt32.ofNat offset - size = UInt32.ofNat payload := by
  rw [hlength, hsize, UInt32.ofNat_add, UInt32.ofNat_add, add_sub_cancel_left, add_sub_cancel_left]

theorem extractTransport_frame (hholds : memory.Holds pkt frame.render) (hdrs : PacketHeaders Mbuf)
    (hprotocol : hdrs.l4Proto = frame.transport.protocol) :
    extractTransport order memory pkt frame.transportOffset hdrs =
      frame.withTransport pkt hdrs := by
  have hlength := hholds.pktLen_eq
  rw [frame.length_render, Nat.add_assoc] at hlength
  unfold extractTransport Frame.withTransport
  rw [hprotocol]
  cases htransport : frame.transport with
  | tcp ports flags options options_fit =>
    have hoff : memory.byte pkt (frame.transportOffset + 12) =
        UInt8.ofNat ((5 + options.length / 4) * 16) :=
      hholds.transport_at ports.toList (by rw [htransport, TransportHeader.render])
        (by rw [Vector.length_toList])
    have hheader : (frame.transport.render frame.payload.length).length = 20 + options.length := by
      simp only [htransport, TransportHeader.render, List.length_append, List.length_cons,
        Vector.length_toList]
      omega
    have hsize : (memory.byte pkt (frame.transportOffset + 12) / 16).toUInt32 * 4 =
        UInt32.ofNat (20 + options.length) := by
      obtain ⟨hwords, hmost⟩ := options_fit
      apply UInt32.toNat.inj
      rw [hoff, UInt32.toNat_mul, UInt8.toNat_toUInt32, UInt8.toNat_div, UInt8.toNat_ofNat',
        UInt32.toNat_ofNat']
      have h16 : (16 : UInt8).toNat = 16 := rfl
      have h4 : (4 : UInt32).toNat = 4 := rfl
      have hfour : (5 + options.length / 4) * 16 % 2 ^ 8 / 16 = 5 + options.length / 4 := by omega
      rw [h16, h4, hfour, Nat.mod_eq_of_lt (by omega), Nat.mod_eq_of_lt (by omega)]
      omega
    rw [TransportHeader.protocol, if_pos rfl, hlength, hsize,
      payloadSize_of_header (congrArg (· + frame.payload.length) hheader) rfl]
  | udp ports checksum =>
    have hfits := frame.payload_fits
    have hrender : frame.transport.render frame.payload.length =
        ports.toList ++ UInt8.ofNat ((frame.payload.length + 8) / 256) ::
          UInt8.ofNat ((frame.payload.length + 8) % 256) :: checksum.toList := by
      rw [htransport, TransportHeader.render]
    have hfirst : memory.byte pkt (frame.transportOffset + 4) =
        UInt8.ofNat ((frame.payload.length + 8) / 256) :=
      hholds.transport_at ports.toList hrender (by rw [Vector.length_toList])
    have hsecond : memory.byte pkt (frame.transportOffset + 4 + 1) =
        UInt8.ofNat ((frame.payload.length + 8) % 256) :=
      hholds.transport_at (ports.toList ++ [_])
        (by rw [hrender, List.append_assoc, List.singleton_append])
        (by rw [List.length_append, Vector.length_toList]; rfl)
    have hlen : (wide (UInt8.ofNat ((frame.payload.length + 8) / 256))
        (UInt8.ofNat ((frame.payload.length + 8) % 256))).toUInt32 =
          UInt32.ofNat frame.payload.length + 8 := by
      apply UInt32.toNat.inj
      rw [UInt16.toNat_toUInt32, toNat_wide, UInt8.toNat_ofNat', UInt8.toNat_ofNat',
        UInt32.toNat_add, UInt32.toNat_ofNat']
      have h8 : (8 : UInt32).toNat = 8 := rfl
      rw [h8]
      omega
    rw [TransportHeader.protocol, if_neg (by decide), if_pos rfl, ntohs_load16, hfirst, hsecond,
      hlen, add_sub_cancel_right]
  | other protocol ne_tcp ne_udp =>
    have hheader : (frame.transport.render frame.payload.length).length = 0 := by
      rw [htransport]
      rfl
    rw [TransportHeader.protocol, if_neg ne_tcp, if_neg ne_udp, hlength, hheader, Nat.zero_add,
      UInt32.ofNat_add, add_sub_cancel_left]

theorem PacketMemory.Holds.etherType_at (hholds : memory.Holds pkt frame.render) :
    memory.byte pkt 12 = frame.network.etherType.1 ∧
      memory.byte pkt 13 = frame.network.etherType.2 := by
  constructor
  · exact hholds.byte_at frame.addresses.toList rfl Vector.length_toList
  · have hrender : frame.render = (frame.addresses.toList ++ [frame.network.etherType.1]) ++
        frame.network.etherType.2 :: (frame.network.render frame.transport.protocol ++
          (frame.transport.render frame.payload.length ++ frame.payload)) := by
      rw [Frame.render, List.append_assoc, List.singleton_append]
    apply hholds.byte_at _ hrender
    rw [List.length_append, Vector.length_toList, List.length_singleton]

/-- A byte of the network header stands behind the EtherType. -/
theorem PacketMemory.Holds.network_at (hholds : memory.Holds pkt frame.render)
    (front : List UInt8) {back : List UInt8} {value : UInt8}
    (hheader : frame.network.render frame.transport.protocol = front ++ value :: back)
    {offset : ℕ} (hoffset : 14 + front.length = offset) : memory.byte pkt offset = value := by
  have hrender : frame.render = (frame.addresses.toList ++ frame.network.etherType.1 ::
      frame.network.etherType.2 :: front) ++ value :: (back ++
        (frame.transport.render frame.payload.length ++ frame.payload)) := by
    rw [Frame.render, hheader]
    simp only [List.append_assoc, List.cons_append]
  apply hholds.byte_at _ hrender
  rw [← hoffset]
  simp only [List.length_append, List.length_cons, Vector.length_toList]
  omega

theorem wide_ipv4 : wide 0x08 0x00 = etherTypeIpv4 := by decide

theorem wide_ipv6 : wide 0x86 0xDD = etherTypeIpv6 := by decide

/-- With its bytes exchanged, no EtherType is one that is looked for. -/
theorem reversed_etherType_ne (network : NetworkHeader) :
    wide network.etherType.2 network.etherType.1 ≠ etherTypeIpv4 ∧
      wide network.etherType.2 network.etherType.1 ≠ etherTypeIpv6 := by
  cases network with
  | ipv4 =>
    change wide 0x00 0x08 ≠ etherTypeIpv4 ∧ wide 0x00 0x08 ≠ etherTypeIpv6
    decide
  | ipv6 =>
    change wide 0xDD 0x86 ≠ etherTypeIpv4 ∧ wide 0xDD 0x86 ≠ etherTypeIpv6
    decide

/-- The headers of a frame are found on a host of the network's byte order, and not on another. -/
theorem extract_frame (hholds : memory.Holds pkt frame.render) (hdrs : PacketHeaders Mbuf) :
    extractPacketHeaders order memory pkt hdrs =
      match order with
      | .network =>
          (frame.withTransport pkt (frame.withNetwork pkt { hdrs with
            eth := some (pkt, 0)
            l3Proto := wide frame.network.etherType.1 frame.network.etherType.2 }), true)
      | .reversed =>
          ({ hdrs with
            eth := some (pkt, 0)
            l3Proto := wide frame.network.etherType.2 frame.network.etherType.1 }, false) := by
  have hlength := hholds.1
  rw [frame.length_render] at hlength
  obtain ⟨hfirst, hsecond⟩ := hholds.etherType_at
  have hnotBelow : ∀ bound : UInt32, bound.toNat ≤ frame.transportOffset →
      ¬memory.pktLen pkt < bound := by
    intro bound hbound
    rw [UInt32.lt_iff_toNat_lt, hlength]
    omega
  unfold extractPacketHeaders
  rw [if_neg (hnotBelow 14 (Nat.le_add_right _ _))]
  cases order with
  | reversed =>
    obtain ⟨hipv4, hipv6⟩ := reversed_etherType_ne frame.network
    dsimp only [ByteOrder.load16]
    rw [hfirst, hsecond, if_neg hipv4, if_neg hipv6]
  | network =>
    dsimp only [ByteOrder.load16]
    rw [hfirst, hsecond]
    unfold Frame.withNetwork
    cases hnetwork : frame.network with
    | ipv4 service route options options_fit =>
      obtain ⟨hwords, hmost⟩ := options_fit
      have hversion : memory.byte pkt 14 = UInt8.ofNat (4 * 16 + (5 + options.length / 4)) :=
        hholds.network_at [] (by rw [hnetwork]; rfl) rfl
      have hprotocol : memory.byte pkt (14 + 9) = frame.transport.protocol :=
        hholds.network_at (_ :: service.toList) (by rw [hnetwork]; rfl)
          (by rw [List.length_cons, Vector.length_toList])
      have hoffset : frame.transportOffset = 34 + options.length := by
        simp only [Frame.transportOffset, hnetwork, NetworkHeader.render, List.length_append,
          List.length_cons, Vector.length_toList]
        omega
      have hdataPtr : 14 + (memory.byte pkt 14 % 16).toNat * 4 = frame.transportOffset := by
        rw [hversion, UInt8.toNat_mod, UInt8.toNat_ofNat', hoffset]
        have h16 : (16 : UInt8).toNat = 16 := rfl
        rw [h16]
        omega
      have htype : wide (NetworkHeader.ipv4 service route options ⟨hwords, hmost⟩).etherType.1
          (NetworkHeader.ipv4 service route options ⟨hwords, hmost⟩).etherType.2 =
            etherTypeIpv4 := wide_ipv4
      have hfull : ¬memory.pktLen pkt < 14 + 20 := by
        apply hnotBelow
        have h34 : (14 + 20 : UInt32).toNat = 34 := by decide
        omega
      rw [htype, if_pos rfl, if_neg hfull, hdataPtr, hprotocol,
        extractTransport_frame .network hholds _ rfl]
    | ipv6 label route =>
      have hprotocol : memory.byte pkt (14 + 6) = frame.transport.protocol :=
        hholds.network_at label.toList (by rw [hnetwork]; rfl) (by rw [Vector.length_toList])
      have hoffset : frame.transportOffset = 54 := by
        simp only [Frame.transportOffset, hnetwork, NetworkHeader.render, List.length_append,
          List.length_cons, Vector.length_toList]
      have htype : wide (NetworkHeader.ipv6 label route).etherType.1
          (NetworkHeader.ipv6 label route).etherType.2 = etherTypeIpv6 := wide_ipv6
      have hfull : ¬memory.pktLen pkt < 14 + 40 := by
        apply hnotBelow
        have h54 : (14 + 40 : UInt32).toNat = 54 := by decide
        omega
      have hdataPtr : 14 + 40 = frame.transportOffset := hoffset.symm
      rw [htype, if_neg (by decide), if_pos rfl, if_neg hfull, hprotocol, hdataPtr,
        extractTransport_frame .network hholds _ rfl]

theorem toList_append_eq {size : ℕ} (front : Vector UInt8 size) (back : List UInt8) {k : ℕ}
    (hk : k < size) :
    front.toList ++ back =
      front.toList.take k ++ front[k] :: (front.toList.drop (k + 1) ++ back) := by
  have hlt : k < front.toList.length := by rwa [Vector.length_toList]
  rw [← List.cons_append, ← Vector.getElem_toList hlt, ← List.drop_eq_getElem_cons hlt,
    ← List.append_assoc, List.take_append_drop]

theorem PacketMemory.Holds.front_at (hholds : memory.Holds pkt frame.render) {size : ℕ}
    (front : Vector UInt8 size) {back : List UInt8}
    (hheader : frame.transport.render frame.payload.length = front.toList ++ back) {k : ℕ}
    (hk : k < size) : memory.byte pkt (frame.transportOffset + k) = front[k] := by
  apply hholds.transport_at _ (hheader.trans (toList_append_eq front back hk))
  rw [List.length_take, Vector.length_toList, Nat.min_eq_left hk.le]

/-- The ports are read at the transport header, in either byte order. -/
theorem portsAt_frame (hholds : memory.Holds pkt frame.render) {ports : UInt16 × UInt16}
    (hports : frame.transport.ports = some ports) :
    portsAt order memory (pkt, frame.transportOffset) = ports := by
  simp only [portsAt, ntohs_load16, Nat.add_assoc]
  cases htransport : frame.transport with
  | other =>
    rw [htransport] at hports
    cases hports
  | tcp front | udp front =>
    rw [htransport] at hports
    obtain rfl := Option.some.inj hports
    have hbyte : ∀ (k : ℕ) (hk : k < 4), memory.byte pkt (frame.transportOffset + k) = front[k] :=
      fun k hk ↦ hholds.front_at front (by rw [htransport, TransportHeader.render]) (by omega)
    have hfirst := hbyte 0 (by omega)
    rw [Nat.add_zero] at hfirst
    rw [hfirst, hbyte 1 (by omega), hbyte 2 (by omega), hbyte 3 (by omega)]

section Found

variable (frame) (pkt) (hdrs : PacketHeaders Mbuf)

@[simp]
theorem withNetwork_l4Proto : (frame.withNetwork pkt hdrs).l4Proto = frame.transport.protocol := by
  unfold Frame.withNetwork
  split <;> rfl

@[simp]
theorem withNetwork_tcp : (frame.withNetwork pkt hdrs).tcp = hdrs.tcp := by
  unfold Frame.withNetwork
  split <;> rfl

@[simp]
theorem withNetwork_udp : (frame.withNetwork pkt hdrs).udp = hdrs.udp := by
  unfold Frame.withNetwork
  split <;> rfl

theorem withNetwork_ipv4 :
    (frame.withNetwork pkt hdrs).ipv4 =
      if frame.network.addresses.isSome then some (pkt, 14) else hdrs.ipv4 := by
  unfold Frame.withNetwork
  cases frame.network <;> rfl

@[simp]
theorem withTransport_ipv4 : (frame.withTransport pkt hdrs).ipv4 = hdrs.ipv4 := by
  unfold Frame.withTransport
  dsimp only
  split <;> rfl

@[simp]
theorem withTransport_l4Proto : (frame.withTransport pkt hdrs).l4Proto = hdrs.l4Proto := by
  unfold Frame.withTransport
  dsimp only
  split <;> rfl

@[simp]
theorem withTransport_payloadSize :
    (frame.withTransport pkt hdrs).payloadSize = UInt32.ofNat frame.payload.length := by
  unfold Frame.withTransport
  dsimp only
  split <;> rfl

/-- A header with ports is found where it is. -/
theorem withTransport_header {ports : UInt16 × UInt16}
    (hports : frame.transport.ports = some ports) :
    (frame.withTransport pkt hdrs).tcp = some (pkt, frame.transportOffset) ∨
      (frame.withTransport pkt hdrs).udp = some (pkt, frame.transportOffset) := by
  unfold Frame.withTransport
  dsimp only
  cases htransport : frame.transport with
  | tcp => exact .inl rfl
  | udp => exact .inr rfl
  | other =>
    rw [htransport] at hports
    cases hports

end Found

/-- **A frame is read back.** On a host of the network's byte order a frame is accepted, with its
protocol and ports, and its payload is the last part of the packet, of the size found. On a host of the
other order it is rejected. -/
theorem frame_round_trip (hholds : memory.Holds pkt frame.render) (hdrs : PacketHeaders Mbuf) :
    (∃ read, extractPacketHeaders .network memory pkt hdrs = (read, true) ∧
      read.l4Proto = frame.transport.protocol ∧
      (∀ ports, frame.transport.ports = some ports → ∃ header,
        (read.tcp = some header ∨ read.udp = some header) ∧
          portsAt .network memory header = ports) ∧
      read.payloadSize.toNat = frame.payload.length ∧
      ∀ (i : ℕ) (h : i < frame.payload.length),
        memory.byte pkt ((memory.pktLen pkt - read.payloadSize).toNat + i) = frame.payload[i]) ∧
    ∃ read, extractPacketHeaders .reversed memory pkt hdrs = (read, false) := by
  refine ⟨⟨_, extract_frame .network hholds hdrs, ?_⟩, _, extract_frame .reversed hholds hdrs⟩
  simp only [withTransport_l4Proto, withNetwork_l4Proto, withTransport_payloadSize, true_and]
  have hfits := frame.payload_fits
  have hsize : (UInt32.ofNat frame.payload.length).toNat = frame.payload.length := by
    rw [UInt32.toNat_ofNat', Nat.mod_eq_of_lt (by omega)]
  refine ⟨?_, hsize, ?_⟩
  · intro ports hports
    exact ⟨_, withTransport_header pkt frame _ hports, portsAt_frame .network hholds hports⟩
  · intro i hi
    have hlength := frame.length_render
    have hstart : (memory.pktLen pkt - UInt32.ofNat frame.payload.length).toNat =
        frame.render.length - frame.payload.length := by
      rw [UInt32.toNat_sub_of_le, hsize, hholds.1]
      rw [UInt32.le_iff_toNat_le, hsize, hholds.1]
      omega
    have hrender : frame.render = (frame.addresses.toList ++ frame.network.etherType.1 ::
        frame.network.etherType.2 :: (frame.network.render frame.transport.protocol ++
          (frame.transport.render frame.payload.length ++ frame.payload.take i))) ++
            frame.payload[i] :: frame.payload.drop (i + 1) := by
      rw [Frame.render]
      simp only [List.append_assoc, List.cons_append, ← List.drop_eq_getElem_cons hi,
        List.take_append_drop]
    apply hholds.byte_at _ hrender
    rw [hstart, hlength, Frame.transportOffset]
    simp only [List.length_append, List.length_cons, Vector.length_toList, List.length_take]
    omega

end Holding

/-- Memory in which every packet is a frame. -/
def memoryOf (frameOf : Mbuf → Frame) : PacketMemory Mbuf where
  pktLen := fun pkt ↦ UInt32.ofNat (frameOf pkt).render.length
  byte := fun pkt offset ↦ (frameOf pkt).render.getD offset 0

theorem NetworkHeader.length_render_le (network : NetworkHeader) (protocol : UInt8) :
    (network.render protocol).length ≤ 60 := by
  cases network with
  | ipv4 service route options options_fit =>
    simp only [NetworkHeader.render, List.length_cons, List.length_append, Vector.length_toList]
    omega
  | ipv6 label route =>
    simp only [NetworkHeader.render, List.length_cons, List.length_append, Vector.length_toList]
    omega

theorem TransportHeader.length_render_le (transport : TransportHeader) (payloadLength : ℕ) :
    (transport.render payloadLength).length ≤ 60 := by
  cases transport with
  | tcp ports flags options options_fit =>
    simp only [TransportHeader.render, List.length_cons, List.length_append, Vector.length_toList]
    omega
  | udp ports checksum =>
    simp only [TransportHeader.render, List.length_cons, List.length_append, Vector.length_toList]
    omega
  | other => exact Nat.zero_le 60

theorem holds_memoryOf (frameOf : Mbuf → Frame) (pkt : Mbuf) :
    (memoryOf frameOf).Holds pkt (frameOf pkt).render := by
  have hfits := (frameOf pkt).payload_fits
  have hnetwork := (frameOf pkt).network.length_render_le (frameOf pkt).transport.protocol
  have htransport := (frameOf pkt).transport.length_render_le (frameOf pkt).payload.length
  refine ⟨?_, fun offset h ↦ (List.getElem_eq_getD 0).symm⟩
  rw [memoryOf, UInt32.toNat_ofNat', Nat.mod_eq_of_lt]
  rw [Frame.length_render, Frame.transportOffset]
  omega

/-- A TCP segment from port 443, with options in the network header and three bytes of payload. -/
def segment : Frame where
  addresses := Vector.replicate 12 2
  network := .ipv4 (Vector.replicate 8 0) (Vector.replicate 10 7) [1, 1, 1, 1] (by decide)
  transport :=
    .tcp #v[1, 187, 192, 1, 0, 0, 0, 0, 0, 0, 0, 0] (Vector.replicate 7 0) [] (by decide)
  payload := [22, 3, 1]
  payload_fits := by decide

theorem segment_read_back :
    ∃ read, extractPacketHeaders .network (memoryOf fun _ : Unit ↦ segment) () .cleared =
      (read, true) ∧ read.payloadSize.toNat = 3 := by
  obtain ⟨⟨read, hread, -, -, hsize, -⟩, -⟩ :=
    frame_round_trip (holds_memoryOf (fun _ : Unit ↦ segment) ()) .cleared
  exact ⟨read, hread, hsize⟩

end VirtualServiceGateway.Dpdk
