import Mathlib.Algebra.Order.Group.Multiset
import VirtualServiceGateway.Foundation.WrappingCounter
import VirtualServiceGateway.Dpdk.ForwardingCores

/-!
# Ownership of the forwarded packets

Whatever the port and the ring answer and however the cores interleave, each received mbuf is in one
place: the burst of a core, the ring, with the port or freed. Each packet counter follows its port
calls one step behind, so the counters balance except between such a call and its update.
-/

namespace VirtualServiceGateway.Dpdk

open Interleaving WrappingCounter

variable {Mbuf : Type*}

/-! ## What a core holds -/

/-- The mbufs in the array of the receiving core that it has neither passed on nor freed. -/
def RxStage.burst : RxStage Mbuf → List Mbuf
  | .counting bufs => bufs
  | .enqueuing bufs => bufs
  | .freeing bufs i => bufs.drop i
  | _ => []

/-- The mbufs in the array of the transmitting core that it has neither passed on nor freed. -/
def TxStage.burst : TxStage Mbuf → List Mbuf
  | .swapping bufs _ => bufs
  | .sending bufs => bufs
  | .freeing bufs _ i => bufs.drop i
  | _ => []

def Core.burst : Core Mbuf → List Mbuf
  | .rx stage => stage.burst
  | .tx stage => stage.burst
  | .signalHandler => []

/-- The packets of a burst that the core has received and not yet added to `rx_packets`. -/
def RxStage.uncounted : RxStage Mbuf → ℕ
  | .counting bufs => bufs.length
  | _ => 0

/-- The packets of a burst that the port has taken and the core not yet added to `tx_packets`. -/
def TxStage.uncounted : TxStage Mbuf → ℕ
  | .freeing _ nbTx _ => nbTx
  | .counting sent => sent
  | _ => 0

def Core.uncountedRx : Core Mbuf → ℕ
  | .rx stage => stage.uncounted
  | _ => 0

def Core.uncountedTx : Core Mbuf → ℕ
  | .tx stage => stage.uncounted
  | _ => 0

/-- All places for an mbuf: the burst of each core, the ring, the port and the freed mbufs. -/
def places (config : Config (Forwarder Mbuf) (Core Mbuf)) : List (List Mbuf) :=
  config.workers.map Core.burst ++
    [config.shared.ring, config.shared.transmitted, config.shared.freed]

/-- The packets that `rx_packets` should contain beyond `tx_packets`. -/
def outstanding (config : Config (Forwarder Mbuf) (Core Mbuf)) : ℕ :=
  config.shared.freed.length + config.shared.ring.length +
    tally (fun core ↦ core.burst.length) config.workers

/-- The counters balance. -/
def Balanced (config : Config (Forwarder Mbuf) (Core Mbuf)) : Prop :=
  config.shared.rxPackets = config.shared.txPackets + wrap64 (outstanding config)

instance (config : Config (Forwarder Mbuf) (Core Mbuf)) : Decidable (Balanced config) :=
  inferInstanceAs (Decidable (_ = _))

/-- No core is between a call that moved packets through the port and the update of its counter. -/
def CountersCaughtUp (config : Config (Forwarder Mbuf) (Core Mbuf)) : Prop :=
  ∀ core ∈ config.workers, core.uncountedRx = 0 ∧ core.uncountedTx = 0

instance (config : Config (Forwarder Mbuf) (Core Mbuf)) : Decidable (CountersCaughtUp config) :=
  inferInstanceAs (Decidable (∀ core ∈ config.workers, _ ∧ _))

/-! ## What a step moves -/

/-- The mbufs outside the cores. -/
def Forwarder.placed (forwarder : Forwarder Mbuf) : Multiset Mbuf :=
  ↑forwarder.ring + ↑forwarder.transmitted + ↑forwarder.freed

/-- A burst is the part that a call moves followed by the part that it leaves. -/
theorem coe_take_add_drop (bufs : List Mbuf) (moved : ℕ) :
    (↑(bufs.take moved) + ↑(bufs.drop moved) : Multiset Mbuf) = ↑bufs := by
  rw [Multiset.coe_add, List.take_append_drop]

theorem coe_drop_of_getElem? {bufs : List Mbuf} {i : ℕ} {mbuf : Mbuf}
    (hmbuf : bufs[i]? = some mbuf) :
    (↑(bufs.drop i) : Multiset Mbuf) = ↑[mbuf] + ↑(bufs.drop (i + 1)) := by
  obtain ⟨hi, rfl⟩ := List.getElem?_eq_some_iff.mp hmbuf
  rw [Multiset.coe_add, List.singleton_append, List.getElem_cons_drop]

section Calls

variable {answer : Answer Mbuf} {forwarder after : Forwarder Mbuf} {bufs : List Mbuf} {moved : ℕ}

theorem placed_of_enqueueBurst
    (hcall : rteRingSpEnqueueBurst forwarder answer bufs = (after, moved)) :
    after.placed + ↑(bufs.drop moved) = forwarder.placed + ↑bufs := by
  cases hcall
  rw [← coe_take_add_drop bufs]
  simp only [Forwarder.placed, ← Multiset.coe_add]
  ac_rfl

theorem placed_of_dequeueBurst
    (hcall : rteRingScDequeueBurst forwarder answer = (after, bufs)) :
    after.placed + ↑bufs = forwarder.placed := by
  cases hcall
  simp only [Forwarder.placed]
  rw [← coe_take_add_drop forwarder.ring]
  ac_rfl

theorem placed_of_txBurst (hcall : rteEthTxBurst forwarder answer bufs = (after, moved)) :
    after.placed + ↑(bufs.drop moved) = forwarder.placed + ↑bufs := by
  cases hcall
  rw [← coe_take_add_drop bufs]
  simp only [Forwarder.placed, ← Multiset.coe_add]
  ac_rfl

theorem transmitted_of_txBurst (hcall : rteEthTxBurst forwarder answer bufs = (after, moved)) :
    after.transmitted.length = forwarder.transmitted.length + moved ∧ moved ≤ bufs.length ∧
      after.txPackets = forwarder.txPackets := by
  cases hcall
  have hle := min_le_right answer.moved bufs.length
  refine ⟨?_, hle, rfl⟩
  rw [List.length_append, List.length_take_of_le hle]

/-- Freeing the mbuf at an index takes it from the rest of the burst. -/
theorem placed_rtePktmbufFree {i : ℕ} {mbuf : Mbuf} (hmbuf : bufs[i]? = some mbuf) :
    (rtePktmbufFree forwarder mbuf).placed + ↑(bufs.drop (i + 1)) =
      forwarder.placed + ↑(bufs.drop i) := by
  rw [coe_drop_of_getElem? hmbuf]
  simp only [rtePktmbufFree, Forwarder.placed, ← Multiset.coe_add]
  ac_rfl

end Calls

section Steps

variable [DecidableEq Mbuf] (answer : Answer Mbuf) (forwarder : Forwarder Mbuf)

/-- The receiving core adds to the places the mbufs that it receives. -/
theorem lcoreRx_mbufs (stage : RxStage Mbuf) :
    (lcoreRx answer forwarder stage).1.placed + ↑(lcoreRx answer forwarder stage).2.burst +
        ↑forwarder.received =
      forwarder.placed + ↑stage.burst + ↑(lcoreRx answer forwarder stage).1.received := by
  fun_cases lcoreRx answer forwarder stage with
  | case2 _ after bufs hcall hempty =>
    cases hcall
    simp only [List.eq_nil_of_length_eq_zero hempty, List.append_nil]
    rfl
  | case3 _ after bufs hcall =>
    cases hcall
    simp only [Forwarder.placed, RxStage.burst, Multiset.coe_nil,
      ← Multiset.coe_add]
    ac_rfl
  | case5 bufs after nbEnqueued hcall =>
    have hplaced := placed_of_enqueueBurst hcall
    cases hcall
    exact congrArg (· + (forwarder.received : Multiset Mbuf)) hplaced
  | case6 bufs after nbEnqueued hcall hall =>
    have hplaced := placed_of_enqueueBurst hcall
    rw [List.drop_eq_nil_of_le (Nat.not_lt.mp hall)] at hplaced
    cases hcall
    exact congrArg (· + (forwarder.received : Multiset Mbuf)) hplaced
  | case7 bufs i mbuf hmbuf =>
    exact congrArg (· + (forwarder.received : Multiset Mbuf)) (placed_rtePktmbufFree hmbuf)
  | case8 bufs i hdone =>
    rw [RxStage.burst, List.drop_eq_nil_of_le (List.getElem?_eq_none_iff.mp hdone)]
    rfl
  | case1 | case4 | case9 => rfl

/-- `rx_packets` follows what the core receives. -/
theorem lcoreRx_counts (stage : RxStage Mbuf) :
    (lcoreRx answer forwarder stage).1.rxPackets +
          wrap64 (lcoreRx answer forwarder stage).2.uncounted +
        wrap64 forwarder.received.length =
      forwarder.rxPackets + wrap64 stage.uncounted +
        wrap64 (lcoreRx answer forwarder stage).1.received.length := by
  fun_cases lcoreRx answer forwarder stage with
  | case2 _ after bufs hcall hempty =>
    cases hcall
    simp only [List.eq_nil_of_length_eq_zero hempty, List.append_nil]
  | case3 _ after bufs hcall =>
    cases hcall
    simp only [RxStage.uncounted, List.length_append, map_add, map_zero]
    ac_rfl
  | case4 bufs =>
    change forwarder.rxPackets + wrap64 bufs.length + wrap64 0 + _ = _ + wrap64 bufs.length + _
    rw [map_zero, add_zero]
  | case5 bufs after nbEnqueued hcall =>
    cases hcall
    rfl
  | case6 bufs after nbEnqueued hcall =>
    cases hcall
    rfl
  | case1 | case7 | case8 | case9 => rfl

/-- The receiving core leaves the other counter alone. -/
theorem lcoreRx_transmitted (stage : RxStage Mbuf) :
    (lcoreRx answer forwarder stage).1.txPackets = forwarder.txPackets ∧
      (lcoreRx answer forwarder stage).1.transmitted = forwarder.transmitted := by
  fun_cases lcoreRx answer forwarder stage with
  | case2 _ after bufs hcall | case3 _ after bufs hcall | case5 bufs after moved hcall
  | case6 bufs after moved hcall =>
    cases hcall
    exact ⟨rfl, rfl⟩
  | case1 | case4 | case7 | case8 | case9 => exact ⟨rfl, rfl⟩

/-- The transmitting core moves mbufs from place to place. -/
theorem lcoreTx_mbufs (stage : TxStage Mbuf) :
    (lcoreTx answer forwarder stage).1.placed + ↑(lcoreTx answer forwarder stage).2.burst =
      forwarder.placed + ↑stage.burst := by
  fun_cases lcoreTx answer forwarder stage with
  | case2 _ after bufs hcall hempty =>
    have hplaced := placed_of_dequeueBurst hcall
    rw [List.eq_nil_of_length_eq_zero hempty] at hplaced
    exact hplaced.trans (add_zero _).symm
  | case3 _ after bufs hcall => exact (placed_of_dequeueBurst hcall).trans (add_zero _).symm
  | case6 bufs after nbTx hcall => exact placed_of_txBurst hcall
  | case7 bufs after nbTx hcall hall =>
    have hplaced := placed_of_txBurst hcall
    rwa [List.drop_eq_nil_of_le (Nat.not_lt.mp hall)] at hplaced
  | case8 bufs nbTx i mbuf hmbuf => exact placed_rtePktmbufFree hmbuf
  | case9 bufs nbTx i hdone =>
    rw [TxStage.burst, List.drop_eq_nil_of_le (List.getElem?_eq_none_iff.mp hdone)]
    rfl
  | case1 | case4 | case5 | case10 | case11 => rfl

/-- `tx_packets` follows what the port takes. -/
theorem lcoreTx_counts (stage : TxStage Mbuf) :
    (lcoreTx answer forwarder stage).1.txPackets +
          wrap64 (lcoreTx answer forwarder stage).2.uncounted +
        wrap64 forwarder.transmitted.length =
      forwarder.txPackets + wrap64 stage.uncounted +
        wrap64 (lcoreTx answer forwarder stage).1.transmitted.length := by
  fun_cases lcoreTx answer forwarder stage with
  | case2 _ after bufs hcall | case3 _ after bufs hcall =>
    cases hcall
    rfl
  | case6 bufs after nbTx hcall =>
    obtain ⟨hlength, -, hcounter⟩ := transmitted_of_txBurst hcall
    simp only [TxStage.uncounted, hlength, hcounter, map_add, map_zero]
    ac_rfl
  | case7 bufs after nbTx hcall hall =>
    obtain ⟨hlength, hle, hcounter⟩ := transmitted_of_txBurst hcall
    rw [hle.antisymm (Nat.not_lt.mp hall)] at hlength
    simp only [TxStage.uncounted, hlength, hcounter, map_add, map_zero]
    ac_rfl
  | case10 sent =>
    change forwarder.txPackets + wrap64 sent + wrap64 0 + _ = _ + wrap64 sent + _
    rw [map_zero, add_zero]
  | case1 | case4 | case5 | case8 | case9 | case11 => rfl

/-- The transmitting core leaves the other counter alone. -/
theorem lcoreTx_received (stage : TxStage Mbuf) :
    (lcoreTx answer forwarder stage).1.rxPackets = forwarder.rxPackets ∧
      (lcoreTx answer forwarder stage).1.received = forwarder.received := by
  fun_cases lcoreTx answer forwarder stage with
  | case2 _ after bufs hcall | case3 _ after bufs hcall | case6 bufs after moved hcall
  | case7 bufs after moved hcall =>
    cases hcall
    exact ⟨rfl, rfl⟩
  | case1 | case4 | case5 | case8 | case9 | case10 | case11 => exact ⟨rfl, rfl⟩

theorem advance_mbufs (core : Core Mbuf) :
    (core.advance answer forwarder).1.placed + ↑(core.advance answer forwarder).2.burst +
        ↑forwarder.received =
      forwarder.placed + ↑core.burst + ↑(core.advance answer forwarder).1.received := by
  cases core with
  | rx stage => exact lcoreRx_mbufs answer forwarder stage
  | tx stage =>
    have hreceived := (lcoreTx_received answer forwarder stage).2
    have hmbufs := lcoreTx_mbufs answer forwarder stage
    simp only [Core.advance, Core.burst, hreceived, hmbufs]
  | signalHandler => rfl

theorem advance_rxPackets (core : Core Mbuf) :
    (core.advance answer forwarder).1.rxPackets +
          wrap64 (core.advance answer forwarder).2.uncountedRx +
        wrap64 forwarder.received.length =
      forwarder.rxPackets + wrap64 core.uncountedRx +
        wrap64 (core.advance answer forwarder).1.received.length := by
  cases core with
  | rx stage => exact lcoreRx_counts answer forwarder stage
  | tx stage =>
    obtain ⟨hpackets, hreceived⟩ := lcoreTx_received answer forwarder stage
    simp only [Core.advance, Core.uncountedRx, hpackets, hreceived]
  | signalHandler => rfl

theorem advance_txPackets (core : Core Mbuf) :
    (core.advance answer forwarder).1.txPackets +
          wrap64 (core.advance answer forwarder).2.uncountedTx +
        wrap64 forwarder.transmitted.length =
      forwarder.txPackets + wrap64 core.uncountedTx +
        wrap64 (core.advance answer forwarder).1.transmitted.length := by
  cases core with
  | rx stage =>
    obtain ⟨hpackets, htransmitted⟩ := lcoreRx_transmitted answer forwarder stage
    simp only [Core.advance, Core.uncountedTx, hpackets, htransmitted]
  | tx stage => exact lcoreTx_counts answer forwarder stage
  | signalHandler => rfl

end Steps

/-! ## Counting the places -/

/-- What the places of a configuration hold together. -/
abbrev placedIn (config : Config (Forwarder Mbuf) (Core Mbuf)) : Multiset Mbuf :=
  total Forwarder.placed (fun core ↦ (↑core.burst : Multiset Mbuf)) config

theorem count_placedIn [DecidableEq Mbuf] (config : Config (Forwarder Mbuf) (Core Mbuf))
    (mbuf : Mbuf) :
    (placedIn config).count mbuf = ((places config).map (List.count mbuf)).sum := by
  have hcount := map_total (Multiset.countAddMonoidHom mbuf) Forwarder.placed
    (fun core ↦ (↑core.burst : Multiset Mbuf)) config
  rw [Multiset.coe_countAddMonoidHom] at hcount
  rw [placedIn, hcount]
  simp only [total, places, Forwarder.placed, Multiset.count_add, Multiset.coe_count,
    List.map_append, List.map_map, List.sum_append, List.map_cons, List.map_nil, List.sum_cons,
    List.sum_nil, Function.comp_def]
  ac_rfl

theorem card_placedIn (config : Config (Forwarder Mbuf) (Core Mbuf)) :
    (placedIn config).card = outstanding config + config.shared.transmitted.length := by
  have hcard := map_total (Multiset.cardHom : Multiset Mbuf →+ ℕ) Forwarder.placed
    (fun core ↦ (↑core.burst : Multiset Mbuf)) config
  rw [Multiset.cardHom_apply] at hcard
  rw [placedIn, hcard]
  simp only [total, outstanding, tally, Forwarder.placed, Multiset.cardHom_apply,
    Multiset.card_add, Multiset.coe_card]
  ac_rfl

/-! ## After a schedule -/

section Runs

variable [DecidableEq Mbuf] (headers : Mbuf → EtherHdr) (schedule : List (ℕ × Answer Mbuf))

/-- **Conservation of mbufs.** The mbufs in all places are the received ones. -/
theorem forward_mbufs :
    placedIn (forward headers schedule) = ↑(forward headers schedule).shared.received := by
  apply total_run Forwarder.placed (fun core : Core Mbuf ↦ (↑core.burst : Multiset Mbuf))
    (fun forwarder ↦ ↑forwarder.received) advance_mbufs
  rfl

/-- `rx_packets` and the packets it does not contain yet are the received ones. -/
theorem forward_rxPackets :
    (forward headers schedule).shared.rxPackets +
        wrap64 (tally Core.uncountedRx (forward headers schedule).workers) =
      wrap64 (forward headers schedule).shared.received.length := by
  rw [← sum_map_wrap]
  apply total_run Forwarder.rxPackets (fun core : Core Mbuf ↦ wrap64 core.uncountedRx)
    (fun forwarder ↦ wrap64 forwarder.received.length) advance_rxPackets
  simp [total, launched, Core.uncountedRx, RxStage.uncounted]

/-- `tx_packets` and the packets it does not contain yet are the ones that the port has taken. -/
theorem forward_txPackets :
    (forward headers schedule).shared.txPackets +
        wrap64 (tally Core.uncountedTx (forward headers schedule).workers) =
      wrap64 (forward headers schedule).shared.transmitted.length := by
  rw [← sum_map_wrap]
  apply total_run Forwarder.txPackets (fun core : Core Mbuf ↦ wrap64 core.uncountedTx)
    (fun forwarder ↦ wrap64 forwarder.transmitted.length) advance_txPackets
  simp [total, launched, Core.uncountedTx, TxStage.uncounted]

/-- However often an mbuf has been received, the places hold it as often. -/
theorem count_places (mbuf : Mbuf) :
    ((places (forward headers schedule)).map (List.count mbuf)).sum =
      (forward headers schedule).shared.received.count mbuf := by
  rw [← count_placedIn, forward_mbufs, Multiset.coe_count]

theorem received_length :
    (forward headers schedule).shared.received.length =
      outstanding (forward headers schedule) +
        (forward headers schedule).shared.transmitted.length := by
  rw [← card_placedIn, forward_mbufs, Multiset.coe_card]

/-- The counters balance up to the packets that they do not contain yet. -/
theorem balance_with_uncounted :
    (forward headers schedule).shared.rxPackets +
        wrap64 (tally Core.uncountedRx (forward headers schedule).workers) =
      (forward headers schedule).shared.txPackets +
        wrap64 (tally Core.uncountedTx (forward headers schedule).workers) +
        wrap64 (outstanding (forward headers schedule)) := by
  rw [forward_rxPackets, forward_txPackets, received_length, map_add, add_comm]

theorem balanced_of_countersCaughtUp (hcaught : CountersCaughtUp (forward headers schedule)) :
    Balanced (forward headers schedule) := by
  have hrx := (tally_eq_zero_iff Core.uncountedRx _).mpr fun core hcore ↦ (hcaught core hcore).1
  have htx := (tally_eq_zero_iff Core.uncountedTx _).mpr fun core hcore ↦ (hcaught core hcore).2
  have hbalance := balance_with_uncounted headers schedule
  rwa [hrx, htx, map_zero, add_zero, add_zero] at hbalance

/-- **Ownership.** While the port hands over fresh mbufs, each received mbuf is in exactly one place
and no other mbuf is in any. The counters balance up to the packets of a burst that the port has
moved and its core not yet counted, so they balance whenever no core is between the two. -/
theorem forward_keeps_ownership
    (hfresh : (forward headers schedule).shared.received.Nodup) :
    (∀ mbuf, ((places (forward headers schedule)).map (List.count mbuf)).sum =
      if mbuf ∈ (forward headers schedule).shared.received then 1 else 0) ∧
    ((forward headers schedule).shared.rxPackets +
        wrap64 (tally Core.uncountedRx (forward headers schedule).workers) =
      (forward headers schedule).shared.txPackets +
        wrap64 (tally Core.uncountedTx (forward headers schedule).workers) +
        wrap64 (outstanding (forward headers schedule))) ∧
    (CountersCaughtUp (forward headers schedule) → Balanced (forward headers schedule)) := by
  refine ⟨?_, balance_with_uncounted headers schedule,
    balanced_of_countersCaughtUp headers schedule⟩
  intro mbuf
  rw [count_places]
  split
  case isTrue hmem => exact List.count_eq_one_of_mem hfresh hmem
  case isFalse hmem => exact List.count_eq_zero_of_not_mem hmem

end Runs

def blankHeaders (_ : ℕ) : EtherHdr := ⟨Vector.replicate 6 0, Vector.replicate 6 0⟩

/-- Two packets arrive, the ring takes one of them and the other one is freed. -/
def shortRing : List (ℕ × Answer ℕ) :=
  [(0, ⟨[1, 2], blankHeaders, 0⟩), (0, ⟨[], blankHeaders, 0⟩), (0, ⟨[], blankHeaders, 1⟩),
    (0, ⟨[], blankHeaders, 0⟩)]

theorem shortRing_keeps_ownership :
    ((places (forward blankHeaders shortRing)).map (List.count 2)).sum = 1 ∧
      Balanced (forward blankHeaders shortRing) := by
  have hkept := forward_keeps_ownership blankHeaders shortRing (by decide)
  exact ⟨(hkept.1 2).trans (if_pos (by decide)), hkept.2.2 (by decide)⟩

/-- One packet arrives and the ring takes it, then the port takes it from the other core. -/
def onePacket : List (ℕ × Answer ℕ) :=
  [(0, ⟨[1], blankHeaders, 0⟩), (0, ⟨[], blankHeaders, 0⟩), (0, ⟨[], blankHeaders, 1⟩),
    (1, ⟨[], blankHeaders, 1⟩), (1, ⟨[], blankHeaders, 0⟩), (1, ⟨[], blankHeaders, 0⟩),
    (1, ⟨[], blankHeaders, 1⟩)]

/-- Right after a call on the port, the counter does not contain its packet. -/
theorem counters_behind_port :
    (forward blankHeaders (onePacket.take 1)).shared.received = [1] ∧
      ¬ Balanced (forward blankHeaders (onePacket.take 1)) ∧
      (forward blankHeaders onePacket).shared.transmitted = [1] ∧
      ¬ Balanced (forward blankHeaders onePacket) := by
  decide

end VirtualServiceGateway.Dpdk
