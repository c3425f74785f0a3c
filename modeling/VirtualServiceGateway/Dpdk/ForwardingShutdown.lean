import VirtualServiceGateway.Dpdk.ForwardingOrder
import VirtualServiceGateway.Dpdk.PacketOwnership

/-!
# Shutdown of the forwarding cores

No array holds more than a burst and the ring no more than its capacity, so the cores keep far fewer
mbufs than their pool has. After the signal each core ends within a number of its own steps that the
burst bounds, whatever the other one does. Then the packet counters are exact, and the only mbufs
that are neither with the port nor freed are those left in the ring.
-/

namespace VirtualServiceGateway.Dpdk

open Interleaving WrappingCounter

variable {Mbuf : Type*}

/-- `MEMPOOL_MBUF_NUM`. -/
def mempoolMbufNum : ℕ := 8192

/-- The descriptors that `configure_port` asks for, for the receive queue and again for the transmit
queue. -/
def queueDescriptors : ℕ := burstSize * 2

/-! ## Arrays -/

/-- The array of the receiving core. -/
def RxStage.bufs : RxStage Mbuf → List Mbuf
  | .counting bufs => bufs
  | .enqueuing bufs => bufs
  | .freeing bufs _ => bufs
  | _ => []

/-- The array of the transmitting core. -/
def TxStage.bufs : TxStage Mbuf → List Mbuf
  | .swapping bufs _ => bufs
  | .sending bufs => bufs
  | .freeing bufs _ _ => bufs
  | _ => []

theorem RxStage.length_burst_le (stage : RxStage Mbuf) : stage.burst.length ≤ stage.bufs.length := by
  cases stage with
  | freeing bufs i => exact (List.drop_sublist i bufs).length_le
  | polling | counting bufs | enqueuing bufs | exited => exact le_rfl

theorem TxStage.length_burst_le (stage : TxStage Mbuf) : stage.burst.length ≤ stage.bufs.length := by
  cases stage with
  | freeing bufs nbTx i => exact (List.drop_sublist i bufs).length_le
  | polling | swapping bufs i | sending bufs | counting sent | exited => exact le_rfl

/-- The ring and both arrays are within their bounds. -/
structure Bounded (forwarder : Forwarder Mbuf) (rx : RxStage Mbuf) (tx : TxStage Mbuf) : Prop where
  ring : forwarder.ring.length ≤ ringCapacity
  rx : rx.bufs.length ≤ burstSize
  tx : tx.bufs.length ≤ burstSize

section Bounds

variable [DecidableEq Mbuf] {answer : Answer Mbuf} {forwarder : Forwarder Mbuf}
  {rx : RxStage Mbuf} {tx : TxStage Mbuf}

/-- The receiving core gives the ring no more than it has room for. -/
theorem length_ring_lcoreRx (hring : forwarder.ring.length ≤ ringCapacity) :
    (lcoreRx answer forwarder rx).1.ring.length ≤ ringCapacity := by
  fun_cases lcoreRx answer forwarder rx with
  | case5 bufs after nbEnqueued hcall | case6 bufs after nbEnqueued hcall =>
    cases hcall
    have hroom : min answer.moved (min bufs.length (ringCapacity - forwarder.ring.length)) ≤
        ringCapacity - forwarder.ring.length :=
      (min_le_right _ _).trans (min_le_right _ _)
    have htaken := List.length_take_le
      (min answer.moved (min bufs.length (ringCapacity - forwarder.ring.length))) bufs
    rw [List.length_append]
    omega
  | case2 _ after bufs hcall | case3 _ after bufs hcall =>
    cases hcall
    exact hring
  | case1 | case4 | case7 | case8 | case9 => exact hring

theorem length_ring_lcoreTx (hring : forwarder.ring.length ≤ ringCapacity) :
    (lcoreTx answer forwarder tx).1.ring.length ≤ ringCapacity := by
  fun_cases lcoreTx answer forwarder tx with
  | case2 _ after bufs hcall | case3 _ after bufs hcall =>
    cases hcall
    exact (List.drop_sublist _ forwarder.ring).length_le.trans hring
  | case6 bufs after nbTx hcall | case7 bufs after nbTx hcall =>
    cases hcall
    exact hring
  | case1 | case4 | case5 | case8 | case9 | case10 | case11 => exact hring

theorem length_bufs_lcoreRx (hbufs : rx.bufs.length ≤ burstSize) :
    (lcoreRx answer forwarder rx).2.bufs.length ≤ burstSize := by
  fun_cases lcoreRx answer forwarder rx with
  | case3 _ after bufs hcall =>
    cases hcall
    exact List.length_take_le _ _
  | case4 | case5 | case7 => exact hbufs
  | case1 | case2 | case6 | case8 | case9 => exact Nat.zero_le _

theorem length_bufs_lcoreTx (hbufs : tx.bufs.length ≤ burstSize) :
    (lcoreTx answer forwarder tx).2.bufs.length ≤ burstSize := by
  fun_cases lcoreTx answer forwarder tx with
  | case3 _ after bufs hcall =>
    cases hcall
    exact (List.length_take_le _ _).trans (min_le_right _ _)
  | case4 | case5 | case6 | case8 => exact hbufs
  | case1 | case2 | case7 | case9 | case10 | case11 => exact Nat.zero_le _

end Bounds

/-! ## The way out -/

/-- The most steps that the receiving core takes until it is out of its loop. -/
def RxStage.untilExit : RxStage Mbuf → ℕ
  | .polling => 1
  | .counting bufs => bufs.length + 4
  | .enqueuing bufs => bufs.length + 3
  | .freeing bufs i => (bufs.length - i) + 2
  | .exited => 0

/-- The most steps that the transmitting core takes until it is out of its loop. -/
def TxStage.untilExit : TxStage Mbuf → ℕ
  | .polling => 1
  | .swapping bufs i => (bufs.length - i) + bufs.length + 5
  | .sending bufs => bufs.length + 4
  | .freeing bufs _ i => (bufs.length - i) + 3
  | .counting _ => 2
  | .exited => 0

def Core.untilExit : Core Mbuf → ℕ
  | .rx stage => stage.untilExit
  | .tx stage => stage.untilExit
  | .signalHandler => 0

/-- The steps that end either core from any place in its loop. -/
def shutdownSteps : ℕ := 2 * burstSize + 5

theorem RxStage.untilExit_le (stage : RxStage Mbuf) :
    stage.untilExit ≤ stage.bufs.length + 4 := by
  cases stage <;> simp only [RxStage.untilExit, RxStage.bufs] <;> omega

theorem TxStage.untilExit_le (stage : TxStage Mbuf) :
    stage.untilExit ≤ 2 * stage.bufs.length + 5 := by
  cases stage <;> simp only [TxStage.untilExit, TxStage.bufs] <;> omega

theorem RxStage.eq_exited {stage : RxStage Mbuf} (hexit : stage.untilExit = 0) :
    stage = .exited := by
  cases stage <;> simp only [RxStage.untilExit] at hexit <;> first | rfl | omega

theorem TxStage.eq_exited {stage : TxStage Mbuf} (hexit : stage.untilExit = 0) :
    stage = .exited := by
  cases stage <;> simp only [TxStage.untilExit] at hexit <;> first | rfl | omega

section Steps

variable [DecidableEq Mbuf] (answer : Answer Mbuf) (forwarder : Forwarder Mbuf)

/-- Once the flag is set, every step of the receiving core brings it nearer to its end. -/
theorem untilExit_lcoreRx (stage : RxStage Mbuf) (hquit : forwarder.forceQuit) :
    (lcoreRx answer forwarder stage).2.untilExit ≤ stage.untilExit - 1 := by
  fun_cases lcoreRx answer forwarder stage with
  | case2 hrunning | case3 hrunning => exact absurd hquit hrunning
  | case1 | case9 => exact Nat.zero_le _
  | case4 bufs => exact le_rfl
  | case5 bufs after nbEnqueued hcall hless =>
    simp only [RxStage.untilExit]
    omega
  | case6 bufs after nbEnqueued hcall hall =>
    simp only [RxStage.untilExit]
    omega
  | case7 bufs i mbuf hmbuf =>
    have hi := (List.getElem?_eq_some_iff.mp hmbuf).1
    simp only [RxStage.untilExit]
    omega
  | case8 bufs i hdone =>
    simp only [RxStage.untilExit]
    omega

theorem untilExit_lcoreTx (stage : TxStage Mbuf) (hquit : forwarder.forceQuit) :
    (lcoreTx answer forwarder stage).2.untilExit ≤ stage.untilExit - 1 := by
  fun_cases lcoreTx answer forwarder stage with
  | case2 hrunning | case3 hrunning => exact absurd hquit hrunning
  | case1 | case11 => exact Nat.zero_le _
  | case4 bufs i mbuf hmbuf =>
    have hi := (List.getElem?_eq_some_iff.mp hmbuf).1
    simp only [TxStage.untilExit]
    omega
  | case8 bufs nbTx i mbuf hmbuf =>
    have hi := (List.getElem?_eq_some_iff.mp hmbuf).1
    simp only [TxStage.untilExit]
    omega
  | case5 bufs i hdone | case6 bufs after nbTx hcall hless | case7 bufs after nbTx hcall hall
  | case9 bufs nbTx i hdone | case10 sent =>
    simp only [TxStage.untilExit]
    omega

theorem untilExit_advance (core : Core Mbuf) (hquit : forwarder.forceQuit) :
    (core.advance answer forwarder).2.untilExit ≤ core.untilExit - 1 := by
  cases core with
  | rx stage => exact untilExit_lcoreRx answer forwarder stage hquit
  | tx stage => exact untilExit_lcoreTx answer forwarder stage hquit
  | signalHandler => exact Nat.zero_le _

/-- The receiving core leaves its loop only when it sees the flag. -/
theorem exited_lcoreRx {stage : RxStage Mbuf} (hbefore : stage = .exited → forwarder.forceQuit) :
    (lcoreRx answer forwarder stage).2 = .exited → forwarder.forceQuit := by
  fun_cases lcoreRx answer forwarder stage with
  | case1 hquit => exact fun _ ↦ hquit
  | case9 => exact hbefore
  | case2 | case3 | case4 | case5 | case6 | case7 | case8 => exact fun hexited ↦ (by cases hexited)

theorem exited_lcoreTx {stage : TxStage Mbuf} (hbefore : stage = .exited → forwarder.forceQuit) :
    (lcoreTx answer forwarder stage).2 = .exited → forwarder.forceQuit := by
  fun_cases lcoreTx answer forwarder stage with
  | case1 hquit => exact fun _ ↦ hquit
  | case11 => exact hbefore
  | case2 | case3 | case4 | case5 | case6 | case7 | case8 | case9 | case10 =>
    exact fun hexited ↦ (by cases hexited)

/-- No core clears the flag. -/
theorem forceQuit_advance (core : Core Mbuf) (hquit : forwarder.forceQuit) :
    (core.advance answer forwarder).1.forceQuit := by
  cases core with
  | rx stage =>
    simp only [Core.advance]
    fun_cases lcoreRx answer forwarder stage with
    | case2 hrunning | case3 hrunning => exact absurd hquit hrunning
    | case5 bufs after nbEnqueued hcall | case6 bufs after nbEnqueued hcall =>
      cases hcall
      exact hquit
    | case1 | case4 | case7 | case8 | case9 => exact hquit
  | tx stage =>
    simp only [Core.advance]
    fun_cases lcoreTx answer forwarder stage with
    | case2 hrunning | case3 hrunning => exact absurd hquit hrunning
    | case6 bufs after nbTx hcall | case7 bufs after nbTx hcall =>
      cases hcall
      exact hquit
    | case1 | case4 | case5 | case8 | case9 | case10 | case11 => exact hquit
  | signalHandler => rfl

end Steps

/-! ## Every schedule -/

section Runs

variable [DecidableEq Mbuf] (headers : Mbuf → EtherHdr) (schedule : List (ℕ × Answer Mbuf))

theorem bounded_forward :
    ∃ rx tx, (forward headers schedule).workers = [.rx rx, .tx tx, .signalHandler] ∧
      Bounded (forward headers schedule).shared rx tx := by
  rw [← observe_config]
  apply observe_invariant headers fun forwarder _ rx tx ↦ Bounded forwarder rx tx
  · exact ⟨Nat.zero_le _, Nat.zero_le _, Nat.zero_le _⟩
  · exact fun answer forwarder _ rx tx hbounded ↦
      ⟨length_ring_lcoreRx hbounded.ring, length_bufs_lcoreRx hbounded.rx, hbounded.tx⟩
  · exact fun answer forwarder _ rx tx hbounded ↦
      ⟨length_ring_lcoreTx hbounded.ring, hbounded.rx, length_bufs_lcoreTx hbounded.tx⟩
  · exact fun forwarder _ rx tx hbounded ↦ ⟨hbounded.ring, hbounded.rx, hbounded.tx⟩

/-- **Loops.** As long as no signal comes, neither core leaves its loop. -/
theorem loops_without_signal (hrunning : ¬(forward headers schedule).shared.forceQuit) :
    ∃ rx tx, (forward headers schedule).workers = [.rx rx, .tx tx, .signalHandler] ∧
      rx ≠ .exited ∧ tx ≠ .exited := by
  have hexits : ∃ rx tx, (forward headers schedule).workers = [.rx rx, .tx tx, .signalHandler] ∧
      (rx = .exited → (forward headers schedule).shared.forceQuit) ∧
      (tx = .exited → (forward headers schedule).shared.forceQuit) := by
    rw [← observe_config]
    apply observe_invariant headers fun forwarder _ rx tx ↦
      (rx = .exited → forwarder.forceQuit) ∧ (tx = .exited → forwarder.forceQuit)
    · exact ⟨fun h ↦ (by cases h), fun h ↦ (by cases h)⟩
    · intro answer forwarder _ rx tx ⟨hrx, htx⟩
      have hkept := forceQuit_advance answer forwarder (.rx rx)
      exact ⟨fun h ↦ hkept (exited_lcoreRx answer forwarder hrx h), fun h ↦ hkept (htx h)⟩
    · intro answer forwarder _ rx tx ⟨hrx, htx⟩
      have hkept := forceQuit_advance answer forwarder (.tx tx)
      exact ⟨fun h ↦ hkept (hrx h), fun h ↦ hkept (exited_lcoreTx answer forwarder htx h)⟩
    · exact fun forwarder _ rx tx _ ↦ ⟨fun _ ↦ rfl, fun _ ↦ rfl⟩
  obtain ⟨rx, tx, hworkers, hrx, htx⟩ := hexits
  exact ⟨rx, tx, hworkers, mt hrx hrunning, mt htx hrunning⟩

/-- **Enough mbufs.** However the cores interleave, the mbufs that they and the ring hold are at most
a full ring and two bursts, so the pool always has more than these and the descriptors of both queues
need. -/
theorem forward_bounds_held :
    (forward headers schedule).shared.received.length ≤
        (forward headers schedule).shared.transmitted.length +
          (forward headers schedule).shared.freed.length + (ringCapacity + 2 * burstSize) ∧
      ringCapacity + 2 * burstSize + 2 * queueDescriptors < mempoolMbufNum := by
  obtain ⟨rx, tx, hworkers, hbounded⟩ := bounded_forward headers schedule
  have hrx := rx.length_burst_le.trans hbounded.rx
  have htx := tx.length_burst_le.trans hbounded.tx
  have hring := hbounded.ring
  have hlength := received_length headers schedule
  have hcores : tally (fun core ↦ core.burst.length) (forward headers schedule).workers =
      rx.burst.length + tx.burst.length := by
    rw [hworkers]
    simp [tally, Core.burst]
  rw [outstanding, hcores] at hlength
  refine ⟨?_, by decide⟩
  omega

/-- Both cores are out of their loops when each has made enough steps after the signal. -/
theorem exited_after_signal (hquit : (forward headers schedule).shared.forceQuit)
    (later : List (ℕ × Answer Mbuf)) (hrx : shutdownSteps ≤ later.countP fun pick ↦ pick.1 = 0)
    (htx : shutdownSteps ≤ later.countP fun pick ↦ pick.1 = 1) :
    (forward headers (schedule ++ later)).workers =
      [.rx .exited, .tx .exited, .signalHandler] := by
  obtain ⟨rx, tx, hworkers, hbounded⟩ := bounded_forward headers schedule
  obtain ⟨rx', tx', hworkers', -⟩ := bounded_forward headers (schedule ++ later)
  have hsplit : forward headers (schedule ++ later) =
      run Core.advance (forward headers schedule) later := Execution.run_append ..
  have hprogress (place : ℕ) (core : Core Mbuf)
      (hcore : (forward headers schedule).workers[place]? = some core) :=
    run_progress (fun forwarder : Forwarder Mbuf ↦ forwarder.forceQuit) Core.untilExit
      (fun answer forwarder core ↦ forceQuit_advance answer forwarder core)
      (fun answer forwarder core ↦ untilExit_advance answer forwarder core) hquit hcore later
  have hrx0 : rx'.untilExit = 0 := by
    obtain ⟨-, core, hcore, hmeasure⟩ := hprogress 0 (.rx rx) (by rw [hworkers]; rfl)
    rw [← hsplit, hworkers'] at hcore
    cases hcore
    have hstart := rx.untilExit_le
    have hburst := hbounded.rx
    simp only [Core.untilExit, shutdownSteps] at hmeasure hrx
    omega
  have htx0 : tx'.untilExit = 0 := by
    obtain ⟨-, core, hcore, hmeasure⟩ := hprogress 1 (.tx tx) (by rw [hworkers]; rfl)
    rw [← hsplit, hworkers'] at hcore
    cases hcore
    have hstart := tx.untilExit_le
    have hburst := hbounded.tx
    simp only [Core.untilExit, shutdownSteps] at hmeasure htx
    omega
  rw [hworkers', RxStage.eq_exited hrx0, TxStage.eq_exited htx0]

/-- **Shutdown.** When each core has made `shutdownSteps` steps after the signal, however they
interleave and whatever the port and the ring answer, both are out of their loops, the packet counters
are exact, and every received mbuf is with the port, freed or left in the ring. -/
theorem forward_shuts_down (hquit : (forward headers schedule).shared.forceQuit)
    (later : List (ℕ × Answer Mbuf)) (hrx : shutdownSteps ≤ later.countP fun pick ↦ pick.1 = 0)
    (htx : shutdownSteps ≤ later.countP fun pick ↦ pick.1 = 1) :
    let ended := forward headers (schedule ++ later)
    ended.workers = [.rx .exited, .tx .exited, .signalHandler] ∧
      (ended.shared.ring ++ ended.shared.transmitted ++ ended.shared.freed).Perm
        ended.shared.received ∧
      ended.shared.rxPackets = wrap64 ended.shared.received.length ∧
      ended.shared.txPackets = wrap64 ended.shared.transmitted.length := by
  intro ended
  have hworkers : ended.workers = [.rx .exited, .tx .exited, .signalHandler] :=
    exited_after_signal headers schedule hquit later hrx htx
  have hmbufs := forward_mbufs headers (schedule ++ later)
  have hrxPackets := forward_rxPackets headers (schedule ++ later)
  have htxPackets := forward_txPackets headers (schedule ++ later)
  change placedIn ended = _ at hmbufs
  change ended.shared.rxPackets + wrap64 (tally Core.uncountedRx ended.workers) = _ at hrxPackets
  change ended.shared.txPackets + wrap64 (tally Core.uncountedTx ended.workers) = _ at htxPackets
  rw [hworkers] at hrxPackets htxPackets
  refine ⟨hworkers, ?_, ?_, ?_⟩
  · rw [placedIn, total, hworkers] at hmbufs
    rw [← Multiset.coe_eq_coe, ← hmbufs]
    simp [Forwarder.placed, Core.burst, RxStage.burst, TxStage.burst, ← Multiset.coe_add, add_assoc]
  · simpa [tally, Core.uncountedRx, RxStage.uncounted] using hrxPackets
  · simpa [tally, Core.uncountedTx, TxStage.uncounted] using htxPackets

end Runs

/-- Two packets have arrived when the signal comes; the ring takes one of them after it. -/
def signalled : List (ℕ × Answer ℕ) :=
  [(0, ⟨[1, 2], blankHeaders, 0⟩), (2, ⟨[], blankHeaders, 0⟩), (0, ⟨[], blankHeaders, 0⟩),
    (0, ⟨[], blankHeaders, 1⟩)]

/-- Each core moves on until it is out of its loop. -/
def drained : List (ℕ × Answer ℕ) :=
  List.replicate shutdownSteps (0, ⟨[], blankHeaders, 0⟩) ++
    List.replicate shutdownSteps (1, ⟨[], blankHeaders, 0⟩)

theorem signalled_shuts_down :
    (forward blankHeaders (signalled ++ drained)).workers =
      [.rx .exited, .tx .exited, .signalHandler] :=
  (forward_shuts_down blankHeaders signalled (by decide) drained
    (by simp [drained, List.countP_replicate]) (by simp [drained, List.countP_replicate])).1

end VirtualServiceGateway.Dpdk
