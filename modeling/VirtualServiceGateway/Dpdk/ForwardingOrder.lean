import VirtualServiceGateway.Dpdk.ForwardingCores

/-!
# Order and addresses of the forwarded packets

The packets pass the array of the receiving core, the ring and the array of the transmitting core,
and each of them hands on the front of what it holds. So however the cores interleave and whatever
is freed on the way, the packets that the port has taken, followed by those still on the way, are a
part of the received ones in the order of their arrival. The addresses of a packet are exchanged once
between the ring and the port.
-/

namespace VirtualServiceGateway.Dpdk

open Interleaving

variable {Mbuf : Type*}

/-! ## Packets on their way to the port -/

/-- The packets that the receiving core may still put into the ring. -/
def RxStage.unqueued : RxStage Mbuf → List Mbuf
  | .counting bufs => bufs
  | .enqueuing bufs => bufs
  | _ => []

/-- The packets that the transmitting core may still send with exchanged addresses. -/
def TxStage.swapped : TxStage Mbuf → List Mbuf
  | .swapping bufs i => bufs.take i
  | .sending bufs => bufs
  | _ => []

/-- The packets of the transmitting core whose addresses are still to be exchanged. -/
def TxStage.unswapped : TxStage Mbuf → List Mbuf
  | .swapping bufs i => bufs.drop i
  | _ => []

/-- The packets that the port has taken, followed by those on their way to it, the foremost first. -/
def onTheWay (forwarder : Forwarder Mbuf) (rx : RxStage Mbuf) (tx : TxStage Mbuf) : List Mbuf :=
  forwarder.transmitted ++ (tx.swapped ++ tx.unswapped) ++ forwarder.ring ++ rx.unqueued

/-! ## The headers of arrival -/

/-- The application with the headers that its mbufs had when they arrived. -/
structure Observed (Mbuf : Type*) where
  config : Config (Forwarder Mbuf) (Core Mbuf)
  arrival : Mbuf → EtherHdr

/-- The headers of arrival after a step: the mbufs that it has received have new ones. -/
def arrivalAfter [DecidableEq Mbuf] (before after : Forwarder Mbuf) (answer : Answer Mbuf)
    (arrival : Mbuf → EtherHdr) : Mbuf → EtherHdr :=
  fun mbuf ↦ if mbuf ∈ after.received.drop before.received.length then answer.headers mbuf
    else arrival mbuf

def Observed.step [DecidableEq Mbuf] (observed : Observed Mbuf) (pick : ℕ × Answer Mbuf) :
    Observed Mbuf :=
  let config := Interleaving.step Core.advance observed.config pick
  ⟨config, arrivalAfter observed.config.shared config.shared pick.2 observed.arrival⟩

/-- The application after a schedule, observed from its launch on. -/
def observe [DecidableEq Mbuf] (headers : Mbuf → EtherHdr) (schedule : List (ℕ × Answer Mbuf)) :
    Observed Mbuf :=
  Execution.run Observed.step ⟨launched headers, headers⟩ schedule

section Observation

variable [DecidableEq Mbuf] (headers : Mbuf → EtherHdr)

/-- To observe the application does not change it. -/
theorem observe_config (schedule : List (ℕ × Answer Mbuf)) :
    (observe headers schedule).config = forward headers schedule :=
  Execution.run_observed Observed.config (fun _ _ ↦ rfl) _ schedule

@[simp]
theorem arrivalAfter_self (forwarder after : Forwarder Mbuf) (answer : Answer Mbuf)
    (arrival : Mbuf → EtherHdr) (hreceived : after.received = forwarder.received) :
    arrivalAfter forwarder after answer arrival = arrival := by
  funext mbuf
  simp [arrivalAfter, hreceived]

/-- **Runs of the cores.** What a step of either core and the signal keep, from the launch on, holds
of the cores after every schedule. -/
theorem observe_invariant
    (property : Forwarder Mbuf → (Mbuf → EtherHdr) → RxStage Mbuf → TxStage Mbuf → Prop)
    (hlaunch : property (launched headers).shared headers .polling .polling)
    (hrx : ∀ answer forwarder arrival rx tx, property forwarder arrival rx tx →
      property (lcoreRx answer forwarder rx).1
        (arrivalAfter forwarder (lcoreRx answer forwarder rx).1 answer arrival)
        (lcoreRx answer forwarder rx).2 tx)
    (htx : ∀ answer forwarder arrival rx tx, property forwarder arrival rx tx →
      property (lcoreTx answer forwarder tx).1
        (arrivalAfter forwarder (lcoreTx answer forwarder tx).1 answer arrival) rx
        (lcoreTx answer forwarder tx).2)
    (hsignal : ∀ forwarder arrival rx tx, property forwarder arrival rx tx →
      property { forwarder with forceQuit := true } arrival rx tx)
    (schedule : List (ℕ × Answer Mbuf)) :
    ∃ rx tx, (observe headers schedule).config.workers = [.rx rx, .tx tx, .signalHandler] ∧
      property (observe headers schedule).config.shared (observe headers schedule).arrival rx tx := by
  apply Execution.run_invariant fun observed : Observed Mbuf ↦ ∃ rx tx,
    observed.config.workers = [.rx rx, .tx tx, .signalHandler] ∧
      property observed.config.shared observed.arrival rx tx
  · exact ⟨.polling, .polling, rfl, hlaunch⟩
  · intro observed pick hbefore
    obtain ⟨rx, tx, hworkers, hproperty⟩ := hbefore
    obtain ⟨⟨forwarder, workers⟩, arrival⟩ := observed
    obtain ⟨place, answer⟩ := pick
    dsimp only at hworkers hproperty
    subst hworkers
    match place with
    | 0 => exact ⟨_, tx, rfl, hrx answer forwarder arrival rx tx hproperty⟩
    | 1 => exact ⟨rx, _, rfl, htx answer forwarder arrival rx tx hproperty⟩
    | 2 =>
      refine ⟨rx, tx, rfl, ?_⟩
      have hkept := hsignal forwarder arrival rx tx hproperty
      rwa [← arrivalAfter_self forwarder { forwarder with forceQuit := true } answer arrival rfl]
        at hkept
    | place + 3 =>
      refine ⟨rx, tx, rfl, ?_⟩
      rwa [← arrivalAfter_self forwarder forwarder answer arrival rfl] at hproperty

end Observation

/-! ## One step of a core -/

/-- The packets on their way are received packets in the order of their arrival, and their addresses
have been exchanged if the transmitting core has passed them. -/
structure Forwarded (forwarder : Forwarder Mbuf) (arrival : Mbuf → EtherHdr) (rx : RxStage Mbuf)
    (tx : TxStage Mbuf) : Prop where
  inOrder : (onTheWay forwarder rx tx).Sublist forwarder.received
  exchanged : forwarder.received.Nodup →
    ∀ mbuf ∈ forwarder.transmitted ++ tx.swapped, forwarder.headers mbuf = (arrival mbuf).swap
  untouched : forwarder.received.Nodup →
    ∀ mbuf ∈ tx.unswapped ++ forwarder.ring ++ rx.unqueued, forwarder.headers mbuf = arrival mbuf

section Steps

variable [DecidableEq Mbuf] {answer : Answer Mbuf} {forwarder : Forwarder Mbuf}
  {arrival : Mbuf → EtherHdr} {rx : RxStage Mbuf} {tx : TxStage Mbuf}

/-- A burst arrives: its headers are those of arrival, and no others change. -/
theorem Forwarded.receive {after : Forwarder Mbuf} {bufs : List Mbuf}
    (hforwarded : Forwarded forwarder arrival .polling tx)
    (hcall : rteEthRxBurst forwarder answer = (after, bufs)) :
    Forwarded after (arrivalAfter forwarder after answer arrival) (.counting bufs) tx := by
  cases hcall
  obtain ⟨horder, hexchanged, huntouched⟩ := hforwarded
  set bufs := answer.arrived.take burstSize with hbufs
  have harrived : (forwarder.received ++ bufs).drop forwarder.received.length = bufs :=
    List.drop_left
  have hold (hfresh : (forwarder.received ++ bufs).Nodup) {mbuf : Mbuf}
      (hmbuf : mbuf ∈ onTheWay forwarder .polling tx) : mbuf ∉ bufs := by
    intro hmem
    exact (List.nodup_append.mp hfresh).2.2 mbuf (horder.subset hmbuf) mbuf hmem rfl
  constructor
  · have happend := horder.append (List.Sublist.refl bufs)
    simpa only [onTheWay, RxStage.unqueued, List.append_nil] using happend
  · intro hfresh mbuf hmbuf
    have hmem : mbuf ∈ onTheWay forwarder .polling tx := by
      simp only [onTheWay, List.mem_append] at hmbuf ⊢
      tauto
    simp only [arrivalAfter, harrived, if_neg (hold hfresh hmem)]
    exact hexchanged (List.nodup_append.mp hfresh).1 mbuf hmbuf
  · intro hfresh mbuf hmbuf
    simp only [arrivalAfter, harrived]
    by_cases hnew : mbuf ∈ bufs
    · rw [if_pos hnew, if_pos hnew]
    · have hmem : mbuf ∈ tx.unswapped ++ forwarder.ring ++ RxStage.polling.unqueued := by
        simp only [RxStage.unqueued, List.mem_append] at hmbuf ⊢
        tauto
      rw [if_neg hnew, if_neg hnew]
      exact huntouched (List.nodup_append.mp hfresh).1 mbuf hmem

omit [DecidableEq Mbuf] in
/-- What follows from packets that only move forward or leave. -/
theorem Forwarded.mono {after : Forwarder Mbuf} {rx' : RxStage Mbuf} {tx' : TxStage Mbuf}
    (hforwarded : Forwarded forwarder arrival rx tx) (hreceived : after.received = forwarder.received)
    (hheaders : after.headers = forwarder.headers)
    (hway : (onTheWay after rx' tx').Sublist (onTheWay forwarder rx tx))
    (hswapped : after.transmitted ++ tx'.swapped ⊆ forwarder.transmitted ++ tx.swapped)
    (hunswapped : tx'.unswapped ++ after.ring ++ rx'.unqueued ⊆
      tx.unswapped ++ forwarder.ring ++ rx.unqueued) :
    Forwarded after arrival rx' tx' := by
  obtain ⟨horder, hexchanged, huntouched⟩ := hforwarded
  constructor
  · rw [hreceived]
    exact hway.trans horder
  · intro hfresh mbuf hmbuf
    rw [hheaders]
    exact hexchanged (hreceived ▸ hfresh) mbuf (hswapped hmbuf)
  · intro hfresh mbuf hmbuf
    rw [hheaders]
    exact huntouched (hreceived ▸ hfresh) mbuf (hunswapped hmbuf)

/-- The transmitting core exchanges the addresses of a packet; it is in no other place. -/
theorem Forwarded.exchange {bufs : List Mbuf} {i : ℕ} {mbuf : Mbuf} (hmbuf : bufs[i]? = some mbuf)
    (hforwarded : Forwarded forwarder arrival rx (.swapping bufs i)) :
    Forwarded
      { forwarder with
        headers := Function.update forwarder.headers mbuf (forwarder.headers mbuf).swap }
      arrival rx (.swapping bufs (i + 1)) := by
  obtain ⟨horder, hexchanged, huntouched⟩ := hforwarded
  obtain ⟨hi, rfl⟩ := List.getElem?_eq_some_iff.mp hmbuf
  have htake : bufs.take (i + 1) = bufs.take i ++ [bufs[i]] := List.take_succ_eq_append_getElem hi
  have hdrop : bufs.drop i = bufs[i] :: bufs.drop (i + 1) := (List.getElem_cons_drop hi).symm
  have hapart (hfresh : forwarder.received.Nodup) :
      (forwarder.transmitted ++ bufs.take i ++ bufs[i] ::
        (bufs.drop (i + 1) ++ forwarder.ring ++ rx.unqueued)).Nodup := by
    have hnodup := horder.nodup hfresh
    simp only [onTheWay, TxStage.swapped, TxStage.unswapped, hdrop] at hnodup
    simpa only [List.append_assoc, List.cons_append] using hnodup
  constructor
  · simpa only [onTheWay, TxStage.swapped, TxStage.unswapped, List.take_append_drop] using horder
  · intro hfresh other hother
    obtain ⟨hfront, hback, hdisjoint⟩ := List.nodup_append.mp (hapart hfresh)
    simp only [TxStage.swapped, htake, ← List.append_assoc] at hother
    rcases List.mem_append.mp hother with hearlier | hlast
    · have hne : other ≠ bufs[i] := hdisjoint other hearlier _ List.mem_cons_self
      exact (Function.update_of_ne hne ..).trans (hexchanged hfresh other hearlier)
    · have hthis : forwarder.headers bufs[i] = arrival bufs[i] := by
        apply huntouched hfresh
        rw [TxStage.unswapped, hdrop]
        exact List.mem_append_left _ (List.mem_append_left _ List.mem_cons_self)
      rw [List.mem_singleton.mp hlast, ← hthis]
      exact Function.update_self ..
  · intro hfresh other hother
    obtain ⟨-, hback, -⟩ := List.nodup_append.mp (hapart hfresh)
    have hne : other ≠ bufs[i] := by
      rintro rfl
      exact (List.nodup_cons.mp hback).1 hother
    refine (Function.update_of_ne hne ..).trans (huntouched hfresh other ?_)
    simp only [TxStage.unswapped, hdrop, List.mem_append, List.mem_cons] at hother ⊢
    tauto

/-- A step that receives nothing leaves the headers of arrival. -/
theorem Forwarded.of_same {after : Forwarder Mbuf} (hreceived : after.received = forwarder.received)
    (hforwarded : Forwarded after arrival rx tx) :
    Forwarded after (arrivalAfter forwarder after answer arrival) rx tx := by
  rwa [arrivalAfter_self forwarder after answer arrival hreceived]

theorem forwarded_lcoreRx (hforwarded : Forwarded forwarder arrival rx tx) :
    Forwarded (lcoreRx answer forwarder rx).1
      (arrivalAfter forwarder (lcoreRx answer forwarder rx).1 answer arrival)
      (lcoreRx answer forwarder rx).2 tx := by
  fun_cases lcoreRx answer forwarder rx with
  | case2 _ after bufs hcall hempty =>
    have hreceived := hforwarded.receive hcall
    rw [List.eq_nil_of_length_eq_zero hempty] at hreceived
    exact hreceived.mono rfl rfl (List.Sublist.refl _) (List.Subset.refl _) (List.Subset.refl _)
  | case3 _ after bufs hcall => exact hforwarded.receive hcall
  | case5 bufs after nbEnqueued hcall | case6 bufs after nbEnqueued hcall =>
    cases hcall
    have hpart := List.take_sublist
      (min answer.moved (min bufs.length (ringCapacity - forwarder.ring.length))) bufs
    refine Forwarded.of_same rfl (hforwarded.mono rfl rfl ?_ (List.Subset.refl _) ?_)
    · simp only [onTheWay, RxStage.unqueued, List.append_nil, List.append_assoc]
      exact (((hpart.append_left _).append_left _).append_left _).append_left _
    · simp only [RxStage.unqueued, List.append_nil, List.append_assoc]
      exact ((hpart.append_left _).append_left _).subset
  | case7 | case8 | case1 | case4 | case9 =>
    exact Forwarded.of_same rfl
      (hforwarded.mono rfl rfl (List.Sublist.refl _) (List.Subset.refl _) (List.Subset.refl _))

theorem forwarded_lcoreTx (hforwarded : Forwarded forwarder arrival rx tx) :
    Forwarded (lcoreTx answer forwarder tx).1
      (arrivalAfter forwarder (lcoreTx answer forwarder tx).1 answer arrival) rx
      (lcoreTx answer forwarder tx).2 := by
  fun_cases lcoreTx answer forwarder tx with
  | case2 _ after bufs hcall hempty =>
    cases hcall
    have hdrop := List.drop_sublist (min answer.moved burstSize) forwarder.ring
    refine Forwarded.of_same rfl (hforwarded.mono rfl rfl ?_ (List.Subset.refl _) ?_)
    · simp only [onTheWay, List.append_assoc]
      exact (((hdrop.append_right _).append_left _).append_left _).append_left _
    · simp only [List.append_assoc]
      exact ((hdrop.append_right _).append_left _).subset
  | case3 _ after bufs hcall =>
    cases hcall
    refine Forwarded.of_same rfl (hforwarded.mono rfl rfl ?_ ?_ ?_)
    · simp only [onTheWay, TxStage.swapped, TxStage.unswapped, List.take_zero, List.drop_zero,
        List.nil_append, List.append_nil]
      rw [List.append_assoc forwarder.transmitted, List.take_append_drop]
    · simp [TxStage.swapped]
    · simp [TxStage.unswapped]
  | case4 bufs i mbuf hmbuf => exact Forwarded.of_same rfl (hforwarded.exchange hmbuf)
  | case5 bufs i hdone =>
    have hall : bufs.take i = bufs :=
      List.take_of_length_le (List.getElem?_eq_none_iff.mp hdone)
    refine Forwarded.of_same rfl (hforwarded.mono rfl rfl ?_ ?_ ?_)
    · simp [onTheWay, TxStage.swapped, TxStage.unswapped]
    · simp [TxStage.swapped, hall]
    · simp [TxStage.unswapped]
  | case6 bufs after nbTx hcall | case7 bufs after nbTx hcall =>
    cases hcall
    have hpart := List.take_sublist (min answer.moved bufs.length) bufs
    refine Forwarded.of_same rfl (hforwarded.mono rfl rfl ?_ ?_ (List.Subset.refl _))
    · simp only [onTheWay, TxStage.swapped, TxStage.unswapped, List.append_nil]
      exact ((hpart.append_left _).append_right _).append_right _
    · simp only [TxStage.swapped, List.append_nil]
      exact (hpart.append_left _).subset
  | case8 | case9 | case1 | case10 | case11 =>
    exact Forwarded.of_same rfl
      (hforwarded.mono rfl rfl (List.Sublist.refl _) (List.Subset.refl _) (List.Subset.refl _))

end Steps

/-! ## Every schedule -/

section Runs

variable [DecidableEq Mbuf] (headers : Mbuf → EtherHdr) (schedule : List (ℕ × Answer Mbuf))

theorem forwarded_observe :
    ∃ rx tx, (observe headers schedule).config.workers = [.rx rx, .tx tx, .signalHandler] ∧
      Forwarded (observe headers schedule).config.shared (observe headers schedule).arrival rx tx := by
  apply observe_invariant headers Forwarded
  · exact ⟨List.Sublist.refl _, fun _ _ h ↦ absurd h List.not_mem_nil,
      fun _ _ h ↦ absurd h List.not_mem_nil⟩
  · exact fun answer forwarder arrival rx tx ↦ forwarded_lcoreRx
  · exact fun answer forwarder arrival rx tx ↦ forwarded_lcoreTx
  · exact fun forwarder arrival rx tx hforwarded ↦ hforwarded.mono rfl rfl (List.Sublist.refl _)
      (List.Subset.refl _) (List.Subset.refl _)

/-- **Order.** However the cores interleave and whatever the port and the ring answer, the packets
that the port has taken, followed by those in the array of the transmitting core, in the ring and in
the array of the receiving core, are received packets in the order of their arrival. -/
theorem forward_keeps_order :
    ∃ rx tx, (forward headers schedule).workers = [.rx rx, .tx tx, .signalHandler] ∧
      (onTheWay (forward headers schedule).shared rx tx).Sublist
        (forward headers schedule).shared.received := by
  obtain ⟨rx, tx, hworkers, hforwarded⟩ := forwarded_observe headers schedule
  rw [observe_config] at hworkers hforwarded
  exact ⟨rx, tx, hworkers, hforwarded.inOrder⟩

/-- **Addresses.** While the port hands over fresh mbufs, every packet that the port has taken has
the addresses of its arrival exchanged, and every packet in the ring has those of its arrival. -/
theorem forward_exchanges_once (hfresh : (forward headers schedule).shared.received.Nodup) :
    (∀ mbuf ∈ (forward headers schedule).shared.transmitted,
      (forward headers schedule).shared.headers mbuf =
        ((observe headers schedule).arrival mbuf).swap) ∧
    ∀ mbuf ∈ (forward headers schedule).shared.ring,
      (forward headers schedule).shared.headers mbuf = (observe headers schedule).arrival mbuf := by
  obtain ⟨rx, tx, -, hforwarded⟩ := forwarded_observe headers schedule
  rw [observe_config] at hforwarded
  constructor
  · intro mbuf hmbuf
    exact hforwarded.exchanged hfresh mbuf (List.mem_append_left _ hmbuf)
  · intro mbuf hmbuf
    exact hforwarded.untouched hfresh mbuf
      (List.mem_append_left _ (List.mem_append_right _ hmbuf))

end Runs

/-- Two packets from the address that ends in their number arrive; the ring takes both and the other
core sends the first one. -/
def twoPackets : List (ℕ × Answer ℕ) :=
  let headers (mbuf : ℕ) : EtherHdr :=
    ⟨Vector.replicate 6 0, (Vector.replicate 6 0).set 5 (UInt8.ofNat mbuf)⟩
  [(0, ⟨[1, 2], headers, 0⟩), (0, ⟨[], headers, 0⟩), (0, ⟨[], headers, 2⟩),
    (1, ⟨[], headers, 1⟩), (1, ⟨[], headers, 0⟩), (1, ⟨[], headers, 0⟩), (1, ⟨[], headers, 1⟩)]

theorem twoPackets_exchanged :
    let forwarder := (forward (fun _ ↦ ⟨Vector.replicate 6 0, Vector.replicate 6 0⟩)
      twoPackets).shared
    (forwarder.headers 1).dstAddr[5] = 1 ∧ (forwarder.headers 2).srcAddr[5] = 2 := by
  intro forwarder
  obtain ⟨hsent, hqueued⟩ := forward_exchanges_once
    (fun _ ↦ ⟨Vector.replicate 6 0, Vector.replicate 6 0⟩) twoPackets (by decide)
  constructor
  · rw [hsent 1 (by decide)]
    rfl
  · rw [hqueued 2 (by decide)]
    rfl

end VirtualServiceGateway.Dpdk
