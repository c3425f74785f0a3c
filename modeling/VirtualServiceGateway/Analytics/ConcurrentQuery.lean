import VirtualServiceGateway.Analytics.RecordedAmounts
import VirtualServiceGateway.Foundation.CollectedSum

/-!
# A service query while samples are recorded

The service query walks over the slots and reads each of them field by field: the time stamp and, if
it is in the window, the packets, the bytes and the losses. Recorders and sweeps move between two
reads. On their own the reads are `getServiceKpi`. Among others, the query counts flows that have had
a stamp in the window, and what it adds for these to the memory of the result lies between what they
held when it began and what they hold when it ends.
-/

namespace VirtualServiceGateway.Analytics

open Interleaving CollectedSum WrappingCounter

/-! ## Reading step by step -/

/-- The field that a service query reads next, of the flow that it is at, with what it has read of
this flow. -/
inductive QueryStage where
  | lastUpdate (flow : ℕ)
  | packetCount (flow : ℕ)
  | byteCount (flow : ℕ) (packets : UInt64)
  | lossCount (flow : ℕ) (packets bytes : UInt64)
  | finished
  deriving DecidableEq, Repr

/-- A service query in progress, with the result so far, the lost packets and the packets. -/
structure ServiceQuery where
  stage : QueryStage
  totals : ServiceKPI × UInt64 × UInt64
  deriving DecidableEq

namespace ServiceQuery

/-- A query that has read the clock. -/
def start (serviceId : UInt16) (windowNs now : UInt64) (prior : ServiceKPI) : ServiceQuery where
  stage := .lastUpdate 0
  totals :=
    ({ prior with serviceId := serviceId, windowStartNs := now - windowNs, windowEndNs := now },
      0, 0)

/-- The totals with what was read of one more flow. -/
def count (totals : ServiceKPI × UInt64 × UInt64) (packets bytes : UInt64) (losses : UInt32) :
    ServiceKPI × UInt64 × UInt64 :=
  let (kpi, totalLoss, totalPackets) := totals
  ({ kpi with
      totalFlows := kpi.totalFlows + 1
      totalPackets := kpi.totalPackets + packets
      totalBytes := kpi.totalBytes + bytes },
    totalLoss + losses.toUInt64, totalPackets + packets)

/-- The next atomic read. -/
def read (collector : QoECollector) (query : ServiceQuery) : ServiceQuery :=
  match query.stage with
  | .lastUpdate flow =>
      match collector.flowMetrics[flow]? with
      | none => { query with stage := .finished }
      | some metrics =>
          if metrics.lastUpdateNs < query.totals.1.windowStartNs then
            { query with stage := .lastUpdate (flow + 1) }
          else { query with stage := .packetCount flow }
  | .packetCount flow =>
      match collector.flowMetrics[flow]? with
      | none => query
      | some metrics => { query with stage := .byteCount flow metrics.packetCount }
  | .byteCount flow packets =>
      match collector.flowMetrics[flow]? with
      | none => query
      | some metrics => { query with stage := .lossCount flow packets metrics.byteCount }
  | .lossCount flow packets bytes =>
      match collector.flowMetrics[flow]? with
      | none => query
      | some metrics =>
          ⟨.lastUpdate (flow + 1), count query.totals packets bytes metrics.lossCount⟩
  | .finished => query

/-- The result of a finished query. -/
def result (query : ServiceQuery) : Option ServiceKPI :=
  match query.stage with
  | .finished =>
      let (kpi, totalLoss, totalPackets) := query.totals
      if 0 < totalPackets then
        some { kpi with avgLossPercent := (totalLoss * 100 / totalPackets).toUInt32 }
      else some kpi
  | _ => none

/-! ### Uninterrupted reads -/

section Alone

variable (collector : QoECollector)

theorem read_finished (totals : ServiceKPI × UInt64 × UInt64) (count : ℕ) :
    (read collector)^[count] ⟨.finished, totals⟩ = ⟨.finished, totals⟩ :=
  Function.iterate_fixed rfl count

/-- One slot takes one read outside the window and four in it. -/
theorem read_slot {flow : ℕ} {metrics : FlowMetrics}
    (hslot : collector.flowMetrics[flow]? = some metrics)
    (totals : ServiceKPI × UInt64 × UInt64) :
    ∃ count ≤ 4, (read collector)^[count] ⟨.lastUpdate flow, totals⟩ =
      ⟨.lastUpdate (flow + 1), QoECollector.addToService totals metrics⟩ := by
  by_cases hbefore : metrics.lastUpdateNs < totals.1.windowStartNs
  · refine ⟨1, by omega, ?_⟩
    rw [addToService_of_before hbefore]
    simp only [Function.iterate_one, read, hslot, if_pos hbefore]
  · refine ⟨4, le_rfl, ?_⟩
    rw [addToService_of_counted hbefore]
    simp only [Function.iterate_succ, Function.iterate_zero, Function.comp_apply, id_eq, read, hslot,
      if_neg hbefore, count]

theorem read_slots (flow : ℕ) (totals : ServiceKPI × UInt64 × UInt64) :
    ∃ count ≤ 4 * (collector.flowMetrics.length - flow) + 1,
      (read collector)^[count] ⟨.lastUpdate flow, totals⟩ =
        ⟨.finished, (collector.flowMetrics.drop flow).foldl QoECollector.addToService totals⟩ := by
  induction hleft : collector.flowMetrics.length - flow generalizing flow totals with
  | zero =>
    have hnone : collector.flowMetrics[flow]? = none := List.getElem?_eq_none (by omega)
    refine ⟨1, by omega, ?_⟩
    rw [List.drop_eq_nil_of_le (by omega), List.foldl_nil]
    simp only [Function.iterate_one, read, hnone]
  | succ left ih =>
    have hflow : flow < collector.flowMetrics.length := by omega
    obtain ⟨first, hfirst, hslot⟩ :=
      read_slot collector (List.getElem?_eq_getElem hflow) totals
    obtain ⟨rest, hrest, hslots⟩ :=
      ih (flow + 1) (QoECollector.addToService totals collector.flowMetrics[flow]) (by omega)
    refine ⟨rest + first, by omega, ?_⟩
    rw [Function.iterate_add_apply, hslot, hslots, List.drop_eq_getElem_cons hflow, List.foldl_cons]

/-- Reads on their own are the service query. -/
theorem read_alone (serviceId : UInt16) (windowNs now : UInt64) (prior : ServiceKPI) :
    ((read collector)^[4 * collector.flowMetrics.length + 1]
        (start serviceId windowNs now prior)).result =
      some (collector.getServiceKpi serviceId windowNs now prior) := by
  have hstart : start serviceId windowNs now prior =
      ⟨.lastUpdate 0, (start serviceId windowNs now prior).totals⟩ := rfl
  obtain ⟨count, hcount, hread⟩ :=
    read_slots collector 0 (start serviceId windowNs now prior).totals
  obtain ⟨more, hmore⟩ := Nat.exists_eq_add_of_le' hcount
  rw [Nat.sub_zero] at hmore
  rw [hstart, hmore, Function.iterate_add_apply, hread, read_finished, List.drop_zero]
  unfold result QoECollector.getServiceKpi start
  dsimp only
  split <;> rfl

end Alone

end ServiceQuery

/-! ## Interleaved runs -/

/-- One service query, with the table and the threads on it. -/
structure LiveQuery where
  query : ServiceQuery
  config : Config QoECollector TableUser

/-- The query makes its next read, or a thread its next step, with the clock that it reads then. -/
inductive QueryEvent where
  | read
  | move (place : ℕ) (clock : UInt64)
  deriving DecidableEq, Repr

def QueryEvent.isRead : QueryEvent → Bool
  | .read => true
  | .move _ _ => false

namespace LiveQuery

def step (state : LiveQuery) : QueryEvent → LiveQuery
  | .read => { state with query := state.query.read state.config.shared }
  | .move place clock =>
      { state with config := Interleaving.step TableUser.advance state.config (place, clock) }

/-- The state after the events, oldest first, from any state of the table and its threads. -/
def after (start : Config QoECollector TableUser) (query : ServiceQuery)
    (events : List QueryEvent) : LiveQuery :=
  Execution.run step ⟨query, start⟩ events

end LiveQuery

/-! ## What the query has counted -/

/-- No counter that the query reads wraps while the threads record, and neither do the packets and
the bytes of all flows together. -/
structure CountersFit (start : Config QoECollector TableUser) : Prop where
  packets : tally (fun flow ↦ packetNumber.stored flow start + packetNumber.owed flow start)
    (List.range start.shared.flowMetrics.length) < 2 ^ 64
  bytes : tally (fun flow ↦ byteNumber.stored flow start + byteNumber.owed flow start)
    (List.range start.shared.flowMetrics.length) < 2 ^ 64
  losses : lossNumber.Fits start

/-- Every flow of a table of this size has stored as much as before. -/
structure Grown (size : ℕ) (config later : Config QoECollector TableUser) : Prop where
  packets : ∀ flow < size, packetNumber.stored flow config ≤ packetNumber.stored flow later
  bytes : ∀ flow < size, byteNumber.stored flow config ≤ byteNumber.stored flow later
  losses : ∀ flow < size, lossNumber.stored flow config ≤ lossNumber.stored flow later

/-- The table has its slots, what was owed is stored, and the stamps are possible ones. -/
structure Recording (start config : Config QoECollector TableUser) : Prop where
  length : config.shared.flowMetrics.length = start.shared.flowMetrics.length
  packets : packetNumber.Keeps start config
  bytes : byteNumber.Keeps start config
  losses : lossNumber.Keeps start config
  grown : Grown start.shared.flowMetrics.length start config
  stamped : Stamped (Possible start) config

/-- The flows counted so far, and the totals over them, when the query is at a flow. The totals of
the result start from what its memory held. -/
structure Account (prior : ServiceKPI) (start config : Config QoECollector TableUser) (flow : ℕ)
    (totals : ServiceKPI × UInt64 × UInt64) (counted : List ℕ) : Prop where
  visited : counted.Sublist (List.range flow)
  flows : (totals.1.totalFlows - prior.totalFlows).toNat = counted.length
  packets : Chosen (packetNumber.stored · start) (packetNumber.stored · config) counted
    (totals.1.totalPackets - prior.totalPackets).toNat
  bytes : Chosen (byteNumber.stored · start) (byteNumber.stored · config) counted
    (totals.1.totalBytes - prior.totalBytes).toNat
  losses : Chosen (lossNumber.stored · start) (lossNumber.stored · config) counted
    totals.2.1.toNat
  packets_eq : totals.2.2 = totals.1.totalPackets - prior.totalPackets
  inside : ∀ other ∈ counted, ∃ stamp, Possible start other stamp ∧
    totals.1.windowStartNs ≤ stamp
  outside : ∀ other < flow, other ∉ counted → ∃ stamp, Possible start other stamp ∧
    stamp < totals.1.windowStartNs

/-- The reading lies between what the counter held when the query began and what it holds now. -/
def NumberedCounter.Reads {Amount : Type*} [AddCommMonoid Amount] (counter : NumberedCounter Amount)
    (start config : Config QoECollector TableUser) (flow : ℕ) (reading : Amount) : Prop :=
  counter.stored flow start ≤ counter.held reading ∧
    counter.held reading ≤ counter.stored flow config

/-- The query is at a flow that it counts. -/
structure Inside (prior : ServiceKPI) (start config : Config QoECollector TableUser) (flow : ℕ)
    (totals : ServiceKPI × UInt64 × UInt64) : Prop where
  slot : flow < start.shared.flowMetrics.length
  stamp : ∃ stamp, Possible start flow stamp ∧ totals.1.windowStartNs ≤ stamp
  account : ∃ counted, Account prior start config flow totals counted

/-- The query has an account of the flows that it has visited, and its readings of the flow that it
is at are sound. -/
def ServiceQuery.Sound (prior : ServiceKPI) (start config : Config QoECollector TableUser)
    (query : ServiceQuery) : Prop :=
  match query.stage with
  | .lastUpdate flow => flow ≤ start.shared.flowMetrics.length ∧
      ∃ counted, Account prior start config flow query.totals counted
  | .packetCount flow => Inside prior start config flow query.totals
  | .byteCount flow packets => Inside prior start config flow query.totals ∧
      packetNumber.Reads start config flow packets
  | .lossCount flow packets bytes => Inside prior start config flow query.totals ∧
      packetNumber.Reads start config flow packets ∧ byteNumber.Reads start config flow bytes
  | .finished =>
      ∃ counted, Account prior start config start.shared.flowMetrics.length query.totals counted

/-! ### The threads move -/

section Moves

variable {start config later : Config QoECollector TableUser} {flow : ℕ}

theorem NumberedCounter.fits_of_tally (counter : NumberedCounter UInt64)
    (hbound : counter.bound = 2 ^ 64)
    (hfit : tally (fun flow ↦ counter.stored flow start + counter.owed flow start)
      (List.range start.shared.flowMetrics.length) < 2 ^ 64) : counter.Fits start := by
  intro flow hflow
  have hpart := tally_sublist (fun flow ↦ counter.stored flow start + counter.owed flow start)
    (List.singleton_sublist.mpr (List.mem_range.mpr hflow))
  rw [tally_cons, tally_nil, Nat.add_zero] at hpart
  rw [hbound]
  exact hpart.trans_lt hfit

theorem CountersFit.packets_fit (hfit : CountersFit start) : packetNumber.Fits start :=
  packetNumber.fits_of_tally rfl hfit.packets

theorem CountersFit.bytes_fit (hfit : CountersFit start) : byteNumber.Fits start :=
  byteNumber.fits_of_tally rfl hfit.bytes

theorem recording_start (start : Config QoECollector TableUser) : Recording start start where
  length := rfl
  packets := fun _ _ ↦ rfl
  bytes := fun _ _ ↦ rfl
  losses := fun _ _ ↦ rfl
  grown := ⟨fun _ _ ↦ le_rfl, fun _ _ ↦ le_rfl, fun _ _ ↦ le_rfl⟩
  stamped := stamped_start start

theorem length_step (config : Config QoECollector TableUser) (pick : ℕ × UInt64) :
    (Interleaving.step TableUser.advance config pick).shared.flowMetrics.length =
      config.shared.flowMetrics.length := by
  apply step_induction config pick (fun config' ↦
    config'.shared.flowMetrics.length = config.shared.flowMetrics.length) rfl
  intro thread shared moved _ hmove
  have hsize := length_advance config.shared pick.2 thread
  rwa [hmove] at hsize

/-- A step of a thread only adds to what is stored. -/
theorem Recording.step (hfit : CountersFit start) (hrecording : Recording start config)
    (pick : ℕ × UInt64) :
    Recording start (Interleaving.step TableUser.advance config pick) ∧
      Grown start.shared.flowMetrics.length config
        (Interleaving.step TableUser.advance config pick) := by
  obtain ⟨hpackets, hmorePackets⟩ :=
    hrecording.packets.step packetNumber hfit.packets_fit hrecording.length pick
  obtain ⟨hbytes, hmoreBytes⟩ :=
    hrecording.bytes.step byteNumber hfit.bytes_fit hrecording.length pick
  obtain ⟨hlosses, hmoreLosses⟩ :=
    hrecording.losses.step lossNumber hfit.losses hrecording.length pick
  refine ⟨?_, ⟨hmorePackets, hmoreBytes, hmoreLosses⟩⟩
  exact {
    length := (length_step config pick).trans hrecording.length
    packets := hpackets
    bytes := hbytes
    losses := hlosses
    grown := {
      packets := fun flow hflow ↦
        (hrecording.grown.packets flow hflow).trans (hmorePackets flow hflow)
      bytes := fun flow hflow ↦ (hrecording.grown.bytes flow hflow).trans (hmoreBytes flow hflow)
      losses := fun flow hflow ↦
        (hrecording.grown.losses flow hflow).trans (hmoreLosses flow hflow) }
    stamped := hrecording.stamped.step pick }

variable {prior : ServiceKPI} {totals : ServiceKPI × UInt64 × UInt64} {counted : List ℕ}

theorem Account.lt (haccount : Account prior start config flow totals counted) {other : ℕ}
    (hother : other ∈ counted) : other < flow :=
  List.mem_range.mp (haccount.visited.subset hother)

theorem Account.grow (haccount : Account prior start config flow totals counted)
    (hflow : flow ≤ start.shared.flowMetrics.length)
    (hgrown : Grown start.shared.flowMetrics.length config later) :
    Account prior start later flow totals counted :=
  { haccount with
    packets := haccount.packets.grow fun other hother ↦
      hgrown.packets other ((haccount.lt hother).trans_le hflow)
    bytes := haccount.bytes.grow fun other hother ↦
      hgrown.bytes other ((haccount.lt hother).trans_le hflow)
    losses := haccount.losses.grow fun other hother ↦
      hgrown.losses other ((haccount.lt hother).trans_le hflow) }

theorem Inside.grow (hinside : Inside prior start config flow totals)
    (hgrown : Grown start.shared.flowMetrics.length config later) :
    Inside prior start later flow totals := by
  obtain ⟨counted, haccount⟩ := hinside.account
  exact { hinside with account := ⟨counted, haccount.grow hinside.slot.le hgrown⟩ }

/-- What the query has read stays sound while the threads move. -/
theorem ServiceQuery.Sound.grow {query : ServiceQuery} (hsound : query.Sound prior start config)
    (hgrown : Grown start.shared.flowMetrics.length config later) : query.Sound prior start later := by
  obtain ⟨stage, totals⟩ := query
  cases stage with
  | lastUpdate flow =>
    obtain ⟨hflow, counted, haccount⟩ := hsound
    exact ⟨hflow, counted, haccount.grow hflow hgrown⟩
  | packetCount flow => exact Inside.grow hsound hgrown
  | byteCount flow packets =>
    obtain ⟨hinside, hpackets⟩ := hsound
    exact ⟨hinside.grow hgrown, hpackets.1, hpackets.2.trans (hgrown.packets flow hinside.slot)⟩
  | lossCount flow packets bytes =>
    obtain ⟨hinside, hpackets, hbytes⟩ := hsound
    refine ⟨hinside.grow hgrown, ⟨hpackets.1, ?_⟩, hbytes.1, ?_⟩
    · exact hpackets.2.trans (hgrown.packets flow hinside.slot)
    · exact hbytes.2.trans (hgrown.bytes flow hinside.slot)
  | finished =>
    obtain ⟨counted, haccount⟩ := hsound
    exact ⟨counted, haccount.grow le_rfl hgrown⟩

end Moves

/-! ### The query reads -/

section Reads

variable {prior : ServiceKPI} {start config : Config QoECollector TableUser} {flow : ℕ}
  {totals : ServiceKPI × UInt64 × UInt64} {counted : List ℕ}

/-- A reading of a slot is what the counter holds now. -/
theorem NumberedCounter.reads_slot {Amount : Type*} [AddCommMonoid Amount]
    (counter : NumberedCounter Amount) {metrics : FlowMetrics}
    (hslot : config.shared.flowMetrics[flow]? = some metrics)
    (hgrown : counter.stored flow start ≤ counter.stored flow config) :
    counter.Reads start config flow (counter.read metrics) := by
  have hstored : counter.stored flow config = counter.held (counter.read metrics) := by
    rw [stored, SlotCounter.inTable, hslot]
    rfl
  exact ⟨hstored ▸ hgrown, hstored.ge⟩

/-- The flows that are counted hold less together than a 64-bit counter does. -/
theorem NumberedCounter.tally_stored_lt {Amount : Type*} [AddCommMonoid Amount]
    (counter : NumberedCounter Amount) (hkeeps : counter.Keeps start config)
    (hfit : tally (fun flow ↦ counter.stored flow start + counter.owed flow start)
      (List.range start.shared.flowMetrics.length) < 2 ^ 64)
    (hcounted : counted.Sublist (List.range start.shared.flowMetrics.length)) :
    tally (counter.stored · config) counted < 2 ^ 64 := by
  calc
    tally (counter.stored · config) counted ≤
        tally (counter.stored · config) (List.range start.shared.flowMetrics.length) :=
      tally_sublist _ hcounted
    _ ≤ tally (fun flow ↦ counter.stored flow start + counter.owed flow start)
          (List.range start.shared.flowMetrics.length) :=
      tally_mono fun flow hflow ↦
        (Nat.le_add_right _ _).trans (hkeeps flow (List.mem_range.mp hflow)).le
    _ < 2 ^ 64 := hfit

/-- So do the losses, whatever the flows are: there are fewer than `2 ^ 32` of them. -/
theorem Recording.tally_losses_lt (hrecording : Recording start config)
    (hfit : lossNumber.Fits start)
    (hcounted : counted.Sublist (List.range start.shared.flowMetrics.length)) :
    tally (lossNumber.stored · config) counted < 2 ^ 64 := by
  have hlength : counted.length < 2 ^ 32 := by
    calc
      counted.length ≤ start.shared.flowMetrics.length := by
        simpa only [List.length_range] using hcounted.length_le
      _ = start.shared.maxFlows.toNat := start.shared.size_eq
      _ < 2 ^ 32 := start.shared.maxFlows.toNat_lt
  calc
    tally (lossNumber.stored · config) counted ≤ counted.length * 2 ^ 32 :=
      tally_le_length_mul fun flow hflow ↦ (hrecording.losses.stored_le lossNumber hfit
        (List.mem_range.mp (hcounted.subset hflow))).le
    _ < 2 ^ 32 * 2 ^ 32 := Nat.mul_lt_mul_of_pos_right hlength (by omega)
    _ = 2 ^ 64 := by omega

/-- The query passes over a flow with a stamp before the window. -/
theorem Account.skip (haccount : Account prior start config flow totals counted)
    (hstamp : ∃ stamp, Possible start flow stamp ∧ stamp < totals.1.windowStartNs) :
    Account prior start config (flow + 1) totals counted where
  visited := by
    rw [List.range_succ]
    exact haccount.visited.trans (List.sublist_append_left _ _)
  flows := haccount.flows
  packets := haccount.packets
  bytes := haccount.bytes
  losses := haccount.losses
  packets_eq := haccount.packets_eq
  inside := haccount.inside
  outside := by
    intro other hother hnot
    rcases Nat.lt_succ_iff_lt_or_eq.mp hother with hlt | rfl
    · exact haccount.outside other hlt hnot
    · exact hstamp

/-- A counter that does not wrap beyond a base is raised by what is added. -/
theorem toNat_raised {base count amount : UInt64}
    (hroom : (count - base).toNat + amount.toNat < 2 ^ 64) :
    (count + amount - base).toNat = (count - base).toNat + amount.toNat := by
  rw [add_sub_right_comm, UInt64.toNat_add, Nat.mod_eq_of_lt hroom]

/-- The query counts a flow in the window. -/
theorem Account.count (haccount : Account prior start config flow totals counted)
    (hrecording : Recording start config) (hfit : CountersFit start)
    (hflow : flow < start.shared.flowMetrics.length)
    (hstamp : ∃ stamp, Possible start flow stamp ∧ totals.1.windowStartNs ≤ stamp)
    {packets bytes : UInt64} {losses : UInt32}
    (hpackets : packetNumber.Reads start config flow packets)
    (hbytes : byteNumber.Reads start config flow bytes)
    (hlosses : lossNumber.Reads start config flow losses) :
    Account prior start config (flow + 1) (ServiceQuery.count totals packets bytes losses)
      (counted ++ [flow]) := by
  have hvisited : (counted ++ [flow]).Sublist (List.range (flow + 1)) := by
    rw [List.range_succ]
    exact haccount.visited.append (List.Sublist.refl _)
  have hwithin : (counted ++ [flow]).Sublist (List.range start.shared.flowMetrics.length) :=
    hvisited.trans (List.range_sublist.mpr hflow)
  have hmorePackets := haccount.packets.add hpackets.1 hpackets.2
  have hmoreBytes := haccount.bytes.add hbytes.1 hbytes.2
  have hmoreLosses := haccount.losses.add hlosses.1 hlosses.2
  have hroomPackets := hmorePackets.below.trans_lt
    (packetNumber.tally_stored_lt hrecording.packets hfit.packets hwithin)
  have hroomBytes := hmoreBytes.below.trans_lt
    (byteNumber.tally_stored_lt hrecording.bytes hfit.bytes hwithin)
  have hroomLosses := hmoreLosses.below.trans_lt
    (hrecording.tally_losses_lt hfit.losses hwithin)
  have hlength : (counted ++ [flow]).length < 2 ^ 64 := by
    calc
      (counted ++ [flow]).length ≤ start.shared.flowMetrics.length := by
        simpa only [List.length_range] using hwithin.length_le
      _ = start.shared.maxFlows.toNat := start.shared.size_eq
      _ < 2 ^ 64 := start.shared.maxFlows.toNat_lt.trans (by omega)
  have hwide : lossNumber.held losses = losses.toUInt64.toNat := (UInt32.toNat_toUInt64 losses).symm
  exact {
    visited := hvisited
    flows := by
      rw [List.length_append, List.length_singleton, ← haccount.flows] at hlength ⊢
      exact toNat_raised hlength
    packets := by
      have hsum := toNat_raised hroomPackets
      exact hsum ▸ hmorePackets
    bytes := by
      have hsum := toNat_raised hroomBytes
      exact hsum ▸ hmoreBytes
    losses := by
      rw [hwide] at hroomLosses hmoreLosses
      have hsum := (UInt64.toNat_add totals.2.1 losses.toUInt64).trans
        (Nat.mod_eq_of_lt hroomLosses)
      exact hsum ▸ hmoreLosses
    packets_eq := by
      rw [ServiceQuery.count, haccount.packets_eq]
      exact (add_sub_right_comm _ _ _).symm
    inside := by
      intro other hother
      rcases List.mem_append.mp hother with hbefore | hlast
      · exact haccount.inside other hbefore
      · rw [List.mem_singleton.mp hlast]
        exact hstamp
    outside := by
      intro other hother hnot
      rw [List.mem_append, not_or, List.mem_singleton] at hnot
      have hlt : other < flow := by omega
      exact haccount.outside other hlt hnot.1 }

/-- **One read.** What the query has read stays sound when it reads the next field. -/
theorem ServiceQuery.Sound.read {query : ServiceQuery} (hsound : query.Sound prior start config)
    (hrecording : Recording start config) (hfit : CountersFit start) :
    (query.read config.shared).Sound prior start config := by
  obtain ⟨stage, totals⟩ := query
  have hslotOf : ∀ flow < start.shared.flowMetrics.length,
      ∃ metrics, config.shared.flowMetrics[flow]? = some metrics := fun flow hflow ↦
    ⟨_, List.getElem?_eq_getElem (hrecording.length ▸ hflow)⟩
  cases stage with
  | lastUpdate flow =>
    obtain ⟨hflow, counted, haccount⟩ := hsound
    cases hslot : config.shared.flowMetrics[flow]? with
    | none =>
      have hend : flow = start.shared.flowMetrics.length :=
        hflow.antisymm (hrecording.length ▸ List.getElem?_eq_none_iff.mp hslot)
      simp only [ServiceQuery.read, hslot]
      exact ⟨counted, hend ▸ haccount⟩
    | some metrics =>
      have hlt : flow < start.shared.flowMetrics.length :=
        hrecording.length ▸ (List.getElem?_eq_some_iff.mp hslot).1
      have hpossible := hrecording.stamped.slots flow metrics hslot
      simp only [ServiceQuery.read, hslot]
      by_cases hbefore : metrics.lastUpdateNs < totals.1.windowStartNs
      · rw [if_pos hbefore]
        exact ⟨hlt, counted, haccount.skip ⟨_, hpossible, hbefore⟩⟩
      · rw [if_neg hbefore]
        exact ⟨hlt, ⟨_, hpossible, UInt64.not_lt.mp hbefore⟩, counted, haccount⟩
  | packetCount flow =>
    obtain ⟨metrics, hslot⟩ := hslotOf flow hsound.slot
    simp only [ServiceQuery.read, hslot]
    exact ⟨hsound, packetNumber.reads_slot hslot (hrecording.grown.packets flow hsound.slot)⟩
  | byteCount flow packets =>
    obtain ⟨hinside, hpackets⟩ := hsound
    obtain ⟨metrics, hslot⟩ := hslotOf flow hinside.slot
    simp only [ServiceQuery.read, hslot]
    exact ⟨hinside, hpackets,
      byteNumber.reads_slot hslot (hrecording.grown.bytes flow hinside.slot)⟩
  | lossCount flow packets bytes =>
    obtain ⟨⟨hflow, hstamp, counted, haccount⟩, hpackets, hbytes⟩ := hsound
    obtain ⟨metrics, hslot⟩ := hslotOf flow hflow
    have hlosses := lossNumber.reads_slot hslot (hrecording.grown.losses flow hflow)
    simp only [ServiceQuery.read, hslot]
    exact ⟨hflow, counted ++ [flow],
      haccount.count hrecording hfit hflow hstamp hpackets hbytes hlosses⟩
  | finished => exact hsound

end Reads

/-! ## Every schedule -/

/-- The fields of the result that no read changes. -/
def ServiceQuery.labels (query : ServiceQuery) : UInt16 × UInt32 × UInt64 × UInt64 :=
  (query.totals.1.serviceId, query.totals.1.avgLossPercent, query.totals.1.windowStartNs,
    query.totals.1.windowEndNs)

/-- The reads that a query still makes on a table of this size. -/
def QueryStage.untilFinished (size : ℕ) : QueryStage → ℕ
  | .lastUpdate flow => 4 * (size - flow) + 1
  | .packetCount flow => 4 * (size - flow)
  | .byteCount flow _ => 4 * (size - flow) - 1
  | .lossCount flow _ _ => 4 * (size - flow) - 2
  | .finished => 0

theorem labels_read (collector : QoECollector) (query : ServiceQuery) :
    (query.read collector).labels = query.labels := by
  fun_cases ServiceQuery.read collector query <;> simp_all [ServiceQuery.labels, ServiceQuery.count]

theorem untilFinished_read (collector : QoECollector) (query : ServiceQuery) :
    (query.read collector).stage.untilFinished collector.flowMetrics.length ≤
      query.stage.untilFinished collector.flowMetrics.length - 1 := by
  obtain ⟨stage, totals⟩ := query
  cases stage with
  | finished => exact le_rfl
  | lastUpdate flow | packetCount flow | byteCount flow | lossCount flow =>
    cases hslot : collector.flowMetrics[flow]? with
    | none =>
      have hflow := List.getElem?_eq_none_iff.mp hslot
      simp only [ServiceQuery.read, hslot, QueryStage.untilFinished]
      omega
    | some metrics =>
      have hflow := (List.getElem?_eq_some_iff.mp hslot).1
      simp only [ServiceQuery.read, hslot]
      try split
      all_goals
        simp only [QueryStage.untilFinished]
        omega

/-- What holds of a query and the threads in every state of a run. -/
structure LiveQuery.Valid (prior : ServiceKPI) (start : Config QoECollector TableUser)
    (state : LiveQuery) : Prop where
  recording : Recording start state.config
  sound : state.query.Sound prior start state.config

section Runs

variable {prior : ServiceKPI} {start : Config QoECollector TableUser}

theorem LiveQuery.Valid.step (hfit : CountersFit start) {state : LiveQuery}
    (hvalid : state.Valid prior start) (event : QueryEvent) :
    (LiveQuery.step state event).Valid prior start := by
  cases event with
  | read => exact ⟨hvalid.recording, hvalid.sound.read hvalid.recording hfit⟩
  | move place clock =>
    obtain ⟨hrecording, hgrown⟩ := hvalid.recording.step hfit (place, clock)
    exact ⟨hrecording, hvalid.sound.grow hgrown⟩

/-- A query counts nothing at its start. -/
theorem sound_start (start : Config QoECollector TableUser) (serviceId : UInt16)
    (windowNs now : UInt64) (prior : ServiceKPI) :
    (ServiceQuery.start serviceId windowNs now prior).Sound prior start start := by
  refine ⟨Nat.zero_le _, [], ?_⟩
  have hnone : ∀ amount : UInt64, (amount - amount).toNat = 0 := fun amount ↦ by
    rw [sub_self, UInt64.toNat_zero]
  exact {
    visited := List.nil_sublist _
    flows := hnone _
    packets := (hnone prior.totalPackets).symm ▸ Chosen.start _ _
    bytes := (hnone prior.totalBytes).symm ▸ Chosen.start _ _
    losses := Chosen.start _ _
    packets_eq := (sub_self _).symm
    inside := fun _ hother ↦ absurd hother List.not_mem_nil
    outside := fun _ hother ↦ absurd hother (Nat.not_lt_zero _) }

theorem valid_after (hfit : CountersFit start) (serviceId : UInt16) (windowNs now : UInt64)
    (events : List QueryEvent) :
    (LiveQuery.after start (.start serviceId windowNs now prior) events).Valid prior start := by
  apply Execution.run_invariant fun state : LiveQuery ↦ state.Valid prior start
  · exact ⟨recording_start start, sound_start start serviceId windowNs now prior⟩
  · exact fun _ event hvalid ↦ hvalid.step hfit event

theorem labels_after (start : Config QoECollector TableUser) (query : ServiceQuery)
    (events : List QueryEvent) :
    (LiveQuery.after start query events).query.labels = query.labels := by
  apply Execution.run_invariant fun state : LiveQuery ↦ state.query.labels = query.labels
  · rfl
  · intro state event hlabels
    cases event with
    | read => exact (labels_read _ _).trans hlabels
    | move place clock => exact hlabels

/-- Every read brings a query nearer to its end, whatever the threads do. -/
theorem untilFinished_after (start : Config QoECollector TableUser) (query : ServiceQuery)
    (events : List QueryEvent) :
    let state := LiveQuery.after start query events
    let size := start.shared.flowMetrics.length
    state.config.shared.flowMetrics.length = size ∧ state.query.stage.untilFinished size ≤
      query.stage.untilFinished size - events.countP QueryEvent.isRead := by
  induction events using List.reverseRecOn with
  | nil => exact ⟨rfl, le_rfl⟩
  | append_singleton events event ih =>
    obtain ⟨hlength, hmeasure⟩ := ih
    simp only [LiveQuery.after, Execution.run_concat, List.countP_append, List.countP_singleton]
      at hlength hmeasure ⊢
    cases event with
    | read =>
      have hread := untilFinished_read
        (Execution.run LiveQuery.step ⟨query, start⟩ events).config.shared
        (Execution.run LiveQuery.step ⟨query, start⟩ events).query
      rw [hlength] at hread
      refine ⟨hlength, hread.trans ?_⟩
      rw [QueryEvent.isRead, if_pos rfl]
      omega
    | move place clock => exact ⟨(length_step _ _).trans hlength, hmeasure⟩

/-- A query without reads left has an account of all flows. -/
theorem ServiceQuery.Sound.account_of_done {config : Config QoECollector TableUser}
    {query : ServiceQuery} (hsound : query.Sound prior start config)
    (hdone : query.stage.untilFinished start.shared.flowMetrics.length = 0) :
    query.stage = .finished ∧
      ∃ counted, Account prior start config start.shared.flowMetrics.length query.totals counted := by
  obtain ⟨stage, totals⟩ := query
  cases stage with
  | finished => exact ⟨rfl, hsound⟩
  | lastUpdate flow => cases hdone
  | packetCount flow =>
    have hslot := hsound.slot
    simp only [QueryStage.untilFinished] at hdone
    omega
  | byteCount flow | lossCount flow =>
    have hslot := hsound.1.slot
    simp only [QueryStage.untilFinished] at hdone
    omega

/-- What a service query reports that ran from one state of the table and its threads to another:
totals over the flows that it counted, above what the memory of the result held. -/
structure Reported (prior : ServiceKPI) (start ended : Config QoECollector TableUser)
    (kpi : ServiceKPI) (counted : List ℕ) : Prop where
  visited : counted.Sublist (List.range start.shared.flowMetrics.length)
  flows : (kpi.totalFlows - prior.totalFlows).toNat = counted.length
  packets : Chosen (packetNumber.stored · start) (packetNumber.stored · ended) counted
    (kpi.totalPackets - prior.totalPackets).toNat
  bytes : Chosen (byteNumber.stored · start) (byteNumber.stored · ended) counted
    (kpi.totalBytes - prior.totalBytes).toNat
  losses : ∃ lost : UInt64,
    Chosen (lossNumber.stored · start) (lossNumber.stored · ended) counted lost.toNat ∧
    kpi.avgLossPercent =
      if 0 < kpi.totalPackets - prior.totalPackets then
        (lost * 100 / (kpi.totalPackets - prior.totalPackets)).toUInt32
      else prior.avgLossPercent
  inside : ∀ flow ∈ counted, ∃ stamp, Possible start flow stamp ∧ kpi.windowStartNs ≤ stamp
  outside : ∀ flow < start.shared.flowMetrics.length, flow ∉ counted →
    ∃ stamp, Possible start flow stamp ∧ stamp < kpi.windowStartNs

/-- **A service query reports totals in between.** While any number of threads record samples and
sweep the table, a service query returns once it has made its reads. It counts every flow whose stamps
are all in the window and no flow whose stamps are all before it. Above what the memory of the result
held, it reports of the flows that it counts at least what they held when it began and at most what
they hold when it ends. -/
theorem service_between (hfit : CountersFit start) (serviceId : UInt16) (windowNs now : UInt64)
    {events : List QueryEvent} (hreads :
      4 * start.shared.flowMetrics.length + 1 ≤ events.countP QueryEvent.isRead) :
    let ended := LiveQuery.after start (.start serviceId windowNs now prior) events
    ∃ kpi counted, ended.query.result = some kpi ∧ kpi.serviceId = serviceId ∧
      kpi.windowStartNs = now - windowNs ∧ kpi.windowEndNs = now ∧
      Reported prior start ended.config kpi counted := by
  intro ended
  have hvalid : ended.Valid prior start := valid_after hfit serviceId windowNs now events
  have hlabels : ended.query.labels = _ :=
    labels_after start (.start serviceId windowNs now prior) events
  have hleft := (untilFinished_after start (.start serviceId windowNs now prior) events).2
  change ended.query.stage.untilFinished _ ≤ 4 * (_ - 0) + 1 - _ at hleft
  have hdone : ended.query.stage.untilFinished start.shared.flowMetrics.length = 0 := by omega
  obtain ⟨hstage, counted, haccount⟩ := hvalid.sound.account_of_done hdone
  obtain ⟨⟨stage, kpi, totalLoss, totalPackets⟩, config⟩ := ended
  obtain rfl : stage = .finished := hstage
  obtain rfl : totalPackets = kpi.totalPackets - prior.totalPackets := haccount.packets_eq
  simp only [ServiceQuery.labels, ServiceQuery.start, Prod.mk.injEq] at hlabels
  obtain ⟨hservice, hpercent, hwindowStart, hwindowEnd⟩ := hlabels
  by_cases hpackets : 0 < kpi.totalPackets - prior.totalPackets
  · refine ⟨_, counted, if_pos hpackets, hservice, hwindowStart, hwindowEnd, ?_⟩
    exact { haccount with losses := ⟨totalLoss, haccount.losses, (if_pos hpackets).symm⟩ }
  · refine ⟨_, counted, if_neg hpackets, hservice, hwindowStart, hwindowEnd, ?_⟩
    exact { haccount with
      losses := ⟨totalLoss, haccount.losses, hpercent.trans (if_neg hpackets).symm⟩ }

end Runs

/-- Two fresh slots, a thread that records a lost packet of the first, and one that sweeps. -/
def recordingOne : Config QoECollector TableUser :=
  startTable (.create 2 fun _ ↦ 0) [[(⟨0, 1, 1, 100, 25, true, 0⟩, 7)]] [[3]]

/-- The sample is recorded while the query reads the first slot. -/
def queryMeetsSample : List QueryEvent :=
  [.move 0 0, .move 0 0, .move 0 0, .read, .read, .move 1 8, .read, .move 0 0, .read, .move 1 8,
    .move 0 0, .read, .read, .read, .read, .read]

/-- The query counts the first flow, with its packet, its bytes and its loss. -/
theorem recordingOne_between :
    ∃ counted, Reported .zero recordingOne
      (LiveQuery.after recordingOne (.start 1 5 10 .zero) queryMeetsSample).config
      ⟨1, 1, 100, 1, 100, 5, 10⟩ counted := by
  have hfit : CountersFit recordingOne := {
    packets := by decide +kernel
    bytes := by decide +kernel
    losses := show ∀ flow < 2, _ by decide +kernel }
  have hresult :
      (LiveQuery.after recordingOne (.start 1 5 10 .zero) queryMeetsSample).query.result =
        some ⟨1, 1, 100, 1, 100, 5, 10⟩ := by decide +kernel
  have hreads : 4 * recordingOne.shared.flowMetrics.length + 1 ≤
      queryMeetsSample.countP QueryEvent.isRead := by decide +kernel
  obtain ⟨kpi, counted, hreturned, -, -, -, hreported⟩ := service_between hfit 1 5 10 hreads
  obtain rfl := Option.some.inj (hreturned.symm.trans hresult)
  exact ⟨counted, hreported⟩

end VirtualServiceGateway.Analytics
