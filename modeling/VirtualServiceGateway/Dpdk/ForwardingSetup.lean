import VirtualServiceGateway.Dpdk.CommandLine
import VirtualServiceGateway.Dpdk.ForwardingCores
import VirtualServiceGateway.Foundation.GuardedSequence

/-!
# The main function of the forwarding program

It sets up the enabled ports one by one, launches the cores, waits for them, and stops and closes
the enabled ports. A failure on the way to the launches ends the program at once; after them no
result is looked at. The launched cores loop until a signal comes, so without one the program waits
for them. Every call but two is one that the port's phase allows, whatever fails: the cores poll
port 0 whether it is enabled or not, and a port that fails to stop is closed all the same.
-/

namespace VirtualServiceGateway.Dpdk

open TextExtraction GuardedSequence Execution

/-- What a core is launched with. -/
inductive LcoreFunction where
  | lcoreRx (portId : UInt16)
  | lcoreTx (portId : UInt16)
  | lcoreStats
  deriving DecidableEq

/-- A call of the program, with its outcome. -/
inductive EthCall where
  | infoGet (portId : UInt16)
  | devConfigure (portId nbRxQueues nbTxQueues : UInt16) (mtu : UInt32) (succeeded : Bool)
  | rxQueueSetup (portId queue nbDesc : UInt16) (succeeded : Bool)
  | txQueueSetup (portId queue nbDesc : UInt16) (succeeded : Bool)
  | promiscuousEnable (portId : UInt16) (succeeded : Bool)
  | devStart (portId : UInt16) (succeeded : Bool)
  | remoteLaunch (function : LcoreFunction) (lcore : ℕ) (succeeded : Bool)
  | waitLcores
  | devStop (portId : UInt16) (succeeded : Bool)
  | devClose (portId : UInt16) (succeeded : Bool)
  deriving DecidableEq

/-- A core has been launched. -/
def EthCall.launches : EthCall → Bool
  | .remoteLaunch _ _ succeeded => succeeded
  | _ => false

/-- The call belongs to the set-up of a port. -/
def EthCall.setsUp : EthCall → Bool
  | .remoteLaunch .. => false
  | .waitLcores => false
  | .devStop .. => false
  | .devClose .. => false
  | _ => true

/-- The port that a core polls from the call on. -/
def EthCall.polled : EthCall → Option UInt16
  | .remoteLaunch (.lcoreRx portId) _ true => some portId
  | .remoteLaunch (.lcoreTx portId) _ true => some portId
  | _ => none

/-- How the program ends: it exits with a message, waits for its cores for ever, or returns. -/
inductive Ending where
  | exits (message : String)
  | waits
  | returns
  deriving DecidableEq

/-- What the program runs on: the words that are left of its command line unless the environment
fails, whether the pool and the ring can be created, the attached ports in ascending order, the
number of cores, whether a signal comes that sets `force_quit`, and whether the next call succeeds
after any trace. -/
structure Machine where
  ealInit : Option (List Text)
  poolCreated : Bool
  ringCreated : Bool
  attached : List UInt16
  lcoreCount : ℕ
  signalled : Bool
  succeeds : List EthCall → Bool
  attached_ascending : attached.Pairwise (· < ·)
  attached_lt : ∀ portId ∈ attached, portId < 32

namespace Machine

variable (machine : Machine) (enabledPortmask : UInt32)

/-- A call that may fail. -/
def attempt (call : Bool → EthCall) : Attempt EthCall := fun trace ↦
  (machine.succeeds trace, trace ++ [call (machine.succeeds trace)])

/-- A call that only reads. -/
def note (call : EthCall) : Attempt EthCall := fun trace ↦ (true, trace ++ [call])

/-- Calls whose outcomes are not looked at. -/
def perform (calls : List (Bool → EthCall)) (trace : List EthCall) : List EthCall :=
  run (fun trace call ↦ trace ++ [call (machine.succeeds trace)]) trace calls

/-- `BURST_SIZE * 2`. -/
def nbDesc : UInt16 := UInt16.ofNat (burstSize * 2)

def configurePort (portId : UInt16) : Attempt EthCall :=
  andThen (machine.attempt (.devConfigure portId 1 1 9000))
    (andThen (machine.attempt (.rxQueueSetup portId 0 nbDesc))
      (andThen (machine.attempt (.txQueueSetup portId 0 nbDesc))
        (machine.attempt (.promiscuousEnable portId))))

/-- One round of the loop over the ports: a port that is not in the mask is skipped. -/
def initPort (portId : UInt16) : Attempt EthCall :=
  if portEnabled enabledPortmask portId = false then fun trace ↦ (true, trace)
  else andThen (note (.infoGet portId))
    (andThen (machine.configurePort portId) (machine.attempt (.devStart portId)))

def initPorts : Attempt EthCall :=
  let nbPorts := UInt16.ofNat machine.attached.length
  if nbPorts = 0 then fun trace ↦ (false, trace)
  else forAll (machine.initPort enabledPortmask) machine.attached

/-- The enabled ports. -/
def enabledPorts : List UInt16 := machine.attached.filter (portEnabled enabledPortmask)

/-- Launching the cores. -/
def launches : List (Bool → EthCall) :=
  [.remoteLaunch (.lcoreRx 0) 1, .remoteLaunch (.lcoreTx 0) 2, .remoteLaunch .lcoreStats 3]

/-- Stopping and closing the enabled ports. -/
def cleanup : List (Bool → EthCall) :=
  (machine.enabledPorts enabledPortmask).flatMap fun portId ↦ [.devStop portId, .devClose portId]

/-- Some core has been launched, and no signal lets it out of its loop (`loops_without_signal`). -/
def Waits (trace : List EthCall) : Prop := machine.signalled = false ∧ ∃ call ∈ trace, call.launches

instance (trace : List EthCall) : Decidable (machine.Waits trace) :=
  inferInstanceAs (Decidable (_ ∧ _))

/-- How the program ends, and its calls. -/
def main : Ending × List EthCall :=
  match machine.ealInit with
  | none => (.exits "Cannot init EAL\n", [])
  | some arguments =>
      match parseArgs arguments with
      | none => (.exits "Invalid arguments\n", [])
      | some enabledPortmask =>
          if machine.poolCreated = false then (.exits "Cannot init mempool\n", [])
          else if machine.ringCreated = false then (.exits "Cannot init ring\n", [])
          else
            match machine.initPorts enabledPortmask [] with
            | (false, trace) => (.exits "Cannot init ports\n", trace)
            | (true, trace) =>
                if machine.lcoreCount < 3 then
                  (.exits "Need at least 3 lcores (RX, TX, Stats)\n", trace)
                else
                  let trace := machine.perform launches trace ++ [.waitLcores]
                  if machine.Waits trace then (.waits, trace)
                  else (.returns, machine.perform (machine.cleanup enabledPortmask) trace)

end Machine

/-! ## Phases of a port -/

/-- The life of a port: a configured port may have its queues set up. -/
inductive PortPhase where
  | closed
  | configured (rxReady txReady : Bool)
  | started
  | stopped
  deriving DecidableEq

/-- A queue of a configured port is set up. -/
def PortPhase.withQueues (rx tx : Bool) : PortPhase → PortPhase
  | .configured rxReady txReady => .configured (rxReady || rx) (txReady || tx)
  | phase => phase

/-- A stopped port is closed. -/
def PortPhase.close : PortPhase → PortPhase
  | .stopped => .closed
  | phase => phase

/-- The phases of the ports after a call. A call that fails changes nothing, and closing takes
effect on a stopped port only. -/
def phaseStep (phases : UInt16 → PortPhase) : EthCall → UInt16 → PortPhase
  | .devConfigure portId _ _ _ true => Function.update phases portId (.configured false false)
  | .rxQueueSetup portId _ _ true =>
      Function.update phases portId ((phases portId).withQueues true false)
  | .txQueueSetup portId _ _ true =>
      Function.update phases portId ((phases portId).withQueues false true)
  | .devStart portId true => Function.update phases portId .started
  | .devStop portId true => Function.update phases portId .stopped
  | .devClose portId true => Function.update phases portId (phases portId).close
  | _ => phases

/-- The phase of its port allows the call. A launched core polls its port, which has to be
started. -/
def Allowed (phases : UInt16 → PortPhase) : EthCall → Prop
  | .devConfigure portId .. => phases portId = .closed
  | .rxQueueSetup portId .. => ∃ txReady, phases portId = .configured false txReady
  | .txQueueSetup portId .. => ∃ rxReady, phases portId = .configured rxReady false
  | .promiscuousEnable portId _ => phases portId = .configured true true
  | .devStart portId _ => phases portId = .configured true true
  | .remoteLaunch (.lcoreRx portId) _ succeeded => succeeded → phases portId = .started
  | .remoteLaunch (.lcoreTx portId) _ succeeded => succeeded → phases portId = .started
  | .devStop portId _ => phases portId = .started
  | .devClose portId _ => phases portId = .stopped
  | _ => True

/-- The phases after a trace. -/
def phasesAfter (trace : List EthCall) : UInt16 → PortPhase := run phaseStep (fun _ ↦ .closed) trace

/-- Every call of the trace is allowed when it is made. -/
def Legal (trace : List EthCall) : Prop := StepsMeet phaseStep Allowed (fun _ ↦ .closed) trace

/-- The trace is legal and leads to the phases. -/
def LeadsTo (phases : UInt16 → PortPhase) (trace : List EthCall) : Prop :=
  Legal trace ∧ phasesAfter trace = phases

theorem LeadsTo.concat {phases : UInt16 → PortPhase} {trace : List EthCall}
    (h : LeadsTo phases trace) {call : EthCall} (hcall : Allowed phases call) :
    LeadsTo (phaseStep phases call) (trace ++ [call]) := by
  obtain ⟨hlegal, rfl⟩ := h
  exact ⟨(stepsMeet_concat _ _ _ _ _).mpr ⟨hlegal, hcall⟩, run_concat _ _ _ _⟩

namespace Machine

variable (machine : Machine) (enabledPortmask : UInt32)

/-! ## Setting up one port -/

/-- Only the phase of this port may have changed. -/
def LeadsToAt (phases : UInt16 → PortPhase) (portId : UInt16) (trace : List EthCall) : Prop :=
  ∃ phase, LeadsTo (Function.update phases portId phase) trace

/-- A call about one port takes it from one phase to the next, or fails and leaves it. -/
theorem triple_attempt (phases : UInt16 → PortPhase) (portId : UInt16) {phase : PortPhase}
    (next : PortPhase) (call : Bool → EthCall)
    (hallowed : ∀ succeeded, Allowed (Function.update phases portId phase) (call succeeded))
    (htrue : phaseStep (Function.update phases portId phase) (call true) =
      Function.update phases portId next)
    (hfalse : phaseStep (Function.update phases portId phase) (call false) =
      Function.update phases portId phase) :
    Triple (LeadsTo (Function.update phases portId phase)) (machine.attempt call)
      (LeadsTo (Function.update phases portId next)) (LeadsToAt phases portId) := by
  intro trace hbefore
  have hafter := hbefore.concat (hallowed (machine.succeeds trace))
  unfold attempt
  cases hsucceeds : machine.succeeds trace with
  | true =>
    rw [hsucceeds, htrue] at hafter
    exact hafter
  | false =>
    rw [hsucceeds, hfalse] at hafter
    exact ⟨phase, hafter⟩

theorem triple_configurePort (phases : UInt16 → PortPhase) (portId : UInt16) :
    Triple (LeadsTo (Function.update phases portId .closed)) (machine.configurePort portId)
      (LeadsTo (Function.update phases portId (.configured true true)))
      (LeadsToAt phases portId) := by
  have hconfigure := machine.triple_attempt phases portId
    (.configured false false) (.devConfigure portId 1 1 9000)
    (fun _ ↦ Function.update_self ..) (Function.update_idem ..) rfl
  have hrx := machine.triple_attempt phases portId
    (.configured true false) (.rxQueueSetup portId 0 nbDesc)
    (fun _ ↦ ⟨false, Function.update_self ..⟩) (by simp [phaseStep, PortPhase.withQueues]) rfl
  have htx := machine.triple_attempt phases portId
    (.configured true true) (.txQueueSetup portId 0 nbDesc)
    (fun _ ↦ ⟨true, Function.update_self ..⟩) (by simp [phaseStep, PortPhase.withQueues]) rfl
  have hpromiscuous := machine.triple_attempt phases portId
    (.configured true true) (.promiscuousEnable portId)
    (fun _ ↦ Function.update_self ..) rfl rfl
  exact triple_andThen hconfigure (triple_andThen hrx (triple_andThen htx hpromiscuous))

/-- An enabled port is set up and started, or it is left in some phase. -/
theorem triple_initPort (phases : UInt16 → PortPhase) {portId : UInt16}
    (henabled : portEnabled enabledPortmask portId = true) :
    Triple (LeadsTo (Function.update phases portId .closed))
      (machine.initPort enabledPortmask portId)
      (LeadsTo (Function.update phases portId .started)) (LeadsToAt phases portId) := by
  have hinfo : Triple (LeadsTo (Function.update phases portId .closed)) (note (.infoGet portId))
      (LeadsTo (Function.update phases portId .closed)) (LeadsToAt phases portId) :=
    fun trace hbefore ↦ hbefore.concat trivial
  have hstart := machine.triple_attempt phases portId .started (.devStart portId)
    (fun _ ↦ Function.update_self ..) (Function.update_idem ..) rfl
  rw [initPort, if_neg (by simp [henabled])]
  exact triple_andThen hinfo (triple_andThen (machine.triple_configurePort phases portId) hstart)

/-! ## Setting up the ports -/

/-- The phases when the enabled ports of a list are started, and all others closed. -/
def startedOf (enabledPortmask : UInt32) (ports : List UInt16) (portId : UInt16) : PortPhase :=
  if portId ∈ ports ∧ portEnabled enabledPortmask portId = true then .started else .closed

/-- The trace is legal, and no port but enabled ones has been opened. -/
def OpensEnabled (trace : List EthCall) : Prop :=
  Legal trace ∧
    ∀ portId ∉ machine.enabledPorts enabledPortmask, phasesAfter trace portId = .closed

theorem mem_enabledPorts (portId : UInt16) : portId ∈ machine.enabledPorts enabledPortmask ↔
    portId ∈ machine.attached ∧ portEnabled enabledPortmask portId = true := List.mem_filter

/-- One round of the loop over the ports. -/
theorem triple_round {before after : List UInt16} {portId : UInt16}
    (hports : machine.attached = before ++ portId :: after) :
    Triple (LeadsTo (startedOf enabledPortmask before)) (machine.initPort enabledPortmask portId)
      (LeadsTo (startedOf enabledPortmask (before ++ [portId])))
      (machine.OpensEnabled enabledPortmask) := by
  have hnew : portId ∉ before := by
    have hascending := machine.attached_ascending
    rw [hports, List.pairwise_append] at hascending
    exact fun hmem ↦ UInt16.lt_irrefl _ (hascending.2.2 portId hmem portId List.mem_cons_self)
  by_cases henabled : portEnabled enabledPortmask portId = true
  · have hbefore : Function.update (startedOf enabledPortmask before) portId .closed =
        startedOf enabledPortmask before := by
      apply Function.update_eq_self_iff.mpr
      rw [startedOf, if_neg fun h ↦ hnew h.1]
    have hafter : Function.update (startedOf enabledPortmask before) portId .started =
        startedOf enabledPortmask (before ++ [portId]) := by
      funext other
      by_cases hother : other = portId
      · subst hother
        simp [startedOf, henabled]
      · simp [startedOf, hother]
    have hport := machine.triple_initPort enabledPortmask (startedOf enabledPortmask before)
      henabled
    rw [hbefore, hafter] at hport
    refine hport.mono_failed ?_
    rintro trace ⟨phase, hlegal, hphases⟩
    refine ⟨hlegal, fun other hother ↦ ?_⟩
    rw [mem_enabledPorts, hports] at hother
    have hne : other ≠ portId := by
      rintro rfl
      exact hother ⟨by simp, henabled⟩
    rw [hphases, Function.update_of_ne hne, startedOf, if_neg]
    exact fun h ↦ hother ⟨List.mem_append_left _ h.1, h.2⟩
  · have hsame : startedOf enabledPortmask (before ++ [portId]) =
        startedOf enabledPortmask before := by
      funext other
      by_cases hother : other = portId
      · subst hother
        simp [startedOf, henabled]
      · simp [startedOf, hother]
    rw [initPort, if_pos (by simpa using henabled), hsame]
    exact fun trace hbefore ↦ hbefore

/-- The loop starts the enabled ports, or it fails and has opened no others. -/
theorem triple_initPorts :
    Triple (LeadsTo fun _ ↦ .closed) (machine.initPorts enabledPortmask)
      (LeadsTo (startedOf enabledPortmask machine.attached))
      (machine.OpensEnabled enabledPortmask) := by
  have hloop := triple_forAll (fun done ↦ LeadsTo (startedOf enabledPortmask done)) []
    fun before portId after hports ↦ machine.triple_round enabledPortmask hports
  have hnone : startedOf enabledPortmask [] = fun _ ↦ .closed := by
    funext portId
    simp [startedOf]
  rw [hnone] at hloop
  unfold initPorts
  dsimp only
  split
  · rintro trace ⟨hlegal, hphases⟩
    exact ⟨hlegal, fun portId _ ↦ by rw [hphases]⟩
  · exact hloop

/-- Setting up the ports neither launches cores nor stops or closes ports. -/
theorem setsUp_initPorts :
    ∀ call ∈ (machine.initPorts enabledPortmask []).2, call.setsUp = true := by
  have hattempt (call : Bool → EthCall) (hcall : ∀ succeeded, (call succeeded).setsUp = true) :
      Appends (fun call ↦ call.setsUp = true) (machine.attempt call) :=
    fun trace ↦ ⟨_, rfl, List.forall_mem_singleton.mpr (hcall _)⟩
  have hport (portId : UInt16) :
      Appends (fun call ↦ call.setsUp = true) (machine.initPort enabledPortmask portId) := by
    unfold initPort
    split
    · exact appends_const true
    · have hinfo : Appends (fun call ↦ call.setsUp = true) (note (.infoGet portId)) :=
        fun trace ↦ ⟨_, rfl, List.forall_mem_singleton.mpr rfl⟩
      exact appends_andThen hinfo (appends_andThen
        (appends_andThen (hattempt _ fun _ ↦ rfl) (appends_andThen (hattempt _ fun _ ↦ rfl)
          (appends_andThen (hattempt _ fun _ ↦ rfl) (hattempt _ fun _ ↦ rfl))))
        (hattempt _ fun _ ↦ rfl))
  have hports : Appends (fun call ↦ call.setsUp = true) (machine.initPorts enabledPortmask) := by
    unfold initPorts
    dsimp only
    split
    · exact appends_const false
    · exact appends_forAll hport machine.attached
  obtain ⟨added, hadded, hsetsUp⟩ := hports []
  rw [hadded]
  exact hsetsUp

/-! ## Stopping and closing -/

/-- Which ports stop and which ones close when they are asked to. -/
structure Closing where
  stops : UInt16 → Bool
  closes : UInt16 → Bool

namespace Closing

variable (closing : Closing)

/-- The calls that stop and close one port. -/
def calls (portId : UInt16) : List EthCall :=
  [.devStop portId (closing.stops portId), .devClose portId (closing.closes portId)]

/-- The phase in which they leave a started port. -/
def leaves (portId : UInt16) : PortPhase :=
  if closing.stops portId = false then .started
  else if closing.closes portId = false then .stopped
  else .closed

theorem leaves_ne_closed_iff (portId : UInt16) :
    closing.leaves portId ≠ .closed ↔
      closing.stops portId = false ∨ closing.closes portId = false := by
  unfold leaves
  cases closing.stops portId <;> cases closing.closes portId <;> decide

theorem devStop_mem_iff (ports : List UInt16) (portId : UInt16) (succeeded : Bool) :
    .devStop portId succeeded ∈ ports.flatMap closing.calls ↔
      portId ∈ ports ∧ closing.stops portId = succeeded := by
  simp [calls, List.mem_flatMap, and_left_comm, eq_comm]

theorem devClose_mem_iff (ports : List UInt16) (portId : UInt16) (succeeded : Bool) :
    .devClose portId succeeded ∈ ports.flatMap closing.calls ↔
      portId ∈ ports ∧ closing.closes portId = succeeded := by
  simp [calls, List.mem_flatMap, and_left_comm, eq_comm]

theorem run_calls {phases : UInt16 → PortPhase} {portId : UInt16}
    (hstarted : phases portId = .started) :
    run phaseStep phases (closing.calls portId) =
      Function.update phases portId (closing.leaves portId) := by
  have hsame : Function.update phases portId .started = phases :=
    Function.update_eq_self_iff.mpr hstarted.symm
  unfold calls leaves
  cases closing.stops portId <;> cases closing.closes portId <;>
    simp [phaseStep, PortPhase.close, hstarted, hsame]

/-- A port that is stopped may be closed, and one that fails to stop may not. -/
theorem legal_calls_iff {phases : UInt16 → PortPhase} {portId : UInt16}
    (hstarted : phases portId = .started) :
    StepsMeet phaseStep Allowed phases (closing.calls portId) ↔
      closing.stops portId = true := by
  unfold calls
  cases closing.stops portId <;> simp [StepsMeet, phaseStep, Allowed, hstarted]

/-- Ports that are started stay so when another port changes. -/
theorem still_started {ports : List UInt16} {port : UInt16} (hnew : port ∉ ports)
    {phases : UInt16 → PortPhase} (hstarted : ∀ portId ∈ ports, phases portId = .started)
    (phase : PortPhase) :
    ∀ portId ∈ ports, Function.update phases port phase portId = .started := by
  intro portId hportId
  have hne : portId ≠ port := fun h ↦ hnew (h ▸ hportId)
  rw [Function.update_of_ne hne]
  exact hstarted portId hportId

/-- Stopping and closing distinct started ports is legal exactly when all of them stop. -/
theorem legal_iff {ports : List UInt16} (hdistinct : ports.Nodup) {phases : UInt16 → PortPhase}
    (hstarted : ∀ portId ∈ ports, phases portId = .started) :
    StepsMeet phaseStep Allowed phases (ports.flatMap closing.calls) ↔
      ∀ portId ∈ ports, closing.stops portId = true := by
  induction ports generalizing phases with
  | nil => simp [StepsMeet]
  | cons port ports ih =>
    rw [List.nodup_cons] at hdistinct
    rw [List.forall_mem_cons] at hstarted ⊢
    rw [List.flatMap_cons, stepsMeet_append, closing.legal_calls_iff hstarted.1,
      closing.run_calls hstarted.1, ih hdistinct.2 (still_started hdistinct.1 hstarted.2 _)]

theorem run_eq {ports : List UInt16} (hdistinct : ports.Nodup) {phases : UInt16 → PortPhase}
    (hstarted : ∀ portId ∈ ports, phases portId = .started) (portId : UInt16) :
    run phaseStep phases (ports.flatMap closing.calls) portId =
      if portId ∈ ports then closing.leaves portId else phases portId := by
  induction ports generalizing phases with
  | nil => rfl
  | cons port ports ih =>
    rw [List.nodup_cons] at hdistinct
    rw [List.forall_mem_cons] at hstarted
    rw [List.flatMap_cons, run_append, closing.run_calls hstarted.1,
      ih hdistinct.2 (still_started hdistinct.1 hstarted.2 _)]
    by_cases hport : portId = port
    · subst hport
      simp [hdistinct.1]
    · simp [hport]

end Closing

/-- Each of distinct ports is asked once to stop and once to close. -/
theorem exists_closing {ports : List UInt16} (hdistinct : ports.Nodup) (trace : List EthCall) :
    ∃ closing : Closing,
      machine.perform (ports.flatMap fun portId ↦ [.devStop portId, .devClose portId]) trace =
        trace ++ ports.flatMap closing.calls := by
  induction ports generalizing trace with
  | nil => exact ⟨⟨fun _ ↦ true, fun _ ↦ true⟩, (List.append_nil trace).symm⟩
  | cons port ports ih =>
    rw [List.nodup_cons] at hdistinct
    let stopped := machine.succeeds trace
    let closed := machine.succeeds (trace ++ [.devStop port stopped])
    obtain ⟨rest, hrest⟩ :=
      ih hdistinct.2 (trace ++ [.devStop port stopped] ++ [.devClose port closed])
    let closing : Closing :=
      ⟨Function.update rest.stops port stopped, Function.update rest.closes port closed⟩
    have hfirst : closing.calls port = [.devStop port stopped, .devClose port closed] := by
      simp [Closing.calls, closing]
    have hothers : ports.flatMap closing.calls = ports.flatMap rest.calls := by
      apply List.flatMap_congr
      intro portId hportId
      have hne : portId ≠ port := fun h ↦ hdistinct.1 (h ▸ hportId)
      simp [Closing.calls, closing, hne]
    refine ⟨closing, ?_⟩
    rw [List.flatMap_cons, List.flatMap_cons, hfirst, hothers]
    refine hrest.trans ?_
    simp

/-! ## The exact run -/

/-- A call succeeds after the trace, where the program looks at that. -/
def Accepts (trace : List EthCall) : EthCall → Prop
  | .devConfigure .. => machine.succeeds trace = true
  | .rxQueueSetup .. => machine.succeeds trace = true
  | .txQueueSetup .. => machine.succeeds trace = true
  | .promiscuousEnable .. => machine.succeeds trace = true
  | .devStart .. => machine.succeeds trace = true
  | _ => True

/-- The calls that set up one port. -/
def setUp (portId : UInt16) : List EthCall :=
  [.infoGet portId, .devConfigure portId 1 1 9000 true, .rxQueueSetup portId 0 nbDesc true,
    .txQueueSetup portId 0 nbDesc true, .promiscuousEnable portId true, .devStart portId true]

/-- All calls up to the wait for the cores. -/
def awaited : List EthCall :=
  machine.perform launches ((machine.enabledPorts enabledPortmask).flatMap setUp) ++ [.waitLcores]

/-- All calls of a run that returns. -/
def fullRun : List EthCall :=
  machine.perform (machine.cleanup enabledPortmask) (machine.awaited enabledPortmask)

/-- The program gets a mask, and nothing fails until the cores are launched. -/
structure NothingFails : Prop where
  arguments : machine.ealInit.bind parseArgs = some enabledPortmask
  poolCreated : machine.poolCreated = true
  ringCreated : machine.ringCreated = true
  found : machine.attached ≠ []
  accepted : Accepted machine.Accepts [] ((machine.enabledPorts enabledPortmask).flatMap setUp)
  lcores : 3 ≤ machine.lcoreCount

theorem performs_attempt (call : Bool → EthCall)
    (haccepts : ∀ trace, machine.Accepts trace (call true) = (machine.succeeds trace = true)) :
    Performs machine.Accepts True [call true] (machine.attempt call) where
  succeeds_iff := fun trace ↦ by
    change machine.succeeds trace = true ↔ True ∧ machine.Accepts trace (call true) ∧ True
    rw [haccepts]
    tauto
  appends := fun trace hsucceeds ↦ by
    have houtcome : machine.succeeds trace = true := hsucceeds
    rw [attempt, houtcome]

/-- A port is set up exactly when all its calls succeed, and a port that is not enabled at once. -/
theorem performs_initPort (portId : UInt16) :
    Performs machine.Accepts True
      (if portEnabled enabledPortmask portId = true then setUp portId else [])
      (machine.initPort enabledPortmask portId) := by
  by_cases henabled : portEnabled enabledPortmask portId = true
  · have hinfo : Performs machine.Accepts True [.infoGet portId] (note (.infoGet portId)) :=
      ⟨fun _ ↦ iff_of_true rfl ⟨trivial, trivial, trivial⟩, fun _ _ ↦ rfl⟩
    have hconfigure := machine.performs_attempt (.devConfigure portId 1 1 9000) fun _ ↦ rfl
    have hrx := machine.performs_attempt (.rxQueueSetup portId 0 nbDesc) fun _ ↦ rfl
    have htx := machine.performs_attempt (.txQueueSetup portId 0 nbDesc) fun _ ↦ rfl
    have hpromiscuous := machine.performs_attempt (.promiscuousEnable portId) fun _ ↦ rfl
    have hstart := machine.performs_attempt (.devStart portId) fun _ ↦ rfl
    have hall := performs_andThen hinfo (performs_andThen (performs_andThen hconfigure
      (performs_andThen hrx (performs_andThen htx hpromiscuous))) hstart)
    simp only [and_self] at hall
    rw [if_pos henabled, initPort, if_neg (by simp [henabled])]
    exact hall
  · rw [if_neg henabled, initPort, if_pos (by simpa using henabled)]
    exact performs_done

theorem flatMap_initPort (ports : List UInt16) :
    ports.flatMap (fun portId ↦
        if portEnabled enabledPortmask portId = true then setUp portId else []) =
      (ports.filter (portEnabled enabledPortmask)).flatMap setUp := by
  induction ports with
  | nil => rfl
  | cons port ports ih =>
    by_cases henabled : portEnabled enabledPortmask port = true
    · rw [List.flatMap_cons, if_pos henabled, ih, List.filter_cons_of_pos henabled,
        List.flatMap_cons]
    · rw [List.flatMap_cons, if_neg henabled, ih, List.filter_cons_of_neg henabled,
        List.nil_append]

/-- The count of the ports does not wrap. -/
theorem nbPorts_eq_zero_iff : UInt16.ofNat machine.attached.length = 0 ↔ machine.attached = [] := by
  have hdistinct : (machine.attached.map UInt16.toNat).Nodup := by
    refine List.Nodup.map (fun _ _ ↦ UInt16.toNat.inj) ?_
    exact machine.attached_ascending.imp fun h ↦ UInt16.ne_of_lt h
  have hsubset : machine.attached.map UInt16.toNat ⊆ List.range 32 := by
    intro value hvalue
    obtain ⟨portId, hportId, rfl⟩ := List.mem_map.mp hvalue
    exact List.mem_range.mpr (machine.attached_lt portId hportId)
  have hlength := (List.subperm_of_subset hdistinct hsubset).length_le
  rw [List.length_map, List.length_range] at hlength
  have hsize : machine.attached.length < UInt16.size := hlength.trans_lt (by decide)
  rw [← UInt16.toNat_inj, UInt16.toNat_ofNat_of_lt' hsize, ← List.length_eq_zero_iff]
  rfl

theorem initPorts_succeeds_iff :
    (machine.initPorts enabledPortmask []).1 = true ↔ machine.attached ≠ [] ∧
      Accepted machine.Accepts [] ((machine.enabledPorts enabledPortmask).flatMap setUp) := by
  have hloop := performs_forAll (machine.performs_initPort enabledPortmask) machine.attached
  rw [flatMap_initPort] at hloop
  have hsucceeds := hloop.succeeds_iff []
  simp only [implies_true, true_and] at hsucceeds
  unfold initPorts
  by_cases hfound : machine.attached = []
  · rw [if_pos (machine.nbPorts_eq_zero_iff.mpr hfound)]
    simp [hfound]
  · rw [if_neg (machine.nbPorts_eq_zero_iff.not.mpr hfound), hsucceeds]
    exact ⟨fun h ↦ ⟨hfound, h⟩, And.right⟩

theorem initPorts_trace (hsucceeds : (machine.initPorts enabledPortmask []).1 = true) :
    (machine.initPorts enabledPortmask []).2 =
      (machine.enabledPorts enabledPortmask).flatMap setUp := by
  have hloop := performs_forAll (machine.performs_initPort enabledPortmask) machine.attached
  rw [flatMap_initPort] at hloop
  have hfound := ((machine.initPorts_succeeds_iff enabledPortmask).mp hsucceeds).1
  have hcount := machine.nbPorts_eq_zero_iff.not.mpr hfound
  unfold initPorts at hsucceeds ⊢
  rw [if_neg hcount] at hsucceeds ⊢
  exact hloop.appends [] hsucceeds

/-- What the program does: it exits before the ports, or with them, or it gets to the launches. -/
theorem main_cases :
    (∃ message, machine.main = (.exits message, [])) ∨
    ∃ enabledPortmask, machine.ealInit.bind parseArgs = some enabledPortmask ∧
      ((∃ message, machine.main = (.exits message, (machine.initPorts enabledPortmask []).2)) ∨
        machine.NothingFails enabledPortmask) := by
  unfold main
  cases heal : machine.ealInit with
  | none => exact .inl ⟨_, rfl⟩
  | some arguments =>
    dsimp only
    cases hparse : parseArgs arguments with
    | none => exact .inl ⟨_, rfl⟩
    | some enabledPortmask =>
      dsimp only
      by_cases hpool : machine.poolCreated = false
      · exact .inl ⟨_, if_pos hpool⟩
      by_cases hring : machine.ringCreated = false
      · exact .inl ⟨_, by rw [if_neg hpool, if_pos hring]⟩
      rw [if_neg hpool, if_neg hring]
      refine .inr ⟨enabledPortmask, hparse, ?_⟩
      have hsucceeds := machine.initPorts_succeeds_iff enabledPortmask
      cases hports : machine.initPorts enabledPortmask [] with
      | mk succeeded trace =>
        rw [hports] at hsucceeds
        cases succeeded with
        | false => exact .inl ⟨_, rfl⟩
        | true =>
          dsimp only
          by_cases hlcores : machine.lcoreCount < 3
          · exact .inl ⟨_, if_pos hlcores⟩
          · obtain ⟨hfound, haccepted⟩ := hsucceeds.mp rfl
            exact .inr ⟨by rw [heal]; exact hparse, by simpa using hpool, by simpa using hring,
              hfound, haccepted, Nat.not_lt.mp hlcores⟩

theorem main_of_nothingFails {enabledPortmask : UInt32}
    (hnothing : machine.NothingFails enabledPortmask) :
    machine.main =
      if machine.Waits (machine.awaited enabledPortmask) then
        (.waits, machine.awaited enabledPortmask)
      else (.returns, machine.fullRun enabledPortmask) := by
  have hinit := (machine.initPorts_succeeds_iff enabledPortmask).mpr
    ⟨hnothing.found, hnothing.accepted⟩
  have hports : machine.initPorts enabledPortmask [] =
      (true, (machine.enabledPorts enabledPortmask).flatMap setUp) :=
    Prod.ext hinit (machine.initPorts_trace enabledPortmask hinit)
  obtain ⟨arguments, heal, hparse⟩ := Option.bind_eq_some_iff.mp hnothing.arguments
  simp only [main, heal, hparse, hnothing.poolCreated, hnothing.ringCreated, hports,
    Bool.true_eq_false, if_false, Nat.not_lt.mpr hnothing.lcores]
  rfl

/-- **The run that returns.** The program returns exactly when the command line gives a mask,
nothing fails until the cores are launched, and a signal comes or no core could be launched. Its
calls are then: every enabled port set up in ascending order, the cores launched and awaited, every
enabled port stopped and closed. Without the signal it makes the same calls up to the wait. -/
theorem main_returns_iff (trace : List EthCall) :
    (machine.main = (.returns, trace) ↔
      ∃ enabledPortmask, machine.NothingFails enabledPortmask ∧
        ¬machine.Waits (machine.awaited enabledPortmask) ∧
        trace = machine.fullRun enabledPortmask) ∧
    (machine.main = (.waits, trace) ↔
      ∃ enabledPortmask, machine.NothingFails enabledPortmask ∧
        machine.Waits (machine.awaited enabledPortmask) ∧
        trace = machine.awaited enabledPortmask) := by
  refine ⟨⟨fun h ↦ ?_, ?_⟩, ⟨fun h ↦ ?_, ?_⟩⟩
  · rcases machine.main_cases with ⟨message, hexit⟩ | ⟨mask, -, ⟨message, hexit⟩ | hnothing⟩
    · cases hexit.symm.trans h
    · cases hexit.symm.trans h
    · have hmain := (machine.main_of_nothingFails hnothing).symm.trans h
      split at hmain
      case isTrue => cases hmain
      case isFalse hends => exact ⟨mask, hnothing, hends, (Prod.mk.inj hmain).2.symm⟩
  · rintro ⟨mask, hnothing, hends, rfl⟩
    rw [machine.main_of_nothingFails hnothing, if_neg hends]
  · rcases machine.main_cases with ⟨message, hexit⟩ | ⟨mask, -, ⟨message, hexit⟩ | hnothing⟩
    · cases hexit.symm.trans h
    · cases hexit.symm.trans h
    · have hmain := (machine.main_of_nothingFails hnothing).symm.trans h
      split at hmain
      case isTrue hwaits => exact ⟨mask, hnothing, hwaits, (Prod.mk.inj hmain).2.symm⟩
      case isFalse => cases hmain
  · rintro ⟨mask, hnothing, hwaits, rfl⟩
    rw [machine.main_of_nothingFails hnothing, if_pos hwaits]

/-! ## Every call is allowed -/

theorem startedOf_attached (portId : UInt16) :
    startedOf enabledPortmask machine.attached portId =
      if portId ∈ machine.enabledPorts enabledPortmask then .started else .closed := by
  simp only [startedOf, mem_enabledPorts]

/-- What has happened when the loop over the ports has ended. -/
theorem leadsTo_initPorts :
    if (machine.initPorts enabledPortmask []).1 then
      LeadsTo (startedOf enabledPortmask machine.attached)
        (machine.initPorts enabledPortmask []).2
    else machine.OpensEnabled enabledPortmask (machine.initPorts enabledPortmask []).2 :=
  machine.triple_initPorts enabledPortmask [] ⟨trivial, rfl⟩

theorem opensEnabled_initPorts :
    machine.OpensEnabled enabledPortmask (machine.initPorts enabledPortmask []).2 := by
  have hafter := machine.leadsTo_initPorts enabledPortmask
  split at hafter
  case isTrue =>
    obtain ⟨hlegal, hphases⟩ := hafter
    refine ⟨hlegal, fun portId hportId ↦ ?_⟩
    rw [hphases, startedOf_attached, if_neg hportId]
  case isFalse => exact hafter

/-- The ports are started when the cores are launched. -/
theorem leadsTo_setUp {enabledPortmask : UInt32} (hnothing : machine.NothingFails enabledPortmask) :
    LeadsTo (startedOf enabledPortmask machine.attached)
      ((machine.enabledPorts enabledPortmask).flatMap setUp) := by
  have hinit := (machine.initPorts_succeeds_iff enabledPortmask).mpr
    ⟨hnothing.found, hnothing.accepted⟩
  have hafter := machine.leadsTo_initPorts enabledPortmask
  rwa [if_pos hinit, machine.initPorts_trace enabledPortmask hinit] at hafter

/-- The calls from the launches to the wait, with the outcomes of the launches. -/
def launchCalls (rx tx stats : Bool) : List EthCall :=
  [.remoteLaunch (.lcoreRx 0) 1 rx, .remoteLaunch (.lcoreTx 0) 2 tx,
    .remoteLaunch .lcoreStats 3 stats, .waitLcores]

theorem exists_launched : ∃ rx tx stats, machine.awaited enabledPortmask =
    (machine.enabledPorts enabledPortmask).flatMap setUp ++ launchCalls rx tx stats := by
  let ready := (machine.enabledPorts enabledPortmask).flatMap setUp
  let rx := machine.succeeds ready
  let tx := machine.succeeds (ready ++ [.remoteLaunch (.lcoreRx 0) 1 rx])
  let stats := machine.succeeds
    (ready ++ [.remoteLaunch (.lcoreRx 0) 1 rx] ++ [.remoteLaunch (.lcoreTx 0) 2 tx])
  refine ⟨rx, tx, stats, ?_⟩
  simp [awaited, launches, launchCalls, perform, ready, rx, tx, stats]

theorem setsUp_setUp :
    ∀ call ∈ (machine.enabledPorts enabledPortmask).flatMap setUp, call.setsUp = true := by
  have hport (portId : UInt16) : ∀ call ∈ setUp portId, call.setsUp = true := by
    simp [setUp, EthCall.setsUp]
  intro call hcall
  obtain ⟨portId, -, hcall⟩ := List.mem_flatMap.mp hcall
  exact hport portId call hcall

theorem polled_of_setsUp {call : EthCall} (hcall : call.setsUp = true) : call.polled = none := by
  cases call <;> first | rfl | cases hcall

/-- Before the wait is over no port is asked to stop or close. -/
theorem notMem_awaited (portId : UInt16) (succeeded : Bool) :
    .devStop portId succeeded ∉ machine.awaited enabledPortmask ∧
      .devClose portId succeeded ∉ machine.awaited enabledPortmask := by
  obtain ⟨rx, tx, stats, hawaited⟩ := machine.exists_launched enabledPortmask
  have hnot {call : EthCall} (hcall : call.setsUp = false)
      (hlaunch : call ∉ launchCalls rx tx stats) : call ∉ machine.awaited enabledPortmask := by
    rw [hawaited, List.mem_append, not_or]
    refine ⟨fun hmem ↦ ?_, hlaunch⟩
    rw [machine.setsUp_setUp enabledPortmask call hmem] at hcall
    cases hcall
  exact ⟨hnot rfl (by simp [launchCalls]), hnot rfl (by simp [launchCalls])⟩

theorem phasesAfter_awaited {enabledPortmask : UInt32}
    (hnothing : machine.NothingFails enabledPortmask) :
    phasesAfter (machine.awaited enabledPortmask) =
      startedOf enabledPortmask machine.attached := by
  obtain ⟨rx, tx, stats, hawaited⟩ := machine.exists_launched enabledPortmask
  have hphases := (machine.leadsTo_setUp hnothing).2
  unfold phasesAfter at hphases ⊢
  rw [hawaited, run_append, hphases]
  rfl

/-- Up to the wait all calls are allowed exactly when only enabled ports are polled. -/
theorem legal_awaited_iff {enabledPortmask : UInt32}
    (hnothing : machine.NothingFails enabledPortmask) :
    Legal (machine.awaited enabledPortmask) ↔
      ∀ call ∈ machine.awaited enabledPortmask, ∀ portId ∈ call.polled,
        portId ∈ machine.enabledPorts enabledPortmask := by
  obtain ⟨rx, tx, stats, hawaited⟩ := machine.exists_launched enabledPortmask
  obtain ⟨hlegal, hphases⟩ := machine.leadsTo_setUp hnothing
  have hsetUp : ∀ call ∈ (machine.enabledPorts enabledPortmask).flatMap setUp,
      ∀ portId ∈ call.polled, portId ∈ machine.enabledPorts enabledPortmask := by
    intro call hcall portId hportId
    rw [polled_of_setsUp (machine.setsUp_setUp enabledPortmask call hcall)] at hportId
    cases hportId
  have hstarted (portId : UInt16) : startedOf enabledPortmask machine.attached portId = .started ↔
      portId ∈ machine.enabledPorts enabledPortmask := by
    rw [startedOf_attached]
    split <;> simp_all
  have hlaunched : StepsMeet phaseStep Allowed (startedOf enabledPortmask machine.attached)
      (launchCalls rx tx stats) ↔ ∀ call ∈ launchCalls rx tx stats, ∀ portId ∈ call.polled,
        portId ∈ machine.enabledPorts enabledPortmask := by
    cases rx <;> cases tx <;>
      simp [launchCalls, StepsMeet, Allowed, phaseStep, EthCall.polled, hstarted]
  unfold phasesAfter at hphases
  unfold Legal at hlegal ⊢
  rw [hawaited, stepsMeet_append, hphases, hlaunched, List.forall_mem_append]
  exact and_congr_left fun _ ↦ iff_of_true hlegal hsetUp

theorem nodup_enabledPorts : (machine.enabledPorts enabledPortmask).Nodup :=
  (machine.attached_ascending.imp fun h ↦ UInt16.ne_of_lt h).filter _

theorem exists_closing_fullRun : ∃ closing : Closing, machine.fullRun enabledPortmask =
    machine.awaited enabledPortmask ++
      (machine.enabledPorts enabledPortmask).flatMap closing.calls :=
  machine.exists_closing (machine.nodup_enabledPorts enabledPortmask) _

theorem started_of_enabled {portId : UInt16}
    (hportId : portId ∈ machine.enabledPorts enabledPortmask) :
    startedOf enabledPortmask machine.attached portId = .started := by
  rw [startedOf_attached, if_pos hportId]

/-- In a run that returns all calls are allowed exactly when only enabled ports are polled and every
port stops. -/
theorem legal_fullRun_iff {enabledPortmask : UInt32}
    (hnothing : machine.NothingFails enabledPortmask) :
    Legal (machine.fullRun enabledPortmask) ↔
      (∀ call ∈ machine.fullRun enabledPortmask, ∀ portId ∈ call.polled,
        portId ∈ machine.enabledPorts enabledPortmask) ∧
      ∀ portId, .devStop portId false ∉ machine.fullRun enabledPortmask := by
  obtain ⟨closing, hfull⟩ := machine.exists_closing_fullRun enabledPortmask
  have hawaited := machine.legal_awaited_iff hnothing
  have hphases := machine.phasesAfter_awaited hnothing
  have hclosing := closing.legal_iff (machine.nodup_enabledPorts enabledPortmask)
    fun _ hportId ↦ machine.started_of_enabled enabledPortmask hportId
  have hpolled : ∀ call ∈ (machine.enabledPorts enabledPortmask).flatMap closing.calls,
      ∀ portId ∈ call.polled, portId ∈ machine.enabledPorts enabledPortmask := by
    intro call hcall portId hportId
    obtain ⟨port, -, hcall⟩ := List.mem_flatMap.mp hcall
    simp only [Closing.calls, List.mem_cons, List.not_mem_nil, or_false] at hcall
    rcases hcall with rfl | rfl <;> cases hportId
  have hstops : (∀ portId, .devStop portId false ∉ machine.fullRun enabledPortmask) ↔
      ∀ portId ∈ machine.enabledPorts enabledPortmask, closing.stops portId = true := by
    refine forall_congr' fun portId ↦ ?_
    have hbefore := (machine.notMem_awaited enabledPortmask portId false).1
    rw [hfull, List.mem_append, closing.devStop_mem_iff, or_iff_right hbefore, not_and,
      Bool.not_eq_false]
  rw [hstops, hfull, List.forall_mem_append, and_iff_left hpolled, ← hawaited, ← hclosing,
    ← hphases]
  exact stepsMeet_append ..

/-- The command line enables the port, and it is attached. -/
def Enabled (portId : UInt16) : Prop :=
  ∃ enabledPortmask, machine.ealInit.bind parseArgs = some enabledPortmask ∧
    portId ∈ machine.enabledPorts enabledPortmask

theorem enabled_iff {enabledPortmask : UInt32} (hnothing : machine.NothingFails enabledPortmask)
    (portId : UInt16) : machine.Enabled portId ↔ portId ∈ machine.enabledPorts enabledPortmask := by
  constructor
  · rintro ⟨mask, hmask, hportId⟩
    rwa [Option.some.inj (hnothing.arguments.symm.trans hmask)]
  · exact fun hportId ↦ ⟨enabledPortmask, hnothing.arguments, hportId⟩

/-- **Every call is allowed.** Whatever fails and wherever, every call of the program is one that
the phase of its port allows, unless a core is launched on port 0 and that port is not enabled, or
a port fails to stop: the cores poll port 0 whatever the mask says, and a port that has not stopped
is closed all the same. -/
theorem main_legal_iff :
    Legal machine.main.2 ↔
      (∀ call ∈ machine.main.2, ∀ portId ∈ call.polled, machine.Enabled portId) ∧
      ∀ portId, .devStop portId false ∉ machine.main.2 := by
  rcases machine.main_cases with ⟨message, hexit⟩ | ⟨mask, -, ⟨message, hexit⟩ | hnothing⟩
  · rw [hexit]
    exact iff_of_true trivial ⟨fun _ hcall ↦ absurd hcall List.not_mem_nil,
      fun _ ↦ List.not_mem_nil⟩
  · rw [hexit]
    have hsetsUp := machine.setsUp_initPorts mask
    refine iff_of_true (machine.opensEnabled_initPorts mask).1 ⟨?_, ?_⟩
    · intro call hcall portId hportId
      rw [polled_of_setsUp (hsetsUp call hcall)] at hportId
      cases hportId
    · intro portId hstop
      cases hsetsUp _ hstop
  · rw [machine.main_of_nothingFails hnothing]
    simp only [machine.enabled_iff hnothing]
    split
    case isTrue =>
      refine (machine.legal_awaited_iff hnothing).trans (and_iff_left fun portId ↦ ?_).symm
      exact (machine.notMem_awaited mask portId false).1
    case isFalse => exact machine.legal_fullRun_iff hnothing

/-- With two ports and the mask of the second one the cores poll the first, which is closed. -/
example : (Machine.mk (some [ascii "-p", ascii "2"]) true true [0, 1] 4 true (fun _ ↦ true)
    (by simp) (by simp)).main =
      (.returns, setUp 1 ++ launchCalls true true true ++ [.devStop 1 true, .devClose 1 true]) := by
  decide +kernel

/-! ## What is left open -/

theorem open_fullRun_iff {enabledPortmask : UInt32}
    (hnothing : machine.NothingFails enabledPortmask) (portId : UInt16) :
    (phasesAfter (machine.fullRun enabledPortmask) portId ≠ .closed →
      portId ∈ machine.enabledPorts enabledPortmask) ∧
    (phasesAfter (machine.fullRun enabledPortmask) portId ≠ .closed ↔
      .devStop portId false ∈ machine.fullRun enabledPortmask ∨
        .devClose portId false ∈ machine.fullRun enabledPortmask) := by
  obtain ⟨closing, hfull⟩ := machine.exists_closing_fullRun enabledPortmask
  obtain ⟨hstop, hclose⟩ := machine.notMem_awaited enabledPortmask portId false
  have hafter : phasesAfter (machine.fullRun enabledPortmask) portId =
      if portId ∈ machine.enabledPorts enabledPortmask then closing.leaves portId else .closed := by
    have hawaited := machine.phasesAfter_awaited hnothing
    unfold phasesAfter at hawaited ⊢
    rw [hfull, run_append, hawaited, closing.run_eq (machine.nodup_enabledPorts enabledPortmask)
      fun _ hport ↦ machine.started_of_enabled enabledPortmask hport, startedOf_attached]
    split <;> rfl
  rw [hafter, hfull, List.mem_append, List.mem_append, closing.devStop_mem_iff,
    closing.devClose_mem_iff, or_iff_right hstop, or_iff_right hclose, ← and_or_left]
  by_cases hportId : portId ∈ machine.enabledPorts enabledPortmask
  · rw [if_pos hportId, closing.leaves_ne_closed_iff]
    exact ⟨fun _ ↦ hportId, (and_iff_right hportId).symm⟩
  · rw [if_neg hportId]
    exact ⟨fun hopen ↦ absurd rfl hopen,
      iff_of_false (fun hopen ↦ hopen rfl) fun h ↦ hportId h.1⟩

/-- **What is left open.** However the program ends, the ports that it leaves open are enabled
ones. When it returns, a port is left open exactly when it failed to stop or to close. -/
theorem main_leaves :
    (machine.main.1 = .returns → ∀ portId, phasesAfter machine.main.2 portId ≠ .closed ↔
      .devStop portId false ∈ machine.main.2 ∨ .devClose portId false ∈ machine.main.2) ∧
    ∀ portId, phasesAfter machine.main.2 portId ≠ .closed → machine.Enabled portId := by
  rcases machine.main_cases with ⟨message, hexit⟩ | ⟨mask, hmask, ⟨message, hexit⟩ | hnothing⟩
  · rw [hexit]
    exact ⟨fun hreturns ↦ (by cases hreturns), fun portId hopen ↦ absurd rfl hopen⟩
  · rw [hexit]
    refine ⟨fun hreturns ↦ (by cases hreturns), fun portId hopen ↦ ⟨mask, hmask, ?_⟩⟩
    by_contra hportId
    exact hopen ((machine.opensEnabled_initPorts mask).2 portId hportId)
  · rw [machine.main_of_nothingFails hnothing]
    simp only [machine.enabled_iff hnothing]
    split
    case isTrue =>
      refine ⟨fun hreturns ↦ (by cases hreturns), fun portId hopen ↦ ?_⟩
      by_contra hportId
      rw [machine.phasesAfter_awaited hnothing, startedOf_attached, if_neg hportId] at hopen
      exact hopen rfl
    case isFalse =>
      have hopened := machine.open_fullRun_iff hnothing
      exact ⟨fun _ portId ↦ (hopened portId).2, fun portId ↦ (hopened portId).1⟩

end Machine

end VirtualServiceGateway.Dpdk
