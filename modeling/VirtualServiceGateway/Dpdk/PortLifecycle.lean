import Mathlib.Logic.Function.Basic
import VirtualServiceGateway.Dpdk.PmdDriver

/-!
# When ports are stopped and closed as they were configured

A port is open from a successful configuration to the next `rte_eth_dev_close` for it, whatever that
call returns: the driver reads no result of a stop or a close. It stops and closes whatever its list
says, and the list is set before the ports are configured and is kept when they have been closed. So
the device calls are disciplined exactly when the list names open ports, each once, whenever it is
stopped, and all open ports when the driver is destroyed.
-/

namespace VirtualServiceGateway.Dpdk

open GuardedSequence Execution

/-- Which ports are open after a device call. -/
def openStep (isOpen : UInt16 → Bool) : DeviceEvent → UInt16 → Bool
  | .configure portId _ _ _ succeeded =>
      if succeeded then Function.update isOpen portId true else isOpen
  | .close portId => Function.update isOpen portId false
  | _ => isOpen

/-- The ports configured since their last close, after a trace. -/
def openAfter (trace : List DeviceEvent) : UInt16 → Bool := run openStep (fun _ ↦ false) trace

/-- Only open ports are stopped or closed. -/
def StopsOpen (isOpen : UInt16 → Bool) : DeviceEvent → Prop
  | .stop portId => isOpen portId
  | .close portId => isOpen portId
  | _ => True

/-- Every stop and every close of the trace is for a port that is open then. -/
def Disciplined (trace : List DeviceEvent) : Prop :=
  StepsMeet openStep StopsOpen (fun _ ↦ false) trace

/-- No port is left open. -/
def AllClosed (trace : List DeviceEvent) : Prop := ∀ portId, openAfter trace portId = false

namespace Host

/-- The driver's list names open ports only, each of them once. -/
def ListsOpen (host : Host) : Prop :=
  host.driver.ports.Nodup ∧ ∀ portId ∈ host.driver.ports, openAfter host.trace portId

/-- The list names all open ports. -/
def ListsAllOpen (host : Host) : Prop :=
  ∀ portId, openAfter host.trace portId → portId ∈ host.driver.ports

/-- The list is stopped only while it names open ports, each once. -/
def StopsListed (host : Host) : DriverCall → Prop
  | .stopPorts => host.ListsOpen
  | _ => True

end Host

/-! ## Stopping a list of ports -/

/-- Stopping a list closes its ports and no others. -/
theorem run_stopEvents (ports : List UInt16) (isOpen : UInt16 → Bool) (portId : UInt16) :
    run openStep isOpen (stopEvents ports) portId = true ↔
      isOpen portId = true ∧ portId ∉ ports := by
  induction ports generalizing isOpen with
  | nil => simp [stopEvents]
  | cons port ports ih =>
    have hevents : stopEvents (port :: ports) =
        [.stop port, .close port] ++ stopEvents ports := List.flatMap_cons
    rw [hevents, run_append, ih]
    change Function.update isOpen port false portId = true ∧ _ ↔ _
    by_cases hsame : portId = port
    · subst hsame
      simp
    · simp [hsame]

/-- Stopping a list is disciplined exactly when its ports are open and distinct. -/
theorem stepsMeet_stopEvents_iff (ports : List UInt16) (isOpen : UInt16 → Bool) :
    StepsMeet openStep StopsOpen isOpen (stopEvents ports) ↔
      ports.Nodup ∧ ∀ portId ∈ ports, isOpen portId := by
  induction ports generalizing isOpen with
  | nil => simp [stopEvents, StepsMeet]
  | cons port ports ih =>
    have hevents : stopEvents (port :: ports) =
        [.stop port, .close port] ++ stopEvents ports := List.flatMap_cons
    have hrest : (∀ portId ∈ ports, Function.update isOpen port false portId = true) ↔
        port ∉ ports ∧ ∀ portId ∈ ports, isOpen portId = true := by
      constructor
      · intro h
        have hnew : port ∉ ports := by
          intro hmem
          have hclosed := h port hmem
          rw [Function.update_self] at hclosed
          cases hclosed
        refine ⟨hnew, fun portId hmem ↦ ?_⟩
        rw [← h portId hmem, Function.update_of_ne]
        rintro rfl
        exact hnew hmem
      · rintro ⟨hnew, h⟩ portId hmem
        rw [Function.update_of_ne, h portId hmem]
        rintro rfl
        exact hnew hmem
    rw [hevents, stepsMeet_append, ih, List.nodup_cons, List.forall_mem_cons]
    change (isOpen port = true ∧ isOpen port = true ∧ True) ∧
      (ports.Nodup ∧ ∀ portId ∈ ports, Function.update isOpen port false portId = true) ↔ _
    rw [hrest]
    tauto

/-! ## Calls that stop nothing -/

/-- The event is neither a stop nor a close. -/
def DeviceEvent.Keeps : DeviceEvent → Prop
  | .stop _ => False
  | .close _ => False
  | _ => True

theorem stepsMeet_of_keeps {events : List DeviceEvent} (hkeeps : ∀ event ∈ events, event.Keeps)
    (isOpen : UInt16 → Bool) : StepsMeet openStep StopsOpen isOpen events := by
  apply stepsMeet_of_forall (fun _ ↦ True) trivial
  intro _ event hevent _
  refine ⟨?_, trivial⟩
  cases event with
  | stop portId => exact (hkeeps _ hevent).elim
  | close portId => exact (hkeeps _ hevent).elim
  | _ => trivial

theorem appends_attempt {property : DeviceEvent → Prop} (devices : Devices)
    (event : Bool → DeviceEvent) (h : ∀ succeeded, property (event succeeded)) :
    Appends property (devices.attempt event) :=
  fun trace ↦ ⟨[event (devices.succeeds trace)], rfl, by simpa using h _⟩

theorem appends_perform {property : DeviceEvent → Prop} {event : DeviceEvent}
    (h : property event) : Appends property (perform event) :=
  fun _ ↦ ⟨[event], rfl, by simpa using h⟩

/-- Setting up queues in a loop appends queue events only. -/
theorem appends_queues {property : DeviceEvent → Prop} (devices : Devices)
    (event : UInt16 → Bool → DeviceEvent) (h : ∀ queue succeeded, property (event queue succeeded))
    (queues : List UInt16) :
    Appends property (forAll (fun queue ↦ devices.attempt (event queue)) queues) :=
  appends_forAll (fun queue ↦ appends_attempt devices (event queue) (h queue)) queues

theorem appends_initPort (devices : Devices) (nbPorts : UInt16) (cfg : PortConfig) :
    Appends DeviceEvent.Keeps (initPort devices nbPorts cfg) := by
  unfold initPort
  split
  case isTrue => exact appends_const false
  case isFalse =>
    refine appends_andThen (appends_perform trivial) (appends_andThen ?_ (appends_andThen ?_ ?_))
    · exact appends_attempt devices _ fun _ ↦ trivial
    · exact appends_queues devices _ (fun _ _ ↦ trivial) _
    · exact appends_queues devices _ (fun _ _ ↦ trivial) _

theorem appends_startPort {property : DeviceEvent → Prop} (devices : Devices) (cfg : PortConfig)
    (hstart : ∀ succeeded, property (.start cfg.portId succeeded))
    (hpromiscuous : property (.promiscuousEnable cfg.portId)) :
    Appends property (startPort devices cfg) := by
  apply appends_andThen (appends_attempt devices _ hstart)
  split
  case isTrue => exact appends_perform hpromiscuous
  case isFalse => exact appends_const true

/-- A call other than a stop appends events that keep all ports. -/
theorem trace_step (devices : Devices) (host : Host) {call : DriverCall}
    (hcall : call ≠ .stopPorts) :
    ∃ added, (host.step devices call).trace = host.trace ++ added ∧
      ∀ event ∈ added, event.Keeps := by
  cases call with
  | initEal succeeded =>
    refine ⟨[], ?_, by simp⟩
    simp only [Host.step, Host.initEal, List.append_nil]
    split
    case isTrue => rfl
    case isFalse => split <;> rfl
  | initPorts configs =>
    simp only [Host.step, Host.initPorts]
    split
    case isTrue => exact ⟨[], by simp⟩
    case isFalse =>
      split
      case isTrue => exact ⟨[], by simp⟩
      case isFalse => exact appends_forAll (appends_initPort devices _) configs host.trace
  | startPorts =>
    exact appends_forAll
      (fun cfg ↦ appends_startPort devices cfg (fun _ ↦ trivial) trivial) _ host.trace
  | stopPorts => exact absurd rfl hcall

/-! ## Every run -/

/-- One call keeps the trace disciplined exactly when it stops listed open ports. -/
theorem disciplined_step_iff (devices : Devices) (host : Host) (call : DriverCall) :
    Disciplined (host.step devices call).trace ↔
      Disciplined host.trace ∧ host.StopsListed call := by
  unfold Disciplined
  by_cases hcall : call = .stopPorts
  · subst hcall
    simp only [Host.step, Host.stopPorts, Host.StopsListed, Host.ListsOpen]
    rw [stepsMeet_append, stepsMeet_stopEvents_iff]
    rfl
  · obtain ⟨added, htrace, hkeeps⟩ := trace_step devices host hcall
    rw [htrace, stepsMeet_append]
    constructor
    · intro h
      refine ⟨h.1, ?_⟩
      cases call with
      | stopPorts => exact absurd rfl hcall
      | _ => trivial
    · intro h
      exact ⟨h.1, stepsMeet_of_keeps hkeeps _⟩

theorem disciplined_after_iff (devices : Devices) (calls : List DriverCall) :
    Disciplined (Host.after devices calls).trace ↔
      StepsMeet (Host.step devices) Host.StopsListed .fresh calls := by
  induction calls using List.reverseRecOn with
  | nil => exact iff_of_true trivial trivial
  | append_singleton calls call ih =>
    rw [stepsMeet_concat, ← ih]
    unfold Host.after
    rw [run_concat]
    exact disciplined_step_iff devices _ call

/-- The destructor closes all open ports exactly when the list names them. -/
theorem allClosed_stopPorts_iff (host : Host) :
    AllClosed host.stopPorts.trace ↔ host.ListsAllOpen := by
  unfold AllClosed Host.ListsAllOpen
  apply forall_congr'
  intro portId
  have hstop := run_stopEvents host.driver.ports (openAfter host.trace) portId
  rw [Host.stopPorts, openAfter, run_append, ← Bool.not_eq_true, ← openAfter, hstop]
  tauto

/-! ## A single successful initialisation -/

/-- The event opens and closes no port. -/
def DeviceEvent.Leaves : DeviceEvent → Prop
  | .configure .. => False
  | .close _ => False
  | _ => True

theorem openAfter_append_of_leaves {added : List DeviceEvent}
    (hleaves : ∀ event ∈ added, event.Leaves) (trace : List DeviceEvent) :
    openAfter (trace ++ added) = openAfter trace := by
  induction added using List.reverseRecOn with
  | nil => rw [List.append_nil]
  | append_singleton added event ih =>
    rw [List.forall_mem_append, List.forall_mem_singleton] at hleaves
    rw [← List.append_assoc, openAfter, run_concat, ← openAfter, ih hleaves.1]
    cases event with
    | configure portId rxqCount txqCount portConf succeeded => exact hleaves.2.elim
    | close portId => exact hleaves.2.elim
    | _ => rfl

/-- What leaves all ports as they are, leaves them so on success. -/
theorem ensures_of_leaves {attempt : Attempt DeviceEvent}
    (hleaves : Appends DeviceEvent.Leaves attempt) :
    Ensures (fun trace next ↦ openAfter next = openAfter trace) attempt := by
  intro trace next hattempt
  obtain ⟨added, rfl, hadded⟩ := hleaves.ensures trace next hattempt
  exact openAfter_append_of_leaves hadded trace

/-- A configuration that succeeds opens the port. -/
theorem ensures_configure (devices : Devices) (cfg : PortConfig) :
    Ensures (fun trace next ↦ openAfter next = Function.update (openAfter trace) cfg.portId true)
      (devices.attempt (.configure cfg.portId cfg.rxqCount cfg.txqCount cfg.portConf)) := by
  intro trace next hattempt
  obtain ⟨hsucceeds, rfl⟩ := Prod.mk.inj hattempt
  rw [openAfter, run_concat, hsucceeds]
  rfl

/-- A port that is initialised is open, and no other port is opened or closed. -/
theorem ensures_initPort (devices : Devices) (nbPorts : UInt16) (cfg : PortConfig) :
    Ensures (fun trace next ↦ openAfter next = Function.update (openAfter trace) cfg.portId true)
      (initPort devices nbPorts cfg) := by
  have hinfo : Appends DeviceEvent.Leaves (perform (.infoGet cfg.portId)) :=
    appends_perform trivial
  have hrx : Appends DeviceEvent.Leaves (forAll
      (fun queue ↦ devices.attempt (.rxQueueSetup cfg.portId queue 512))
      (queueIds cfg.rxqCount)) :=
    appends_queues devices _ (fun _ _ ↦ trivial) _
  have htx : Appends DeviceEvent.Leaves (forAll
      (fun queue ↦ devices.attempt (.txQueueSetup cfg.portId queue 512))
      (queueIds cfg.txqCount)) :=
    appends_queues devices _ (fun _ _ ↦ trivial) _
  intro trace next hinit
  unfold initPort at hinit
  split at hinit
  case isTrue => cases hinit
  case isFalse =>
    obtain ⟨first, hfirst, second, hsecond, third, hthird, hlast⟩ :=
      ensures_andThen (ensures_of_leaves hinfo)
        (ensures_andThen (ensures_configure devices cfg)
          (ensures_andThen (ensures_of_leaves hrx) (ensures_of_leaves htx))) trace next hinit
    rw [hlast, hthird, hsecond, hfirst]

/-- Between the traces the ports of the list have been opened, and no other port has changed. -/
def OpensPorts (configs : List PortConfig) (trace next : List DeviceEvent) : Prop :=
  ∀ portId, openAfter next portId = true ↔
    portId ∈ configs.map PortConfig.portId ∨ openAfter trace portId = true

/-- The loop over a list of ports opens all of them when it succeeds. -/
theorem ensures_initPort_forAll (devices : Devices) (nbPorts : UInt16)
    (configs : List PortConfig) :
    Ensures (OpensPorts configs) (forAll (initPort devices nbPorts) configs) := by
  apply ensures_forAll
  · intro trace portId
    simp
  · intro cfg configs trace middle next hfirst hrest portId
    rw [hrest portId, ensures_initPort devices nbPorts cfg trace middle hfirst, List.map_cons,
      List.mem_cons]
    by_cases hsame : portId = cfg.portId
    · simp [hsame]
    · simp [hsame]

/-- A successful initialisation sets the list, and opens its ports besides those that were open. -/
theorem initPorts_of_succeeded {devices : Devices} {host : Host} {configs : List PortConfig}
    (hinit : (host.initPorts devices configs).1 = true) :
    (host.initPorts devices configs).2.driver.portConfigs = configs ∧
      OpensPorts configs host.trace (host.initPorts devices configs).2.trace := by
  obtain ⟨hconfigs, hloop⟩ := Host.loop_of_initPorts hinit
  exact ⟨hconfigs, ensures_initPort_forAll devices _ configs _ _ hloop⟩

/-- The call neither replaces nor stops the list of ports. -/
def DriverCall.KeepsList : DriverCall → Prop
  | .initEal _ => True
  | .startPorts => True
  | _ => False

theorem step_of_keepsList (devices : Devices) (host : Host) {call : DriverCall}
    (hcall : call.KeepsList) :
    (host.step devices call).driver.portConfigs = host.driver.portConfigs ∧
      openAfter (host.step devices call).trace = openAfter host.trace := by
  cases call with
  | initEal succeeded =>
    simp only [Host.step, Host.initEal]
    split
    case isTrue => exact ⟨rfl, rfl⟩
    case isFalse => split <;> exact ⟨rfl, rfl⟩
  | startPorts =>
    have hstart (cfg : PortConfig) : Appends DeviceEvent.Leaves (startPort devices cfg) :=
      appends_startPort devices cfg (fun _ ↦ trivial) trivial
    obtain ⟨added, htrace, hadded⟩ :=
      appends_forAll hstart host.driver.portConfigs host.trace
    refine ⟨rfl, ?_⟩
    change openAfter (forAll (startPort devices) host.driver.portConfigs host.trace).2 = _
    rw [htrace]
    exact openAfter_append_of_leaves hadded host.trace
  | initPorts configs => exact hcall.elim
  | stopPorts => exact hcall.elim

theorem run_of_keepsList (devices : Devices) (host : Host) {calls : List DriverCall}
    (hcalls : ∀ call ∈ calls, call.KeepsList) :
    (run (Host.step devices) host calls).driver.portConfigs = host.driver.portConfigs ∧
      openAfter (run (Host.step devices) host calls).trace = openAfter host.trace := by
  induction calls using List.reverseRecOn with
  | nil => exact ⟨rfl, rfl⟩
  | append_singleton calls call ih =>
    rw [List.forall_mem_append, List.forall_mem_singleton] at hcalls
    obtain ⟨hconfigs, hopen⟩ := step_of_keepsList devices (run (Host.step devices) host calls)
      hcalls.2
    rw [run_concat, hconfigs, hopen]
    exact ih hcalls.1

/-- No explicit stop is needed for a condition on the stops. -/
theorem stepsMeet_of_no_stop (devices : Devices) (host : Host) {calls : List DriverCall}
    (hcalls : ∀ call ∈ calls, call ≠ .stopPorts) :
    StepsMeet (Host.step devices) Host.StopsListed host calls := by
  apply stepsMeet_of_forall (fun _ ↦ True) trivial
  intro state call hcall _
  refine ⟨?_, trivial⟩
  cases call with
  | stopPorts => exact absurd rfl (hcalls _ hcall)
  | _ => trivial

/-- A driver that is initialised once, with success and for distinct ports, and stopped by its
destructor only, lists all open ports once when it is destroyed. -/
theorem listsOpen_of_init_once (devices : Devices) {before later : List DriverCall}
    {configs : List PortConfig} (hbefore : ∀ call ∈ before, call.KeepsList)
    (hlater : ∀ call ∈ later, call.KeepsList) (hdistinct : (configs.map PortConfig.portId).Nodup)
    (hinit : ((Host.after devices before).initPorts devices configs).1 = true) :
    (Host.after devices (before ++ .initPorts configs :: later)).ListsOpen ∧
      (Host.after devices (before ++ .initPorts configs :: later)).ListsAllOpen := by
  obtain ⟨-, hclosed⟩ := run_of_keepsList devices .fresh hbefore
  obtain ⟨hconfigs, hopen⟩ := initPorts_of_succeeded hinit
  obtain ⟨hkept, hsame⟩ := run_of_keepsList devices
    ((Host.after devices before).initPorts devices configs).2 hlater
  have hafter : Host.after devices (before ++ .initPorts configs :: later) =
      run (Host.step devices) ((Host.after devices before).initPorts devices configs).2 later := by
    unfold Host.after
    rw [run_append, run_cons]
    rfl
  have hports : (Host.after devices (before ++ .initPorts configs :: later)).driver.ports =
      configs.map PortConfig.portId := by
    rw [hafter, PMDDriver.ports, hkept, hconfigs]
  have hopenPorts : ∀ portId,
      openAfter (Host.after devices (before ++ .initPorts configs :: later)).trace portId = true ↔
        portId ∈ configs.map PortConfig.portId := by
    intro portId
    rw [hafter, hsame, hopen portId, Host.after, hclosed]
    simp [Host.fresh, openAfter]
  unfold Host.ListsOpen Host.ListsAllOpen
  rw [hports]
  exact ⟨⟨hdistinct, fun portId ↦ (hopenPorts portId).mpr⟩, fun portId ↦ (hopenPorts portId).mp⟩

/-- **Exact lifecycle condition.** From construction to destruction all stops and closes are for
open ports and no port is left open, if and only if every explicit stop and the destructor find a
list of distinct open ports, and the destructor finds all open ports in it. This is so when the
ports are initialised once, with success and without repetition, and never stopped explicitly. -/
theorem lifecycle_iff (devices : Devices) (calls : List DriverCall) :
    (Disciplined (Host.lifetime devices calls).trace ∧
        AllClosed (Host.lifetime devices calls).trace ↔
      StepsMeet (Host.step devices) Host.StopsListed .fresh calls ∧
        (Host.after devices calls).ListsOpen ∧ (Host.after devices calls).ListsAllOpen) ∧
    ∀ before later configs, calls = before ++ .initPorts configs :: later →
      (∀ call ∈ before ++ later, call.KeepsList) → (configs.map PortConfig.portId).Nodup →
      ((Host.after devices before).initPorts devices configs).1 = true →
      StepsMeet (Host.step devices) Host.StopsListed .fresh calls ∧
        (Host.after devices calls).ListsOpen ∧ (Host.after devices calls).ListsAllOpen := by
  constructor
  · unfold Host.lifetime
    rw [allClosed_stopPorts_iff, ← disciplined_after_iff, ← and_assoc]
    apply and_congr_left
    intro _
    exact disciplined_step_iff devices _ .stopPorts
  · rintro before later configs rfl hkeeps hdistinct hinit
    rw [List.forall_mem_append] at hkeeps
    refine ⟨stepsMeet_of_no_stop devices .fresh ?_,
      listsOpen_of_init_once devices hkeeps.1 hkeeps.2 hdistinct hinit⟩
    rintro call hcall rfl
    rcases List.mem_append.mp hcall with hearlier | hlast
    · exact hkeeps.1 _ hearlier
    · rcases List.mem_cons.mp hlast with hsame | hlater
      · cases hsame
      · exact hkeeps.2 _ hlater

instance (isOpen : UInt16 → Bool) (event : DeviceEvent) : Decidable (StopsOpen isOpen event) :=
  match event with
  | .stop portId => inferInstanceAs (Decidable (isOpen portId = true))
  | .close portId => inferInstanceAs (Decidable (isOpen portId = true))
  | .infoGet .. | .configure .. | .rxQueueSetup .. | .txQueueSetup .. | .start ..
  | .promiscuousEnable .. => inferInstanceAs (Decidable True)

instance (trace : List DeviceEvent) : Decidable (Disciplined trace) :=
  inferInstanceAs (Decidable (StepsMeet openStep StopsOpen (fun _ ↦ false) trace))

/-- One port is initialised, started and stopped: the destructor stops and closes it again. -/
theorem destructor_closes_twice :
    let devices : Devices := ⟨fun _ ↦ 1, fun _ ↦ true⟩
    let calls : List DriverCall :=
      [.initEal true, .initPorts [⟨0, 1, 1, 1500, false, false⟩], .startPorts, .stopPorts]
    Disciplined (Host.after devices calls).trace ∧
    (Host.lifetime devices calls).trace =
      (Host.after devices calls).trace ++ [.stop 0, .close 0] ∧
    ¬Disciplined (Host.lifetime devices calls).trace := by
  decide +kernel

end VirtualServiceGateway.Dpdk
