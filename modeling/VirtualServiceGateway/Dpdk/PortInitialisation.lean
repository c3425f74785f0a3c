import VirtualServiceGateway.Dpdk.PmdDriver

/-!
# When an initialisation of the ports is all or nothing

An initialisation makes the same device calls for every list of ports, up to the first one that
fails. The driver takes over the list before the first of them, and keeps it after a failure. So an
initialisation leaves the driver as it was, or initialises every port, exactly when it is rejected
for want of an environment, when the list is the one the driver holds, or when nothing fails.
-/

namespace VirtualServiceGateway.Dpdk

open GuardedSequence

/-! ## The device calls of an initialisation -/

/-- A device call that the driver checks succeeds after the trace. -/
def Devices.Accepts (devices : Devices) (trace : List DeviceEvent) : DeviceEvent → Prop
  | .configure .. => devices.succeeds trace = true
  | .rxQueueSetup .. => devices.succeeds trace = true
  | .txQueueSetup .. => devices.succeeds trace = true
  | .start .. => devices.succeeds trace = true
  | _ => True

namespace PortConfig

def configured (cfg : PortConfig) : DeviceEvent :=
  .configure cfg.portId cfg.rxqCount cfg.txqCount cfg.portConf true

/-- A queue of the port is set up for receiving. -/
def rxReady (cfg : PortConfig) (queue : UInt16) : DeviceEvent :=
  .rxQueueSetup cfg.portId queue 512 true

/-- A queue of the port is set up for transmitting. -/
def txReady (cfg : PortConfig) (queue : UInt16) : DeviceEvent :=
  .txQueueSetup cfg.portId queue 512 true

/-- The queue setups of a port. -/
def queueEvents (cfg : PortConfig) : List DeviceEvent :=
  (queueIds cfg.rxqCount).map cfg.rxReady ++ (queueIds cfg.txqCount).map cfg.txReady

/-- All device calls for a port that is initialised with success. -/
def initEvents (cfg : PortConfig) : List DeviceEvent :=
  .infoGet cfg.portId :: cfg.configured :: cfg.queueEvents

/-- Among the device calls the port is configured, and after that all its queues are set up. -/
def Initialised (cfg : PortConfig) (events : List DeviceEvent) : Prop :=
  ∃ earlier later, events = earlier ++ cfg.configured :: later ∧
    (∀ queue < cfg.rxqCount, cfg.rxReady queue ∈ later) ∧
    ∀ queue < cfg.txqCount, cfg.txReady queue ∈ later

end PortConfig

theorem mem_queueIds (count queue : UInt16) : queue ∈ queueIds count ↔ queue < count := by
  rw [UInt16.lt_iff_toNat_lt]
  exact mem_map_ofNat_range count.toNat_lt

/-- The calls for a list of ports initialise each of them. -/
theorem initialised_of_mem {cfg : PortConfig} {configs : List PortConfig} (hcfg : cfg ∈ configs) :
    cfg.Initialised (configs.flatMap PortConfig.initEvents) := by
  obtain ⟨before, after, rfl⟩ := List.append_of_mem hcfg
  refine ⟨before.flatMap PortConfig.initEvents ++ [.infoGet cfg.portId],
    cfg.queueEvents ++ after.flatMap PortConfig.initEvents, ?_, ?_, ?_⟩
  · simp [PortConfig.initEvents]
  · intro queue hqueue
    have hmem := (mem_queueIds _ _).mpr hqueue
    simp [PortConfig.queueEvents, List.mem_map_of_mem hmem]
  · intro queue hqueue
    have hmem := (mem_queueIds _ _).mpr hqueue
    simp [PortConfig.queueEvents, List.mem_map_of_mem hmem]

/-! ## Attempts as scripts -/

theorem performs_attempt (devices : Devices) (event : Bool → DeviceEvent)
    (haccepts : ∀ trace, devices.Accepts trace (event true) = (devices.succeeds trace = true)) :
    Performs devices.Accepts True [event true] (devices.attempt event) where
  succeeds_iff := fun trace ↦ by
    change devices.succeeds trace = true ↔ True ∧ devices.Accepts trace (event true) ∧ True
    rw [haccepts]
    tauto
  appends := fun trace hsucceeds ↦ by
    have houtcome : devices.succeeds trace = true := hsucceeds
    rw [Devices.attempt, houtcome]

theorem performs_perform (devices : Devices) (event : DeviceEvent)
    (haccepts : ∀ trace, devices.Accepts trace event) :
    Performs devices.Accepts True [event] (perform event) where
  succeeds_iff := fun trace ↦ iff_of_true rfl ⟨trivial, haccepts trace, trivial⟩
  appends := fun _ _ ↦ rfl

/-- Setting up queues in a loop performs one setup for each. -/
theorem performs_queues (devices : Devices) (event : UInt16 → Bool → DeviceEvent)
    (haccepts : ∀ queue trace,
      devices.Accepts trace (event queue true) = (devices.succeeds trace = true))
    (queues : List UInt16) :
    Performs devices.Accepts True (queues.map fun queue ↦ event queue true)
      (forAll (fun queue ↦ devices.attempt (event queue)) queues) := by
  have hloop := performs_forAll
    (fun queue ↦ performs_attempt devices (event queue) (haccepts queue)) queues
  simpa only [implies_true, ← List.map_eq_flatMap] using hloop

/-- A port is initialised exactly when it is there and all its device calls succeed. -/
theorem performs_initPort (devices : Devices) (nbPorts : UInt16) (cfg : PortConfig) :
    Performs devices.Accepts (cfg.portId < nbPorts) cfg.initEvents
      (initPort devices nbPorts cfg) := by
  have hinfo := performs_perform devices (.infoGet cfg.portId) fun _ ↦ trivial
  have hconfigure := performs_attempt devices
    (.configure cfg.portId cfg.rxqCount cfg.txqCount cfg.portConf) fun _ ↦ rfl
  have hrx := performs_queues devices (fun queue ↦ .rxQueueSetup cfg.portId queue 512)
    (fun _ _ ↦ rfl) (queueIds cfg.rxqCount)
  have htx := performs_queues devices (fun queue ↦ .txQueueSetup cfg.portId queue 512)
    (fun _ _ ↦ rfl) (queueIds cfg.txqCount)
  have hport := performs_andThen hinfo (performs_andThen hconfigure (performs_andThen hrx htx))
  simp only [and_self] at hport
  rw [← UInt16.not_le]
  exact performs_unless hport

/-! ## Exactness -/

/-- Nothing fails: there are ports, among them those of the list, and the devices accept every call
for them. -/
structure AcceptsAll (devices : Devices) (trace : List DeviceEvent) (configs : List PortConfig) :
    Prop where
  found : devices.countAvail trace ≠ 0
  available : ∀ cfg ∈ configs, cfg.portId < devices.countAvail trace
  accepted : Accepted devices.Accepts trace (configs.flatMap PortConfig.initEvents)

/-- All who use the driver's list of ports find it as it was. -/
structure SamePorts (before after : PMDDriver) : Prop where
  portConfigs : after.portConfigs = before.portConfigs
  getPortCount : after.getPortCount = before.getPortCount
  getPortConfig : ∀ portId, after.getPortConfig portId = before.getPortConfig portId
  started : ∀ devices trace,
    (Host.startPorts devices ⟨after, trace⟩).2.trace =
      (Host.startPorts devices ⟨before, trace⟩).2.trace
  stopped : ∀ trace, (Host.stopPorts ⟨after, trace⟩).trace = (Host.stopPorts ⟨before, trace⟩).trace

theorem samePorts_iff (before after : PMDDriver) :
    SamePorts before after ↔ after.portConfigs = before.portConfigs := by
  constructor
  · exact SamePorts.portConfigs
  · intro h
    constructor
    · exact h
    · rw [PMDDriver.getPortCount, h, PMDDriver.getPortCount]
    · intro portId
      rw [PMDDriver.getPortConfig, h, PMDDriver.getPortConfig]
    · intro devices trace
      rw [Host.startPorts, h, Host.startPorts]
    · intro trace
      rw [Host.stopPorts, PMDDriver.ports, h, Host.stopPorts, PMDDriver.ports]

namespace Host

/-- A failed initialisation leaves the driver's ports as they were. A successful one gives the
driver the new list, and initialises every port of it. -/
structure InitAtomic (devices : Devices) (host : Host) (configs : List PortConfig) : Prop where
  failed : (host.initPorts devices configs).1 = false →
    SamePorts host.driver (host.initPorts devices configs).2.driver
  succeeded : (host.initPorts devices configs).1 = true →
    (host.initPorts devices configs).2.driver.portConfigs = configs ∧
      ∃ added, (host.initPorts devices configs).2.trace = host.trace ++ added ∧
        ∀ cfg ∈ configs, cfg.Initialised added

variable (devices : Devices) (host : Host) (configs : List PortConfig)

/-- The list is replaced as soon as there is an environment. -/
theorem initPorts_portConfigs :
    (host.initPorts devices configs).2.driver.portConfigs =
      if host.driver.ealInitialized then configs else host.driver.portConfigs := by
  unfold initPorts
  cases host.driver.ealInitialized with
  | false => rfl
  | true =>
    by_cases hcount : devices.countAvail host.trace = 0
    · simp [hcount]
    · simp [hcount]

theorem initPorts_succeeds_iff :
    (host.initPorts devices configs).1 = true ↔
      host.driver.ealInitialized = true ∧ AcceptsAll devices host.trace configs := by
  have hloop := (performs_forAll
    (performs_initPort devices (devices.countAvail host.trace)) configs).succeeds_iff host.trace
  unfold initPorts
  cases host.driver.ealInitialized with
  | false => simp
  | true =>
    by_cases hcount : devices.countAvail host.trace = 0
    · have hnone : ¬AcceptsAll devices host.trace configs := fun h ↦ h.found hcount
      simp [hcount, hnone]
    · rw [if_neg (by simp)]
      dsimp only
      rw [if_neg hcount, hloop]
      exact ⟨fun h ↦ ⟨rfl, hcount, h.1, h.2⟩, fun h ↦ ⟨h.2.available, h.2.accepted⟩⟩

theorem initPorts_trace (hsucceeds : (host.initPorts devices configs).1 = true) :
    (host.initPorts devices configs).2.trace =
      host.trace ++ configs.flatMap PortConfig.initEvents := by
  have hloop := (performs_forAll
    (performs_initPort devices (devices.countAvail host.trace)) configs).appends host.trace
  rw [(loop_of_initPorts hsucceeds).2] at hloop
  exact hloop rfl

/-- **Exact condition for all or nothing.** An initialisation that fails leaves the driver's ports
as they were, and one that succeeds initialises every port, if and only if there is no environment,
or the driver is given the list it holds, or nothing fails. -/
theorem initAtomic_iff :
    host.InitAtomic devices configs ↔
      host.driver.ealInitialized = false ∨ configs = host.driver.portConfigs ∨
        AcceptsAll devices host.trace configs := by
  have hlist := initPorts_portConfigs devices host configs
  have hsucceeds := initPorts_succeeds_iff devices host configs
  constructor
  · intro h
    by_cases heal : host.driver.ealInitialized = true
    · rw [if_pos heal] at hlist
      by_cases haccepts : AcceptsAll devices host.trace configs
      · exact .inr (.inr haccepts)
      · have hfails : (host.initPorts devices configs).1 = false := by
          rw [← Bool.not_eq_true, hsucceeds]
          exact fun hboth ↦ haccepts hboth.2
        exact .inr (.inl (hlist.symm.trans (h.failed hfails).portConfigs))
    · exact .inl (Bool.not_eq_true _ ▸ heal)
  · intro h
    constructor
    · intro hfails
      rw [samePorts_iff, hlist]
      by_cases heal : host.driver.ealInitialized = true
      · rw [if_pos heal]
        rcases h with hnone | hsame | haccepts
        · rw [heal] at hnone
          cases hnone
        · exact hsame
        · rw [hsucceeds.mpr ⟨heal, haccepts⟩] at hfails
          cases hfails
      · exact if_neg heal
    · intro hdone
      rw [hlist, if_pos (hsucceeds.mp hdone).1]
      exact ⟨rfl, _, initPorts_trace devices host configs hdone, fun _ ↦ initialised_of_mem⟩

/-- A driver holds port 0 from a successful initialisation. Initialising a port that is not there
fails, and the driver then holds that port. -/
theorem failed_init_replaces_ports :
    let devices : Devices := ⟨fun _ ↦ 1, fun _ ↦ true⟩
    let host := after devices [.initEal true, .initPorts [⟨0, 1, 1, 1500, false, false⟩]]
    let again := host.initPorts devices [⟨5, 1, 1, 1500, false, false⟩]
    again.1 = false ∧
    host.driver.ports = [0] ∧ again.2.driver.ports = [5] ∧
    ¬host.InitAtomic devices [⟨5, 1, 1, 1500, false, false⟩] := by
  intro devices host again
  have hfails : again.1 = false := by decide +kernel
  have hbefore : host.driver.ports = [0] := by decide +kernel
  have hafter : again.2.driver.ports = [5] := by decide +kernel
  refine ⟨hfails, hbefore, hafter, fun hatomic ↦ ?_⟩
  have hsame : again.2.driver.ports = host.driver.ports :=
    congrArg (List.map PortConfig.portId) (hatomic.failed hfails).portConfigs
  rw [hbefore, hafter] at hsame
  revert hsame
  decide

end Host

end VirtualServiceGateway.Dpdk
