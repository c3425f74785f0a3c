import Mathlib.Data.UInt
import VirtualServiceGateway.Foundation.Execution
import VirtualServiceGateway.Foundation.GuardedSequence

/-!
# The poll mode driver

The driver configures, starts, stops and closes the ports of a list. Whether a device call succeeds
is decided by the devices, from all that has happened to them so far; every device call is recorded
in a trace. The destructor stops and closes the ports of the list once more.
-/

namespace VirtualServiceGateway.Dpdk

open GuardedSequence

structure PortConfig where
  portId : UInt16
  rxqCount : UInt16
  txqCount : UInt16
  mtu : UInt16
  promiscuous : Bool
  jumboEnabled : Bool
  deriving DecidableEq, Repr

inductive Offload where
  | checksum
  | jumboFrame
  deriving DecidableEq, Repr

/-- The configuration that a port is given: its receive and transmit modes. -/
structure EthConf where
  mtu : UInt32
  rxOffloads : List Offload
  txOffloads : List Offload
  deriving DecidableEq, Repr

/-- A call into the devices, with its outcome where the driver looks at it. -/
inductive DeviceEvent where
  | infoGet (portId : UInt16)
  | configure (portId rxqCount txqCount : UInt16) (portConf : EthConf) (succeeded : Bool)
  | rxQueueSetup (portId queue nbDesc : UInt16) (succeeded : Bool)
  | txQueueSetup (portId queue nbDesc : UInt16) (succeeded : Bool)
  | start (portId : UInt16) (succeeded : Bool)
  | promiscuousEnable (portId : UInt16)
  | stop (portId : UInt16)
  | close (portId : UInt16)
  deriving DecidableEq, Repr

/-- The devices: how many are available and whether the next call succeeds, after any trace. -/
structure Devices where
  countAvail : List DeviceEvent → UInt16
  succeeds : List DeviceEvent → Bool

structure PMDDriver where
  portConfigs : List PortConfig
  ealInitialized : Bool

/-- A driver with the trace of its device calls. -/
structure Host where
  driver : PMDDriver
  trace : List DeviceEvent

/-- A device call that may fail. -/
def Devices.attempt (devices : Devices) (event : Bool → DeviceEvent) : Attempt DeviceEvent :=
  fun trace ↦ (devices.succeeds trace, trace ++ [event (devices.succeeds trace)])

/-- A device call whose outcome is not looked at. -/
def perform (event : DeviceEvent) : Attempt DeviceEvent := fun trace ↦ (true, trace ++ [event])

/-- The queue ids of a loop over a queue count. -/
def queueIds (count : UInt16) : List UInt16 := (List.range count.toNat).map UInt16.ofNat

def PortConfig.portConf (cfg : PortConfig) : EthConf where
  mtu := cfg.mtu.toUInt32
  rxOffloads := if cfg.jumboEnabled then [.checksum, .jumboFrame] else [.checksum]
  txOffloads := [.checksum]

/-- Configure one port and set up its queues, returning at the first failure. -/
def initPort (devices : Devices) (nbPorts : UInt16) (cfg : PortConfig) : Attempt DeviceEvent :=
  if nbPorts ≤ cfg.portId then fun trace ↦ (false, trace)
  else
    andThen (perform (.infoGet cfg.portId))
      (andThen (devices.attempt (.configure cfg.portId cfg.rxqCount cfg.txqCount cfg.portConf))
        (andThen
          (forAll (fun queue ↦ devices.attempt (.rxQueueSetup cfg.portId queue 512))
            (queueIds cfg.rxqCount))
          (forAll (fun queue ↦ devices.attempt (.txQueueSetup cfg.portId queue 512))
            (queueIds cfg.txqCount))))

/-- Start one port. -/
def startPort (devices : Devices) (cfg : PortConfig) : Attempt DeviceEvent :=
  andThen (devices.attempt (.start cfg.portId))
    (if cfg.promiscuous then perform (.promiscuousEnable cfg.portId)
      else fun trace ↦ (true, trace))

/-- The device calls that stop and close a list of ports. Their outcomes are not looked at. -/
def stopEvents (ports : List UInt16) : List DeviceEvent :=
  ports.flatMap fun portId ↦ [.stop portId, .close portId]

/-- The port ids of the driver's list. -/
def PMDDriver.ports (driver : PMDDriver) : List UInt16 := driver.portConfigs.map PortConfig.portId

def PMDDriver.getPortCount (driver : PMDDriver) : UInt16 :=
  UInt16.ofNat driver.portConfigs.length

/-- The first configuration of a port in the list. -/
def PMDDriver.getPortConfig (driver : PMDDriver) (portId : UInt16) : Except String PortConfig :=
  match driver.portConfigs.find? fun cfg ↦ cfg.portId == portId with
  | some cfg => .ok cfg
  | none => .error "Port not found"

namespace Host

def fresh : Host where
  driver := ⟨[], false⟩
  trace := []

/-- Initialise the environment, unless that is done. -/
def initEal (host : Host) (succeeded : Bool) : Bool × Host :=
  if host.driver.ealInitialized then (true, host)
  else if succeeded then (true, { host with driver := { host.driver with ealInitialized := true } })
  else (false, host)

/-- The list is replaced before anything is checked but the environment. -/
def initPorts (devices : Devices) (host : Host) (configs : List PortConfig) : Bool × Host :=
  if !host.driver.ealInitialized then (false, host)
  else
    let driver := { host.driver with portConfigs := configs }
    let nbPorts := devices.countAvail host.trace
    if nbPorts = 0 then (false, ⟨driver, host.trace⟩)
    else
      let (succeeded, trace) := forAll (initPort devices nbPorts) configs host.trace
      (succeeded, ⟨driver, trace⟩)

/-- An initialisation that succeeds took over the list, and its loop over the list succeeded. -/
theorem loop_of_initPorts {devices : Devices} {host : Host} {configs : List PortConfig}
    (hinit : (host.initPorts devices configs).1 = true) :
    (host.initPorts devices configs).2.driver.portConfigs = configs ∧
      forAll (initPort devices (devices.countAvail host.trace)) configs host.trace =
        (true, (host.initPorts devices configs).2.trace) := by
  unfold initPorts at hinit ⊢
  split at hinit
  case isTrue => cases hinit
  case isFalse heal =>
    rw [if_neg heal]
    dsimp only at hinit ⊢
    split at hinit
    case isTrue => cases hinit
    case isFalse hcount =>
      rw [if_neg hcount]
      exact ⟨rfl, Prod.ext hinit rfl⟩

def startPorts (devices : Devices) (host : Host) : Bool × Host :=
  let (succeeded, trace) := forAll (startPort devices) host.driver.portConfigs host.trace
  (succeeded, { host with trace := trace })

def stopPorts (host : Host) : Host :=
  { host with trace := host.trace ++ stopEvents host.driver.ports }

end Host

/-! ## Runs -/

/-- A call on the driver. -/
inductive DriverCall where
  | initEal (succeeded : Bool)
  | initPorts (configs : List PortConfig)
  | startPorts
  | stopPorts

namespace Host

/-- The host after a call. -/
def step (devices : Devices) (host : Host) : DriverCall → Host
  | .initEal succeeded => (host.initEal succeeded).2
  | .initPorts configs => (host.initPorts devices configs).2
  | .startPorts => (host.startPorts devices).2
  | .stopPorts => host.stopPorts

/-- The host after the calls, oldest first. -/
def after (devices : Devices) (calls : List DriverCall) : Host :=
  Execution.run (step devices) fresh calls

/-- The host after the calls and the destructor. -/
def lifetime (devices : Devices) (calls : List DriverCall) : Host :=
  (after devices calls).stopPorts

end Host

end VirtualServiceGateway.Dpdk
