import AudioScope.Device.Attempt
import AudioScope.Device.Bus

namespace AudioScope.Device

/-!
# Connections to a debug device

`Connection.acquire` lists the devices on the bus until it finds a debug device,
opens the first one, and claims the interface from which its reports are read.
Each report is one interrupt transfer (`Connection.read`); a transfer that takes
too long is given up and yields nothing.
-/

/-- A claimed interface of an open device. -/
structure Connection where
  source : ReportEndpoint
  /-- How the transfers that are still to come will go. -/
  transfers : List Transfer
  deriving Repr, DecidableEq

namespace Connection

/-- What was being done when an operation on the bus failed. -/
def listing : String := "listing devices"

@[inherit_doc listing]
def opening : String := "opening the device"

@[inherit_doc listing]
def claiming : String := "detaching the kernel HID driver and claiming the interface"

@[inherit_doc listing]
def reading : String := "reading a debug report"

/-- Milliseconds between two looks at the bus. -/
def pollInterval : Nat := 1000

/-- Find the endpoint of the reports and claim its interface. -/
def claim
    (device : Device)
    (configuration : Configuration) :
    Attempt Connection := do
  let some source := configuration.reportEndpoint?
    | .fail .noHidInterface
  Attempt.record (.logged (.usingInterface source.interface source.address))
  Attempt.record (.claimed source.interface)
  Attempt.failIf device.claimFailure (Fault.usb claiming)
  return { source, transfers := device.transfers }

/-- Open a device and claim the interface of its reports. -/
def toDevice (device : Device) : Attempt Connection := do
  Attempt.record (.opened device.address)
  Attempt.failIf device.openFailure (Fault.usb opening)
  match device.configuration with
  | .error value => Attempt.fail (.configuration value)
  | .ok configuration => claim device configuration

/-- The notice about a choice among several devices. -/
def choiceNotice
    (first : Device)
    (others : List Device) :
    Journal :=
  if others.isEmpty then
    []
  else
    [.noticed (.severalDevices (others.length + 1) first.serial)]

/-- What is noted before the bus is looked at again; only the first wait is announced. -/
def waitJournal (announced : Bool) : Journal :=
  if announced then
    [.paused pollInterval]
  else
    [.noticed .waitingForDevice, .paused pollInterval]

/-- Look for a debug device in the remaining listings of a bus. -/
def search
    (wait : Bool)
    (ending : String)
    (announced : Bool) :
    List Listing → Attempt Connection
  | [] => (Attempt.fail (.usb listing ending)).after [.listed]
  | .failed cause :: _ => (Attempt.fail (.usb listing cause)).after [.listed]
  | .connected devices :: later =>
      match devices.filter isDebugDevice with
      | first :: others =>
          (toDevice first).after (.listed :: choiceNotice first others)
      | [] =>
          if wait then
            (search wait ending true later).after (.listed :: waitJournal announced)
          else
            (Attempt.fail .unavailable).after [.listed]

/-- Connect to the first debug device on the bus, if need be by waiting for one. -/
def acquire
    (wait : Bool)
    (bus : Bus) :
    Attempt Connection :=
  search wait bus.ending false bus.listings

/-- A transfer that is given up: nothing has been read. -/
def givenUp (timeout : Nat) : Attempt (List UInt8) where
  journal := [.waited timeout, .logged (.readTimedOut timeout)]
  outcome := .ok []

/-- Wait for a transfer, but not longer than some milliseconds. -/
def await
    (timeout : Nat) :
    Transfer → Attempt (List UInt8)
  | .hangs => givenUp timeout
  | .completes milliseconds fault data =>
      if timeout < milliseconds then
        givenUp timeout
      else
        match fault with
        | none => ⟨[.waited milliseconds], .ok (data.take Report.hidReportSize)⟩
        | some .disconnected =>
            ⟨[.waited milliseconds, .logged .deviceDisconnected], .error .disconnected⟩
        | some other => ⟨[.waited milliseconds], .error (.transfer reading other)⟩

/-- Read one report from the device. -/
def read
    (timeout : Nat)
    (connection : Connection) :
    Attempt (List UInt8) × Connection :=
  let submission : Journal := [.submitted connection.source.address Report.hidReportSize]
  match connection.transfers with
  | [] => ((givenUp timeout).after submission, connection)
  | transfer :: later =>
      ((await timeout transfer).after submission, { connection with transfers := later })

end Connection

end AudioScope.Device
