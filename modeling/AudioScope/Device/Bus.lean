import AudioScope.Device.Configuration
import AudioScope.Device.Fault

namespace AudioScope

/-!
# Devices on a bus

What a host can observe of a bus: the devices that each listing shows, and how
every device answers when it is opened, claimed and read from.  A device answers
a finite number of transfers; transfers beyond these are never completed.
-/

namespace Device

/-- How one interrupt transfer goes. -/
inductive Transfer where
  /-- The transfer is never completed. -/
  | hangs
  /-- The transfer is completed after some milliseconds, well or with a fault. -/
  | completes (milliseconds : Nat) (fault : Option TransferFault) (data : List UInt8)
  deriving Repr, DecidableEq

end Device

/-- A device that is connected to the bus. -/
structure Device where
  /-- The number of the device on the bus. -/
  address : Nat
  vendor : UInt16
  product : UInt16
  serial : Option String
  /-- Why the device cannot be opened, if it cannot. -/
  openFailure : Option String
  /-- The active configuration, or its value if its descriptor cannot be found. -/
  configuration : Except UInt8 Device.Configuration
  /-- Why its interfaces cannot be claimed, if they cannot. -/
  claimFailure : Option String
  /-- How its transfers go, in the order in which they are submitted. -/
  transfers : List Device.Transfer

namespace Device

/-- The vendor of the debug device. -/
def debugVendor : UInt16 := 0xCAFE

/-- The product of the debug device. -/
def debugProduct : UInt16 := 0x4014

/-- Whether a device is a debug device. -/
def isDebugDevice (device : Device) : Bool :=
  device.vendor == debugVendor && device.product == debugProduct

end Device

/-- The outcome of listing the devices on the bus. -/
inductive Listing where
  | failed (cause : String)
  | connected (devices : List Device)

/-- What is observed of a bus, listing by listing. -/
structure Bus where
  listings : List Listing
  /-- Why listing fails once all listings have been made. -/
  ending : String

end AudioScope
