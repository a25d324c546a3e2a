namespace AudioScope.Device

/-!
# Configurations of a USB device

A configuration lists the alternate settings of the interfaces of a device, each
with its endpoints.  Debug reports come from the first interrupt IN endpoint of
a HID setting; settings of the HID class without such an endpoint are passed
over.
-/

/-- One endpoint of an alternate setting. -/
structure Endpoint where
  address : UInt8
  attributes : UInt8
  deriving Repr, DecidableEq

namespace Endpoint

/-- Whether data flows from the device to the host, which the top bit of the address tells. -/
def isIn (endpoint : Endpoint) : Bool :=
  endpoint.address &&& 0x80 == 0x80

/-- Whether the transfers are interrupt transfers, which the low bits of the attributes tell. -/
def isInterrupt (endpoint : Endpoint) : Bool :=
  endpoint.attributes &&& 0x03 == 0x03

end Endpoint

/-- One alternate setting of an interface. -/
structure AltSetting where
  interface : UInt8
  setting : UInt8
  classCode : UInt8
  endpoints : List Endpoint
  deriving Repr, DecidableEq

namespace AltSetting

/-- The class of human interface devices. -/
def hidClass : UInt8 := 0x03

/-- Whether the setting belongs to a human interface device. -/
def isHid (setting : AltSetting) : Bool :=
  setting.classCode == hidClass

/-- The first endpoint of a setting from which reports can be read. -/
def reportEndpoint? (setting : AltSetting) : Option Endpoint :=
  setting.endpoints.find? (fun endpoint => endpoint.isIn && endpoint.isInterrupt)

end AltSetting

/-- The alternate settings of a device, in the order of its descriptors. -/
abbrev Configuration := List AltSetting

/-- Where the reports of a device are read from. -/
structure ReportEndpoint where
  interface : UInt8
  address : UInt8
  deriving Repr, DecidableEq

/-- The first place from which a configuration lets reports be read. -/
def Configuration.reportEndpoint? (configuration : Configuration) : Option ReportEndpoint :=
  (configuration.filter AltSetting.isHid).findSome? fun setting =>
    setting.reportEndpoint?.map fun endpoint => ⟨setting.interface, endpoint.address⟩

end AudioScope.Device
