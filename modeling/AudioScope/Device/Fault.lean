import AudioScope.Report.Record

namespace AudioScope.Device

/-!
# Faults of a debug device

Everything that can end the work with a device: it is missing or lost, it does
not look as expected, an operation on the bus fails, or it sends a buffer that
is too short for a record.  `Fault.message` says what happened, and
`Fault.cause?` adds what the bus said about it.
-/

/-- How a single transfer on the bus can fail. -/
inductive TransferFault where
  | cancelled
  | stall
  | disconnected
  | violation
  | unknown
  deriving Repr, DecidableEq

/-- What the bus says about a failed transfer. -/
def TransferFault.message : TransferFault → String
  | cancelled => "transfer was cancelled"
  | stall => "endpoint STALL condition"
  | disconnected => "device disconnected"
  | violation => "hardware fault or protocol violation"
  | unknown => "unknown error"

/-- Why the work with a device ends. -/
inductive Fault where
  | unavailable
  | disconnected
  | unsupportedPlatform (platform : String)
  | noHidInterface
  | usb (activity cause : String)
  | transfer (activity : String) (cause : TransferFault)
  | configuration (value : UInt8)
  | truncated (buffer : Report.Truncated)
  deriving Repr, DecidableEq

namespace Fault

/-- What happened. -/
def message : Fault → String
  | unavailable =>
      "No audio debug device connected (is the firmware built with CFG_AUDIO_DEBUG=1?)"
  | disconnected => "Audio debug device disconnected"
  | unsupportedPlatform platform =>
      "Reading debug reports is only supported on Linux, not on " ++ platform
  | noHidInterface =>
      "The device doesn't expose a HID interface with an interrupt IN endpoint"
  | usb activity _ => "USB error while " ++ activity
  | transfer activity _ => "USB transfer error while " ++ activity
  | configuration _ => "Can't read the active USB configuration"
  | truncated buffer => buffer.message

/-- What the bus or the device said about it, if anything did. -/
def cause? : Fault → Option String
  | usb _ cause => some cause
  | transfer _ cause => some cause.message
  | configuration value =>
      if value = 0 then
        some "device is not configured"
      else
        some s!"no descriptor found for active configuration {value.toNat}"
  | _ => none

/-- The fault and its cause, the fault first. -/
def chain (fault : Fault) : List String :=
  fault.message :: fault.cause?.toList

end Fault

end AudioScope.Device
