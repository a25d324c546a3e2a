namespace AudioScope

/-!
# What happens, in order

Work with the bus and the terminal is recorded in a journal: every call to the
bus, every text that is written, every log entry, and the time that passes.
-/

/-- How much a log entry matters. -/
inductive Severity where
  | error
  | info
  | debug
  deriving Repr, DecidableEq

/-- What is logged along the way. -/
inductive LogEntry where
  | usingInterface (interface endpoint : UInt8)
  | deviceOpened
  | readTimedOut (milliseconds : Nat)
  | deviceDisconnected
  | samplesCollected (count : Nat)
  deriving Repr, DecidableEq

namespace LogEntry

/-- The severity of an entry. -/
def severity : LogEntry → Severity
  | usingInterface .. => .debug
  | deviceOpened => .info
  | readTimedOut _ => .debug
  | deviceDisconnected => .error
  | samplesCollected _ => .debug

/-- A byte as two hexadecimal digits. -/
def hexByte (byte : UInt8) : String :=
  String.ofList [Nat.digitChar (byte.toNat / 16), Nat.digitChar (byte.toNat % 16)]

/-- The text of an entry. -/
def message : LogEntry → String
  | usingInterface interface endpoint =>
      s!"Using HID interface {interface.toNat}, endpoint 0x" ++ hexByte endpoint
  | deviceOpened => "Audio debug device opened"
  | readTimedOut milliseconds => s!"HID read timed out after {milliseconds}ms"
  | deviceDisconnected => "USB device disconnected"
  | samplesCollected count => s!"{count} FIFO samples collected"

end LogEntry

/-- What the user is told while a device is being looked for. -/
inductive Notice where
  | waitingForDevice
  | severalDevices (count : Nat) (serial : Option String)
  deriving Repr, DecidableEq

/-- The line of a notice. -/
def Notice.message : Notice → String
  | waitingForDevice => "No audio debug device detected, waiting for it to be connected"
  | severalDevices count serial =>
      s!"More than one audio debug device detected ({count}), using " ++
        serial.getD "the first one"

/-- One thing that happens. -/
inductive Event where
  /-- The devices on the bus are listed. -/
  | listed
  /-- A device is opened. -/
  | opened (address : Nat)
  /-- The kernel's driver is detached from an interface, and the interface is claimed. -/
  | claimed (interface : UInt8)
  /-- An interrupt transfer from the device is submitted. -/
  | submitted (endpoint : UInt8) (size : Nat)
  /-- A report is asked for, to arrive within some milliseconds. -/
  | asked (milliseconds : Nat)
  /-- A text goes to standard output. -/
  | printed (text : String)
  /-- A line goes to standard error. -/
  | noticed (notice : Notice)
  | logged (entry : LogEntry)
  /-- Nothing is done for some milliseconds before the bus is looked at again. -/
  | paused (milliseconds : Nat)
  /-- A transfer is waited for. -/
  | waited (milliseconds : Nat)
  deriving Repr, DecidableEq

/-- The milliseconds that an event takes. -/
def Event.duration : Event → Nat
  | paused milliseconds => milliseconds
  | waited milliseconds => milliseconds
  | _ => 0

/-- The text that an event puts on standard output, if it puts any there. -/
def Event.printed? : Event → Option String
  | printed text => some text
  | _ => none

/-- Everything that happened, in order. -/
abbrev Journal := List Event

/-- The milliseconds that passed in a journal. -/
def Journal.elapsed (journal : Journal) : Nat :=
  journal.foldr (fun event total => event.duration + total) 0

end AudioScope
