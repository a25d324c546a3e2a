import AudioScope.Device.Connection

namespace AudioScope.Device.Connection

/-!
# How opening a device ends

Opening a device and claiming the interface of its reports goes through four
points at which it can fail.  `Opening` names the five ways in which it ends, each
with everything that happens up to there, and `opening_toDevice` says that there
is no other.
-/

/-- What happens when the interface of a device is claimed, whether that succeeds or not. -/
def claimJournal
    (device : Device)
    (source : ReportEndpoint) :
    Journal :=
  [.opened device.address,
    .logged (.usingInterface source.interface source.address),
    .claimed source.interface]

/-- The ways in which opening a device can end. -/
inductive Opening (device : Device) : Attempt Connection → Prop where
  | notOpened
      {cause : String}
      (failure : device.openFailure = some cause) :
      Opening device ⟨[.opened device.address], .error (.usb opening cause)⟩
  | notConfigured
      {value : UInt8}
      (openable : device.openFailure = none)
      (failure : device.configuration = .error value) :
      Opening device ⟨[.opened device.address], .error (.configuration value)⟩
  | noEndpoint
      {configuration : Configuration}
      (openable : device.openFailure = none)
      (configured : device.configuration = .ok configuration)
      (failure : configuration.reportEndpoint? = none) :
      Opening device ⟨[.opened device.address], .error .noHidInterface⟩
  | notClaimed
      {configuration : Configuration}
      {source : ReportEndpoint}
      {cause : String}
      (openable : device.openFailure = none)
      (configured : device.configuration = .ok configuration)
      (found : configuration.reportEndpoint? = some source)
      (failure : device.claimFailure = some cause) :
      Opening device ⟨claimJournal device source, .error (.usb claiming cause)⟩
  | claimed
      {configuration : Configuration}
      {source : ReportEndpoint}
      (openable : device.openFailure = none)
      (configured : device.configuration = .ok configuration)
      (found : configuration.reportEndpoint? = some source)
      (claimable : device.claimFailure = none) :
      Opening device ⟨claimJournal device source, .ok ⟨source, device.transfers⟩⟩

/-- However it ends, it begins with the device being opened. -/
theorem Opening.head?_journal
    {device : Device}
    {attempt : Attempt Connection}
    (ending : Opening device attempt) :
    attempt.journal.head? = some (.opened device.address) := by
  cases ending with
  | notOpened =>
      rfl
  | notConfigured =>
      rfl
  | noEndpoint =>
      rfl
  | notClaimed =>
      rfl
  | claimed =>
      rfl

theorem toDevice_of_openFailure
    {device : Device}
    {cause : String}
    (failure : device.openFailure = some cause) :
    toDevice device = ⟨[.opened device.address], .error (.usb opening cause)⟩ := by
  unfold toDevice
  rw [failure]
  rfl

theorem toDevice_of_configuration_error
    {device : Device}
    {value : UInt8}
    (openable : device.openFailure = none)
    (failure : device.configuration = .error value) :
    toDevice device = ⟨[.opened device.address], .error (.configuration value)⟩ := by
  unfold toDevice
  rw [openable, failure]
  rfl

/-- A device that can be opened and has a configuration goes on to be claimed. -/
theorem toDevice_of_configuration_ok
    {device : Device}
    {configuration : Configuration}
    (openable : device.openFailure = none)
    (configured : device.configuration = .ok configuration) :
    toDevice device = (claim device configuration).after [.opened device.address] := by
  unfold toDevice
  rw [openable, configured]
  rfl

theorem claim_of_none
    (device : Device)
    {configuration : Configuration}
    (failure : configuration.reportEndpoint? = none) :
    claim device configuration = .fail .noHidInterface := by
  unfold claim
  rw [failure]

/-- The interface of the endpoint that was found is claimed, and no other. -/
theorem claim_of_some
    (device : Device)
    {configuration : Configuration}
    {source : ReportEndpoint}
    (found : configuration.reportEndpoint? = some source) :
    (claim device configuration).after [.opened device.address] =
      { journal := claimJournal device source
        outcome :=
          match device.claimFailure with
          | some cause => .error (.usb claiming cause)
          | none => .ok ⟨source, device.transfers⟩ } := by
  unfold claim
  rw [found]
  cases device.claimFailure with
  | none =>
      rfl
  | some cause =>
      rfl

theorem opening_toDevice (device : Device) : Opening device (toDevice device) := by
  cases openFailure : device.openFailure with
  | some cause =>
      rw [toDevice_of_openFailure openFailure]
      exact .notOpened openFailure
  | none =>
      cases configured : device.configuration with
      | error value =>
          rw [toDevice_of_configuration_error openFailure configured]
          exact .notConfigured openFailure configured
      | ok configuration =>
          rw [toDevice_of_configuration_ok openFailure configured]
          cases found : configuration.reportEndpoint? with
          | none =>
              rw [claim_of_none device found]
              exact .noEndpoint openFailure configured found
          | some source =>
              rw [claim_of_some device found]
              cases claimFailure : device.claimFailure with
              | some cause =>
                  exact .notClaimed openFailure configured found claimFailure
              | none =>
                  exact .claimed openFailure configured found claimFailure

end AudioScope.Device.Connection
