import AudioScope.Proofs.Device.EndpointSearch
import AudioScope.Proofs.Device.Refinement

namespace AudioScope.Device

/-!
# Settings in force

Of the alternate settings of an interface one is in force at a time, and only its
endpoints can be read from.  It is the one with the number 0 once the device is
configured, and stays so until another one is selected, which opening a device
never does.  A search for an endpoint looks at all settings and not at their
numbers.  What it finds is in force if the setting at which it stops has the
number 0; otherwise it may not be, even if there is an endpoint in force behind it.
-/

instance (endpoint : Endpoint) : Decidable endpoint.Readable :=
  inferInstanceAs (Decidable (_ ∧ _))

namespace AltSetting

instance (setting : AltSetting) : Decidable setting.Offers :=
  inferInstanceAs (Decidable (_ ∧ _))

/-- A setting has an endpoint of some address from which reports can be read. -/
def Carries
    (setting : AltSetting)
    (address : UInt8) :
    Prop :=
  ∃ endpoint ∈ setting.endpoints, endpoint.address = address ∧ endpoint.Readable

instance (setting : AltSetting) (address : UInt8) : Decidable (setting.Carries address) :=
  inferInstanceAs (Decidable (∃ _ ∈ _, _))

namespace ReadsFirst

variable {setting : AltSetting} {endpoint : Endpoint}

theorem mem (first : setting.ReadsFirst endpoint) : endpoint ∈ setting.endpoints := by
  obtain ⟨-, earlier, later, shape, -⟩ := first
  rw [shape]
  exact List.mem_append_right earlier List.mem_cons_self

theorem carries (first : setting.ReadsFirst endpoint) : setting.Carries endpoint.address :=
  ⟨endpoint, first.mem, rfl, first.1⟩

end ReadsFirst

end AltSetting

namespace Configuration

/--
A place is in force in a device in which no setting has been selected: setting 0 of
its interface has an endpoint of its address from which reports can be read.
-/
def InForce
    (configuration : Configuration)
    (source : ReportEndpoint) :
    Prop :=
  ∃ setting ∈ configuration,
    setting.interface = source.interface ∧
      setting.setting = 0 ∧ setting.Carries source.address

instance (configuration : Configuration) (source : ReportEndpoint) :
    Decidable (configuration.InForce source) :=
  inferInstanceAs (Decidable (∃ _ ∈ _, _))

/-- The setting at which a search stops: the first one that offers an endpoint. -/
def offering? (configuration : Configuration) : Option AltSetting :=
  configuration.find? fun setting => setting.Offers

variable {configuration : Configuration}

theorem offering?_eq_some_iff {first : AltSetting} :
    configuration.offering? = some first ↔
      first.Offers ∧
        ∃ before behind,
          configuration = before ++ first :: behind ∧ ∀ other ∈ before, ¬ other.Offers := by
  simp only [offering?, List.find?_eq_some_iff_append, decide_eq_true_eq, Bool.not_eq_true',
    decide_eq_false_iff_not]

/-- What a search finds is the first endpoint that fits in the setting at which it stops. -/
theorem exists_offering?
    {source : ReportEndpoint}
    (found : configuration.reportEndpoint? = some source) :
    ∃ first endpoint,
      configuration.offering? = some first ∧
        first.interface = source.interface ∧
        endpoint.address = source.address ∧
        first.ReadsFirst endpoint := by
  obtain ⟨before, first, behind, shape, ⟨hid, sameInterface, endpoint, sameAddress, reads⟩,
    unfit⟩ := reportEndpoint?_eq_some_iff.mp found
  have offers : first.Offers := ⟨hid, endpoint, reads.mem, reads.1⟩
  have stops : configuration.offering? = some first :=
    offering?_eq_some_iff.mpr ⟨offers, before, behind, shape, unfit⟩
  exact ⟨first, endpoint, stops, sameInterface, sameAddress, reads⟩

/-- A search stops at once at a HID setting with an endpoint that fits. -/
theorem reportEndpoint?_cons_of_readsFirst
    {setting : AltSetting}
    {endpoint : Endpoint}
    (hid : setting.classCode = 3)
    (first : setting.ReadsFirst endpoint)
    (behind : Configuration) :
    reportEndpoint? (setting :: behind) = some ⟨setting.interface, endpoint.address⟩ :=
  reportEndpoint?_eq_some_iff.mpr
    ⟨[], setting, behind, rfl, ⟨hid, rfl, endpoint, rfl, first⟩, List.forall_mem_nil _⟩

/-- The order of the settings does not matter to what is in force. -/
theorem inForce_iff_of_perm
    {order : Configuration}
    (reordered : order.Perm configuration)
    (source : ReportEndpoint) :
    order.InForce source ↔ configuration.InForce source :=
  exists_congr fun _ => and_congr_left' reordered.mem_iff

/--
A search keeps to what is in force in every order of the settings exactly if what
each HID setting has to offer is in force.
-/
theorem inForce_in_every_order_iff (configuration : Configuration) :
    (∀ order : Configuration,
      order.Perm configuration →
      ∀ source,
        order.reportEndpoint? = some source →
        order.InForce source) ↔
      ∀ setting ∈ configuration,
        setting.classCode = 3 →
        ∀ endpoint,
          setting.ReadsFirst endpoint →
          configuration.InForce ⟨setting.interface, endpoint.address⟩ := by
  constructor
  · intro everyOrder setting member hid endpoint first
    -- A search stops at the setting once it has been moved to the front.
    have moved : (setting :: configuration.erase setting).Perm configuration :=
      (List.perm_cons_erase member).symm
    have found := reportEndpoint?_cons_of_readsFirst hid first (configuration.erase setting)
    exact (inForce_iff_of_perm moved _).mp (everyOrder _ moved _ found)
  · intro settled order reordered source found
    obtain ⟨setting, endpoint, stops, sameInterface, sameAddress, first⟩ := exists_offering? found
    have offers : setting.Offers := (offering?_eq_some_iff.mp stops).1
    have member : setting ∈ configuration :=
      reordered.mem_iff.mp (List.mem_of_find?_eq_some stops)
    have inForce := settled setting member offers.1 endpoint first
    rw [sameInterface, sameAddress] at inForce
    exact (inForce_iff_of_perm reordered source).mpr inForce

end Configuration

namespace Connection

/-- An opened device reads from what its search found, the interface of which was claimed. -/
theorem toDevice_of_outcome_ok
    {device : Device}
    {configuration : Configuration}
    {connection : Connection}
    (configured : device.configuration = .ok configuration)
    (opened : (toDevice device).outcome = .ok connection) :
    configuration.reportEndpoint? = some connection.source ∧
      (toDevice device).journal = claimJournal device connection.source := by
  have ending := opening_toDevice device
  generalize toDevice device = attempt at opened ending
  cases ending with
  | claimed openable other found claimable =>
      cases configured.symm.trans other
      cases opened
      exact ⟨found, rfl⟩
  | _ =>
      cases opened

/-- Whatever steps a session takes, all of its transfers are from one endpoint. -/
theorem submission_of_mem_takeAll
    {onBatch : Session.Batch → Journal}
    (idle : Session.Idle onBatch)
    (connection : Connection)
    {steps : List Session.Step}
    {taken : Session.Taken Connection}
    (member : taken ∈ (Session.new connection).takeAll onBatch steps)
    {submission : UInt8 × Nat}
    (submitted : submission ∈ taken.journal.filterMap Event.submission?) :
    submission = (connection.source.address, 64) := by
  have alike :
      (scripting connection.source).Sessions (Session.new connection)
        (Session.new ⟨connection.transfers.map Transfer.answer⟩) :=
    ⟨⟨rfl, rfl⟩, rfl⟩
  have inLockstep :=
    (requests connection.source idle).map_takeAll (fun step => step.journal) alike steps
  have among :
      taken.journal.filterMap Event.submission? ∈
        ((Session.new connection).takeAll onBatch steps).map fun step =>
          step.journal.filterMap Event.submission? :=
    List.mem_map_of_mem member
  rw [inLockstep] at among
  obtain ⟨scripted, -, shape⟩ := List.mem_map.mp among
  rw [← shape] at submitted
  obtain ⟨request, -, same⟩ := List.mem_map.mp submitted
  exact same.symm

end Connection

/--
What a search finds in a configuration is in force if the setting at which it stops
has the number 0, and only then unless a setting of another number repeats the
endpoint.  It is in force in every order of the settings exactly if what each HID
setting has to offer is.  Between the search and the reads nothing is done with the
device but that the interface is claimed, so no setting is selected, and all reads
are from the endpoint that was found.
-/
theorem Configuration.reportEndpoint?_inForce (configuration : Configuration) :
    (∀ source,
      configuration.reportEndpoint? = some source →
      ∃ first endpoint,
        configuration.offering? = some first ∧
          first.interface = source.interface ∧
          endpoint.address = source.address ∧
          first.ReadsFirst endpoint ∧
          (first.setting = 0 → configuration.InForce source) ∧
          ((∀ other ∈ configuration,
              other.interface = source.interface →
              other.Carries source.address →
              other.setting = first.setting) →
            (configuration.InForce source ↔ first.setting = 0))) ∧
      ((∀ order : Configuration,
        order.Perm configuration →
        ∀ source,
          order.reportEndpoint? = some source →
          order.InForce source) ↔
        ∀ setting ∈ configuration,
          setting.classCode = 3 →
          ∀ endpoint,
            setting.ReadsFirst endpoint →
            configuration.InForce ⟨setting.interface, endpoint.address⟩) ∧
      ∀ device connection,
        device.configuration = .ok configuration →
        (Connection.toDevice device).outcome = .ok connection →
        configuration.reportEndpoint? = some connection.source ∧
          (Connection.toDevice device).journal =
            [.opened device.address,
              .logged (.usingInterface connection.source.interface connection.source.address),
              .claimed connection.source.interface] ∧
          ∀ onBatch,
            Session.Idle onBatch →
            ∀ steps,
              ∀ taken ∈ (Session.new connection).takeAll onBatch steps,
                ∀ submission ∈ taken.journal.filterMap Event.submission?,
                  submission = (connection.source.address, 64) := by
  refine ⟨?place, inForce_in_every_order_iff configuration, ?reads⟩
  case place =>
    intro source found
    obtain ⟨first, endpoint, stops, sameInterface, sameAddress, reads⟩ := exists_offering? found
    have member : first ∈ configuration := List.mem_of_find?_eq_some stops
    have carries : first.Carries source.address := sameAddress ▸ reads.carries
    have ofZero (zero : first.setting = 0) : configuration.InForce source :=
      ⟨first, member, sameInterface, zero, carries⟩
    refine ⟨first, endpoint, stops, sameInterface, sameAddress, reads, ofZero, ?_⟩
    intro unrepeated
    refine ⟨?_, ofZero⟩
    -- The setting that is in force need not be the one that was found, but has its number.
    rintro ⟨other, otherMember, otherInterface, otherZero, otherCarries⟩
    rw [← unrepeated other otherMember otherInterface otherCarries]
    exact otherZero
  case reads =>
    intro device connection configured opened
    obtain ⟨found, journal⟩ := Connection.toDevice_of_outcome_ok configured opened
    refine ⟨found, journal, ?_⟩
    intro onBatch idle steps taken member submission submitted
    exact Connection.submission_of_mem_takeAll idle connection member submitted

/-- An endpoint in force, between settings of the same interface that are not. -/
def spareSettings : Configuration :=
  [⟨2, 1, 3, [⟨0x05, 3⟩]⟩, ⟨2, 0, 3, [⟨0x02, 3⟩, ⟨0x84, 3⟩]⟩, ⟨2, 2, 3, [⟨0x85, 3⟩]⟩]

/-- A device with this configuration. -/
def spareDevice : Device :=
  { Connection.stallingDevice with configuration := .ok spareSettings }

/-- The endpoint in force is found and read from, but not in every order of the settings. -/
theorem Configuration.reportEndpoint?_inForce_spareSettings :
    let connection : Connection := ⟨⟨2, 0x84⟩, spareDevice.transfers⟩
    (Connection.toDevice spareDevice).outcome = .ok connection ∧
      spareSettings.InForce connection.source ∧
      (∀ steps,
        ∀ taken ∈ (Session.new connection).takeAll (fun _ => []) steps,
          ∀ submission ∈ taken.journal.filterMap Event.submission?,
            submission = (0x84, 64)) ∧
      ¬ ∀ order : Configuration,
        order.Perm spareSettings →
        ∀ source,
          order.reportEndpoint? = some source →
          order.InForce source := by
  intro connection
  have opened : (Connection.toDevice spareDevice).outcome = .ok connection := rfl
  obtain ⟨places, everyOrder, reads⟩ := reportEndpoint?_inForce spareSettings
  obtain ⟨found, -, submissions⟩ := reads spareDevice connection rfl opened
  obtain ⟨first, endpoint, stops, -, -, -, ofZero, -⟩ := places _ found
  have zero : first.setting = 0 := by
    have inside : spareSettings.offering? = some ⟨2, 0, 3, [⟨0x02, 3⟩, ⟨0x84, 3⟩]⟩ := by decide
    rw [← Option.some.inj (inside.symm.trans stops)]
  have idle : Session.Idle fun _ => [] := fun _ => ⟨rfl, rfl⟩
  refine ⟨opened, ofZero zero, submissions _ idle, ?_⟩
  intro kept
  have last :=
    everyOrder.mp kept ⟨2, 2, 3, [⟨0x85, 3⟩]⟩ (by decide) rfl ⟨0x85, 3⟩
      ⟨by decide, [], [], rfl, List.forall_mem_nil _⟩
  exact absurd last (by decide)

/-- An endpoint in force on interface 1, behind one on interface 0 that is not. -/
def dormantSettings : Configuration :=
  [⟨0, 0, 3, []⟩, ⟨0, 1, 3, [⟨0x81, 3⟩]⟩, ⟨1, 0, 3, [⟨0x82, 3⟩]⟩]

@[inherit_doc spareDevice]
def dormantDevice : Device :=
  { Connection.stallingDevice with configuration := .ok dormantSettings }

/-- A session reads from an endpoint that is not in force, although it could from one that is. -/
theorem Configuration.reportEndpoint?_dormantSettings_not_inForce :
    let session := Session.new ⟨⟨0, 0x81⟩, dormantDevice.transfers⟩
    dormantSettings.reportEndpoint? = some ⟨0, 0x81⟩ ∧
      ¬ dormantSettings.InForce ⟨0, 0x81⟩ ∧
      dormantSettings.InForce ⟨1, 0x82⟩ ∧
      (Session.connect false ⟨[.connected [dormantDevice]], "gone"⟩).outcome = .ok session ∧
      session.readOne.journal.filterMap Event.submission? = [(0x81, 64)] :=
  ⟨rfl, by decide, by decide, rfl, rfl⟩

end AudioScope.Device
