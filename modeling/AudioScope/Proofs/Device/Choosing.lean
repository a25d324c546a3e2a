import AudioScope.Proofs.Device.EndpointSearch
import AudioScope.Proofs.Device.Refinement

namespace AudioScope

/-!
# Choosing a device

The first debug device of the listing that settles a search is opened, and no
other one is touched: not if there are several, of which the user is told before,
and not if something about the first one fails.  Opening goes on to the
configuration, the search for an endpoint and the claiming of its interface, and
the first of these that fails decides how it ends (`Connection.Chosen`).
-/

namespace Device

/-- The devices in a listing that have the right vendor and product, in order. -/
def debugDevices (devices : List Device) : List Device :=
  devices.filter fun device => device.vendor = 0xCAFE ∧ device.product = 0x4014

theorem debugDevices_eq (devices : List Device) :
    debugDevices devices = devices.filter isDebugDevice := by
  refine List.filter_congr fun device _ => ?_
  rw [Bool.decide_and]
  rfl

/-- The place from which reports are to be read, if a device lets itself be asked for it. -/
def endpoint? (device : Device) : Option ReportEndpoint :=
  match device.openFailure, device.configuration with
  | none, .ok configuration => configuration.reportEndpoint?
  | _, _ => none

/-- What happens with a device that is opened: its interface is claimed if there is one. -/
def workJournal (device : Device) : Journal :=
  .opened device.address ::
    device.endpoint?.elim [] fun source =>
      [.logged (.usingInterface source.interface source.address), .claimed source.interface]

theorem opened_workJournal (device : Device) :
    device.workJournal.filterMap Event.opened? = [device.address] := by
  unfold workJournal
  cases device.endpoint? with
  | none =>
      rfl
  | some source =>
      rfl

/-- The interface of the place that was found is the one that is claimed. -/
theorem claimed_workJournal (device : Device) :
    device.workJournal.filterMap Event.claimed? =
      (device.endpoint?.map ReportEndpoint.interface).toList := by
  unfold workJournal
  cases device.endpoint? with
  | none =>
      rfl
  | some source =>
      rfl

theorem endpoint?_eq_some_iff
    {device : Device}
    {source : ReportEndpoint} :
    device.endpoint? = some source ↔
      device.openFailure = none ∧
        ∃ configuration,
          device.configuration = .ok configuration ∧
            configuration.reportEndpoint? = some source := by
  unfold endpoint?
  split
  · next configuration openable configured => simp [openable, configured]
  · next refused =>
    refine iff_of_false (by simp) ?_
    rintro ⟨openable, configuration, configured, -⟩
    exact refused configuration openable configured

namespace Connection

theorem journal_toDevice (device : Device) : (toDevice device).journal = device.workJournal := by
  have ending := opening_toDevice device
  generalize toDevice device = attempt at ending
  cases ending with
  | notOpened failure =>
      simp only [workJournal, endpoint?, failure]
      rfl
  | notConfigured openable failure =>
      simp only [workJournal, endpoint?, openable, failure]
      rfl
  | noEndpoint openable configured failure =>
      simp only [workJournal, endpoint?, openable, configured, failure]
      rfl
  | notClaimed openable configured found failure =>
      simp only [workJournal, endpoint?, openable, configured, found]
      rfl
  | claimed openable configured found claimable =>
      simp only [workJournal, endpoint?, openable, configured, found]
      rfl

/-- A device with an endpoint for reports fails at the claiming of its interface, if at all. -/
theorem outcome_toDevice_of_endpoint?
    {device : Device}
    {source : ReportEndpoint}
    (found : device.endpoint? = some source) :
    (toDevice device).outcome =
      match device.claimFailure with
      | some cause => .error (.usb claiming cause)
      | none => .ok ⟨source, device.transfers⟩ := by
  obtain ⟨openable, configuration, configured, shape⟩ := endpoint?_eq_some_iff.mp found
  have claimed :=
    (toDevice_of_configuration_ok openable configured).trans (claim_of_some device shape)
  refine (congrArg Attempt.outcome claimed).trans ?_
  cases device.claimFailure with
  | none =>
      rfl
  | some cause =>
      rfl

/-- What the user is told about a choice among a number of devices. -/
def choice
    (count : Nat)
    (first : Device) :
    Journal :=
  if 2 ≤ count then [.noticed (.severalDevices count first.serial)] else []

theorem choiceNotice_eq
    (first : Device)
    (others : List Device) :
    choiceNotice first others = choice (others.length + 1) first := by
  cases others with
  | nil =>
      rfl
  | cons other later =>
      have several : 2 ≤ (other :: later).length + 1 := by
        rw [List.length_cons]
        omega
      rw [choice, if_pos several]
      rfl

/-- The first debug device of a listing is the one that is opened. -/
theorem acquire_of_head?
    {wait : Bool}
    {bus : Bus}
    {devices : List Device}
    (shown : bus.listing (bus.passed wait) = .connected devices)
    {first : Device}
    (found : (debugDevices devices).head? = some first) :
    acquire wait bus =
      (toDevice first).after
        (looks false (bus.passed wait) ++ choice (debugDevices devices).length first) := by
  obtain ⟨others, matching⟩ := List.head?_eq_some_iff.mp found
  rw [acquire_eq_ofListing, shown, ← Attempt.after_after, matching, List.length_cons,
    ← choiceNotice_eq]
  rw [debugDevices_eq] at matching
  simp only [ofListing, matching]

/-- A session starts where the search for its device ended well. -/
theorem connect_eq
    (wait : Bool)
    (bus : Bus) :
    Session.connect wait bus =
      { journal :=
          (acquire wait bus).journal ++
            if (acquire wait bus).outcome.isOk then [.logged .deviceOpened] else []
        outcome := (acquire wait bus).outcome.map Session.new } := by
  change (acquire wait bus).andThen _ = _
  rcases acquire wait bus with ⟨journal, fault | connection⟩
  · exact congrArg (Attempt.mk · _) (List.append_nil _).symm
  · rfl

/--
What comes of a search that was settled by a listing of some devices, of which
one was chosen.
-/
structure Chosen
    (passed : Nat)
    (devices : List Device)
    (first : Device)
    (attempt : Attempt Connection) :
    Prop where
  /-- The chosen device is the first debug device in the listing. -/
  first_eq : (debugDevices devices).head? = some first
  /-- A choice is announced between the last look at the bus and the opening of the device. -/
  journal_eq :
    ∃ (looking : Journal) (notice : Notice),
      (∀ event ∈ looking, event.isLooking = true) ∧
        looking.count .listed = passed + 1 ∧
        notice.message =
          "More than one audio debug device detected (" ++
            toString (debugDevices devices).length ++ "), using " ++
            first.serial.getD "the first one" ∧
        attempt.journal =
          looking ++ (if 2 ≤ (debugDevices devices).length then [.noticed notice] else []) ++
            first.workJournal
  opened_eq : attempt.journal.filterMap Event.opened? = [first.address]
  /-- An interface is claimed if the device could be asked for one, and it is this one. -/
  claimed_eq :
    attempt.journal.filterMap Event.claimed? =
      (first.endpoint?.map ReportEndpoint.interface).toList
  submissions_eq : attempt.journal.filterMap Event.submission? = []
  of_openFailure :
    ∀ cause,
      first.openFailure = some cause →
      attempt.outcome = .error (.usb "opening the device" cause)
  of_configuration :
    first.openFailure = none →
    ∀ value,
      first.configuration = .error value →
      attempt.outcome = .error (.configuration value)
  of_noEndpoint :
    first.openFailure = none →
    ∀ configuration,
      first.configuration = .ok configuration →
      (∀ setting ∈ configuration, ¬ setting.Offers) →
      attempt.outcome = .error .noHidInterface
  of_claimFailure :
    ∀ source,
      first.endpoint? = some source →
      ∀ cause,
        first.claimFailure = some cause →
        attempt.outcome =
          .error (.usb "detaching the kernel HID driver and claiming the interface" cause)
  of_claimed :
    ∀ source,
      first.endpoint? = some source →
      first.claimFailure = none →
      attempt.outcome = .ok ⟨source, first.transfers⟩

/-- The first debug device of a listing is chosen, whatever comes of it. -/
theorem chosen_of_head?
    {wait : Bool}
    {bus : Bus}
    {devices : List Device}
    (shown : bus.listing (bus.passed wait) = .connected devices)
    {first : Device}
    (found : (debugDevices devices).head? = some first) :
    Chosen (bus.passed wait) devices first (acquire wait bus) := by
  have shape := acquire_of_head? shown found
  have outcome : (acquire wait bus).outcome = (toDevice first).outcome := by
    rw [shape]
    rfl
  have background : (acquire wait bus).journal.InBackground :=
    inBackground_search wait bus.ending false bus.listings
  have journal :
      (acquire wait bus).journal =
        (looks false (bus.passed wait) ++ choice (debugDevices devices).length first) ++
          first.workJournal := by
    rw [shape, Attempt.after, journal_toDevice]
  obtain ⟨others, matching⟩ := List.head?_eq_some_iff.mp found
  have searching :
      ∀ event ∈ looks false (bus.passed wait) ++ choice (debugDevices devices).length first,
        event.opened? = none ∧ event.claimed? = none := by
    rw [matching, List.length_cons, ← choiceNotice_eq]
    exact fun _ => opened_claimed_of_mem_search
  have noneOpened :=
    List.filterMap_eq_nil_iff.mpr fun event member => (searching event member).1
  have noneClaimed :=
    List.filterMap_eq_nil_iff.mpr fun event member => (searching event member).2
  exact
    { first_eq := found
      journal_eq :=
        ⟨looks false (bus.passed wait),
          .severalDevices (debugDevices devices).length first.serial,
          fun _ => isLooking_of_mem_looks false _, count_listed_looks false _, rfl, journal⟩
      opened_eq := by
        rw [journal, List.filterMap_append, noneOpened]
        exact opened_workJournal first
      claimed_eq := by
        rw [journal, List.filterMap_append, noneClaimed]
        exact claimed_workJournal first
      submissions_eq := background.submissions_eq_nil
      of_openFailure := fun cause failure => by
        rw [outcome, toDevice_of_openFailure failure]
        rfl
      of_configuration := fun openable value failure => by
        rw [outcome, toDevice_of_configuration_error openable failure]
      of_noEndpoint := fun openable configuration configured unfit => by
        have missing := Configuration.reportEndpoint?_eq_none_iff.mpr unfit
        rw [outcome, toDevice_of_configuration_ok openable configured,
          claim_of_none first missing]
        rfl
      of_claimFailure := fun source endpoint cause failure => by
        rw [outcome, outcome_toDevice_of_endpoint? endpoint, failure]
        rfl
      of_claimed := fun source endpoint claimable => by
        rw [outcome, outcome_toDevice_of_endpoint? endpoint, claimable] }

/--
A search that is settled by a listing with debug devices opens the first of them
and goes on to the first obstacle, or to the claimed interface.  The session that
starts with it, and only with success, says that the device has been opened.  Of
the other devices in the listing nothing matters but how many debug devices there
are.
-/
theorem connect_chooses_first
    {wait : Bool}
    {bus : Bus}
    {devices : List Device}
    (shown : bus.listing (bus.passed wait) = .connected devices)
    (present : ∃ device ∈ devices, device.vendor = 0xCAFE ∧ device.product = 0x4014) :
    ∃ (first : Device) (note : LogEntry),
      Chosen (bus.passed wait) devices first (acquire wait bus) ∧
        note.message = "Audio debug device opened" ∧
        Session.connect wait bus =
          { journal :=
              (acquire wait bus).journal ++
                if (acquire wait bus).outcome.isOk then [.logged note] else []
            outcome := (acquire wait bus).outcome.map Session.new } ∧
        ∀ (other : Bus) (otherDevices : List Device),
          other.passed wait = bus.passed wait →
          other.listing (other.passed wait) = .connected otherDevices →
          (debugDevices otherDevices).head? = some first →
          (debugDevices otherDevices).length = (debugDevices devices).length →
          Session.connect wait other = Session.connect wait bus := by
  obtain ⟨first, found⟩ : ∃ first, (debugDevices devices).head? = some first := by
    obtain ⟨device, member, matching⟩ := present
    have listed : device ∈ debugDevices devices :=
      List.mem_filter.mpr ⟨member, decide_eq_true matching⟩
    exact ⟨_, List.head?_eq_some_head (List.ne_nil_of_mem listed)⟩
  refine ⟨first, .deviceOpened, chosen_of_head? shown found, rfl, connect_eq wait bus, ?_⟩
  intro other otherDevices samePassed otherShown otherFound sameCount
  have same : acquire wait other = acquire wait bus := by
    rw [acquire_of_head? otherShown otherFound, acquire_of_head? shown found, samePassed,
      sameCount]
  rw [connect_eq, connect_eq, same]

/-- A device that refuses to be claimed, as seen among others. -/
def busyDevice : Device where
  address := 3
  vendor := 0xCAFE
  product := 0x4014
  serial := some "A7"
  openFailure := none
  configuration := .ok [⟨0, 0, 1, [⟨0x81, 3⟩]⟩, ⟨2, 0, 3, [⟨0x02, 3⟩, ⟨0x84, 3⟩]⟩]
  claimFailure := some "busy"
  transfers := []

/-- What is listed at last: another product, the busy device, and one that works. -/
def crowd : List Device :=
  [{ stallingDevice with product := 1 }, busyDevice, stallingDevice]

/-- The user is told of two devices; the first one fails, and the other one is not tried. -/
theorem connect_chooses_first_busyDevice :
    let bus : Bus := ⟨[.connected [], .connected crowd, .connected [stallingDevice]], "gone"⟩
    bus.listing (bus.passed true) = .connected crowd ∧
      (Session.connect true bus).outcome =
        .error (.usb "detaching the kernel HID driver and claiming the interface" "busy") ∧
      (acquire true bus).journal.filterMap Event.opened? = [3] ∧
      (acquire true bus).journal.filterMap Event.claimed? = [2] := by
  intro bus
  have shown : bus.listing (bus.passed true) = .connected crowd := rfl
  have present : ∃ device ∈ crowd, device.vendor = 0xCAFE ∧ device.product = 0x4014 :=
    ⟨busyDevice, List.mem_cons_of_mem _ List.mem_cons_self, rfl, rfl⟩
  obtain ⟨first, note, chosen, -, connected, -⟩ := connect_chooses_first shown present
  have firstShape : some busyDevice = some first := chosen.first_eq
  obtain rfl := Option.some.inj firstShape
  have failure := chosen.of_claimFailure ⟨2, 0x84⟩ rfl "busy" rfl
  refine ⟨shown, ?_, chosen.opened_eq, chosen.claimed_eq⟩
  rw [connected, failure]
  rfl

end Connection

end Device

end AudioScope
