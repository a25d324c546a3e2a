import AudioScope.Proofs.Device.Claiming

namespace AudioScope

/-!
# Looking for a device

A search for a device looks at the bus until a listing settles it: the listing
fails, or it shows a debug device.  With waiting, all listings before that one
are passed over, with one pause behind each of them and a notice behind the
first; without waiting, the first listing has to do.  Either way the last listing
alone decides what comes of the search, and of the devices in it only the debug
devices matter.
-/

/-- What a bus shows at a listing; once all listings have been made, listing fails. -/
def Bus.listing
    (bus : Bus)
    (index : Nat) :
    Listing :=
  bus.listings[index]?.getD (.failed bus.ending)

namespace Listing

/-- A listing ends the wait if it fails, or if it shows a device of the right vendor and product. -/
def Settles : Listing → Prop
  | failed _ => True
  | connected devices =>
      ∃ device ∈ devices, device.vendor = 0xCAFE ∧ device.product = 0x4014

instance : DecidablePred Settles
  | failed _ => inferInstanceAs (Decidable True)
  | connected devices =>
      inferInstanceAs
        (Decidable (∃ device ∈ devices, device.vendor = 0xCAFE ∧ device.product = 0x4014))

/-- A listing without the devices that are no debug devices. -/
def onlyDebugDevices : Listing → Listing
  | failed cause => failed cause
  | connected devices => connected (devices.filter Device.isDebugDevice)

/-- A listing of devices leaves the search open if none of them is a debug device. -/
theorem not_settles_connected {devices : List Device} :
    ¬ (connected devices).Settles ↔ devices.filter Device.isDebugDevice = [] := by
  simp [Settles, Device.isDebugDevice, Device.debugVendor, Device.debugProduct]

end Listing

namespace Bus

/-- The index of the first listing that settles a search. -/
def settling (bus : Bus) : Nat :=
  bus.listings.findIdx fun listing => decide listing.Settles

/-- The number of listings that a search passes over. -/
def passed
    (bus : Bus)
    (wait : Bool) :
    Nat :=
  if wait then bus.settling else 0

/-- The same bus without the devices that are no debug devices. -/
def onlyDebugDevices (bus : Bus) : Bus :=
  { bus with listings := bus.listings.map Listing.onlyDebugDevices }

theorem settles_settling (bus : Bus) : (bus.listing bus.settling).Settles := by
  by_cases found : bus.settling < bus.listings.length
  · have settled := List.findIdx_getElem (w := found)
    rw [listing, List.getElem?_eq_getElem found]
    exact of_decide_eq_true settled
  · -- Behind the listings there is a failure, which settles every search.
    rw [listing, List.getElem?_eq_none (Nat.le_of_not_lt found)]
    trivial

theorem not_settles_of_lt
    {bus : Bus}
    {index : Nat}
    (before : index < bus.settling) :
    ¬ (bus.listing index).Settles := by
  have inside : index < bus.listings.length :=
    Nat.lt_of_lt_of_le before List.findIdx_le_length
  have passed := List.not_of_lt_findIdx before
  rw [listing, List.getElem?_eq_getElem inside]
  exact of_decide_eq_false passed

section Shift

variable {first : Listing} {later : List Listing} {ending : String}

theorem settling_of_settles (settles : first.Settles) :
    settling ⟨first :: later, ending⟩ = 0 := by
  rw [settling, List.findIdx_cons, decide_eq_true settles]
  rfl

/-- A listing that is passed over puts the others one further. -/
theorem settling_of_not_settles (unsettled : ¬ first.Settles) :
    settling ⟨first :: later, ending⟩ = settling ⟨later, ending⟩ + 1 := by
  rw [settling, List.findIdx_cons, decide_eq_false unsettled]
  rfl

theorem listing_succ (index : Nat) :
    listing ⟨first :: later, ending⟩ (index + 1) = listing ⟨later, ending⟩ index :=
  rfl

end Shift

end Bus

namespace Event

/-- Whether an event belongs to looking for a device rather than to working with one. -/
def isLooking : Event → Bool
  | listed => true
  | paused _ => true
  | noticed .waitingForDevice => true
  | _ => false

/-- The milliseconds of a pause between two looks at the bus. -/
def pause? : Event → Option Nat
  | paused milliseconds => some milliseconds
  | _ => none

end Event

namespace Device

theorem Attempt.after_after
    {α : Type}
    (first second : Journal)
    (attempt : Attempt α) :
    (attempt.after second).after first = attempt.after (first ++ second) := by
  rw [after, after, after, List.append_assoc]

namespace Connection

/-- What comes of a listing behind which there is no waiting. -/
def ofListing : Listing → Attempt Connection
  | .failed cause => .fail (.usb "listing devices" cause)
  | .connected devices =>
      match devices.filter isDebugDevice with
      | [] => .fail .unavailable
      | first :: others => (toDevice first).after (choiceNotice first others)

/-- What happens until a number of listings have been passed over and one more has been made. -/
def looks (announced : Bool) : Nat → Journal
  | 0 => [.listed]
  | count + 1 => .listed :: (waitJournal announced ++ looks true count)

/-- A search that waits comes to the listing that settles it. -/
theorem search_true
    (announced : Bool)
    (ending : String)
    (listings : List Listing) :
    let bus : Bus := ⟨listings, ending⟩
    search true ending announced listings =
      (ofListing (bus.listing bus.settling)).after (looks announced bus.settling) := by
  intro bus
  induction listings generalizing announced with
  | nil =>
      rfl
  | cons first later inductionHypothesis =>
      by_cases settles : first.Settles
      · rw [Bus.settling_of_settles settles]
        cases first with
        | failed cause =>
            rfl
        | connected devices =>
            cases found : devices.filter isDebugDevice with
            | nil =>
                exact absurd settles (Listing.not_settles_connected.mpr found)
            | cons device others =>
                simp only [search, bus, Bus.listing, List.getElem?_cons_zero, Option.getD_some,
                  ofListing, found]
                rw [Attempt.after_after]
                rfl
      · cases first with
        | failed cause =>
            exact absurd trivial settles
        | connected devices =>
            have none := Listing.not_settles_connected.mp settles
            rw [Bus.settling_of_not_settles settles, Bus.listing_succ]
            simp only [search, none, ↓reduceIte]
            rw [inductionHypothesis, Attempt.after_after]
            rfl

/-- A search that does not wait comes to the first listing. -/
theorem search_false
    (announced : Bool)
    (ending : String)
    (listings : List Listing) :
    search false ending announced listings =
      (ofListing (Bus.listing ⟨listings, ending⟩ 0)).after [.listed] := by
  cases listings with
  | nil =>
      rfl
  | cons first later =>
      cases first with
      | failed cause =>
          rfl
      | connected devices =>
          simp only [search, Bus.listing, List.getElem?_cons_zero, Option.getD_some, ofListing]
          cases devices.filter isDebugDevice with
          | nil =>
              rfl
          | cons device others =>
              exact (Attempt.after_after [.listed] _ _).symm

/-- A search is settled by one listing, and comes to what that listing comes to. -/
theorem acquire_eq_ofListing
    (wait : Bool)
    (bus : Bus) :
    acquire wait bus =
      (ofListing (bus.listing (bus.passed wait))).after (looks false (bus.passed wait)) := by
  cases wait with
  | true =>
      exact search_true false bus.ending bus.listings
  | false =>
      exact search_false false bus.ending bus.listings

/-- Devices that are no debug devices make no difference to a search. -/
theorem search_onlyDebugDevices
    (wait : Bool)
    (ending : String)
    (announced : Bool)
    (listings : List Listing) :
    search wait ending announced (listings.map Listing.onlyDebugDevices) =
      search wait ending announced listings := by
  induction listings generalizing announced with
  | nil =>
      rfl
  | cons first later inductionHypothesis =>
      cases first with
      | failed cause =>
          rfl
      | connected devices =>
          simp only [List.map_cons, Listing.onlyDebugDevices, search, List.filter_filter,
            Bool.and_self, inductionHypothesis]

section Looks

variable (announced : Bool) (count : Nat)

theorem count_listed_looks : (looks announced count).count .listed = count + 1 := by
  induction count generalizing announced with
  | zero =>
      rfl
  | succ count inductionHypothesis =>
      rw [looks, List.count_cons_self, List.count_append, inductionHypothesis]
      cases announced <;> simp [waitJournal]

theorem pauses_looks :
    (looks announced count).filterMap Event.pause? = List.replicate count 1000 := by
  induction count generalizing announced with
  | zero =>
      rfl
  | succ count inductionHypothesis =>
      rw [looks, List.filterMap_cons_none rfl, List.filterMap_append, inductionHypothesis,
        List.replicate_succ]
      cases announced <;> rfl

/-- Only the first wait is announced. -/
theorem count_notice_looks :
    (looks announced count).count (.noticed .waitingForDevice) =
      if announced then 0 else min count 1 := by
  induction count generalizing announced with
  | zero =>
      cases announced <;> rfl
  | succ count inductionHypothesis =>
      rw [looks, List.count_cons_of_ne (by decide), List.count_append, inductionHypothesis]
      cases announced with
      | true =>
          rfl
      | false =>
          rw [Nat.min_eq_right (Nat.le_add_left 1 count)]
          rfl

theorem isLooking_of_mem_looks
    {event : Event}
    (member : event ∈ looks announced count) :
    event.isLooking = true := by
  induction count generalizing announced with
  | zero =>
      rw [List.mem_singleton.mp member]
      rfl
  | succ count inductionHypothesis =>
      rcases List.mem_cons.mp member with rfl | behind
      · rfl
      · rcases List.mem_append.mp behind with waiting | later
        · cases announced with
          | true =>
              rw [List.mem_singleton.mp waiting]
              rfl
          | false =>
              rcases List.mem_cons.mp waiting with rfl | paused
              · rfl
              · rw [List.mem_singleton.mp paused]
                rfl
        · exact inductionHypothesis true later

end Looks

/-- Nothing that is done with a device is a look at the bus. -/
theorem not_isLooking_of_mem_toDevice
    {device : Device}
    {event : Event}
    (member : event ∈ (toDevice device).journal) :
    event.isLooking = false := by
  have ofSingle (single : event ∈ [Event.opened device.address]) : event.isLooking = false := by
    rw [List.mem_singleton.mp single]
    rfl
  have ofClaim
      {source : ReportEndpoint}
      (claiming : event ∈ claimJournal device source) :
      event.isLooking = false := by
    simp only [claimJournal, List.mem_cons, List.not_mem_nil, or_false] at claiming
    rcases claiming with rfl | rfl | rfl <;> rfl
  have ending := opening_toDevice device
  generalize toDevice device = attempt at member ending
  cases ending with
  | notOpened =>
      exact ofSingle member
  | notConfigured =>
      exact ofSingle member
  | noEndpoint =>
      exact ofSingle member
  | notClaimed =>
      exact ofClaim member
  | claimed =>
      exact ofClaim member

/-- A device that is there is never said to be missing. -/
theorem outcome_toDevice_ne_unavailable (device : Device) :
    (toDevice device).outcome ≠ .error .unavailable := by
  have ending := opening_toDevice device
  generalize toDevice device = attempt at ending
  intro unavailable
  cases ending <;> cases unavailable

/-- All that is said about a choice is how many devices there are, and which one is used. -/
theorem severalDevices_of_mem_choiceNotice
    {first : Device}
    {others : List Device}
    {event : Event}
    (member : event ∈ choiceNotice first others) :
    ∃ count serial, event = .noticed (.severalDevices count serial) := by
  unfold choiceNotice at member
  split at member
  · cases member
  · exact ⟨_, _, List.mem_singleton.mp member⟩

theorem not_isLooking_of_mem_ofListing
    {listing : Listing}
    {event : Event}
    (member : event ∈ (ofListing listing).journal) :
    event.isLooking = false := by
  cases listing with
  | failed cause =>
      cases member
  | connected devices =>
      simp only [ofListing] at member
      split at member
      · cases member
      · next first others _ =>
        rcases List.mem_append.mp member with chosen | opened
        · obtain ⟨count, serial, rfl⟩ := severalDevices_of_mem_choiceNotice chosen
          rfl
        · exact not_isLooking_of_mem_toDevice opened

/-- A listing with a debug device leads to the first of them. -/
theorem exists_ofListing_connected
    {devices : List Device}
    (settles : (Listing.connected devices).Settles) :
    ∃ first others,
      devices.find? (fun device => device.vendor == 0xCAFE && device.product == 0x4014) =
          some first ∧
        ofListing (.connected devices) =
          (toDevice first).after (choiceNotice first others) := by
  cases found : devices.filter isDebugDevice with
  | nil =>
      exact absurd settles (Listing.not_settles_connected.mpr found)
  | cons first others =>
      refine ⟨first, others, ?_, ?_⟩
      · have head := List.head?_filter (p := isDebugDevice) (l := devices)
        rw [found] at head
        exact head.symm
      · simp only [ofListing, found]

/-- The search goes without an answer if the listing shows devices, but no debug device. -/
theorem outcome_ofListing_eq_unavailable_iff {listing : Listing} :
    (ofListing listing).outcome = .error .unavailable ↔ ¬ listing.Settles := by
  cases listing with
  | failed cause =>
      exact iff_of_false (fun unavailable => by cases unavailable) (not_not_intro trivial)
  | connected devices =>
      constructor
      · intro unavailable settles
        obtain ⟨first, others, -, shape⟩ := exists_ofListing_connected settles
        rw [shape] at unavailable
        exact outcome_toDevice_ne_unavailable first unavailable
      · intro unsettled
        simp only [ofListing, Listing.not_settles_connected.mp unsettled]
        rfl

/--
What is left of a search that has found its device: the device is opened behind the
last look at the bus, and only a notice about a choice comes between the two.
-/
def OpensBehind
    (passed : Nat)
    (first : Device)
    (attempt : Attempt Connection) :
    Prop :=
  ∃ (looking choice : Journal) (work : Attempt Connection),
    attempt = work.after (looking ++ choice) ∧
      (∀ event ∈ looking, event.isLooking = true) ∧
      looking.count .listed = passed + 1 ∧
      (∀ event ∈ choice, ∃ count serial, event = .noticed (.severalDevices count serial)) ∧
      work.journal.head? = some (.opened first.address) ∧
      Opening first work

theorem opensBehind_looks
    (passed : Nat)
    (first : Device)
    (others : List Device) :
    OpensBehind passed first
      (((toDevice first).after (choiceNotice first others)).after (looks false passed)) := by
  have ending := opening_toDevice first
  refine ⟨looks false passed, choiceNotice first others, toDevice first, ?_, ?_, ?_, ?_, ?_, ending⟩
  · exact Attempt.after_after ..
  · exact fun _ => isLooking_of_mem_looks false passed
  · exact count_listed_looks false passed
  · exact fun _ => severalDevices_of_mem_choiceNotice
  · exact ending.head?_journal

/--
What is left of a search that has passed over a number of listings and come to
the one that decides it.
-/
structure Searched
    (passed : Nat)
    (listing : Listing)
    (attempt : Attempt Connection) :
    Prop where
  /-- The looks at the bus come first; what follows is decided by the last listing alone. -/
  looking_eq :
    ∃ looking : Journal,
      attempt = (ofListing listing).after looking ∧
        (∀ event ∈ looking, event.isLooking = true) ∧
        ∀ event ∈ (ofListing listing).journal, event.isLooking = false
  listed_eq : attempt.journal.count .listed = passed + 1
  pauses_eq : attempt.journal.filterMap Event.pause? = List.replicate passed 1000
  notices_eq :
    attempt.journal.count (.noticed .waitingForDevice) = if 0 < passed then 1 else 0
  notice_place : 0 < passed → [.listed, .noticed .waitingForDevice] <+: attempt.journal
  notice_text :
    Notice.waitingForDevice.message =
      "No audio debug device detected, waiting for it to be connected"
  of_failed :
    ∀ cause,
      listing = .failed cause →
      attempt.outcome = .error (.usb "listing devices" cause)
  /-- The first device of the right vendor and product is the one that is opened, at last. -/
  of_connected :
    ∀ devices,
      listing = .connected devices →
      listing.Settles →
      ∃ first,
        devices.find? (fun device => device.vendor == 0xCAFE && device.product == 0x4014) =
            some first ∧
          attempt.outcome = (toDevice first).outcome ∧
          OpensBehind passed first attempt

theorem searched_of_looks
    (passed : Nat)
    (listing : Listing) :
    Searched passed listing ((ofListing listing).after (looks false passed)) := by
  have quiet {event : Event} (looking : event.isLooking = true) :
      event ∉ (ofListing listing).journal := by
    intro member
    rw [not_isLooking_of_mem_ofListing member] at looking
    cases looking
  have noPauses : (ofListing listing).journal.filterMap Event.pause? = [] := by
    refine List.filterMap_eq_nil_iff.mpr fun event member => ?_
    cases event with
    | paused milliseconds =>
        exact absurd member (quiet rfl)
    | _ =>
        rfl
  exact
    { looking_eq :=
        ⟨looks false passed, rfl, fun _ member => isLooking_of_mem_looks false passed member,
          fun _ member => not_isLooking_of_mem_ofListing member⟩
      listed_eq := by
        rw [Attempt.after, List.count_append, count_listed_looks,
          List.count_eq_zero.mpr (quiet rfl)]
      pauses_eq := by
        rw [Attempt.after, List.filterMap_append, pauses_looks, noPauses, List.append_nil]
      notices_eq := by
        rw [Attempt.after, List.count_append, count_notice_looks,
          List.count_eq_zero.mpr (quiet rfl)]
        cases passed with
        | zero =>
            rfl
        | succ passed =>
            exact Nat.min_eq_right (Nat.le_add_left 1 passed)
      notice_place := by
        intro positive
        obtain ⟨count, rfl⟩ := Nat.exists_eq_add_of_lt positive
        rw [Nat.zero_add]
        exact ⟨_, rfl⟩
      notice_text := rfl
      of_failed := by
        rintro cause rfl
        rfl
      of_connected := by
        rintro devices rfl settles
        obtain ⟨first, others, found, shape⟩ := exists_ofListing_connected settles
        rw [shape]
        exact ⟨first, found, rfl, opensBehind_looks passed first others⟩ }

/--
A search for a device, told by the first listing that fails or shows a debug
device.  With waiting, the search makes one listing more than it passes over, with
a pause behind each of those, and gives notice once, behind the first of them; it
never comes back without having found a device or failed.  Without waiting, it
makes one listing, and finds no device if that listing shows none.  No other
device in any listing, be it of the same vendor or the same product, makes a
difference.
-/
theorem acquire_polls (bus : Bus) :
    let settled := bus.listing bus.settling
    let first := bus.listing 0
    settled.Settles ∧
      (∀ index < bus.settling, ¬ (bus.listing index).Settles) ∧
      Searched bus.settling settled (acquire true bus) ∧
      (acquire true bus).outcome ≠ .error .unavailable ∧
      Searched 0 first (acquire false bus) ∧
      ((acquire false bus).outcome = .error .unavailable ↔
        ∃ devices,
          first = .connected devices ∧
            ∀ device ∈ devices, ¬ (device.vendor = 0xCAFE ∧ device.product = 0x4014)) ∧
      ∀ wait, acquire wait bus.onlyDebugDevices = acquire wait bus := by
  intro settled first
  have waited : acquire true bus = (ofListing settled).after (looks false bus.settling) :=
    search_true false bus.ending bus.listings
  have once : acquire false bus = (ofListing first).after (looks false 0) :=
    search_false false bus.ending bus.listings
  refine ⟨bus.settles_settling, fun _ => Bus.not_settles_of_lt, ?_, ?_, ?_, ?_, ?_⟩
  · rw [waited]
    exact searched_of_looks bus.settling settled
  · rw [waited]
    intro unavailable
    exact outcome_ofListing_eq_unavailable_iff.mp unavailable bus.settles_settling
  · rw [once]
    exact searched_of_looks 0 first
  · rw [once]
    refine outcome_ofListing_eq_unavailable_iff.trans ?_
    cases first with
    | failed cause =>
        simp [Listing.Settles]
    | connected devices =>
        simp [Listing.Settles]
  · intro wait
    exact search_onlyDebugDevices wait bus.ending false bus.listings

end Connection

end Device

end AudioScope
