import AudioScope.Proofs.Device.Claiming
import Mathlib.Data.Nat.Bitwise
import Mathlib.Logic.Relation

namespace AudioScope.Device

/-!
# Where a configuration lets reports be read

A configuration is searched setting by setting, and each setting of the HID class
endpoint by endpoint, for an endpoint from which reports can be read.  The first
one in this order is found, wherever it stands; a HID setting that has none is
passed over.  What is never looked at, a setting that offers no endpoint or an
endpoint that does not fit, makes no difference wherever it stands
(`Configuration.Padding`).
-/

namespace Endpoint

/--
Reports can be read from an endpoint: the top bit of its address says that data
flows from the device to the host, and the two low bits of its attributes name
interrupt transfers.
-/
def Readable (endpoint : Endpoint) : Prop :=
  endpoint.address.toNat.testBit 7 = true ∧ endpoint.attributes.toNat % 4 = 3

theorem isIn_iff {endpoint : Endpoint} :
    endpoint.isIn = true ↔ endpoint.address.toNat.testBit 7 = true := by
  have masked : (endpoint.address &&& 0x80).toNat =
      (endpoint.address.toNat.testBit 7).toNat * 2 ^ 7 := by
    rw [UInt8.toNat_and]
    exact Nat.and_two_pow _ 7
  rw [isIn, beq_iff_eq, ← UInt8.toNat_inj, masked]
  cases endpoint.address.toNat.testBit 7 with
  | false =>
      decide
  | true =>
      decide

theorem isInterrupt_iff {endpoint : Endpoint} :
    endpoint.isInterrupt = true ↔ endpoint.attributes.toNat % 4 = 3 := by
  have masked : (endpoint.attributes &&& 0x03).toNat = endpoint.attributes.toNat % 4 := by
    rw [UInt8.toNat_and]
    exact Nat.and_two_pow_sub_one_eq_mod _ 2
  rw [isInterrupt, beq_iff_eq, ← UInt8.toNat_inj, masked]
  rfl

theorem readable_iff {endpoint : Endpoint} :
    (endpoint.isIn && endpoint.isInterrupt) = true ↔ endpoint.Readable := by
  rw [Bool.and_eq_true, isIn_iff, isInterrupt_iff, Readable]

end Endpoint

namespace AltSetting

/-- The first endpoint of a setting from which reports can be read. -/
def ReadsFirst
    (setting : AltSetting)
    (endpoint : Endpoint) :
    Prop :=
  endpoint.Readable ∧
    ∃ earlier later,
      setting.endpoints = earlier ++ endpoint :: later ∧
        ∀ other ∈ earlier, ¬ other.Readable

/-- A setting of the HID class with an endpoint from which reports can be read. -/
def Offers (setting : AltSetting) : Prop :=
  setting.classCode = 3 ∧ ∃ endpoint ∈ setting.endpoints, endpoint.Readable

theorem reportEndpoint?_eq_some_iff
    {setting : AltSetting}
    {endpoint : Endpoint} :
    setting.reportEndpoint? = some endpoint ↔ setting.ReadsFirst endpoint := by
  simp only [reportEndpoint?, List.find?_eq_some_iff_append, Bool.not_eq_true',
    ← Bool.not_eq_true, Endpoint.readable_iff]
  rfl

theorem reportEndpoint?_eq_none_iff {setting : AltSetting} :
    setting.reportEndpoint? = none ↔ ∀ endpoint ∈ setting.endpoints, ¬ endpoint.Readable := by
  simp only [reportEndpoint?, List.find?_eq_none, Endpoint.readable_iff]

/-- What a setting has to offer to a search. -/
def offer? (setting : AltSetting) : Option ReportEndpoint :=
  if setting.isHid then
    setting.reportEndpoint?.map fun endpoint => ⟨setting.interface, endpoint.address⟩
  else
    none

theorem isHid_iff {setting : AltSetting} : setting.isHid = true ↔ setting.classCode = 3 :=
  beq_iff_eq

theorem offer?_eq_some_iff
    {setting : AltSetting}
    {interface address : UInt8} :
    setting.offer? = some ⟨interface, address⟩ ↔
      setting.classCode = 3 ∧ setting.interface = interface ∧
        ∃ endpoint, endpoint.address = address ∧ setting.ReadsFirst endpoint := by
  by_cases hid : setting.isHid = true
  · have classCode := isHid_iff.mp hid
    simp only [offer?, hid, ↓reduceIte, Option.map_eq_some_iff, reportEndpoint?_eq_some_iff,
      ReportEndpoint.mk.injEq, classCode, true_and]
    constructor
    · rintro ⟨endpoint, first, sameInterface, sameAddress⟩
      exact ⟨sameInterface, endpoint, sameAddress, first⟩
    · rintro ⟨sameInterface, endpoint, sameAddress, first⟩
      exact ⟨endpoint, first, sameInterface, sameAddress⟩
  · have classCode : ¬ setting.classCode = 3 := fun same => hid (isHid_iff.mpr same)
    simp [offer?, hid, classCode]

theorem offer?_eq_none_iff {setting : AltSetting} :
    setting.offer? = none ↔ ¬ setting.Offers := by
  by_cases hid : setting.isHid = true
  · have classCode := isHid_iff.mp hid
    simp [offer?, hid, Offers, classCode, reportEndpoint?_eq_none_iff]
  · have classCode : ¬ setting.classCode = 3 := fun same => hid (isHid_iff.mpr same)
    simp [offer?, hid, Offers, classCode]

/-- An endpoint that does not fit is not missed. -/
theorem reportEndpoint?_insert
    (setting : AltSetting)
    (earlier later : List Endpoint)
    {endpoint : Endpoint}
    (unfit : ¬ endpoint.Readable) :
    reportEndpoint? { setting with endpoints := earlier ++ endpoint :: later } =
      reportEndpoint? { setting with endpoints := earlier ++ later } := by
  have refused : (endpoint.isIn && endpoint.isInterrupt) = false :=
    Bool.eq_false_iff.mpr fun readable => unfit (Endpoint.readable_iff.mp readable)
  simp only [reportEndpoint?, List.find?_append, List.find?_cons, refused]

end AltSetting

namespace Configuration

/-- A configuration, and the same one with a piece more at which no search stops. -/
inductive Padding : Configuration → Configuration → Prop where
  /-- A setting of another class, or one of the HID class without a fitting endpoint. -/
  | setting
      (before behind : Configuration)
      {setting : AltSetting}
      (unfit : ¬ setting.Offers) :
      Padding (before ++ behind) (before ++ setting :: behind)
  /-- An endpoint from which no reports can be read, in any setting. -/
  | endpoint
      (before behind : Configuration)
      (setting : AltSetting)
      (earlier later : List Endpoint)
      {endpoint : Endpoint}
      (unfit : ¬ endpoint.Readable) :
      Padding
        (before ++ { setting with endpoints := earlier ++ later } :: behind)
        (before ++ { setting with endpoints := earlier ++ endpoint :: later } :: behind)

/-- The first offer of a setting settles the search. -/
theorem reportEndpoint?_eq_findSome? (configuration : Configuration) :
    configuration.reportEndpoint? = configuration.findSome? AltSetting.offer? := by
  induction configuration with
  | nil =>
      rfl
  | cons setting later inductionHypothesis =>
      rw [reportEndpoint?] at inductionHypothesis ⊢
      cases hid : setting.isHid with
      | false =>
          rw [List.filter_cons_of_neg (Bool.eq_false_iff.mp hid), inductionHypothesis,
            List.findSome?_cons, AltSetting.offer?, hid]
          rfl
      | true =>
          rw [List.filter_cons_of_pos hid, List.findSome?_cons, inductionHypothesis,
            List.findSome?_cons, AltSetting.offer?, hid]
          rfl

theorem reportEndpoint?_eq_some_iff
    {configuration : Configuration}
    {interface address : UInt8} :
    configuration.reportEndpoint? = some ⟨interface, address⟩ ↔
      ∃ before setting behind,
        configuration = before ++ setting :: behind ∧
          (setting.classCode = 3 ∧ setting.interface = interface ∧
            ∃ endpoint, endpoint.address = address ∧ setting.ReadsFirst endpoint) ∧
          ∀ other ∈ before, ¬ other.Offers := by
  simp only [reportEndpoint?_eq_findSome?, List.findSome?_eq_some_iff,
    AltSetting.offer?_eq_some_iff, AltSetting.offer?_eq_none_iff]

theorem reportEndpoint?_eq_none_iff {configuration : Configuration} :
    configuration.reportEndpoint? = none ↔ ∀ setting ∈ configuration, ¬ setting.Offers := by
  simp only [reportEndpoint?_eq_findSome?, List.findSome?_eq_none_iff,
    AltSetting.offer?_eq_none_iff]

/-- One piece of padding makes no difference to a search. -/
theorem Padding.reportEndpoint?_eq
    {configuration padded : Configuration}
    (padding : Padding configuration padded) :
    padded.reportEndpoint? = configuration.reportEndpoint? := by
  cases padding with
  | setting before behind unfit =>
      have nothing := AltSetting.offer?_eq_none_iff.mpr unfit
      rw [reportEndpoint?_eq_findSome?, reportEndpoint?_eq_findSome?, List.findSome?_append,
        List.findSome?_append, List.findSome?_cons, nothing]
  | @endpoint before behind setting earlier later endpoint unfit =>
      have sameOffer :
          AltSetting.offer? { setting with endpoints := earlier ++ endpoint :: later } =
            AltSetting.offer? { setting with endpoints := earlier ++ later } := by
        rw [AltSetting.offer?, AltSetting.offer?, setting.reportEndpoint?_insert _ _ unfit]
        rfl
      rw [reportEndpoint?_eq_findSome?, reportEndpoint?_eq_findSome?, List.findSome?_append,
        List.findSome?_append, List.findSome?_cons, List.findSome?_cons, sameOffer]

/-- No amount of padding, put in or taken away anywhere, makes a difference to a search. -/
theorem reportEndpoint?_eq_of_padded
    {configuration other : Configuration}
    (padded : Relation.EqvGen Padding configuration other) :
    other.reportEndpoint? = configuration.reportEndpoint? := by
  induction padded with
  | rel configuration padded padding =>
      exact padding.reportEndpoint?_eq
  | refl configuration =>
      rfl
  | symm configuration other _ inductionHypothesis =>
      exact inductionHypothesis.symm
  | trans configuration middle other _ _ first second =>
      exact second.trans first

end Configuration

/-- Claiming a device finds no interface exactly if its search comes to nothing. -/
theorem Connection.outcome_claim_eq_noHidInterface_iff
    (device : Device)
    (configuration : Configuration) :
    (claim device configuration).outcome = .error .noHidInterface ↔
      configuration.reportEndpoint? = none := by
  cases found : configuration.reportEndpoint? with
  | none =>
      rw [claim_of_none device found]
      exact iff_of_true rfl rfl
  | some source =>
      have ending := congrArg Attempt.outcome (claim_of_some device found)
      refine iff_of_false ?_ (Option.some_ne_none source)
      intro missing
      have missed : ((claim device configuration).after [.opened device.address]).outcome =
          .error .noHidInterface := missing
      rw [ending] at missed
      cases claimFailure : device.claimFailure with
      | none =>
          simp only [claimFailure] at missed
          cases missed
      | some cause =>
          simp only [claimFailure] at missed
          cases missed

/--
The search finds the first endpoint that fits in the first setting of the HID
class that has such an endpoint, with the number of the interface of this
setting.  It comes to nothing exactly if no HID setting has such an endpoint, and
only then a device is said to have no interface for reports.  Settings of other
classes, HID settings without such an endpoint, and endpoints that do not fit may
be put in or taken away anywhere, any number of them.
-/
theorem Configuration.reportEndpoint?_finds_first (configuration : Configuration) :
    (∀ interface address,
      configuration.reportEndpoint? = some ⟨interface, address⟩ ↔
        ∃ before setting behind,
          configuration = before ++ setting :: behind ∧
            (setting.classCode = 3 ∧ setting.interface = interface ∧
              ∃ endpoint, endpoint.address = address ∧ setting.ReadsFirst endpoint) ∧
            ∀ other ∈ before, ¬ other.Offers) ∧
      (configuration.reportEndpoint? = none ↔
        ∀ setting ∈ configuration,
          setting.classCode = 3 → ∀ endpoint ∈ setting.endpoints, ¬ endpoint.Readable) ∧
      (∀ device : Device,
        (Connection.claim device configuration).outcome = .error .noHidInterface ↔
          configuration.reportEndpoint? = none) ∧
      ∀ other,
        Relation.EqvGen Padding configuration other →
        other.reportEndpoint? = configuration.reportEndpoint? := by
  refine ⟨fun _ _ => reportEndpoint?_eq_some_iff, ?_,
    fun device => Connection.outcome_claim_eq_noHidInterface_iff device configuration,
    fun _ => reportEndpoint?_eq_of_padded⟩
  rw [reportEndpoint?_eq_none_iff]
  refine forall₂_congr fun setting _ => ?_
  rw [AltSetting.Offers, not_and, not_exists]
  simp only [not_and]

/-- A HID setting without an endpoint that fits is passed over, and so is the first endpoint. -/
example :
    Configuration.reportEndpoint?
        [⟨0, 0, 1, [⟨0x81, 3⟩]⟩, ⟨1, 0, 3, [⟨0x82, 2⟩]⟩, ⟨2, 0, 3, [⟨0x03, 3⟩, ⟨0x84, 3⟩]⟩] =
      some ⟨2, 0x84⟩ := by
  decide

end AudioScope.Device
