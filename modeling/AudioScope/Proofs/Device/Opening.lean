import AudioScope.Session.Basic

namespace AudioScope

/-!
# What happens before a session starts

Looking for a device, opening it and claiming its interface leave a journal of
background events only: no transfer is submitted, and there is nothing that a
monitor shows.
-/

namespace Event

/-- The endpoint and the size of the transfer that is submitted, if one is. -/
def submission? : Event → Option (UInt8 × Nat)
  | submitted endpoint size => some (endpoint, size)
  | _ => none

/-- Whether an event tells of reports: a text on standard output, or how many were collected. -/
def isShown : Event → Bool
  | printed _ => true
  | logged (.samplesCollected _) => true
  | _ => false

/-- Whether an event is neither a transfer nor shown. -/
def isBackground (event : Event) : Bool :=
  event.submission?.isNone && !event.isShown

theorem printed?_of_not_isShown
    {event : Event}
    (hidden : event.isShown = false) :
    event.printed? = none := by
  cases event with
  | printed text =>
      cases hidden
  | _ =>
      rfl

end Event

namespace Journal

/-- Nothing but background events. -/
def InBackground (journal : Journal) : Prop :=
  ∀ event ∈ journal, event.isBackground = true

namespace InBackground

theorem nil : InBackground [] :=
  List.forall_mem_nil _

theorem cons
    {event : Event}
    {journal : Journal}
    (first : event.isBackground = true)
    (later : InBackground journal) :
    InBackground (event :: journal) :=
  List.forall_mem_cons.mpr ⟨first, later⟩

theorem append
    {journal later : Journal}
    (first : InBackground journal)
    (second : InBackground later) :
    InBackground (journal ++ later) :=
  List.forall_mem_append.mpr ⟨first, second⟩

variable {journal : Journal}

theorem submissions_eq_nil (background : InBackground journal) :
    journal.filterMap Event.submission? = [] := by
  refine List.filterMap_eq_nil_iff.mpr fun event member => ?_
  have both := background event member
  rw [Event.isBackground, Bool.and_eq_true] at both
  exact Option.isNone_iff_eq_none.mp both.1

theorem shown_eq_nil (background : InBackground journal) :
    journal.filter Event.isShown = [] := by
  refine List.filter_eq_nil_iff.mpr fun event member shown => ?_
  have both := background event member
  rw [Event.isBackground, shown, Bool.not_true, Bool.and_false] at both
  cases both

end InBackground

/-- The texts on standard output are among what is shown. -/
theorem printed_eq_shown (journal : Journal) :
    journal.filterMap Event.printed? =
      (journal.filter Event.isShown).filterMap Event.printed? := by
  rw [List.filterMap_filter]
  refine congrArg (List.filterMap · journal) (funext fun event => ?_)
  cases visible : event.isShown with
  | true =>
      rw [if_pos rfl]
  | false =>
      rw [if_neg Bool.false_ne_true]
      exact Event.printed?_of_not_isShown visible

end Journal

namespace Device.Attempt

variable {α β : Type}

/-- An attempt stays in the background if both of its parts do. -/
theorem inBackground_bind
    {attempt : Attempt α}
    {next : α → Attempt β}
    (first : attempt.journal.InBackground)
    (later : ∀ value, (next value).journal.InBackground) :
    (attempt >>= next).journal.InBackground := by
  change (attempt.andThen next).journal.InBackground
  unfold andThen
  split
  · exact first.append (later _)
  · exact first

theorem inBackground_record
    {event : Event}
    (background : event.isBackground = true) :
    (record event).journal.InBackground :=
  .cons background .nil

theorem inBackground_failIf
    (cause : Option String)
    (fault : String → Fault) :
    (failIf cause fault).journal.InBackground := by
  cases cause with
  | none =>
      exact .nil
  | some text =>
      exact .nil

end Device.Attempt

namespace Device.Connection

open Journal Attempt

theorem inBackground_claim
    (device : Device)
    (configuration : Configuration) :
    (claim device configuration).journal.InBackground := by
  unfold claim
  cases configuration.reportEndpoint? with
  | none =>
      exact .nil
  | some source =>
      refine inBackground_bind (inBackground_record rfl) fun _ => ?_
      refine inBackground_bind (inBackground_record rfl) fun _ => ?_
      refine inBackground_bind (inBackground_failIf _ _) fun _ => ?_
      exact .nil

theorem inBackground_toDevice (device : Device) :
    (toDevice device).journal.InBackground := by
  refine inBackground_bind (inBackground_record rfl) fun _ => ?_
  refine inBackground_bind (inBackground_failIf _ _) fun _ => ?_
  cases device.configuration with
  | error value =>
      exact .nil
  | ok configuration =>
      exact inBackground_claim device configuration

theorem inBackground_choiceNotice
    (first : Device)
    (others : List Device) :
    (choiceNotice first others).InBackground := by
  unfold choiceNotice
  split
  · exact .nil
  · exact .cons rfl .nil

theorem inBackground_waitJournal (announced : Bool) :
    (waitJournal announced).InBackground := by
  cases announced with
  | true =>
      exact .cons rfl .nil
  | false =>
      exact .cons rfl (.cons rfl .nil)

/-- However long the search takes, it stays in the background. -/
theorem inBackground_search
    (wait : Bool)
    (ending : String)
    (announced : Bool)
    (listings : List Listing) :
    (search wait ending announced listings).journal.InBackground := by
  induction listings generalizing announced with
  | nil =>
      exact .cons rfl .nil
  | cons listing later inductionHypothesis =>
      cases listing with
      | failed cause =>
          exact .cons rfl .nil
      | connected devices =>
          unfold search
          split
          · next first others found =>
            exact .cons rfl
              ((inBackground_choiceNotice first others).append (inBackground_toDevice first))
          · split
            · exact .cons rfl
                ((inBackground_waitJournal announced).append (inductionHypothesis true))
            · exact .cons rfl .nil

end Device.Connection

namespace Session

open Device

/-- Starting a session is all in the background. -/
theorem inBackground_connect
    (wait : Bool)
    (bus : Bus) :
    (connect wait bus).journal.InBackground := by
  refine Attempt.inBackground_bind (Connection.inBackground_search wait _ _ _) fun _ => ?_
  refine Attempt.inBackground_bind (Attempt.inBackground_record rfl) fun _ => ?_
  exact .nil

theorem eq_new_of_connect
    {wait : Bool}
    {bus : Bus}
    {session : Session Connection}
    (started : (connect wait bus).outcome = .ok session) :
    session = new session.source := by
  change
    ((Connection.acquire wait bus).andThen fun connection =>
      (Attempt.record (.logged .deviceOpened)).andThen fun _ =>
        Attempt.succeed (new connection)).outcome = .ok session at started
  unfold Attempt.andThen at started
  split at started
  · cases started
    rfl
  · cases started

end Session

end AudioScope
