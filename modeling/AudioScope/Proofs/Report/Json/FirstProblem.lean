import AudioScope.Proofs.Report.Json.Acceptance
import AudioScope.Proofs.Report.Json.Offence
import AudioScope.Proofs.Report.Json.Recognition

namespace AudioScope.Report

/-!
# The first problem decides

An object is refused for the first thing in it that is wrong, and what stands behind this
makes no difference (`first_problem_decides`).  A missing field is the last thing that can
be wrong: it is noticed at the closing bracket only, behind members that are all in order.
-/

namespace Draft

/-- A draft that is refused is refused for the first field that it does not know. -/
theorem find?_of_report?
    {draft : Draft}
    {missing : Field}
    (refused : draft.report? = .error missing) :
    Field.all.find? (fun field => (draft field).isNone) = some missing := by
  cases first : Field.all.find? fun field => (draft field).isNone with
  | none =>
      have known (field : Field) : (draft field).isSome = true := by
        have notNone := List.find?_eq_none.mp first field field.mem_all
        rwa [← Option.not_isSome, Bool.not_eq_true', Bool.not_eq_false] at notNone
      obtain ⟨report, finished⟩ := exists_report known
      cases refused.symm.trans finished
  | some field =>
      cases (report?_of_find? first).symm.trans refused
      rfl

end Draft

namespace Json

open AudioScope.Json

section Silent

/-- A reader that never finds a field missing. -/
def Silent
    {α : Type}
    (read : List Char → Reading α) : Prop :=
  ∀ text field, read text ≠ .error (.content (.missing field))

variable {α : Type}

theorem mismatch_ne_missing
    (wanted : Wanted)
    (found : Found)
    (result : Except Flaw α)
    (field : Field) :
    mismatch wanted found result ≠ .content (.missing field) := by
  cases result <;> simp [mismatch]

theorem refuse_ne_missing
    (wanted : Wanted)
    (text : List Char)
    (field : Field) :
    refuse wanted text ≠ .content (.missing field) := by
  unfold refuse
  split
  · simp
  · exact mismatch_ne_missing wanted _ _ field
  · exact mismatch_ne_missing wanted _ _ field
  · exact mismatch_ne_missing wanted _ _ field
  · split <;> simp
  · simp
  · simp
  · split
    · split <;> simp
    · simp

/-- Two readings, one behind the other, find no field missing if neither of them does. -/
theorem bind_ne_missing
    {β : Type}
    {first : Except Refusal α}
    {next : α → Except Refusal β}
    {field : Field}
    (silent : first ≠ .error (.content (.missing field)))
    (later : ∀ value, next value ≠ .error (.content (.missing field))) :
    first >>= next ≠ .error (.content (.missing field)) := by
  cases first with
  | error refusal =>
      intro same
      exact silent (congrArg Except.error (Except.error.inj same))
  | ok value => exact later value

theorem Silent.readElement
    {read : List Char → Reading α}
    (silent : Silent read)
    (wanted : Wanted)
    (index : Nat) :
    Silent (readElement wanted index read) := by
  intro text field
  unfold Json.readElement
  split
  · simp
  · simp
  · exact silent _ field

theorem closeArray_ne_missing
    (text : List Char)
    (field : Field) :
    closeArray text ≠ .error (.content (.missing field)) := by
  unfold closeArray
  split <;> simp

variable [FixedWidth α]

theorem silent_readWord : Silent (readWord α) := by
  intro text field
  simp only [readWord]
  split
  · split
    · simp
    · next numeral rest number =>
      cases numeral with
      | integer value =>
          simp only [wordOf]
          cases (FixedWidth.ofInt? value : Option α) <;> simp [Except.map]
      | decimal value => simp [wordOf, Except.map]
  · simpa using refuse_ne_missing (.word (FixedWidth.format α)) _ field

theorem silent_readPerChannel : Silent (readPerChannel α) := by
  intro text field
  have element (index : Nat) : Silent (readElement .perChannel index (readWord α)) :=
    silent_readWord.readElement .perChannel index
  unfold readPerChannel
  split
  · refine bind_ne_missing (element 0 _ field) fun _ => ?_
    refine bind_ne_missing (element 1 _ field) fun _ => ?_
    refine bind_ne_missing (element 2 _ field) fun _ => ?_
    refine bind_ne_missing (closeArray_ne_missing _ field) fun _ => ?_
    simp [pure, Except.pure]
  · simpa using refuse_ne_missing .perChannel _ field

end Silent

theorem silent_readValue (field : Field) : Silent (readValue field) := by
  cases field with
  | sampleRate => exact silent_readWord (α := UInt32)
  | altSetting => exact silent_readWord (α := UInt8)
  | mute => exact silent_readPerChannel (α := Int8)
  | volume => exact silent_readPerChannel (α := Int16)
  | fifoSize => exact silent_readWord (α := UInt16)
  | fifoCount => exact silent_readWord (α := UInt16)
  | fifoAverage => exact silent_readWord (α := UInt16)

theorem silent_readMember (draft : Draft) : Silent (readMember draft) := by
  intro text missing
  unfold readMember
  split
  · simp
  · split
    · next field _ =>
      unfold readField
      split
      · simp
      · split
        · simp
        · split
          · next failed => intro same; cases same; exact silent_readValue field _ missing failed
          · simp
    · split <;> simp

theorem silent_readMembers
    (first : Bool)
    (draft : Draft) :
    Silent (readMembers first draft) := by
  intro text field
  fun_induction readMembers first draft text with
  | case1 => simp
  | case2 => simp
  | case3 first draft text key next refusal failed =>
      intro same
      cases same
      exact silent_readMember draft key field failed
  | case4 first draft text key next filled rest read inductionHypothesis =>
      exact inductionHypothesis

section Elements

theorem silent_readElements
    (draft : Draft)
    (index : Nat)
    (fields : List Field) :
    Silent (readElements draft index fields) := by
  intro text missing
  induction fields generalizing draft index text with
  | nil => simp [readElements]
  | cons field fields inductionHypothesis =>
      have element := (silent_readValue field).readElement .report index
      rw [readElements_cons]
      cases read : readElement .report index (readValue field) text with
      | error refusal =>
          intro same
          cases same
          exact element text missing read
      | ok found => exact inductionHypothesis _ _ _

/-- The fields whose elements have been read are known. -/
theorem isSome_of_readElements
    {draft filled : Draft}
    {index : Nat}
    {fields : List Field}
    {text rest : List Char}
    (read : readElements draft index fields text = .ok (filled, rest))
    {field : Field}
    (known : (draft field).isSome = true ∨ field ∈ fields) :
    (filled field).isSome = true := by
  induction fields generalizing draft index text with
  | nil =>
      cases read
      exact known.resolve_right List.not_mem_nil
  | cons first fields inductionHypothesis =>
      rw [readElements_cons] at read
      cases element : readElement .report index (readValue first) text with
      | error refusal => rw [element] at read; cases read
      | ok found =>
          rw [element] at read
          refine inductionHypothesis read ?_
          by_cases same : first = field
          · subst same
            exact .inl (by rw [Draft.put_same]; rfl)
          · rw [Draft.put_other draft found.1 same]
            refine known.imp_right fun member => ?_
            exact (List.mem_cons.mp member).resolve_left fun equal => same equal.symm

end Elements

section Objects

variable {members : List NamedMember} {filled : Draft} {text : List Char} {field : Field}

/-- Members that can be entered are in order, and what is not known then they do not give. -/
theorem inOrder_of_entered (entered : members.foldlM enter? .blank = some filled) :
    InOrder members ∧
      ∀ field, (filled field).isNone = (valuesAt field.key members).isEmpty := by
  have single (field : Field) :
      (valuesAt field.key members = [] ∧ filled field = none) ∨
        ∃ value, valuesAt field.key members = [value] ∧ (form? field value).isSome = true ∧
          (filled field).isSome = true := by
    have values := foldlM_enter?_eq_some.mp entered field
    cases known : filled field with
    | none =>
        rw [known] at values
        exact .inl ⟨enterValues?_eq_unknown.mp values, rfl⟩
    | some found =>
        rw [known] at values
        obtain ⟨value, same, form⟩ := enterValues?_eq_some.mp values
        exact .inr ⟨value, same, Option.isSome_of_eq_some form, rfl⟩
  constructor
  · intro field
    rcases single field with ⟨none, -⟩ | ⟨value, same, form, -⟩
    · exact .inl none
    · exact .inr ⟨value, same, form⟩
  · intro field
    rcases single field with ⟨none, unknown⟩ | ⟨value, same, -, known⟩
    · rw [none, unknown]
      rfl
    · rw [same, ← Option.not_isSome, known]
      rfl

theorem find?_of_complete
    (refused : complete filled = .error (.content (.missing field))) :
    Field.all.find? (fun field => (filled field).isNone) = some field := by
  unfold complete at refused
  cases finished : filled.report? with
  | ok report => rw [finished] at refused; cases refused
  | error missing =>
      rw [finished] at refused
      cases refused
      exact Draft.find?_of_report? finished

/-- A field is found missing only where an object is closed behind members in order. -/
theorem exists_members_of_missing
    (refused : readReport text = .error (.content (.missing field))) :
    ∃ (before inner : List Blank) (members : List NamedMember) (rest : List Char),
      InOrder members ∧ firstMissing? members = some field ∧
        text = openingText before inner members ++ '\x7d' :: rest := by
  obtain ⟨before, same⟩ := exists_blankText text
  unfold readReport at refused
  split at refused
  · next tail found =>
    cases read : readMembers true .blank tail with
    | error refusal =>
        simp only [read, bind, Except.bind] at refused
        cases refused
        exact absurd read (silent_readMembers true .blank tail field)
    | ok result =>
        obtain ⟨filled, rest⟩ := result
        obtain ⟨inner, members, rfl, entered⟩ := exists_members read
        obtain ⟨inOrder, known⟩ := inOrder_of_entered entered
        simp only [read, bind, Except.bind] at refused
        split at refused
        · next incomplete =>
          cases refused
          have first := find?_of_complete incomplete
          simp only [known] at first
          refine ⟨before, inner, members, rest, inOrder, first, ?_⟩
          rw [same, found, openingText]
          simp
        · cases refused
  · next tail found =>
    cases read : readElements .blank 0 Field.all tail with
    | error refusal =>
        simp only [read, bind, Except.bind] at refused
        cases refused
        exact absurd read (silent_readElements .blank 0 Field.all tail field)
    | ok result =>
        obtain ⟨filled, rest⟩ := result
        -- All fields are known here, so only the closing bracket may be missing.
        obtain ⟨report, finished⟩ :=
          Draft.exists_report fun field => isSome_of_readElements read (.inr field.mem_all)
        simp only [read, complete, finished, bind, Except.bind] at refused
        split at refused
        · next failed => cases refused; exact absurd failed (closeArray_ne_missing rest field)
        · cases refused
  · exact absurd (Except.error.inj refused) (refuse_ne_missing .report _ field)

/-- A document is refused for what is wrong with its object first. -/
theorem Offends.read
    {refusal : Refusal}
    (offends : Offends members text refusal)
    (inOrder : InOrder members)
    (before inner : List Blank)
    (rest : List Char) :
    read (String.ofList (openingText before inner members ++ (text ++ rest))) = .error refusal := by
  rw [Json.read, String.toList_ofList, offends.readReport inOrder]

theorem readReport_of_missing
    {document : String}
    (refused : read document = .error (.content (.missing field))) :
    readReport document.toList = .error (.content (.missing field)) := by
  unfold read at refused
  split at refused
  · next failed => cases refused; exact failed
  · split at refused <;> cases refused

end Objects

/--
The first thing that is wrong with an object decides, and nothing behind it.

Behind members in order, in which every field's key occurs at most once and its value has the
field's form, what offends fixes the refusal, whatever follows, even if this is no JSON: a key
that occurs again, of which the closing quote is the last character that matters; as much of a
value as shows that it does not have the form of its field, a closing bracket in place of a
channel included; and the closing bracket of an object in which a field is missing.  A field is
found missing in no other way, and it is the first one in the order of declaration.
-/
theorem first_problem_decides :
    (∀ (before inner : List Blank) (members : List NamedMember) (text : List Char)
        (refusal : Refusal),
      InOrder members →
      Offends members text refusal →
      ∀ rest : List Char,
        read (String.ofList (openingText before inner members ++ (text ++ rest))) =
          .error refusal) ∧
    ∀ (document : String) (field : Field),
      read document = .error (.content (.missing field)) ↔
        ∃ (before inner : List Blank) (members : List NamedMember) (rest : List Char),
          InOrder members ∧
          firstMissing? members = some field ∧
          document = String.ofList (openingText before inner members ++ '\x7d' :: rest) := by
  constructor
  · intro before inner members text refusal inOrder offends rest
    exact offends.read inOrder before inner rest
  · intro document field
    constructor
    · intro refused
      obtain ⟨before, inner, members, rest, inOrder, first, same⟩ :=
        exists_members_of_missing (readReport_of_missing refused)
      exact ⟨before, inner, members, rest, inOrder, first, by rw [← same, String.ofList_toList]⟩
    · rintro ⟨before, inner, members, rest, inOrder, first, rfl⟩
      exact (Offends.missing first).read inOrder before inner rest

/-- A member that is no field, and one that is. -/
def fewMembers : List NamedMember :=
  [.plain ['x'] rfl ⟨[], .array [] [⟨[], .null, []⟩], []⟩,
    .plain "fifo_size".toList rfl (plainInteger 0)]

theorem inOrder_fewMembers : InOrder fewMembers := by
  intro field
  cases field with
  | fifoSize => exact .inr ⟨_, rfl, rfl⟩
  | _ => exact .inl rfl

/-- A repeated key, a large number, a short array and a missing field, before other problems. -/
theorem first_problem_decides_competing :
    read "\x7b\"x\":[null],\"fifo_size\":0,\"\\u0066ifo_size\":-1,\"" =
      .error (.content (.duplicate .fifoSize)) ∧
    read "\x7b\"x\":[null],\"fifo_size\":0,\"alt_settings\":256,\"fifo_size\":0\x7d" =
      .error (.content (.outOfRange 256 (FixedWidth.format UInt8))) ∧
    read "\x7b\"x\":[null],\"fifo_size\":0,\"mute\":[ -128],\"mute\":nil" =
      .error (.content (.tooShort 1 .perChannel)) ∧
    read "\x7b\"x\":[null],\"fifo_size\":0\x7d]" =
      .error (.content (.missing .sampleRate)) := by
  have decides := first_problem_decides.1 [] [] fewMembers
  refine ⟨?_, ?_, ?_, ?_⟩
  · have given : valuesAt Field.fifoSize.key fewMembers ≠ [] := List.cons_ne_nil _ []
    -- The first letter of the repeated key is spelled by an escape.
    have spelled :
        spelled?
            (.unit ⟨⟨0, false⟩, ⟨0, false⟩, ⟨6, false⟩, ⟨6, false⟩⟩ ::
              (NamedMember.plain "ifo_size".toList rfl (plainInteger 0)).key) =
          some Field.fifoSize.key.toList := rfl
    have again := Offends.duplicate given [] spelled
    exact Eq.trans (congrArg read (by decide +kernel))
      (decides _ _ inOrder_fewMembers again ":-1,\"".toList)
  · have key := (NamedMember.plain "alt_settings".toList rfl (plainInteger 0)).spelled
    have ends : Number.continues ⟨false, 256, none, none⟩ ',' = false := rfl
    have spoils : Spoils .altSetting _ _ :=
      SpoilsWord.outOfRange (Shows.number _ ends) (.inr (by decide))
    have tooLarge : Offends fewMembers _ _ := .value rfl [] key [] [] spoils
    exact Eq.trans (congrArg read (by decide +kernel))
      (decides _ _ inOrder_fewMembers tooLarge "\"fifo_size\":0\x7d".toList)
  · have key := (NamedMember.plain "mute".toList rfl (plainInteger 0)).spelled
    have beginning : Beginning Int8 [plainInteger (-128)] :=
      ⟨List.forall_mem_singleton.mpr rfl, by decide⟩
    have spoils : Spoils .mute _ _ := SpoilsPerChannel.tooShort [.space] beginning
    have tooShort : Offends fewMembers _ _ := .value rfl [] key [] [] spoils
    exact Eq.trans (congrArg read (by decide +kernel))
      (decides _ _ inOrder_fewMembers tooShort ",\"mute\":nil".toList)
  · exact (first_problem_decides.2 _ _).mpr
      ⟨[], [], fewMembers, [']'], inOrder_fewMembers, rfl, by decide +kernel⟩

end Json

end AudioScope.Report
