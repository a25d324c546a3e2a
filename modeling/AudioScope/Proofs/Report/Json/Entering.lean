import Mathlib.Data.List.Forall2
import AudioScope.Proofs.Report.Json.Form
import AudioScope.Proofs.Report.Json.RoundTrip

namespace AudioScope.Report

/-!
# Members and elements entered one by one

The members of an object are entered into a draft one after the other, and so are the
elements of an array.  For a single field, entering all members is the same as entering
only the values under its own key, so neither the order of the members nor those with
other keys matter (`foldlM_enter?_eq_some`).
-/

theorem Field.key_inj {left right : Field} : left.key = right.key ↔ left = right := by
  constructor
  · intro same
    have found := Field.ofKey?_key left
    rw [same, Field.ofKey?_key] at found
    exact (Option.some.inj found).symm
  · rintro rfl
    rfl

namespace Draft

theorem require_bind_eq_ok
    {α : Type}
    {draft : Draft}
    {field : Field}
    {next : field.Value → Except Field α}
    {result : α} :
    (draft.require field).bind next = .ok result ↔
      ∃ value, draft field = some value ∧ next value = .ok result := by
  unfold require
  cases draft field <;> simp [Except.bind]

/-- A draft is finished with a report exactly if it knows every field of the report. -/
theorem report?_eq_ok
    {draft : Draft}
    {report : Report} :
    draft.report? = .ok report ↔ ∀ field, draft field = some (report.get field) := by
  constructor
  · intro finished
    simp only [report?, bind, require_bind_eq_ok] at finished
    obtain ⟨rate, rateKnown, setting, settingKnown, mute, muteKnown, volume, volumeKnown, size,
      sizeKnown, count, countKnown, average, averageKnown, whole⟩ := finished
    cases whole
    intro field
    cases field <;> assumption
  · exact report?_of_get

/-- A draft in which no field is missing is finished. -/
theorem exists_report
    {draft : Draft}
    (known : ∀ field, (draft field).isSome = true) :
    ∃ report, draft.report? = .ok report := by
  obtain ⟨values, found⟩ :=
    Classical.skolem.mp fun field => Option.isSome_iff_exists.mp (known field)
  refine ⟨⟨values .sampleRate, values .altSetting, values .mute, values .volume,
    values .fifoSize, values .fifoCount, values .fifoAverage⟩, report?_eq_ok.mpr fun field => ?_⟩
  cases field <;> exact found _

end Draft

namespace Json

open AudioScope.Json

/-- Enter a member into a draft, unless its field is known already or its value is of no use. -/
def enter?
    (draft : Draft)
    (member : NamedMember) :
    Option Draft :=
  match Field.ofKey? member.name with
  | none => some draft
  | some field =>
      if (draft field).isSome then
        none
      else
        (form? field member.element.value).map (draft.put field)

section Members

variable {rest : List Char}

/-- A key begins behind its comma, if it is not the first one, and its blanks. -/
theorem nextKey_comma
    (first : Bool)
    (blanks before : List Blank)
    (key : List Char) :
    nextKey first (blankText blanks ++ (comma first ++ (blankText before ++ '"' :: key))) =
      .ok (.item key) := by
  have found : skipBlanks (blankText before ++ '"' :: key) = '"' :: key :=
    skipBlanks_blankText_cons before (by rfl) key
  cases first with
  | true => simp [nextKey, comma, skipBlanks_blankText, found]
  | false =>
      have separated (rest : List Char) :
          skipBlanks (blankText blanks ++ ',' :: rest) = ',' :: rest :=
        skipBlanks_blankText_cons blanks (by rfl) rest
      simp [nextKey, comma, separated, found]

theorem nextKey_cons
    (first : Bool)
    (blanks : List Blank)
    (member : Member)
    (members : List Member)
    (rest : List Char) :
    nextKey first (blankText blanks ++ (membersText first (member :: members) ++ rest)) =
      .ok (.item (member.opened (membersText false members ++ rest))) := by
  have items :
      membersText first (member :: members) ++ rest =
        comma first ++ (blankText member.before ++
          '"' :: member.opened (membersText false members ++ rest)) := by
    rw [membersText, comma, List.append_assoc, List.append_assoc, Member.text_append]
  rw [items]
  exact nextKey_comma first blanks member.before _

theorem nextKey_end
    (first : Bool)
    (blanks : List Blank)
    (rest : List Char) :
    nextKey first (blankText blanks ++ '}' :: rest) = .ok (.closed rest) := by
  rw [nextKey, skipBlanks_blankText_cons blanks (by rfl)]
  rfl

theorem readField_of_unknown
    {draft : Draft}
    {field : Field}
    {text behind : List Char}
    (unknown : (draft field).isSome = false)
    (colon : skipColon text = .ok behind) :
    readField draft field text =
      (readValue field behind).map fun (value, rest) => (draft.put field value, rest) := by
  simp only [readField, unknown, colon]
  cases readValue field behind <;> rfl

theorem toOption_readField
    (draft : Draft)
    (field : Field)
    (blanks : List Blank)
    (element : Element)
    (ends : endsNumber rest = true) :
    (readField draft field (blankText blanks ++ ':' :: (element.text ++ rest))).toOption =
      if (draft field).isSome then
        none
      else
        (form? field element.value).map fun value =>
          (draft.put field value, blankText element.behind ++ rest) := by
  split
  · next known =>
    rw [readField, if_pos known]
    rfl
  · next unknown =>
    have value :=
      accepts_readValue field element.value element.before
        (endsNumber_blankText element.behind ends)
    rw [readField_of_unknown (Bool.eq_false_iff.mpr unknown) (skipColon_blankText blanks _),
      toOption_map, Element.text_append, value, Option.map_map]
    rfl

/-- A member is read as it is entered. -/
theorem toOption_readMember
    (draft : Draft)
    (member : NamedMember)
    (ends : endsNumber rest = true) :
    (readMember draft (member.opened rest)).toOption =
      (enter? draft member).map fun filled =>
        (filled, blankText member.element.behind ++ rest) := by
  simp only [readMember, Member.opened, readString_spelled member.spelled, enter?, NamedMember.name]
  cases Field.ofKey? (String.ofList member.chars) with
  | none =>
      simp only [skipMember, skipColon_blankText, skipValue_element member.element ends]
      rfl
  | some field =>
      simp only [toOption_readField draft field member.behind member.element ends]
      split
      · rfl
      · rw [Option.map_map]; rfl

/-- The members of an object are read as they are entered one after the other. -/
theorem toOption_readMembers
    (first : Bool)
    (draft : Draft)
    (blanks : List Blank)
    (members : List NamedMember)
    (rest : List Char) :
    (readMembers first draft
        (blankText blanks ++
          (membersText first (members.map NamedMember.toMember) ++ '}' :: rest))).toOption =
      (members.foldlM enter? draft).map fun filled => (filled, rest) := by
  induction members generalizing first draft blanks with
  | nil =>
      rw [List.map_nil, membersText_nil, List.nil_append,
        readMembers_of_closed (nextKey_end first blanks rest)]
      rfl
  | cons member members inductionHypothesis =>
      let others := members.map NamedMember.toMember
      have ends : endsNumber (membersText false others ++ '}' :: rest) = true :=
        endsNumber_membersText others (by rfl)
      rw [List.map_cons, readMembers_of_item (nextKey_cons first blanks member.toMember others _),
        toOption_bind, toOption_readMember draft member ends, List.foldlM_cons]
      cases enter? draft member with
      | none => rfl
      | some filled => exact inductionHypothesis false filled member.element.behind

end Members

section FieldByField

/-- What a value under the key of a field makes known of it, if nothing is known yet. -/
def enterValue?
    (field : Field)
    (known : Option field.Value)
    (value : Value) :
    Option field.Value :=
  if known.isSome then none else form? field value

/-- What the values under the key of a field make known of it, one after the other. -/
def enterValues?
    (field : Field)
    (known : Option field.Value) :
    List Value → Option (Option field.Value)
  | [] => some known
  | value :: values =>
      (enterValue? field known value).bind fun found => enterValues? field (some found) values

/-- A member under another key is entered by leaving it out. -/
theorem enter?_of_foreign
    {member : NamedMember}
    (foreign : Field.ofKey? member.name = none)
    (draft : Draft) :
    enter? draft member = some draft := by
  rw [enter?, foreign]

/-- A member under the key of a field is entered in this field. -/
theorem enter?_of_key
    {member : NamedMember}
    {field : Field}
    (named : Field.ofKey? member.name = some field)
    (draft : Draft) :
    enter? draft member =
      (enterValue? field (draft field) member.element.value).map (draft.put field) := by
  rw [enter?, named, enterValue?]
  simp only
  split <;> rfl

theorem valuesAt_cons_same
    {name : String}
    {member : NamedMember}
    (same : member.name = name)
    (members : List NamedMember) :
    valuesAt name (member :: members) = member.element.value :: valuesAt name members := by
  simp [valuesAt, same]

theorem valuesAt_cons_other
    {name : String}
    {member : NamedMember}
    (other : member.name ≠ name)
    (members : List NamedMember) :
    valuesAt name (member :: members) = valuesAt name members := by
  simp [valuesAt, other]

/-- Members can be entered exactly if, field by field, the values under the field's key can be. -/
theorem foldlM_enter?_eq_some
    {draft filled : Draft}
    {members : List NamedMember} :
    members.foldlM enter? draft = some filled ↔
      ∀ field : Field,
        enterValues? field (draft field) (valuesAt field.key members) = some (filled field) := by
  induction members generalizing draft with
  | nil =>
      have nothing (field : Field) : valuesAt field.key [] = [] := rfl
      simp only [nothing, List.foldlM_nil, enterValues?]
      constructor
      · intro same field
        cases same
        rfl
      · intro same
        exact congrArg some (funext fun field => Option.some.inj (same field))
  | cons member members inductionHypothesis =>
      rw [List.foldlM_cons]
      cases named : Field.ofKey? member.name with
      | none =>
          have other (field : Field) : member.name ≠ field.key := by
            intro same
            rw [same, Field.ofKey?_key] at named
            cases named
          simp only [enter?_of_foreign named, valuesAt_cons_other (other _)]
          exact inductionHypothesis
      | some own =>
          have key := Field.key_of_ofKey? named
          have first := valuesAt_cons_same key.symm members
          rw [enter?_of_key named]
          cases entered : enterValue? own (draft own) member.element.value with
          | none =>
              refine iff_of_false (fun failed => by cases failed) fun all => ?_
              have failed := all own
              rw [first, enterValues?, entered] at failed
              cases failed
          | some found =>
              refine Iff.trans inductionHypothesis (forall_congr' fun field => ?_)
              by_cases same : own = field
              · subst same
                rw [first, enterValues?, entered, Draft.put_same]
                rfl
              · have other : member.name ≠ field.key := by
                  rw [← key]
                  exact fun equal => same (Field.key_inj.mp equal)
                rw [valuesAt_cons_other other, Draft.put_other draft found same]

/-- A field becomes known by one value of its form, and not by several. -/
theorem enterValues?_eq_some
    {field : Field}
    {values : List Value}
    {found : field.Value} :
    enterValues? field none values = some (some found) ↔
      ∃ value, values = [value] ∧ form? field value = some found := by
  match values with
  | [] => simp [enterValues?]
  | [value] => cases form : form? field value <;> simp [enterValues?, enterValue?, form]
  | first :: second :: more => simp [enterValues?, enterValue?]

/-- A field stays unknown only if there is no value for it. -/
theorem enterValues?_eq_unknown
    {field : Field}
    {values : List Value} :
    enterValues? field none values = some none ↔ values = [] := by
  match values with
  | [] => simp [enterValues?]
  | [value] => cases form : form? field value <;> simp [enterValues?, enterValue?, form]
  | first :: second :: more => simp [enterValues?, enterValue?]

/-- Which members make up a report. -/
theorem report_of_members
    {members : List NamedMember}
    {report : Report} :
    ((members.foldlM enter? .blank).bind fun draft => draft.report?.toOption) = some report ↔
      ∀ field : Field, ∃ value,
        valuesAt field.key members = [value] ∧ form? field value = some (report.get field) := by
  rw [Option.bind_eq_some_iff]
  constructor
  · rintro ⟨filled, entered, finished⟩ field
    have known := Draft.report?_eq_ok.mp (toOption_eq_some.mp finished) field
    have values := foldlM_enter?_eq_some.mp entered field
    rw [known] at values
    exact enterValues?_eq_some.mp values
  · intro values
    refine ⟨fun field => some (report.get field), foldlM_enter?_eq_some.mpr fun field => ?_,
      toOption_eq_some.mpr (Draft.report?_eq_ok.mpr fun _ => rfl)⟩
    exact enterValues?_eq_some.mpr (values field)

end FieldByField

section Elements

/-- Enter the elements of an array, one for each of some fields. -/
def enterAll?
    (draft : Draft) :
    List Field → List Element → Option Draft
  | [], [] => some draft
  | field :: fields, element :: elements =>
      (form? field element.value).bind fun value =>
        enterAll? (draft.put field value) fields elements
  | _, _ => none

theorem readElements_cons
    (draft : Draft)
    (index : Nat)
    (field : Field)
    (fields : List Field)
    (text : List Char) :
    readElements draft index (field :: fields) text =
      (readElement .report index (readValue field) text).bind fun (value, rest) =>
        readElements (draft.put field value) (index + 1) fields rest := by
  rw [readElements]
  cases readElement .report index (readValue field) text <;> rfl

/-- The elements of an array are read as they are entered, if the array is closed behind them. -/
theorem toOption_readElements
    (draft : Draft)
    (index : Nat)
    (fields : List Field)
    (blanks : List Blank)
    (elements : List Element)
    (rest : List Char) :
    ((readElements draft index fields
        (blankText blanks ++ (elementsText (index == 0) elements ++ ']' :: rest))).toOption.bind
          fun (filled, text) => (closeArray text).toOption.map fun rest => (filled, rest)) =
      (enterAll? draft fields elements).map fun filled => (filled, rest) := by
  induction fields generalizing draft index blanks elements with
  | nil =>
      rw [readElements]
      have closed := toOption_closeArray (index == 0) blanks elements rest
      refine (congrArg (Option.map fun rest => (draft, rest)) closed).trans ?_
      cases elements <;> rfl
  | cons field fields inductionHypothesis =>
      have element :=
        (accepts_readValue field).readElement .report index blanks elements rest
      rw [readElements_cons, toOption_bind, element]
      cases elements with
      | nil => rfl
      | cons first elements =>
          rw [elementForm?, enterAll?]
          cases form? field first.value with
          | none => rfl
          | some found =>
              exact inductionHypothesis (draft.put field found) (index + 1) first.behind elements

/-- Elements can be entered exactly if each has the form of its field. -/
theorem enterAll?_eq_some
    {draft filled : Draft}
    {fields : List Field}
    {elements : List Element}
    (distinct : fields.Nodup) :
    enterAll? draft fields elements = some filled ↔
      List.Forall₂
          (fun field element =>
            ∃ value, form? field element.value = some value ∧ filled field = some value)
          fields elements ∧
        ∀ field ∉ fields, filled field = draft field := by
  induction fields generalizing draft elements with
  | nil =>
      cases elements with
      | nil =>
          simp only [enterAll?, Option.some.injEq, List.forall₂_nil_left_iff, true_and]
          constructor
          · rintro rfl field -
            rfl
          · intro same
            exact (funext fun field => same field List.not_mem_nil).symm
      | cons element elements => simp [enterAll?]
  | cons field fields inductionHypothesis =>
      obtain ⟨fresh, othersDistinct⟩ := List.nodup_cons.mp distinct
      cases elements with
      | nil => simp [enterAll?]
      | cons element elements =>
          rw [enterAll?, Option.bind_eq_some_iff, List.forall₂_cons]
          simp only [inductionHypothesis othersDistinct]
          constructor
          · rintro ⟨value, form, others, rest⟩
            have filledIn : filled field = some value := by
              rw [rest field fresh, Draft.put_same]
            refine ⟨⟨⟨value, form, filledIn⟩, others⟩, fun other absent => ?_⟩
            obtain ⟨different, later⟩ := List.ne_and_not_mem_of_not_mem_cons absent
            rw [rest other later, Draft.put_other draft value different.symm]
          · rintro ⟨⟨⟨value, form, filledIn⟩, others⟩, rest⟩
            refine ⟨value, form, others, fun other later => ?_⟩
            by_cases same : field = other
            · subst same
              rw [filledIn, Draft.put_same]
            · rw [Draft.put_other draft value same,
                rest other (List.not_mem_cons_of_ne_of_not_mem (Ne.symm same) later)]

/-- Elements that have the forms of their fields can be entered. -/
theorem exists_enterAll?
    {fields : List Field}
    {elements : List Element}
    (forms :
      List.Forall₂ (fun field element => (form? field element.value).isSome = true)
        fields elements)
    (draft : Draft) :
    ∃ filled, enterAll? draft fields elements = some filled := by
  induction forms generalizing draft with
  | nil => exact ⟨draft, rfl⟩
  | @cons field element fields elements form others inductionHypothesis =>
      obtain ⟨value, found⟩ := Option.isSome_iff_exists.mp form
      obtain ⟨filled, entered⟩ := inductionHypothesis (draft.put field value)
      exact ⟨filled, by rw [enterAll?, found, Option.bind_some, entered]⟩

/-- Which elements make up a report. -/
theorem report_of_elements
    {elements : List Element}
    {report : Report} :
    ((enterAll? .blank Field.all elements).bind fun draft => draft.report?.toOption) =
        some report ↔
      List.Forall₂ (fun field element => form? field element.value = some (report.get field))
        Field.all elements := by
  rw [Option.bind_eq_some_iff]
  constructor
  · rintro ⟨filled, entered, finished⟩
    have known := Draft.report?_eq_ok.mp (toOption_eq_some.mp finished)
    refine ((enterAll?_eq_some (by decide)).mp entered).1.imp fun field element => ?_
    rintro ⟨value, form, filledIn⟩
    rw [form, ← filledIn, known field]
  · intro forms
    refine ⟨fun field => some (report.get field), (enterAll?_eq_some (by decide)).mpr ⟨?_, ?_⟩,
      toOption_eq_some.mpr (Draft.report?_eq_ok.mpr fun _ => rfl)⟩
    · exact forms.imp fun field element form => ⟨_, form, rfl⟩
    · exact fun field absent => absurd field.mem_all absent

end Elements

end Json

end AudioScope.Report
