import AudioScope.Proofs.Json.Text
import AudioScope.Proofs.Report.Json.FieldValue
import AudioScope.Proofs.Report.Record
import AudioScope.Report.Json.Read
import AudioScope.Report.Json.Write

namespace AudioScope.Report

/-!
# Reports read back from their JSON

A report is written as an object with a member for each field, and reading fills
in one field with every member.  So the report that was written is read back, and
with it the record that it was decoded from.
-/

/-- Fill in some fields as they are in a report. -/
def Draft.fill
    (report : Report)
    (draft : Draft)
    (fields : List Field) :
    Draft :=
  fields.foldl (fun filled field => filled.put field (report.get field)) draft

namespace Draft

/-- Filling in fields makes these fields known, and leaves the others alone. -/
theorem fill_apply
    (report : Report)
    (draft : Draft)
    (fields : List Field)
    (field : Field) :
    draft.fill report fields field =
      if field ∈ fields then some (report.get field) else draft field := by
  induction fields generalizing draft with
  | nil =>
      rfl
  | cons first fields inductionHypothesis =>
      rw [fill, List.foldl_cons]
      refine (inductionHypothesis _).trans ?_
      by_cases later : field ∈ fields
      · rw [if_pos later, if_pos (List.mem_cons_of_mem first later)]
      · rw [if_neg later]
        by_cases same : first = field
        · subst same
          rw [put_same, if_pos List.mem_cons_self]
        · rw [put_other draft (report.get first) same, if_neg]
          rw [List.mem_cons, not_or]
          exact ⟨fun swapped => same swapped.symm, later⟩

/-- A draft into which all fields have been filled is finished. -/
theorem report?_fill_all (report : Report) :
    (Draft.blank.fill report Field.all).report? = .ok report := by
  refine report?_of_get fun field => ?_
  rw [fill_apply, if_pos field.mem_all]

end Draft

namespace Json

open AudioScope.Json

theorem readMembers_of_closed
    {first : Bool}
    {draft : Draft}
    {text rest : List Char}
    (closed : nextKey first text = .ok (.closed rest)) :
    readMembers first draft text = .ok (draft, rest) := by
  rw [readMembers.eq_def]
  split <;> simp_all

/-- A member is read, and then the members behind it. -/
theorem readMembers_of_item
    {first : Bool}
    {text key : List Char}
    (next : nextKey first text = .ok (.item key))
    (draft : Draft) :
    readMembers first draft text =
      (readMember draft key).bind fun (filled, rest) => readMembers false filled rest := by
  rw [readMembers.eq_def]
  split
  · simp_all
  · simp_all
  · next found =>
    cases next.symm.trans found
    split <;> simp_all [Except.bind]

/-- The first member stands behind the bracket as the others stand behind a comma. -/
theorem readMembers_comma
    (draft : Draft)
    (key : List Char) :
    readMembers false draft (',' :: '"' :: key) = readMembers true draft ('"' :: key) := by
  have behindComma : nextKey false (',' :: '"' :: key) = .ok (.item key) := rfl
  have behindBracket : nextKey true ('"' :: key) = .ok (.item key) := rfl
  rw [readMembers_of_item behindComma, readMembers_of_item behindBracket]

theorem toList_member
    (report : Report)
    (field : Field) :
    (member report field).toList =
      '"' :: (field.key.toList ++ '"' :: ':' :: (report.fieldText "," field).toList) := by
  simp [member]

/-- A field is filled in by its member. -/
theorem readMember_member
    (report : Report)
    {draft : Draft}
    {field : Field}
    (unknown : draft field = none)
    {rest : List Char}
    (ends : endsNumber rest = true) :
    readMember draft
        (field.key.toList ++ '"' :: ':' :: ((report.fieldText "," field).toList ++ rest)) =
      .ok (draft.put field (report.get field), rest) := by
  have plain : field.key.toList.all isPlain = true := by
    cases field <;> rfl
  have colon (text : List Char) : skipColon (':' :: text) = .ok text := by
    rfl
  simp only [readMember, readString_of_plain (List.all_eq_true.mp plain), String.ofList_toList,
    Field.ofKey?_key, readField, unknown, Option.isSome_none, Bool.false_eq_true, ↓reduceIte,
    colon, readValue_fieldText ends]

/-- The members of some fields, each behind a comma. -/
def furtherMembers
    (report : Report)
    (fields : List Field) :
    List Char :=
  fields.flatMap fun field => ',' :: (member report field).toList

theorem furtherMembers_cons
    (report : Report)
    (field : Field)
    (fields : List Field)
    (rest : List Char) :
    furtherMembers report (field :: fields) ++ rest =
      ',' :: '"' :: (field.key.toList ++ '"' :: ':' :: ((report.fieldText "," field).toList ++
        (furtherMembers report fields ++ rest))) := by
  rw [furtherMembers, List.flatMap_cons, toList_member, ← furtherMembers]
  simp only [List.cons_append, List.append_assoc]

/-- The end of the object, or the comma in front of a member, ends a number. -/
theorem endsNumber_furtherMembers
    (report : Report)
    (fields : List Field)
    (rest : List Char) :
    endsNumber (furtherMembers report fields ++ '}' :: rest) = true := by
  cases fields <;> rfl

/-- The members of fields that are not known yet fill in these fields. -/
theorem readMembers_furtherMembers
    (report : Report)
    {draft : Draft}
    {fields : List Field}
    (unknown : ∀ field ∈ fields, draft field = none)
    (distinct : fields.Nodup)
    (rest : List Char) :
    readMembers false draft (furtherMembers report fields ++ '}' :: rest) =
      .ok (draft.fill report fields, rest) := by
  -- Every member is read into a draft that does not know the fields behind it, as these differ.
  induction fields generalizing draft with
  | nil =>
      exact readMembers_of_closed rfl
  | cons field fields inductionHypothesis =>
      obtain ⟨fresh, othersDistinct⟩ := List.nodup_cons.mp distinct
      obtain ⟨fieldUnknown, othersUnknown⟩ := List.forall_mem_cons.mp unknown
      have filledIn :=
        readMember_member report fieldUnknown (endsNumber_furtherMembers report fields rest)
      have stillUnknown :
          ∀ other ∈ fields, draft.put field (report.get field) other = none := by
        intro other member
        have different : field ≠ other := by
          rintro rfl
          exact fresh member
        rw [Draft.put_other draft _ different, othersUnknown other member]
      rw [furtherMembers_cons, readMembers_of_item (by rfl), filledIn]
      exact inductionHypothesis stillUnknown othersDistinct

/-- Members between brackets that leave no field out are a report. -/
theorem readReport_of_members
    {text inner rest : List Char}
    {draft : Draft}
    {report : Report}
    (bracket : skipBlanks text = '{' :: inner)
    (members : readMembers true .blank inner = .ok (draft, rest))
    (finished : draft.report? = .ok report) :
    readReport text = .ok (report, rest) := by
  simp only [readReport, bracket, members, complete, finished, bind, Except.bind]
  rfl

/-- An object is the members of all fields, with a bracket in place of the first comma. -/
theorem exists_toList_write (report : Report) :
    ∃ key,
      (write report).toList = '{' :: '"' :: key ∧
        furtherMembers report Field.all ++ ['}'] = ',' :: '"' :: key := by
  refine ⟨_, ?_, furtherMembers_cons report _ _ _⟩
  simp [write, Field.all, furtherMembers, toList_member]

/-- A report is read back from its JSON. -/
theorem read_write (report : Report) : read (write report) = .ok report := by
  obtain ⟨key, object, allMembers⟩ := exists_toList_write report
  have members :
      readMembers true .blank ('"' :: key) = .ok (Draft.blank.fill report Field.all, []) := by
    rw [← readMembers_comma, ← allMembers]
    exact readMembers_furtherMembers report (fun _ _ => rfl) (by decide) []
  have whole : readReport (write report).toList = .ok (report, []) :=
    readReport_of_members (by rw [object]; rfl) members (Draft.report?_fill_all report)
  rw [read, whole]
  rfl

/-- Different reports have different JSON. -/
theorem write_inj {left right : Report} : write left = write right ↔ left = right := by
  constructor
  · intro same
    have back := read_write left
    rw [same, read_write] at back
    exact (Except.ok.inj back).symm
  · rintro rfl
    rfl

/--
A report is read back from its JSON as it was written.  So a buffer with room for
a record can be decoded, written as JSON, read back and encoded, and what comes
out is the record that the buffer starts with.
-/
theorem json_round_trip :
    (∀ report, read (write report) = .ok report) ∧
      ∀ buffer : List UInt8,
        recordSize ≤ buffer.length →
        ∃ report again,
          decode buffer = .ok report ∧
            read (write report) = .ok again ∧
            again.encode = buffer.take recordSize := by
  refine ⟨read_write, fun buffer enough => ?_⟩
  obtain ⟨report, decoded⟩ := exists_decode_of_le enough
  exact ⟨report, report, decoded, read_write report, encode_of_decode decoded⟩

/-- The greatest and the least values of all fields, and zeros. -/
def extremes : Report where
  sampleRate := 4294967295
  altSetting := 255
  mute := ⟨-128, 127, 0⟩
  volume := ⟨-32768, 32767, 0⟩
  fifoSize := 0
  fifoCount := 65535
  fifoAverage := 0

example :
    write extremes =
      "\x7b\"sample_rate\":4294967295,\"alt_settings\":255,\"mute\":[-128,127,0]," ++
        "\"volume\":[-32768,32767,0],\"fifo_size\":0,\"fifo_count\":65535," ++
        "\"fifo_count_avg\":0\x7d" := by
  decide +kernel

end Json

end AudioScope.Report
