import AudioScope.Proofs.Report.Json.Entering

namespace AudioScope.Report.Json

/-!
# Which JSON is a report

An object is a report exactly if every field's key stands in front of one value, and
this value has the field's form.  An array is a report exactly if its elements have
the forms of all fields in the order of their declaration.
-/

open AudioScope.Json

theorem toOption_complete (draft : Draft) :
    (complete draft).toOption = draft.report?.toOption := by
  unfold complete
  cases draft.report? <;> rfl

/-- Behind the outermost bracket only blanks may follow. -/
theorem toOption_read
    {text : List Char}
    (behind : List Blank)
    {report? : Option Report}
    (reading : (readReport text).toOption = report?.map fun report => (report, blankText behind)) :
    (read (String.ofList text)).toOption = report? := by
  have blank : skipBlanks (blankText behind) = [] := by
    have skipped := skipBlanks_blankText behind []
    rwa [List.append_nil] at skipped
  rw [read, String.toList_ofList]
  cases report? with
  | none =>
      cases result : readReport text with
      | error refusal => rfl
      | ok found =>
          rw [result] at reading
          cases reading
  | some report =>
      rw [toOption_eq_some.mp reading]
      simp [blank, Except.toOption]

/-- An object is read as its members are entered. -/
theorem toOption_read_object
    (frame : Frame)
    (members : List NamedMember) :
    (read (frame.object members)).toOption =
      (members.foldlM enter? .blank).bind fun draft => draft.report?.toOption := by
  apply toOption_read frame.behind
  have found :=
    Value.skipBlanks_object frame.before frame.inner (members.map NamedMember.toMember)
      (blankText frame.behind)
  have entered :=
    toOption_readMembers true .blank frame.inner members (blankText frame.behind)
  simp only [Element.text, readReport, found, bind, toOption_bind, entered, toOption_complete]
  cases members.foldlM enter? .blank with
  | none => rfl
  | some draft => exact Option.map_eq_bind.symm

/-- A draft is completed before its array is closed, but it makes no difference to a reading. -/
theorem close_after_complete (entered : Option (Draft × List Char)) :
    (entered.bind fun (draft, text) =>
        draft.report?.toOption.bind fun report =>
          (closeArray text).toOption.bind fun rest => some (report, rest)) =
      (entered.bind fun (draft, text) =>
          (closeArray text).toOption.map fun rest => (draft, rest)).bind
        fun (draft, rest) => draft.report?.toOption.map fun report => (report, rest) := by
  rcases entered with _ | ⟨draft, text⟩
  · rfl
  · cases finished : draft.report? <;> cases closed : closeArray text <;>
      simp [finished, closed, Except.toOption]

/-- An array is read as its elements are entered. -/
theorem toOption_read_array
    (frame : Frame)
    (elements : List Element) :
    (read (frame.array elements)).toOption =
      (enterAll? .blank Field.all elements).bind fun draft => draft.report?.toOption := by
  apply toOption_read frame.behind
  have found :=
    Value.skipBlanks_array frame.before frame.inner elements (blankText frame.behind)
  have entered :=
    toOption_readElements .blank 0 Field.all frame.inner elements (blankText frame.behind)
  rw [beq_self_eq_true] at entered
  simp only [Element.text, readReport, found, bind, toOption_bind, toOption_complete]
  have closed :=
    close_after_complete
      (readElements .blank 0 Field.all (blankText frame.inner ++
        (elementsText true elements ++ ']' :: blankText frame.behind))).toOption
  rw [entered] at closed
  refine closed.trans ?_
  cases enterAll? .blank Field.all elements <;> rfl

/-- An object is a report if each field has one value, and this value has the field's form. -/
theorem read_object_eq_ok
    {frame : Frame}
    {members : List NamedMember}
    {report : Report} :
    read (frame.object members) = .ok report ↔
      ∀ field : Field, ∃ value,
        valuesAt field.key members = [value] ∧ form? field value = some (report.get field) := by
  rw [← toOption_eq_some, toOption_read_object, report_of_members]

/-- An array is a report if its elements have the forms of all fields. -/
theorem read_array_eq_ok
    {frame : Frame}
    {elements : List Element}
    {report : Report} :
    read (frame.array elements) = .ok report ↔
      List.Forall₂ (fun field element => form? field element.value = some (report.get field))
        Field.all elements := by
  rw [← toOption_eq_some, toOption_read_array, report_of_elements]

theorem exists_read_object
    {frame : Frame}
    {members : List NamedMember} :
    (∃ report, read (frame.object members) = .ok report) ↔
      ∀ field : Field, ∃ value,
        valuesAt field.key members = [value] ∧ (form? field value).isSome = true := by
  constructor
  · rintro ⟨report, read⟩ field
    obtain ⟨value, single, form⟩ := read_object_eq_ok.mp read field
    exact ⟨value, single, Option.isSome_of_eq_some form⟩
  · intro forms
    obtain ⟨values, found⟩ := Classical.skolem.mp forms
    let filled : Draft := fun field => form? field (values field)
    have known : ∀ field, (filled field).isSome = true := fun field => (found field).2
    obtain ⟨report, finished⟩ := Draft.exists_report known
    refine ⟨report, read_object_eq_ok.mpr fun field => ⟨values field, (found field).1, ?_⟩⟩
    exact Draft.report?_eq_ok.mp finished field

theorem exists_read_array
    {frame : Frame}
    {elements : List Element} :
    (∃ report, read (frame.array elements) = .ok report) ↔
      List.Forall₂ (fun field element => (form? field element.value).isSome = true)
        Field.all elements := by
  constructor
  · rintro ⟨report, read⟩
    exact (read_array_eq_ok.mp read).imp fun _ _ form => Option.isSome_of_eq_some form
  · intro forms
    obtain ⟨filled, entered⟩ := exists_enterAll? forms .blank
    have values := ((enterAll?_eq_some (by decide)).mp entered).1
    have known : ∀ field ∈ Field.all, (filled field).isSome = true :=
      ((List.forall₂_and_left (R := fun _ _ => True) _ _).mp
        (values.imp fun _ _ ⟨_, _, filledIn⟩ => ⟨Option.isSome_of_eq_some filledIn, trivial⟩)).1
    obtain ⟨report, finished⟩ := Draft.exists_report fun field => known field field.mem_all
    refine ⟨report, toOption_eq_some.mp ?_⟩
    rw [toOption_read_array, entered, Option.bind_some, finished]
    rfl

/-- Entering further members under other keys, in any order, makes no difference. -/
theorem valuesAt_of_perm
    {members extra others : List NamedMember}
    (shuffled : (members ++ extra).Perm others)
    (foreign : ∀ member ∈ extra, ∀ field : Field, member.name ≠ field.key)
    (field : Field) :
    (valuesAt field.key members).Perm (valuesAt field.key others) := by
  have none : extra.filter (fun member => member.name == field.key) = [] := by
    rw [List.filter_eq_nil_iff]
    intro member found
    simpa using foreign member found field
  have same := (shuffled.filter fun member => member.name == field.key).map
    fun member => member.element.value
  rwa [List.filter_append, none, List.append_nil] at same

/-- Where every field has its key once, its value is the one that stands there. -/
theorem forall₂_iff_valuesAt
    {holds : Field → Value → Prop}
    {fields : List Field}
    {members : List NamedMember}
    (distinct : fields.Nodup)
    (keys : members.map (fun member => member.name) = fields.map Field.key) :
    List.Forall₂ (fun field member => holds field member.element.value) fields members ↔
      ∀ field ∈ fields, ∃ value, valuesAt field.key members = [value] ∧ holds field value := by
  induction fields generalizing members with
  | nil =>
      rw [List.map_nil, List.map_eq_nil_iff] at keys
      simp [keys]
  | cons field fields inductionHypothesis =>
      obtain ⟨member, others, rfl, named, othersNamed⟩ := List.map_eq_cons_iff.mp keys
      obtain ⟨fresh, othersDistinct⟩ := List.nodup_cons.mp distinct
      have single : valuesAt field.key (member :: others) = [member.element.value] := by
        have absent : others.filter (fun other => other.name == field.key) = [] := by
          rw [List.filter_eq_nil_iff]
          intro other found
          obtain ⟨later, laterIn, key⟩ :=
            List.mem_map.mp (othersNamed ▸ List.mem_map_of_mem found)
          simp only [beq_iff_eq]
          rw [← key]
          exact fun same => fresh (Field.key_inj.mp same ▸ laterIn)
        rw [valuesAt_cons_same named, valuesAt, absent, List.map_nil]
      have behind {other : Field} (later : other ∈ fields) :
          valuesAt other.key (member :: others) = valuesAt other.key others := by
        refine valuesAt_cons_other ?_ others
        rw [named]
        intro same
        exact fresh (Field.key_inj.mp same ▸ later)
      have first :
          (∃ value, valuesAt field.key (member :: others) = [value] ∧ holds field value) ↔
            holds field member.element.value := by
        simp [single]
      rw [List.forall₂_cons, inductionHypothesis othersDistinct othersNamed,
        List.forall_mem_cons, first]
      exact and_congr_right fun _ => forall₂_congr fun other later => by rw [behind later]

/-- An array is read like an object that has its elements under the keys of all fields. -/
theorem toOption_read_array_eq
    {elements : List Element}
    {members : List NamedMember}
    (keys : members.map (fun member => member.name) = Field.all.map Field.key)
    (values :
      members.map (fun member => member.element.value) =
        elements.map fun element => element.value)
    (arrayFrame objectFrame : Frame) :
    (read (arrayFrame.array elements)).toOption = (read (objectFrame.object members)).toOption := by
  refine Option.ext fun report => ?_
  let holds (field : Field) (value : Value) : Prop := form? field value = some (report.get field)
  have onValues :
      List.Forall₂ (fun field element => holds field element.value) Field.all elements ↔
        List.Forall₂ (fun field member => holds field member.element.value) Field.all members := by
    rw [← List.forall₂_map_right_iff, ← values, List.forall₂_map_right_iff]
  rw [toOption_eq_some, toOption_eq_some, read_array_eq_ok, read_object_eq_ok]
  refine onValues.trans ((forall₂_iff_valuesAt (by decide) keys).trans ?_)
  exact ⟨fun all field => all field field.mem_all, fun all field _ => all field⟩

/-- Neither the order of the members nor members under other keys matter. -/
theorem toOption_read_object_eq
    {members extra others : List NamedMember}
    (shuffled : (members ++ extra).Perm others)
    (foreign : ∀ member ∈ extra, ∀ field : Field, member.name ≠ field.key)
    (frame otherFrame : Frame) :
    (read (otherFrame.object others)).toOption = (read (frame.object members)).toOption := by
  refine Option.ext fun report => ?_
  rw [toOption_eq_some, toOption_eq_some, read_object_eq_ok, read_object_eq_ok]
  refine forall_congr' fun field => exists_congr fun value => and_congr_left fun _ => ?_
  have same := valuesAt_of_perm shuffled foreign field
  constructor
  · intro single
    exact List.perm_singleton.mp (single ▸ same)
  · intro single
    exact List.singleton_perm.mp (single ▸ same) |>.symm

/--
Which JSON is accepted for a report, over all JSON objects and arrays, whatever blanks stand
between their tokens.

An object is accepted exactly if every field's key occurs once and its value has the
field's form, and the report has these values.  Its members may stand in any order, and any
members under other keys may stand among them.  An array is accepted exactly if it has one
element for each field, each of the field's form, in the order of declaration, and what is
read is what an object with these values is read as.
-/
theorem read_accepts_forms :
    (∀ (frame : Frame) (members : List NamedMember),
      ((∃ report, read (frame.object members) = .ok report) ↔
        ∀ field : Field, ∃ value,
          valuesAt field.key members = [value] ∧ (form? field value).isSome = true) ∧
      (∀ report,
        read (frame.object members) = .ok report ↔
          ∀ field : Field, ∃ value,
            valuesAt field.key members = [value] ∧
              form? field value = some (report.get field)) ∧
      ∀ (otherFrame : Frame) (extra others : List NamedMember),
        (members ++ extra).Perm others →
        (∀ member ∈ extra, ∀ field : Field, member.name ≠ field.key) →
        (read (otherFrame.object others)).toOption =
          (read (frame.object members)).toOption) ∧
    ∀ (frame : Frame) (elements : List Element),
      ((∃ report, read (frame.array elements) = .ok report) ↔
        List.Forall₂ (fun field element => (form? field element.value).isSome = true)
          Field.all elements) ∧
      (∀ report,
        read (frame.array elements) = .ok report ↔
          List.Forall₂ (fun field element => form? field element.value = some (report.get field))
            Field.all elements) ∧
      ∀ (objectFrame : Frame) (members : List NamedMember),
        members.map (fun member => member.name) = Field.all.map Field.key →
        members.map (fun member => member.element.value) =
          elements.map (fun element => element.value) →
        (read (frame.array elements)).toOption =
          (read (objectFrame.object members)).toOption := by
  refine ⟨fun frame members => ⟨exists_read_object, fun _ => read_object_eq_ok, ?_⟩,
    fun frame elements => ⟨exists_read_array, fun _ => read_array_eq_ok, ?_⟩⟩
  · intro otherFrame extra others shuffled foreign
    exact toOption_read_object_eq shuffled foreign frame otherFrame
  · intro objectFrame members keys values
    exact toOption_read_array_eq keys values frame objectFrame

/-- An integer without blanks. -/
def plainInteger (value : Int) : Element :=
  ⟨[], .number ⟨value < 0, value.natAbs, none, none⟩, []⟩

/-- The fields of `extremes` as elements. -/
def extremeElement : Field → Element
  | .sampleRate => plainInteger 4294967295
  | .altSetting => plainInteger 255
  | .mute => ⟨[], .array [] [plainInteger (-128), plainInteger 127, plainInteger 0], []⟩
  | .volume => ⟨[], .array [] [plainInteger (-32768), plainInteger 32767, plainInteger 0], []⟩
  | .fifoSize => plainInteger 0
  | .fifoCount => plainInteger 65535
  | .fifoAverage => plainInteger 0

/-- The fields of `extremes` as members. -/
def extremeMembers : List NamedMember :=
  Field.all.map fun field =>
    .plain field.key.toList (by cases field <;> rfl) (extremeElement field)

/--
A member that is no field.  Its value nests brackets, its strings spell no text, and its
number is beyond the range of floating-point numbers.
-/
def stranger : NamedMember where
  before := [.newline]
  key := [.unit ⟨⟨0, false⟩, ⟨0, true⟩, ⟨7, false⟩, ⟨8, false⟩⟩]
  behind := [.tab]
  element :=
    let lone : List Piece := [.unit ⟨⟨13, false⟩, ⟨8, true⟩, ⟨0, false⟩, ⟨0, true⟩⟩]
    ⟨[.space],
      .array [] [
        ⟨[], .object [.carriageReturn] [⟨[], lone, [], ⟨[], .null, []⟩⟩], []⟩,
        ⟨[], .string (.short .slash :: lone), []⟩,
        ⟨[], .number ⟨true, 1, some ⟨5, []⟩, some ⟨true, .plus, ⟨0, [9, 9, 9]⟩⟩⟩, []⟩],
      []⟩
  chars := ['x']
  spelled := rfl

/-- The members in reverse, behind one that is no field, and the elements behind a blank. -/
theorem read_accepts_forms_stranger :
    read
        ("\x7b\n\"\\u0078\"\t: [\x7b\r\"\\ud800\":null\x7d,\"\\/\\ud800\",-1.5E+0999]," ++
          "\"fifo_count_avg\":0,\"fifo_count\":65535,\"fifo_size\":0,\"volume\":[-32768,32767,0]," ++
          "\"mute\":[-128,127,0],\"alt_settings\":255,\"sample_rate\":4294967295\x7d\n") =
      .ok extremes ∧
    read " [4294967295,255,[-128,127,0],[-32768,32767,0],0,65535,0]" = .ok extremes := by
  have members : read (Frame.object ⟨[], [], []⟩ extremeMembers) = .ok extremes :=
    ((read_accepts_forms.1 _ extremeMembers).2.1 extremes).mpr fun field => by
      cases field <;> exact ⟨_, rfl, rfl⟩
  have foreign : ∀ member ∈ [stranger], ∀ field : Field, member.name ≠ field.key := by
    intro member found field
    rw [List.mem_singleton.mp found]
    cases field <;> decide
  have shuffled : (extremeMembers ++ [stranger]).Perm (stranger :: extremeMembers.reverse) := by
    simpa using (List.reverse_perm (extremeMembers ++ [stranger])).symm
  constructor
  · have same :=
      (read_accepts_forms.1 ⟨[], [], []⟩ extremeMembers).2.2 ⟨[], [], [.newline]⟩ [stranger]
        (stranger :: extremeMembers.reverse) shuffled foreign
    rw [members] at same
    refine Eq.trans (congrArg read ?_) (toOption_eq_some.mp same)
    decide +kernel
  · have same :=
      (read_accepts_forms.2 ⟨[.space], [], []⟩ (Field.all.map extremeElement)).2.2 ⟨[], [], []⟩
        extremeMembers rfl rfl
    rw [members] at same
    refine Eq.trans (congrArg read ?_) (toOption_eq_some.mp same)
    decide +kernel

end AudioScope.Report.Json
