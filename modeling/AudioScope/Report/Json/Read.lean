import AudioScope.Report.Json.FieldValue

namespace AudioScope.Report.Json

/-!
# Reports read from JSON

A report is read from an object with its seven fields in any order, or from an
array of their values in the order of declaration.  Members with other keys are
passed over.  A field that occurs again is refused at its key; a field that is
missing is noticed where the object ends.
-/

open AudioScope.Json

/-- Find the next key of an object. -/
def nextKey
    (first : Bool)
    (text : List Char) :
    Except Flaw Next :=
  match skipBlanks text with
  | [] => .error .unfinished
  | '}' :: rest => .ok (.closed rest)
  | '"' :: key => if first then .ok (.item key) else .error .malformed
  | ',' :: rest =>
      if first then
        .error .malformed
      else
        match skipBlanks rest with
        | [] => .error .unfinished
        | '"' :: key => .ok (.item key)
        | _ => .error .malformed
  | _ => .error .malformed

/-- A key stands within the text of its object. -/
theorem length_lt_of_nextKey
    {first : Bool}
    {text key : List Char}
    (next : nextKey first text = .ok (.item key)) :
    key.length < text.length := by
  unfold nextKey at next
  split at next
  · cases next
  · cases next
  · next found =>
    split at next
    · cases next
      exact length_lt_of_skipBlanks found
    · cases next
  · next found =>
    have shorter := length_lt_of_skipBlanks found
    split at next
    · cases next
    · split at next
      · cases next
      · next found' =>
        cases next
        exact Nat.lt_trans (length_lt_of_skipBlanks found') shorter
      · cases next
  · cases next

/-- Pass over the value of a member that is no field. -/
def skipMember (text : List Char) : Except Flaw (List Char) :=
  match skipColon text with
  | .error flaw => .error flaw
  | .ok value => skipValue value

theorem length_le_of_skipMember
    {text rest : List Char}
    (skipped : skipMember text = .ok rest) :
    rest.length ≤ text.length := by
  unfold skipMember at skipped
  split at skipped
  · cases skipped
  · next colon =>
    have shorter := length_lt_of_skipColon colon
    have shortest := length_le_of_skipValue skipped
    omega

/-- Read the value of a member that is a field, unless the field is known already. -/
def readField
    (draft : Draft)
    (field : Field)
    (text : List Char) :
    Reading Draft :=
  if (draft field).isSome then
    .error (.content (.duplicate field))
  else
    match skipColon text with
    | .error flaw => .error (.text flaw)
    | .ok text =>
        match readValue field text with
        | .error refusal => .error refusal
        | .ok (value, rest) => .ok (draft.put field value, rest)

theorem length_le_of_readField
    {draft filled : Draft}
    {field : Field}
    {text rest : List Char}
    (read : readField draft field text = .ok (filled, rest)) :
    rest.length ≤ text.length := by
  unfold readField at read
  split at read
  · cases read
  · split at read
    · cases read
    · next colon =>
      have shorter := length_lt_of_skipColon colon
      split at read
      · cases read
      · next value =>
        have shortest := length_le_of_readValue value
        simp only [Except.ok.injEq, Prod.mk.injEq] at read
        obtain ⟨_, rfl⟩ := read
        omega

/-- Read a member behind the opening quote of its key. -/
def readMember
    (draft : Draft)
    (text : List Char) :
    Reading Draft :=
  match readString text with
  | .error flaw => .error (.text flaw)
  | .ok (key, text) =>
      match Field.ofKey? (String.ofList key) with
      | some field => readField draft field text
      | none =>
          match skipMember text with
          | .error flaw => .error (.text flaw)
          | .ok rest => .ok (draft, rest)

theorem length_lt_of_readMember
    {draft filled : Draft}
    {text rest : List Char}
    (read : readMember draft text = .ok (filled, rest)) :
    rest.length < text.length := by
  unfold readMember at read
  split at read
  · cases read
  · next key =>
    have shorter := length_lt_of_readString key
    split at read
    · exact Nat.lt_of_le_of_lt (length_le_of_readField read) shorter
    · split at read
      · cases read
      · next skipped =>
        simp only [Except.ok.injEq, Prod.mk.injEq] at read
        obtain ⟨_, rfl⟩ := read
        exact Nat.lt_of_le_of_lt (length_le_of_skipMember skipped) shorter

/-- Read the members of an object up to its closing bracket. -/
def readMembers
    (first : Bool)
    (draft : Draft)
    (text : List Char) :
    Reading Draft :=
  match _next : nextKey first text with
  | .error flaw => .error (.text flaw)
  | .ok (.closed rest) => .ok (draft, rest)
  | .ok (.item key) =>
      match _member : readMember draft key with
      | .error refusal => .error refusal
      | .ok (filled, rest) => readMembers false filled rest
termination_by text.length
decreasing_by
  exact Nat.lt_trans (length_lt_of_readMember _member) (length_lt_of_nextKey _next)

/-- Read the values of some fields as elements of an array; the first one has a given index. -/
def readElements
    (draft : Draft)
    (index : Nat) :
    List Field → List Char → Reading Draft
  | [], text => .ok (draft, text)
  | field :: fields, text =>
      match readElement .report index (readValue field) text with
      | .error refusal => .error refusal
      | .ok (value, rest) => readElements (draft.put field value) (index + 1) fields rest

/-- The report of a draft, in which no field may be missing. -/
def complete (draft : Draft) : Except Refusal Report :=
  match draft.report? with
  | .ok report => .ok report
  | .error field => .error (.content (.missing field))

/-- Read a report from the front of a text. -/
def readReport (text : List Char) : Except Refusal (Report × List Char) :=
  match skipBlanks text with
  | '{' :: text => do
      let (draft, rest) ← readMembers true .blank text
      let report ← complete draft
      return (report, rest)
  | '[' :: text => do
      let (draft, text) ← readElements .blank 0 Field.all text
      let report ← complete draft
      let rest ← closeArray text
      return (report, rest)
  | text => .error (refuse .report text)

/-- The report of a JSON text, behind which only blanks may follow. -/
def read (text : String) : Except Refusal Report :=
  match readReport text.toList with
  | .error refusal => .error refusal
  | .ok (report, rest) =>
      if (skipBlanks rest).isEmpty then .ok report else .error (.text .malformed)

end AudioScope.Report.Json
