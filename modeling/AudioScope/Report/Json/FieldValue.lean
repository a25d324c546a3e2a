import AudioScope.Json.Value
import AudioScope.Report.Json.Problem

namespace AudioScope.Report.Json

/-!
# Values of report fields

`readValue` reads the value of a field: a word, or an array with one word for
each channel.  The text is read from the front, and the first thing in it that
is wrong decides how it is refused; nothing behind it is looked at.
-/

open AudioScope.Json

/-- A value that has been read, and the text behind it. -/
abbrev Reading (α : Type) := Except Refusal (α × List Char)

/-- The problem of a value that has been read to its end and has the wrong type. -/
def mismatch
    {α : Type}
    (wanted : Wanted)
    (found : Found)
    (result : Except Flaw α) :
    Refusal :=
  match result with
  | .error flaw => .text flaw
  | .ok _ => .content (.wrongType found wanted)

/-- What a number is found to be. -/
def Found.ofNumeral : Numeral → Found
  | .integer value => .integer value
  | .decimal value => .decimal value

/--
How a value that cannot be what is wanted is refused.  A word, a string or a
number is read to its end first; brackets are refused at once.
-/
def refuse (wanted : Wanted) : List Char → Refusal
  | [] => .text .unfinished
  | 'n' :: rest => mismatch wanted .null (skipWord ['u', 'l', 'l'] rest)
  | 't' :: rest => mismatch wanted (.boolean true) (skipWord ['r', 'u', 'e'] rest)
  | 'f' :: rest => mismatch wanted (.boolean false) (skipWord ['a', 'l', 's', 'e'] rest)
  | '"' :: rest =>
      match readString rest with
      | .error flaw => .text flaw
      | .ok (chars, _) => .content (.wrongType (.text (String.ofList chars)) wanted)
  | '[' :: _ => .content (.wrongType .sequence wanted)
  | '{' :: _ => .content (.wrongType .map wanted)
  | char :: rest =>
      if char == '-' || char.isDigit then
        match readNumber (char :: rest) with
        | .error flaw => .text flaw
        | .ok (numeral, _) => .content (.wrongType (.ofNumeral numeral) wanted)
      else
        .text .malformed

/-- Whether a text begins like a number. -/
def startsNumber (text : List Char) : Bool :=
  text.head?.any fun char => char == '-' || char.isDigit

/-- The word of a number that has been read. -/
def wordOf
    (α : Type)
    [FixedWidth α] :
    Numeral → Except Refusal α
  | .integer value =>
      match FixedWidth.ofInt? value with
      | some word => .ok word
      | none => .error (.content (.outOfRange value (FixedWidth.format α)))
  | .decimal value =>
      .error (.content (.wrongType (.decimal value) (.word (FixedWidth.format α))))

/-- Read a word. -/
def readWord
    (α : Type)
    [FixedWidth α]
    (text : List Char) :
    Reading α :=
  let text := skipBlanks text
  if startsNumber text then
    match readNumber text with
    | .error flaw => .error (.text flaw)
    | .ok (numeral, rest) => (wordOf α numeral).map fun word => (word, rest)
  else
    .error (refuse (.word (FixedWidth.format α)) text)

/-- What comes next within brackets. -/
inductive Next where
  /-- The closing bracket; the text behind it. -/
  | closed (rest : List Char)
  /-- An element, or a key behind its opening quote; the text from there on. -/
  | item (text : List Char)
  deriving Repr, DecidableEq

/-- Find the next element of an array. -/
def nextElement
    (first : Bool)
    (text : List Char) :
    Except Flaw Next :=
  match skipBlanks text with
  | [] => .error .unfinished
  | char :: rest =>
      if char = ']' then
        .ok (.closed rest)
      else if first then
        .ok (.item (char :: rest))
      else if char = ',' then
        match skipBlanks rest with
        | [] => .error .unfinished
        | char :: rest => if char = ']' then .error .malformed else .ok (.item (char :: rest))
      else
        .error .malformed

/-- Read the element with a given index, of which there must be one. -/
def readElement
    {α : Type}
    (wanted : Wanted)
    (index : Nat)
    (read : List Char → Reading α)
    (text : List Char) :
    Reading α :=
  match nextElement (index == 0) text with
  | .error flaw => .error (.text flaw)
  | .ok (.closed _) => .error (.content (.tooShort index wanted))
  | .ok (.item text) => read text

/-- Close an array that has all its elements. -/
def closeArray (text : List Char) : Except Refusal (List Char) :=
  match skipBlanks text with
  | [] => .error (.text .unfinished)
  | ']' :: rest => .ok rest
  | _ => .error (.text .malformed)

/-- Read the values of all channels. -/
def readPerChannel
    (α : Type)
    [FixedWidth α]
    (text : List Char) :
    Except Refusal (PerChannel α × List Char) :=
  match skipBlanks text with
  | '[' :: text => do
      let (master, text) ← readElement .perChannel 0 (readWord α) text
      let (first, text) ← readElement .perChannel 1 (readWord α) text
      let (second, text) ← readElement .perChannel 2 (readWord α) text
      let rest ← closeArray text
      return (⟨master, first, second⟩, rest)
  | text => .error (refuse .perChannel text)

/-- Read the value of a field. -/
def readValue : (field : Field) → List Char → Reading field.Value
  | .sampleRate => readWord UInt32
  | .altSetting => readWord UInt8
  | .mute => readPerChannel Int8
  | .volume => readPerChannel Int16
  | .fifoSize => readWord UInt16
  | .fifoCount => readWord UInt16
  | .fifoAverage => readWord UInt16

theorem length_le_of_readWord
    {α : Type}
    [FixedWidth α]
    {text rest : List Char}
    {word : α}
    (read : readWord α text = .ok (word, rest)) :
    rest.length ≤ text.length := by
  have blanks := length_skipBlanks_le text
  simp only [readWord] at read
  split at read
  · split at read
    · cases read
    · next numeral tail number =>
      have shorter := length_le_of_readNumber number
      cases converted : wordOf α numeral with
      | error refusal =>
          rw [converted] at read
          cases read
      | ok found =>
          rw [converted] at read
          cases read
          omega
  · cases read

/-- An element stands within the text of its array. -/
theorem length_le_of_nextElement
    {first : Bool}
    {text item : List Char}
    (next : nextElement first text = .ok (.item item)) :
    item.length ≤ text.length := by
  unfold nextElement at next
  split at next
  · cases next
  · next found =>
    have shorter := length_lt_of_skipBlanks found
    split at next
    · cases next
    · split at next
      · cases next
        exact shorter
      · split at next
        · split at next
          · cases next
          · next found' =>
            have shortest := length_lt_of_skipBlanks found'
            split at next
            · cases next
            · cases next
              simp only [List.length_cons]
              omega
        · cases next

/-- Reading an element makes no text longer if reading its value does not. -/
theorem length_le_of_readElement
    {α : Type}
    {wanted : Wanted}
    {index : Nat}
    {read : List Char → Reading α}
    {text rest : List Char}
    {value : α}
    (bound :
      ∀ {text rest : List Char} {value : α},
        read text = .ok (value, rest) → rest.length ≤ text.length)
    (element : readElement wanted index read text = .ok (value, rest)) :
    rest.length ≤ text.length := by
  unfold readElement at element
  split at element
  · cases element
  · cases element
  · next item => exact Nat.le_trans (bound element) (length_le_of_nextElement item)

/-- Closing an array makes no text longer. -/
theorem length_le_of_closeArray
    {text rest : List Char}
    (closed : closeArray text = .ok rest) :
    rest.length ≤ text.length := by
  unfold closeArray at closed
  split at closed
  · cases closed
  · next found =>
    cases closed
    exact Nat.le_of_lt (length_lt_of_skipBlanks found)
  · cases closed

/-- Reading the values of all channels makes no text longer. -/
theorem length_le_of_readPerChannel
    {α : Type}
    [FixedWidth α]
    {text rest : List Char}
    {values : PerChannel α}
    (read : readPerChannel α text = .ok (values, rest)) :
    rest.length ≤ text.length := by
  unfold readPerChannel at read
  split at read
  · next start found =>
    have begins := length_lt_of_skipBlanks found
    simp only [bind, Except.bind] at read
    split at read
    · cases read
    · next master element0 =>
      have shorter0 := length_le_of_readElement length_le_of_readWord element0
      split at read
      · cases read
      · next first element1 =>
        have shorter1 := length_le_of_readElement length_le_of_readWord element1
        split at read
        · cases read
        · next second element2 =>
          have shorter2 := length_le_of_readElement length_le_of_readWord element2
          split at read
          · cases read
          · next closed =>
            have shorter3 := length_le_of_closeArray closed
            cases read
            omega
  · cases read

/-- Reading the value of a field makes no text longer. -/
theorem length_le_of_readValue
    {field : Field}
    {text rest : List Char}
    {value : field.Value}
    (read : readValue field text = .ok (value, rest)) :
    rest.length ≤ text.length := by
  cases field with
  | sampleRate => exact length_le_of_readWord (α := UInt32) read
  | altSetting => exact length_le_of_readWord (α := UInt8) read
  | mute => exact length_le_of_readPerChannel (α := Int8) read
  | volume => exact length_le_of_readPerChannel (α := Int16) read
  | fifoSize => exact length_le_of_readWord (α := UInt16) read
  | fifoCount => exact length_le_of_readWord (α := UInt16) read
  | fifoAverage => exact length_le_of_readWord (α := UInt16) read

end AudioScope.Report.Json
