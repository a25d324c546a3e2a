import AudioScope.Report.Json.FieldValue
import AudioScope.Report.Json.Form

namespace AudioScope

/-!
# What is wrong with an object

An object is read up to the first thing in it that is wrong.  Told on the text alone:
behind members that are in order this is a key that occurs again, a value that does not
have the form of its field, or a closing bracket with a field missing.  Of the value only
as much belongs to it as shows the problem.
-/

/-- What a number is read as, or its flaw if it is beyond the floating-point numbers. -/
def Json.Number.numeral (number : Json.Number) : Except Json.Flaw Json.Numeral :=
  (Json.readNumber number.text).map Prod.fst

namespace Report.Json

open AudioScope.Json

/--
A text that shows what a value is found to be, whatever follows, or how the value is flawed.
A number is shown by the character that ends it, an array or an object by its opening
bracket.
-/
inductive Shows : List Char → Except Flaw Found → Prop where
  | null : Shows (Value.text .null) (.ok .null)
  | boolean (value : Bool) : Shows (Value.text (.boolean value)) (.ok (.boolean value))
  | string
      {pieces : List Piece}
      {chars : List Char}
      (spelled : spelled? pieces = some chars) :
      Shows (quotedText pieces) (.ok (.text (String.ofList chars)))
  /-- A surrogate without its partner spells no text. -/
  | surrogate
      {pieces : List Piece}
      (lone : spelled? pieces = none) :
      Shows (quotedText pieces) (.error .malformed)
  | number
      (number : Number)
      {delimiter : Char}
      (ends : number.continues delimiter = false) :
      Shows (number.text ++ [delimiter]) (number.numeral.map .ofNumeral)
  | sequence : Shows ['['] (.ok .sequence)
  | map : Shows ['\x7b'] (.ok .map)

/-- How a value is refused that is not what is wanted. -/
def Wanted.refusal (wanted : Wanted) : Except Flaw Found → Refusal
  | .error flaw => .text flaw
  | .ok found => .content (.wrongType found wanted)

/-- A text for which no word can be read, whatever follows, and how it is refused. -/
inductive SpoilsWord
    (α : Type)
    [FixedWidth α] :
    List Char → Refusal → Prop where
  | outOfRange
      {text : List Char}
      {value : Int}
      (shows : Shows text (.ok (.integer value)))
      (outside :
        value < (FixedWidth.format α).lowest ∨ (FixedWidth.format α).highest < value) :
      SpoilsWord α text (.content (.outOfRange value (FixedWidth.format α)))
  | foreign
      {text : List Char}
      {found : Except Flaw Found}
      (shows : Shows text found)
      (noInteger : ∀ value, found ≠ .ok (.integer value)) :
      SpoilsWord α text ((Wanted.word (FixedWidth.format α)).refusal found)

/-- Less elements than there are channels, all of them words. -/
structure Beginning
    (α : Type)
    [FixedWidth α]
    (elements : List Element) : Prop where
  words : ∀ element ∈ elements, (wordForm? α element.value).isSome = true
  few : elements.length < PerChannel.slots

/-- A text for which no values of all channels can be read, whatever follows. -/
inductive SpoilsPerChannel
    (α : Type)
    [FixedWidth α] :
    List Char → Refusal → Prop where
  | foreign
      {text : List Char}
      {found : Except Flaw Found}
      (shows : Shows text found)
      (noSequence : found ≠ .ok .sequence) :
      SpoilsPerChannel α text (Wanted.perChannel.refusal found)
  /-- The closing bracket. -/
  | tooShort
      (inner : List Blank)
      {elements : List Element}
      (beginning : Beginning α elements) :
      SpoilsPerChannel α
        ('[' :: (blankText inner ++ (elementsText true elements ++ [']'])))
        (.content (.tooShort elements.length .perChannel))
  /-- An element that is no word. -/
  | element
      (inner : List Blank)
      {elements : List Element}
      (beginning : Beginning α elements)
      (before : List Blank)
      {text : List Char}
      {refusal : Refusal}
      (spoils : SpoilsWord α text refusal) :
      SpoilsPerChannel α
        ('[' :: (blankText inner ++ (elementsText true elements ++
          (comma elements.isEmpty ++ (blankText before ++ text)))))
        refusal

/-- A text for which no value of a field can be read, whatever follows, and how it is refused. -/
def Spoils : Field → List Char → Refusal → Prop
  | .sampleRate => SpoilsWord UInt32
  | .altSetting => SpoilsWord UInt8
  | .mute => SpoilsPerChannel Int8
  | .volume => SpoilsPerChannel Int16
  | .fifoSize => SpoilsWord UInt16
  | .fifoCount => SpoilsWord UInt16
  | .fifoAverage => SpoilsWord UInt16

/-- Members in which no field's key occurs twice, and each one's value has the field's form. -/
def InOrder (members : List NamedMember) : Prop :=
  ∀ field : Field,
    valuesAt field.key members = [] ∨
      ∃ value, valuesAt field.key members = [value] ∧ (form? field value).isSome = true

/-- The first field in the order of declaration that no member gives. -/
def firstMissing? (members : List NamedMember) : Option Field :=
  Field.all.find? fun field => (valuesAt field.key members).isEmpty

/-- An object up to the end of some of its members. -/
def openingText
    (before inner : List Blank)
    (members : List NamedMember) :
    List Char :=
  blankText before ++ '{' :: (blankText inner ++
    membersText true (members.map NamedMember.toMember))

/-- A further key behind some members, up to its closing quote. -/
def furtherKey
    (members : List NamedMember)
    (before : List Blank)
    (key : List Piece) :
    List Char :=
  comma members.isEmpty ++ (blankText before ++ quotedText key)

/-- A text behind some members for which their object is refused, whatever follows, and how. -/
inductive Offends (members : List NamedMember) : List Char → Refusal → Prop where
  /-- The key of a field that a member gives already. -/
  | duplicate
      {field : Field}
      (given : valuesAt field.key members ≠ [])
      (before : List Blank)
      {key : List Piece}
      (spelled : spelled? key = some field.key.toList) :
      Offends members (furtherKey members before key) (.content (.duplicate field))
  /-- A value that does not have the form of its field. -/
  | value
      {field : Field}
      (unknown : valuesAt field.key members = [])
      (before : List Blank)
      {key : List Piece}
      (spelled : spelled? key = some field.key.toList)
      (behind front : List Blank)
      {text : List Char}
      {refusal : Refusal}
      (spoils : Spoils field text refusal) :
      Offends members
        (furtherKey members before key ++ (blankText behind ++ ':' :: (blankText front ++ text)))
        refusal
  /-- The closing bracket. -/
  | missing
      {field : Field}
      (first : firstMissing? members = some field) :
      Offends members ['\x7d'] (.content (.missing field))

end Report.Json

end AudioScope
