import AudioScope.Json.Text

namespace AudioScope.Json

/-!
# The grammar of JSON

Every JSON text is the text of a syntax tree.  A tree keeps what no reader cares
about as well: the blanks between tokens, and how numbers and strings are spelled.
So a statement about all trees is a statement about all JSON texts.
-/

/-- A character that may stand between tokens. -/
inductive Blank where
  | space
  | newline
  | tab
  | carriageReturn
  deriving Repr, DecidableEq

/-- The character itself. -/
def Blank.char : Blank → Char
  | space => ' '
  | newline => '\n'
  | tab => '\t'
  | carriageReturn => '\r'

/-- The text of some blanks. -/
def blankText (blanks : List Blank) : List Char :=
  blanks.map Blank.char

/-- The comma in front of all but a first item. -/
def comma (first : Bool) : List Char :=
  if first then [] else [',']

/-- One digit or more; zeros may stand in front. -/
structure Digits where
  first : Fin 10
  more : List (Fin 10)
  deriving Repr, DecidableEq

/-- The digits as characters. -/
def Digits.text (digits : Digits) : List Char :=
  (digits.first :: digits.more).map fun digit : Fin 10 => Nat.digitChar digit

/-- The sign of an exponent, which may be left out. -/
inductive ExponentSign where
  | absent
  | plus
  | minus
  deriving Repr, DecidableEq

/-- The sign as it is written. -/
def ExponentSign.text : ExponentSign → List Char
  | absent => []
  | plus => ['+']
  | minus => ['-']

/-- A power of ten behind a number, its mark in either case. -/
structure Exponent where
  capital : Bool
  sign : ExponentSign
  digits : Digits
  deriving Repr, DecidableEq

/-- The mark, the sign and the digits. -/
def Exponent.text (exponent : Exponent) : List Char :=
  (if exponent.capital then 'E' else 'e') :: (exponent.sign.text ++ exponent.digits.text)

/-- A number as it is spelled; its integer part has no zeros in front. -/
structure Number where
  negative : Bool
  whole : Nat
  fraction : Option Digits
  exponent : Option Exponent
  deriving Repr, DecidableEq

namespace Number

/-- A fraction and an exponent, as far as there are any. -/
def tail (number : Number) : List Char :=
  (number.fraction.elim [] fun digits => '.' :: digits.text) ++
    number.exponent.elim [] Exponent.text

/-- The text of a number. -/
def text (number : Number) : List Char :=
  (if number.negative then ['-'] else []) ++ Nat.toDigits 10 number.whole ++ number.tail

/-- The integer that a number spells without a fraction and an exponent; a negative zero is none. -/
def integer? (number : Number) : Option Int :=
  if number.fraction.isSome || number.exponent.isSome then
    none
  else if !number.negative then
    some number.whole
  else if number.whole = 0 then
    none
  else
    some (-number.whole)

/-- Whether a number, as it is spelled so far, goes on with a character. -/
def continues
    (number : Number)
    (char : Char) : Bool :=
  char.isDigit ||
    number.exponent.isNone &&
      (char == 'e' || char == 'E' || number.fraction.isNone && char == '.')

end Number

/-- The escapes that are a backslash and one letter. -/
inductive ShortEscape where
  | quote
  | backslash
  | slash
  | backspace
  | formFeed
  | newline
  | carriageReturn
  | tab
  deriving Repr, DecidableEq

namespace ShortEscape

/-- The letter behind the backslash. -/
def letter : ShortEscape → Char
  | quote => '"'
  | backslash => '\\'
  | slash => '/'
  | backspace => 'b'
  | formFeed => 'f'
  | newline => 'n'
  | carriageReturn => 'r'
  | tab => 't'

/-- The character that the escape stands for. -/
def char : ShortEscape → Char
  | quote => '"'
  | backslash => '\\'
  | slash => '/'
  | backspace => '\x08'
  | formFeed => '\x0c'
  | newline => '\n'
  | carriageReturn => '\r'
  | tab => '\t'

end ShortEscape

/-- A hexadecimal digit in either case. -/
structure HexDigit where
  value : Fin 16
  capital : Bool
  deriving Repr, DecidableEq

/-- The digit as a character. -/
def HexDigit.char (digit : HexDigit) : Char :=
  if digit.capital then (Nat.digitChar digit.value).toUpper else Nat.digitChar digit.value

/-- A code unit, spelled with four hexadecimal digits. -/
structure CodeUnit where
  first : HexDigit
  second : HexDigit
  third : HexDigit
  fourth : HexDigit
  deriving Repr, DecidableEq

namespace CodeUnit

/-- The digits as characters. -/
def text (unit : CodeUnit) : List Char :=
  [unit.first.char, unit.second.char, unit.third.char, unit.fourth.char]

/-- The value of the digits. -/
def value (unit : CodeUnit) : Nat :=
  ((unit.first.value * 16 + unit.second.value) * 16 + unit.third.value) * 16 + unit.fourth.value

end CodeUnit

/-- One character of a string as it is spelled, or one half of a pair of surrogates. -/
inductive Piece where
  | plain (char : Char) (allowed : char ≠ '"' ∧ char ≠ '\\' ∧ 0x20 ≤ char.toNat)
  | short (escape : ShortEscape)
  | unit (digits : CodeUnit)
  deriving Repr, DecidableEq

/-- The text of one piece. -/
def Piece.text : Piece → List Char
  | .plain char _ => [char]
  | .short escape => ['\\', escape.letter]
  | .unit digits => '\\' :: 'u' :: digits.text

/-- A string between its quotes. -/
def quotedText (pieces : List Piece) : List Char :=
  '"' :: (pieces.flatMap Piece.text ++ ['"'])

/--
The characters that a string spells.  Two surrogates spell one character, and
there is none for a surrogate without its partner.
-/
def spelled? : List Piece → Option (List Char)
  | [] => some []
  | .plain char _ :: pieces => (spelled? pieces).map (char :: ·)
  | .short escape :: pieces => (spelled? pieces).map (escape.char :: ·)
  | .unit unit :: pieces =>
      if isTrailing unit.value then
        none
      else if isLeading unit.value then
        match pieces with
        | .unit partner :: pieces =>
            if isTrailing partner.value then
              (spelled? pieces).map (pairedChar unit.value partner.value :: ·)
            else
              none
        | _ => none
      else
        (spelled? pieces).map (Char.ofNat unit.value :: ·)

mutual

/-- A JSON value.  Blanks behind an opening bracket are kept apart from what follows them. -/
inductive Value where
  | null
  | boolean (value : Bool)
  | number (number : Number)
  | string (pieces : List Piece)
  | array (inner : List Blank) (elements : List Element)
  | object (inner : List Blank) (members : List Member)

/-- A value among blanks: a whole document, or what stands between two commas of an array. -/
structure Element where
  before : List Blank
  value : Value
  behind : List Blank

/-- A key among blanks, a colon and a value among blanks. -/
structure Member where
  before : List Blank
  key : List Piece
  behind : List Blank
  element : Element

end

mutual

/-- The text of a value. -/
def Value.text : Value → List Char
  | .null => ['n', 'u', 'l', 'l']
  | .boolean true => ['t', 'r', 'u', 'e']
  | .boolean false => ['f', 'a', 'l', 's', 'e']
  | .number number => number.text
  | .string pieces => quotedText pieces
  | .array inner elements => '[' :: (blankText inner ++ (elementsText true elements ++ [']']))
  | .object inner members => '{' :: (blankText inner ++ (membersText true members ++ ['}']))

/-- The text of a value among its blanks. -/
def Element.text : Element → List Char
  | ⟨before, value, behind⟩ => blankText before ++ (value.text ++ blankText behind)

/-- The text of a member. -/
def Member.text : Member → List Char
  | ⟨before, key, behind, element⟩ =>
      blankText before ++ (quotedText key ++ (blankText behind ++ ':' :: element.text))

/-- The text of some elements, with a comma in front of all but a first one. -/
def elementsText (first : Bool) : List Element → List Char
  | [] => []
  | element :: elements =>
      (if first then [] else [',']) ++ (element.text ++ elementsText false elements)

/-- The text of some members, with a comma in front of all but a first one. -/
def membersText (first : Bool) : List Member → List Char
  | [] => []
  | member :: members =>
      (if first then [] else [',']) ++ (member.text ++ membersText false members)

end

/--
A member whose key spells a text.  Where keys are told apart by their texts, a surrogate
without its partner makes no key.
-/
structure NamedMember extends Member where
  chars : List Char
  spelled : spelled? key = some chars

/-- The text that the key spells. -/
def NamedMember.name (member : NamedMember) : String :=
  String.ofList member.chars

end AudioScope.Json
