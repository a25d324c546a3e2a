import AudioScope.Text.Quoted

namespace AudioScope.CommandLine

/-!
# Values of parameters

Values are given as text: a number is read in decimal with an optional sign and
has to fit 32 bits without a sign, and a name has to be an identifier of C.
-/

/-- Why a text is no value. -/
inductive ValueFlaw where
  | empty
  | invalidDigit
  | tooLarge
  | tooSmall
  | outOfRange (value : Int)
  | noIdentifier (text : String)
  deriving Repr, DecidableEq

/-- The greatest number that a parameter takes. -/
def maxNumber : Nat := Nat.pow 2 32 - 1

/-- What is said about a text that is no value. -/
def ValueFlaw.message : ValueFlaw → String
  | empty => "cannot parse integer from empty string"
  | invalidDigit => "invalid digit found in string"
  | tooLarge => "number too large to fit in target type"
  | tooSmall => "number too small to fit in target type"
  | outOfRange value => s!"{value} is not in 0..={maxNumber}"
  | noIdentifier text => Text.quote text ++ " is not a valid C identifier"

/--
The value of some digits, which must not grow beyond a limit.  The digits are
read from the left, and the first one that is wrong or that is too much decides.
-/
def readDigits
    (limit : Nat)
    (overflow : ValueFlaw)
    (value : Nat) :
    List Char → Except ValueFlaw Nat
  | [] => .ok value
  | char :: rest =>
      if char.isDigit then
        let grown := value * 10 + (char.toNat - '0'.toNat)
        if limit < grown then .error overflow else readDigits limit overflow grown rest
      else
        .error .invalidDigit

/-- The integer of a text, which has to fit 64 bits with a sign. -/
def readInteger : List Char → Except ValueFlaw Int
  | [] => .error .empty
  | ['+'] => .error .invalidDigit
  | ['-'] => .error .invalidDigit
  | '+' :: digits =>
      (readDigits (Nat.pow 2 63 - 1) .tooLarge 0 digits).map fun value => (value : Int)
  | '-' :: digits =>
      (readDigits (Nat.pow 2 63) .tooSmall 0 digits).map fun value => -(value : Int)
  | digits =>
      (readDigits (Nat.pow 2 63 - 1) .tooLarge 0 digits).map fun value => (value : Int)

/-- The number of a text. -/
def readNumber (text : String) : Except ValueFlaw UInt32 :=
  match readInteger text.toList with
  | .error flaw => .error flaw
  | .ok value =>
      if 0 ≤ value ∧ value ≤ maxNumber then
        .ok (UInt32.ofNat value.toNat)
      else
        .error (.outOfRange value)

/-- Whether a character may begin an identifier: an ASCII letter or an underscore. -/
def isIdentifierStart (char : Char) : Bool :=
  char.isAlpha || char == '_'

/-- Whether a character may continue an identifier: also an ASCII digit. -/
def isIdentifierRest (char : Char) : Bool :=
  char.isAlphanum || char == '_'

/-- Whether a text is an identifier. -/
def isIdentifier : List Char → Bool
  | [] => false
  | first :: rest => isIdentifierStart first && rest.all isIdentifierRest

/-- The name of a text. -/
def readName (text : String) : Except ValueFlaw String :=
  if isIdentifier text.toList then .ok text else .error (.noIdentifier text)

end AudioScope.CommandLine
