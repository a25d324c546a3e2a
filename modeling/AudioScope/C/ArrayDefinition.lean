namespace AudioScope.C

/-!
# Array definitions in C

A text of C is cut into tokens, each as long as it can be, with white space between them
where there is any.  From the tokens an array definition is read: a type, the name of the
array, empty brackets, and the values in braces.  `IsInt16Array` says which texts define an
array of 16-bit integers.
-/

/-- A token: a word, which may be a keyword, an integer constant, or a punctuator. -/
inductive Token where
  | word (name : String)
  | constant (value : Nat)
  | mark (char : Char)
  deriving Repr, DecidableEq

/-- Whether a character is an ASCII letter or an underscore. -/
def isNondigit (char : Char) : Bool :=
  ('a' ≤ char && char ≤ 'z') || ('A' ≤ char && char ≤ 'Z') || char == '_'

/-- Whether a character continues a word. -/
def continuesWord (char : Char) : Bool :=
  isNondigit char || char.isDigit

/-- Whether a character continues a number, be it well formed or not. -/
def continuesConstant (char : Char) : Bool :=
  continuesWord char || char == '.'

/-- Whether a character is white space. -/
def isWhite (char : Char) : Bool :=
  char == ' ' || char == '\n' || char == '\t' || char == '\r' || char == '\x0b' || char == '\x0c'

/-- Whether a character is one of the punctuators of array definitions. -/
def isMark (char : Char) : Bool :=
  ['[', ']', '\x7b', '\x7d', '=', ',', ';', '-'].contains char

/-- The value of a decimal constant, which has no zero in front of other digits. -/
def constant? (digits : List Char) : Option Nat :=
  if digits.all Char.isDigit && (digits.head? != some '0' || digits.length == 1) then
    some (Nat.ofDigitChars 10 digits 0)
  else
    none

/-- The tokens of a text, if it can be cut into tokens. -/
def tokens? (text : List Char) : Option (List Token) :=
  match text with
  | [] => some []
  | char :: rest =>
      if isWhite char then
        tokens? rest
      else if isNondigit char then
        (tokens? (rest.dropWhile continuesWord)).map
          (.word (String.ofList (char :: rest.takeWhile continuesWord)) :: ·)
      else if char.isDigit then do
        let value ← constant? (char :: rest.takeWhile continuesConstant)
        let tokens ← tokens? (rest.dropWhile continuesConstant)
        return .constant value :: tokens
      else if isMark char then
        (tokens? rest).map (.mark char :: ·)
      else
        none
termination_by text.length
decreasing_by
  · simp
  · exact Nat.lt_succ_of_le (List.dropWhile_sublist _).length_le
  · exact Nat.lt_succ_of_le (List.dropWhile_sublist _).length_le
  · simp

/-- A definition of an array: the type of its elements, its name, and their values. -/
structure ArrayDefinition where
  type : String
  name : String
  values : List Int
  deriving Repr, DecidableEq

/-- The values up to the closing brace and the semicolon; a comma may follow the last one. -/
def values? : List Token → Option (List Int)
  | [.mark '\x7d', .mark ';'] => some []
  | .constant value :: .mark ',' :: rest => (values? rest).map ((value : Int) :: ·)
  | .mark '-' :: .constant value :: .mark ',' :: rest => (values? rest).map (-(value : Int) :: ·)
  | [.constant value, .mark '\x7d', .mark ';'] => some [(value : Int)]
  | [.mark '-', .constant value, .mark '\x7d', .mark ';'] => some [-(value : Int)]
  | _ => none

/-- The array definition that some tokens are. -/
def ArrayDefinition.ofTokens? : List Token → Option ArrayDefinition
  | .word type :: .word name :: .mark '[' :: .mark ']' :: .mark '=' :: .mark '\x7b' :: rest =>
      (values? rest).map fun values => ⟨type, name, values⟩
  | _ => none

/-- The array definition that a text is. -/
def ArrayDefinition.ofText? (text : String) : Option ArrayDefinition :=
  (tokens? text.toList).bind ofTokens?

/-- The keywords of C, which are no identifiers. -/
def keywords : List String :=
  ["auto", "break", "case", "char", "const", "continue", "default", "do", "double", "else", "enum",
    "extern", "float", "for", "goto", "if", "inline", "int", "long", "register", "restrict",
    "return", "short", "signed", "sizeof", "static", "struct", "switch", "typedef", "union",
    "unsigned", "void", "volatile", "while", "_Alignas", "_Alignof", "_Atomic", "_Bool",
    "_Complex", "_Generic", "_Imaginary", "_Noreturn", "_Static_assert", "_Thread_local"]

/-- A word is an identifier: it has the characters of one and is no keyword. -/
def IsIdentifier (name : String) : Prop :=
  name.toList.head?.any isNondigit = true ∧
    name.toList.all continuesWord = true ∧
    name ∉ keywords

instance (name : String) : Decidable (IsIdentifier name) :=
  inferInstanceAs (Decidable (_ ∧ _ ∧ _))

/--
A text defines an array of 16-bit integers: the type is theirs, the name is an identifier, and
there are values, each of them within the range.
-/
def IsInt16Array (text : String) : Prop :=
  ∃ definition,
    ArrayDefinition.ofText? text = some definition ∧
      definition.type = "int16_t" ∧
      IsIdentifier definition.name ∧
      definition.values ≠ [] ∧
      ∀ value ∈ definition.values, -32768 ≤ value ∧ value ≤ 32767

end AudioScope.C
