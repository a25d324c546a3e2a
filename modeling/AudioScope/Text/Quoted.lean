import AudioScope.Text.Visible

namespace AudioScope.Text

/-!
# Quoted texts

`quote` writes a text between double quotes so that it fits into a message:
quotes, backslashes and line ends are escaped, and every character that cannot
be shown is written as its code point.
-/

/-- The letter that stands for a character behind a backslash. -/
def escapeLetter? : Char → Option Char
  | '\x00' => some '0'
  | '\t' => some 't'
  | '\r' => some 'r'
  | '\n' => some 'n'
  | '"' => some '"'
  | '\\' => some '\\'
  | _ => none

/-- One character of a quoted text. -/
def quoteChar (char : Char) : List Char :=
  match escapeLetter? char with
  | some letter => ['\\', letter]
  | none =>
      if isVisible char then
        [char]
      else
        ['\\', 'u', '{'] ++ Nat.toDigits 16 char.toNat ++ ['}']

/-- A text between double quotes. -/
def quote (text : String) : String :=
  String.ofList ('"' :: text.toList.flatMap quoteChar ++ ['"'])

end AudioScope.Text
