namespace AudioScope.CommandLine

/-!
# Words of a command line

A word is a parameter if it begins with a dash and is more than that: two dashes
begin a name, to which a value may be attached, and one dash begins a bundle of
letters.  Two dashes alone end the parameters.
-/

/-- What a word looks like. -/
inductive Word where
  | separator
  | long (name : String) (value : Option String)
  | short (letter : Char)
  | plain (text : String)
  deriving Repr, DecidableEq

/-- The name in front of the first equals sign, and the value behind it if there is one. -/
def splitValue (chars : List Char) : String × Option String :=
  let name := chars.takeWhile (· != '=')
  match chars.dropWhile (· != '=') with
  | [] => (String.ofList name, none)
  | _ :: value => (String.ofList name, some (String.ofList value))

/-- What a text looks like as a word. -/
def Word.ofText (text : String) : Word :=
  match text.toList with
  | ['-', '-'] => .separator
  | '-' :: '-' :: chars =>
      let (name, value) := splitValue chars
      .long name value
  | '-' :: letter :: _ => .short letter
  | _ => .plain text

end AudioScope.CommandLine
