import AudioScope.CommandLine.Parameter

namespace AudioScope.CommandLine

/-!
# Help pages

A help page says what something is for and how it is used, and lists commands,
options or arguments in two columns.
-/

/-- One line of a list: what is listed, and what it is for. -/
structure Row where
  label : String
  purpose : String
  deriving Repr, DecidableEq

/-- A list under a title. -/
structure Section where
  title : String
  rows : List Row
  deriving Repr, DecidableEq

namespace Section

/-- The width of the first column. -/
def width (rows : List Row) : Nat :=
  rows.foldl (fun width row => max width row.label.length) 0

/-- A line with both columns. -/
def line
    (width : Nat)
    (row : Row) :
    String :=
  "  " ++ row.label ++ String.ofList (List.replicate (width - row.label.length) ' ') ++
    "  " ++ row.purpose ++ "\n"

/-- The title and all lines. -/
def text (part : Section) : String :=
  part.title ++ ":\n" ++ String.join (part.rows.map (line (width part.rows)))

end Section

/-- A help page. -/
structure Page where
  /-- What the page is about; nothing for the program as a whole. -/
  purpose : Option String
  usage : String
  sections : List Section
  deriving Repr, DecidableEq

/-- The text of a page. -/
def Page.text (page : Page) : String :=
  "\n".intercalate
    ((page.purpose.map (· ++ "\n")).toList ++
      ["Usage: " ++ page.usage ++ "\n"] ++
      page.sections.map Section.text)

/-- The name under which the program is called. -/
def programName : String := "audio-debug"

/-- The line of the option that shows a help page. -/
def helpRow : Row :=
  ⟨"-h, --help", "Print help"⟩

/-- The line of a parameter; its name stands behind the place of a letter. -/
def Parameter.row
    {σ : Type}
    (parameter : Parameter σ) :
    Row :=
  ⟨"    " ++ parameter.shown, parameter.purpose⟩

/-- The line of a command. -/
def Command.row
    {σ : Type}
    (command : Command σ) :
    Row :=
  ⟨command.name, command.purpose⟩

/-- The help page of a command. -/
def Command.page
    {σ : Type}
    (command : Command σ) :
    Page where
  purpose := some command.purpose
  usage := programName ++ " " ++ command.name ++ " [OPTIONS]"
  sections := [⟨"Options", command.parameters.map Parameter.row ++ [helpRow]⟩]

end AudioScope.CommandLine
