import AudioScope.Proofs.CommandLine.Settings
import AudioScope.Proofs.CommandLine.Tone
import AudioScope.Proofs.Tone.Definition
import AudioScope.Proofs.Tone.Period

namespace AudioScope.CommandLine

/-!
# What the tone command prints

Whatever words make the tone command succeed, it prints one text, and this text defines
an array of 16-bit integers unless the name that is asked for is a keyword of C.  A name
is only looked at for its characters, so keywords are taken for names.
-/

/-- The name that is asked for has the characters of an identifier. -/
def ToneOptions.Named (options : ToneOptions) : Prop :=
  isIdentifier options.name.toList = true

instance (options : ToneOptions) : Decidable options.Named :=
  inferInstanceAs (Decidable (_ = _))

/-- No option of the tone command takes a name that has not the characters of an identifier. -/
theorem keeps_named :
    ∀ parameter ∈ toneCommand.parameters, parameter.Keeps ToneOptions.Named := by
  have numbers
      {change : UInt32 → ToneOptions}
      (named : ∀ number, (change number).Named)
      (text : String) :
      Yields ToneOptions.Named ((readNumber text).map change) := by
    cases readNumber text with
    | error flaw => exact .error flaw
    | ok number => exact .ok (named number)
  intro parameter member
  simp only [toneCommand, List.mem_cons, List.not_mem_nil, or_false] at member
  rcases member with rfl | rfl | rfl
  · intro text options named
    refine numbers ?_ text
    exact fun _ => named
  · intro text options named
    refine numbers ?_ text
    exact fun _ => named
  · intro text options _
    show Yields ToneOptions.Named ((readName text).map _)
    unfold readName
    split
    · next identifier => exact .ok identifier
    · exact .error _

namespace Request

theorem parse_sine (words : List String) :
    parse ("sine" :: words) =
      ((toneCommand.read words).map Request.tone).mapError (Answer.ofInterruption .tone) :=
  rfl

/-- Whatever the words are, the tone command is carried out with a name that has those characters. -/
theorem exists_tone_of_parse
    {words : List String}
    {request : Request}
    (parsed : parse ("sine" :: words) = .ok request) :
    ∃ options, request = .tone options ∧ options.Named := by
  have options := Command.yields_read keeps_named (by decide) words
  rw [parse_sine] at parsed
  cases read : toneCommand.read words with
  | error interruption =>
      rw [read] at parsed
      cases parsed
  | ok settings =>
      rw [read] at parsed
      cases parsed
      exact ⟨settings, rfl, options settings read⟩

/-- A tone command that succeeds prints the table that is made under the name that is asked for. -/
theorem exists_table_of_exitCode
    {options : ToneOptions}
    (succeeded : (printTone options).exitCode = 0) :
    ∃ table,
      Tone.generate options.sampleRate options.frequency = .ok table ∧
        (printTone options).printed = [(table.withName options.name).text] := by
  cases generated : Tone.generate options.sampleRate options.frequency with
  | error refusal =>
      rw [printTone_of_error generated] at succeeded
      cases succeeded
  | ok table =>
      exact ⟨table, rfl, by rw [printTone_of_ok generated]; rfl⟩

/--
Whatever words make the tone command succeed, it prints one text.  The text reads as the
definition of an array of `int16_t` under the name that is asked for, with the samples of the
table as its values, and it is one of C exactly if this name is no keyword.
-/
theorem printed_defines_array
    (words : List String)
    (colors : Bool)
    (bus : Bus)
    (request : Request)
    (parsed : parse ("sine" :: words) = .ok request)
    (succeeded : (request.carryOut colors bus).exitCode = 0) :
    ∃ options table text,
      request = .tone options ∧
        Tone.generate options.sampleRate options.frequency = .ok table ∧
        (request.carryOut colors bus).printed = [text] ∧
        C.ArrayDefinition.ofText? text =
          some ⟨"int16_t", options.name, table.samples.map Int16.toInt⟩ ∧
        (C.IsInt16Array text ↔ options.name ∉ C.keywords) := by
  obtain ⟨options, rfl, named⟩ := exists_tone_of_parse parsed
  obtain ⟨table, generated, printed⟩ := exists_table_of_exitCode succeeded
  have sampled : table.samples ≠ [] := Tone.samples_ne_nil generated
  have inC :
      C.IsInt16Array (table.withName options.name).text ↔ options.name ∉ C.keywords :=
    Tone.isInt16Array_text_iff named sampled
  exact ⟨options, table, _, rfl, generated, printed, Tone.ofText?_text named, inC⟩

/-- The usual tone is printed under any name. -/
theorem carryOut_usual
    (name : String)
    (colors : Bool)
    (bus : Bus) :
    (Request.tone ⟨48000, 1000, name⟩).carryOut colors bus =
      { chain := []
        journal := [.printed (Tone.Table.mk name (Tone.samples 48)).text] } := by
  have looping : Tone.Loops 48000 1000 := ⟨by decide, by decide, ⟨48, rfl⟩⟩
  have generated : Tone.generate 48000 1000 = .ok ⟨Tone.defaultName, Tone.samples 48⟩ :=
    Tone.generate_of_loops looping
  rw [carryOut, printTone, generated]
  rfl

/-- The usual tone under a name of its own. -/
theorem printed_defines_array_chirp :
    ∃ request text,
      parse ["sine", "--name", "_chirp2"] = .ok request ∧
        (request.carryOut false ⟨[], ""⟩).exitCode = 0 ∧
        (request.carryOut false ⟨[], ""⟩).printed = [text] ∧
        C.IsInt16Array text := by
  have parsed : parse ["sine", "--name", "_chirp2"] = .ok (.tone ⟨48000, 1000, "_chirp2"⟩) := rfl
  have succeeded := congrArg Outcome.exitCode (carryOut_usual "_chirp2" false ⟨[], ""⟩)
  obtain ⟨options, table, text, same, -, printed, -, inC⟩ :=
    printed_defines_array ["--name", "_chirp2"] false ⟨[], ""⟩ _ parsed succeeded
  cases same
  exact ⟨_, text, parsed, succeeded, printed, inC.mpr (by decide)⟩

/-- A keyword is taken for a name, and what is printed under it is no definition in C. -/
theorem printed_keyword_defines_nothing :
    ∃ request text,
      parse ["sine", "--name", "int"] = .ok request ∧
        (request.carryOut false ⟨[], ""⟩).exitCode = 0 ∧
        (request.carryOut false ⟨[], ""⟩).printed = [text] ∧
        ¬ C.IsInt16Array text := by
  have carriedOut := carryOut_usual "int" false ⟨[], ""⟩
  have sampled : (Tone.Table.mk "int" (Tone.samples 48)).samples ≠ [] :=
    fun empty => absurd (congrArg List.length empty) (by rw [Tone.length_samples]; decide)
  have inC := Tone.isInt16Array_text_iff (by decide) sampled
  exact ⟨_, _, rfl, congrArg Outcome.exitCode carriedOut, congrArg Outcome.printed carriedOut,
    fun defines => inC.mp defines (by decide)⟩

end Request

end AudioScope.CommandLine
