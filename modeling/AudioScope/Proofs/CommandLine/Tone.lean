import AudioScope.CommandLine.Request
import AudioScope.Proofs.CommandLine.Assignment
import AudioScope.Proofs.CommandLine.Value
import AudioScope.Proofs.Tone.Generation

namespace AudioScope.CommandLine

/-!
# Asking for a tone

A command line for a tone gives a sample rate, a frequency and a name, each at most
once, in any order and in any spelling.  What comes of it depends only on what is
asked for in the end (`ToneLine.asked`): an unsuitable name is a usage error, and
otherwise the table is printed or the reason is given why there is none.
-/

/-- One thing that is chosen about a tone. -/
inductive ToneChoice where
  | sampleRate (numeral : Numeral)
  | frequency (numeral : Numeral)
  | name (text : String)
  deriving Repr, DecidableEq

namespace ToneChoice

/-- The name of the option that makes a choice. -/
def key : ToneChoice → String
  | sampleRate _ => "sample-rate"
  | frequency _ => "frequency"
  | name _ => "name"

/-- The text of the option's value. -/
def value : ToneChoice → String
  | sampleRate numeral => numeral.text
  | frequency numeral => numeral.text
  | name text => text

/-- The sample rate that is chosen, if this is what is chosen. -/
def sampleRate? : ToneChoice → Option UInt32
  | sampleRate numeral => some numeral.value
  | _ => none

/-- The frequency that is chosen, if this is what is chosen. -/
def frequency? : ToneChoice → Option UInt32
  | frequency numeral => some numeral.value
  | _ => none

/-- The name that is chosen, if this is what is chosen. -/
def name? : ToneChoice → Option String
  | name text => some text
  | _ => none

/-- The options with what is chosen in place of what they were. -/
def among
    (choices : List ToneChoice)
    (options : ToneOptions) :
    ToneOptions where
  sampleRate := (choices.findSome? sampleRate?).getD options.sampleRate
  frequency := (choices.findSome? frequency?).getD options.frequency
  name := (choices.findSome? name?).getD options.name

/-- What is wrong with a name that is no identifier. -/
def misnamed (name : String) : UsageError :=
  .refusedValue "--name <NAME>" name (.noIdentifier name)

/-- Make a choice. -/
def change (options : ToneOptions) : ToneChoice → Except UsageError ToneOptions
  | sampleRate numeral => .ok { options with sampleRate := numeral.value }
  | frequency numeral => .ok { options with frequency := numeral.value }
  | name text =>
      if isIdentifier text.toList then .ok { options with name := text } else .error (misnamed text)

section

variable {choice : ToneChoice} {later : List ToneChoice} {options next : ToneOptions}

/-- What only one option can choose is chosen by no option with another name. -/
theorem findSome?_eq_none
    {α : Type}
    {look : ToneChoice → Option α}
    {key : String}
    (foreign : ∀ choice : ToneChoice, choice.key ≠ key → look choice = none)
    (absent : key ∉ later.map ToneChoice.key) :
    later.findSome? look = none := by
  refine List.findSome?_eq_none_iff.mpr fun choice member => foreign choice ?_
  rintro rfl
  exact absent (List.mem_map_of_mem member)

/-- Each thing is chosen by the option with its own name only. -/
theorem foreign (choice : ToneChoice) :
    (choice.key ≠ "sample-rate" → choice.sampleRate? = none) ∧
      (choice.key ≠ "frequency" → choice.frequency? = none) ∧
      (choice.key ≠ "name" → choice.name? = none) := by
  cases choice with
  | sampleRate numeral =>
      exact ⟨absurd rfl, fun _ => rfl, fun _ => rfl⟩
  | frequency numeral =>
      exact ⟨fun _ => rfl, absurd rfl, fun _ => rfl⟩
  | name text =>
      exact ⟨fun _ => rfl, fun _ => rfl, absurd rfl⟩

/-- A choice that is made stands, because it is not made again. -/
theorem among_of_change
    (made : change options choice = .ok next)
    (absent : choice.key ∉ later.map key) :
    among later next = among (choice :: later) options := by
  cases choice with
  | sampleRate numeral =>
      cases made
      have unchosen := findSome?_eq_none (fun choice => choice.foreign.1) absent
      simp only [among, unchosen, Option.getD_none]
      rfl
  | frequency numeral =>
      cases made
      have unchosen := findSome?_eq_none (fun choice => choice.foreign.2.1) absent
      simp only [among, unchosen, Option.getD_none]
      rfl
  | name text =>
      have unchosen := findSome?_eq_none (fun choice => choice.foreign.2.2) absent
      rw [change] at made
      split at made
      · cases made
        simp only [among, unchosen, Option.getD_none]
        rfl
      · cases made

/-- A name that is chosen is an identifier. -/
theorem named_of_change
    (made : change options choice = .ok next)
    (named : isIdentifier options.name.toList = true) :
    isIdentifier next.name.toList = true := by
  cases choice with
  | sampleRate numeral =>
      cases made
      exact named
  | frequency numeral =>
      cases made
      exact named
  | name text =>
      rw [change] at made
      split at made
      · next identifier =>
          cases made
          exact identifier
      · cases made

/-- Nothing but a name can be refused. -/
theorem misnamed_of_change
    {error : UsageError}
    (refused : change options choice = .error error) :
    ∃ text,
      choice = .name text ∧
        isIdentifier text.toList = false ∧
        error = misnamed text := by
  cases choice with
  | sampleRate numeral =>
      cases refused
  | frequency numeral =>
      cases refused
  | name text =>
      rw [change] at refused
      split at refused
      · cases refused
      · next noIdentifier =>
          cases refused
          exact ⟨text, rfl, Bool.eq_false_iff.mpr noIdentifier, rfl⟩

end

/--
Different choices are made if the name that is asked for in the end is an
identifier, and otherwise this name is what is wrong.
-/
theorem foldlM_change
    (choices : List ToneChoice)
    (distinct : (choices.map key).Nodup)
    (options : ToneOptions)
    (named : isIdentifier options.name.toList = true) :
    choices.foldlM change options =
      if isIdentifier (among choices options).name.toList then
        .ok (among choices options)
      else
        .error (misnamed (among choices options).name) := by
  -- what is invariant is that the name of the options is an identifier
  induction choices generalizing options with
  | nil =>
      exact (if_pos named).symm
  | cons choice later inductionHypothesis =>
      obtain ⟨absent, laterDistinct⟩ := List.nodup_cons.mp distinct
      rw [List.foldlM_cons]
      cases made : change options choice with
      | error error =>
          obtain ⟨text, rfl, noIdentifier, rfl⟩ := misnamed_of_change made
          have asked : (among (name text :: later) options).name = text := rfl
          rw [asked, noIdentifier]
          rfl
      | ok next =>
          rw [← among_of_change made absent]
          exact inductionHypothesis laterDistinct next (named_of_change made named)

end ToneChoice

/-- A choice as it is written, with the value attached or in a word of its own. -/
structure WrittenChoice where
  choice : ToneChoice
  attached : Bool
  /-- A name in a word of its own is not empty and does not begin with a dash. -/
  separable :
    attached = false →
      ∀ text, choice = .name text → text ≠ "" ∧ text.toList.head? ≠ some '-'

namespace WrittenChoice

/-- The words of a choice. -/
def words (written : WrittenChoice) : List String :=
  if written.attached then
    ["--" ++ written.choice.key ++ "=" ++ written.choice.value]
  else
    ["--" ++ written.choice.key, written.choice.value]

/-- The option that makes a choice, with its value. -/
def assignment (written : WrittenChoice) : Assignment toneCommand :=
  match shape : written.choice with
  | .sampleRate numeral =>
      { parameter := toneCommand.parameters.get ⟨0, by decide⟩
        placeholder := "SAMPLE_RATE"
        set := fun text options => (readNumber text).map ({ options with sampleRate := · })
        value := numeral.text
        attached := written.attached
        effect_eq := rfl
        known := rfl
        named := by decide
        plain := by decide
        separable := fun _ => numeral.undashed }
  | .frequency numeral =>
      { parameter := toneCommand.parameters.get ⟨1, by decide⟩
        placeholder := "FREQUENCY"
        set := fun text options => (readNumber text).map ({ options with frequency := · })
        value := numeral.text
        attached := written.attached
        effect_eq := rfl
        known := rfl
        named := by decide
        plain := by decide
        separable := fun _ => numeral.undashed }
  | .name text =>
      { parameter := toneCommand.parameters.get ⟨2, by decide⟩
        placeholder := "NAME"
        set := fun text options => (readName text).map ({ options with name := · })
        value := text
        attached := written.attached
        effect_eq := rfl
        known := rfl
        named := by decide
        plain := by decide
        separable := fun apart => (written.separable apart text shape).2 }

/-- The option is written with the words of the choice, -/
theorem words_assignment (written : WrittenChoice) :
    written.assignment.words = written.words := by
  obtain ⟨choice, attached, separable⟩ := written
  cases choice <;> rfl

/-- it has the name of the choice, -/
theorem name_assignment (written : WrittenChoice) :
    written.assignment.parameter.name = written.choice.key := by
  obtain ⟨choice, attached, separable⟩ := written
  cases choice <;> rfl

/-- and it makes the choice. -/
theorem change_assignment
    (written : WrittenChoice)
    (options : ToneOptions) :
    written.assignment.change options = written.choice.change options := by
  obtain ⟨choice, attached, separable⟩ := written
  cases choice with
  | sampleRate numeral =>
      simp only [Assignment.change, assignment, readNumber_text]
      rfl
  | frequency numeral =>
      simp only [Assignment.change, assignment, readNumber_text]
      rfl
  | name text =>
      simp only [Assignment.change, assignment, readName, ToneChoice.change]
      split <;> rfl

end WrittenChoice

namespace Request

variable {options : ToneOptions}

/-- A table that is made is printed under the name that was asked for. -/
theorem printTone_of_ok
    {table : Tone.Table}
    (made : Tone.generate options.sampleRate options.frequency = .ok table) :
    printTone options =
      { chain := []
        journal := [.printed (table.withName options.name).text] } := by
  rw [printTone, made]

/-- Of a table that is not made only the reason remains. -/
theorem printTone_of_error
    {refusal : Tone.Refusal}
    (refused : Tone.generate options.sampleRate options.frequency = .error refusal) :
    printTone options = { chain := [refusal.message], journal := [] } := by
  rw [printTone, refused]

end Request

/-- The words of a command line for a tone: different choices in any order. -/
structure ToneLine where
  choices : List WrittenChoice
  distinct : (choices.map (·.choice.key)).Nodup

namespace ToneLine

/-- The words behind the name of the command. -/
def words (line : ToneLine) : List String :=
  line.choices.flatMap WrittenChoice.words

/-- What is asked for: what is chosen, and 48000 Hz, 1000 Hz and `samples` where nothing is. -/
def asked (line : ToneLine) : ToneOptions where
  sampleRate := (line.choices.findSome? (·.choice.sampleRate?)).getD 48000
  frequency := (line.choices.findSome? (·.choice.frequency?)).getD 1000
  name := (line.choices.findSome? (·.choice.name?)).getD "samples"

/-- Whatever can be asked for is asked for by some words. -/
theorem exists_asked (options : ToneOptions) : ∃ line : ToneLine, line.asked = options := by
  let choices : List WrittenChoice :=
    [⟨.sampleRate ⟨options.sampleRate, false, 0⟩, true, nofun⟩,
      ⟨.frequency ⟨options.frequency, false, 0⟩, true, nofun⟩,
      ⟨.name options.name, true, nofun⟩]
  have distinct : (choices.map (·.choice.key)).Nodup := by
    simp [choices, ToneChoice.key]
  exact ⟨⟨choices, distinct⟩, rfl⟩

/-- The words are read as what is asked for, unless the name is no identifier. -/
theorem read_words (line : ToneLine) :
    toneCommand.read line.words =
      if isIdentifier line.asked.name.toList then
        .ok line.asked
      else
        .error (.usage (ToneChoice.misnamed line.asked.name)) := by
  have words :
      line.words =
        (line.choices.map WrittenChoice.assignment).flatMap Assignment.words := by
    simp only [ToneLine.words, List.flatMap_map, WrittenChoice.words_assignment]
  have names : ((line.choices.map WrittenChoice.assignment).map (·.parameter.name)).Nodup := by
    simpa [Function.comp_def, WrittenChoice.name_assignment] using line.distinct
  have asked :
      ToneChoice.among (line.choices.map (·.choice)) toneCommand.defaults = line.asked := by
    simp only [ToneChoice.among, asked, List.findSome?_map]
    rfl
  have changed :=
    ToneChoice.foldlM_change (line.choices.map (·.choice))
      (by simpa [Function.comp_def] using line.distinct) toneCommand.defaults (by decide)
  rw [words, Command.read_assignments rfl _ names, List.foldlM_map]
  simp only [WrittenChoice.change_assignment]
  rw [List.foldlM_map, asked] at changed
  rw [changed]
  split <;> rfl

/-- The words are a request for what is asked for, unless the name is no identifier. -/
theorem parse_words (line : ToneLine) :
    Request.parse ("sine" :: line.words) =
      if isIdentifier line.asked.name.toList then
        .ok (.tone line.asked)
      else
        .error (.usage (ToneChoice.misnamed line.asked.name)) := by
  have parsed :
      Request.parse ("sine" :: line.words) =
        ((toneCommand.read line.words).map Request.tone).mapError
          (Answer.ofInterruption .tone) :=
    rfl
  rw [parsed, read_words]
  split <;> rfl

/--
What comes of a command line for a tone depends only on the sample rate, the
frequency and the name that are asked for.  A name that is no identifier is a usage
error.  Otherwise, if the tone loops, one period of it is printed in one piece: the
name that was asked for, a line for each sample, and the end of the table.  If it
does not loop, nothing is printed and the reason is the only message.
-/
theorem outcome_by_asked
    (line : ToneLine)
    (colors : Bool)
    (bus : Bus) :
    let asked := line.asked
    let parsed := Request.parse ("sine" :: line.words)
    let generated := Tone.generate asked.sampleRate asked.frequency
    let period := asked.sampleRate.toNat / asked.frequency.toNat
    let outcome := (Request.tone asked).carryOut colors bus
    (∀ other : ToneLine,
        other.asked = asked → Request.parse ("sine" :: other.words) = parsed) ∧
      (¬ IsIdentifier asked.name ∧
          (∃ answer,
            parsed = .error answer ∧
              answer =
                .usage
                  (.refusedValue "--name <NAME>" asked.name (.noIdentifier asked.name)) ∧
              answer.exitCode = 2 ∧
              answer.printed = "") ∨
        IsIdentifier asked.name ∧
          parsed = .ok (.tone asked) ∧
          (Tone.Loops asked.sampleRate asked.frequency ∧
              (∃ table,
                generated = .ok table ∧
                  table.samples = (List.range period).map (Tone.sample period) ∧
                  outcome.exitCode = 0 ∧
                  outcome.chain = [] ∧
                  outcome.printed =
                    ["int16_t " ++ asked.name ++ "[] = \x7b\n" ++
                      String.join
                        (table.samples.map fun sample =>
                          "    " ++ toString sample.toInt ++ ",\n") ++
                      "\x7d;\n"]) ∨
            ¬ Tone.Loops asked.sampleRate asked.frequency ∧
              ∃ refusal message,
                Tone.Refused asked.sampleRate asked.frequency refusal ∧
                  refusal.Told message ∧
                  generated = .error refusal ∧
                  outcome.exitCode = 1 ∧
                  outcome.chain = [message] ∧
                  outcome.printed = [])) := by
  intro asked parsed generated period outcome
  have parsed_eq := line.parse_words
  refine ⟨fun other sameAsked => ?_, ?_⟩
  · rw [other.parse_words, sameAsked]
    exact parsed_eq.symm
  by_cases identifier : IsIdentifier asked.name
  · refine .inr ⟨identifier, ?_, ?_⟩
    · exact parsed_eq.trans (if_pos (isIdentifier_iff.mpr identifier))
    by_cases loops : Tone.Loops asked.sampleRate asked.frequency
    · have made := Tone.generate_of_loops loops
      have ended := Request.printTone_of_ok made
      exact .inl ⟨loops, _, made, rfl, congrArg Outcome.exitCode ended,
        congrArg Outcome.chain ended, congrArg Outcome.printed ended⟩
    · obtain ⟨refusal, refused⟩ :=
        (Tone.loops_or_refused asked.sampleRate asked.frequency).resolve_left loops
      have notMade := Tone.generate_of_refused refused
      have ended := Request.printTone_of_error notMade
      exact .inr ⟨loops, refusal, refusal.message, refused, refusal.told_message, notMade,
        congrArg Outcome.exitCode ended, congrArg Outcome.chain ended,
        congrArg Outcome.printed ended⟩
  · refine .inl ⟨identifier, _, ?_, rfl, rfl, rfl⟩
    exact parsed_eq.trans (if_neg (mt isIdentifier_iff.mp identifier))

/-- The frequency in two words in front of the name in one; the sample rate is left out. -/
example :
    Request.parse ["sine", "--frequency", "+00441", "--name=_a4"] =
      .ok (.tone ⟨48000, 441, "_a4"⟩) :=
  rfl

end ToneLine

end AudioScope.CommandLine
