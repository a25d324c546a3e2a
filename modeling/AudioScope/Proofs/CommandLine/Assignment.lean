import AudioScope.CommandLine.Parameter

namespace AudioScope.CommandLine

/-!
# Options with values

An option is given a value in one word or in two: the value is attached to the
name, or it stands in the next word.  However this is done, a command takes its
options one after the other, and options with different names make the changes
to the settings that their values stand for (`Command.read_assignments`).
-/

namespace Word

variable {name text : String}

section

variable {chars : List Char}

/-- A name without an equals sign ends where the first one stands, or at the end. -/
theorem takeWhile_name
    (plain : '=' ∉ chars)
    (rest : List Char) :
    (chars ++ rest).takeWhile (· != '=') = chars ++ rest.takeWhile (· != '=') ∧
      (chars ++ rest).dropWhile (· != '=') = rest.dropWhile (· != '=') := by
  have before : ∀ char ∈ chars, (char != '=') = true := by
    intro char member
    rw [bne_iff_ne]
    rintro rfl
    exact plain member
  exact ⟨List.takeWhile_append_of_pos before, List.dropWhile_append_of_pos before⟩

theorem splitValue_append
    (plain : '=' ∉ chars)
    (value : List Char) :
    splitValue (chars ++ '=' :: value) = (String.ofList chars, some (String.ofList value)) := by
  obtain ⟨name, rest⟩ := takeWhile_name plain ('=' :: value)
  simp only [splitValue, name, rest]
  simp

theorem splitValue_of_notMem (plain : '=' ∉ chars) :
    splitValue chars = (String.ofList chars, none) := by
  obtain ⟨name, rest⟩ := takeWhile_name plain []
  rw [List.append_nil] at name rest
  simp only [splitValue, name, rest]
  simp

end

theorem ofText_attached
    (plain : '=' ∉ name.toList)
    (value : String) :
    ofText ("--" ++ name ++ "=" ++ value) = .long name (some value) := by
  have chars :
      ("--" ++ name ++ "=" ++ value).toList =
        '-' :: '-' :: (name.toList ++ '=' :: value.toList) := by
    simp
  simp [ofText, chars, splitValue_append plain]

theorem ofText_name
    (nonempty : name.toList ≠ [])
    (plain : '=' ∉ name.toList) :
    ofText ("--" ++ name) = .long name none := by
  have chars : ("--" ++ name).toList = '-' :: '-' :: name.toList := by simp
  simp [ofText, chars, splitValue_of_notMem plain]

/-- A word that does not begin with a dash is a value. -/
theorem ofText_plain (undashed : text.toList.head? ≠ some '-') : ofText text = .plain text := by
  cases shape : text.toList with
  | nil =>
      simp [ofText, shape]
  | cons first rest =>
      have different : first ≠ '-' := by
        rintro rfl
        exact undashed (by rw [shape]; rfl)
      simp [ofText, shape, different]

end Word

/--
An option of a command that is given a value, attached to its name or in the next
word.  A value in a word of its own does not begin with a dash, which would make
it a parameter.
-/
structure Assignment
    {σ : Type}
    (command : Command σ) where
  parameter : Parameter σ
  placeholder : String
  set : String → σ → Except ValueFlaw σ
  value : String
  attached : Bool
  effect_eq : parameter.effect = .option placeholder set
  known : command.parameter? parameter.name = some parameter
  named : parameter.name.toList ≠ []
  plain : '=' ∉ parameter.name.toList
  separable : attached = false → value.toList.head? ≠ some '-'

namespace Assignment

variable {σ : Type} {command : Command σ}

/-- The words of an option with its value. -/
def words (assignment : Assignment command) : List String :=
  if assignment.attached then
    ["--" ++ assignment.parameter.name ++ "=" ++ assignment.value]
  else
    ["--" ++ assignment.parameter.name, assignment.value]

/-- Take an option with its value. -/
def take
    (progress : Progress σ)
    (assignment : Assignment command) :
    Except UsageError (Progress σ) :=
  progress.take assignment.parameter (some assignment.value)

/-- What an option makes of the settings, if it has not been given before. -/
def change
    (settings : σ)
    (assignment : Assignment command) :
    Except UsageError σ :=
  (assignment.set assignment.value settings).mapError
    (.refusedValue assignment.parameter.shown assignment.value)

theorem take_eq_apply
    (assignment : Assignment command)
    (progress : Progress σ) :
    assignment.take progress =
      progress.apply assignment.parameter (assignment.change progress.settings) := by
  simp only [take, Progress.take, assignment.effect_eq]
  rfl

/-- An option is taken no matter which other option was looked at last. -/
theorem take_pending
    (assignment : Assignment command)
    (progress : Progress σ)
    (pending : Option (Parameter σ × Option String)) :
    assignment.take { progress with pending } = assignment.take progress := by
  rw [take_eq_apply, take_eq_apply]
  rfl

/-- Nothing is left to be looked at when an option has been taken. -/
theorem settle_of_take
    {assignment : Assignment command}
    {progress next : Progress σ}
    (taken : assignment.take progress = .ok next) :
    next.settle = .ok next := by
  rw [take_eq_apply, Progress.apply] at taken
  split at taken
  · cases taken
  · cases changed : assignment.change progress.settings with
    | error flaw =>
        rw [changed] at taken
        cases taken
    | ok settings =>
        rw [changed] at taken
        cases taken
        rfl

/-- An option that has not been given before makes its change. -/
theorem take_fresh
    (assignment : Assignment command)
    (progress : Progress σ)
    (fresh : assignment.parameter.name ∉ progress.given.map (·.name)) :
    assignment.take progress =
      (assignment.change progress.settings).map fun settings =>
        { settings, given := progress.given ++ [assignment.parameter], pending := none } := by
  have notGiven :
      ¬ progress.given.any (·.name == assignment.parameter.name) = true := by
    intro found
    obtain ⟨parameter, member, sameName⟩ := List.any_eq_true.mp found
    exact fresh (List.mem_map.mpr ⟨parameter, member, eq_of_beq sameName⟩)
  rw [take_eq_apply, Progress.apply, if_neg notGiven]

/-- Options with different names make their changes one after the other. -/
theorem foldlM_take
    (assignments : List (Assignment command))
    (progress : Progress σ)
    (idle : progress.pending = none)
    (distinct :
      (progress.given.map (·.name) ++ assignments.map (·.parameter.name)).Nodup) :
    assignments.foldlM take progress =
      (assignments.foldlM change progress.settings).map fun settings =>
        { settings
          given := progress.given ++ assignments.map (·.parameter)
          pending := none } := by
  induction assignments generalizing progress with
  | nil =>
      obtain ⟨settings, given, pending⟩ := progress
      obtain rfl : pending = none := idle
      rw [List.map_nil, List.append_nil]
      rfl
  | cons assignment later inductionHypothesis =>
      have fresh : assignment.parameter.name ∉ progress.given.map (·.name) := fun member =>
        (List.nodup_append.mp distinct).2.2 _ member _ List.mem_cons_self rfl
      rw [List.foldlM_cons, List.foldlM_cons, take_fresh assignment progress fresh]
      cases assignment.change progress.settings with
      | error flaw =>
          rfl
      | ok settings =>
          refine (inductionHypothesis _ rfl ?_).trans ?_
          · simpa using distinct
          · simp only [List.map_cons, List.append_assoc, List.singleton_append]
            rfl

end Assignment

namespace Command

variable {σ : Type} {command : Command σ}

/-- An option with its value attached is taken when what was looked at before is settled. -/
theorem takeLong_some
    (assignment : Assignment command)
    (progress : Progress σ) :
    command.takeLong progress assignment.parameter.name (some assignment.value) =
      (progress.settle.bind assignment.take).mapError .usage := by
  simp only [takeLong, assignment.known, assignment.effect_eq]
  rfl

/-- The name of an option alone settles what was looked at before. -/
theorem takeLong_none
    (assignment : Assignment command)
    (progress : Progress σ) :
    command.takeLong progress assignment.parameter.name none =
      (progress.settle.map fun settled =>
        { settled with pending := some (assignment.parameter, none) }).mapError .usage := by
  simp only [takeLong, assignment.known, assignment.effect_eq]

section

variable {progress : Progress σ} {text : String} {rest : List String}

theorem takeWords_long
    {name : String}
    {value : Option String}
    (shape : Word.ofText text = .long name value) :
    command.takeWords progress (text :: rest) =
      (command.takeLong progress name value).bind (command.takeWords · rest) := by
  simp only [takeWords, shape]
  rfl

/-- A plain word is the value of the option in front of it. -/
theorem takeWords_plain
    {parameter : Parameter σ}
    (shape : Word.ofText text = .plain text) :
    command.takeWords { progress with pending := some (parameter, none) } (text :: rest) =
      command.takeWords { progress with pending := some (parameter, some text) } rest := by
  simp only [takeWords, shape, takePlain]
  rfl

end

/--
The words of one option: what was looked at before is settled, the option is
taken, and the words behind it are read.
-/
theorem takeWords_words
    (assignment : Assignment command)
    {rest : List String}
    {read : Progress σ → Except UsageError (Progress σ)}
    (behind :
      ∀ next : Progress σ,
        command.takeWords next rest = (next.settle.bind read).mapError .usage)
    (progress : Progress σ) :
    command.takeWords progress (assignment.words ++ rest) =
      (progress.settle.bind fun settled =>
        (assignment.take settled).bind read).mapError .usage := by
  rw [Assignment.words]
  cases attached : assignment.attached with
  | true =>
      have shape := Word.ofText_attached assignment.plain assignment.value
      rw [if_pos rfl, List.singleton_append, takeWords_long shape, takeLong_some]
      cases progress.settle with
      | error error =>
          rfl
      | ok settled =>
          simp only [Except.bind]
          cases taken : assignment.take settled with
          | error error =>
              rfl
          | ok next =>
              refine (behind next).trans ?_
              rw [Assignment.settle_of_take taken]
              rfl
  | false =>
      have shape := Word.ofText_name assignment.named assignment.plain
      have value := Word.ofText_plain (assignment.separable attached)
      rw [if_neg Bool.false_ne_true, List.cons_append, List.singleton_append,
        takeWords_long shape, takeLong_none]
      cases progress.settle with
      | error error =>
          rfl
      | ok settled =>
          refine (takeWords_plain value).trans ((behind _).trans ?_)
          exact congrArg (fun taken => (Except.bind taken read).mapError Interruption.usage)
            (assignment.take_pending settled (some (assignment.parameter, some assignment.value)))

/--
The words of some options: what was looked at before is settled, and then the
options are taken in order.
-/
theorem takeWords_assignments
    (assignments : List (Assignment command))
    (progress : Progress σ) :
    command.takeWords progress (assignments.flatMap Assignment.words) =
      (progress.settle.bind fun settled =>
        assignments.foldlM Assignment.take settled).mapError .usage := by
  induction assignments generalizing progress with
  | nil =>
      rw [List.flatMap_nil, takeWords]
      cases progress.settle <;> rfl
  | cons assignment later inductionHypothesis =>
      rw [List.flatMap_cons, takeWords_words assignment inductionHypothesis]
      rfl

/-- Without parameters that exclude each other there is no conflict. -/
theorem conflict?_eq_none
    (compatible : command.exclusive = [])
    (given : List (Parameter σ)) :
    command.conflict? given = none := by
  induction given with
  | nil =>
      rfl
  | cons first rest inductionHypothesis =>
      have alone : rest.find? (command.excludes first) = none := by
        simp [excludes, compatible]
      rw [conflict?, alone]
      exact inductionHypothesis

/--
Options with different names, in whatever order and however they are written, make
the changes to the settings that their values stand for.
-/
theorem read_assignments
    (compatible : command.exclusive = [])
    (assignments : List (Assignment command))
    (distinct : (assignments.map (·.parameter.name)).Nodup) :
    command.read (assignments.flatMap Assignment.words) =
      (assignments.foldlM Assignment.change command.defaults).mapError .usage := by
  have taken :=
    Assignment.foldlM_take assignments ⟨command.defaults, [], none⟩ rfl distinct
  rw [read, takeWords_assignments]
  refine (congrArg (fun progress => Except.bind (Except.mapError Interruption.usage progress) _)
    taken).trans ?_
  cases assignments.foldlM Assignment.change command.defaults with
  | error error =>
      rfl
  | ok settings =>
      let progress : Progress σ := ⟨settings, [] ++ assignments.map (·.parameter), none⟩
      change Except.bind (.ok progress) _ = .ok settings
      simp only [Except.bind, conflict?_eq_none compatible]
      rfl

end Command

end AudioScope.CommandLine
