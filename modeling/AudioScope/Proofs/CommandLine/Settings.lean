import AudioScope.CommandLine.Parameter

namespace AudioScope.CommandLine

/-!
# What all settings have in common

If the default settings of a command have a property and none of its parameters takes
it from settings that have it, then whatever settings are read have it, from any words
at all (`Command.yields_read`).  The property is kept by each word.
-/

/-- What a result gives, if it gives anything, has a property. -/
def Yields
    {ε α : Type}
    (holds : α → Prop)
    (result : Except ε α) : Prop :=
  ∀ value, result = .ok value → holds value

namespace Yields

variable {ε δ α β : Type} {holds : α → Prop} {result : Except ε α}

theorem error (error : ε) : Yields holds (.error error : Except ε α) :=
  nofun

theorem ok
    {value : α}
    (has : holds value) :
    Yields holds (.ok value : Except ε α) := by
  rintro _ ⟨⟩
  exact has

theorem bind
    {after : β → Prop}
    {next : α → Except ε β}
    (yields : Yields holds result)
    (step : ∀ value, holds value → Yields after (next value)) :
    Yields after (result.bind next) := by
  cases result with
  | error error => exact .error error
  | ok value => exact step value (yields value rfl)

theorem map
    {after : β → Prop}
    {change : α → β}
    (yields : Yields holds result)
    (step : ∀ value, holds value → after (change value)) :
    Yields after (result.map change) := by
  cases result with
  | error error => exact .error error
  | ok value => exact .ok (step value (yields value rfl))

theorem mapError
    (yields : Yields holds result)
    (change : ε → δ) :
    Yields holds (result.mapError change) := by
  cases result with
  | error error => exact .error (change error)
  | ok value => exact .ok (yields value rfl)

end Yields

section

variable {σ : Type} {holds : σ → Prop} {parameter : Parameter σ} {progress : Progress σ}

/-- A parameter does not take a property from settings that have it. -/
def Parameter.Keeps
    (holds : σ → Prop)
    (parameter : Parameter σ) : Prop :=
  match parameter.effect with
  | .flag set => ∀ settings, holds settings → holds (set settings)
  | .option _ set => ∀ text settings, holds settings → Yields holds (set text settings)

/-- The settings have a property, and what has not been looked at yet does not take it from them. -/
structure Progress.Keeps
    (holds : σ → Prop)
    (progress : Progress σ) : Prop where
  settings : holds progress.settings
  pending : ∀ parameter value, progress.pending = some (parameter, value) → parameter.Keeps holds

namespace Progress

theorem yields_apply
    {settings : Except UsageError σ}
    (yields : Yields holds settings) :
    Yields (Keeps holds) (progress.apply parameter settings) := by
  unfold apply
  split
  · exact .error _
  · exact yields.map fun settings has => ⟨has, nofun⟩

theorem Keeps.yields_take
    (keeps : progress.Keeps holds)
    (kept : parameter.Keeps holds)
    (value : Option String) :
    Yields (Keeps holds) (progress.take parameter value) := by
  unfold Parameter.Keeps at kept
  unfold take
  cases effect : parameter.effect with
  | flag set =>
      rw [effect] at kept
      exact yields_apply (.ok (kept _ keeps.settings))
  | option placeholder set =>
      rw [effect] at kept
      cases value with
      | none => exact .error _
      | some text => exact yields_apply ((kept text _ keeps.settings).mapError _)

theorem Keeps.yields_settle (keeps : progress.Keeps holds) :
    Yields (Keeps holds) progress.settle := by
  unfold settle
  split
  · exact .ok keeps
  · next parameter value waiting => exact keeps.yields_take (keeps.pending _ _ waiting) value

end Progress

namespace Command

theorem yields_takeShort
    (keeps : progress.Keeps holds)
    (letter : Char) :
    Yields (Progress.Keeps holds) (takeShort progress letter) := by
  unfold takeShort
  split
  · exact (keeps.yields_settle.mapError _).bind fun _ _ => .error _
  · exact .error _

theorem yields_takePlain
    (keeps : progress.Keeps holds)
    (text : String) :
    Yields (Progress.Keeps holds) (takePlain progress text) := by
  unfold takePlain
  split
  · next parameter waiting =>
    refine .ok ⟨keeps.settings, ?_⟩
    rintro _ _ ⟨⟩
    exact keeps.pending _ _ waiting
  · exact .error _

variable {command : Command σ}

section

variable (kept : ∀ parameter ∈ command.parameters, parameter.Keeps holds)

include kept

theorem yields_takeLong
    (keeps : progress.Keeps holds)
    (name : String)
    (value : Option String) :
    Yields (Progress.Keeps holds) (command.takeLong progress name value) := by
  have settled := keeps.yields_settle
  unfold takeLong
  split
  · next parameter found =>
    have known := kept parameter (List.mem_of_find?_eq_some found)
    split
    · exact .error _
    · exact (settled.bind fun _ keeps => keeps.yields_take known none).mapError _
    · exact (settled.bind fun _ keeps => keeps.yields_take known _).mapError _
    · refine (settled.map fun _ keeps => ⟨keeps.settings, ?_⟩).mapError _
      rintro _ _ ⟨⟩
      exact known
  · split
    · split
      · exact .error _
      · exact (settled.mapError _).bind fun _ _ => .error _
    · exact .error _

/-- Each word keeps the property, so any number of words keeps it. -/
theorem yields_takeWords
    (words : List String)
    (keeps : progress.Keeps holds) :
    Yields (Progress.Keeps holds) (command.takeWords progress words) := by
  induction words generalizing progress with
  | nil => exact keeps.yields_settle.mapError _
  | cons text rest inductionHypothesis =>
      unfold takeWords
      split
      · split
        · exact keeps.yields_settle.mapError _
        · exact .error _
      · exact (yields_takeLong kept keeps _ _).bind fun _ => inductionHypothesis
      · exact (yields_takeShort keeps _).bind fun _ => inductionHypothesis
      · exact (yields_takePlain keeps _).bind fun _ => inductionHypothesis

/-- All settings that are read have a property that the defaults have and the parameters keep. -/
theorem yields_read
    (defaults : holds command.defaults)
    (words : List String) :
    Yields holds (command.read words) := by
  have start : Progress.Keeps holds ⟨command.defaults, [], none⟩ := ⟨defaults, nofun⟩
  refine (yields_takeWords kept words start).bind fun progress keeps => ?_
  split
  · exact .error _
  · exact .ok keeps.settings

end

end Command

end

end AudioScope.CommandLine
