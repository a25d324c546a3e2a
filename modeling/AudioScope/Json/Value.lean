import AudioScope.Json.Number
import AudioScope.Json.Text

namespace AudioScope.Json

/-!
# Passing over values

`skipValue` passes over a value that nobody needs and checks only that it is
JSON.  Values may be nested to any depth: the brackets that are still open are
kept in a list, the innermost first.
-/

/-- The two kinds of brackets. -/
inductive Bracket where
  | square
  | curly
  deriving Repr, DecidableEq

/-- The character that closes a bracket. -/
def Bracket.closing : Bracket → Char
  | square => ']'
  | curly => '}'

/-- Skip a value that needs no brackets. -/
def skipScalar : List Char → Except Flaw (List Char)
  | [] => .error .unfinished
  | 'n' :: rest => skipWord ['u', 'l', 'l'] rest
  | 't' :: rest => skipWord ['r', 'u', 'e'] rest
  | 'f' :: rest => skipWord ['a', 'l', 's', 'e'] rest
  | '"' :: rest => skipString rest
  | char :: rest =>
      if char == '-' || char.isDigit then skipNumber (char :: rest) else .error .malformed

theorem length_le_of_skipWord
    {word text rest : List Char}
    (skipped : skipWord word text = .ok rest) :
    rest.length ≤ text.length := by
  rw [skipWord_eq_ok skipped, List.length_append]
  omega

theorem length_lt_of_skipScalar
    {text rest : List Char}
    (skipped : skipScalar text = .ok rest) :
    rest.length < text.length := by
  unfold skipScalar at skipped
  split at skipped
  · cases skipped
  · exact Nat.lt_succ_of_le (length_le_of_skipWord skipped)
  · exact Nat.lt_succ_of_le (length_le_of_skipWord skipped)
  · exact Nat.lt_succ_of_le (length_le_of_skipWord skipped)
  · exact Nat.lt_succ_of_lt (length_lt_of_skipString skipped)
  · split at skipped
    · exact length_lt_of_skipNumber skipped
    · cases skipped

/-- Skip what stands in front of the next value within a bracket: a key and its colon, or nothing. -/
def skipKey : Bracket → List Char → Except Flaw (List Char)
  | .square, text => .ok text
  | .curly, text =>
      match skipBlanks text with
      | [] => .error .unfinished
      | '"' :: key =>
          match skipString key with
          | .error flaw => .error flaw
          | .ok rest => skipColon rest
      | _ => .error .malformed

theorem length_le_of_skipKey
    {bracket : Bracket}
    {text rest : List Char}
    (skipped : skipKey bracket text = .ok rest) :
    rest.length ≤ text.length := by
  cases bracket with
  | square =>
      cases skipped
      exact Nat.le_refl _
  | curly =>
      simp only [skipKey] at skipped
      split at skipped
      · cases skipped
      · next key found =>
        split at skipped
        · cases skipped
        · next middle string =>
          have first := length_lt_of_skipBlanks found
          have second := length_lt_of_skipString string
          have third := length_lt_of_skipColon skipped
          omega
      · cases skipped

mutual

/-- Skip a value within the given open brackets, and everything up to their ends. -/
def skipWithin
    (enclosing : List Bracket)
    (text : List Char) :
    Except Flaw (List Char) :=
  match _found : skipBlanks text with
  | '[' :: rest => skipFirst .square enclosing rest
  | '{' :: rest => skipFirst .curly enclosing rest
  | start =>
      match _skipped : skipScalar start with
      | .error flaw => .error flaw
      | .ok rest => skipAfter enclosing rest
termination_by (text.length, 0)
decreasing_by
  · have shorter := length_lt_of_skipBlanks _found
    exact Prod.Lex.left _ _ shorter
  · have shorter := length_lt_of_skipBlanks _found
    exact Prod.Lex.left _ _ shorter
  · have shorter := length_lt_of_skipScalar _skipped
    have bound := length_skipBlanks_le text
    rw [_found] at bound
    exact Prod.Lex.left _ _ (Nat.lt_of_lt_of_le shorter bound)

/-- Skip what follows an opening bracket. -/
def skipFirst
    (bracket : Bracket)
    (enclosing : List Bracket)
    (text : List Char) :
    Except Flaw (List Char) :=
  match _found : skipBlanks text with
  | [] => .error .unfinished
  | char :: rest =>
      if char = bracket.closing then
        skipAfter enclosing rest
      else
        match _key : skipKey bracket (char :: rest) with
        | .error flaw => .error flaw
        | .ok value => skipWithin (bracket :: enclosing) value
termination_by (text.length, 1)
decreasing_by
  · have shorter := length_lt_of_skipBlanks _found
    exact Prod.Lex.left _ _ shorter
  · have shorter := length_lt_of_skipBlanks _found
    have bound := length_le_of_skipKey _key
    simp only [List.length_cons] at bound
    rcases Nat.lt_or_eq_of_le (Nat.le_trans bound shorter) with less | same
    · exact Prod.Lex.left _ _ less
    · rw [same]
      exact Prod.Lex.right _ (by decide)

/-- Skip what follows a value. -/
def skipAfter
    (enclosing : List Bracket)
    (text : List Char) :
    Except Flaw (List Char) :=
  match enclosing with
  | [] => .ok text
  | bracket :: outer =>
      match _found : skipBlanks text with
      | [] => .error .unfinished
      | char :: rest =>
          if char = bracket.closing then
            skipAfter outer rest
          else if char = ',' then
            match _key : skipKey bracket rest with
            | .error flaw => .error flaw
            | .ok value => skipWithin (bracket :: outer) value
          else
            .error .malformed
termination_by (text.length, 0)
decreasing_by
  · have shorter := length_lt_of_skipBlanks _found
    exact Prod.Lex.left _ _ shorter
  · have shorter := length_lt_of_skipBlanks _found
    have bound := length_le_of_skipKey _key
    exact Prod.Lex.left _ _ (by omega)

end

theorem skipWithin_square
    {enclosing : List Bracket}
    {text rest : List Char}
    (found : skipBlanks text = '[' :: rest) :
    skipWithin enclosing text = skipFirst .square enclosing rest := by
  rw [skipWithin.eq_def]
  split <;> simp_all

theorem skipWithin_curly
    {enclosing : List Bracket}
    {text rest : List Char}
    (found : skipBlanks text = '{' :: rest) :
    skipWithin enclosing text = skipFirst .curly enclosing rest := by
  rw [skipWithin.eq_def]
  split <;> simp_all

/-- A value without brackets is followed by what comes after a value. -/
theorem skipWithin_scalar
    {enclosing : List Bracket}
    {text : List Char}
    (notSquare : ∀ rest, skipBlanks text = '[' :: rest → False)
    (notCurly : ∀ rest, skipBlanks text = '{' :: rest → False) :
    skipWithin enclosing text = (skipScalar (skipBlanks text)).bind (skipAfter enclosing) := by
  rw [skipWithin.eq_def]
  split
  · next found => exact absurd found (notSquare _)
  · next found => exact absurd found (notCurly _)
  · split <;> simp_all [Except.bind]

theorem skipFirst_closing
    {bracket : Bracket}
    {enclosing : List Bracket}
    {text rest : List Char}
    (found : skipBlanks text = bracket.closing :: rest) :
    skipFirst bracket enclosing text = skipAfter enclosing rest := by
  rw [skipFirst.eq_def]
  split <;> simp_all

theorem skipFirst_item
    {bracket : Bracket}
    {enclosing : List Bracket}
    {text rest : List Char}
    {char : Char}
    (found : skipBlanks text = char :: rest)
    (notClosing : char ≠ bracket.closing) :
    skipFirst bracket enclosing text =
      (skipKey bracket (char :: rest)).bind (skipWithin (bracket :: enclosing)) := by
  rw [skipFirst.eq_def]
  split
  · simp_all
  · next found' =>
    cases found.symm.trans found'
    rw [if_neg notClosing]
    split <;> simp_all [Except.bind]

/-- Nothing is skipped behind an outermost value. -/
theorem skipAfter_nil (text : List Char) : skipAfter [] text = .ok text := by
  rw [skipAfter.eq_def]

theorem skipAfter_closing
    {bracket : Bracket}
    {outer : List Bracket}
    {text rest : List Char}
    (found : skipBlanks text = bracket.closing :: rest) :
    skipAfter (bracket :: outer) text = skipAfter outer rest := by
  rw [skipAfter.eq_def]
  simp only
  split <;> simp_all

theorem skipAfter_comma
    {bracket : Bracket}
    {outer : List Bracket}
    {text rest : List Char}
    (found : skipBlanks text = ',' :: rest) :
    skipAfter (bracket :: outer) text =
      (skipKey bracket rest).bind (skipWithin (bracket :: outer)) := by
  have notClosing : ',' ≠ bracket.closing := by cases bracket <;> decide
  rw [skipAfter.eq_def]
  simp only
  split
  · simp_all
  · next found' =>
    cases found.symm.trans found'
    rw [if_neg notClosing, if_pos rfl]
    split <;> simp_all [Except.bind]

/-- Nothing else may follow a value within a bracket. -/
theorem skipAfter_other
    {bracket : Bracket}
    {outer : List Bracket}
    {text rest : List Char}
    {char : Char}
    (found : skipBlanks text = char :: rest)
    (notClosing : char ≠ bracket.closing)
    (notComma : char ≠ ',') :
    skipAfter (bracket :: outer) text = .error .malformed := by
  rw [skipAfter.eq_def]
  simp only
  split <;> simp_all

/-- A text that ends within a bracket is unfinished. -/
theorem skipAfter_unfinished
    {bracket : Bracket}
    {outer : List Bracket}
    {text : List Char}
    (ended : skipBlanks text = []) :
    skipAfter (bracket :: outer) text = .error .unfinished := by
  rw [skipAfter.eq_def]
  simp only
  split <;> simp_all

@[inherit_doc skipAfter_unfinished]
theorem skipFirst_unfinished
    {bracket : Bracket}
    {enclosing : List Bracket}
    {text : List Char}
    (ended : skipBlanks text = []) :
    skipFirst bracket enclosing text = .error .unfinished := by
  rw [skipFirst.eq_def]
  split <;> simp_all

/-- Skipping makes no text longer, wherever it starts. -/
theorem length_le_of_skip :
    (∀ (enclosing : List Bracket) (text : List Char),
      ∀ rest, skipWithin enclosing text = .ok rest → rest.length ≤ text.length) ∧
    (∀ (enclosing : List Bracket) (text : List Char),
      ∀ rest, skipAfter enclosing text = .ok rest → rest.length ≤ text.length) ∧
    (∀ (bracket : Bracket) (enclosing : List Bracket) (text : List Char),
      ∀ rest, skipFirst bracket enclosing text = .ok rest → rest.length ≤ text.length) := by
  apply skipWithin.mutual_induct
  · intro enclosing text tail found bound rest skipped
    rw [skipWithin_square found] at skipped
    have shorter := length_lt_of_skipBlanks found
    have result := bound rest skipped
    omega
  · intro enclosing text tail found bound rest skipped
    rw [skipWithin_curly found] at skipped
    have shorter := length_lt_of_skipBlanks found
    have result := bound rest skipped
    omega
  · intro enclosing text flaw notSquare notCurly scalar rest skipped
    rw [skipWithin_scalar notSquare notCurly, scalar] at skipped
    cases skipped
  · intro enclosing text tail notSquare notCurly scalar bound rest skipped
    rw [skipWithin_scalar notSquare notCurly, scalar] at skipped
    have shorter := length_lt_of_skipScalar scalar
    have blanks := length_skipBlanks_le text
    have result := bound rest skipped
    omega
  · intro text rest skipped
    rw [skipAfter_nil] at skipped
    cases skipped
    exact Nat.le_refl _
  · intro text bracket outer ended rest skipped
    rw [skipAfter_unfinished ended] at skipped
    cases skipped
  · intro text bracket outer tail found bound rest skipped
    rw [skipAfter_closing found] at skipped
    have shorter := length_lt_of_skipBlanks found
    have result := bound rest skipped
    omega
  · intro text bracket outer tail flaw key found _ rest skipped
    rw [skipAfter_comma found, key] at skipped
    cases skipped
  · intro text bracket outer tail value key found _ bound rest skipped
    rw [skipAfter_comma found, key] at skipped
    have shorter := length_lt_of_skipBlanks found
    have fewer := length_le_of_skipKey key
    have result := bound rest skipped
    omega
  · intro text bracket outer char tail found notClosing notComma rest skipped
    rw [skipAfter_other found notClosing notComma] at skipped
    cases skipped
  · intro bracket enclosing text ended rest skipped
    rw [skipFirst_unfinished ended] at skipped
    cases skipped
  · intro bracket enclosing text tail found bound rest skipped
    rw [skipFirst_closing found] at skipped
    have shorter := length_lt_of_skipBlanks found
    have result := bound rest skipped
    omega
  · intro bracket enclosing text char tail found notClosing flaw key rest skipped
    rw [skipFirst_item found notClosing, key] at skipped
    cases skipped
  · intro bracket enclosing text char tail found notClosing value key bound rest skipped
    rw [skipFirst_item found notClosing, key] at skipped
    have shorter := length_lt_of_skipBlanks found
    have fewer := length_le_of_skipKey key
    have result := bound rest skipped
    simp only [List.length_cons] at fewer
    omega

/-- Skip a value. -/
def skipValue (text : List Char) : Except Flaw (List Char) :=
  skipWithin [] text

theorem length_le_of_skipValue
    {text rest : List Char}
    (skipped : skipValue text = .ok rest) :
    rest.length ≤ text.length :=
  length_le_of_skip.1 [] text rest skipped

end AudioScope.Json
