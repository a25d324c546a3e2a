namespace AudioScope.Json

/-!
# Reading JSON from the front

A JSON text is read character by character, and what is wrong with it is decided
by the first character that cannot stand where it stands.  A text that ends
before anything is wrong with it is unfinished.

Every reader takes a text and gives what it has read together with the text that
remains; the lemmas on lengths say that no reader puts anything back.
-/

/-- What is wrong with a text. -/
inductive Flaw where
  /-- The text ends too early. -/
  | unfinished
  /-- A character cannot stand where it stands. -/
  | malformed
  deriving Repr, DecidableEq

/-- The blanks that may stand between tokens. -/
def isBlank (char : Char) : Bool :=
  char == ' ' || char == '\n' || char == '\t' || char == '\r'

/-- The text behind all leading blanks. -/
def skipBlanks (text : List Char) : List Char :=
  text.dropWhile isBlank

/-- Blanks are not skipped where there are none. -/
theorem skipBlanks_cons
    {char : Char}
    (notBlank : isBlank char = false)
    (rest : List Char) :
    skipBlanks (char :: rest) = char :: rest := by
  rw [skipBlanks, List.dropWhile_cons, notBlank]
  rfl

theorem length_skipBlanks_le (text : List Char) : (skipBlanks text).length ≤ text.length := by
  simpa [skipBlanks] using (List.dropWhile_sublist isBlank).length_le

/-- A character with which the text behind its blanks begins is a part of the text. -/
theorem length_lt_of_skipBlanks
    {text rest : List Char}
    {char : Char}
    (found : skipBlanks text = char :: rest) :
    rest.length < text.length := by
  have bound := length_skipBlanks_le text
  rw [found] at bound
  exact bound

/-- Skip an expected word. -/
def skipWord : (word : List Char) → List Char → Except Flaw (List Char)
  | [], text => .ok text
  | _ :: _, [] => .error .unfinished
  | expected :: word, char :: text =>
      if char = expected then skipWord word text else .error .malformed

theorem skipWord_eq_ok
    {word text rest : List Char}
    (skipped : skipWord word text = .ok rest) :
    text = word ++ rest := by
  induction word generalizing text with
  | nil =>
      cases skipped
      rfl
  | cons expected word inductionHypothesis =>
      cases text with
      | nil => cases skipped
      | cons char text =>
          simp only [skipWord] at skipped
          split at skipped
          · next same =>
            rw [inductionHypothesis skipped, same]
            rfl
          · cases skipped

/-- Skip the colon between a key and its value. -/
def skipColon (text : List Char) : Except Flaw (List Char) :=
  match skipBlanks text with
  | [] => .error .unfinished
  | ':' :: rest => .ok rest
  | _ => .error .malformed

theorem length_lt_of_skipColon
    {text rest : List Char}
    (skipped : skipColon text = .ok rest) :
    rest.length < text.length := by
  unfold skipColon at skipped
  split at skipped
  · cases skipped
  · next found =>
    cases skipped
    exact length_lt_of_skipBlanks found
  · cases skipped

end AudioScope.Json
