import AudioScope.Json.Text

namespace AudioScope.Json

/-!
# Strings without escapes

A string of characters that need no escape is read as these characters.
-/

/-- Whether a character may stand in a string as it is. -/
def isPlain (char : Char) : Bool :=
  char != '"' && char != '\\' && !isControl char

/-- A character that stands for itself is read, and then the characters behind it. -/
theorem readString_cons_of_plain
    {char : Char}
    (plain : isPlain char = true)
    (text : List Char) :
    readString (char :: text) =
      (readString text).map fun (chars, rest) => (char :: chars, rest) := by
  simp only [isPlain, Bool.and_eq_true, bne_iff_ne, ne_eq, Bool.not_eq_true'] at plain
  obtain ⟨⟨notQuote, notEscape⟩, notControl⟩ := plain
  rw [readString.eq_def]
  split
  · next shape => cases shape
  · next shape => exact absurd (List.cons.inj shape).1 notQuote
  · next shape => exact absurd (List.cons.inj shape).1 notEscape
  · next shape =>
    obtain ⟨rfl, rfl⟩ := List.cons.inj shape
    rw [notControl, if_neg Bool.false_ne_true]

theorem readString_of_plain
    {chars : List Char}
    (plain : ∀ char ∈ chars, isPlain char = true)
    (rest : List Char) :
    readString (chars ++ '"' :: rest) = .ok (chars, rest) := by
  induction chars with
  | nil =>
      rw [List.nil_append, readString]
  | cons char chars inductionHypothesis =>
      obtain ⟨first, others⟩ := List.forall_mem_cons.mp plain
      rw [List.cons_append, readString_cons_of_plain first, inductionHypothesis others]
      rfl

end AudioScope.Json
