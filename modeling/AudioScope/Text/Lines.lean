namespace AudioScope

/-!
# Texts and their lines

A text is cut into its lines at its newlines.  Lines that have no newline in them
are found again in the text that they make up.
-/

/-- The lines of a text; behind the last newline stands one more, which may be empty. -/
def linesOf (text : String) : List String :=
  (text.toList.splitOn '\n').map String.ofList

/-- The text of some lines, each with a newline at its end. -/
def unlines (lines : List String) : String :=
  String.join (lines.map fun line => line ++ "\n")

theorem unlines_append (first later : List String) :
    unlines (first ++ later) = unlines first ++ unlines later := by
  rw [unlines, List.map_append, String.join_append]
  rfl

/-- Lines without newlines are found again in their text. -/
theorem linesOf_unlines
    {lines : List String}
    (unbroken : ∀ line ∈ lines, '\n' ∉ line.toList) :
    linesOf (unlines lines) = lines ++ [""] := by
  have split : (unlines lines).toList.splitOn '\n' = lines.map String.toList ++ [[]] := by
    induction lines with
    | nil =>
        simp [unlines]
    | cons line lines inductionHypothesis =>
        obtain ⟨first, others⟩ := List.forall_mem_cons.mp unbroken
        have shape :
            (unlines (line :: lines)).toList = line.toList ++ '\n' :: (unlines lines).toList := by
          simp [unlines]
        rw [shape, List.splitOn_append_cons_self_of_not_mem first, inductionHypothesis others]
        rfl
  rw [linesOf, split]
  simp

end AudioScope
