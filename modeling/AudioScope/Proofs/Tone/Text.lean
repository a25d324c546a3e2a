import Mathlib
import AudioScope.Proofs.FixedWidth.Text
import AudioScope.Text.Lines
import AudioScope.Tone

namespace AudioScope

namespace Tone

namespace Table

/-!
# What the text of a table tells

The text of a table tells its name and its samples.  The name may be any text, so it may
look like another table; but the last bracket in the text of a table always stands
behind its name, because there is none in the lines of the samples.

The sample in a line is read back with `Int.toInt?_repr`, which no single module of
Mathlib brings along, so all of Mathlib is imported here.
-/

/-- The line that gives the name. -/
def opening (table : Table) : String :=
  "int16_t " ++ table.name ++ "[] = \x7b"

/-- The line of a sample without its newline. -/
def row (sample : Int16) : String :=
  "    " ++ FixedWidth.text sample ++ ","

/-- The lines behind the first one. -/
def body (table : Table) : List String :=
  table.samples.map row ++ ["\x7d;"]

/-- Behind the opening line there are neither brackets nor newlines within a line. -/
theorem notMem_body
    {char : Char}
    (outside : char = '[' ∨ char = '\n')
    (table : Table) :
    ∀ line ∈ table.body, char ∉ line.toList := by
  have foreign : isNumeral char = false ∧ char ∉ [' ', ',', '\x7d', ';'] := by
    rcases outside with rfl | rfl <;> decide
  simp only [List.mem_cons, List.not_mem_nil, or_false, not_or] at foreign
  intro line member
  rcases List.mem_append.mp member with rows | closing
  · obtain ⟨sample, -, rfl⟩ := List.mem_map.mp rows
    simp [row, FixedWidth.notMem_text foreign.1, foreign]
  · rw [List.mem_singleton.mp closing]
    simp [foreign]

/-- The number in a line tells the sample. -/
theorem row_inj {left right : Int16} : row left = row right ↔ left = right := by
  rw [row, row, String.append_left_inj, String.append_right_inj, FixedWidth.text_inj]

theorem body_inj {left right : Table} :
    left.body = right.body ↔ left.samples = right.samples := by
  rw [body, body, List.append_left_inj]
  exact (List.map_injective_iff.mpr fun _ _ => row_inj.mp).eq_iff

/-- The text of a table is its lines. -/
theorem text_eq_unlines (table : Table) : table.text = unlines (table.opening :: table.body) := by
  have rows :
      unlines (table.samples.map row) = String.join (table.samples.map sampleLine) := by
    rw [unlines, List.map_map]
    congr 2
    funext sample
    simp [row, sampleLine, FixedWidth.text, FixedWidth.toInt, String.append_assoc]
  rw [← List.singleton_append, unlines_append, body, unlines_append, rows]
  simp [unlines, text, opening, String.append_assoc]

/-- In front of its last bracket a text can be split in one way only. -/
theorem append_bracket_inj
    {left right leftRest rightRest : List Char}
    (leftLast : '[' ∉ leftRest)
    (rightLast : '[' ∉ rightRest)
    (same : left ++ '[' :: leftRest = right ++ '[' :: rightRest) :
    left = right ∧ leftRest = rightRest := by
  have noBracket {rest : List Char} (last : '[' ∉ rest) :
      ∀ char ∈ rest.reverse, (char != '[') = true := by
    intro char member
    rw [bne_iff_ne]
    rintro rfl
    exact last (List.mem_reverse.mp member)
  -- Seen from the end, what follows the bracket is what stands in front of it.
  have mirrored := congrArg List.reverse same
  rw [List.reverse_append, List.reverse_append, List.reverse_cons, List.reverse_cons,
    List.append_assoc, List.append_assoc] at mirrored
  obtain ⟨rests, names⟩ :=
    append_inj_of_span (noBracket leftLast) (noBracket rightLast) (by rfl) (by rfl) mirrored
  exact ⟨List.reverse_injective (List.append_cancel_left names), List.reverse_injective rests⟩

/-- The last bracket in the text of a table stands behind its name. -/
theorem toList_text (table : Table) :
    table.text.toList =
      "int16_t ".toList ++ (table.name.toList ++
        '[' :: ("] = \x7b\n".toList ++ (unlines table.body).toList)) := by
  rw [text_eq_unlines, ← List.singleton_append, unlines_append]
  simp [unlines, opening]

theorem bracket_notMem_body (table : Table) : '[' ∉ (unlines table.body).toList := by
  intro bracket
  rw [unlines, String.toList_join, List.flatMap_map, List.mem_flatMap] at bracket
  obtain ⟨line, member, bracket⟩ := bracket
  simp [table.notMem_body (.inl rfl) line member] at bracket

/-- Different tables have different texts. -/
theorem text_inj {left right : Table} : left.text = right.text ↔ left = right := by
  constructor
  · intro same
    have chars := congrArg String.toList same
    rw [toList_text, toList_text] at chars
    have last (table : Table) :
        '[' ∉ "] = \x7b\n".toList ++ (unlines table.body).toList := by
      rw [List.mem_append, not_or]
      exact ⟨by decide, table.bracket_notMem_body⟩
    obtain ⟨names, bodies⟩ :=
      append_bracket_inj (last left) (last right) (List.append_cancel_left chars)
    have unbroken (table : Table) : ∀ line ∈ table.body, '\n' ∉ line.toList :=
      table.notMem_body (.inr rfl)
    have lines := congrArg linesOf (String.toList_injective (List.append_cancel_left bodies))
    rw [linesOf_unlines (unbroken left), linesOf_unlines (unbroken right),
      List.append_left_inj] at lines
    obtain ⟨name, samples⟩ := left
    obtain ⟨otherName, otherSamples⟩ := right
    obtain rfl : name = otherName := String.toList_injective names
    obtain rfl : samples = otherSamples := body_inj.mp lines
    rfl
  · rintro rfl
    rfl

/-- The number in the line of a sample is the sample. -/
theorem exists_number (sample : Int16) :
    ∃ number, row sample = "    " ++ number ++ "," ∧ number.toInt? = some sample.toInt :=
  ⟨FixedWidth.text sample, rfl, Int.toInt?_repr sample.toInt⟩

/--
The text of a table determines the table: two tables have the same text exactly if they
have the same name and the same samples, whatever their names look like.

If the name has no newline in it, the text is cut at its newlines into two lines more than
there are samples: the first one gives the name, then there is a line for each sample, from
which the sample can be read, and the last line closes the table.
-/
theorem text_determines_table :
    (∀ left right : Table,
      left.text = right.text ↔ left.name = right.name ∧ left.samples = right.samples) ∧
    ∀ table : Table,
      '\n' ∉ table.name.toList →
      ∃ rows,
        table.text = unlines (table.opening :: rows ++ ["\x7d;"]) ∧
          linesOf table.text = table.opening :: rows ++ ["\x7d;"] ++ [""] ∧
          rows.length = table.samples.length ∧
          table.opening = "int16_t " ++ table.name ++ "[] = \x7b" ∧
          List.Forall₂
            (fun sample line =>
              ∃ number, line = "    " ++ number ++ "," ∧ number.toInt? = some sample.toInt)
            table.samples rows := by
  constructor
  · intro left right
    rw [text_inj]
    cases left
    cases right
    exact Table.mk.injEq .. ▸ Iff.rfl
  · intro table unbroken
    have lines :
        table.opening :: table.body = table.opening :: table.samples.map row ++ ["\x7d;"] :=
      rfl
    refine ⟨table.samples.map row, table.text_eq_unlines, ?_, List.length_map _, rfl, ?_⟩
    · rw [← lines, text_eq_unlines]
      refine linesOf_unlines fun line member => ?_
      rcases List.mem_cons.mp member with rfl | behind
      · simp [opening, unbroken]
      · exact table.notMem_body (.inr rfl) line behind
    · rw [List.forall₂_map_right_iff, List.forall₂_same]
      exact fun sample _ => exists_number sample

/-- A name that looks like a table in front of another one, and a name that has a bracket in it. -/
theorem text_determines_table_hostile_name :
    (Table.mk "a[] = \x7b\n    1,\n\x7d;\nint16_t b" [2]).text ≠ (Table.mk "b" [2]).text ∧
      ∃ rows,
        linesOf (Table.mk "a[], b" [-32768, 7]).text =
            "int16_t a[], b[] = \x7b" :: rows ++ ["\x7d;"] ++ [""] ∧
          List.Forall₂
            (fun (sample : Int16) line =>
              ∃ number, line = "    " ++ number ++ "," ∧ number.toInt? = some sample.toInt)
            [-32768, 7] rows := by
  constructor
  · intro same
    exact absurd ((text_determines_table.1 _ _).mp same).1 (by decide)
  · obtain ⟨rows, -, lines, -, -, numbers⟩ :=
      text_determines_table.2 ⟨"a[], b", [-32768, 7]⟩ (by decide)
    exact ⟨rows, lines, numbers⟩

end Table

end Tone

end AudioScope
