import AudioScope.C.ArrayDefinition
import AudioScope.Proofs.CommandLine.Value
import AudioScope.Proofs.Json.Number
import AudioScope.Tone

namespace AudioScope

/-!
# Tables are array definitions

The text of a table whose name has the characters of an identifier is cut into the tokens
of an array definition, from which the name and the samples are read back.  So the text
defines an array of 16-bit integers exactly if the name is no keyword.
-/

namespace C

section Tokens

variable {rest : List Char}

theorem tokens?_white
    {char : Char}
    (white : isWhite char = true)
    (rest : List Char) :
    tokens? (char :: rest) = tokens? rest := by
  rw [tokens?, if_pos white]

theorem tokens?_mark
    {char : Char}
    (mark : isMark char = true)
    (rest : List Char) :
    tokens? (char :: rest) = (tokens? rest).map (.mark char :: ·) := by
  obtain ⟨notWhite, notNondigit, notDigit⟩ :
      isWhite char = false ∧ isNondigit char = false ∧ char.isDigit = false := by
    have one := List.contains_iff_mem.mp mark
    simp only [List.mem_cons, List.not_mem_nil, or_false] at one
    rcases one with rfl | rfl | rfl | rfl | rfl | rfl | rfl | rfl <;> decide
  rw [tokens?, notWhite, notNondigit, notDigit, mark]
  simp only [Bool.false_eq_true, if_false, if_true]

/-- A letter is no white space. -/
theorem isWhite_of_continuesWord
    {char : Char}
    (continues : continuesWord char = true) :
    isWhite char = false := by
  cases white : isWhite char with
  | false => rfl
  | true =>
      simp only [isWhite, Bool.or_eq_true, beq_iff_eq] at white
      rcases white with ((((rfl | rfl) | rfl) | rfl) | rfl) | rfl <;> cases continues

/-- A word is one token, up to where it ends. -/
theorem tokens?_word
    {name : String}
    (starts : name.toList.head?.any isNondigit = true)
    (continues : name.toList.all continuesWord = true)
    (stops : rest.head?.any continuesWord = false) :
    tokens? (name.toList ++ rest) = (tokens? rest).map (.word name :: ·) := by
  cases shape : name.toList with
  | nil =>
      rw [shape] at starts
      cases starts
  | cons char chars =>
      rw [shape] at starts continues
      have nondigit : isNondigit char = true := starts
      obtain ⟨first, others⟩ := List.forall_mem_cons.mp (List.all_eq_true.mp continues)
      have name_eq : String.ofList (char :: chars) = name := by
        rw [← shape, String.ofList_toList]
      rw [List.cons_append, tokens?, isWhite_of_continuesWord first, nondigit,
        List.takeWhile_append_of_pos others, takeWhile_of_stops stops, List.append_nil, name_eq,
        List.dropWhile_append_of_pos others, dropWhile_of_stops stops]
      rfl

theorem continuesConstant_of_isDigit
    {char : Char}
    (digit : char.isDigit = true) :
    continuesConstant char = true := by
  simp [continuesConstant, continuesWord, digit]

/-- A digit does not begin a word. -/
theorem isNondigit_of_isDigit
    {char : Char}
    (digit : char.isDigit = true) :
    isNondigit char = false := by
  obtain ⟨low, high⟩ := CommandLine.isDigit_iff.mp digit
  have notLower : ¬ 'a' ≤ char := fun lower => absurd (Char.le_trans lower high) (by decide)
  have notUpper : ¬ 'A' ≤ char := fun upper => absurd (Char.le_trans upper high) (by decide)
  have notUnderscore : char ≠ '_' := by
    rintro rfl
    cases digit
  simp [isNondigit, notLower, notUpper, notUnderscore]

/-- The digits of a number are a constant, because there is no zero in front of other digits. -/
theorem constant?_toDigits (number : Nat) : constant? (Nat.toDigits 10 number) = some number := by
  have digits : (Nat.toDigits 10 number).all Char.isDigit = true :=
    List.all_eq_true.mpr fun _ => isDigit_of_mem_toDigits
  have wellFormed :
      ((Nat.toDigits 10 number).head? != some '0' || (Nat.toDigits 10 number).length == 1) =
        true := by
    rcases Nat.eq_zero_or_pos number with rfl | positive
    · rfl
    · obtain ⟨first, more, shape, nonzero⟩ := Json.toDigits_of_pos positive
      simp [shape, nonzero]
  rw [constant?, digits, wellFormed, Nat.ofDigitChars_ten_toDigits]
  rfl

/-- A number is one token, up to where it ends. -/
theorem tokens?_toDigits
    (number : Nat)
    (stops : rest.head?.any continuesConstant = false) :
    tokens? (Nat.toDigits 10 number ++ rest) = (tokens? rest).map (.constant number :: ·) := by
  have allDigits (char : Char) (member : char ∈ Nat.toDigits 10 number) : char.isDigit = true :=
    isDigit_of_mem_toDigits member
  have value := constant?_toDigits number
  obtain ⟨char, chars, shape⟩ :=
    List.exists_cons_of_ne_nil (Nat.toDigits_ne_nil (b := 10) (n := number))
  rw [shape] at allDigits value ⊢
  obtain ⟨digit, others⟩ := List.forall_mem_cons.mp allDigits
  have continues : ∀ char ∈ chars, continuesConstant char = true :=
    fun char member => continuesConstant_of_isDigit (others char member)
  have notWhite : isWhite char = false :=
    isWhite_of_continuesWord (by simp [continuesWord, digit])
  rw [List.cons_append, tokens?, notWhite, isNondigit_of_isDigit digit, digit,
    List.takeWhile_append_of_pos continues, takeWhile_of_stops stops, List.append_nil, value,
    List.dropWhile_append_of_pos continues, dropWhile_of_stops stops]
  cases tokens? rest <;> rfl

end Tokens

/-- The tokens of an integer in a list: perhaps a minus sign, its magnitude, and a comma. -/
def constantTokens (value : Int) : List Token :=
  if value < 0 then
    [.mark '-', .constant value.natAbs, .mark ',']
  else
    [.constant value.natAbs, .mark ',']

/-- The values of a list of integers are read back from its tokens. -/
theorem values?_constants (values : List Int) :
    values? (values.flatMap constantTokens ++ [.mark '\x7d', .mark ';']) = some values := by
  induction values with
  | nil => rfl
  | cons value values inductionHypothesis =>
      rw [List.flatMap_cons, List.append_assoc, constantTokens]
      by_cases negative : value < 0
      · have magnitude : -(value.natAbs : Int) = value := by
          rw [Int.ofNat_natAbs_of_nonpos (Int.le_of_lt negative), Int.neg_neg]
        rw [if_pos negative]
        simp only [List.cons_append, List.nil_append, values?, inductionHypothesis, magnitude,
          Option.map_some]
      · have magnitude : (value.natAbs : Int) = value :=
          Int.natAbs_of_nonneg (Int.not_lt.mp negative)
        rw [if_neg negative]
        simp only [List.cons_append, List.nil_append, values?, inductionHypothesis, magnitude,
          Option.map_some]

/-- A number and a comma behind it are cut into two tokens. -/
theorem tokens?_toDigits_comma
    (number : Nat)
    (rest : List Char) :
    tokens? (Nat.toDigits 10 number ++ ',' :: rest) =
      (tokens? rest).map ([.constant number, .mark ','] ++ ·) := by
  rw [tokens?_toDigits number (by rfl), tokens?_mark (by rfl), Option.map_map]
  rfl

/-- An integer and a comma behind it are cut into the tokens of the integer. -/
theorem tokens?_toString
    (value : Int)
    (rest : List Char) :
    tokens? ((toString value).toList ++ ',' :: rest) =
      (tokens? rest).map (constantTokens value ++ ·) := by
  rw [constantTokens]
  by_cases negative : value < 0
  · have same : (-value).toNat = value.natAbs := by
      omega
    rw [if_pos negative, toList_toString_of_neg negative, List.cons_append,
      tokens?_mark (by rfl), tokens?_toDigits_comma, Option.map_map, same]
    rfl
  · have same : value.toNat = value.natAbs := by
      omega
    rw [if_neg negative, toList_toString_of_nonneg (Int.not_lt.mp negative), tokens?_toDigits_comma,
      same]

end C

namespace Tone

open C

/-- A line of a sample is cut into the tokens of the sample. -/
theorem tokens?_sampleLine
    (sample : Int16)
    (rest : List Char) :
    tokens? ((Table.sampleLine sample).toList ++ rest) =
      (tokens? rest).map (constantTokens sample.toInt ++ ·) := by
  have shape :
      (Table.sampleLine sample).toList ++ rest =
        ' ' :: ' ' :: ' ' :: ' ' :: ((toString sample.toInt).toList ++ ',' :: '\n' :: rest) := by
    simp [Table.sampleLine]
  rw [shape]
  iterate 4 rw [tokens?_white (by rfl)]
  rw [tokens?_toString, tokens?_white (by rfl)]

theorem tokens?_sampleLines
    (samples : List Int16)
    (rest : List Char) :
    tokens? ((String.join (samples.map Table.sampleLine)).toList ++ rest) =
      (tokens? rest).map ((samples.map Int16.toInt).flatMap constantTokens ++ ·) := by
  induction samples with
  | nil =>
      exact (Option.map_id' (x := tokens? rest)).symm
  | cons sample samples inductionHypothesis =>
      rw [List.map_cons, String.join_cons, String.toList_append, List.append_assoc,
        tokens?_sampleLine, inductionHypothesis, Option.map_map, List.map_cons, List.flatMap_cons]
      simp only [Function.comp_def, List.append_assoc]

/-- The characters of an identifier make it a word. -/
theorem isWord_of_isIdentifier
    {name : String}
    (identifier : CommandLine.isIdentifier name.toList = true) :
    name.toList.head?.any isNondigit = true ∧ name.toList.all continuesWord = true := by
  have nondigit {char : Char} (letter : CommandLine.IsLetter char ∨ char = '_') :
      isNondigit char = true := by
    simpa [isNondigit, CommandLine.IsLetter] using letter
  obtain ⟨first, rest, shape, starts, continues⟩ := CommandLine.isIdentifier_iff.mp identifier
  rw [shape, List.all_cons, Bool.and_eq_true, List.all_eq_true]
  refine ⟨nondigit starts, by simp [continuesWord, nondigit starts], fun char member => ?_⟩
  rcases continues char member with letter | digit | underscore
  · simp [continuesWord, nondigit (.inl letter)]
  · simp [continuesWord, CommandLine.isDigit_iff.mpr digit]
  · simp [continuesWord, nondigit (.inr underscore)]

section

variable {table : Table}

/-- The text of a table defines an array with the name and the samples of the table. -/
theorem ofText?_text (identifier : CommandLine.isIdentifier table.name.toList = true) :
    ArrayDefinition.ofText? table.text =
      some ⟨"int16_t", table.name, table.samples.map Int16.toInt⟩ := by
  obtain ⟨starts, continues⟩ := isWord_of_isIdentifier identifier
  let rows := (String.join (table.samples.map Table.sampleLine)).toList
  have shape :
      table.text.toList =
        "int16_t".toList ++ ' ' :: (table.name.toList ++
          '[' :: ']' :: ' ' :: '=' :: ' ' :: '\x7b' :: '\n' :: (rows ++ ['\x7d', ';', '\n'])) := by
    simp [Table.text, rows]
  have closing : tokens? ['\x7d', ';', '\n'] = some [.mark '\x7d', .mark ';'] := by
    rw [tokens?_mark (by rfl), tokens?_mark (by rfl), tokens?_white (by rfl), tokens?]
    rfl
  rw [ArrayDefinition.ofText?, shape, tokens?_word (by rfl) (by rfl) (by rfl),
    tokens?_white (by rfl), tokens?_word starts continues (by rfl), tokens?_mark (by rfl),
    tokens?_mark (by rfl), tokens?_white (by rfl), tokens?_mark (by rfl), tokens?_white (by rfl),
    tokens?_mark (by rfl), tokens?_white (by rfl), tokens?_sampleLines, closing]
  simp only [Option.map_some, Option.bind_some, ArrayDefinition.ofTokens?, values?_constants]

/-- A table that has samples defines an array exactly if its name is no keyword. -/
theorem isInt16Array_text_iff
    (identifier : CommandLine.isIdentifier table.name.toList = true)
    (sampled : table.samples ≠ []) :
    IsInt16Array table.text ↔ table.name ∉ keywords := by
  obtain ⟨starts, continues⟩ := isWord_of_isIdentifier identifier
  have found := ofText?_text identifier
  constructor
  · rintro ⟨definition, read, -, name, -, -⟩
    obtain rfl := Option.some.inj (found.symm.trans read)
    exact name.2.2
  · intro noKeyword
    refine ⟨_, found, rfl, ⟨starts, continues, noKeyword⟩, by simpa using sampled, ?_⟩
    intro value member
    obtain ⟨sample, -, rfl⟩ := List.mem_map.mp member
    exact ⟨sample.le_toInt, Int.le_of_lt_add_one sample.toInt_lt⟩

end

end Tone

end AudioScope
