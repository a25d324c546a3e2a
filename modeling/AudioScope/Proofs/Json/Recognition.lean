import Mathlib.Data.List.Induction
import AudioScope.Proofs.Json.Spelling

namespace AudioScope.Json

/-!
# What is read is JSON

The readers that succeed have read the text of a syntax tree: a string, a number or any
value that is passed over stands at the front of the text, and what is left follows it.
Together with the lemmas that the text of every tree is read, this says that the readers
and the grammar agree.
-/

section Lists

variable {α β : Type}

/-- A list of images is the image of a list. -/
theorem exists_map_eq
    {image : α → β}
    {values : List β}
    (all : ∀ value ∈ values, ∃ source, image source = value) :
    ∃ sources : List α, sources.map image = values := by
  induction values with
  | nil => exact ⟨[], rfl⟩
  | cons value values inductionHypothesis =>
      obtain ⟨⟨source, rfl⟩, others⟩ := List.forall_mem_cons.mp all
      obtain ⟨sources, rfl⟩ := inductionHypothesis others
      exact ⟨source :: sources, rfl⟩

end Lists

/-- What is skipped in front of a text are blanks. -/
theorem exists_blankText (text : List Char) :
    ∃ blanks, text = blankText blanks ++ skipBlanks text := by
  have isText : ∀ char ∈ text.takeWhile isBlank, ∃ blank : Blank, blank.char = char := by
    intro char member
    have blank := List.all_eq_true.mp List.all_takeWhile char member
    simp only [isBlank, Bool.or_eq_true, beq_iff_eq] at blank
    rcases blank with ((rfl | rfl) | rfl) | rfl
    · exact ⟨.space, rfl⟩
    · exact ⟨.newline, rfl⟩
    · exact ⟨.tab, rfl⟩
    · exact ⟨.carriageReturn, rfl⟩
  obtain ⟨blanks, same⟩ := exists_map_eq isText
  refine ⟨blanks, ?_⟩
  rw [blankText, same, skipBlanks, List.takeWhile_append_dropWhile]

section Strings

variable {text rest chars : List Char} {char : Char}

theorem exists_hexDigit
    {value : Nat}
    (found : hexDigit? char = some value) :
    ∃ digit : HexDigit, digit.char = char ∧ digit.value.val = value := by
  -- All digits are characters of one byte, and among these each value belongs to its digit.
  have checked :
      ∀ code < 128,
        (hexDigit? (Char.ofNat code)).all fun value =>
          value < 16 &&
            (HexDigit.char ⟨Fin.ofNat 16 value, false⟩ == Char.ofNat code ||
              HexDigit.char ⟨Fin.ofNat 16 value, true⟩ == Char.ofNat code) := by
    decide +kernel
  have small : char.toNat < 128 := by
    unfold hexDigit? at found
    simp only [Char.isDigit_iff_toNat, Char.le_def, UInt32.le_iff_toNat_le] at found
    split at found
    · next digit => exact Nat.lt_of_le_of_lt digit.2 (by decide)
    · split at found
      · next letter => exact Nat.lt_of_le_of_lt letter.2 (by decide)
      · split at found
        · next letter => exact Nat.lt_of_le_of_lt letter.2 (by decide)
        · cases found
  have belongs := checked char.toNat small
  rw [Char.ofNat_toNat, found, Option.all_some, Bool.and_eq_true, Bool.or_eq_true, beq_iff_eq,
    beq_iff_eq, decide_eq_true_eq] at belongs
  obtain ⟨bound, lower | capital⟩ := belongs
  · exact ⟨_, lower, Nat.mod_eq_of_lt bound⟩
  · exact ⟨_, capital, Nat.mod_eq_of_lt bound⟩

theorem exists_codeUnit
    {unit : Nat}
    (read : readCodeUnit text = .ok (unit, rest)) :
    ∃ digits : CodeUnit, text = digits.text ++ rest ∧ digits.value = unit := by
  unfold readCodeUnit at read
  split at read
  · next one two three four behind =>
    cases found : codeUnit? one two three four with
    | none => rw [found] at read; cases read
    | some value =>
        rw [found] at read
        cases read
        simp only [codeUnit?, Option.bind_eq_bind, Option.bind_eq_some_iff] at found
        obtain ⟨first, firstFound, second, secondFound, third, thirdFound, fourth, fourthFound,
          same⟩ := found
        obtain ⟨one, rfl, rfl⟩ := exists_hexDigit firstFound
        obtain ⟨two, rfl, rfl⟩ := exists_hexDigit secondFound
        obtain ⟨three, rfl, rfl⟩ := exists_hexDigit thirdFound
        obtain ⟨four, rfl, rfl⟩ := exists_hexDigit fourthFound
        exact ⟨⟨one, two, three, four⟩, rfl, Option.some.inj same⟩
  · cases read

/-- The second half of a pair is an escaped code unit. -/
theorem exists_partner
    {leading : Nat}
    (read : readPartner leading text = .ok (char, rest)) :
    ∃ partner : CodeUnit,
      text = '\\' :: 'u' :: (partner.text ++ rest) ∧
        isTrailing partner.value = true ∧ char = pairedChar leading partner.value := by
  unfold readPartner at read
  cases skipped : skipWord ['\\', 'u'] text with
  | error flaw => rw [skipped] at read; cases read
  | ok behind =>
      rw [skipWord_eq_ok skipped]
      simp only [skipped, bind, Except.bind] at read
      split at read
      · cases read
      · next unitRead =>
        obtain ⟨partner, rfl, same⟩ := exists_codeUnit unitRead
        split at read
        · next isPartner =>
          simp only [Except.ok.injEq, Prod.mk.injEq] at read
          obtain ⟨rfl, rfl⟩ := read
          rw [← same] at isPartner ⊢
          exact ⟨partner, rfl, isPartner, rfl⟩
        · cases read

theorem exists_shortEscape
    {letter : Char}
    (found : simpleEscape? letter = some char) :
    ∃ escape : ShortEscape, escape.letter = letter ∧ escape.char = char := by
  unfold simpleEscape? at found
  split at found <;> cases found
  · exact ⟨.quote, rfl, rfl⟩
  · exact ⟨.backslash, rfl, rfl⟩
  · exact ⟨.slash, rfl, rfl⟩
  · exact ⟨.backspace, rfl, rfl⟩
  · exact ⟨.formFeed, rfl, rfl⟩
  · exact ⟨.newline, rfl, rfl⟩
  · exact ⟨.carriageReturn, rfl, rfl⟩
  · exact ⟨.tab, rfl, rfl⟩

/-- Behind a backslash a character is spelled. -/
theorem exists_pieces_of_readEscape
    (read : readEscape text = .ok (char, rest)) :
    ∃ pieces,
      '\\' :: text = pieces.flatMap Piece.text ++ rest ∧
        ∀ others, spelled? (pieces ++ others) = (spelled? others).map (char :: ·) := by
  unfold readEscape at read
  split at read
  · cases read
  · next digits =>
    split at read
    · cases read
    · next unit behind unitRead =>
      obtain ⟨leading, rfl, rfl⟩ := exists_codeUnit unitRead
      split at read
      · cases read
      · next notTrailing =>
        split at read
        · next isLeading =>
          obtain ⟨partner, rfl, isPartner, paired⟩ := exists_partner read
          refine ⟨[.unit leading, .unit partner], by simp [Piece.text], fun others => ?_⟩
          rw [List.cons_append, List.cons_append, List.nil_append, spelled?.eq_def, paired]
          simp only [notTrailing, isLeading, isPartner, if_true]
          rfl
        · next notLeading =>
          simp only [Except.ok.injEq, Prod.mk.injEq] at read
          obtain ⟨rfl, rfl⟩ := read
          refine ⟨[.unit leading], by simp [Piece.text], fun others => ?_⟩
          rw [List.cons_append, List.nil_append, spelled?.eq_def]
          simp only [notTrailing, notLeading]
          rfl
  · next letter behind notUnit =>
    cases found : simpleEscape? letter with
    | none => rw [found] at read; cases read
    | some char =>
        rw [found] at read
        cases read
        obtain ⟨escape, rfl, rfl⟩ := exists_shortEscape found
        exact ⟨[.short escape], rfl, fun others => rfl⟩

/-- What is read as a string is a string that spells the text. -/
theorem exists_pieces_of_readString (read : readString text = .ok (chars, rest)) :
    ∃ pieces,
      spelled? pieces = some chars ∧ text = pieces.flatMap Piece.text ++ '"' :: rest := by
  fun_induction readString text generalizing chars rest with
  | case1 => cases read
  | case2 =>
      cases read
      exact ⟨[], rfl, rfl⟩
  | case3 => cases read
  | case4 escape char middle escaped inductionHypothesis =>
      cases inner : readString middle with
      | error flaw => rw [inner] at read; cases read
      | ok pair =>
          rw [inner] at read
          cases read
          obtain ⟨first, shape, spells⟩ := exists_pieces_of_readEscape escaped
          obtain ⟨others, spelled, rfl⟩ := inductionHypothesis inner
          refine ⟨first ++ others, by rw [spells, spelled]; rfl, ?_⟩
          rw [shape, List.flatMap_append, List.append_assoc]
  | case5 => cases read
  | case6 char middle notQuote notEscape notControl inductionHypothesis =>
      cases inner : readString middle with
      | error flaw => rw [inner] at read; cases read
      | ok pair =>
          rw [inner] at read
          cases read
          obtain ⟨others, spelled, rfl⟩ := inductionHypothesis inner
          have plain : char ≠ '"' ∧ char ≠ '\\' ∧ 0x20 ≤ char.toNat :=
            ⟨notQuote, notEscape, by simpa [isControl] using notControl⟩
          exact ⟨.plain char plain :: others, by rw [spelled?, spelled]; rfl, rfl⟩

/-- What is passed over behind a backslash is an escape. -/
theorem exists_piece_of_skipEscape (skipped : skipEscape text = .ok rest) :
    ∃ piece : Piece, '\\' :: text = piece.text ++ rest := by
  unfold skipEscape at skipped
  split at skipped
  · cases skipped
  · next digits =>
    cases unitRead : readCodeUnit digits with
    | error flaw => rw [unitRead] at skipped; cases skipped
    | ok pair =>
        rw [unitRead] at skipped
        cases skipped
        obtain ⟨unit, rfl, -⟩ := exists_codeUnit unitRead
        exact ⟨.unit unit, rfl⟩
  · split at skipped
    · next known =>
      cases skipped
      obtain ⟨char, found⟩ := Option.isSome_iff_exists.mp known
      obtain ⟨escape, rfl, -⟩ := exists_shortEscape found
      exact ⟨.short escape, rfl⟩
    · cases skipped

/-- What is passed over as a string is a string. -/
theorem exists_pieces_of_skipString (skipped : skipString text = .ok rest) :
    ∃ pieces : List Piece, text = pieces.flatMap Piece.text ++ '"' :: rest := by
  fun_induction skipString text with
  | case1 => cases skipped
  | case2 =>
      cases skipped
      exact ⟨[], rfl⟩
  | case3 => cases skipped
  | case4 escape middle escaped inductionHypothesis =>
      obtain ⟨first, shape⟩ := exists_piece_of_skipEscape escaped
      obtain ⟨others, rfl⟩ := inductionHypothesis skipped
      exact ⟨first :: others, by rw [shape, List.flatMap_cons, List.append_assoc]⟩
  | case5 => cases skipped
  | case6 char middle notQuote notEscape notControl inductionHypothesis =>
      obtain ⟨others, rfl⟩ := inductionHypothesis skipped
      have plain : char ≠ '"' ∧ char ≠ '\\' ∧ 0x20 ≤ char.toNat :=
        ⟨notQuote, notEscape, by simpa [isControl] using notControl⟩
      exact ⟨.plain char plain :: others, rfl⟩

end Strings

section Numbers

variable {text rest : List Char}

theorem exists_digit
    {char : Char}
    (digit : char.isDigit = true) :
    ∃ value : Fin 10, Nat.digitChar value = char := by
  obtain ⟨low, high⟩ := Char.isDigit_iff_toNat.mp digit
  have zero : '0'.toNat = 48 := rfl
  have nine : '9'.toNat = 57 := rfl
  have small : char.toNat - 48 < 10 := by omega
  refine ⟨⟨char.toNat - 48, small⟩, Char.toNat_inj.mp ?_⟩
  rw [Nat.toNat_digitChar_of_lt_ten small]
  omega

/-- A text that begins with a digit begins with all its digits. -/
theorem exists_digits (starts : startsWithDigit text = true) :
    ∃ (digits : Digits) (behind : List Char),
      text.dropWhile Char.isDigit = behind ∧ text = digits.text ++ behind := by
  cases text with
  | nil => cases starts
  | cons char tail =>
      have digit : char.isDigit = true := starts
      have allDigits := List.all_eq_true.mp (List.all_takeWhile (p := Char.isDigit) (l := tail))
      obtain ⟨first, firstSame⟩ := exists_digit digit
      obtain ⟨more, moreSame⟩ :=
        exists_map_eq fun char member => exists_digit (allDigits char member)
      refine ⟨⟨first, more⟩, _, rfl, ?_⟩
      rw [Digits.text, List.map_cons, firstSame, moreSame, List.cons_append,
        List.dropWhile_cons_of_pos digit, List.takeWhile_append_dropWhile]

theorem startsWithDigit_dropWhile (text : List Char) :
    startsWithDigit (text.dropWhile Char.isDigit) = false := by
  have first := List.head?_dropWhile_not Char.isDigit text
  unfold startsWithDigit
  cases found : (text.dropWhile Char.isDigit).head? with
  | none => rfl
  | some char => simpa [found] using first

/-- Digits of which the first is no zero are the digits of a number. -/
theorem exists_toDigits
    {first : Char}
    {more : List Char}
    (nonzero : first ≠ '0')
    (allDigits : ∀ char ∈ first :: more, char.isDigit = true) :
    ∃ number, 0 < number ∧ Nat.toDigits 10 number = first :: more := by
  -- The last digit is put behind the number of the others, which is none but zero.
  induction more using List.reverseRecOn with
  | nil =>
      obtain ⟨digit, same⟩ := exists_digit (allDigits first List.mem_cons_self)
      refine ⟨digit, Nat.pos_of_ne_zero ?_, by rw [Nat.toDigits_of_lt_base digit.isLt, same]⟩
      intro zero
      rw [zero] at same
      exact nonzero same.symm
  | append_singleton more last inductionHypothesis =>
      rw [← List.cons_append] at allDigits ⊢
      obtain ⟨others, lastDigit⟩ := List.forall_mem_append.mp allDigits
      obtain ⟨digit, rfl⟩ := exists_digit (lastDigit last (List.mem_singleton_self last))
      obtain ⟨number, positive, same⟩ := inductionHypothesis others
      refine ⟨10 * number + digit, by omega, ?_⟩
      rw [← Nat.toDigits_append_toDigits (by decide) positive digit.isLt, same,
        Nat.toDigits_of_lt_base digit.isLt]

/-- What is passed over as an exponent is an exponent, if there is anything. -/
theorem exists_exponent (skipped : skipPower text = .ok rest) :
    ∃ exponent : Option Exponent, text = exponent.elim [] Exponent.text ++ rest := by
  unfold skipPower at skipped
  split at skipped
  · cases skipped
    exact ⟨none, rfl⟩
  · next char tail =>
    split at skipped
    · next mark =>
      obtain ⟨sign, signed⟩ : ∃ sign : ExponentSign, tail = sign.text ++ (readSign tail).2 := by
        unfold readSign
        split
        · exact ⟨.plus, rfl⟩
        · exact ⟨.minus, rfl⟩
        · exact ⟨.absent, rfl⟩
      generalize (readSign tail).2 = magnitude at skipped signed
      simp only at skipped
      split at skipped
      · next starts =>
        obtain ⟨digits, behind, left, rfl⟩ := exists_digits starts
        rw [left] at skipped
        cases skipped
        simp only [isExponentMark, Bool.or_eq_true, beq_iff_eq] at mark
        rcases mark with rfl | rfl
        · exact ⟨some ⟨false, sign, digits⟩, by simp [Exponent.text, signed]⟩
        · exact ⟨some ⟨true, sign, digits⟩, by simp [Exponent.text, signed]⟩
      · cases skipped
    · cases skipped
      exact ⟨none, rfl⟩

theorem exists_tail (skipped : skipTail text = .ok rest) :
    ∃ fraction exponent, ∀ negative whole,
      text = Number.tail ⟨negative, whole, fraction, exponent⟩ ++ rest := by
  unfold skipTail at skipped
  split at skipped
  · split at skipped
    · next starts =>
      obtain ⟨digits, behind, left, shape⟩ := exists_digits starts
      rw [left] at skipped
      obtain ⟨exponent, rfl⟩ := exists_exponent skipped
      exact ⟨some digits, exponent, fun negative whole => by simp [Number.tail, shape]⟩
    · cases skipped
  · obtain ⟨exponent, same⟩ := exists_exponent skipped
    exact ⟨none, exponent, fun negative whole => by simpa [Number.tail] using same⟩

/-- What is passed over behind a sign is a whole number, with a fraction and an exponent or not. -/
theorem exists_magnitude (skipped : skipMagnitude text = .ok rest) :
    ∃ whole fraction exponent, ∀ negative,
      text = Nat.toDigits 10 whole ++
        (Number.tail ⟨negative, whole, fraction, exponent⟩ ++ rest) := by
  unfold skipMagnitude at skipped
  split at skipped
  · cases skipped
  · next char tail =>
    split at skipped
    · next zero =>
      split at skipped
      · cases skipped
      · obtain ⟨fraction, exponent, same⟩ := exists_tail skipped
        exact ⟨0, fraction, exponent, fun negative => by rw [zero, ← same negative 0]; rfl⟩
    · next nonzero =>
      split at skipped
      · next digit =>
        have allDigits := List.all_eq_true.mp (List.all_takeWhile (p := Char.isDigit) (l := tail))
        obtain ⟨whole, -, digits⟩ :=
          exists_toDigits nonzero (List.forall_mem_cons.mpr ⟨digit, allDigits⟩)
        obtain ⟨fraction, exponent, same⟩ := exists_tail skipped
        refine ⟨whole, fraction, exponent, fun negative => ?_⟩
        rw [digits, ← same negative whole, List.cons_append, List.takeWhile_append_dropWhile]
      · cases skipped

/-- What is passed over as a number is a number. -/
theorem exists_number (skipped : skipNumber text = .ok rest) :
    ∃ number : Number, text = number.text ++ rest := by
  unfold skipNumber at skipped
  split at skipped
  · obtain ⟨whole, fraction, exponent, same⟩ := exists_magnitude skipped
    exact ⟨⟨true, whole, fraction, exponent⟩, by rw [same true]; simp [Number.text]⟩
  · obtain ⟨whole, fraction, exponent, same⟩ := exists_magnitude skipped
    exact ⟨⟨false, whole, fraction, exponent⟩, by rw [same false]; simp [Number.text]⟩

/-- What is read as an integer behind a sign is a whole number and nothing else. -/
theorem exists_whole
    {negative : Bool}
    {value : Int}
    (read : readMagnitude negative text = .ok (.integer value, rest)) :
    ∃ whole : Nat,
      text = Nat.toDigits 10 whole ++ rest ∧ wholeNumber negative whole = .integer value := by
  unfold readMagnitude at read
  split at read
  · cases read
  · next char tail =>
    split at read
    · next zero =>
      split at read
      · cases read
      · obtain ⟨-, whole, rfl, -⟩ := integer_of_readTail read
        exact ⟨0, by rw [zero]; rfl, whole⟩
    · next nonzero =>
      split at read
      · next digit =>
        obtain ⟨noExcess, whole, left, -⟩ := integer_of_readTail read
        -- Nothing was left over, so the significand is the value of all digits.
        have allDigits := List.all_eq_true.mp (List.all_takeWhile (p := Char.isDigit) (l := tail))
        have split : char :: tail = (char :: tail.takeWhile Char.isDigit) ++
            tail.dropWhile Char.isDigit := by
          rw [List.cons_append, List.takeWhile_append_dropWhile]
        have digits : ∀ other ∈ char :: tail.takeWhile Char.isDigit, other.isDigit = true :=
          List.forall_mem_cons.mpr ⟨digit, allDigits⟩
        obtain ⟨number, -, same⟩ := exists_toDigits nonzero digits
        have stops := startsWithDigit_of_takeWhile noExcess
        rw [split] at stops whole left
        have fits := fits_of_absorb digits (Nat.zero_le _) stops
        have absorbed := absorb_digits digits fits (startsWithDigit_dropWhile tail)
        rw [← same, Nat.ofDigitChars_ten_toDigits] at absorbed
        rw [← same, absorbed] at whole left
        rw [dropWhile_of_stops (startsWithDigit_dropWhile tail)] at left
        exact ⟨number, by rw [split, same, left], whole⟩
      · cases read

/-- A number that stands for an integer has it as its value. -/
theorem integer?_of_wholeNumber
    {negative : Bool}
    {whole : Nat}
    {value : Int}
    (spelled : wholeNumber negative whole = .integer value) :
    Number.integer? ⟨negative, whole, none, none⟩ = some value := by
  refine integer?_eq_some.mpr ⟨rfl, rfl, ?_⟩
  rcases wholeNumber_eq_integer.mp spelled with positive | ⟨minus, nonzero, -, same⟩
  · exact .inl positive
  · exact .inr ⟨minus, nonzero, same⟩

/-- What is read as an integer is a number without a fraction and an exponent. -/
theorem exists_integer
    {value : Int}
    (read : readNumber text = .ok (.integer value, rest)) :
    ∃ number : Number, text = number.text ++ rest ∧ number.integer? = some value := by
  unfold readNumber at read
  split at read
  · obtain ⟨whole, rfl, spelled⟩ := exists_whole read
    exact
      ⟨⟨true, whole, none, none⟩, by simp [Number.text, Number.tail],
        integer?_of_wholeNumber spelled⟩
  · obtain ⟨whole, rfl, spelled⟩ := exists_whole read
    exact
      ⟨⟨false, whole, none, none⟩, by simp [Number.text, Number.tail],
        integer?_of_wholeNumber spelled⟩

end Numbers

section Values

theorem exists_colon
    {text rest : List Char}
    (skipped : skipColon text = .ok rest) :
    ∃ blanks, text = blankText blanks ++ ':' :: rest := by
  obtain ⟨blanks, same⟩ := exists_blankText text
  unfold skipColon at skipped
  split at skipped
  · cases skipped
  · next found =>
    cases skipped
    exact ⟨blanks, by rw [same, found]⟩
  · cases skipped

/-- What is passed over without brackets is a value. -/
theorem exists_scalar
    {text rest : List Char}
    (skipped : skipScalar text = .ok rest) :
    ∃ value : Value, text = value.text ++ rest := by
  unfold skipScalar at skipped
  split at skipped
  · cases skipped
  · exact ⟨.null, by rw [Value.text, skipWord_eq_ok skipped]; rfl⟩
  · exact ⟨.boolean true, by rw [Value.text, skipWord_eq_ok skipped]; rfl⟩
  · exact ⟨.boolean false, by rw [Value.text, skipWord_eq_ok skipped]; rfl⟩
  · obtain ⟨pieces, rfl⟩ := exists_pieces_of_skipString skipped
    exact ⟨.string pieces, by simp [Value.text, quotedText]⟩
  · split at skipped
    · obtain ⟨number, same⟩ := exists_number skipped
      exact ⟨.number number, by rw [Value.text, same]⟩
    · cases skipped

/-- The character that opens a bracket. -/
def Bracket.opening : Bracket → Char
  | square => '['
  | curly => '\x7b'

/-- The rest of a bracket up to its end, from its first item on or behind another one. -/
def Inside
    (first : Bool) :
    Bracket → List Char → List Char → Prop
  | .square, text, behind =>
      ∃ blanks elements, text = blankText blanks ++ (elementsText first elements ++ ']' :: behind)
  | .curly, text, behind =>
      ∃ blanks members, text = blankText blanks ++ (membersText first members ++ '\x7d' :: behind)

/-- The rests of all open brackets, the innermost first, in front of what is left. -/
def Closes : List Bracket → List Char → List Char → Prop
  | [], text, rest => text = rest
  | bracket :: outer, text, rest =>
      ∃ behind, Inside false bracket text behind ∧ Closes outer behind rest

/-- A bracket may end where an item is expected. -/
theorem inside_closing
    {bracket : Bracket}
    {text behind : List Char}
    (found : skipBlanks text = bracket.closing :: behind)
    (first : Bool) :
    Inside first bracket text behind := by
  obtain ⟨blanks, same⟩ := exists_blankText text
  rw [found] at same
  cases bracket with
  | square => exact ⟨blanks, [], by rw [same, elementsText_nil]; rfl⟩
  | curly => exact ⟨blanks, [], by rw [same, membersText_nil]; rfl⟩

/-- What is passed over in front of a value is nothing, or a key and its colon. -/
theorem exists_key
    {text rest : List Char}
    (skipped : skipKey .curly text = .ok rest) :
    ∃ before key behind,
      text = blankText before ++ (quotedText key ++ (blankText behind ++ ':' :: rest)) := by
  obtain ⟨before, same⟩ := exists_blankText text
  simp only [skipKey] at skipped
  split at skipped
  · cases skipped
  · next tail found =>
    split at skipped
    · cases skipped
    · next middle string =>
      obtain ⟨key, rfl⟩ := exists_pieces_of_skipString string
      obtain ⟨behind, colon⟩ := exists_colon skipped
      refine ⟨before, key, behind, ?_⟩
      rw [same, found, colon]
      simp [quotedText]
  · cases skipped

/-- An item and the rest of its bracket behind it are the rest of the bracket in front of it. -/
theorem inside_item
    {bracket : Bracket}
    {text start left behind : List Char}
    (key : skipKey bracket text = .ok start)
    {front : List Blank}
    {value : Value}
    (item : start = blankText front ++ (value.text ++ left))
    (others : Inside false bracket left behind)
    (first : Bool)
    (blanks : List Blank) :
    Inside first bracket (blankText blanks ++ (comma first ++ text)) behind := by
  cases bracket with
  | square =>
      obtain ⟨after, elements, rfl⟩ := others
      cases key
      refine ⟨blanks, ⟨front, value, after⟩ :: elements, ?_⟩
      rw [item, elementsText, comma, Element.text]
      simp
  | curly =>
      obtain ⟨after, members, rfl⟩ := others
      obtain ⟨before, pieces, middle, rfl⟩ := exists_key key
      refine ⟨blanks, ⟨before, pieces, middle, ⟨front, value, after⟩⟩ :: members, ?_⟩
      rw [item, membersText, comma, Member.text, Element.text]
      simp

/-- A bracket and its rest are a value. -/
theorem exists_bracket
    {bracket : Bracket}
    {text behind : List Char}
    (inside : Inside true bracket text behind) :
    ∃ value : Value, bracket.opening :: text = value.text ++ behind := by
  cases bracket with
  | square =>
      obtain ⟨inner, elements, rfl⟩ := inside
      exact ⟨.array inner elements, by rw [Value.text]; simp [Bracket.opening]⟩
  | curly =>
      obtain ⟨inner, members, rfl⟩ := inside
      exact ⟨.object inner members, by rw [Value.text]; simp [Bracket.opening]⟩

/-- A value among blanks, and behind it the rests of all open brackets. -/
def Begins
    (enclosing : List Bracket)
    (text rest : List Char) :
    Prop :=
  ∃ blanks value behind,
    text = blankText blanks ++ (Value.text value ++ behind) ∧ Closes enclosing behind rest

/-- The rest of an innermost bracket, and behind it the rests of all others. -/
def Continues
    (first : Bool)
    (bracket : Bracket)
    (enclosing : List Bracket)
    (text rest : List Char) :
    Prop :=
  ∃ behind, Inside first bracket text behind ∧ Closes enclosing behind rest

/-- Where a bracket is opened, its rest makes it a value. -/
theorem begins_bracket
    (bracket : Bracket)
    {enclosing : List Bracket}
    {text tail rest : List Char}
    (found : skipBlanks text = bracket.opening :: tail)
    (continues : Continues true bracket enclosing tail rest) :
    Begins enclosing text rest := by
  obtain ⟨blanks, same⟩ := exists_blankText text
  obtain ⟨behind, inside, closes⟩ := continues
  obtain ⟨value, shape⟩ := exists_bracket inside
  exact ⟨blanks, value, behind, by rw [same, found, shape], closes⟩

/-- Where an item starts, its value and the rests behind it are the rest of its bracket. -/
theorem continues_item
    {bracket : Bracket}
    {enclosing : List Bracket}
    {text start rest : List Char}
    (key : skipKey bracket text = .ok start)
    (begins : Begins (bracket :: enclosing) start rest)
    (first : Bool)
    (blanks : List Blank) :
    Continues first bracket enclosing (blankText blanks ++ (comma first ++ text)) rest := by
  obtain ⟨front, value, left, same, behind, others, closes⟩ := begins
  exact ⟨behind, inside_item key same others first blanks, closes⟩

/-- Every text that is passed over is the text of a value, and of the rests of open brackets. -/
theorem exists_value :
    (∀ (enclosing : List Bracket) (text rest : List Char),
      skipWithin enclosing text = .ok rest → Begins enclosing text rest) ∧
    (∀ (enclosing : List Bracket) (text rest : List Char),
      skipAfter enclosing text = .ok rest → Closes enclosing text rest) ∧
    ∀ (bracket : Bracket) (enclosing : List Bracket) (text rest : List Char),
      skipFirst bracket enclosing text = .ok rest →
        Continues true bracket enclosing text rest := by
  -- One case for each way in which a value, the text behind one, or a bracket may go on.
  apply skipWithin.mutual_induct
  · intro enclosing text tail found inductionHypothesis rest skipped
    rw [skipWithin_square found] at skipped
    exact begins_bracket .square found (inductionHypothesis rest skipped)
  · intro enclosing text tail found inductionHypothesis rest skipped
    rw [skipWithin_curly found] at skipped
    exact begins_bracket .curly found (inductionHypothesis rest skipped)
  · intro enclosing text flaw notSquare notCurly scalar rest skipped
    rw [skipWithin_scalar notSquare notCurly, scalar] at skipped
    cases skipped
  · intro enclosing text tail notSquare notCurly scalar inductionHypothesis rest skipped
    rw [skipWithin_scalar notSquare notCurly, scalar] at skipped
    obtain ⟨blanks, same⟩ := exists_blankText text
    obtain ⟨value, shape⟩ := exists_scalar scalar
    exact ⟨blanks, value, tail, by rw [← shape]; exact same, inductionHypothesis rest skipped⟩
  · intro text rest skipped
    rw [skipAfter_nil] at skipped
    exact Except.ok.inj skipped
  · intro text bracket outer ended rest skipped
    rw [skipAfter_unfinished ended] at skipped
    cases skipped
  · intro text bracket outer tail found inductionHypothesis rest skipped
    rw [skipAfter_closing found] at skipped
    exact ⟨tail, inside_closing found false, inductionHypothesis rest skipped⟩
  · intro text bracket outer tail flaw key found _ rest skipped
    rw [skipAfter_comma found, key] at skipped
    cases skipped
  · intro text bracket outer tail start key found _ inductionHypothesis rest skipped
    rw [skipAfter_comma found, key] at skipped
    obtain ⟨blanks, same⟩ := exists_blankText text
    have rests := continues_item key (inductionHypothesis rest skipped) false blanks
    rw [same, found]
    exact rests
  · intro text bracket outer char tail found notClosing notComma rest skipped
    rw [skipAfter_other found notClosing notComma] at skipped
    cases skipped
  · intro bracket enclosing text ended rest skipped
    rw [skipFirst_unfinished ended] at skipped
    cases skipped
  · intro bracket enclosing text tail found inductionHypothesis rest skipped
    rw [skipFirst_closing found] at skipped
    exact ⟨tail, inside_closing found true, inductionHypothesis rest skipped⟩
  · intro bracket enclosing text char tail found notClosing flaw key rest skipped
    rw [skipFirst_item found notClosing, key] at skipped
    cases skipped
  · intro bracket enclosing text char tail found notClosing start key inductionHypothesis rest
      skipped
    rw [skipFirst_item found notClosing, key] at skipped
    obtain ⟨blanks, same⟩ := exists_blankText text
    have rests := continues_item key (inductionHypothesis rest skipped) true blanks
    rw [same, found]
    exact rests

/-- What is passed over is a value among blanks. -/
theorem exists_value_of_skipValue
    {text rest : List Char}
    (skipped : skipValue text = .ok rest) :
    ∃ blanks value, text = blankText blanks ++ (Value.text value ++ rest) := by
  obtain ⟨blanks, value, behind, same, closed⟩ := exists_value.1 [] text rest skipped
  exact ⟨blanks, value, by rw [same, show behind = rest from closed]⟩

end Values

end AudioScope.Json
