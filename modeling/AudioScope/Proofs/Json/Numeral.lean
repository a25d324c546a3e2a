import AudioScope.Proofs.Json.Spelling

namespace AudioScope.Json

/-!
# Numbers in front of any text

What a number is read as does not depend on the text behind it, once something stands
there with which the number does not go on (`readNumber_append`).  Every stage of the
reader is shown to have this property by itself.
-/

/-- Whether a number ends where a text begins. -/
def Number.EndsAt
    (number : Number)
    (rest : List Char) : Prop :=
  rest.head?.any number.continues = false

/-- A reader reads one and the same number in front of all texts that stop it. -/
def Settled
    (stops : List Char → Prop)
    (read : List Char → Except Flaw (Numeral × List Char)) : Prop :=
  ∃ result : Except Flaw Numeral,
    ∀ rest, stops rest → read rest = result.map fun numeral => (numeral, rest)

/-- What reads the same as a settled reader is settled, also where it is stopped by less. -/
theorem Settled.congr
    {stops narrower : List Char → Prop}
    {read other : List Char → Except Flaw (Numeral × List Char)}
    (settled : Settled stops read)
    (stopped : ∀ {rest}, narrower rest → stops rest)
    (same : ∀ rest, narrower rest → other rest = read rest) :
    Settled narrower other := by
  obtain ⟨result, reads⟩ := settled
  exact ⟨result, fun rest ends => (same rest ends).trans (reads rest (stopped ends))⟩

section Stages

variable (negative : Bool) (significand : Nat) (power : Int)

theorem settled_readDecimal {stops : List Char → Prop} :
    Settled stops (readDecimal negative significand power) := by
  refine ⟨(scale (Float.ofNat significand) power).map fun value =>
    .decimal (Decimal.ofFloat (if negative then -value else value)), fun rest _ => ?_⟩
  rw [readDecimal]
  cases scale (Float.ofNat significand) power <;> rfl

/-- Digits are taken until they end, if there is anything else. -/
theorem Digits.takeWhile_text
    (digits : Digits)
    {rest : List Char}
    (stops : startsWithDigit rest = false) :
    (digits.text ++ rest).takeWhile Char.isDigit = digits.text := by
  rw [List.takeWhile_append_of_pos fun _ => digits.isDigit_of_mem, takeWhile_of_stops stops,
    List.append_nil]

/-- A sign is told apart from the digits behind it. -/
theorem readSign_append
    (sign : ExponentSign)
    (digits : Digits)
    (rest : List Char) :
    readSign (sign.text ++ (digits.text ++ rest)) = (sign == .minus, digits.text ++ rest) := by
  cases sign with
  | absent =>
      rw [ExponentSign.text, List.nil_append,
        readSign_of_startsWithDigit (digits.startsWithDigit_text rest)]
      rfl
  | plus => rfl
  | minus => rfl

theorem settled_readExponent
    (sign : ExponentSign)
    (digits : Digits) :
    Settled (startsWithDigit · = false) fun rest =>
      readExponent negative significand power (sign.text ++ (digits.text ++ rest)) := by
  let exponent : Int := digits.text.foldl (fun value char => value * 10 + digitValue char) 0
  let scaled := if sign == .minus then power - exponent else power + exponent
  refine (settled_readDecimal negative significand scaled).congr id fun rest stops => ?_
  have nonempty : (digits.text ++ rest).isEmpty = false := rfl
  simp only [readExponent, readSign_append, nonempty, digits.startsWithDigit_text,
    digits.takeWhile_text stops, digits.dropWhile_text stops]
  rfl

/-- Whether nothing goes on behind a fraction and an exponent, if there is one. -/
def StopsPower
    (exponent : Option Exponent)
    (rest : List Char) : Prop :=
  startsWithDigit rest = false ∧ (exponent = none → rest.head?.any isExponentMark = false)

theorem settled_readPower (exponent : Option Exponent) :
    Settled (StopsPower exponent) fun rest =>
      readPower negative significand power (exponent.elim [] Exponent.text ++ rest) := by
  cases exponent with
  | none =>
      refine (settled_readDecimal negative significand power).congr id fun rest stops => ?_
      rw [Option.elim_none, List.nil_append]
      cases rest with
      | nil => rfl
      | cons char rest =>
          have noMark : isExponentMark char = false := stops.2 rfl
          simp [readPower, noMark]
  | some exponent =>
      obtain ⟨capital, sign, digits⟩ := exponent
      refine (settled_readExponent negative significand power sign digits).congr And.left
        fun rest _ => ?_
      cases capital <;> simp [Exponent.text, readPower, isExponentMark]

/-- How many digits are taken into a significand does not depend on what follows all digits. -/
theorem absorb_append
    {digits : List Char}
    (allDigits : ∀ char ∈ digits, char.isDigit = true)
    (significand : Nat) :
    ∃ grown count left, (∀ char ∈ left, char.isDigit = true) ∧
      ∀ rest, startsWithDigit rest = false →
        absorb significand (digits ++ rest) = ⟨grown, count, left ++ rest⟩ := by
  induction digits generalizing significand with
  | nil =>
      refine ⟨significand, 0, [], by simp, fun rest stops => ?_⟩
      cases rest with
      | nil => rfl
      | cons char rest =>
          have foreign : char.isDigit = false := stops
          simp [absorb, foreign]
  | cons digit digits inductionHypothesis =>
      obtain ⟨isDigit, restDigits⟩ := List.forall_mem_cons.mp allDigits
      by_cases small : significand * 10 + digitValue digit ≤ maxSignificand
      · obtain ⟨grown, count, left, leftDigits, same⟩ :=
          inductionHypothesis restDigits (significand * 10 + digitValue digit)
        refine ⟨grown, count + 1, left, leftDigits, fun rest stops => ?_⟩
        simp [absorb, isDigit, small, same rest stops]
      · refine ⟨significand, 0, digit :: digits, allDigits, fun rest _ => ?_⟩
        simp [absorb, small]

/-- Digits that are left over end where the text behind them begins. -/
theorem span_left
    {left rest : List Char}
    (leftDigits : ∀ char ∈ left, char.isDigit = true)
    (stops : startsWithDigit rest = false) :
    (left ++ rest).takeWhile Char.isDigit = left ∧
      (left ++ rest).dropWhile Char.isDigit = rest := by
  rw [List.takeWhile_append_of_pos leftDigits, List.dropWhile_append_of_pos leftDigits,
    takeWhile_of_stops stops, dropWhile_of_stops stops, List.append_nil]
  exact ⟨rfl, rfl⟩

theorem settled_readFraction
    (digits : Digits)
    (exponent : Option Exponent) :
    Settled (StopsPower exponent) fun rest =>
      readFraction negative significand power
        (digits.text ++ (exponent.elim [] Exponent.text ++ rest)) := by
  obtain ⟨grown, count, left, leftDigits, absorbed⟩ :=
    absorb_append (fun _ => digits.isDigit_of_mem) significand
  refine (settled_readPower negative grown (power - count) exponent).congr id
    fun rest stops => ?_
  have nonempty :
      (digits.text ++ (exponent.elim [] Exponent.text ++ rest)).isEmpty = false := rfl
  have noDigit := startsWithDigit_exponent exponent stops.1
  simp only [readFraction, nonempty, digits.startsWithDigit_text, absorbed _ noDigit,
    (span_left leftDigits noDigit).2]
  rfl

end Stages

section Whole

variable {number : Number} {rest : List Char}

theorem Number.EndsAt.stopsPower (ends : number.EndsAt rest) :
    StopsPower number.exponent rest := by
  unfold Number.EndsAt at ends
  cases rest with
  | nil => exact ⟨rfl, fun _ => rfl⟩
  | cons char rest =>
      rw [List.head?_cons, Option.any_some, Number.continues, Bool.or_eq_false_iff] at ends
      obtain ⟨noDigit, noMore⟩ := ends
      refine ⟨noDigit, fun noExponent => ?_⟩
      rw [noExponent, Option.isNone_none, Bool.true_and, Bool.or_eq_false_iff] at noMore
      exact noMore.1

theorem Number.EndsAt.ne_point
    (ends : number.EndsAt rest)
    (noFraction : number.fraction = none)
    (noExponent : number.exponent = none)
    (text : List Char) :
    rest ≠ '.' :: text := by
  rintro rfl
  simp [Number.EndsAt, Number.continues, noFraction, noExponent] at ends

/-- Behind its integer part a number is read to its end. -/
theorem settled_readTail
    (number : Number)
    (negative : Bool)
    (significand excess : Nat) :
    Settled number.EndsAt fun rest =>
      readTail negative significand excess (number.tail ++ rest) := by
  cases fraction : number.fraction with
  | some digits =>
      refine (settled_readFraction negative significand excess digits number.exponent).congr
        Number.EndsAt.stopsPower fun rest _ => ?_
      simp [Number.tail, fraction, readTail]
  | none =>
      cases exponent : number.exponent with
      | some power =>
          obtain ⟨capital, sign, digits⟩ := power
          refine (settled_readExponent negative significand excess sign digits).congr
            (fun ends => ends.stopsPower.1) fun rest _ => ?_
          cases capital <;>
            simp [Number.tail, fraction, exponent, Exponent.text, readTail, isExponentMark]
      | none =>
          have whole :
              Settled number.EndsAt fun rest =>
                if excess = 0 then .ok (wholeNumber negative significand, rest)
                else readDecimal negative significand excess rest := by
            split
            · exact ⟨.ok (wholeNumber negative significand), fun _ _ => rfl⟩
            · exact settled_readDecimal negative significand excess
          refine whole.congr id fun rest ends => ?_
          have tail : number.tail ++ rest = rest := by
            simp [Number.tail, fraction, exponent]
          rw [tail]
          unfold readTail
          split
          · exact absurd rfl (ends.ne_point fraction exponent _)
          · rw [ends.stopsPower.2 exponent, if_neg Bool.false_ne_true]

theorem settled_readMagnitude (number : Number) :
    Settled number.EndsAt fun rest =>
      readMagnitude number.negative
        (Nat.toDigits 10 number.whole ++ (number.tail ++ rest)) := by
  have noDigit {rest : List Char} (ends : number.EndsAt rest) :=
    number.startsWithDigit_tail ends.stopsPower.1
  rcases Nat.eq_zero_or_pos number.whole with zero | positive
  · refine (settled_readTail number number.negative 0 0).congr id fun rest ends => ?_
    rw [zero, Nat.toDigits_zero, List.singleton_append, readMagnitude, if_pos rfl, noDigit ends,
      if_neg Bool.false_ne_true]
  · obtain ⟨first, more, shape, nonzero⟩ := toDigits_of_pos positive
    have allDigits : ∀ char ∈ first :: more, char.isDigit = true :=
      fun _ member => isDigit_of_mem_toDigits (shape ▸ member)
    obtain ⟨grown, count, left, leftDigits, absorbed⟩ := absorb_append allDigits 0
    refine (settled_readTail number number.negative grown left.length).congr id
      fun rest ends => ?_
    have taken := absorbed _ (noDigit ends)
    obtain ⟨excess, behind⟩ := span_left leftDigits (noDigit ends)
    rw [List.cons_append] at taken
    rw [shape, List.cons_append, readMagnitude, if_neg nonzero,
      if_pos (allDigits first List.mem_cons_self), taken]
    simp only [excess, behind]

/-- A number is read as what it is read as by itself, and what ends it is left. -/
theorem readNumber_append
    (number : Number)
    (ends : number.EndsAt rest) :
    readNumber (number.text ++ rest) =
      (readNumber number.text).map fun (numeral, _) => (numeral, rest) := by
  obtain ⟨result, same⟩ := settled_readMagnitude number
  simp only [← readNumber_text] at same
  have alone := same [] rfl
  rw [List.append_nil] at alone
  rw [same rest ends, alone]
  cases result <;> rfl

end Whole

end AudioScope.Json
