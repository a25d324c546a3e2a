import AudioScope.Json.Basic

namespace AudioScope.Json

/-!
# Strings

`readString` reads the string behind an opening quote and gives its characters.
A character beyond the basic plane may be written as a pair of surrogates, and a
surrogate without its partner is refused.  `skipString` passes over a string
whose characters nobody needs, and there surrogates need no partner.
-/

/-- The value of a hexadecimal digit. -/
def hexDigit? (char : Char) : Option Nat :=
  if char.isDigit then
    some (char.toNat - '0'.toNat)
  else if 'a' ≤ char ∧ char ≤ 'f' then
    some (char.toNat - 'a'.toNat + 10)
  else if 'A' ≤ char ∧ char ≤ 'F' then
    some (char.toNat - 'A'.toNat + 10)
  else
    none

/-- The value of four hexadecimal digits, the first one the most significant. -/
def codeUnit? (first second third fourth : Char) : Option Nat := do
  let first ← hexDigit? first
  let second ← hexDigit? second
  let third ← hexDigit? third
  let fourth ← hexDigit? fourth
  return ((first * 16 + second) * 16 + third) * 16 + fourth

/-- The bytes of a text. -/
def byteCount (text : List Char) : Nat :=
  text.foldr (fun char total => char.utf8Size + total) 0

/-- Read the four digits of an escape; a text with less than four more bytes is unfinished. -/
def readCodeUnit : List Char → Except Flaw (Nat × List Char)
  | first :: second :: third :: fourth :: rest =>
      match codeUnit? first second third fourth with
      | some unit => .ok (unit, rest)
      | none => .error .malformed
  | short => .error (if byteCount short < 4 then .unfinished else .malformed)

theorem length_lt_of_readCodeUnit
    {text rest : List Char}
    {unit : Nat}
    (read : readCodeUnit text = .ok (unit, rest)) :
    rest.length < text.length := by
  unfold readCodeUnit at read
  split at read
  · split at read
    · cases read
      simp
      omega
    · cases read
  · cases read

/-- Whether a code unit is the first of a pair. -/
def isLeading (unit : Nat) : Bool :=
  0xD800 ≤ unit && unit ≤ 0xDBFF

/-- Whether a code unit is the second of a pair. -/
def isTrailing (unit : Nat) : Bool :=
  0xDC00 ≤ unit && unit ≤ 0xDFFF

/-- The character of a pair of code units. -/
def pairedChar (leading trailing : Nat) : Char :=
  Char.ofNat (0x10000 + (leading - 0xD800) * 0x400 + (trailing - 0xDC00))

/-- Read the second half of a pair. -/
def readPartner
    (leading : Nat)
    (text : List Char) :
    Except Flaw (Char × List Char) := do
  let text ← skipWord ['\\', 'u'] text
  let (trailing, rest) ← readCodeUnit text
  if isTrailing trailing then
    .ok (pairedChar leading trailing, rest)
  else
    .error .malformed

/-- What is left behind the second half of a pair is shorter. -/
theorem length_lt_of_readPartner
    {leading : Nat}
    {text rest : List Char}
    {char : Char}
    (read : readPartner leading text = .ok (char, rest)) :
    rest.length < text.length := by
  unfold readPartner at read
  cases skipped : skipWord ['\\', 'u'] text with
  | error flaw => simp [skipped, bind, Except.bind] at read
  | ok middle =>
      have start := skipWord_eq_ok skipped
      simp only [skipped, bind, Except.bind] at read
      split at read
      · cases read
      · next pair unit =>
        have shorter := length_lt_of_readCodeUnit unit
        split at read
        · simp only [Except.ok.injEq, Prod.mk.injEq] at read
          obtain ⟨_, rfl⟩ := read
          rw [start, List.length_append]
          omega
        · cases read

/-- The character of an escape with a single letter. -/
def simpleEscape? : Char → Option Char
  | '"' => some '"'
  | '\\' => some '\\'
  | '/' => some '/'
  | 'b' => some '\x08'
  | 'f' => some '\x0c'
  | 'n' => some '\n'
  | 'r' => some '\r'
  | 't' => some '\t'
  | _ => none

/-- Read what stands behind a backslash. -/
def readEscape : List Char → Except Flaw (Char × List Char)
  | [] => .error .unfinished
  | 'u' :: text =>
      match readCodeUnit text with
      | .error flaw => .error flaw
      | .ok (unit, rest) =>
          if isTrailing unit then
            .error .malformed
          else if isLeading unit then
            readPartner unit rest
          else
            .ok (Char.ofNat unit, rest)
  | letter :: rest =>
      match simpleEscape? letter with
      | some char => .ok (char, rest)
      | none => .error .malformed

theorem length_lt_of_readEscape
    {text rest : List Char}
    {char : Char}
    (read : readEscape text = .ok (char, rest)) :
    rest.length < text.length := by
  unfold readEscape at read
  split at read
  · cases read
  · split at read
    · cases read
    · next unit =>
      have shorter := length_lt_of_readCodeUnit unit
      split at read
      · cases read
      · split at read
        · have shortest := length_lt_of_readPartner read
          simp only [List.length_cons]
          omega
        · simp only [Except.ok.injEq, Prod.mk.injEq] at read
          obtain ⟨_, rfl⟩ := read
          simp only [List.length_cons]
          omega
  · split at read
    · cases read
      simp
    · cases read

/-- Pass over what stands behind a backslash. -/
def skipEscape : List Char → Except Flaw (List Char)
  | [] => .error .unfinished
  | 'u' :: text => (readCodeUnit text).map Prod.snd
  | letter :: rest =>
      if (simpleEscape? letter).isSome then .ok rest else .error .malformed

theorem length_lt_of_skipEscape
    {text rest : List Char}
    (skipped : skipEscape text = .ok rest) :
    rest.length < text.length := by
  unfold skipEscape at skipped
  split at skipped
  · cases skipped
  · next tail =>
    cases unit : readCodeUnit tail with
    | error flaw =>
        rw [unit] at skipped
        cases skipped
    | ok pair =>
        rw [unit] at skipped
        cases skipped
        have shorter := length_lt_of_readCodeUnit unit
        simp only [List.length_cons]
        omega
  · split at skipped
    · cases skipped
      simp
    · cases skipped

/-- Whether a character may not stand in a string. -/
def isControl (char : Char) : Bool :=
  char.toNat < 0x20

/-- Read a string behind its opening quote. -/
def readString (text : List Char) : Except Flaw (List Char × List Char) :=
  match text with
  | [] => .error .unfinished
  | '"' :: rest => .ok ([], rest)
  | '\\' :: escape =>
      match _read : readEscape escape with
      | .error flaw => .error flaw
      | .ok (char, rest) =>
          (readString rest).map fun (chars, rest) => (char :: chars, rest)
  | char :: rest =>
      if isControl char then
        .error .malformed
      else
        (readString rest).map fun (chars, rest) => (char :: chars, rest)
termination_by text.length
decreasing_by
  · have shorter := length_lt_of_readEscape _read
    simp only [List.length_cons]
    omega
  · simp

theorem length_lt_of_readString
    {text rest chars : List Char}
    (read : readString text = .ok (chars, rest)) :
    rest.length < text.length := by
  fun_induction readString text generalizing chars rest with
  | case1 => cases read
  | case2 =>
      cases read
      simp
  | case3 => cases read
  | case4 escape char middle escaped inductionHypothesis =>
      have shorter := length_lt_of_readEscape escaped
      cases inner : readString middle with
      | error flaw =>
          rw [inner] at read
          cases read
      | ok pair =>
          rw [inner] at read
          cases read
          have shortest := inductionHypothesis inner
          simp only [List.length_cons]
          omega
  | case5 => cases read
  | case6 char middle _ _ _ inductionHypothesis =>
      cases inner : readString middle with
      | error flaw =>
          rw [inner] at read
          cases read
      | ok pair =>
          rw [inner] at read
          cases read
          have shortest := inductionHypothesis inner
          simp only [List.length_cons]
          omega

/-- Pass over a string behind its opening quote. -/
def skipString (text : List Char) : Except Flaw (List Char) :=
  match text with
  | [] => .error .unfinished
  | '"' :: rest => .ok rest
  | '\\' :: escape =>
      match _skipped : skipEscape escape with
      | .error flaw => .error flaw
      | .ok rest => skipString rest
  | char :: rest => if isControl char then .error .malformed else skipString rest
termination_by text.length
decreasing_by
  · have shorter := length_lt_of_skipEscape _skipped
    simp only [List.length_cons]
    omega
  · simp

theorem length_lt_of_skipString
    {text rest : List Char}
    (skipped : skipString text = .ok rest) :
    rest.length < text.length := by
  fun_induction skipString text with
  | case1 => cases skipped
  | case2 =>
      cases skipped
      simp
  | case3 => cases skipped
  | case4 escape middle escaped inductionHypothesis =>
      have shorter := length_lt_of_skipEscape escaped
      have shortest := inductionHypothesis skipped
      simp only [List.length_cons]
      omega
  | case5 => cases skipped
  | case6 char middle _ _ _ inductionHypothesis =>
      have shortest := inductionHypothesis skipped
      simp only [List.length_cons]
      omega

end AudioScope.Json
