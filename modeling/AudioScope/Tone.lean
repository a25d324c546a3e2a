namespace AudioScope

/-!
# Test tones

A test tone is one period of a sine wave, sampled at a given rate and written
as a C array, so that firmware can play it in a loop.  The table has to loop
without a seam: the frequency must divide the sample rate, and the table then
has as many samples as the one goes into the other.
-/

namespace Tone

/-- The peak of a tone, far enough below full scale. -/
def amplitude : Int16 := ((0xFFFF : UInt16) >>> 5).toInt16

/-- The name of an array that was given no other. -/
def defaultName : String := "samples"

/-- Why no tone can be made. -/
inductive Refusal where
  | zeroSampleRate
  | zeroFrequency
  | frequencyAboveSampleRate (sampleRate frequency : UInt32)
  | unevenPeriod (sampleRate frequency : UInt32)
  deriving Repr, DecidableEq

/-- What is said about a tone that cannot be made. -/
def Refusal.message : Refusal → String
  | zeroSampleRate => "Sample rate must be positive"
  | zeroFrequency => "Frequency must be positive"
  | frequencyAboveSampleRate sampleRate frequency =>
      s!"Frequency {frequency.toNat}Hz must not exceed the sample rate {sampleRate.toNat}Hz"
  | unevenPeriod sampleRate frequency =>
      s!"Frequency {frequency.toNat}Hz doesn't divide the sample rate {sampleRate.toNat}Hz, " ++
        "the table wouldn't loop cleanly"

/-- A named table of samples. -/
structure Table where
  name : String
  samples : List Int16
  deriving Repr, DecidableEq

/-- The ratio of a circle's circumference to its diameter. -/
def pi : Float := 3.14159265358979323846

/-- One sample of a period, cut off toward zero. -/
def sample (period index : Nat) : Int16 :=
  let phase := 2.0 * pi * Float.ofNat index / Float.ofNat period
  (Float.ofInt amplitude.toInt * phase.sin).toInt16

/-- All samples of a period. -/
def samples (period : Nat) : List Int16 :=
  (List.range period).map (sample period)

/-- One period of a tone. -/
def generate (sampleRate frequency : UInt32) : Except Refusal Table :=
  if sampleRate = 0 then
    .error .zeroSampleRate
  else if frequency = 0 then
    .error .zeroFrequency
  else if frequency > sampleRate then
    .error (.frequencyAboveSampleRate sampleRate frequency)
  else if sampleRate % frequency ≠ 0 then
    .error (.unevenPeriod sampleRate frequency)
  else
    .ok { name := defaultName, samples := samples (sampleRate / frequency).toNat }

namespace Table

/-- The same samples under another name. -/
def withName
    (table : Table)
    (name : String) :
    Table :=
  { table with name }

/-- The line of one sample. -/
def sampleLine (sample : Int16) : String :=
  "    " ++ toString sample.toInt ++ ",\n"

/-- The table as a C array. -/
def text (table : Table) : String :=
  "int16_t " ++ table.name ++ "[] = \x7b\n" ++
    String.join (table.samples.map sampleLine) ++ "\x7d;\n"

end Table

end Tone

end AudioScope
