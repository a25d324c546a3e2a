import AudioScope.Tone

namespace AudioScope

namespace Tone

/-!
# Which tones can be made

A tone can be made if its frequency and its sample rate are positive and the one
divides the other (`Loops`).  All other tones are refused, for the first of four
reasons that applies (`Refused`), and every reason is told in words of its own
(`Refusal.Told`).
-/

/-- A tone loops without a seam. -/
def Loops (sampleRate frequency : UInt32) : Prop :=
  0 < sampleRate ∧ 0 < frequency ∧ frequency.toNat ∣ sampleRate.toNat

/-- The reason for which a tone is refused; every reason excludes those in front of it. -/
inductive Refused (sampleRate frequency : UInt32) : Refusal → Prop where
  | zeroSampleRate
      (unsampled : sampleRate = 0) :
      Refused sampleRate frequency .zeroSampleRate
  | zeroFrequency
      (sampled : 0 < sampleRate)
      (constant : frequency = 0) :
      Refused sampleRate frequency .zeroFrequency
  | frequencyAboveSampleRate
      (sampled : 0 < sampleRate)
      (above : sampleRate < frequency) :
      Refused sampleRate frequency (.frequencyAboveSampleRate sampleRate frequency)
  | unevenPeriod
      (oscillating : 0 < frequency)
      (fits : frequency ≤ sampleRate)
      (uneven : ¬ frequency.toNat ∣ sampleRate.toNat) :
      Refused sampleRate frequency (.unevenPeriod sampleRate frequency)

/-- The words in which the reason for a refusal is told. -/
inductive Refusal.Told : Refusal → String → Prop where
  | zeroSampleRate :
      Told .zeroSampleRate "Sample rate must be positive"
  | zeroFrequency :
      Told .zeroFrequency "Frequency must be positive"
  | frequencyAboveSampleRate
      (sampleRate frequency : UInt32) :
      Told (.frequencyAboveSampleRate sampleRate frequency)
        ("Frequency " ++ toString frequency.toNat ++ "Hz must not exceed the sample rate " ++
          toString sampleRate.toNat ++ "Hz")
  | unevenPeriod
      (sampleRate frequency : UInt32) :
      Told (.unevenPeriod sampleRate frequency)
        ("Frequency " ++ toString frequency.toNat ++ "Hz doesn't divide the sample rate " ++
          toString sampleRate.toNat ++ "Hz, the table wouldn't loop cleanly")

theorem Refusal.told_message (refusal : Refusal) : refusal.Told refusal.message := by
  cases refusal with
  | zeroSampleRate =>
      exact .zeroSampleRate
  | zeroFrequency =>
      exact .zeroFrequency
  | frequencyAboveSampleRate sampleRate frequency =>
      exact .frequencyAboveSampleRate sampleRate frequency
  | unevenPeriod sampleRate frequency =>
      rw [message, String.append_assoc]
      exact .unevenPeriod sampleRate frequency

variable {sampleRate frequency : UInt32}

/-- The remainder of 32-bit division is zero exactly if the one number divides the other. -/
theorem mod_eq_zero_iff : sampleRate % frequency = 0 ↔ frequency.toNat ∣ sampleRate.toNat := by
  rw [← UInt32.toNat_inj, UInt32.toNat_mod]
  exact (Nat.dvd_iff_mod_eq_zero ..).symm

/-- A tone either loops or is refused. -/
theorem loops_or_refused (sampleRate frequency : UInt32) :
    Loops sampleRate frequency ∨ ∃ refusal, Refused sampleRate frequency refusal := by
  by_cases unsampled : sampleRate = 0
  · exact .inr ⟨_, .zeroSampleRate unsampled⟩
  have sampled := UInt32.pos_iff_ne_zero.mpr unsampled
  by_cases constant : frequency = 0
  · exact .inr ⟨_, .zeroFrequency sampled constant⟩
  have oscillating := UInt32.pos_iff_ne_zero.mpr constant
  rcases UInt32.lt_or_le sampleRate frequency with above | fits
  · exact .inr ⟨_, .frequencyAboveSampleRate sampled above⟩
  by_cases even : frequency.toNat ∣ sampleRate.toNat
  · exact .inl ⟨sampled, oscillating, even⟩
  · exact .inr ⟨_, .unevenPeriod oscillating fits even⟩

/-- A tone that loops is made, with as many samples as the frequency goes into the rate. -/
theorem generate_of_loops (loops : Loops sampleRate frequency) :
    generate sampleRate frequency =
      .ok ⟨defaultName, samples (sampleRate.toNat / frequency.toNat)⟩ := by
  obtain ⟨sampled, oscillating, even⟩ := loops
  have fits : ¬ frequency > sampleRate :=
    UInt32.not_lt.mpr (UInt32.le_iff_toNat_le.mpr (Nat.le_of_dvd sampled even))
  rw [generate, if_neg (UInt32.pos_iff_ne_zero.mp sampled),
    if_neg (UInt32.pos_iff_ne_zero.mp oscillating), if_neg fits,
    if_neg (not_not_intro (mod_eq_zero_iff.mpr even)), UInt32.toNat_div]

/-- A tone that is refused is not made, and the reason is given. -/
theorem generate_of_refused
    {refusal : Refusal}
    (refused : Refused sampleRate frequency refusal) :
    generate sampleRate frequency = .error refusal := by
  cases refused with
  | zeroSampleRate unsampled =>
      rw [generate, if_pos unsampled]
  | zeroFrequency sampled constant =>
      rw [generate, if_neg (UInt32.pos_iff_ne_zero.mp sampled), if_pos constant]
  | frequencyAboveSampleRate sampled above =>
      have oscillating : frequency ≠ 0 :=
        UInt32.pos_iff_ne_zero.mp (UInt32.lt_trans sampled above)
      rw [generate, if_neg (UInt32.pos_iff_ne_zero.mp sampled), if_neg oscillating,
        if_pos above]
  | unevenPeriod oscillating fits uneven =>
      have sampled : sampleRate ≠ 0 :=
        UInt32.pos_iff_ne_zero.mp (UInt32.lt_of_lt_of_le oscillating fits)
      rw [generate, if_neg sampled, if_neg (UInt32.pos_iff_ne_zero.mp oscillating),
        if_neg (UInt32.not_lt.mpr fits), if_pos (mt mod_eq_zero_iff.mp uneven)]

end Tone

end AudioScope
