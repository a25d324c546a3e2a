import AudioScope.Proofs.Tone.Generation

namespace AudioScope

namespace Tone

/-!
# Tones told by their period

What becomes of a tone depends on how its sample rate and its frequency divide
(`Loops`, `Refused`), so tones with the same period have the same table, and a tone at
a multiple of both numbers is made or refused as the tone itself is.  Nothing is known
of the sine but that it is a function, and nothing is ever divided by zero.
-/

/-- A quotient, which only a divisor other than zero has. -/
def quotient? (dividend divisor : UInt32) : Option UInt32 :=
  if divisor = 0 then none else some (dividend / divisor)

/-- A remainder, which only a divisor other than zero leaves. -/
def remainder? (dividend divisor : UInt32) : Option UInt32 :=
  if divisor = 0 then none else some (dividend % divisor)

/-- One period of a tone, made by divisions that come to nothing where the divisor is zero. -/
def generate? (sampleRate frequency : UInt32) : Option (Except Refusal Table) :=
  if sampleRate = 0 then
    some (.error .zeroSampleRate)
  else if frequency = 0 then
    some (.error .zeroFrequency)
  else if frequency > sampleRate then
    some (.error (.frequencyAboveSampleRate sampleRate frequency))
  else do
    let left ← remainder? sampleRate frequency
    if left ≠ 0 then
      return .error (.unevenPeriod sampleRate frequency)
    let period ← quotient? sampleRate frequency
    return .ok { name := defaultName, samples := samples period.toNat }

/-- Two refusals give the same reason, whatever numbers they give it for. -/
inductive Refusal.SameReason : Refusal → Refusal → Prop where
  | zeroSampleRate :
      SameReason .zeroSampleRate .zeroSampleRate
  | zeroFrequency :
      SameReason .zeroFrequency .zeroFrequency
  | frequencyAboveSampleRate
      {sampleRate frequency otherRate otherFrequency : UInt32} :
      SameReason (.frequencyAboveSampleRate sampleRate frequency)
        (.frequencyAboveSampleRate otherRate otherFrequency)
  | unevenPeriod
      {sampleRate frequency otherRate otherFrequency : UInt32} :
      SameReason (.unevenPeriod sampleRate frequency) (.unevenPeriod otherRate otherFrequency)

section

variable {sampleRate frequency : UInt32}

theorem generate_eq_ok_iff {table : Table} :
    generate sampleRate frequency = .ok table ↔
      Loops sampleRate frequency ∧
        table = ⟨defaultName, samples (sampleRate.toNat / frequency.toNat)⟩ := by
  constructor
  · intro generated
    rcases loops_or_refused sampleRate frequency with loops | ⟨refusal, refused⟩
    · rw [generate_of_loops loops] at generated
      exact ⟨loops, (Except.ok.inj generated).symm⟩
    · rw [generate_of_refused refused] at generated
      cases generated
  · rintro ⟨loops, rfl⟩
    exact generate_of_loops loops

theorem generate_eq_error_iff {refusal : Refusal} :
    generate sampleRate frequency = .error refusal ↔ Refused sampleRate frequency refusal := by
  constructor
  · intro generated
    rcases loops_or_refused sampleRate frequency with loops | ⟨reason, refused⟩
    · rw [generate_of_loops loops] at generated
      cases generated
    · rw [generate_of_refused refused] at generated
      cases generated
      exact refused
  · exact generate_of_refused

/-- A tone that loops has a period of one sample or more. -/
theorem Loops.period_pos (loops : Loops sampleRate frequency) :
    0 < sampleRate.toNat / frequency.toNat :=
  Nat.div_pos (Nat.le_of_dvd loops.1 loops.2.2) loops.2.1

/-- Divisions are made only where the divisor is not zero. -/
theorem generate?_eq (sampleRate frequency : UInt32) :
    generate? sampleRate frequency = some (generate sampleRate frequency) := by
  rw [generate?, generate]
  split
  · rfl
  split
  · rfl
  next oscillating =>
  split
  · rfl
  simp only [remainder?, quotient?, if_neg oscillating]
  split
  · next uneven => simp [uneven]
  · next even => simp [even]

end

/-- A period has as many samples as its length says. -/
theorem length_samples (period : Nat) : (samples period).length = period := by
  rw [samples, List.length_map, List.length_range]

/-- Periods of different lengths have different samples. -/
theorem samples_inj {period other : Nat} : samples period = samples other ↔ period = other := by
  constructor
  · intro same
    rw [← length_samples period, same, length_samples]
  · rintro rfl
    rfl

/-- A table that is made has samples. -/
theorem samples_ne_nil
    {sampleRate frequency : UInt32}
    {table : Table}
    (made : generate sampleRate frequency = .ok table) :
    table.samples ≠ [] := by
  obtain ⟨loops, rfl⟩ := generate_eq_ok_iff.mp made
  rw [← List.length_pos_iff, length_samples]
  exact loops.period_pos

/-- Both numbers of a tone are multiplied by the same factor, and no bits are lost. -/
structure Scaled
    (factor : Nat)
    (sampleRate frequency scaledRate scaledFrequency : UInt32) : Prop where
  positive : 0 < factor
  rate_eq : scaledRate.toNat = factor * sampleRate.toNat
  frequency_eq : scaledFrequency.toNat = factor * frequency.toNat

namespace Scaled

variable {factor : Nat} {sampleRate frequency scaledRate scaledFrequency : UInt32}

theorem rate_pos_iff (scaled : Scaled factor sampleRate frequency scaledRate scaledFrequency) :
    0 < scaledRate ↔ 0 < sampleRate := by
  rw [UInt32.lt_iff_toNat_lt, UInt32.lt_iff_toNat_lt, scaled.rate_eq]
  exact Nat.mul_pos_iff_of_pos_left scaled.positive

theorem frequency_pos_iff
    (scaled : Scaled factor sampleRate frequency scaledRate scaledFrequency) :
    0 < scaledFrequency ↔ 0 < frequency := by
  rw [UInt32.lt_iff_toNat_lt, UInt32.lt_iff_toNat_lt, scaled.frequency_eq]
  exact Nat.mul_pos_iff_of_pos_left scaled.positive

theorem lt_iff (scaled : Scaled factor sampleRate frequency scaledRate scaledFrequency) :
    scaledRate < scaledFrequency ↔ sampleRate < frequency := by
  rw [UInt32.lt_iff_toNat_lt, UInt32.lt_iff_toNat_lt, scaled.rate_eq, scaled.frequency_eq]
  exact Nat.mul_lt_mul_left scaled.positive

theorem dvd_iff (scaled : Scaled factor sampleRate frequency scaledRate scaledFrequency) :
    scaledFrequency.toNat ∣ scaledRate.toNat ↔ frequency.toNat ∣ sampleRate.toNat := by
  rw [scaled.rate_eq, scaled.frequency_eq]
  exact Nat.mul_dvd_mul_iff_left scaled.positive

theorem loops_iff (scaled : Scaled factor sampleRate frequency scaledRate scaledFrequency) :
    Loops scaledRate scaledFrequency ↔ Loops sampleRate frequency :=
  and_congr scaled.rate_pos_iff (and_congr scaled.frequency_pos_iff scaled.dvd_iff)

/-- A factor does not change the period. -/
theorem period_eq (scaled : Scaled factor sampleRate frequency scaledRate scaledFrequency) :
    scaledRate.toNat / scaledFrequency.toNat = sampleRate.toNat / frequency.toNat := by
  rw [scaled.rate_eq, scaled.frequency_eq]
  exact Nat.mul_div_mul_left _ _ scaled.positive

/-- A multiple is refused for the reason for which the tone itself is refused. -/
theorem refused
    (scaled : Scaled factor sampleRate frequency scaledRate scaledFrequency)
    {refusal : Refusal}
    (reason : Refused sampleRate frequency refusal) :
    ∃ other, Refused scaledRate scaledFrequency other ∧ refusal.SameReason other := by
  have still {number : UInt32} (unscaled : ¬ 0 < number) : number = 0 :=
    Decidable.of_not_not (mt UInt32.pos_iff_ne_zero.mpr unscaled)
  cases reason with
  | zeroSampleRate unsampled =>
      subst unsampled
      have zero := still (mt scaled.rate_pos_iff.mp (UInt32.lt_irrefl 0))
      exact ⟨_, .zeroSampleRate zero, .zeroSampleRate⟩
  | zeroFrequency sampled constant =>
      subst constant
      have zero := still (mt scaled.frequency_pos_iff.mp (UInt32.lt_irrefl 0))
      exact ⟨_, .zeroFrequency (scaled.rate_pos_iff.mpr sampled) zero, .zeroFrequency⟩
  | frequencyAboveSampleRate sampled above =>
      exact ⟨_, .frequencyAboveSampleRate (scaled.rate_pos_iff.mpr sampled)
        (scaled.lt_iff.mpr above), .frequencyAboveSampleRate⟩
  | unevenPeriod oscillating fits uneven =>
      have scaledFits := UInt32.not_lt.mp (mt scaled.lt_iff.mp (UInt32.not_lt.mpr fits))
      exact ⟨_, .unevenPeriod (scaled.frequency_pos_iff.mpr oscillating) scaledFits
        (mt scaled.dvd_iff.mp uneven), .unevenPeriod⟩

end Scaled

/--
What becomes of a tone, for all sample rates and frequencies.

No division by zero is needed to find it out.  Each of the four reasons to refuse a tone
has its own condition, and the two that give numbers give those of the tone; a tone that
meets none of them is made.  Its table has one sample or more, as many as the frequency
goes into the rate, and tables are the same exactly if these periods are.  Multiplying
both numbers by a factor changes neither the table nor the reason for which there is none.
-/
theorem generate_by_period (sampleRate frequency : UInt32) :
    generate? sampleRate frequency = some (generate sampleRate frequency) ∧
    let generated := generate sampleRate frequency
    let period := sampleRate.toNat / frequency.toNat
    (generated = .error .zeroSampleRate ↔ sampleRate = 0) ∧
    (generated = .error .zeroFrequency ↔ 0 < sampleRate ∧ frequency = 0) ∧
    (∀ givenRate givenFrequency,
      generated = .error (.frequencyAboveSampleRate givenRate givenFrequency) ↔
        (0 < sampleRate ∧ sampleRate < frequency) ∧
          givenRate = sampleRate ∧ givenFrequency = frequency) ∧
    (∀ givenRate givenFrequency,
      generated = .error (.unevenPeriod givenRate givenFrequency) ↔
        (0 < frequency ∧ frequency ≤ sampleRate ∧ ¬ frequency.toNat ∣ sampleRate.toNat) ∧
          givenRate = sampleRate ∧ givenFrequency = frequency) ∧
    ((∃ table, generated = .ok table) ↔ Loops sampleRate frequency) ∧
    (∀ table, generated = .ok table → table.samples.length = period ∧ 1 ≤ period) ∧
    (∀ otherRate otherFrequency table otherTable,
      generated = .ok table → generate otherRate otherFrequency = .ok otherTable →
        (table = otherTable ↔ period = otherRate.toNat / otherFrequency.toNat)) ∧
    ∀ factor scaledRate scaledFrequency,
      Scaled factor sampleRate frequency scaledRate scaledFrequency →
        (∀ table, generate scaledRate scaledFrequency = .ok table ↔ generated = .ok table) ∧
          ∀ refusal, generated = .error refusal →
            ∃ other, generate scaledRate scaledFrequency = .error other ∧
              refusal.SameReason other := by
  refine ⟨generate?_eq sampleRate frequency, ?_⟩
  intro generated period
  refine ⟨?_, ?_, ?_, ?_, ?_, ?_, ?_, ?_⟩
  · exact generate_eq_error_iff.trans
      ⟨fun | .zeroSampleRate unsampled => unsampled, .zeroSampleRate⟩
  · exact generate_eq_error_iff.trans
      ⟨fun | .zeroFrequency sampled constant => ⟨sampled, constant⟩,
        fun ⟨sampled, constant⟩ => .zeroFrequency sampled constant⟩
  · intro givenRate givenFrequency
    refine generate_eq_error_iff.trans ⟨?_, ?_⟩
    · exact fun | .frequencyAboveSampleRate sampled above => ⟨⟨sampled, above⟩, rfl, rfl⟩
    · rintro ⟨⟨sampled, above⟩, rfl, rfl⟩
      exact .frequencyAboveSampleRate sampled above
  · intro givenRate givenFrequency
    refine generate_eq_error_iff.trans ⟨?_, ?_⟩
    · intro reason
      cases reason with
      | unevenPeriod oscillating fits uneven => exact ⟨⟨oscillating, fits, uneven⟩, rfl, rfl⟩
    · rintro ⟨⟨oscillating, fits, uneven⟩, rfl, rfl⟩
      exact .unevenPeriod oscillating fits uneven
  · exact ⟨fun ⟨_, made⟩ => (generate_eq_ok_iff.mp made).1,
      fun loops => ⟨_, generate_of_loops loops⟩⟩
  · intro table made
    obtain ⟨loops, rfl⟩ := generate_eq_ok_iff.mp made
    exact ⟨length_samples period, loops.period_pos⟩
  · intro otherRate otherFrequency table otherTable made otherMade
    obtain ⟨-, rfl⟩ := generate_eq_ok_iff.mp made
    obtain ⟨-, rfl⟩ := generate_eq_ok_iff.mp otherMade
    exact Table.mk.injEq .. ▸ (and_iff_right rfl).trans samples_inj
  · intro factor scaledRate scaledFrequency scaled
    refine ⟨fun table => ?_, fun refusal refused => ?_⟩
    · rw [generate_eq_ok_iff, scaled.loops_iff, scaled.period_eq]
      exact generate_eq_ok_iff.symm
    · obtain ⟨other, reason, same⟩ := scaled.refused (generate_eq_error_iff.mp refused)
      exact ⟨other, generate_of_refused reason, same⟩

/-- The usual tone with the greatest factor that fits, and an uneven tone with another one. -/
theorem generate_by_period_rescaled :
    (∃ table,
      generate 48000 1000 = .ok table ∧
        generate 4294944000 89478000 = .ok table ∧
        table.samples.length = 48) ∧
      ∃ other,
        generate 88200 2000 = .error other ∧
          (Refusal.unevenPeriod 44100 1000).SameReason other := by
  obtain ⟨-, -, -, -, -, looping, lengths, -, scaling⟩ := generate_by_period 48000 1000
  obtain ⟨-, -, -, -, uneven, -, -, -, unevenScaling⟩ := generate_by_period 44100 1000
  constructor
  · obtain ⟨table, made⟩ := looping.mpr ⟨by decide, by decide, ⟨48, rfl⟩⟩
    have scaled : Scaled 89478 48000 1000 4294944000 89478000 := ⟨by decide, rfl, rfl⟩
    exact ⟨table, made, ((scaling _ _ _ scaled).1 table).mpr made, (lengths table made).1⟩
  · have refused := (uneven 44100 1000).mpr ⟨⟨by decide, by decide, by decide⟩, rfl, rfl⟩
    have scaled : Scaled 2 44100 1000 88200 2000 := ⟨by decide, rfl, rfl⟩
    exact (unevenScaling _ _ _ scaled).2 _ refused

end Tone

end AudioScope
