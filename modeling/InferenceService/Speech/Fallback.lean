import Mathlib.Data.Rat.Floor
import Mathlib.Tactic.Linarith

namespace InferenceService
namespace Speech

/-!
# The fallback tone

Without a model, `/v1/tts` answers with the synthetic tone of `generate_fallback_audio`
(lines 94-112): a duration from the text's length, `int(sample_rate * duration)` samples of
three harmonics of 440 Hz under a linear fade in and out, scaled to 16-bit integers.

The samples' values are floating-point sines and are not modelled; their number, the fade
length, the rate and the duration are, with floats taken as the rationals they stand for.
The duration grows with the text and shrinks with the speed, and a text with Chinese
characters is read at three characters a second instead of five.  The tone lasts at least a
second, so with the default rate the two fades of 240 samples never overlap and
`envelope[-fade_samples:]` is never the whole array.  Whatever values in `[-1, 1]` the sines
take, a scaled sample stays far inside the 16-bit range, so `astype(np.int16)` never wraps.
-/

/-- A character of the block U+4E00 to U+9FFF that line 96 looks for. -/
def isChinese (c : Char) : Bool :=
  0x4E00 ≤ c.toNat && c.toNat ≤ 0x9FFF

/-- `has_chinese` (line 96). -/
def hasChinese (text : String) : Bool :=
  text.data.any isChinese

/-- `chars_per_sec` (line 97). -/
def charsPerSec (text : String) : ℚ :=
  if hasChinese text then 3 else 5

/-- `duration` (line 98), in seconds. -/
def fallbackDuration (text : String) (speed : ℚ) : ℚ :=
  max 1 (text.length / charsPerSec text / speed)

/-- What `generate_fallback_audio` returns, the samples' values left out: how many there
are, the sample rate and the duration; and the length of the fades it applied. -/
structure FallbackAudio where
  samples : Nat
  sampleRate : Nat
  duration : ℚ
  fade : Nat
  deriving DecidableEq, Repr

/-- `generate_fallback_audio` (lines 94-112): `np.linspace(0, duration, n, False)` has
`n = int(sample_rate * duration)` points, and `fade_samples` is
`min(int(0.01 * sample_rate), len(audio) // 4)`. -/
def generateFallbackAudio (text : String) (speed : ℚ) (sampleRate : Nat) : FallbackAudio :=
  let duration := fallbackDuration text speed
  let samples := ⌊(sampleRate : ℚ) * duration⌋.toNat
  { samples, sampleRate, duration, fade := min ⌊(1 / 100 : ℚ) * sampleRate⌋.toNat (samples / 4) }

/-- One sample before the cast of line 112: the three harmonics of lines 102-104, the
envelope, and the scale. -/
def fallbackSample (first second third envelope : ℚ) : ℚ :=
  (3 / 10 * first + 15 / 100 * second + 1 / 10 * third) * envelope * 32767

/-- `round(x, 2)`: the nearest hundredth, a tie going to the even one. -/
def roundHundredths (x : ℚ) : ℚ :=
  let down := ⌊100 * x⌋
  let rest := 100 * x - down
  (if rest < 1 / 2 ∨ rest = 1 / 2 ∧ down % 2 = 0 then down else down + 1) / 100

/-! ## The duration -/

theorem charsPerSec_pos (text : String) : 0 < charsPerSec text := by
  unfold charsPerSec; split <;> norm_num

theorem one_le_fallbackDuration (text : String) (speed : ℚ) : 1 ≤ fallbackDuration text speed :=
  le_max_left _ _

theorem hasChinese_append {text : String} (chinese : hasChinese text = true) (more : String) :
    hasChinese (text ++ more) = true := by
  simp only [hasChinese] at chinese ⊢
  simp [chinese]

theorem charsPerSec_append_le (text more : String) : charsPerSec (text ++ more) ≤ charsPerSec text := by
  unfold charsPerSec
  cases chinese : hasChinese text
  · split <;> norm_num
  · simp [hasChinese_append chinese]

/-- Adding to the text never shortens the tone: the length grows, and a Chinese character
added can only slow the reading. -/
theorem fallbackDuration_le_append (text more : String) {speed : ℚ} (positive : 0 < speed) :
    fallbackDuration text speed ≤ fallbackDuration (text ++ more) speed := by
  have longer : (text.length : ℚ) ≤ (text ++ more).length := by
    exact_mod_cast (String.length_append text more).symm ▸ Nat.le_add_right _ _
  refine max_le_max le_rfl (div_le_div_of_nonneg_right ?_ positive.le)
  exact div_le_div₀ (by positivity) longer (charsPerSec_pos _) (charsPerSec_append_le text more)

/-- A faster speed never lengthens the tone. -/
theorem fallbackDuration_anti (text : String) {speed speed' : ℚ} (positive : 0 < speed)
    (faster : speed ≤ speed') : fallbackDuration text speed' ≤ fallbackDuration text speed :=
  max_le_max le_rfl (div_le_div_of_nonneg_left (div_nonneg (by positivity) (charsPerSec_pos _).le)
    positive faster)

/-- Above the one-second floor the duration is inversely proportional to the speed. -/
theorem fallbackDuration_mul_speed (text : String) {speed : ℚ} (positive : 0 < speed)
    (long : speed ≤ text.length / charsPerSec text) :
    fallbackDuration text speed * speed = text.length / charsPerSec text := by
  have above : 1 ≤ text.length / charsPerSec text / speed := (one_le_div positive).mpr long
  rw [fallbackDuration, max_eq_right above, div_mul_cancel₀ _ positive.ne']

/-- A text with Chinese characters lasts as long as a text without them that has five
characters for its three. -/
theorem fallbackDuration_chinese {chinese latin : String} (speed : ℚ)
    (hasIt : hasChinese chinese = true) (lacksIt : hasChinese latin = false)
    (lengths : 5 * chinese.length = 3 * latin.length) :
    fallbackDuration chinese speed = fallbackDuration latin speed := by
  have same : (chinese.length : ℚ) / 3 = latin.length / 5 := by
    rw [div_eq_div_iff (by norm_num) (by norm_num)]
    exact_mod_cast (by omega : chinese.length * 5 = latin.length * 3)
  simp [fallbackDuration, charsPerSec, hasIt, lacksIt, same]

/-! ## The samples -/

/-- At the default rate the tone has at least 24000 samples, and fades of 240 samples at
each end that do not overlap. -/
theorem generateFallbackAudio_shape (text : String) (speed : ℚ) :
    24000 ≤ (generateFallbackAudio text speed 24000).samples ∧
      (generateFallbackAudio text speed 24000).fade = 240 ∧
      2 * (generateFallbackAudio text speed 24000).fade ≤ (generateFallbackAudio text speed 24000).samples := by
  have many : 24000 ≤ ⌊((24000 : ℕ) : ℚ) * fallbackDuration text speed⌋.toNat := by
    have : (24000 : ℤ) ≤ ⌊((24000 : ℕ) : ℚ) * fallbackDuration text speed⌋ :=
      Int.le_floor.mpr (by push_cast; nlinarith [one_le_fallbackDuration text speed])
    omega
  have fade : ⌊(1 / 100 : ℚ) * ((24000 : ℕ) : ℚ)⌋ = 240 := by norm_num
  simp only [generateFallbackAudio, fade]
  omega

/-- Whatever values in `[-1, 1]` the sines take and whatever envelope in `[0, 1]`, a scaled
sample lies within 18022 of zero, inside the 16-bit range. -/
theorem fallbackSample_bound {first second third envelope : ℚ} (first_le : |first| ≤ 1)
    (second_le : |second| ≤ 1) (third_le : |third| ≤ 1) (envelope_nonneg : 0 ≤ envelope)
    (envelope_le : envelope ≤ 1) : |fallbackSample first second third envelope| ≤ 18022 := by
  obtain ⟨f₁, f₂⟩ := abs_le.mp first_le
  obtain ⟨s₁, s₂⟩ := abs_le.mp second_le
  obtain ⟨t₁, t₂⟩ := abs_le.mp third_le
  have mix : |3 / 10 * first + 15 / 100 * second + 1 / 10 * third| ≤ 11 / 20 :=
    abs_le.mpr ⟨by linarith, by linarith⟩
  calc |fallbackSample first second third envelope|
      = |3 / 10 * first + 15 / 100 * second + 1 / 10 * third| * envelope * 32767 := by
        rw [fallbackSample, abs_mul, abs_mul, abs_of_nonneg envelope_nonneg]; norm_num
    _ ≤ 11 / 20 * 1 * 32767 :=
        mul_le_mul_of_nonneg_right (mul_le_mul mix envelope_le envelope_nonneg (by norm_num)) (by norm_num)
    _ ≤ 18022 := by norm_num

theorem one_le_roundHundredths {x : ℚ} (long : 1 ≤ x) : 1 ≤ roundHundredths x := by
  have floor : (100 : ℤ) ≤ ⌊100 * x⌋ := Int.le_floor.mpr (by push_cast; linarith)
  unfold roundHundredths
  rw [le_div_iff₀ (by norm_num)]
  split <;> push_cast <;> [exact_mod_cast floor; exact_mod_cast floor.trans (Int.le_add_one le_rfl)]

/-- The fallback tone lasts at least a second; adding to the text never shortens it and a
faster speed never lengthens it; above the one-second floor its length times the speed is
the text's reading time; and a text with Chinese characters lasts as long as a text without
them that has five characters for its three. -/
theorem fallbackDuration_laws :
    (∀ text speed, 1 ≤ fallbackDuration text speed) ∧
    (∀ text more speed, 0 < speed -> fallbackDuration text speed ≤ fallbackDuration (text ++ more) speed) ∧
    (∀ text speed speed', 0 < speed -> speed ≤ speed' ->
      fallbackDuration text speed' ≤ fallbackDuration text speed) ∧
    (∀ text speed, 0 < speed -> speed ≤ text.length / charsPerSec text ->
      fallbackDuration text speed * speed = text.length / charsPerSec text) ∧
    (∀ chinese latin speed, hasChinese chinese = true -> hasChinese latin = false ->
      5 * chinese.length = 3 * latin.length ->
      fallbackDuration chinese speed = fallbackDuration latin speed) :=
  ⟨one_le_fallbackDuration, fun text more _ positive => fallbackDuration_le_append text more positive,
    fun text _ _ positive faster => fallbackDuration_anti text positive faster,
    fun text _ positive long => fallbackDuration_mul_speed text positive long,
    fun _ _ speed hasIt lacksIt lengths => fallbackDuration_chinese speed hasIt lacksIt lengths⟩

/-- At the default rate of 24000 the fallback tone has at least 24000 samples and fades of
240 samples at each end that do not overlap; and whatever values in `[-1, 1]` the sines take
under an envelope in `[0, 1]`, a scaled sample lies within 18022 of zero, so the cast to
16-bit integers never wraps. -/
theorem fallbackAudio_bounds :
    (∀ text speed, 24000 ≤ (generateFallbackAudio text speed 24000).samples ∧
      (generateFallbackAudio text speed 24000).fade = 240 ∧
      2 * (generateFallbackAudio text speed 24000).fade ≤ (generateFallbackAudio text speed 24000).samples) ∧
    (∀ first second third envelope : ℚ, |first| ≤ 1 -> |second| ≤ 1 -> |third| ≤ 1 ->
      0 ≤ envelope -> envelope ≤ 1 -> |fallbackSample first second third envelope| ≤ 18022) :=
  ⟨generateFallbackAudio_shape, fun _ _ _ _ first_le second_le third_le low high =>
    fallbackSample_bound first_le second_le third_le low high⟩

end Speech
end InferenceService
