import Mathlib.Data.Rat.Floor
import Mathlib.Data.List.Chain
import Mathlib.Tactic.Linarith

/-!
# The sample clock of the callback

At the start of each callback after the first, `BelaAudioCallback` measures the sample rate
since the previous callback from the host clock and the board's frame count, smooths it, and
sets the OSC increment of a buffer from the smoothed rate:

    double instSampleRate = (sampleTime - mPrevSampleTime) / (hostSecs - mPrevHostSecs);
    smoothSampleRate = smoothSampleRate + 0.002 * (instSampleRate - smoothSampleRate);
    if (fabs(smoothSampleRate - mSampleRate) > 10.) smoothSampleRate = mSampleRate;
    mOSCincrement = (int64)(mOSCincrementNumerator / smoothSampleRate);

The arithmetic is on `double`s. What decides the clock's behaviour is their special values: a
host clock that did not move between two callbacks gives an infinite rate, which the reset
catches, and `0 / 0` gives NaN, which no comparison catches. `Double` keeps them: a finite
value, an infinity of either sign, or NaN, with each operation the callback uses defined by
the IEEE rules on them. Finite values are exact rationals: rounding is left out, and zero is
unsigned (`x - x` is `+0`, the only zero the callback divides by). The cast `(int64)` is
undefined on NaN, on an infinity, and on a value out of range: there it gives `none`.

## Main definitions

* `Double` — a `double`, with `add`, `sub`, `mul`, `div`, `abs`, `gt`
* `toInt64` — the cast `(int64)`
* `smoothStep` — the smoothing and its reset
* `Clock`, `belaAudioCallbackClock` — the driver's clock fields and what one callback does
  to them
* `Clock.Locked` — the smoothed rate is within `10` of `mSampleRate`, and the OSC increment
  between the increments of the rates `10` away

## Main results

* `smoothStep_locked` — unless the measured rate is NaN, the smoothed rate ends within `10`
* `clock_stays_locked` — over every run of callbacks whose frame counts increase, no cast is
  undefined and the clock stays locked
* `steady_rate_converges` — under a steady measured rate the smoothing is an exponential
  filter towards it, and the reset never fires
-/

namespace ScBela.Driver

/-- A `double`: a finite value (exact), an infinity (`negative` gives its sign), or NaN. -/
inductive Double where
  | finite (x : ℚ)
  | inf (negative : Bool)
  | nan
  deriving DecidableEq

namespace Double

/-- Unary `-`. -/
def neg : Double → Double
  | finite x => finite (-x)
  | inf negative => inf (!negative)
  | nan => nan

/-- `+`: infinities of opposite signs give NaN. -/
def add : Double → Double → Double
  | finite x, finite y => finite (x + y)
  | inf n, finite _ | finite _, inf n => inf n
  | inf n, inf m => if n = m then inf n else nan
  | nan, _ | _, nan => nan

/-- `-`. -/
def sub (a b : Double) : Double := a.add b.neg

/-- `*`: an infinity times zero gives NaN, signs multiply. -/
def mul : Double → Double → Double
  | finite x, finite y => finite (x * y)
  | inf n, finite y | finite y, inf n => if y = 0 then nan else inf (n != decide (y < 0))
  | inf n, inf m => inf (n != m)
  | nan, _ | _, nan => nan

/-- `/`: a nonzero value over zero gives an infinity, `0 / 0` and `inf / inf` give NaN. -/
def div : Double → Double → Double
  | finite x, finite y =>
    if y = 0 then (if x = 0 then nan else inf (decide (x < 0))) else finite (x / y)
  | finite _, inf _ => finite 0
  | inf n, finite y => inf (n != decide (y < 0))
  | inf _, inf _ | nan, _ | _, nan => nan

/-- `fabs`. -/
def abs : Double → Double
  | finite x => finite |x|
  | inf _ => inf false
  | nan => nan

/-- `a > b`: false whenever either is NaN. -/
def gt : Double → Double → Bool
  | finite x, finite y => decide (y < x)
  | inf n, finite _ => !n
  | finite _, inf m => m
  | inf n, inf m => !n && m
  | nan, _ | _, nan => false

@[simp] theorem add_finite (x y : ℚ) : (finite x).add (finite y) = finite (x + y) := rfl
@[simp] theorem sub_finite (x y : ℚ) : (finite x).sub (finite y) = finite (x - y) := by
  simp [sub, neg, add, sub_eq_add_neg]
@[simp] theorem mul_finite (x y : ℚ) : (finite x).mul (finite y) = finite (x * y) := rfl
@[simp] theorem abs_finite (x : ℚ) : (finite x).abs = finite |x| := rfl
@[simp] theorem gt_finite (x y : ℚ) : (finite x).gt (finite y) = decide (y < x) := rfl

theorem div_finite {x y : ℚ} (nonzero : y ≠ 0) : (finite x).div (finite y) = finite (x / y) := by
  simp [div, nonzero]

/-- A quotient of finite values is NaN only as `0 / 0`. -/
theorem div_finite_ne_nan {x : ℚ} (nonzero : x ≠ 0) (y : ℚ) : (finite x).div (finite y) ≠ nan := by
  by_cases zero : y = 0 <;> simp [div, zero, nonzero]

end Double

open Double

/-- `x` truncated towards zero, as a conversion to an integer type does. -/
def truncate (x : ℚ) : Int := if 0 ≤ x then ⌊x⌋ else ⌈x⌉

/-- `(int64)x`: the truncated value when it fits in 64 bits; undefined otherwise, and on NaN
and the infinities. -/
def toInt64 : Double → Option Int
  | finite x => if -2 ^ 63 ≤ truncate x ∧ truncate x < 2 ^ 63 then some (truncate x) else none
  | inf _ | nan => none

/-- One smoothing of the rate: move `smoothSampleRate` by `0.002` of the way to the measured
`instSampleRate`, and go back to `mSampleRate` when that lands more than `10` away. -/
def smoothStep (mSampleRate : ℚ) (instSampleRate smoothSampleRate : Double) : Double :=
  let smoothSampleRate :=
    smoothSampleRate.add ((finite (1 / 500)).mul (instSampleRate.sub smoothSampleRate))
  if ((smoothSampleRate.sub (finite mSampleRate)).abs).gt (finite 10) then finite mSampleRate
  else smoothSampleRate

/-- The fields of the driver the clock reads and writes. Host times and frame counts are
finite. -/
structure Clock where
  mStartHostSecs : ℚ
  mStartSampleTime : ℚ
  mPrevHostSecs : ℚ
  mPrevSampleTime : ℚ
  mSmoothSampleRate : Double
  mOSCincrement : Int
  deriving DecidableEq

/-- The clock part of `BelaAudioCallback`, at host time `hostSecs` and frame count
`sampleTime` (`audioFramesElapsed`), with the nominal `mSampleRate` and the
`mOSCincrementNumerator` the driver was set up with. `none` when the `(int64)` cast is
undefined. -/
def belaAudioCallbackClock (mSampleRate mOSCincrementNumerator hostSecs sampleTime : ℚ)
    (c : Clock) : Option Clock := do
  let c ← if c.mStartHostSecs = 0 then
      pure { c with mStartHostSecs := hostSecs, mStartSampleTime := sampleTime }
    else
      let instSampleRate :=
        (finite (sampleTime - c.mPrevSampleTime)).div (finite (hostSecs - c.mPrevHostSecs))
      let smoothSampleRate := smoothStep mSampleRate instSampleRate c.mSmoothSampleRate
      let mOSCincrement ← toInt64 ((finite mOSCincrementNumerator).div smoothSampleRate)
      pure { c with mOSCincrement := mOSCincrement, mSmoothSampleRate := smoothSampleRate }
  pure { c with mPrevHostSecs := hostSecs, mPrevSampleTime := sampleTime }

/-- A run of callbacks, each at its host time and frame count. -/
def runClock (mSampleRate mOSCincrementNumerator : ℚ) (callbacks : List (ℚ × ℚ)) (c : Clock) :
    Option Clock :=
  callbacks.foldlM (fun c callback =>
    belaAudioCallbackClock mSampleRate mOSCincrementNumerator callback.1 callback.2 c) c

/-! ## The smoothed rate -/

/-- Unless the measured rate is NaN, the smoothing of a finite rate is finite and within `10`
of `mSampleRate`, whatever the rate was: the reset catches every other case. -/
theorem smoothStep_locked (mSampleRate x : ℚ) {inst : Double} (measured : inst ≠ nan) :
    ∃ x', smoothStep mSampleRate inst (finite x) = finite x' ∧ |x' - mSampleRate| ≤ 10 := by
  rcases inst with i | negative | _
  · simp only [smoothStep, sub_finite, mul_finite, add_finite, abs_finite, gt_finite]
    split_ifs with far
    · exact ⟨mSampleRate, rfl, by simp⟩
    · exact ⟨_, rfl, le_of_not_lt (by simpa using far)⟩
  · refine ⟨mSampleRate, ?_, by simp⟩
    cases negative <;>
      norm_num [smoothStep, Double.sub, Double.neg, Double.add, Double.mul, Double.abs, Double.gt]
  · exact absurd rfl measured

/-- A finite measured rate within `10` of `mSampleRate` moves a smoothed rate within `10`
by `0.002` of the way to it, and the reset does not fire. -/
theorem smoothStep_steady {mSampleRate r x : ℚ} (rateNear : |r - mSampleRate| ≤ 10)
    (near : |x - mSampleRate| ≤ 10) :
    smoothStep mSampleRate (finite r) (finite x) = finite (r + 499 / 500 * (x - r)) ∧
      |r + 499 / 500 * (x - r) - mSampleRate| ≤ 10 := by
  obtain ⟨rateLow, rateHigh⟩ := abs_le.mp rateNear
  obtain ⟨low, high⟩ := abs_le.mp near
  have stays : |r + 499 / 500 * (x - r) - mSampleRate| ≤ 10 :=
    abs_le.mpr ⟨by linarith, by linarith⟩
  have moved : x + 1 / 500 * (r - x) = r + 499 / 500 * (x - r) := by ring
  refine ⟨?_, stays⟩
  simp only [smoothStep, sub_finite, mul_finite, add_finite, abs_finite, gt_finite, moved,
    decide_eq_true_eq, if_neg (not_lt.mpr stays)]

/-! ## The OSC increment -/

/-- The OSC increment of a smoothed rate within `10` of `mSampleRate` lies between the
increments of the rates `10` away, and the cast is defined. -/
theorem toInt64_locked {mSampleRate mOSCincrementNumerator x : ℚ} (above : 10 < mSampleRate)
    (nonneg : 0 ≤ mOSCincrementNumerator)
    (fits : mOSCincrementNumerator / (mSampleRate - 10) < 2 ^ 63)
    (near : |x - mSampleRate| ≤ 10) :
    ∃ inc, toInt64 ((finite mOSCincrementNumerator).div (finite x)) = some inc ∧
      ⌊mOSCincrementNumerator / (mSampleRate + 10)⌋ ≤ inc ∧
      inc ≤ ⌊mOSCincrementNumerator / (mSampleRate - 10)⌋ := by
  obtain ⟨low, high⟩ := abs_le.mp near
  have positive : 0 < x := by linarith
  have lower : mOSCincrementNumerator / (mSampleRate + 10) ≤ mOSCincrementNumerator / x :=
    div_le_div_of_nonneg_left nonneg positive (by linarith)
  have upper : mOSCincrementNumerator / x ≤ mOSCincrementNumerator / (mSampleRate - 10) :=
    div_le_div_of_nonneg_left nonneg (by linarith) (by linarith)
  have quotient : 0 ≤ mOSCincrementNumerator / x := div_nonneg nonneg positive.le
  have floorLow := Int.floor_le_floor lower
  have floorHigh := Int.floor_le_floor upper
  have fitsHigh : ⌊mOSCincrementNumerator / (mSampleRate - 10)⌋ < 2 ^ 63 :=
    Int.floor_lt.mpr (by exact_mod_cast fits)
  have floorNonneg := Int.floor_nonneg.mpr quotient
  refine ⟨⌊mOSCincrementNumerator / x⌋, ?_, floorLow, floorHigh⟩
  rw [div_finite positive.ne', toInt64, truncate, if_pos quotient, if_pos ⟨by omega, by omega⟩]

/-! ## Runs of callbacks -/

/-- The smoothed rate is within `10` of `mSampleRate`, and the OSC increment between the
increments of the rates `10` away. -/
structure Clock.Locked (mSampleRate mOSCincrementNumerator : ℚ) (c : Clock) : Prop where
  smooth : ∃ x, c.mSmoothSampleRate = finite x ∧ |x - mSampleRate| ≤ 10
  increment : ⌊mOSCincrementNumerator / (mSampleRate + 10)⌋ ≤ c.mOSCincrement ∧
    c.mOSCincrement ≤ ⌊mOSCincrementNumerator / (mSampleRate - 10)⌋

section Locked

variable {mSampleRate mOSCincrementNumerator : ℚ} (above : 10 < mSampleRate)
  (nonneg : 0 ≤ mOSCincrementNumerator)
  (fits : mOSCincrementNumerator / (mSampleRate - 10) < 2 ^ 63)
include above nonneg fits

/-- A callback whose frame count differs from the previous one keeps the clock locked, and
records its host time and frame count. -/
theorem Clock.Locked.update {c : Clock} (locked : c.Locked mSampleRate mOSCincrementNumerator)
    (hostSecs : ℚ) {sampleTime : ℚ} (advanced : sampleTime ≠ c.mPrevSampleTime) :
    ∃ c', belaAudioCallbackClock mSampleRate mOSCincrementNumerator hostSecs sampleTime c = some c' ∧
      c'.Locked mSampleRate mOSCincrementNumerator ∧ c'.mPrevSampleTime = sampleTime := by
  by_cases first : c.mStartHostSecs = 0
  · refine ⟨{ c with mStartHostSecs := hostSecs, mStartSampleTime := sampleTime,
                     mPrevHostSecs := hostSecs, mPrevSampleTime := sampleTime },
      by simp [belaAudioCallbackClock, first], ⟨locked.smooth, locked.increment⟩, rfl⟩
  · obtain ⟨x, smooth, -⟩ := locked.smooth
    obtain ⟨x', smoothed, near'⟩ := smoothStep_locked mSampleRate x
      (div_finite_ne_nan (sub_ne_zero.mpr advanced) (hostSecs - c.mPrevHostSecs))
    obtain ⟨inc, cast, low, high⟩ := toInt64_locked above nonneg fits near'
    refine ⟨{ c with mOSCincrement := inc, mSmoothSampleRate := finite x',
                     mPrevHostSecs := hostSecs, mPrevSampleTime := sampleTime }, ?_,
      ⟨⟨x', rfl, near'⟩, low, high⟩, rfl⟩
    simp [belaAudioCallbackClock, first, smooth, smoothed, cast]

/-- Over every run of callbacks whose frame counts increase, from a locked clock: no
`(int64)` cast is undefined, and the clock ends locked. -/
theorem clock_stays_locked {c : Clock} (locked : c.Locked mSampleRate mOSCincrementNumerator)
    (callbacks : List (ℚ × ℚ))
    (advancing : (c.mPrevSampleTime :: callbacks.map (·.2)).Chain' (· < ·)) :
    ∃ c', runClock mSampleRate mOSCincrementNumerator callbacks c = some c' ∧
      c'.Locked mSampleRate mOSCincrementNumerator := by
  induction callbacks generalizing c with
  | nil => exact ⟨c, rfl, locked⟩
  | cons callback callbacks ih =>
    obtain ⟨later, rest⟩ := List.chain'_cons.mp advancing
    obtain ⟨c', updated, locked', recorded⟩ :=
      locked.update above nonneg fits callback.1 later.ne'
    obtain ⟨c'', run, locked''⟩ := ih locked' (recorded ▸ rest)
    exact ⟨c'', by simp [runClock, List.foldlM, updated, ← run], locked''⟩

end Locked

/-- Three callbacks of sixteen frames at 44.1 kHz, the second at the same host time as the
first: its infinite rate is reset, and the clock stays locked. -/
theorem repeated_host_time_stays_locked :
    let c : Clock := ⟨0, 0, 0, 0, finite 44100, 1000⟩
    let callbacks : List (ℚ × ℚ) := [(100, 16), (100, 32), (100 + 1 / 2756, 48)]
    (10 : ℚ) < 44100 ∧ (0 : ℚ) ≤ 44100000 ∧ (44100000 : ℚ) / (44100 - 10) < 2 ^ 63 ∧
      c.Locked 44100 44100000 ∧ (c.mPrevSampleTime :: callbacks.map (·.2)).Chain' (· < ·) ∧
      ∃ c', runClock 44100 44100000 callbacks c = some c' ∧ c'.Locked 44100 44100000 := by
  intro c callbacks
  have above : (10 : ℚ) < 44100 := by norm_num
  have nonneg : (0 : ℚ) ≤ 44100000 := by norm_num
  have fits : (44100000 : ℚ) / (44100 - 10) < 2 ^ 63 := by norm_num
  have locked : c.Locked 44100 44100000 :=
    ⟨⟨44100, rfl, by norm_num⟩, by rw [Int.floor_le_iff]; norm_num, by rw [Int.le_floor]; norm_num⟩
  have advancing : (c.mPrevSampleTime :: callbacks.map (·.2)).Chain' (· < ·) := by
    norm_num [c, callbacks]
  exact ⟨above, nonneg, fits, locked, advancing,
    clock_stays_locked above nonneg fits locked callbacks advancing⟩

section Steady

variable {mSampleRate mOSCincrementNumerator : ℚ} (above : 10 < mSampleRate)
  (nonneg : 0 ≤ mOSCincrementNumerator)
  (fits : mOSCincrementNumerator / (mSampleRate - 10) < 2 ^ 63)
include above nonneg fits

/-- A callback after the first, at a later host time and with the frames advanced at the
rate `r`, within `10` of `mSampleRate`, moves a smoothed rate within `10` by `0.002` of the
way to `r`. -/
theorem Clock.steady_update {c : Clock} (started : c.mStartHostSecs ≠ 0) {r x : ℚ}
    (smooth : c.mSmoothSampleRate = finite x) (near : |x - mSampleRate| ≤ 10)
    (rateNear : |r - mSampleRate| ≤ 10) {hostSecs sampleTime : ℚ}
    (later : c.mPrevHostSecs < hostSecs)
    (advanced : sampleTime - c.mPrevSampleTime = r * (hostSecs - c.mPrevHostSecs)) :
    ∃ c', belaAudioCallbackClock mSampleRate mOSCincrementNumerator hostSecs sampleTime c = some c' ∧
      c'.mStartHostSecs = c.mStartHostSecs ∧
      c'.mSmoothSampleRate = finite (r + 499 / 500 * (x - r)) ∧
      |r + 499 / 500 * (x - r) - mSampleRate| ≤ 10 ∧
      (c'.mPrevHostSecs, c'.mPrevSampleTime) = (hostSecs, sampleTime) := by
  have elapsed : hostSecs - c.mPrevHostSecs ≠ 0 := sub_ne_zero.mpr later.ne'
  have measured : (finite (sampleTime - c.mPrevSampleTime)).div (finite (hostSecs - c.mPrevHostSecs)) =
      finite r := by
    rw [div_finite elapsed, advanced, mul_div_cancel_right₀ r elapsed]
  obtain ⟨stepped, stays⟩ := smoothStep_steady rateNear near
  obtain ⟨inc, cast, -, -⟩ := toInt64_locked above nonneg fits stays
  exact ⟨{ c with mOSCincrement := inc, mSmoothSampleRate := finite (r + 499 / 500 * (x - r)),
                  mPrevHostSecs := hostSecs, mPrevSampleTime := sampleTime },
    by simp [belaAudioCallbackClock, started, measured, smooth, stepped, cast], rfl, rfl, stays, rfl⟩

/-- Over every run of callbacks after the first whose host times increase and whose frames
advance at one rate `r` within `10` of `mSampleRate`, from a smoothed rate `s₀` within `10`:
the smoothing is an exponential filter, `r + 0.998 ^ n * (s₀ - r)` after `n` callbacks, so
it converges to `r` and the reset never fires. -/
theorem steady_rate_converges {c : Clock} (started : c.mStartHostSecs ≠ 0) {r s₀ : ℚ}
    (smooth : c.mSmoothSampleRate = finite s₀) (near : |s₀ - mSampleRate| ≤ 10)
    (rateNear : |r - mSampleRate| ≤ 10) (callbacks : List (ℚ × ℚ))
    (steady : callbacks.Chain (fun p q => p.1 < q.1 ∧ q.2 - p.2 = r * (q.1 - p.1))
      (c.mPrevHostSecs, c.mPrevSampleTime)) :
    ∃ c', runClock mSampleRate mOSCincrementNumerator callbacks c = some c' ∧
      c'.mSmoothSampleRate = finite (r + (499 / 500) ^ callbacks.length * (s₀ - r)) := by
  induction callbacks generalizing c s₀ with
  | nil => exact ⟨c, rfl, by simp [smooth]⟩
  | cons callback callbacks ih =>
    obtain ⟨⟨later, advanced⟩, rest⟩ := List.chain_cons.mp steady
    obtain ⟨c', updated, start, smooth', stays, recorded⟩ :=
      Clock.steady_update above nonneg fits started smooth near rateNear later advanced
    obtain ⟨c'', run, smooth''⟩ := ih (start ▸ started) smooth' stays (recorded ▸ rest)
    refine ⟨c'', by simp [runClock, List.foldlM, updated, ← run], ?_⟩
    rw [smooth'', List.length_cons, pow_succ]
    exact congrArg finite (by ring)

end Steady

/-- Two callbacks of a board running at `44096` frames a second against a nominal `44100`:
the smoothed rate moves from `44100` towards `44096` without a reset. -/
theorem steady_rate_two_callbacks :
    let c : Clock := ⟨1, 0, 1, 0, finite 44100, 1000⟩
    let callbacks : List (ℚ × ℚ) := [(2, 44096), (3, 88192)]
    (10 : ℚ) < 44100 ∧ (0 : ℚ) ≤ 44100000 ∧ (44100000 : ℚ) / (44100 - 10) < 2 ^ 63 ∧
      c.mStartHostSecs ≠ 0 ∧ c.mSmoothSampleRate = finite 44100 ∧ |(44100 : ℚ) - 44100| ≤ 10 ∧
      |(44096 : ℚ) - 44100| ≤ 10 ∧
      callbacks.Chain (fun p q => p.1 < q.1 ∧ q.2 - p.2 = 44096 * (q.1 - p.1))
        (c.mPrevHostSecs, c.mPrevSampleTime) ∧
      ∃ c', runClock 44100 44100000 callbacks c = some c' ∧
        c'.mSmoothSampleRate = finite (44096 + (499 / 500) ^ callbacks.length * (44100 - 44096)) := by
  intro c callbacks
  have above : (10 : ℚ) < 44100 := by norm_num
  have nonneg : (0 : ℚ) ≤ 44100000 := by norm_num
  have fits : (44100000 : ℚ) / (44100 - 10) < 2 ^ 63 := by norm_num
  have started : c.mStartHostSecs ≠ 0 := by norm_num [c]
  have near : |(44100 : ℚ) - 44100| ≤ 10 := by norm_num
  have rateNear : |(44096 : ℚ) - 44100| ≤ 10 := by norm_num
  have steady : callbacks.Chain (fun p q => p.1 < q.1 ∧ q.2 - p.2 = 44096 * (q.1 - p.1))
      (c.mPrevHostSecs, c.mPrevSampleTime) := by
    norm_num [c, callbacks]
  exact ⟨above, nonneg, fits, started, rfl, near, rateNear, steady,
    steady_rate_converges above nonneg fits started rfl near rateNear callbacks steady⟩

end ScBela.Driver
