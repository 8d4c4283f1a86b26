import ScBela.Driver.Callback

/-!
# Setting the board up

`SC_BelaDriver::DriverSetup` fills Bela's `BelaInitSettings` from the server's options
before audio starts: non-interleaved buffers, one sample rate for audio and analog, a
period exactly one SC buffer long, and enough analog channels to stand in for the audio
channels the server asks for beyond the board's (Bela's audio expander). It then starts
Bela's audio and reports the period as the samples per callback.

Bela's defaults (`Bela_defaultSettings`), the board's configuration (`Bela_HwConfig`) and
the outcome of `Bela_initAudio` come from outside this repository and are parameters here.
The counts are C's `int`s, so an unsigned difference such as
`mWorld->mNumInputs - cfg->audioInChannels` is read as the integer it converts to; levels
are `float`s, read as rationals.

## Main definitions

* `BelaInitSettings`, `Options`, `BelaHwConfig` — what `DriverSetup` writes and reads
* `requestAnalog`, `matchAnalog` — the analog channel counts it asks Bela for
* `driverSetupSettings`, `driverSetup`

## Main results

* `analog_channels_matched` — equal analog counts of 0, 4 or 8, covering up to eight
  audio channels beyond the board's
* `requested_buses_all_routed` — on the board it set up, the callback feeds every input
  bus and drains every output bus the server asks for, up to eight beyond the board's
  audio channels
* `expander_matches_routing` — the audio expander is enabled on exactly the analog channels
  the callback routes as audio buses
-/

namespace ScBela.Driver

open ScBela.Plugins (forFrames forFrames_succ)

/-- The fields of Bela's `BelaInitSettings` that `DriverSetup` sets. -/
structure BelaInitSettings where
  periodSize : Nat
  interleave : Nat
  uniformSampleRate : Nat
  analogOutputsPersist : Nat
  useAnalog : Nat
  numAnalogInChannels : Int
  numAnalogOutChannels : Int
  audioExpanderInputs : Nat
  audioExpanderOutputs : Nat
  useDigital : Nat
  numDigitalChannels : Int
  headphoneLevel : ℚ
  pgaGain : ℚ × ℚ
  beginMuted : Nat
  dacLevel : ℚ
  adcLevel : ℚ
  numMuxChannels : Int
  pruNumber : Int
  verbose : Int

/-- The server's options that `DriverSetup` reads: the driver's `mPreferredHardwareBufferFrameSize`
and `mSCBufLength`, and the `World`'s fields. -/
structure Options where
  mPreferredHardwareBufferFrameSize : Nat
  mSCBufLength : Nat
  mNumInputs : Nat
  mNumOutputs : Nat
  mBelaAnalogInputChannels : Int
  mBelaAnalogOutputChannels : Int
  mBelaDigitalChannels : Int
  mBelaHeadphoneLevel : ℚ
  mBelaPGAGainLeft : ℚ
  mBelaPGAGainRight : ℚ
  mBelaSpeakerMuted : Bool
  mBelaDACLevel : ℚ
  mBelaADCLevel : ℚ
  mBelaNumMuxChannels : Int
  mBelaPRU : Int
  mVerbosity : Int

/-- The board's audio channel counts, from `Bela_HwConfig_new(Bela_detectHw())`. -/
structure BelaHwConfig where
  audioInChannels : Nat
  audioOutChannels : Nat

/-- `numAnalogIn` (or `numAnalogOut`) before the two are matched: the count asked for,
raised to the audio channels asked for beyond the board's, then snapped to `4` or `8`. -/
def requestAnalog (requested extraAudio : Int) : Int :=
  let n := if extraAudio > 0 then max requested extraAudio else requested
  if n > 0 then (if n < 5 then 4 else 8) else n

/-- `numAnalogOut = sc_max(numAnalogOut, numAnalogIn); numAnalogIn = numAnalogOut;` when
they differ. -/
def matchAnalog (numAnalogIn numAnalogOut : Int) : Int × Int :=
  if numAnalogOut ≠ numAnalogIn then (max numAnalogOut numAnalogIn, max numAnalogOut numAnalogIn)
  else (numAnalogIn, numAnalogOut)

/-- `mask |= (1 << n)` for each `n < extraAudio`: the analog channels used as audio. -/
def expanderMask (mask : Nat) (extraAudio : Int) : Nat :=
  forFrames extraAudio.toNat (fun n mask => mask ||| 1 <<< n) mask

/-- A level passed on to Bela only inside its range `[lo, hi]`; Bela's default otherwise. -/
def levelInRange (lo hi level default : ℚ) : ℚ :=
  if lo ≤ level ∧ level ≤ hi then level else default

/-- The settings `DriverSetup` hands to `Bela_initAudio`, from Bela's defaults. -/
def driverSetupSettings (defaults : BelaInitSettings) (options : Options) (cfg : BelaHwConfig) :
    BelaInitSettings :=
  let periodSize := if options.mPreferredHardwareBufferFrameSize ≠ 0 then
    options.mPreferredHardwareBufferFrameSize else defaults.periodSize
  let periodSize := if periodSize ≠ options.mSCBufLength then options.mSCBufLength else periodSize
  let extraAudioIn : Int := options.mNumInputs - cfg.audioInChannels
  let extraAudioOut : Int := options.mNumOutputs - cfg.audioOutChannels
  let numAnalog := matchAnalog (requestAnalog options.mBelaAnalogInputChannels extraAudioIn)
    (requestAnalog options.mBelaAnalogOutputChannels extraAudioOut)
  { periodSize
    interleave := 0
    uniformSampleRate := 1
    analogOutputsPersist := 0
    useAnalog := if numAnalog.1 > 0 ∨ numAnalog.2 > 0 then 1 else 0
    numAnalogInChannels := numAnalog.1
    numAnalogOutChannels := numAnalog.2
    audioExpanderInputs := expanderMask defaults.audioExpanderInputs extraAudioIn
    audioExpanderOutputs := expanderMask defaults.audioExpanderOutputs extraAudioOut
    useDigital := if options.mBelaDigitalChannels > 0 then 1 else 0
    numDigitalChannels := if options.mBelaDigitalChannels > 0 then options.mBelaDigitalChannels
      else defaults.numDigitalChannels
    headphoneLevel := levelInRange (-127 / 2) 0 options.mBelaHeadphoneLevel defaults.headphoneLevel
    pgaGain := (levelInRange 0 (119 / 2) options.mBelaPGAGainLeft defaults.pgaGain.1,
      levelInRange 0 (119 / 2) options.mBelaPGAGainRight defaults.pgaGain.2)
    beginMuted := if options.mBelaSpeakerMuted then 1 else 0
    dacLevel := levelInRange (-127 / 2) 0 options.mBelaDACLevel defaults.dacLevel
    adcLevel := levelInRange (-12) 0 options.mBelaADCLevel defaults.adcLevel
    numMuxChannels := options.mBelaNumMuxChannels
    pruNumber := if options.mBelaPRU = 0 ∨ options.mBelaPRU = 1 then options.mBelaPRU
      else defaults.pruNumber
    verbose := options.mVerbosity }

/-- `DriverSetup`: when `Bela_initAudio` accepts the settings, the samples per callback it
reports (`*outNumSamples`). -/
def driverSetup (defaults : BelaInitSettings) (options : Options) (cfg : BelaHwConfig)
    (initAudio : BelaInitSettings → Bool) : Option Nat :=
  let settings := driverSetupSettings defaults options cfg
  if initAudio settings then some settings.periodSize else none

/-- One analog count asked for: `0`, `4` or `8`, zero only when neither the count asked
for nor the audio channels beyond the board's are positive, and covering both up to
eight. -/
theorem requestAnalog_spec {requested : Int} (extraAudio : Int) (nonneg : 0 ≤ requested) :
    let n := requestAnalog requested extraAudio
    (n = 0 ∨ n = 4 ∨ n = 8) ∧ (0 < n ↔ 0 < requested ∨ 0 < extraAudio) ∧
      min requested 8 ≤ n ∧ min extraAudio 8 ≤ n := by
  simp only [requestAnalog]
  split_ifs <;> omega

/-- Matching keeps counts of `0`, `4` or `8` and raises neither below what it was. -/
theorem matchAnalog_spec {numAnalogIn numAnalogOut : Int}
    (snappedIn : numAnalogIn = 0 ∨ numAnalogIn = 4 ∨ numAnalogIn = 8)
    (snappedOut : numAnalogOut = 0 ∨ numAnalogOut = 4 ∨ numAnalogOut = 8) :
    let matched := matchAnalog numAnalogIn numAnalogOut
    matched.1 = matched.2 ∧ (matched.1 = 0 ∨ matched.1 = 4 ∨ matched.1 = 8) ∧
      numAnalogIn ≤ matched.1 ∧ numAnalogOut ≤ matched.2 := by
  simp only [matchAnalog]
  split_ifs <;> omega

/-- For counts asked for that are not negative, `DriverSetup` asks Bela for as many analog
inputs as outputs, `0`, `4` or `8`, enables analog exactly when they are positive, and asks
for enough to stand in for up to eight audio channels beyond the board's, each way. -/
theorem analog_channels_matched (defaults : BelaInitSettings) (options : Options)
    (cfg : BelaHwConfig) (inputs : 0 ≤ options.mBelaAnalogInputChannels)
    (outputs : 0 ≤ options.mBelaAnalogOutputChannels) :
    let settings := driverSetupSettings defaults options cfg
    settings.numAnalogInChannels = settings.numAnalogOutChannels ∧
      (settings.numAnalogInChannels = 0 ∨ settings.numAnalogInChannels = 4 ∨
        settings.numAnalogInChannels = 8) ∧
      (settings.useAnalog = 1 ↔ 0 < settings.numAnalogInChannels) ∧
      min ((options.mNumInputs : Int) - cfg.audioInChannels) 8 ≤ settings.numAnalogInChannels ∧
      min ((options.mNumOutputs : Int) - cfg.audioOutChannels) 8 ≤ settings.numAnalogOutChannels := by
  obtain ⟨snappedIn, -, -, extraIn⟩ :=
    requestAnalog_spec ((options.mNumInputs : Int) - cfg.audioInChannels) inputs
  obtain ⟨snappedOut, -, -, extraOut⟩ :=
    requestAnalog_spec ((options.mNumOutputs : Int) - cfg.audioOutChannels) outputs
  obtain ⟨same, snapped, raisedIn, raisedOut⟩ := matchAnalog_spec snappedIn snappedOut
  simp only [driverSetupSettings]
  refine ⟨same, snapped, ?_, extraIn.trans raisedIn, extraOut.trans raisedOut⟩
  split_ifs <;> simp only [true_iff, false_iff, not_lt] <;> omega

/-- On the board `DriverSetup` set up (the board's audio channels, and the analog channels
the settings ask for), the callback routes every input bus and every output bus the server
asks for, when it asks for at most eight beyond the board's audio channels each way. -/
theorem requested_buses_all_routed (defaults : BelaInitSettings) (options : Options)
    (cfg : BelaHwConfig) (inputs : 0 ≤ options.mBelaAnalogInputChannels)
    (outputs : 0 ≤ options.mBelaAnalogOutputChannels)
    (fewInputs : options.mNumInputs ≤ cfg.audioInChannels + 8)
    (fewOutputs : options.mNumOutputs ≤ cfg.audioOutChannels + 8)
    (context : BelaContext) (world : World)
    (audioIn : context.audioInChannels = cfg.audioInChannels)
    (audioOut : context.audioOutChannels = cfg.audioOutChannels)
    (analogIn : (context.analogInChannels : Int) =
      (driverSetupSettings defaults options cfg).numAnalogInChannels)
    (analogOut : (context.analogOutChannels : Int) =
      (driverSetupSettings defaults options cfg).numAnalogOutChannels)
    (numInputs : world.mNumInputs = options.mNumInputs)
    (numOutputs : world.mNumOutputs = options.mNumOutputs) :
    minInputs context world + anaInputs context world = world.mNumInputs ∧
      minOutputs context world + anaOutputs context world = world.mNumOutputs := by
  obtain ⟨-, -, -, coverIn, coverOut⟩ := analog_channels_matched defaults options cfg inputs outputs
  rw [← analogIn, min_eq_left (by omega)] at coverIn
  rw [← analogOut, min_eq_left (by omega)] at coverOut
  unfold minInputs anaInputs minOutputs anaOutputs
  rw [audioIn, audioOut, numInputs, numOutputs]
  constructor <;> split_ifs <;> omega

/-- Bit `j` of an expander mask: set in the mask it started from, or one of the first
`extraAudio` channels. -/
theorem expanderMask_testBit (mask : Nat) (extraAudio : Int) (j : Nat) :
    (expanderMask mask extraAudio).testBit j = (mask.testBit j || decide ((j : Int) < extraAudio)) := by
  have loop : ∀ k, (forFrames k (fun n mask => mask ||| 1 <<< n) mask).testBit j =
      (mask.testBit j || decide (j < k)) := by
    intro k
    induction k with
    | zero => simp
    | succ k ih =>
      rw [forFrames_succ, Nat.testBit_or, ih, Nat.one_shiftLeft, Nat.testBit_two_pow, Bool.or_assoc]
      congr 1
      by_cases below : j < k <;> simp [below] <;> omega
  rw [expanderMask, loop]
  congr 2
  exact propext (by omega)

/-- Settings for the examples: a period of sixty-four frames, no analog or digital
channels, levels at zero. -/
def exampleDefaults : BelaInitSettings :=
  ⟨64, 0, 0, 0, 0, 0, 0, 0, 0, 0, 0, 0, (0, 0), 0, 0, 0, 0, 1, 0⟩

/-- A server asking for four input and four output buses, sixteen-frame buffers, and no
analog channels of its own. -/
def fourBusOptions : Options :=
  ⟨0, 16, 4, 4, 0, 0, 0, 0, 0, 0, false, 0, 0, 0, 1, 0⟩

/-- A board with two audio inputs and two audio outputs. -/
def stereoBoard : BelaHwConfig :=
  ⟨2, 2⟩

theorem four_buses_all_routed :
    let settings := driverSetupSettings exampleDefaults fourBusOptions stereoBoard
    let context : BelaContext := ⟨16, 2, 2, 16, 4, 4, fun _ => 0, fun _ => 0⟩
    (0 ≤ fourBusOptions.mBelaAnalogInputChannels ∧ 0 ≤ fourBusOptions.mBelaAnalogOutputChannels ∧
      fourBusOptions.mNumInputs ≤ stereoBoard.audioInChannels + 8 ∧
      fourBusOptions.mNumOutputs ≤ stereoBoard.audioOutChannels + 8 ∧
      context.audioInChannels = stereoBoard.audioInChannels ∧
      context.audioOutChannels = stereoBoard.audioOutChannels ∧
      (context.analogInChannels : Int) = settings.numAnalogInChannels ∧
      (context.analogOutChannels : Int) = settings.numAnalogOutChannels ∧
      fourBusWorld.mNumInputs = fourBusOptions.mNumInputs ∧
      fourBusWorld.mNumOutputs = fourBusOptions.mNumOutputs) ∧
    minInputs context fourBusWorld + anaInputs context fourBusWorld = fourBusWorld.mNumInputs ∧
      minOutputs context fourBusWorld + anaOutputs context fourBusWorld = fourBusWorld.mNumOutputs :=
  ⟨⟨by decide, by decide, by decide, by decide, rfl, rfl, by decide, by decide, rfl, rfl⟩,
    requested_buses_all_routed exampleDefaults fourBusOptions stereoBoard (by decide) (by decide)
      (by decide) (by decide) _ fourBusWorld rfl rfl (by decide) (by decide) rfl rfl⟩

/-- On the board `DriverSetup` set up, when the server asks for at most eight audio channels
beyond the board's each way, the audio expander is enabled on exactly the analog channels the
callback routes as audio buses, beyond those Bela's defaults enable: bit `j` of each mask is
set just when it is in the default mask or analog channel `j` feeds or drains a bus. -/
theorem expander_matches_routing (defaults : BelaInitSettings) (options : Options)
    (cfg : BelaHwConfig) (inputs : 0 ≤ options.mBelaAnalogInputChannels)
    (outputs : 0 ≤ options.mBelaAnalogOutputChannels)
    (fewInputs : options.mNumInputs ≤ cfg.audioInChannels + 8)
    (fewOutputs : options.mNumOutputs ≤ cfg.audioOutChannels + 8)
    (context : BelaContext) (world : World)
    (audioIn : context.audioInChannels = cfg.audioInChannels)
    (audioOut : context.audioOutChannels = cfg.audioOutChannels)
    (analogIn : (context.analogInChannels : Int) =
      (driverSetupSettings defaults options cfg).numAnalogInChannels)
    (analogOut : (context.analogOutChannels : Int) =
      (driverSetupSettings defaults options cfg).numAnalogOutChannels)
    (numInputs : world.mNumInputs = options.mNumInputs)
    (numOutputs : world.mNumOutputs = options.mNumOutputs) (j : Nat) :
    let settings := driverSetupSettings defaults options cfg
    settings.audioExpanderInputs.testBit j =
        (defaults.audioExpanderInputs.testBit j || decide (j < anaInputs context world)) ∧
      settings.audioExpanderOutputs.testBit j =
        (defaults.audioExpanderOutputs.testBit j || decide (j < anaOutputs context world)) := by
  obtain ⟨-, -, -, coverIn, coverOut⟩ := analog_channels_matched defaults options cfg inputs outputs
  rw [← analogIn, min_eq_left (by omega)] at coverIn
  rw [← analogOut, min_eq_left (by omega)] at coverOut
  simp only [driverSetupSettings, expanderMask_testBit]
  unfold anaInputs anaOutputs
  rw [audioIn, audioOut, numInputs, numOutputs]
  constructor <;> congr 2 <;> split_ifs <;> exact propext (by omega)

/-- On the stereo board with four buses each way, bit `1` of each expander mask follows the
routing of analog channel `1`, which feeds input bus `3` and drains output bus `3`. -/
theorem four_buses_expander_bits :
    let settings := driverSetupSettings exampleDefaults fourBusOptions stereoBoard
    let context : BelaContext := ⟨16, 2, 2, 16, 4, 4, fun _ => 0, fun _ => 0⟩
    (0 ≤ fourBusOptions.mBelaAnalogInputChannels ∧ 0 ≤ fourBusOptions.mBelaAnalogOutputChannels ∧
      fourBusOptions.mNumInputs ≤ stereoBoard.audioInChannels + 8 ∧
      fourBusOptions.mNumOutputs ≤ stereoBoard.audioOutChannels + 8 ∧
      context.audioInChannels = stereoBoard.audioInChannels ∧
      context.audioOutChannels = stereoBoard.audioOutChannels ∧
      (context.analogInChannels : Int) = settings.numAnalogInChannels ∧
      (context.analogOutChannels : Int) = settings.numAnalogOutChannels ∧
      fourBusWorld.mNumInputs = fourBusOptions.mNumInputs ∧
      fourBusWorld.mNumOutputs = fourBusOptions.mNumOutputs) ∧
    settings.audioExpanderInputs.testBit 1 =
        (exampleDefaults.audioExpanderInputs.testBit 1 || decide (1 < anaInputs context fourBusWorld)) ∧
      settings.audioExpanderOutputs.testBit 1 =
        (exampleDefaults.audioExpanderOutputs.testBit 1 ||
          decide (1 < anaOutputs context fourBusWorld)) :=
  ⟨⟨by decide, by decide, by decide, by decide, rfl, rfl, by decide, by decide, rfl, rfl⟩,
    expander_matches_routing exampleDefaults fourBusOptions stereoBoard (by decide) (by decide)
      (by decide) (by decide) _ fourBusWorld rfl rfl (by decide) (by decide) rfl rfl 1⟩

end ScBela.Driver
