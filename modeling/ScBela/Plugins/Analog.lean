import ScBela.Plugins.Board

/-!
# The analog UGens of `BELAUGens.cpp`

`MultiplexAnalogIn`, `AnalogIn` and `AnalogOut`, each with one calc function per
combination of input rates and a constructor that picks it. Input `i` of a unit is its
buffer `IN(i)`; a control-rate input is read as `IN0(i)`, the buffer's first sample.
The `rt_fprintf` warnings are left out.

## Main definitions

* `readFrame`, `readOut` — the two loop bodies of the read UGens
* `MultiplexAnalogIn.nextAaa` ... `nextKkk`, `MultiplexAnalogIn.ctor`
* `AnalogIn.updatePin`, `AnalogIn.nextAa`, `nextAk`, `nextKk`, `AnalogIn.ctor`
* `AnalogOut.updatePin`, `AnalogOut.nextAaa`, `nextAka`, `nextAak`, `nextKk`,
  `AnalogOut.ctor`
-/

namespace ScBela.Plugins

/-- One frame of a loop that reads only when `ok` holds and otherwise keeps the value it
read last, then writes the value out: `if (ok) value = read(); *++out = value;`. -/
def readFrame (ok : Nat → Bool) (read : Nat → Block → ℚ × Block) (n : Nat)
    (state : Block × ℚ) : Block × ℚ :=
  let (value, b) := if ok n then read n state.1 else (state.2, state.1)
  (b.writeOut n value, value)

/-- One frame of a loop that reads and writes the value out: `*++out = read();`. -/
def readOut (read : Nat → Block → ℚ × Block) (n : Nat) (b : Block) : Block :=
  let (value, b) := read n b
  b.writeOut n value

theorem readFrame_fst_ok {ok : Nat → Bool} {read : Nat → Block → ℚ × Block} {n : Nat}
    (reads : ok n = true) (state : Block × ℚ) :
    (readFrame ok read n state).1 = readOut read n state.1 := by
  simp [readFrame, readOut, reads]

theorem readFrame_not_ok {ok : Nat → Bool} {read : Nat → Block → ℚ × Block} {n : Nat}
    (fails : ok n = false) (b : Block) : readFrame ok read n (b, 0) = (b.writeOut n 0, 0) := by
  simp [readFrame, fails]

/-- A read loop whose check passes at every frame reads at every frame. -/
theorem forFrames_readFrame_ok {ok : Nat → Bool} {read : Nat → Block → ℚ × Block}
    {count : Nat} (reads : ∀ n < count, ok n = true) (state : Block × ℚ) :
    (forFrames count (readFrame ok read) state).1 = forFrames count (readOut read) state.1 :=
  forFrames_map count _ _ Prod.fst (fun n below s => readFrame_fst_ok (reads n below) s) state

/-- A read loop whose check fails at every frame writes the `0` it started from. -/
theorem forFrames_readFrame_not_ok {ok : Nat → Bool} {read : Nat → Block → ℚ × Block}
    {count : Nat} (fails : ∀ n < count, ok n = false) (b : Block) :
    forFrames count (readFrame ok read) (b, 0) =
      (forFrames count (fun n (b : Block) => b.writeOut n 0) b, 0) :=
  (forFrames_map count _ _ (fun (b : Block) => (b, (0 : ℚ)))
    (fun n below b => (readFrame_not_ok (fails n below) b).symm) b).symm

theorem readFrame_adds {P : BelaCall → Prop} {ok : Nat → Bool} {read : Nat → Block → ℚ × Block}
    {n : Nat} (reads : ok n = true → ∀ b : Block, b.Adds P (read n b).2) (state : Block × ℚ) :
    state.1.Adds P (readFrame ok read n state).1 := by
  unfold readFrame
  split_ifs with passes
  · exact (reads passes _).trans (.of_calls_eq rfl)
  · exact .of_calls_eq rfl

theorem readOut_adds {P : BelaCall → Prop} {read : Nat → Block → ℚ × Block} {n : Nat}
    (reads : ∀ b : Block, b.Adds P (read n b).2) (b : Block) : b.Adds P (readOut read n b) :=
  (reads b).trans (.of_calls_eq rfl)

/-! ## `MultiplexAnalogIn` -/

namespace MultiplexAnalogIn

/-- The range check of the `MultiplexAnalogIn_next_*` loops. -/
def outOfRange (context : BelaContext) (analogPin muxChannel : Int) : Bool :=
  analogPin < 0 || analogPin ≥ context.analogInChannels || muxChannel < 0 ||
    muxChannel > context.multiplexerChannels

/-- The per-frame loop of `_aaa`, `_aak` and `_aka`, on the pin and channel of each
frame. -/
def readLoop (context : BelaContext) (analogPin muxChannel : Nat → Int) (inNumSamples : Nat)
    (b : Block) : Block :=
  (forFrames inNumSamples
    (readFrame (fun n => !outOfRange context (analogPin n) (muxChannel n))
      (fun n b => b.multiplexerAnalogRead context (analogPin n) (muxChannel n)))
    (b, 0)).1

/-- `MultiplexAnalogIn_next_aaa`: pin and multiplexer channel at audio rate. -/
def nextAaa (context : BelaContext) (fin fmux : Nat → ℚ) (inNumSamples : Nat) (b : Block) :
    Block :=
  readLoop context (fun n => floatToInt (fin n)) (fun n => floatToInt (fmux n)) inNumSamples b

/-- `MultiplexAnalogIn_next_aak`: the channel at control rate. -/
def nextAak (context : BelaContext) (fin fmux : Nat → ℚ) (inNumSamples : Nat) (b : Block) :
    Block :=
  let muxChannel := floatToInt (fmux 0)
  readLoop context (fun n => floatToInt (fin n)) (fun _ => muxChannel) inNumSamples b

/-- `MultiplexAnalogIn_next_aka`: the pin at control rate. -/
def nextAka (context : BelaContext) (fin fmux : Nat → ℚ) (inNumSamples : Nat) (b : Block) :
    Block :=
  let analogPin := floatToInt (fin 0)
  readLoop context (fun _ => analogPin) (fun n => floatToInt (fmux n)) inNumSamples b

/-- `MultiplexAnalogIn_next_akk`: both at control rate; the check is made once. -/
def nextAkk (context : BelaContext) (fin fmux : Nat → ℚ) (inNumSamples : Nat) (b : Block) :
    Block :=
  let analogPin := floatToInt (fin 0)
  let muxChannel := floatToInt (fmux 0)
  if outOfRange context analogPin muxChannel then
    forFrames inNumSamples (fun n b => b.writeOut n 0) b
  else
    forFrames inNumSamples (readOut fun _ b => b.multiplexerAnalogRead context analogPin muxChannel) b

/-- `MultiplexAnalogIn_next_akk` is the per-frame loop on its pin and channel repeated. -/
theorem nextAkk_eq (context : BelaContext) (fin fmux : Nat → ℚ) (inNumSamples : Nat)
    (b : Block) :
    nextAkk context fin fmux inNumSamples b =
      readLoop context (fun _ => floatToInt (fin 0)) (fun _ => floatToInt (fmux 0))
        inNumSamples b := by
  unfold nextAkk readLoop
  dsimp only
  cases fails : outOfRange context (floatToInt (fin 0)) (floatToInt (fmux 0))
  · rw [forFrames_readFrame_ok (fun _ _ => by simp [fails])]; rfl
  · rw [forFrames_readFrame_not_ok (fun _ _ => by simp [fails])]; rfl

/-- `MultiplexAnalogIn_next_kkk`: one output sample, with the two checks made apart. -/
def nextKkk (context : BelaContext) (fin fmux : Nat → ℚ) (b : Block) : Block :=
  let analogPin := floatToInt (fin 0)
  let muxChannel := floatToInt (fmux 0)
  if analogPin < 0 ∨ analogPin ≥ context.analogInChannels then b.writeOut 0 0
  else if muxChannel < 0 ∨ muxChannel > context.multiplexerChannels then b.writeOut 0 0
  else
    let (analogValue, b) := b.multiplexerAnalogRead context analogPin muxChannel
    b.writeOut 0 analogValue

/-- The calc functions a `MultiplexAnalogIn` can hold. -/
inductive CalcFunc
  | clearUnitOutputs
  | aaa
  | aak
  | aka
  | akk
  | kkk
  deriving DecidableEq, Repr

/-- `(unit->mCalcFunc)(unit, inNumSamples)`. -/
def CalcFunc.run (context : BelaContext) :
    CalcFunc → (Nat → ℚ) → (Nat → ℚ) → Nat → Block → Block
  | .clearUnitOutputs, _, _, inNumSamples, b => b.clearUnitOutputs inNumSamples
  | .aaa, fin, fmux, inNumSamples, b => nextAaa context fin fmux inNumSamples b
  | .aak, fin, fmux, inNumSamples, b => nextAak context fin fmux inNumSamples b
  | .aka, fin, fmux, inNumSamples, b => nextAka context fin fmux inNumSamples b
  | .akk, fin, fmux, inNumSamples, b => nextAkk context fin fmux inNumSamples b
  | .kkk, fin, fmux, _, b => nextKkk context fin fmux b

/-- The choice of calc function in `MultiplexAnalogIn_Ctor`. -/
def selectCalc (calcRate rate0 rate1 : CalcRate) : CalcFunc :=
  if calcRate = .full then
    if rate0 = .full then (if rate1 = .full then .aaa else .aak)
    else (if rate1 = .full then .aka else .akk)
  else .kkk

/-- `MultiplexAnalogIn_Ctor`: without multiplexer channels the unit is disabled
(`BelaUgen_disable`); otherwise the calc function is picked and run once on one sample
(`BelaUgen_init_output`). -/
def ctor (context : BelaContext) (calcRate rate0 rate1 : CalcRate) (fin fmux : Nat → ℚ)
    (b : Block) : CalcFunc × Block :=
  if context.multiplexerChannels = 0 then (.clearUnitOutputs, b.clearUnitOutputs 1)
  else
    let calcFunc := selectCalc calcRate rate0 rate1
    (calcFunc, calcFunc.run context fin fmux 1 b)

end MultiplexAnalogIn

/-! ## `AnalogIn` -/

/-- An `AnalogIn` unit: the pin it read last. -/
structure AnalogIn where
  mAnalogPin : Int
  deriving DecidableEq, Repr

namespace AnalogIn

/-- `AnalogIn_updatePin`: remember the pin, and tell whether it is an analog input. -/
def updatePin (context : BelaContext) (unit : AnalogIn) (newAnalogPin : Int) :
    AnalogIn × Bool :=
  let isValid := newAnalogPin ≥ 0 && newAnalogPin < context.analogInChannels
  (if newAnalogPin ≠ unit.mAnalogPin then { mAnalogPin := newAnalogPin } else unit, isValid)

/-- `AnalogIn_next_aa`: the pin at audio rate. -/
def nextAa (context : BelaContext) (fin : Nat → ℚ) (inNumSamples : Nat) (unit : AnalogIn)
    (b : Block) : AnalogIn × Block :=
  let state := forFrames inNumSamples (fun n (state : AnalogIn × Block × ℚ) =>
      let (unit, b, analogValue) := state
      let analogPin := floatToInt (fin n)
      let (unit, isValid) := updatePin context unit analogPin
      let (analogValue, b) := if isValid then b.analogReadNI context n analogPin else (analogValue, b)
      (unit, b.writeOut n analogValue, analogValue))
    (unit, b, 0)
  (state.1, state.2.1)

/-- `AnalogIn_next_ak`: the pin at control rate, checked once. -/
def nextAk (context : BelaContext) (fin : Nat → ℚ) (inNumSamples : Nat) (unit : AnalogIn)
    (b : Block) : AnalogIn × Block :=
  let analogPin := floatToInt (fin 0)
  let (unit, isValid) := updatePin context unit analogPin
  if isValid then
    (unit, forFrames inNumSamples (readOut fun n b => b.analogReadNI context n analogPin) b)
  else (unit, forFrames inNumSamples (fun n b => b.writeOut n 0) b)

/-- `AnalogIn_next_kk`: one output sample. -/
def nextKk (context : BelaContext) (fin : Nat → ℚ) (unit : AnalogIn) (b : Block) :
    AnalogIn × Block :=
  let analogPin := floatToInt (fin 0)
  let (unit, isValid) := updatePin context unit analogPin
  if isValid then
    let (analogValue, b) := b.analogReadNI context 0 analogPin
    (unit, b.writeOut 0 analogValue)
  else (unit, b.writeOut 0 0)

/-- The pin check of `AnalogIn_updatePin`. -/
def isValid (context : BelaContext) (analogPin : Int) : Bool :=
  analogPin ≥ 0 && analogPin < context.analogInChannels

/-- `mAnalogPin` has no other field to keep: the updated unit is the new pin. -/
@[simp] theorem updatePin_eq (context : BelaContext) (unit : AnalogIn) (newAnalogPin : Int) :
    updatePin context unit newAnalogPin = (⟨newAnalogPin⟩, isValid context newAnalogPin) := by
  unfold updatePin
  split_ifs with same
  · rfl
  · cases unit; simp_all [isValid]

/-- `AnalogIn_next_aa`'s block, as a read loop that keeps its last value. -/
theorem nextAa_snd (context : BelaContext) (fin : Nat → ℚ) (inNumSamples : Nat)
    (unit : AnalogIn) (b : Block) :
    (nextAa context fin inNumSamples unit b).2 =
      (forFrames inNumSamples
        (readFrame (fun n => isValid context (floatToInt (fin n)))
          (fun n b => b.analogReadNI context n (floatToInt (fin n)))) (b, 0)).1 :=
  congrArg Prod.fst (forFrames_map inNumSamples _ _ (fun s => (s.2.1, s.2.2))
    (fun _ _ ⟨_, _, _⟩ => by simp [readFrame]) (unit, b, 0))

/-- After a frame, `AnalogIn_next_aa`'s unit holds that frame's pin. -/
theorem nextAa_fst (context : BelaContext) (fin : Nat → ℚ) (count : Nat) (unit : AnalogIn)
    (b : Block) : (nextAa context fin (count + 1) unit b).1 = ⟨floatToInt (fin count)⟩ := by
  simp [nextAa, forFrames_succ]

/-- The calc functions an `AnalogIn` can hold. -/
inductive CalcFunc
  | clearUnitOutputs
  | aa
  | ak
  | kk
  deriving DecidableEq, Repr

/-- `(unit->mCalcFunc)(unit, inNumSamples)`. -/
def CalcFunc.run (context : BelaContext) :
    CalcFunc → (Nat → ℚ) → Nat → AnalogIn → Block → AnalogIn × Block
  | .clearUnitOutputs, _, inNumSamples, unit, b => (unit, b.clearUnitOutputs inNumSamples)
  | .aa, fin, inNumSamples, unit, b => nextAa context fin inNumSamples unit b
  | .ak, fin, inNumSamples, unit, b => nextAk context fin inNumSamples unit b
  | .kk, fin, _, unit, b => nextKk context fin unit b

/-- The choice of calc function in `AnalogIn_Ctor`. -/
def selectCalc (calcRate rate0 : CalcRate) : CalcFunc :=
  if calcRate = .full then (if rate0 = .full then .aa else .ak) else .kk

/-- `AnalogIn_Ctor`: without analog inputs the unit is disabled; otherwise `mAnalogPin`
starts at `-1` and the picked calc function runs once on one sample. The disabled unit's
`mAnalogPin`, which the source leaves unset, is `-1` here too. -/
def ctor (context : BelaContext) (calcRate rate0 : CalcRate) (fin : Nat → ℚ) (b : Block) :
    CalcFunc × AnalogIn × Block :=
  if context.analogInChannels = 0 then (.clearUnitOutputs, ⟨-1⟩, b.clearUnitOutputs 1)
  else
    let calcFunc := selectCalc calcRate rate0
    (calcFunc, calcFunc.run context fin 1 ⟨-1⟩ b)

end AnalogIn

/-! ## `AnalogOut` -/

/-- An `AnalogOut` unit: the pin it wrote last. -/
structure AnalogOut where
  mAnalogPin : Int
  deriving DecidableEq, Repr

namespace AnalogOut

/-- `AnalogOut_updatePin`: remember the pin, and tell whether it is an analog output. -/
def updatePin (context : BelaContext) (unit : AnalogOut) (newAnalogPin : Int) :
    AnalogOut × Bool :=
  let isValid := newAnalogPin ≥ 0 && newAnalogPin < context.analogOutChannels
  (if newAnalogPin ≠ unit.mAnalogPin then { mAnalogPin := newAnalogPin } else unit, isValid)

/-- `AnalogOut_next_aaa`: pin and value at audio rate. -/
def nextAaa (context : BelaContext) (fin input : Nat → ℚ) (inNumSamples : Nat)
    (unit : AnalogOut) (b : Block) : AnalogOut × Block :=
  forFrames inNumSamples (fun n (state : AnalogOut × Block) =>
      let (unit, b) := state
      let analogPin := floatToInt (fin n)
      let (unit, isValid) := updatePin context unit analogPin
      if isValid then (unit, b.analogWriteOnceNI n unit.mAnalogPin (input n)) else (unit, b))
    (unit, b)

/-- `AnalogOut_next_aka`: the pin at control rate, checked once. -/
def nextAka (context : BelaContext) (fin input : Nat → ℚ) (inNumSamples : Nat)
    (unit : AnalogOut) (b : Block) : AnalogOut × Block :=
  let analogPin := floatToInt (fin 0)
  let (unit, isValid) := updatePin context unit analogPin
  if isValid then
    (unit, forFrames inNumSamples (fun n b => b.analogWriteOnceNI n unit.mAnalogPin (input n)) b)
  else (unit, b)

/-- `AnalogOut_next_aak`: the value at control rate. -/
def nextAak (context : BelaContext) (fin input : Nat → ℚ) (inNumSamples : Nat)
    (unit : AnalogOut) (b : Block) : AnalogOut × Block :=
  let value := input 0
  forFrames inNumSamples (fun n (state : AnalogOut × Block) =>
      let (unit, b) := state
      let analogPin := floatToInt (fin n)
      let (unit, isValid) := updatePin context unit analogPin
      if isValid then (unit, b.analogWriteOnceNI n unit.mAnalogPin value) else (unit, b))
    (unit, b)

/-- `AnalogOut_next_kk`: one block-wide write. -/
def nextKk (context : BelaContext) (fin input : Nat → ℚ) (unit : AnalogOut) (b : Block) :
    AnalogOut × Block :=
  let analogPin := floatToInt (fin 0)
  let value := input 0
  let (unit, isValid) := updatePin context unit analogPin
  if isValid then (unit, b.analogWriteNI context 0 unit.mAnalogPin value) else (unit, b)

/-- The pin check of `AnalogOut_updatePin`. -/
def isValid (context : BelaContext) (analogPin : Int) : Bool :=
  analogPin ≥ 0 && analogPin < context.analogOutChannels

/-- `mAnalogPin` has no other field to keep: the updated unit is the new pin. -/
@[simp] theorem updatePin_eq (context : BelaContext) (unit : AnalogOut) (newAnalogPin : Int) :
    updatePin context unit newAnalogPin = (⟨newAnalogPin⟩, isValid context newAnalogPin) := by
  unfold updatePin
  split_ifs with same
  · rfl
  · cases unit; simp_all [isValid]

/-- One frame of `AnalogOut_next_aaa`'s loop on the block: write the frame's value when
its pin is valid. -/
def writeFrame (context : BelaContext) (analogPin : Nat → Int) (input : Nat → ℚ) (n : Nat)
    (b : Block) : Block :=
  if isValid context (analogPin n) then b.analogWriteOnceNI n (analogPin n) (input n) else b

theorem nextAaa_snd (context : BelaContext) (fin input : Nat → ℚ) (inNumSamples : Nat)
    (unit : AnalogOut) (b : Block) :
    (nextAaa context fin input inNumSamples unit b).2 =
      forFrames inNumSamples (writeFrame context (fun n => floatToInt (fin n)) input) b :=
  forFrames_map inNumSamples _ _ Prod.snd
    (fun _ _ ⟨_, _⟩ => by simp only [updatePin_eq, writeFrame]; split <;> rfl) (unit, b)

/-- After a frame, `AnalogOut_next_aaa`'s unit holds that frame's pin. -/
theorem nextAaa_fst (context : BelaContext) (fin input : Nat → ℚ) (count : Nat)
    (unit : AnalogOut) (b : Block) :
    (nextAaa context fin input (count + 1) unit b).1 = ⟨floatToInt (fin count)⟩ := by
  simp only [nextAaa, forFrames_succ, updatePin_eq]
  split <;> rfl

/-- `AnalogOut_next_aak` is `AnalogOut_next_aaa` on its value repeated. -/
theorem nextAak_eq (context : BelaContext) (fin input : Nat → ℚ) (inNumSamples : Nat)
    (unit : AnalogOut) (b : Block) :
    nextAak context fin input inNumSamples unit b =
      nextAaa context fin (fun _ => input 0) inNumSamples unit b := rfl

/-- The calc functions an `AnalogOut` can hold. -/
inductive CalcFunc
  | clearUnitOutputs
  | aaa
  | aka
  | aak
  | kk
  deriving DecidableEq, Repr

/-- `(unit->mCalcFunc)(unit, inNumSamples)`. -/
def CalcFunc.run (context : BelaContext) :
    CalcFunc → (Nat → ℚ) → (Nat → ℚ) → Nat → AnalogOut → Block → AnalogOut × Block
  | .clearUnitOutputs, _, _, inNumSamples, unit, b => (unit, b.clearUnitOutputs inNumSamples)
  | .aaa, fin, input, inNumSamples, unit, b => nextAaa context fin input inNumSamples unit b
  | .aka, fin, input, inNumSamples, unit, b => nextAka context fin input inNumSamples unit b
  | .aak, fin, input, inNumSamples, unit, b => nextAak context fin input inNumSamples unit b
  | .kk, fin, input, _, unit, b => nextKk context fin input unit b

/-- The choice of calc function in `AnalogOut_Ctor`. -/
def selectCalc (calcRate rate0 rate1 : CalcRate) : CalcFunc :=
  if calcRate = .full then
    if rate0 = .full then (if rate1 = .full then .aaa else .aak)
    else (if rate1 = .full then .aka else .kk)
  else .kk

/-- `AnalogOut_Ctor`: without analog outputs the unit is disabled; otherwise
`mAnalogPin` starts at `-1` and the picked calc function runs once on one sample. -/
def ctor (context : BelaContext) (calcRate rate0 rate1 : CalcRate) (fin input : Nat → ℚ)
    (b : Block) : CalcFunc × AnalogOut × Block :=
  if context.analogOutChannels = 0 then (.clearUnitOutputs, ⟨-1⟩, b.clearUnitOutputs 1)
  else
    let calcFunc := selectCalc calcRate rate0 rate1
    (calcFunc, calcFunc.run context fin input 1 ⟨-1⟩ b)

end AnalogOut

end ScBela.Plugins
