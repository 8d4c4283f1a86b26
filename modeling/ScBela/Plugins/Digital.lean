import ScBela.Plugins.Board

/-!
# The digital UGens of `BELAUGens.cpp`

`DigitalIn` and `DigitalOut` take their pin once, at construction; `DigitalIO` reads its
pin, its value and its mode (`< 0.5` for input) at every call, at audio or control rate,
and has one calc function per combination of rates. A control-rate input is read as
`IN0(i)` (or `ZIN0(i)`), the buffer's first sample. The `rt_fprintf` warnings are left out.

## Main definitions

* `DigitalIn.nextA`, `nextK`, `DigitalIn.ctor`
* `DigitalOut.nextAOnce`, `nextA`, `nextK`, `DigitalOut.ctor`
* `DigitalIO.nextAaaaOnce` ... `nextKk`, `DigitalIO.ctor`
-/

namespace ScBela.Plugins

/-- `digitalPin < 0 || digitalPin >= context->digitalChannels`. -/
def digitalOutOfRange (context : BelaContext) (digitalPin : Int) : Bool :=
  digitalPin < 0 || digitalPin ≥ context.digitalChannels

@[simp] theorem digitalOutOfRange_eq_false {context : BelaContext} {digitalPin : Int} :
    digitalOutOfRange context digitalPin = false ↔
      0 ≤ digitalPin ∧ digitalPin < context.digitalChannels := by
  simp [digitalOutOfRange]

/-! ## `DigitalIn` -/

/-- A `DigitalIn` unit: its pin, fixed at construction. -/
structure DigitalIn where
  mDigitalPin : Int
  deriving DecidableEq, Repr

namespace DigitalIn

/-- `DigitalIn_next_a`: read the pin at every frame. -/
def nextA (unit : DigitalIn) (inNumSamples : Nat) (b : Block) : Block :=
  forFrames inNumSamples (fun n b =>
    let (digitalValue, b) := b.digitalRead n unit.mDigitalPin
    b.writeOut n digitalValue) b

/-- `DigitalIn_next_k`: read the pin at frame `0`. -/
def nextK (unit : DigitalIn) (b : Block) : Block :=
  let (digitalValue, b) := b.digitalRead 0 unit.mDigitalPin
  b.writeOut 0 digitalValue

/-- The calc functions a `DigitalIn` can hold. -/
inductive CalcFunc
  | clearUnitOutputs
  | a
  | k
  deriving DecidableEq, Repr

/-- `(unit->mCalcFunc)(unit, inNumSamples)`. -/
def CalcFunc.run : CalcFunc → DigitalIn → Nat → Block → Block
  | .clearUnitOutputs, _, inNumSamples, b => b.clearUnitOutputs inNumSamples
  | .a, unit, inNumSamples, b => nextA unit inNumSamples b
  | .k, unit, _, b => nextK unit b

/-- `DigitalIn_Ctor`: the pin is `ZIN0(0)`; out of range, the unit is disabled and the
constructor returns; otherwise the pin is made an input and the calc function picked by
the unit's rate runs once on one sample. -/
def ctor (context : BelaContext) (calcRate : CalcRate) (fin : Nat → ℚ) (b : Block) :
    CalcFunc × DigitalIn × Block :=
  let unit : DigitalIn := ⟨floatToInt (fin 0)⟩
  if digitalOutOfRange context unit.mDigitalPin then
    (.clearUnitOutputs, unit, b.clearUnitOutputs 1)
  else
    let b := b.pinMode context 0 unit.mDigitalPin .input
    let calcFunc : CalcFunc := if calcRate = .full then .a else .k
    (calcFunc, unit, calcFunc.run unit 1 b)

end DigitalIn

/-! ## `DigitalOut` -/

/-- A `DigitalOut` unit: its pin, fixed at construction, and the value it wrote last. -/
structure DigitalOut where
  mDigitalPin : Int
  mLastOut : Int
  deriving DecidableEq, Repr

namespace DigitalOut

/-- `DigitalOut_next_a_once`: write `1` or `0` at every frame, by `in[n] > 0.5`. -/
def nextAOnce (input : Nat → ℚ) (inNumSamples : Nat) (unit : DigitalOut) (b : Block) :
    DigitalOut × Block :=
  (unit, forFrames inNumSamples (fun n b =>
    if input n > 1 / 2 then b.digitalWriteOnce n unit.mDigitalPin 1
    else b.digitalWriteOnce n unit.mDigitalPin 0) b)

/-- One frame of `DigitalOut_next_a`'s loop, on `lastOut` and the block: write the pin when
the frame's value differs from `lastOut`. -/
def frameA (context : BelaContext) (input : Nat → ℚ) (unit : DigitalOut) (n : Nat)
    (state : Int × Block) : Int × Block :=
  let (lastOut, b) := state
  if input n > 1 / 2 then
    if lastOut = 0 then (1, b.digitalWrite context n unit.mDigitalPin 1) else (lastOut, b)
  else if lastOut = 1 then (0, b.digitalWrite context n unit.mDigitalPin 0)
  else (lastOut, b)

/-- `DigitalOut_next_a`: write only when the value changes, from the frame it changes at. -/
def nextA (context : BelaContext) (input : Nat → ℚ) (inNumSamples : Nat) (unit : DigitalOut)
    (b : Block) : DigitalOut × Block :=
  let state := forFrames inNumSamples (frameA context input unit) (unit.mLastOut, b)
  ({ unit with mLastOut := state.1 }, state.2)

/-- `DigitalOut_next_k`: the same on the block's value `IN0(1)`, from frame `0`. -/
def nextK (context : BelaContext) (input : Nat → ℚ) (unit : DigitalOut) (b : Block) :
    DigitalOut × Block :=
  if input 0 > 1 / 2 then
    if unit.mLastOut = 0 then ({ unit with mLastOut := 1 }, b.digitalWrite context 0 unit.mDigitalPin 1)
    else (unit, b)
  else if unit.mLastOut = 1 then
    ({ unit with mLastOut := 0 }, b.digitalWrite context 0 unit.mDigitalPin 0)
  else (unit, b)

/-- The calc functions a `DigitalOut` can hold. -/
inductive CalcFunc
  | clearUnitOutputs
  | aOnce
  | a
  | k
  deriving DecidableEq, Repr

/-- `(unit->mCalcFunc)(unit, inNumSamples)`, on the value input `IN(1)`. -/
def CalcFunc.run (context : BelaContext) :
    CalcFunc → (Nat → ℚ) → Nat → DigitalOut → Block → DigitalOut × Block
  | .clearUnitOutputs, _, inNumSamples, unit, b => (unit, b.clearUnitOutputs inNumSamples)
  | .aOnce, input, inNumSamples, unit, b => nextAOnce input inNumSamples unit b
  | .a, input, inNumSamples, unit, b => nextA context input inNumSamples unit b
  | .k, input, _, unit, b => nextK context input unit b

/-- The choice of calc function in `DigitalOut_Ctor`, on the write mode `(int)ZIN0(2)`. -/
def selectCalc (calcRate rate1 : CalcRate) (writeMode : Int) : CalcFunc :=
  if calcRate = .full then
    if rate1 = .full then (if writeMode ≠ 0 then .aOnce else .a) else .k
  else .k

/-- `DigitalOut_Ctor`: the pin is `ZIN0(0)` and `mLastOut` starts at `0`. A pin out of range
disables the unit, but the constructor goes on: it makes the pin an output, writes `0` to
it, picks a calc function, which replaces `ClearUnitOutputs`, and runs it once. -/
def ctor (context : BelaContext) (calcRate rate1 : CalcRate) (fin input fmode : Nat → ℚ)
    (b : Block) : CalcFunc × DigitalOut × Block :=
  let writeMode := floatToInt (fmode 0)
  let unit : DigitalOut := ⟨floatToInt (fin 0), 0⟩
  let b := if digitalOutOfRange context unit.mDigitalPin then b.clearUnitOutputs 1 else b
  let b := b.pinMode context 0 unit.mDigitalPin .output
  let b := b.digitalWrite context 0 unit.mDigitalPin unit.mLastOut
  let calcFunc := selectCalc calcRate rate1 writeMode
  (calcFunc, calcFunc.run context input 1 unit b)

end DigitalOut

/-! ## `DigitalIO` -/

/-- A `DigitalIO` unit: the value it read last and the value it wrote last. -/
structure DigitalIO where
  mLastDigitalIn : Int
  mLastDigitalOut : Int
  deriving DecidableEq, Repr

/-- The inputs of a `DigitalIO` calc call: the buffers `IN(0)` (pin), `IN(1)` (value) and
`IN(2)` (mode), and the address of `IN(1)`'s buffer, which `DigitalIO_next_akak_once`
converts to an `int`. -/
structure IOInputs where
  pinid : Nat → ℚ
  input : Nat → ℚ
  iomode : Nat → ℚ
  inAddress : Int

namespace DigitalIO

/-- `DigitalIO_next_aaaa_once`: pin, value and mode at audio rate; at each frame with a
valid pin, read or write it by the frame's mode; write the value read last out. -/
def nextAaaaOnce (context : BelaContext) (inputs : IOInputs) (inNumSamples : Nat)
    (unit : DigitalIO) (b : Block) : DigitalIO × Block :=
  let state := forFrames inNumSamples (fun n (state : Int × Int × Block) =>
      let (newDigInInt, newDigOut, b) := state
      let newpin := floatToInt (inputs.pinid n)
      let (newDigInInt, newDigOut, b) :=
        if digitalOutOfRange context newpin then (newDigInInt, newDigOut, b)
        else
          let newDigOut := floatToInt (inputs.input n)
          if inputs.iomode n < 1 / 2 then
            let (newDigInInt, b) := (b.pinModeOnce n newpin .input).digitalRead n newpin
            (newDigInInt, newDigOut, b)
          else
            (newDigInInt, newDigOut,
              (b.pinModeOnce n newpin .output).digitalWriteOnce n newpin newDigOut)
      (newDigInInt, newDigOut, b.writeOut n newDigInInt))
    (unit.mLastDigitalIn, unit.mLastDigitalOut, b)
  (⟨state.1, state.2.1⟩, state.2.2)

/-- `DigitalIO_next_aaak_once`: the mode at control rate, tested once. -/
def nextAaakOnce (context : BelaContext) (inputs : IOInputs) (inNumSamples : Nat)
    (unit : DigitalIO) (b : Block) : DigitalIO × Block :=
  let iomode := inputs.iomode 0
  let state :=
    if iomode < 1 / 2 then
      forFrames inNumSamples (fun n (state : Int × Int × Block) =>
        let (newDigInInt, newDigOut, b) := state
        let newpin := floatToInt (inputs.pinid n)
        let (newDigInInt, b) :=
          if digitalOutOfRange context newpin then (newDigInInt, b)
          else (b.pinModeOnce n newpin .input).digitalRead n newpin
        (newDigInInt, newDigOut, b.writeOut n newDigInInt))
        (unit.mLastDigitalIn, unit.mLastDigitalOut, b)
    else
      forFrames inNumSamples (fun n (state : Int × Int × Block) =>
        let (newDigInInt, newDigOut, b) := state
        let newpin := floatToInt (inputs.pinid n)
        let (newDigOut, b) :=
          if digitalOutOfRange context newpin then (newDigOut, b)
          else
            let newDigOut := floatToInt (inputs.input n)
            (newDigOut, (b.pinModeOnce n newpin .output).digitalWriteOnce n newpin newDigOut)
        (newDigInInt, newDigOut, b.writeOut n newDigInInt))
        (unit.mLastDigitalIn, unit.mLastDigitalOut, b)
  (⟨state.1, state.2.1⟩, state.2.2)

/-- `DigitalIO_next_aaka_once`: the value at control rate, converted once. -/
def nextAakaOnce (context : BelaContext) (inputs : IOInputs) (inNumSamples : Nat)
    (unit : DigitalIO) (b : Block) : DigitalIO × Block :=
  let newDigOut := floatToInt (inputs.input 0)
  let state := forFrames inNumSamples (fun n (state : Int × Block) =>
      let (newDigInInt, b) := state
      let newpin := floatToInt (inputs.pinid n)
      let (newDigInInt, b) :=
        if digitalOutOfRange context newpin then (newDigInInt, b)
        else if inputs.iomode n < 1 / 2 then
          (b.pinModeOnce n newpin .input).digitalRead n newpin
        else (newDigInInt, (b.pinModeOnce n newpin .output).digitalWriteOnce n newpin newDigOut)
      (newDigInInt, b.writeOut n newDigInInt))
    (unit.mLastDigitalIn, b)
  (⟨state.1, newDigOut⟩, state.2)

/-- `DigitalIO_next_aakk_once`: value and mode at control rate. -/
def nextAakkOnce (context : BelaContext) (inputs : IOInputs) (inNumSamples : Nat)
    (unit : DigitalIO) (b : Block) : DigitalIO × Block :=
  let newDigOut := floatToInt (inputs.input 0)
  let state :=
    if inputs.iomode 0 < 1 / 2 then
      forFrames inNumSamples (fun n (state : Int × Block) =>
        let (newDigInInt, b) := state
        let newpin := floatToInt (inputs.pinid n)
        let (newDigInInt, b) :=
          if digitalOutOfRange context newpin then (newDigInInt, b)
          else (b.pinModeOnce n newpin .input).digitalRead n newpin
        (newDigInInt, b.writeOut n newDigInInt))
        (unit.mLastDigitalIn, b)
    else
      forFrames inNumSamples (fun n (state : Int × Block) =>
        let (newDigInInt, b) := state
        let newpin := floatToInt (inputs.pinid n)
        let b :=
          if digitalOutOfRange context newpin then b
          else (b.pinModeOnce n newpin .output).digitalWriteOnce n newpin newDigOut
        (newDigInInt, b.writeOut n newDigInInt))
        (unit.mLastDigitalIn, b)
  (⟨state.1, newDigOut⟩, state.2)

/-- `DigitalIO_next_akaa_once`: the pin checked once; the value is read as `IN0(1)`, the
first sample of its buffer; with the pin out of range nothing is written out. -/
def nextAkaaOnce (context : BelaContext) (inputs : IOInputs) (inNumSamples : Nat)
    (unit : DigitalIO) (b : Block) : DigitalIO × Block :=
  let newpin := floatToInt (inputs.pinid 0)
  let newDigOut := floatToInt (inputs.input 0)
  if digitalOutOfRange context newpin then (⟨unit.mLastDigitalIn, newDigOut⟩, b)
  else
    let state := forFrames inNumSamples (fun n (state : Int × Block) =>
        let (newDigInInt, b) := state
        let (newDigInInt, b) :=
          if inputs.iomode n < 1 / 2 then (b.pinModeOnce n newpin .input).digitalRead n newpin
          else (newDigInInt, (b.pinModeOnce n newpin .output).digitalWriteOnce n newpin newDigOut)
        (newDigInInt, b.writeOut n newDigInInt))
      (unit.mLastDigitalIn, b)
    (⟨state.1, newDigOut⟩, state.2)

/-- `DigitalIO_next_akak_once`: pin and mode checked once, the mode set for the whole
block; `newDigOut` starts as the address of the value buffer converted to `int`. -/
def nextAkakOnce (context : BelaContext) (inputs : IOInputs) (inNumSamples : Nat)
    (unit : DigitalIO) (b : Block) : DigitalIO × Block :=
  let newpin := floatToInt (inputs.pinid 0)
  let newDigOut := inputs.inAddress
  if digitalOutOfRange context newpin then (⟨unit.mLastDigitalIn, newDigOut⟩, b)
  else if inputs.iomode 0 < 1 / 2 then
    let state := forFrames inNumSamples (fun n (state : Int × Block) =>
        let (_, b) := state
        let (newDigInInt, b) := b.digitalRead n newpin
        (newDigInInt, b.writeOut n newDigInInt))
      (unit.mLastDigitalIn, b.pinMode context 0 newpin .input)
    (⟨state.1, newDigOut⟩, state.2)
  else
    let state := forFrames inNumSamples (fun n (state : Int × Block) =>
        let (_, b) := state
        let newDigOut := floatToInt (inputs.input n)
        (newDigOut, (b.digitalWriteOnce n newpin newDigOut).writeOut n unit.mLastDigitalIn))
      (newDigOut, b.pinMode context 0 newpin .output)
    (⟨unit.mLastDigitalIn, state.1⟩, state.2)

/-- `DigitalIO_next_akka_once`: the pin is not checked before the loop uses it; a written
value is `1` or `0` by `IN0(1) > 0.5`. -/
def nextAkkaOnce (inputs : IOInputs) (inNumSamples : Nat) (unit : DigitalIO) (b : Block) :
    DigitalIO × Block :=
  let newpin := floatToInt (inputs.pinid 0)
  let newinput := inputs.input 0
  let state := forFrames inNumSamples (fun n (state : Int × Int × Block) =>
      let (newDigInInt, newDigOut, b) := state
      let (newDigInInt, newDigOut, b) :=
        if inputs.iomode n < 1 / 2 then
          let (newDigInInt, b) := (b.pinModeOnce n newpin .input).digitalRead n newpin
          (newDigInInt, newDigOut, b)
        else
          let newDigOut := if newinput > 1 / 2 then 1 else 0
          (newDigInInt, newDigOut,
            (b.pinModeOnce n newpin .output).digitalWriteOnce n newpin newDigOut)
      (newDigInInt, newDigOut, b.writeOut n newDigInInt))
    (unit.mLastDigitalIn, unit.mLastDigitalOut, b)
  (⟨state.1, state.2.1⟩, state.2.2)

/-- `DigitalIO_next_ak`: all inputs at control rate, the output at audio rate; the pin is
checked as the float `IN0(0)` and used truncated; a written value is `1` or `0` by
`IN0(1) > 0.5`. -/
def nextAk (context : BelaContext) (inputs : IOInputs) (inNumSamples : Nat) (unit : DigitalIO)
    (b : Block) : DigitalIO × Block :=
  let pinid := inputs.pinid 0
  let input := inputs.input 0
  let newpin := floatToInt pinid
  let newDigOut := floatToInt input
  if pinid < 0 ∨ pinid ≥ context.digitalChannels then (⟨unit.mLastDigitalIn, newDigOut⟩, b)
  else if inputs.iomode 0 < 1 / 2 then
    let state := forFrames inNumSamples (fun n (state : Int × Block) =>
        let (_, b) := state
        let (newDigInInt, b) := b.digitalRead n newpin
        (newDigInInt, b.writeOut n newDigInInt))
      (unit.mLastDigitalIn, b.pinMode context 0 newpin .input)
    (⟨state.1, newDigOut⟩, state.2)
  else
    let state := forFrames inNumSamples (fun n (state : Int × Block) =>
        let (_, b) := state
        let newDigOut : Int := if input > 1 / 2 then 1 else 0
        (newDigOut, (b.digitalWriteOnce n newpin newDigOut).writeOut n unit.mLastDigitalIn))
      (newDigOut, b.pinMode context 0 newpin .output)
    (⟨unit.mLastDigitalIn, state.1⟩, state.2)

/-- `DigitalIO_next_kk`: all at control rate; one output sample, and block-wide mode and
write. -/
def nextKk (context : BelaContext) (inputs : IOInputs) (unit : DigitalIO) (b : Block) :
    DigitalIO × Block :=
  let pinid := floatToInt (inputs.pinid 0)
  let input := inputs.input 0
  let (unit, b) :=
    if digitalOutOfRange context pinid then (unit, b)
    else if inputs.iomode 0 < 1 / 2 then
      let (newDigInInt, b) := (b.pinMode context 0 pinid .input).digitalRead 0 pinid
      ({ unit with mLastDigitalIn := newDigInInt }, b)
    else
      let newDigOut : Int := if input > 1 / 2 then 1 else 0
      ({ unit with mLastDigitalOut := newDigOut },
        (b.pinMode context 0 pinid .output).digitalWrite context 0 pinid newDigOut)
  (unit, b.writeOut 0 unit.mLastDigitalIn)

/-- The calc functions a `DigitalIO` can hold. -/
inductive CalcFunc
  | aaaaOnce
  | aaakOnce
  | aakaOnce
  | aakkOnce
  | akaaOnce
  | akakOnce
  | akkaOnce
  | ak
  | kk
  deriving DecidableEq, Repr

/-- `(unit->mCalcFunc)(unit, inNumSamples)`. -/
def CalcFunc.run (context : BelaContext) :
    CalcFunc → IOInputs → Nat → DigitalIO → Block → DigitalIO × Block
  | .aaaaOnce, inputs, inNumSamples, unit, b => nextAaaaOnce context inputs inNumSamples unit b
  | .aaakOnce, inputs, inNumSamples, unit, b => nextAaakOnce context inputs inNumSamples unit b
  | .aakaOnce, inputs, inNumSamples, unit, b => nextAakaOnce context inputs inNumSamples unit b
  | .aakkOnce, inputs, inNumSamples, unit, b => nextAakkOnce context inputs inNumSamples unit b
  | .akaaOnce, inputs, inNumSamples, unit, b => nextAkaaOnce context inputs inNumSamples unit b
  | .akakOnce, inputs, inNumSamples, unit, b => nextAkakOnce context inputs inNumSamples unit b
  | .akkaOnce, inputs, inNumSamples, unit, b => nextAkkaOnce inputs inNumSamples unit b
  | .ak, inputs, inNumSamples, unit, b => nextAk context inputs inNumSamples unit b
  | .kk, inputs, _, unit, b => nextKk context inputs unit b

/-- The choice of calc function in `DigitalIO_Ctor`. -/
def selectCalc (calcRate rate0 rate1 rate2 : CalcRate) : CalcFunc :=
  if calcRate = .full then
    if rate0 = .full then
      if rate1 = .full then (if rate2 = .full then .aaaaOnce else .aaakOnce)
      else (if rate2 = .full then .aakaOnce else .aakkOnce)
    else
      if rate1 = .full then (if rate2 = .full then .akaaOnce else .akakOnce)
      else (if rate2 = .full then .akkaOnce else .ak)
  else .kk

/-- `DigitalIO_Ctor`: both last values start at `0`; the picked calc function runs once on
one sample. -/
def ctor (context : BelaContext) (calcRate rate0 rate1 rate2 : CalcRate) (inputs : IOInputs)
    (b : Block) : CalcFunc × DigitalIO × Block :=
  let calcFunc := selectCalc calcRate rate0 rate1 rate2
  (calcFunc, calcFunc.run context inputs 1 ⟨0, 0⟩ b)

end DigitalIO

end ScBela.Plugins
