import ScBela.Plugins.Analog

/-!
# The specialised analog calc functions

An audio-rate analog UGen with some inputs at control rate runs a calc function written
for those rates: it reads a control-rate input once, as `IN0(i)`, and makes its range
check once, before the loop. Here each such function is shown to do what the function for
all inputs at audio rate does on the same inputs, each control-rate value repeated on every
frame (`atRate`): the same outputs, reads and writes, and the same unit state after a
block of at least one frame.

`AnalogOut_next_kk` makes one block-wide `analogWriteNI` where `AnalogOut_next_aaa` writes
each frame once, so the two agree on the frames of the block, when the block fits in the
context's analog frames.

## Main results

* `MultiplexAnalogIn.selectCalc_full_run`, `AnalogIn.selectCalc_full_run`,
  `AnalogOut.selectCalc_full_run` — what each audio-rate constructor picks agrees with the
  all-audio-rate function
-/

namespace ScBela.Plugins

namespace MultiplexAnalogIn

/-- At audio rate, `MultiplexAnalogIn_Ctor` picks a function that agrees with
`MultiplexAnalogIn_next_aaa`. -/
theorem selectCalc_full_run (context : BelaContext) (rate0 rate1 : CalcRate)
    (fin fmux : Nat → ℚ) (inNumSamples : Nat) (b : Block) :
    (selectCalc .full rate0 rate1).run context fin fmux inNumSamples b =
      nextAaa context (atRate rate0 fin) (atRate rate1 fmux) inNumSamples b := by
  by_cases pin : rate0 = .full <;> by_cases mux : rate1 = .full <;>
    simp [selectCalc, CalcFunc.run, pin, mux, atRate_of_ne, nextAkk_eq] <;> rfl

end MultiplexAnalogIn

namespace AnalogIn

/-- `AnalogIn_next_ak` is `AnalogIn_next_aa` on its pin repeated, for a block of at least
one frame. -/
theorem nextAk_eq (context : BelaContext) (fin : Nat → ℚ) {inNumSamples : Nat}
    (positive : 0 < inNumSamples) (unit : AnalogIn) (b : Block) :
    nextAk context fin inNumSamples unit b = nextAa context (fun _ => fin 0) inNumSamples unit b := by
  obtain ⟨count, rfl⟩ := Nat.exists_eq_add_one.mpr positive
  cases valid : isValid context (floatToInt (fin 0)) <;>
    refine Prod.ext (by simp [nextAk, nextAa_fst, valid]) ?_ <;> rw [nextAa_snd] <;>
    simp only [valid]
  · rw [forFrames_readFrame_not_ok (fun _ _ => rfl)]; simp [nextAk, valid]
  · rw [forFrames_readFrame_ok (fun _ _ => rfl)]; simp [nextAk, valid]

/-- At audio rate, `AnalogIn_Ctor` picks a function that agrees with `AnalogIn_next_aa`. -/
theorem selectCalc_full_run (context : BelaContext) (rate0 : CalcRate) (fin : Nat → ℚ)
    {inNumSamples : Nat} (positive : 0 < inNumSamples) (unit : AnalogIn) (b : Block) :
    (selectCalc .full rate0).run context fin inNumSamples unit b =
      nextAa context (atRate rate0 fin) inNumSamples unit b := by
  by_cases pin : rate0 = .full <;>
    simp [selectCalc, CalcFunc.run, pin, atRate_of_ne, nextAk_eq context fin positive]

end AnalogIn

namespace AnalogOut

/-- The analog outputs after a loop writing each frame once on a valid pin. -/
theorem forFrames_writeFrame_analogOut {context : BelaContext} {analogPin : Int}
    (valid : isValid context analogPin = true) (input : Nat → ℚ) (count : Nat) (b : Block)
    (f : Nat) (c : Int) :
    (forFrames count (writeFrame context (fun _ => analogPin) input) b).analogOut f c =
      if f < count ∧ c = analogPin then input f else b.analogOut f c := by
  induction count with
  | zero => simp
  | succ k ih =>
    rw [forFrames_succ]
    simp only [writeFrame, valid, if_true, Block.analogWriteOnceNI, ih]
    by_cases same : f = k
    · simp [same]
    · simp [same, show f < k + 1 ↔ f < k by omega]

/-- A loop on an invalid pin writes nothing. -/
theorem forFrames_writeFrame_invalid {context : BelaContext} {analogPin : Int}
    (invalid : isValid context analogPin = false) (input : Nat → ℚ) (count : Nat) (b : Block) :
    forFrames count (writeFrame context (fun _ => analogPin) input) b = b := by
  induction count with
  | zero => rfl
  | succ k ih => rw [forFrames_succ, ih]; simp [writeFrame, invalid]

/-- `AnalogOut_next_aka` is `AnalogOut_next_aaa` on its pin repeated, for a block of at least
one frame. -/
theorem nextAka_eq (context : BelaContext) (fin input : Nat → ℚ) {inNumSamples : Nat}
    (positive : 0 < inNumSamples) (unit : AnalogOut) (b : Block) :
    nextAka context fin input inNumSamples unit b =
      nextAaa context (fun _ => fin 0) input inNumSamples unit b := by
  obtain ⟨count, rfl⟩ := Nat.exists_eq_add_one.mpr positive
  refine Prod.ext (by simp [nextAka, nextAaa_fst]; split <;> rfl) ?_
  rw [nextAaa_snd]
  cases valid : isValid context (floatToInt (fin 0))
  · simp [nextAka, valid, forFrames_writeFrame_invalid valid]
  · simp only [nextAka, updatePin_eq, valid, if_true]
    congr 1
    funext n b
    simp [writeFrame, valid]

/-- At audio rate, `AnalogOut_Ctor` picks a function that leaves the same unit as
`AnalogOut_next_aaa` and the same analog outputs on every frame of the block. -/
theorem selectCalc_full_run (context : BelaContext) (rate0 rate1 : CalcRate)
    (fin input : Nat → ℚ) {inNumSamples : Nat} (positive : 0 < inNumSamples)
    (fits : inNumSamples ≤ context.analogFrames) (unit : AnalogOut) (b : Block) :
    let specialised := (selectCalc .full rate0 rate1).run context fin input inNumSamples unit b
    let general := nextAaa context (atRate rate0 fin) (atRate rate1 input) inNumSamples unit b
    specialised.1 = general.1 ∧
      ∀ f < inNumSamples, ∀ c, specialised.2.analogOut f c = general.2.analogOut f c := by
  intro specialised general
  obtain ⟨count, rfl⟩ := Nat.exists_eq_add_one.mpr positive
  by_cases pin : rate0 = .full <;> by_cases value : rate1 = .full
  · simp [specialised, general, selectCalc, CalcFunc.run, pin, value]
  · simp [specialised, general, selectCalc, CalcFunc.run, pin, value, atRate_of_ne value,
      nextAak_eq]
  · simp [specialised, general, selectCalc, CalcFunc.run, pin, value, atRate_of_ne pin,
      nextAka_eq context fin input positive]
  · simp only [specialised, general, selectCalc, CalcFunc.run, pin, value, if_true, if_false,
      atRate_of_ne pin, atRate_of_ne value]
    cases valid : isValid context (floatToInt (fin 0))
    · simp [nextKk, nextAaa_fst, nextAaa_snd, valid, forFrames_writeFrame_invalid valid]
    · refine ⟨by simp [nextKk, nextAaa_fst, valid], fun f below c => ?_⟩
      rw [nextAaa_snd, forFrames_writeFrame_analogOut valid]
      simp [nextKk, valid, Block.analogWriteNI, below, show f < context.analogFrames by omega]

end AnalogOut

/-- Every audio-rate analog UGen, whatever the rates of its inputs, runs a calc function
that agrees with its all-audio-rate one on a block of one frame or more: `MultiplexAnalogIn`
and `AnalogIn` with the same outputs, reads and unit, `AnalogOut` with the same unit and
analog outputs on every frame of a block that fits in the context. -/
theorem specialised_analog_calcs_agree (context : BelaContext) (inNumSamples : Nat)
    (positive : 0 < inNumSamples) :
    (∀ rate0 rate1 fin fmux b,
      (MultiplexAnalogIn.selectCalc .full rate0 rate1).run context fin fmux inNumSamples b =
        MultiplexAnalogIn.nextAaa context (atRate rate0 fin) (atRate rate1 fmux) inNumSamples b) ∧
    (∀ rate0 fin unit b,
      (AnalogIn.selectCalc .full rate0).run context fin inNumSamples unit b =
        AnalogIn.nextAa context (atRate rate0 fin) inNumSamples unit b) ∧
    (inNumSamples ≤ context.analogFrames → ∀ rate0 rate1 fin input unit b,
      let specialised := (AnalogOut.selectCalc .full rate0 rate1).run context fin input
        inNumSamples unit b
      let general := AnalogOut.nextAaa context (atRate rate0 fin) (atRate rate1 input)
        inNumSamples unit b
      specialised.1 = general.1 ∧
        ∀ f < inNumSamples, ∀ c, specialised.2.analogOut f c = general.2.analogOut f c) :=
  ⟨fun rate0 rate1 fin fmux => MultiplexAnalogIn.selectCalc_full_run context rate0 rate1 fin fmux _,
    fun rate0 fin => AnalogIn.selectCalc_full_run context rate0 fin positive,
    fun fits rate0 rate1 fin input => AnalogOut.selectCalc_full_run context rate0 rate1 fin input
      positive fits⟩

/-- On the Bela board, over a whole block of its analog frames, an `AnalogOut` whose pin
input runs at control rate. -/
theorem analog_out_control_pin_agrees_on_bela :
    0 < belaContext.analogFrames ∧ belaContext.analogFrames ≤ belaContext.analogFrames ∧
      ∀ rate1 fin input unit b,
      let specialised := (AnalogOut.selectCalc .full .buf rate1).run belaContext fin input
        belaContext.analogFrames unit b
      let general := AnalogOut.nextAaa belaContext (atRate .buf fin) (atRate rate1 input)
        belaContext.analogFrames unit b
      specialised.1 = general.1 ∧
        ∀ f < belaContext.analogFrames, ∀ c, specialised.2.analogOut f c = general.2.analogOut f c :=
  ⟨by decide, le_rfl, fun rate1 =>
    (specialised_analog_calcs_agree belaContext belaContext.analogFrames (by decide)).2.2
      le_rfl .buf rate1⟩

end ScBela.Plugins
