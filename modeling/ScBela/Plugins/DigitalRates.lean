import ScBela.Plugins.Digital

/-!
# The specialised `DigitalIO` calc functions

`DigitalIO_Ctor` picks, for each combination of input rates, a calc function written for
it. Here they are set against `DigitalIO_next_aaaa_once` on the same inputs, each
control-rate input repeated on every frame (`IOInputs.atRates`). All of them make, frame
by frame, what `ioFrame` makes; the three that check the pin of every frame
(`_aaak_once`, `_aaka_once`, `_aakk_once`) agree with `_aaaa_once` on the outputs, on
every Bela call and on the value read last. The others do not: `_akaa_once` writes no
output sample when its pin is out of range and reads only the first sample of its
audio-rate value, and `_akka_once` drives its pin by `value > 0.5` where
`_aaaa_once` drives it by `(int)value ≠ 0`.

## Main definitions

* `IOInputs.atRates` — the inputs with the control-rate ones repeated
* `DigitalIO.ioFrame` — one frame of `DigitalIO_next_aaaa_once`, less the value written last

## Main results

* `DigitalIO.checked_calcs_agree` — `_aaak_once`, `_aaka_once`, `_aakk_once`
* `digitalIO_specialisations_diverge` — `_akaa_once` and `_akka_once`
-/

namespace ScBela.Plugins

/-- A `DigitalIO`'s inputs as a calc function that reads them at every frame sees them, when
the pin, value and mode inputs run at `rate0`, `rate1` and `rate2`. -/
def IOInputs.atRates (inputs : IOInputs) (rate0 rate1 rate2 : CalcRate) : IOInputs :=
  { inputs with
    pinid := atRate rate0 inputs.pinid
    input := atRate rate1 inputs.input
    iomode := atRate rate2 inputs.iomode }

namespace DigitalIO

/-- One frame of `DigitalIO_next_aaaa_once` on the value read last and the block: check the
frame's pin, read or write it by the frame's mode, and write the value read last out. -/
def ioFrame (context : BelaContext) (inputs : IOInputs) (n : Nat) (state : Int × Block) :
    Int × Block :=
  let newpin := floatToInt (inputs.pinid n)
  let (newDigInInt, b) :=
    if digitalOutOfRange context newpin then state
    else if inputs.iomode n < 1 / 2 then
      (state.2.pinModeOnce n newpin .input).digitalRead n newpin
    else
      (state.1, (state.2.pinModeOnce n newpin .output).digitalWriteOnce n newpin
        (floatToInt (inputs.input n)))
  (newDigInInt, b.writeOut n newDigInInt)

/-- `DigitalIO_next_aaaa_once` is `ioFrame` at every frame; the value written last does not
feed back. -/
theorem nextAaaaOnce_eq (context : BelaContext) (inputs : IOInputs) (inNumSamples : Nat)
    (unit : DigitalIO) (b : Block) :
    let result := nextAaaaOnce context inputs inNumSamples unit b
    (result.1.mLastDigitalIn, result.2) =
      forFrames inNumSamples (ioFrame context inputs) (unit.mLastDigitalIn, b) :=
  forFrames_map inNumSamples _ _ (fun s : Int × Int × Block => (s.1, s.2.2))
    (fun _ _ ⟨_, _, _⟩ => by dsimp only [ioFrame]; split_ifs <;> rfl) _

/-- `DigitalIO_next_aaak_once` is `ioFrame` with its mode repeated. -/
theorem nextAaakOnce_eq (context : BelaContext) (inputs : IOInputs) (inNumSamples : Nat)
    (unit : DigitalIO) (b : Block) :
    let result := nextAaakOnce context inputs inNumSamples unit b
    (result.1.mLastDigitalIn, result.2) = forFrames inNumSamples
      (ioFrame context { inputs with iomode := fun _ => inputs.iomode 0 })
      (unit.mLastDigitalIn, b) := by
  simp only [nextAaakOnce]
  split
  all_goals
    exact forFrames_map inNumSamples _ _ (fun s : Int × Int × Block => (s.1, s.2.2))
      (fun _ _ ⟨_, _, _⟩ => by dsimp only [ioFrame]; simp only [*]; split_ifs <;> first | rfl | contradiction) _

/-- `DigitalIO_next_aaka_once` is `ioFrame` with its value repeated. -/
theorem nextAakaOnce_eq (context : BelaContext) (inputs : IOInputs) (inNumSamples : Nat)
    (unit : DigitalIO) (b : Block) :
    let result := nextAakaOnce context inputs inNumSamples unit b
    (result.1.mLastDigitalIn, result.2) = forFrames inNumSamples
      (ioFrame context { inputs with input := fun _ => inputs.input 0 })
      (unit.mLastDigitalIn, b) :=
  forFrames_map inNumSamples _ _ id (fun _ _ ⟨_, _⟩ => by dsimp only [ioFrame, id]) _

/-- `DigitalIO_next_aakk_once` is `ioFrame` with its value and mode repeated. -/
theorem nextAakkOnce_eq (context : BelaContext) (inputs : IOInputs) (inNumSamples : Nat)
    (unit : DigitalIO) (b : Block) :
    let result := nextAakkOnce context inputs inNumSamples unit b
    (result.1.mLastDigitalIn, result.2) = forFrames inNumSamples
      (ioFrame context
        { inputs with input := fun _ => inputs.input 0, iomode := fun _ => inputs.iomode 0 })
      (unit.mLastDigitalIn, b) := by
  simp only [nextAakkOnce]
  split
  all_goals
    exact forFrames_map inNumSamples _ _ id
      (fun _ _ ⟨_, _⟩ => by dsimp only [ioFrame, id]; simp only [*]; split_ifs <;> first | rfl | contradiction) _

/-- With every frame's pin out of range, `ioFrame` only writes out the value read last. -/
theorem forFrames_ioFrame_outOfRange {context : BelaContext} {inputs : IOInputs} {count : Nat}
    (outOfRange : ∀ n < count, digitalOutOfRange context (floatToInt (inputs.pinid n)) = true)
    (lastIn : Int) (b : Block) :
    forFrames count (ioFrame context inputs) (lastIn, b) =
      (lastIn, forFrames count (fun n (b : Block) => b.writeOut n lastIn) b) :=
  (forFrames_map count _ _ (fun b : Block => (lastIn, b))
    (fun n below b => by dsimp only [ioFrame]; rw [if_pos (outOfRange n below)]) b).symm

/-- Where `DigitalIO_Ctor` picks a calc function that checks the pin of every frame (the pin
at audio rate), it agrees with `DigitalIO_next_aaaa_once` on the inputs at their rates: the
same block (outputs, registers and every call) and the same value read last. -/
theorem checked_calcs_agree (context : BelaContext) (rate1 rate2 : CalcRate) (inputs : IOInputs)
    (inNumSamples : Nat) (unit : DigitalIO) (b : Block) :
    let specialised := (selectCalc .full .full rate1 rate2).run context inputs inNumSamples unit b
    let general := nextAaaaOnce context (inputs.atRates .full rate1 rate2) inNumSamples unit b
    specialised.1.mLastDigitalIn = general.1.mLastDigitalIn ∧ specialised.2 = general.2 := by
  intro specialised general
  suffices same : (specialised.1.mLastDigitalIn, specialised.2) = (general.1.mLastDigitalIn, general.2) from
    Prod.mk.inj same
  rw [nextAaaaOnce_eq]
  by_cases value : rate1 = .full <;> by_cases mode : rate2 = .full
  · simp [specialised, selectCalc, CalcFunc.run, value, mode, IOInputs.atRates, nextAaaaOnce_eq]
  · simp only [specialised, selectCalc, CalcFunc.run, value, mode, if_true, if_false]
    rw [nextAaakOnce_eq]; simp [IOInputs.atRates, value, atRate_of_ne mode]
  · simp only [specialised, selectCalc, CalcFunc.run, value, mode, if_true, if_false]
    rw [nextAakaOnce_eq]; simp [IOInputs.atRates, mode, atRate_of_ne value]
  · simp only [specialised, selectCalc, CalcFunc.run, value, mode, if_true, if_false]
    rw [nextAakkOnce_eq]; simp [IOInputs.atRates, atRate_of_ne mode, atRate_of_ne value]

end DigitalIO

/-- Two of `DigitalIO`'s specialised calc functions do not do what
`DigitalIO_next_aaaa_once` does on the same inputs. `DigitalIO_next_akaa_once`, picked for a
control-rate pin, returns at once on a pin out of range, writing no output sample, where
`_aaaa_once` writes the value read last on every frame. `DigitalIO_next_akka_once`, picked
for a control-rate pin and value, drives its pin high for a value in `(0.5, 1)`, which
`_aaaa_once` truncates to `0` and so drives the pin low. -/
theorem digitalIO_specialisations_diverge (context : BelaContext) :
    (∀ inputs inNumSamples unit (b : Block), 0 < inNumSamples →
      digitalOutOfRange context (floatToInt (inputs.pinid 0)) = true →
      ( DigitalIO.nextAkaaOnce context inputs inNumSamples unit b).2 = b ∧
      ∀ n < inNumSamples, ( DigitalIO.nextAaaaOnce context (inputs.atRates .buf .full .full)
        inNumSamples unit b).2.out n = unit.mLastDigitalIn) ∧
    (∀ inputs inNumSamples unit (b : Block), 0 < inNumSamples →
      digitalOutOfRange context (floatToInt (inputs.pinid 0)) = false →
      1 / 2 < inputs.input 0 → inputs.input 0 < 1 → (∀ n, 1 / 2 ≤ inputs.iomode n) →
      let pin := floatToInt (inputs.pinid 0)
      ( DigitalIO.nextAkkaOnce inputs inNumSamples unit b).2.digitalLevel (inNumSamples - 1) pin =
          true ∧
        ( DigitalIO.nextAaaaOnce context (inputs.atRates .buf .buf .full) inNumSamples unit b).2.digitalLevel
          (inNumSamples - 1) pin = false) := by
  refine ⟨fun inputs inNumSamples unit b _ outOfRange => ⟨?_, fun n below => ?_⟩,
    fun inputs inNumSamples unit b positive valid high belowOne output => ?_⟩
  · simp [ DigitalIO.nextAkaaOnce, outOfRange]
  · have general := DigitalIO.nextAaaaOnce_eq context (inputs.atRates .buf .full .full)
      inNumSamples unit b
    rw [ DigitalIO.forFrames_ioFrame_outOfRange (fun _ _ => by
      simpa [IOInputs.atRates, atRate_of_ne] using outOfRange)] at general
    rw [(Prod.mk.inj general).2, forFrames_writeOut_out, if_pos below]
  · obtain ⟨count, rfl⟩ := Nat.exists_eq_add_one.mpr positive
    have zero : floatToInt (inputs.input 0) = 0 :=
      floatToInt_eq_zero (le_trans (by norm_num) high.le) belowOne
    have notLow : ¬ inputs.iomode count < 1 / 2 := not_lt.mpr (output count)
    constructor
    · simp only [ DigitalIO.nextAkkaOnce, forFrames_succ, if_neg notLow, if_pos high]
      simp [Block.writeOut, Block.digitalWriteOnce, Block.log]
    · simp only [ DigitalIO.nextAaaaOnce, forFrames_succ, IOInputs.atRates, atRate_of_ne,
        ne_eq, reduceCtorEq, not_false_eq_true, atRate_full, valid, Bool.false_eq_true, if_false,
        if_neg notLow, zero]
      simp [Block.writeOut, Block.digitalWriteOnce, Block.log]

theorem akaa_on_pin_minus_one :
    ( DigitalIO.nextAkaaOnce belaContext ⟨fun _ => -1, fun _ => 0, fun _ => 0, 0⟩ 1 ⟨1, 0⟩
        freshBlock).2.out 0 = 0 ∧
      ( DigitalIO.nextAaaaOnce belaContext
        (IOInputs.atRates ⟨fun _ => -1, fun _ => 0, fun _ => 0, 0⟩ .buf .full .full) 1 ⟨1, 0⟩
        freshBlock).2.out 0 = 1 := by
  have outOfRange : digitalOutOfRange belaContext (floatToInt (-1)) = true := by
    norm_num [digitalOutOfRange, floatToInt, Int.ceil_neg]
  obtain ⟨stale, written⟩ := (digitalIO_specialisations_diverge belaContext).1
    ⟨fun _ => -1, fun _ => 0, fun _ => 0, 0⟩ 1 ⟨1, 0⟩ freshBlock Nat.one_pos outOfRange
  exact ⟨by rw [stale]; rfl, by simpa using written 0 Nat.one_pos⟩

end ScBela.Plugins
