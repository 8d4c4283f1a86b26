import ScBela.Plugins.DigitalRates

/-!
# Where the digital UGens touch the board

Every digital call a digital UGen makes, by its constructor or by a calc call, on any
inputs. `DigitalIn` checks its pin at construction and, out of range, disables itself
before touching the board. `DigitalIO` checks the pin of each frame (`DigitalIO_next_ak`
checks the pin before truncating it, which comes to the same) in every calc function but
`DigitalIO_next_akka_once`, which uses the pin unchecked; the four with the pin at audio
rate are loops of `ioFrame` (`DigitalRates`), whose frames are in range once and for all.
`DigitalOut` checks its pin at construction, but goes on with it out of range: it sets its
mode and writes it, and keeps a calc function that writes it on every call.

## Main results

* `DigitalIn.ctor_adds`, `DigitalOut.CalcFunc.run_adds`, `DigitalIO.CalcFunc.run_adds` —
  the calls in range
* `digital_pins_unchecked` — the two ways out of range
-/

namespace ScBela.Plugins

section

variable {context : BelaContext} {inNumSamples : Nat}

/-- A call on a valid digital pin at a frame of the block is in range. -/
theorem digitalCall_inRange {digitalPin : Int}
    (valid : digitalOutOfRange context digitalPin = false) {n : Nat} (below : n < inNumSamples) :
    (∀ mode, (BelaCall.pinMode n digitalPin mode).InRange context inNumSamples) ∧
    (∀ mode, (BelaCall.pinModeOnce n digitalPin mode).InRange context inNumSamples) ∧
    (BelaCall.digitalRead n digitalPin).InRange context inNumSamples ∧
    (∀ value, (BelaCall.digitalWrite n digitalPin value).InRange context inNumSamples) ∧
    (∀ value, (BelaCall.digitalWriteOnce n digitalPin value).InRange context inNumSamples) := by
  simp only [digitalOutOfRange_eq_false] at valid
  simp [BelaCall.InRange, below, valid]

namespace DigitalIn

theorem CalcFunc.run_adds (positive : 0 < inNumSamples) (calcFunc : CalcFunc) (unit : DigitalIn)
    (valid : digitalOutOfRange context unit.mDigitalPin = false) (b : Block) :
    b.Adds (·.InRange context inNumSamples) (calcFunc.run unit inNumSamples b) := by
  cases calcFunc
  · exact .of_calls_eq rfl
  · apply forFrames_adds id
    intro n below b
    simp [Block.Adds, (digitalCall_inRange valid below).2.2.1]
  · simp [CalcFunc.run, nextK, Block.Adds, (digitalCall_inRange valid positive).2.2.1]

/-- `DigitalIn_Ctor` makes only calls in range; on a pin out of range it makes none and
leaves the unit disabled. -/
theorem ctor_adds (calcRate : CalcRate) (fin : Nat → ℚ) (b : Block) :
    b.Adds (·.InRange context 1) (ctor context calcRate fin b).2.2 ∧
      (digitalOutOfRange context (floatToInt (fin 0)) = true →
        (ctor context calcRate fin b).1 = .clearUnitOutputs ∧
          (ctor context calcRate fin b).2.2.calls = b.calls) := by
  cases out : digitalOutOfRange context (floatToInt (fin 0))
  · simp only [ctor, out, Bool.false_eq_true, if_false, false_imp_iff, and_true]
    exact (Block.Adds.log rfl ((digitalCall_inRange out Nat.one_pos).1 _)).trans
      (CalcFunc.run_adds Nat.one_pos _ _ out _)
  · simp only [ctor, out, if_true]
    exact ⟨.of_calls_eq rfl, fun _ => by simp⟩

end DigitalIn

namespace DigitalOut

/-- A `DigitalOut` calc function only writes its own pin, at frames of the block. -/
theorem CalcFunc.run_adds {P : BelaCall → Prop} (positive : 0 < inNumSamples)
    (calcFunc : CalcFunc) (input : Nat → ℚ) (unit : DigitalOut)
    (onPin : ∀ n < inNumSamples, ∀ value, P (.digitalWrite n unit.mDigitalPin value) ∧
      P (.digitalWriteOnce n unit.mDigitalPin value)) (b : Block) :
    b.Adds P (calcFunc.run context input inNumSamples unit b).2 := by
  cases calcFunc
  · exact .of_calls_eq rfl
  · apply forFrames_adds id
    intro n below b
    split <;> simp [Block.Adds, (onPin n below _).2]
  · apply forFrames_adds Prod.snd
    rintro n below ⟨lastOut, b⟩
    dsimp only [frameA]
    split_ifs <;> simp [Block.Adds, (onPin n below _).1]
  · dsimp only [CalcFunc.run, nextK]
    split_ifs <;> simp [Block.Adds, (onPin 0 positive _).1]

theorem selectCalc_ne_clearUnitOutputs (calcRate rate1 : CalcRate) (writeMode : Int) :
    selectCalc calcRate rate1 writeMode ≠ .clearUnitOutputs := by
  unfold selectCalc
  split_ifs <;> simp

/-- `DigitalOut_Ctor` on a valid pin makes only calls in range. -/
theorem ctor_adds (calcRate rate1 : CalcRate) (fin input fmode : Nat → ℚ)
    (valid : digitalOutOfRange context (floatToInt (fin 0)) = false) (b : Block) :
    b.Adds (·.InRange context 1) (ctor context calcRate rate1 fin input fmode b).2.2 := by
  have first := digitalCall_inRange valid Nat.one_pos
  simp only [ctor, valid, Bool.false_eq_true, if_false]
  exact (Block.Adds.log rfl (first.1 _)).trans <| (Block.Adds.log rfl (first.2.2.2.1 _)).trans <|
    CalcFunc.run_adds Nat.one_pos _ input _ (fun n below value =>
      have := digitalCall_inRange valid below; ⟨this.2.2.2.1 value, this.2.2.2.2 value⟩) _

end DigitalOut

namespace DigitalIO

/-- Every call of a loop of `ioFrame` is in range, since each frame checks its pin; stated
for a calc function whose value read last and block are the loop's (`nextAaaaOnce_eq` and
the three after it). -/
theorem ioFrame_run_adds {inputs : IOInputs} {lastIn : Int} {b : Block}
    {result : DigitalIO × Block}
    (same : (result.1.mLastDigitalIn, result.2) =
      forFrames inNumSamples (ioFrame context inputs) (lastIn, b)) :
    b.Adds (·.InRange context inNumSamples) result.2 := by
  have block : result.2 = (forFrames inNumSamples (ioFrame context inputs) (lastIn, b)).2 :=
    (Prod.ext_iff.mp same).2
  rw [block]
  apply forFrames_adds Prod.snd
  rintro n below ⟨i, b⟩
  dsimp only [ioFrame]
  cases valid : digitalOutOfRange context (floatToInt (inputs.pinid n))
  · have := digitalCall_inRange valid below
    simp only [Bool.false_eq_true, if_false]
    split_ifs <;> simp [Block.Adds, this.2.1, this.2.2.1, this.2.2.2.2]
  · simp only [if_true]
    exact .of_calls_eq (by simp)

/-- Every digital call of every `DigitalIO` calc function but `DigitalIO_next_akka_once`
is in range. -/
theorem CalcFunc.run_adds (positive : 0 < inNumSamples) (calcFunc : CalcFunc)
    (checked : calcFunc ≠ .akkaOnce) (inputs : IOInputs) (unit : DigitalIO) (b : Block) :
    b.Adds (·.InRange context inNumSamples) (calcFunc.run context inputs inNumSamples unit b).2 := by
  cases calcFunc
  case akkaOnce => exact absurd rfl checked
  case aaaaOnce => exact ioFrame_run_adds (nextAaaaOnce_eq context inputs inNumSamples unit b)
  case aaakOnce => exact ioFrame_run_adds (nextAaakOnce_eq context inputs inNumSamples unit b)
  case aakaOnce => exact ioFrame_run_adds (nextAakaOnce_eq context inputs inNumSamples unit b)
  case aakkOnce => exact ioFrame_run_adds (nextAakkOnce_eq context inputs inNumSamples unit b)
  case akaaOnce =>
    dsimp only [CalcFunc.run, nextAkaaOnce]
    cases valid : digitalOutOfRange context (floatToInt (inputs.pinid 0))
    · simp only [valid, Bool.false_eq_true, if_false]
      apply forFrames_adds Prod.snd
      rintro n below ⟨i, b⟩
      have := digitalCall_inRange valid below
      dsimp only
      split_ifs <;> simp [Block.Adds, this.2.1, this.2.2.1, this.2.2.2.2]
    · simpa [valid] using .refl b
  case akakOnce | ak =>
    dsimp only [CalcFunc.run, nextAkakOnce, nextAk]
    split
    · exact .refl b
    rename_i inRange
    -- `_akak_once` checks the truncated pin, `_ak` the float before truncating it
    have valid : digitalOutOfRange context (floatToInt (inputs.pinid 0)) = false := by
      first
      | simpa using inRange
      | obtain ⟨nonneg, below⟩ : 0 ≤ inputs.pinid 0 ∧ inputs.pinid 0 < context.digitalChannels := by
          simpa [not_or] using inRange
        exact digitalOutOfRange_eq_false.mpr (floatToInt_mem_range nonneg (by exact_mod_cast below))
    have first := digitalCall_inRange valid positive
    split
    all_goals
      refine (Block.Adds.log rfl (first.1 _)).trans (forFrames_adds Prod.snd ?_ _)
      rintro n below ⟨i, b⟩
      have := digitalCall_inRange valid below
      simp [Block.Adds, this.2.2.1, this.2.2.2.2]
  case kk =>
    dsimp only [CalcFunc.run, nextKk]
    cases valid : digitalOutOfRange context (floatToInt (inputs.pinid 0))
    · have := digitalCall_inRange valid positive
      simp only [valid, Bool.false_eq_true, if_false]
      split_ifs <;> simp [Block.Adds, this.1, this.2.2.1, this.2.2.2.1]
    · simpa [valid] using .refl b

end DigitalIO

end

/-- Once the loop's first frame has made the call `c`, the loop has: the later frames
only add calls. -/
theorem mem_forFrames_of_first {σ : Type} (block : σ → Block) {body : Nat → σ → σ}
    (appends : ∀ n s, (block s).Adds (fun _ => True) (block (body n s))) {c : BelaCall}
    {init : σ} (first : c ∈ (block (body 0 init)).calls) (count : Nat) :
    c ∈ (block (forFrames (count + 1) body init)).calls := by
  induction count with
  | zero => simpa [forFrames_succ] using first
  | succ k ih =>
    rw [forFrames_succ]
    exact (appends (k + 1) _).mem ih

/-- Two digital UGens use a pin out of range. `DigitalOut_Ctor`, given one, still sets its
mode and writes it, and keeps a calc function in place of `ClearUnitOutputs`;
`DigitalIO_next_akka_once` sets the mode of its pin, unchecked, in every block. -/
theorem digital_pins_unchecked (context : BelaContext) :
    (∀ calcRate rate1 fin input fmode (b : Block),
      digitalOutOfRange context (floatToInt (fin 0)) = true →
      let constructed := DigitalOut.ctor context calcRate rate1 fin input fmode b
      constructed.1 ≠ .clearUnitOutputs ∧
        BelaCall.pinMode 0 (floatToInt (fin 0)) .output ∈ constructed.2.2.calls ∧
        ¬ (BelaCall.pinMode 0 (floatToInt (fin 0)) .output).InRange context 1) ∧
    (∀ inputs inNumSamples unit (b : Block), 0 < inNumSamples →
      digitalOutOfRange context (floatToInt (inputs.pinid 0)) = true →
      ∃ c ∈ ( DigitalIO.nextAkkaOnce inputs inNumSamples unit b).2.calls,
        ¬ c.InRange context inNumSamples) := by
  refine ⟨fun calcRate rate1 fin input fmode b outOfRange =>
      ⟨DigitalOut.selectCalc_ne_clearUnitOutputs _ _ _, ?_, fun inRange => ?_⟩,
    fun inputs inNumSamples unit b positive outOfRange => ?_⟩
  · exact (DigitalOut.CalcFunc.run_adds (P := fun _ => True) Nat.one_pos _ input _
      (fun _ _ _ => ⟨trivial, trivial⟩) _).mem (by simp)
  · simp [digitalOutOfRange_eq_false.mpr inRange.2] at outOfRange
  · obtain ⟨count, rfl⟩ := Nat.exists_eq_add_one.mpr positive
    let mode : PinMode := if inputs.iomode 0 < 1 / 2 then .input else .output
    refine ⟨.pinModeOnce 0 (floatToInt (inputs.pinid 0)) mode,
      mem_forFrames_of_first (fun s : Int × Int × Block => s.2.2) ?_ ?_ count, fun inRange => ?_⟩
    · rintro n ⟨i, o, b⟩
      dsimp only
      split_ifs <;> simp [Block.Adds]
    · simp only [mode]
      split_ifs <;> simp
    · simp [digitalOutOfRange_eq_false.mpr inRange.2] at outOfRange

theorem digital_out_on_pin_minus_one :
    digitalOutOfRange belaContext (floatToInt (-1)) = true ∧
      (DigitalOut.ctor belaContext .full .full (fun _ => -1) (fun _ => 0) (fun _ => 0)
        freshBlock).1 ≠ .clearUnitOutputs ∧
      BelaCall.pinMode 0 (floatToInt (-1)) .output ∈ (DigitalOut.ctor belaContext .full .full
        (fun _ => -1) (fun _ => 0) (fun _ => 0) freshBlock).2.2.calls ∧
      ¬ (BelaCall.pinMode 0 (floatToInt (-1)) .output).InRange belaContext 1 := by
  have outOfRange : digitalOutOfRange belaContext (floatToInt (-1)) = true := by
    norm_num [digitalOutOfRange, floatToInt, Int.ceil_neg]
  exact ⟨outOfRange, (digital_pins_unchecked belaContext).1 .full .full (fun _ => -1)
    (fun _ => 0) (fun _ => 0) freshBlock outOfRange⟩

/-- Every digital call in range: `DigitalIn`'s constructor, which disables a unit on a pin
out of range before touching the board, and its calc functions; `DigitalOut`'s constructor
and calc functions on a valid pin; every `DigitalIO` calc function but
`DigitalIO_next_akka_once`, on any inputs, for a block of one frame or more. -/
theorem digital_pins_checked (context : BelaContext) {inNumSamples : Nat}
    (positive : 0 < inNumSamples) :
    (∀ calcRate fin (b : Block),
      b.Adds (·.InRange context 1) (DigitalIn.ctor context calcRate fin b).2.2 ∧
      (digitalOutOfRange context (floatToInt (fin 0)) = true →
        (DigitalIn.ctor context calcRate fin b).1 = .clearUnitOutputs ∧
          (DigitalIn.ctor context calcRate fin b).2.2.calls = b.calls)) ∧
    (∀ (calcFunc : DigitalIn.CalcFunc) unit, digitalOutOfRange context unit.mDigitalPin = false →
      ∀ b : Block, b.Adds (·.InRange context inNumSamples) (calcFunc.run unit inNumSamples b)) ∧
    (∀ calcRate rate1 fin input fmode, digitalOutOfRange context (floatToInt (fin 0)) = false →
      ∀ b : Block, b.Adds (·.InRange context 1)
        (DigitalOut.ctor context calcRate rate1 fin input fmode b).2.2) ∧
    (∀ (calcFunc : DigitalOut.CalcFunc) input unit,
      digitalOutOfRange context unit.mDigitalPin = false → ∀ b : Block,
        b.Adds (·.InRange context inNumSamples)
          (calcFunc.run context input inNumSamples unit b).2) ∧
    (∀ calcFunc : DigitalIO.CalcFunc, calcFunc ≠ .akkaOnce → ∀ inputs unit (b : Block),
      b.Adds (·.InRange context inNumSamples)
        (calcFunc.run context inputs inNumSamples unit b).2) :=
  ⟨DigitalIn.ctor_adds,
    fun calcFunc unit valid => DigitalIn.CalcFunc.run_adds positive calcFunc unit valid,
    fun calcRate rate1 fin input fmode valid => DigitalOut.ctor_adds calcRate rate1 fin input fmode valid,
    fun calcFunc input unit valid => DigitalOut.CalcFunc.run_adds positive calcFunc input unit
      fun _ below value => have := digitalCall_inRange valid below
        ⟨this.2.2.2.1 value, this.2.2.2.2 value⟩,
    fun calcFunc checked => DigitalIO.CalcFunc.run_adds positive calcFunc checked⟩

theorem bela_digital_pins_checked :
    0 < 16 ∧
    (∀ calcRate fin (b : Block),
      b.Adds (·.InRange belaContext 1) (DigitalIn.ctor belaContext calcRate fin b).2.2 ∧
      (digitalOutOfRange belaContext (floatToInt (fin 0)) = true →
        (DigitalIn.ctor belaContext calcRate fin b).1 = .clearUnitOutputs ∧
          (DigitalIn.ctor belaContext calcRate fin b).2.2.calls = b.calls)) ∧
    (∀ (calcFunc : DigitalIn.CalcFunc) unit, digitalOutOfRange belaContext unit.mDigitalPin = false →
      ∀ b : Block, b.Adds (·.InRange belaContext 16) (calcFunc.run unit 16 b)) ∧
    (∀ calcRate rate1 fin input fmode, digitalOutOfRange belaContext (floatToInt (fin 0)) = false →
      ∀ b : Block, b.Adds (·.InRange belaContext 1)
        (DigitalOut.ctor belaContext calcRate rate1 fin input fmode b).2.2) ∧
    (∀ (calcFunc : DigitalOut.CalcFunc) input unit,
      digitalOutOfRange belaContext unit.mDigitalPin = false → ∀ b : Block,
        b.Adds (·.InRange belaContext 16) (calcFunc.run belaContext input 16 unit b).2) ∧
    (∀ calcFunc : DigitalIO.CalcFunc, calcFunc ≠ .akkaOnce → ∀ inputs unit (b : Block),
      b.Adds (·.InRange belaContext 16) (calcFunc.run belaContext inputs 16 unit b).2) :=
  ⟨by decide, digital_pins_checked belaContext (by decide)⟩

end ScBela.Plugins
