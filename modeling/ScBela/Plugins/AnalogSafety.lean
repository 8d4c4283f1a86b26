import ScBela.Plugins.Analog

/-!
# Where the analog UGens read and write

Every Bela call an analog UGen makes, by its constructor or by any later calc call, on
any inputs: `AnalogIn` and `AnalogOut` check their pin before each call, so every call
they make is in range (`BelaCall.InRange`). `MultiplexAnalogIn` checks its multiplexer
channel against `multiplexerChannels` with `>`, so it lets through the channel
`multiplexerChannels` itself, one past the last: its reads are those of `MuxChecked`, and
on a valid pin and that channel every one of its calc functions reads
`multiplexerAnalogIn[multiplexerChannels * analogInChannels + input]`, past the buffer's
`multiplexerChannels * analogInChannels` entries.

## Main results

* `AnalogIn.CalcFunc.run_adds`, `AnalogOut.CalcFunc.run_adds` — calls in range
* `MultiplexAnalogIn.CalcFunc.run_adds` — reads that passed the check
* `multiplexer_channel_one_past_end` — the read past the end
-/

namespace ScBela.Plugins

/-- Once a read loop's body logs `c` at frame `count`, the loop has made the call `c`. -/
theorem mem_forFrames_readOut {read : Nat → Block → ℚ × Block} {count : Nat} {c : BelaCall}
    (logs : ∀ b : Block, (read count b).2.calls = b.calls ++ [c]) (b : Block) :
    c ∈ (forFrames (count + 1) (readOut read) b).calls := by
  rw [forFrames_succ]
  simp [readOut, logs]

section

variable (context : BelaContext) {inNumSamples : Nat}

namespace AnalogIn

theorem analogReadNI_inRange {n : Nat} (below : n < inNumSamples) {analogPin : Int}
    (valid : isValid context analogPin = true) :
    (BelaCall.analogReadNI n analogPin).InRange context inNumSamples := by
  simp only [isValid, Bool.and_eq_true, decide_eq_true_eq] at valid
  exact ⟨below, valid⟩

theorem nextAa_adds (fin : Nat → ℚ) (unit : AnalogIn) (b : Block) :
    b.Adds (·.InRange context inNumSamples) (nextAa context fin inNumSamples unit b).2 := by
  rw [nextAa_snd]
  exact forFrames_adds Prod.fst (fun _ below s =>
    readFrame_adds (fun valid _ => .log rfl (analogReadNI_inRange context below valid)) s) _

theorem nextAk_adds (fin : Nat → ℚ) (unit : AnalogIn) (b : Block) :
    b.Adds (·.InRange context inNumSamples) (nextAk context fin inNumSamples unit b).2 := by
  unfold nextAk
  simp only [updatePin_eq]
  split
  · apply forFrames_adds id
    intro n below b
    exact readOut_adds (fun _ => .log rfl (analogReadNI_inRange context below ‹_›)) b
  · apply forFrames_adds id
    exact fun _ _ _ => .of_calls_eq rfl

theorem nextKk_adds (positive : 0 < inNumSamples) (fin : Nat → ℚ) (unit : AnalogIn) (b : Block) :
    b.Adds (·.InRange context inNumSamples) (nextKk context fin unit b).2 := by
  unfold nextKk
  simp only [updatePin_eq]
  split
  · exact .log rfl (analogReadNI_inRange context positive ‹_›)
  · exact .of_calls_eq rfl

/-- Every call an `AnalogIn` calc function makes is in range. -/
theorem CalcFunc.run_adds (positive : 0 < inNumSamples) (calcFunc : CalcFunc) (fin : Nat → ℚ)
    (unit : AnalogIn) (b : Block) :
    b.Adds (·.InRange context inNumSamples) (calcFunc.run context fin inNumSamples unit b).2 := by
  cases calcFunc
  · exact .of_calls_eq rfl
  · exact nextAa_adds context fin unit b
  · exact nextAk_adds context fin unit b
  · exact nextKk_adds context positive fin unit b

theorem ctor_adds (calcRate rate0 : CalcRate) (fin : Nat → ℚ) (b : Block) :
    b.Adds (·.InRange context 1) (ctor context calcRate rate0 fin b).2.2 := by
  unfold ctor
  split
  · exact .of_calls_eq rfl
  · exact CalcFunc.run_adds context Nat.one_pos _ fin _ b

end AnalogIn

namespace AnalogOut

theorem analogWriteOnceNI_inRange {n : Nat} (below : n < inNumSamples) {analogPin : Int}
    (valid : isValid context analogPin = true) (value : ℚ) :
    (BelaCall.analogWriteOnceNI n analogPin value).InRange context inNumSamples := by
  simp only [isValid, Bool.and_eq_true, decide_eq_true_eq] at valid
  exact ⟨below, valid⟩

theorem writeFrame_adds {n : Nat} (below : n < inNumSamples) (analogPin : Nat → Int)
    (input : Nat → ℚ) (b : Block) :
    b.Adds (·.InRange context inNumSamples) (writeFrame context analogPin input n b) := by
  unfold writeFrame
  split
  · exact .log rfl (analogWriteOnceNI_inRange context below ‹_› _)
  · exact .refl b

theorem nextAaa_adds (fin input : Nat → ℚ) (unit : AnalogOut) (b : Block) :
    b.Adds (·.InRange context inNumSamples) (nextAaa context fin input inNumSamples unit b).2 := by
  rw [nextAaa_snd]
  apply forFrames_adds id
  exact fun _ below b => writeFrame_adds context below _ input b

theorem nextAka_adds (fin input : Nat → ℚ) (unit : AnalogOut) (b : Block) :
    b.Adds (·.InRange context inNumSamples) (nextAka context fin input inNumSamples unit b).2 := by
  unfold nextAka
  simp only [updatePin_eq]
  split
  · apply forFrames_adds id
    exact fun _ below _ => .log rfl (analogWriteOnceNI_inRange context below ‹_› _)
  · exact .refl b

theorem nextKk_adds (positive : 0 < inNumSamples) (fin input : Nat → ℚ) (unit : AnalogOut)
    (b : Block) :
    b.Adds (·.InRange context inNumSamples) (nextKk context fin input unit b).2 := by
  unfold nextKk
  simp only [updatePin_eq]
  split
  · simp only [isValid, Bool.and_eq_true, decide_eq_true_eq] at *
    exact .log rfl ⟨positive, ‹_›⟩
  · exact .refl b

/-- Every call an `AnalogOut` calc function makes is in range. -/
theorem CalcFunc.run_adds (positive : 0 < inNumSamples) (calcFunc : CalcFunc)
    (fin input : Nat → ℚ) (unit : AnalogOut) (b : Block) :
    b.Adds (·.InRange context inNumSamples)
      (calcFunc.run context fin input inNumSamples unit b).2 := by
  cases calcFunc
  · exact .of_calls_eq rfl
  · exact nextAaa_adds context fin input unit b
  · exact nextAka_adds context fin input unit b
  · exact nextAaa_adds context fin _ unit b
  · exact nextKk_adds context positive fin input unit b

theorem ctor_adds (calcRate rate0 rate1 : CalcRate) (fin input : Nat → ℚ) (b : Block) :
    b.Adds (·.InRange context 1) (ctor context calcRate rate0 rate1 fin input b).2.2 := by
  unfold ctor
  split
  · exact .of_calls_eq rfl
  · exact CalcFunc.run_adds context Nat.one_pos _ fin input _ b

end AnalogOut

namespace MultiplexAnalogIn

/-- What the check of `MultiplexAnalogIn` lets through: a multiplexed read of an analog
input, on a channel from `0` up to `multiplexerChannels` itself. -/
def MuxChecked : BelaCall → Prop
  | .multiplexerAnalogRead input muxChannel =>
      (0 ≤ input ∧ input < context.analogInChannels) ∧
        0 ≤ muxChannel ∧ muxChannel ≤ context.multiplexerChannels
  | _ => False

theorem outOfRange_eq_false {analogPin muxChannel : Int} :
    outOfRange context analogPin muxChannel = false ↔
      (0 ≤ analogPin ∧ analogPin < context.analogInChannels) ∧
        0 ≤ muxChannel ∧ muxChannel ≤ context.multiplexerChannels := by
  simp only [outOfRange, Bool.or_eq_false_iff, decide_eq_false_iff_not]
  omega

theorem readLoop_adds (analogPin muxChannel : Nat → Int) (b : Block) :
    b.Adds (MuxChecked context) (readLoop context analogPin muxChannel inNumSamples b) :=
  forFrames_adds Prod.fst (fun _ _ s => readFrame_adds (fun passes _ =>
    .log rfl ((outOfRange_eq_false context).mp (by simpa using passes))) s) _

/-- Every read a `MultiplexAnalogIn` calc function makes passed its check. -/
theorem CalcFunc.run_adds (calcFunc : CalcFunc) (fin fmux : Nat → ℚ) (b : Block) :
    b.Adds (MuxChecked context) (calcFunc.run context fin fmux inNumSamples b) := by
  cases calcFunc
  · exact .of_calls_eq rfl
  · exact readLoop_adds context _ _ b
  · exact readLoop_adds context _ _ b
  · exact readLoop_adds context _ _ b
  · rw [CalcFunc.run, nextAkk_eq]; exact readLoop_adds context _ _ b
  · simp only [CalcFunc.run, nextKkk]
    split_ifs with pin mux
    · exact .of_calls_eq rfl
    · exact .of_calls_eq rfl
    · exact .log rfl (by simp only [MuxChecked]; omega)

/-- A read that passed the check is in range unless its channel is `multiplexerChannels`. -/
theorem MuxChecked.inRange {c : BelaCall} (checked : MuxChecked context c)
    (notLast : ∀ input, c ≠ .multiplexerAnalogRead input context.multiplexerChannels)
    (frames : Nat) : c.InRange context frames := by
  cases c <;> simp only [MuxChecked] at checked
  case multiplexerAnalogRead input muxChannel =>
    have := notLast input
    simp only [ne_eq, BelaCall.multiplexerAnalogRead.injEq, true_and] at this
    exact ⟨checked.1, checked.2.1, by omega⟩

/-- On a valid pin and the channel `multiplexerChannels`, the per-frame loop reads it. -/
theorem mem_readLoop_last {analogPin : Int} (valid : 0 ≤ analogPin)
    (below : analogPin < context.analogInChannels) (count : Nat) (b : Block) :
    .multiplexerAnalogRead analogPin context.multiplexerChannels ∈
      (readLoop context (fun _ => analogPin) (fun _ => context.multiplexerChannels)
        (count + 1) b).calls := by
  unfold readLoop
  rw [forFrames_readFrame_ok fun _ _ => ?_]
  · exact mem_forFrames_readOut (fun _ => rfl) b
  · simpa using (outOfRange_eq_false context).mpr ⟨⟨valid, below⟩, by omega, le_rfl⟩

end MultiplexAnalogIn

end

/-- Every calc function of `MultiplexAnalogIn`, on analog pin `0` and multiplexer channel
`multiplexerChannels`, calls `multiplexerAnalogRead` on that channel, which is out of
range: it reads entry `multiplexerChannels * analogInChannels` of the multiplexed inputs. -/
theorem multiplexer_channel_one_past_end (context : BelaContext)
    (inputs : 0 < context.analogInChannels) (calcFunc : MultiplexAnalogIn.CalcFunc)
    (active : calcFunc ≠ .clearUnitOutputs) {inNumSamples : Nat} (positive : 0 < inNumSamples)
    (b : Block) :
    let read := BelaCall.multiplexerAnalogRead 0 context.multiplexerChannels
    read ∈ (calcFunc.run context (fun _ => 0) (fun _ => context.multiplexerChannels)
      inNumSamples b).calls ∧ ¬ read.InRange context inNumSamples := by
  refine ⟨?_, by simp [BelaCall.InRange]⟩
  obtain ⟨count, rfl⟩ := Nat.exists_eq_add_one.mpr positive
  have last := MultiplexAnalogIn.mem_readLoop_last context le_rfl (by exact_mod_cast inputs) count b
  cases calcFunc
  case clearUnitOutputs => exact absurd rfl active
  case kkk =>
    simp [MultiplexAnalogIn.CalcFunc.run, MultiplexAnalogIn.nextKkk, Block.multiplexerAnalogRead,
      Block.log, Block.writeOut, show ¬(context.analogInChannels : Int) ≤ 0 by omega,
      show ¬(context.multiplexerChannels : Int) < 0 by omega]
  all_goals simpa [MultiplexAnalogIn.CalcFunc.run, MultiplexAnalogIn.nextAaa,
    MultiplexAnalogIn.nextAak, MultiplexAnalogIn.nextAka, MultiplexAnalogIn.nextAkk_eq] using last

/-- The board with the multiplexer capelet: eight analog inputs, each multiplexed over
eight channels, so sixty-four multiplexed entries. -/
def capeletContext : BelaContext :=
  ⟨16, 8, 8, 8, 16, 16, fun _ _ => 0, fun _ => 0⟩

theorem capelet_reads_entry_sixty_four :
    0 < capeletContext.analogInChannels ∧ MultiplexAnalogIn.CalcFunc.akk ≠ .clearUnitOutputs ∧
      0 < 16 ∧
      BelaCall.multiplexerAnalogRead 0 8 ∈ (MultiplexAnalogIn.CalcFunc.akk.run capeletContext
        (fun _ => 0) (fun _ => 8) 16 freshBlock).calls ∧
      ¬ (BelaCall.multiplexerAnalogRead 0 8).InRange capeletContext 16 :=
  ⟨by decide, by decide, by decide,
    multiplexer_channel_one_past_end capeletContext (by decide) .akk (by decide) (by decide)
      freshBlock⟩

/-- Every call `AnalogIn` and `AnalogOut` make is in range: in their constructors, and in
every calc function on a block of one frame or more, whatever the inputs. -/
theorem analog_pins_stay_in_range (context : BelaContext) {inNumSamples : Nat}
    (positive : 0 < inNumSamples) :
    (∀ calcRate rate0 fin (b : Block),
      b.Adds (·.InRange context 1) (AnalogIn.ctor context calcRate rate0 fin b).2.2) ∧
    (∀ (calcFunc : AnalogIn.CalcFunc) fin unit (b : Block),
      b.Adds (·.InRange context inNumSamples) (calcFunc.run context fin inNumSamples unit b).2) ∧
    (∀ calcRate rate0 rate1 fin input (b : Block),
      b.Adds (·.InRange context 1) (AnalogOut.ctor context calcRate rate0 rate1 fin input b).2.2) ∧
    (∀ (calcFunc : AnalogOut.CalcFunc) fin input unit (b : Block),
      b.Adds (·.InRange context inNumSamples)
        (calcFunc.run context fin input inNumSamples unit b).2) :=
  ⟨AnalogIn.ctor_adds context, AnalogIn.CalcFunc.run_adds context positive,
    AnalogOut.ctor_adds context, AnalogOut.CalcFunc.run_adds context positive⟩

theorem capelet_pins_stay_in_range :
    0 < 16 ∧
    (∀ calcRate rate0 fin (b : Block),
      b.Adds (·.InRange capeletContext 1) (AnalogIn.ctor capeletContext calcRate rate0 fin b).2.2) ∧
    (∀ (calcFunc : AnalogIn.CalcFunc) fin unit (b : Block),
      b.Adds (·.InRange capeletContext 16) (calcFunc.run capeletContext fin 16 unit b).2) ∧
    (∀ calcRate rate0 rate1 fin input (b : Block),
      b.Adds (·.InRange capeletContext 1)
        (AnalogOut.ctor capeletContext calcRate rate0 rate1 fin input b).2.2) ∧
    (∀ (calcFunc : AnalogOut.CalcFunc) fin input unit (b : Block),
      b.Adds (·.InRange capeletContext 16) (calcFunc.run capeletContext fin input 16 unit b).2) :=
  ⟨by decide, analog_pins_stay_in_range capeletContext (by decide)⟩

/-- Every read `MultiplexAnalogIn` makes, in its constructor and in every calc function, is
of a valid analog input on a multiplexer channel from `0` to `multiplexerChannels`, and is in
range unless the channel is `multiplexerChannels` itself. -/
theorem multiplexer_reads_pass_check (context : BelaContext) (inNumSamples : Nat) :
    (∀ (calcFunc : MultiplexAnalogIn.CalcFunc) fin fmux (b : Block),
      b.Adds (MultiplexAnalogIn.MuxChecked context) (calcFunc.run context fin fmux inNumSamples b)) ∧
    ∀ c, MultiplexAnalogIn.MuxChecked context c →
      (∀ input, c ≠ .multiplexerAnalogRead input context.multiplexerChannels) →
      c.InRange context inNumSamples :=
  ⟨MultiplexAnalogIn.CalcFunc.run_adds context,
    fun _ checked notLast => checked.inRange context notLast inNumSamples⟩

end ScBela.Plugins
