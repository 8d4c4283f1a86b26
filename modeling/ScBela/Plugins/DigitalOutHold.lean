import ScBela.Plugins.Digital

/-!
# `DigitalOut` writes on change

`DigitalOut_next_a` writes its pin only when the value changes, at the frame it changes,
and counts on the write to hold. Here a digital write is read as the design intends
(`levelAt`): a `digitalWrite` at frame `f` holds the pin's level from `f` on, across the
ends of blocks, until the next write, and a `digitalWriteOnce` sets frame `f` alone. Under
that reading the pin follows the input, `in[n] > 0.5`, at every frame of every block after
construction, as `DigitalOut_next_a_once`, which writes every frame, has it; and
`DigitalOut_next_k` holds its block's value on every frame. What makes this work is that
`mLastOut` is `0` or `1` and equals the level the pin holds at every block boundary.

## Main definitions

* `levelAt` — the level of a pin at a frame of a block, by the writes made in it
* `DigitalOut.runCalc` — a unit's calc function over a run of blocks

## Main results

* `DigitalOut.nextA_levelAt`, `nextK_levelAt`, `nextAOnce_levelAt` — one block
* `digital_out_holds_input_level` — every run from construction, on a pin at any level
  before it
-/

namespace ScBela.Plugins

/-- How one call changes the level of `pin` at frame `n`: a `digitalWrite` to it at a frame
up to `n`, or a `digitalWriteOnce` to it at frame `n`, sets it. -/
def levelStep (pin : Int) (n : Nat) (level : Bool) : BelaCall → Bool
  | .digitalWrite f c v => if c = pin ∧ f ≤ n then v ≠ 0 else level
  | .digitalWriteOnce f c v => if c = pin ∧ f = n then v ≠ 0 else level
  | _ => level

/-- The level of `pin` at frame `n` of a block it entered at `level`, after the block's
`calls`. -/
def levelAt (pin : Int) (n : Nat) (level : Bool) (calls : List BelaCall) : Bool :=
  calls.foldl (levelStep pin n) level

@[simp] theorem levelAt_nil (pin : Int) (n : Nat) (level : Bool) : levelAt pin n level [] = level :=
  rfl

@[simp] theorem levelAt_append_singleton (pin : Int) (n : Nat) (level : Bool)
    (calls : List BelaCall) (c : BelaCall) :
    levelAt pin n level (calls ++ [c]) = levelStep pin n (levelAt pin n level calls) c := by
  simp [levelAt]

namespace DigitalOut

/-- `mLastOut` is `0` or `1`, and `1` exactly when the pin is held high. -/
def Synced (unit : DigitalOut) (level : Bool) : Prop :=
  unit.mLastOut = if level then 1 else 0

/-- What holds of `DigitalOut_next_a`'s loop after `count` frames: `lastOut` is `0` or `1`
and is the level of the frame just done; the pin is at each past frame's input level, and
from the current frame on at `lastOut`'s. -/
structure LoopInv (input : Nat → ℚ) (pin : Int) (level : Bool) (count : Nat)
    (state : Int × Block) : Prop where
  zeroOrOne : state.1 = 0 ∨ state.1 = 1
  current : 0 < count → decide (state.1 = 1) = decide (input (count - 1) > 1 / 2)
  levels : ∀ n, levelAt pin n level state.2.calls =
    if n < count then decide (input n > 1 / 2) else decide (state.1 = 1)

/-- A frame that writes nothing keeps the invariant when the pin is already at the frame's
level. -/
theorem LoopInv.keep {input : Nat → ℚ} {pin : Int} {level : Bool} {k : Nat} {lastOut : Int}
    {b : Block} (inv : LoopInv input pin level k (lastOut, b))
    (atLevel : decide (input k > 1 / 2) = decide (lastOut = 1)) :
    LoopInv input pin level (k + 1) (lastOut, b) := by
  refine ⟨inv.zeroOrOne, fun _ => by rw [Nat.add_sub_cancel]; exact atLevel.symm, fun n => ?_⟩
  rw [inv.levels n]
  by_cases past : n < k
  · simp [past, show n < k + 1 by omega]
  · by_cases now : n = k
    · subst now; rw [if_neg past, if_pos (Nat.lt_succ_self n)]; exact atLevel.symm
    · simp [past, show ¬ n < k + 1 by omega]

/-- A frame that writes the frame's level keeps the invariant. -/
theorem LoopInv.write {context : BelaContext} {input : Nat → ℚ} {pin : Int} {level : Bool}
    {k : Nat} {lastOut value : Int} {b : Block} (inv : LoopInv input pin level k (lastOut, b))
    (zeroOrOne : value = 0 ∨ value = 1) (atLevel : decide (input k > 1 / 2) = decide (value = 1)) :
    LoopInv input pin level (k + 1) (value, b.digitalWrite context k pin value) := by
  refine ⟨zeroOrOne, fun _ => by rw [Nat.add_sub_cancel]; exact atLevel.symm, fun n => ?_⟩
  simp only [Block.digitalWrite_calls, levelAt_append_singleton, levelStep, true_and]
  by_cases past : n < k
  · simp [inv.levels n, past, show n < k + 1 by omega, show ¬ k ≤ n by omega]
  · have nonzero : (value ≠ 0) = (value = 1) := by rcases zeroOrOne with rfl | rfl <;> simp
    by_cases now : n = k
    · subst now
      rw [if_pos le_rfl, if_pos (Nat.lt_succ_self n)]
      simpa only [nonzero] using atLevel.symm
    · simp [show k ≤ n by omega, show ¬ n < k + 1 by omega, nonzero]

theorem frameA_loopInv (context : BelaContext) (input : Nat → ℚ) (unit : DigitalOut)
    {level : Bool} {k : Nat} {state : Int × Block}
    (inv : LoopInv input unit.mDigitalPin level k state) :
    LoopInv input unit.mDigitalPin level (k + 1) (frameA context input unit k state) := by
  obtain ⟨lastOut, b⟩ := state
  have zeroOrOne : lastOut = 0 ∨ lastOut = 1 := inv.zeroOrOne
  unfold frameA
  dsimp only
  split_ifs with high written written
  · exact inv.write (.inr rfl) (by simpa using high)
  · exact inv.keep (by simpa [show lastOut = 1 by omega] using high)
  · exact inv.write (.inl rfl) (by simpa using high)
  · exact inv.keep (by simpa [show lastOut = 0 by omega] using high)

/-- `DigitalOut_next_a`'s loop keeps the invariant over a block its pin entered at the level
`mLastOut` says, whatever level it was at before the block's first calls. -/
theorem forFrames_frameA_loopInv (context : BelaContext) (input : Nat → ℚ) (unit : DigitalOut)
    (b : Block) {start level : Bool} (synced : Synced unit level)
    (entered : ∀ n, levelAt unit.mDigitalPin n start b.calls = level) (count : Nat) :
    LoopInv input unit.mDigitalPin start count
      (forFrames count (frameA context input unit) (unit.mLastOut, b)) := by
  induction count with
  | zero =>
    unfold Synced at synced
    exact ⟨by cases level <;> simp [synced], nofun, by cases level <;> simp [synced, entered]⟩
  | succ k ih => rw [forFrames_succ]; exact frameA_loopInv context input unit ih

/-- `DigitalOut_next_a` on a block its pin entered at the level `mLastOut` says: at each
frame of the block the pin is at the frame's input level, and after it at the level of the
new `mLastOut`. -/
theorem nextA_levelAt (context : BelaContext) (input : Nat → ℚ) (inNumSamples : Nat)
    (unit : DigitalOut) (b : Block) {start level : Bool} (synced : Synced unit level)
    (entered : ∀ n, levelAt unit.mDigitalPin n start b.calls = level) :
    let result := nextA context input inNumSamples unit b
    Synced result.1 (levelAt unit.mDigitalPin inNumSamples start result.2.calls) ∧
      ∀ n < inNumSamples,
        levelAt unit.mDigitalPin n start result.2.calls = decide (input n > 1 / 2) := by
  obtain ⟨zeroOrOne, -, levels⟩ :=
    forFrames_frameA_loopInv context input unit b synced entered inNumSamples
  simp only [nextA]
  refine ⟨?_, fun n below => by rw [levels, if_pos below]⟩
  rw [Synced, levels, if_neg (lt_irrefl _)]
  rcases zeroOrOne with zero | one <;> simp [*]

/-- `DigitalOut_next_k` is `DigitalOut_next_a`'s loop on one frame, the block's value. -/
theorem nextK_eq (context : BelaContext) (input : Nat → ℚ) (unit : DigitalOut) (b : Block) :
    nextK context input unit b = nextA context input 1 unit b := by
  simp only [nextK, nextA, forFrames_succ, forFrames_zero, frameA]
  split_ifs <;> rfl

/-- `DigitalOut_next_k` holds its block's value on every frame. -/
theorem nextK_levelAt (context : BelaContext) (input : Nat → ℚ) (unit : DigitalOut) (b : Block)
    {start level : Bool} (synced : Synced unit level)
    (entered : ∀ n, levelAt unit.mDigitalPin n start b.calls = level) :
    let result := nextK context input unit b
    Synced result.1 (decide (input 0 > 1 / 2)) ∧
      ∀ n, levelAt unit.mDigitalPin n start result.2.calls = decide (input 0 > 1 / 2) := by
  obtain ⟨zeroOrOne, current, levels⟩ :=
    forFrames_frameA_loopInv context input unit b synced entered 1
  have current := current Nat.one_pos
  simp only [nextK_eq, nextA]
  refine ⟨?_, fun n => ?_⟩
  · rw [Synced, ← current]
    rcases zeroOrOne with zero | one <;> simp [*]
  · rw [levels]
    split
    · rw [show n = 0 by omega]
    · exact current

/-- `DigitalOut_next_a_once` sets each frame of the block to its input level. -/
theorem nextAOnce_levelAt (input : Nat → ℚ) (inNumSamples : Nat) (unit : DigitalOut)
    (b : Block) {level : Bool} (entered : ∀ n, levelAt unit.mDigitalPin n level b.calls = level) :
    ∀ n < inNumSamples, levelAt unit.mDigitalPin n level
      (nextAOnce input inNumSamples unit b).2.calls = decide (input n > 1 / 2) := by
  suffices loop : ∀ count n, levelAt unit.mDigitalPin n level
      (nextAOnce input count unit b).2.calls = if n < count then decide (input n > 1 / 2) else level from
    fun n below => by rw [loop, if_pos below]
  intro count n
  induction count with
  | zero => simp [nextAOnce, entered]
  | succ k ih =>
    simp only [nextAOnce, forFrames_succ] at ih ⊢
    by_cases now : n = k
    · subst now
      rw [if_pos (Nat.lt_succ_self n)]
      split <;> rename_i high <;> simpa [levelStep] using high
    · split <;> simp only [Block.digitalWriteOnce_calls, levelAt_append_singleton, levelStep,
        Ne.symm now, and_false, if_false, ih, show n < k + 1 ↔ n < k by omega]

/-- The write-on-change calc functions: `_a` at audio rate, `_k` at control rate. -/
def CalcFunc.OnChange (calcFunc : CalcFunc) : Prop :=
  calcFunc = .a ∨ calcFunc = .k

theorem CalcFunc.run_mDigitalPin (context : BelaContext) (calcFunc : CalcFunc) (input : Nat → ℚ)
    (inNumSamples : Nat) (unit : DigitalOut) (b : Block) :
    (calcFunc.run context input inNumSamples unit b).1.mDigitalPin = unit.mDigitalPin := by
  cases calcFunc <;> simp only [CalcFunc.run, nextAOnce, nextA, nextK]
  split_ifs <;> rfl

/-- One block of a write-on-change calc function keeps `mLastOut` in step with the pin. -/
theorem CalcFunc.run_synced (context : BelaContext) {calcFunc : CalcFunc}
    (onChange : calcFunc.OnChange) (input : Nat → ℚ) (inNumSamples : Nat) (unit : DigitalOut)
    (b : Block) {start level : Bool} (synced : Synced unit level)
    (entered : ∀ n, levelAt unit.mDigitalPin n start b.calls = level) :
    let result := calcFunc.run context input inNumSamples unit b
    Synced result.1 (levelAt unit.mDigitalPin inNumSamples start result.2.calls) := by
  rcases onChange with rfl | rfl
  · exact (nextA_levelAt context input inNumSamples unit b synced entered).1
  · obtain ⟨held, levels⟩ := nextK_levelAt context input unit b synced entered
    simpa [CalcFunc.run, levels] using held

/-- A unit's calc function over a run of blocks, each given by its length, its value input
and the block it starts from, before any call: the unit after the run, and the level its
pin holds at the end. -/
def runCalc (context : BelaContext) (calcFunc : CalcFunc) :
    DigitalOut × Bool → List (Nat × (Nat → ℚ) × Block) → DigitalOut × Bool
  | state, [] => state
  | (unit, level), (inNumSamples, input, b) :: blocks =>
    let result := calcFunc.run context input inNumSamples unit { b with calls := [] }
    runCalc context calcFunc
      (result.1, levelAt unit.mDigitalPin inNumSamples level result.2.calls) blocks

/-- Over any run, a write-on-change unit keeps its pin and `mLastOut` in step with it. -/
theorem runCalc_synced (context : BelaContext) {calcFunc : CalcFunc}
    (onChange : calcFunc.OnChange) (blocks : List (Nat × (Nat → ℚ) × Block)) :
    ∀ (unit : DigitalOut) (level : Bool), Synced unit level →
      let run := runCalc context calcFunc (unit, level) blocks
      run.1.mDigitalPin = unit.mDigitalPin ∧ Synced run.1 run.2 := by
  induction blocks with
  | nil => exact fun _ _ synced => ⟨rfl, synced⟩
  | cons block blocks ih =>
    intro unit level synced
    obtain ⟨inNumSamples, input, b⟩ := block
    obtain ⟨pin, held⟩ := ih _ _ (CalcFunc.run_synced context onChange input inNumSamples unit
      { b with calls := [] } synced (fun _ => rfl))
    exact ⟨pin.trans (CalcFunc.run_mDigitalPin ..), held⟩

/-- On a write-on-change unit `DigitalOut_Ctor` installs `DigitalOut_next_a` when the unit
and its value input run at audio rate, and `DigitalOut_next_k` otherwise. -/
theorem selectCalc_onChange {calcRate rate1 : CalcRate} {writeMode : Int}
    (onChange : writeMode = 0 ∨ rate1 ≠ .full ∨ calcRate ≠ .full) :
    selectCalc calcRate rate1 writeMode = if calcRate = .full ∧ rate1 = .full then .a else .k := by
  unfold selectCalc
  split_ifs <;> simp_all

/-- What `DigitalOut_Ctor` installs on a write-on-change unit writes on change. -/
theorem CalcFunc.onChange_installed (calcRate rate1 : CalcRate) :
    CalcFunc.OnChange (if calcRate = .full ∧ rate1 = .full then .a else .k) := by
  split_ifs <;> simp [CalcFunc.OnChange]

/-- `DigitalOut_Ctor` on a write-on-change unit, whatever level its pin had before: the `0`
it writes at frame `0` brings the pin low, so after its first one-sample call the pin and
`mLastOut` are in step. -/
theorem ctor_synced (context : BelaContext) (calcRate rate1 : CalcRate) (fin input fmode : Nat → ℚ)
    (onChange : floatToInt (fmode 0) = 0 ∨ rate1 ≠ .full ∨ calcRate ≠ .full) (b : Block)
    (before : Bool) :
    let constructed := ctor context calcRate rate1 fin input fmode { b with calls := [] }
    constructed.1 = (if calcRate = .full ∧ rate1 = .full then .a else .k) ∧
      constructed.2.1.mDigitalPin = floatToInt (fin 0) ∧
      Synced constructed.2.1 (levelAt (floatToInt (fin 0)) 1 before constructed.2.2.calls) := by
  have picked := selectCalc_onChange onChange
  have onChange' := picked ▸ CalcFunc.onChange_installed calcRate rate1
  refine ⟨picked, CalcFunc.run_mDigitalPin .., ?_⟩
  exact @CalcFunc.run_synced context _ onChange' input 1 _ _ before false rfl fun n => by
    split_ifs <;> simp [levelAt, levelStep]

end DigitalOut

/-- A `DigitalOut` that writes on change, from its construction on a pin at any level, over
any run of blocks after it and any block that follows: `DigitalOut_Ctor` installs
`DigitalOut_next_a` at audio rate and `DigitalOut_next_k` for a control-rate unit or value
input; at the block boundary `mLastOut` is `0` or `1` and matches the level its pin holds;
and through the next block the pin is at each frame's input level, as
`DigitalOut_next_a_once` would set it, or at control rate at the block's value on every
frame. -/
theorem digital_out_holds_input_level (context : BelaContext) (calcRate rate1 : CalcRate)
    (fin input fmode : Nat → ℚ) (b : Block)
    (onChange : floatToInt (fmode 0) = 0 ∨ rate1 ≠ .full ∨ calcRate ≠ .full) (before : Bool)
    (blocks : List (Nat × (Nat → ℚ) × Block)) (inNumSamples : Nat) (next : Nat → ℚ)
    (b' : Block) :
    let constructed := DigitalOut.ctor context calcRate rate1 fin input fmode { b with calls := [] }
    let pin := floatToInt (fin 0)
    let run := DigitalOut.runCalc context constructed.1
      (constructed.2.1, levelAt pin 1 before constructed.2.2.calls) blocks
    let result := constructed.1.run context next inNumSamples run.1 { b' with calls := [] }
    constructed.1 = (if calcRate = .full ∧ rate1 = .full then .a else .k) ∧
    (run.1.mLastOut = 0 ∨ run.1.mLastOut = 1) ∧ run.1.mLastOut = (if run.2 then 1 else 0) ∧
    (calcRate = .full → rate1 = .full → ∀ n < inNumSamples,
      levelAt pin n run.2 result.2.calls = decide (next n > 1 / 2) ∧
      levelAt pin n run.2 (DigitalOut.nextAOnce next inNumSamples run.1 { b' with calls := [] }).2.calls =
        decide (next n > 1 / 2)) ∧
    (rate1 ≠ .full ∨ calcRate ≠ .full →
      ∀ n, levelAt pin n run.2 result.2.calls = decide (next 0 > 1 / 2)) := by
  intro constructed pin run result
  obtain ⟨picked, samePin, synced⟩ := DigitalOut.ctor_synced context calcRate rate1 fin input fmode
    onChange b before
  have onChange' : constructed.1.OnChange := picked ▸ DigitalOut.CalcFunc.onChange_installed ..
  obtain ⟨runPin, held⟩ := DigitalOut.runCalc_synced context onChange' blocks _ _ synced
  have runPin : run.1.mDigitalPin = pin := runPin.trans samePin
  refine ⟨picked, ?_, held, fun audio audio' n below => ?_, fun control n => ?_⟩
  · rw [held]
    cases run.2 <;> simp
  · have installed : constructed.1 = .a := picked.trans (if_pos ⟨audio, audio'⟩)
    rw [← runPin]
    refine ⟨?_, DigitalOut.nextAOnce_levelAt next inNumSamples run.1 { b' with calls := [] }
      (fun _ => rfl) n below⟩
    simp only [result, installed, DigitalOut.CalcFunc.run]
    exact (DigitalOut.nextA_levelAt context next inNumSamples run.1 { b' with calls := [] } held
      (fun _ => rfl)).2 n below
  · have installed : constructed.1 = .k := picked.trans <| if_neg fun ⟨audio, audio'⟩ => by
      rcases control with slow | slow <;> contradiction
    rw [← runPin]
    simp only [result, installed, DigitalOut.CalcFunc.run]
    exact (DigitalOut.nextK_levelAt context next run.1 { b' with calls := [] } held
      (fun _ => rfl)).2 n

/-- A `DigitalOut` on pin `0`, at audio rate and written on change, on a pin held high
before it is built, built with its input low and then run on a block that drives it high. -/
theorem digital_out_follows_rising_input :
    (floatToInt ((fun _ => 0 : Nat → ℚ) 0) = 0 ∨ CalcRate.full ≠ .full ∨ CalcRate.full ≠ .full) ∧
    let constructed := DigitalOut.ctor belaContext .full .full (fun _ => 0) (fun _ => 0)
      (fun _ => 0) { freshBlock with calls := [] }
    let pin := floatToInt ((fun _ => 0 : Nat → ℚ) 0)
    let run := DigitalOut.runCalc belaContext constructed.1
      (constructed.2.1, levelAt pin 1 true constructed.2.2.calls) []
    let result := constructed.1.run belaContext (fun _ => 1) 1 run.1 { freshBlock with calls := [] }
    constructed.1 = (if CalcRate.full = .full ∧ CalcRate.full = .full then .a else .k) ∧
    (run.1.mLastOut = 0 ∨ run.1.mLastOut = 1) ∧ run.1.mLastOut = (if run.2 then 1 else 0) ∧
    (CalcRate.full = .full → CalcRate.full = .full → ∀ n < 1,
      levelAt pin n run.2 result.2.calls = decide ((fun _ => 1 : Nat → ℚ) n > 1 / 2) ∧
      levelAt pin n run.2 (DigitalOut.nextAOnce (fun _ => 1) 1 run.1
        { freshBlock with calls := [] }).2.calls = decide ((fun _ => 1 : Nat → ℚ) n > 1 / 2)) ∧
    (CalcRate.full ≠ .full ∨ CalcRate.full ≠ .full →
      ∀ n, levelAt pin n run.2 result.2.calls = decide ((fun _ => 1 : Nat → ℚ) 0 > 1 / 2)) :=
  ⟨.inl floatToInt_zero, digital_out_holds_input_level belaContext .full .full (fun _ => 0)
    (fun _ => 0) (fun _ => 0) freshBlock (.inl floatToInt_zero) true [] 1 (fun _ => 1) freshBlock⟩

end ScBela.Plugins
