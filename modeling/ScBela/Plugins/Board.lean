import Mathlib.Data.Rat.Floor

/-!
# The Bela board as the UGens see it

`BELAUGens.cpp` reads a few fields of `BelaContext` (channel counts, frame counts and
input buffers) and calls the Bela API: `analogReadNI`, `analogWriteNI`, `pinMode`,
`digitalRead`, ... This file models those fields and calls. The fields a UGen only reads
are a `BelaContext`, passed to every calc function; what a calc call changes (the analog
outputs, the digital words, the unit's output buffer) is a `Block`, which also records
every Bela call with its arguments, whether or not they are in range.

Samples are `float`s; they are read here as the rationals they denote, so infinities and
NaN are left out, and C's conversion `(int)x` truncates toward zero (`floatToInt`).

The Bela API lives in `Bela.h`, outside this repository: what each call does is taken
from the design's words (a block-wide call at frame `f` sets every frame from `f` to the
end of the block, a `...Once` call sets one frame, and a written value `v` drives the pin
high iff `v ≠ 0`).

## Main definitions

* `floatToInt` — `(int)x`
* `CalcRate` — the calculation rates of SuperCollider's plug-in interface
* `atRate` — a control-rate input repeated on every frame
* `BelaContext` — the counts and input buffers the UGens read
* `BelaCall` — one call of the Bela API with its arguments
* `Block` — the registers, the unit's output buffer and the calls of one calc call
* `forFrames` — `for (unsigned int n = 0; n < inNumSamples; n++)`
* `BelaCall.InRange`, `Block.Adds` — calls whose arguments are in range, and blocks that
  only gain such calls

## Main results

* `forFrames_adds` — a loop whose every frame only makes calls of some kind makes only
  calls of that kind
-/

namespace ScBela.Plugins

/-- C's `(int)x` on a finite sample: truncation toward zero. -/
def floatToInt (x : ℚ) : Int := if 0 ≤ x then ⌊x⌋ else ⌈x⌉

theorem floatToInt_of_nonneg {x : ℚ} (nonneg : 0 ≤ x) : floatToInt x = ⌊x⌋ := if_pos nonneg

@[simp] theorem floatToInt_natCast (n : Nat) : floatToInt n = n := by
  simp [floatToInt]

@[simp] theorem floatToInt_zero : floatToInt 0 = 0 := by
  simp [floatToInt]

theorem floatToInt_eq_zero {x : ℚ} (nonneg : 0 ≤ x) (below : x < 1) : floatToInt x = 0 := by
  rw [floatToInt_of_nonneg nonneg, Int.floor_eq_zero_iff]
  exact ⟨nonneg, below⟩

/-- A sample in `[0, n)` truncates to an index in `[0, n)`. -/
theorem floatToInt_mem_range {x : ℚ} {n : Int} (nonneg : 0 ≤ x) (below : x < n) :
    0 ≤ floatToInt x ∧ floatToInt x < n := by
  rw [floatToInt_of_nonneg nonneg]
  exact ⟨Int.floor_nonneg.mpr nonneg, Int.floor_lt.mpr below⟩

/-- `calc_ScalarRate`, `calc_BufRate`, `calc_FullRate` and `calc_DemandRate`: the rate of
a unit (`mCalcRate`) or of one of its inputs (`INRATE(i)`). -/
inductive CalcRate
  | scalar
  | buf
  | full
  | demand
  deriving DecidableEq, Repr

/-- An input as a calc function that reads it at every frame sees it, when the input runs
at `rate`: an audio-rate input as it is, any other as its first value `IN0(i)` repeated on
every frame. -/
def atRate (rate : CalcRate) (input : Nat → ℚ) : Nat → ℚ :=
  if rate = .full then input else fun _ => input 0

@[simp] theorem atRate_full (input : Nat → ℚ) : atRate .full input = input := if_pos rfl

theorem atRate_of_ne {rate : CalcRate} (control : rate ≠ .full) (input : Nat → ℚ) :
    atRate rate input = fun _ => input 0 := if_neg control

/-- `INPUT` and `OUTPUT` of `pinMode`. -/
inductive PinMode
  | input
  | output
  deriving DecidableEq, Repr

/-- The fields of `BelaContext` the UGens read and never write: the counts, the analog
inputs by frame and channel, and the multiplexed inputs by their flat index
`muxChannel * analogInChannels + input`. -/
structure BelaContext where
  analogFrames : Nat
  analogInChannels : Nat
  analogOutChannels : Nat
  multiplexerChannels : Nat
  digitalFrames : Nat
  digitalChannels : Nat
  analogIn : Nat → Int → ℚ
  multiplexerAnalogIn : Int → ℚ

/-- One call of the Bela API, with its arguments. -/
inductive BelaCall
  | analogReadNI (frame : Nat) (channel : Int)
  | analogWriteNI (frame : Nat) (channel : Int) (value : ℚ)
  | analogWriteOnceNI (frame : Nat) (channel : Int) (value : ℚ)
  | multiplexerAnalogRead (input muxChannel : Int)
  | pinMode (frame : Nat) (channel : Int) (mode : PinMode)
  | pinModeOnce (frame : Nat) (channel : Int) (mode : PinMode)
  | digitalRead (frame : Nat) (channel : Int)
  | digitalWrite (frame : Nat) (channel : Int) (value : Int)
  | digitalWriteOnce (frame : Nat) (channel : Int) (value : Int)
  deriving DecidableEq, Inhabited

/-- What one calc call changes: the analog outputs and the digital words (direction and
level of each pin) by frame and channel, the unit's output buffer, and the Bela calls
made so far. A digital word holds the input levels the board sampled as well as the
levels written. -/
structure Block where
  analogOut : Nat → Int → ℚ
  digitalMode : Nat → Int → PinMode
  digitalLevel : Nat → Int → Bool
  out : Nat → ℚ
  calls : List BelaCall

/-- The Bela board: sixteen frames, eight analog inputs and outputs, sixteen digital
channels, no multiplexer. -/
def belaContext : BelaContext :=
  ⟨16, 8, 8, 0, 16, 16, fun _ _ => 0, fun _ => 0⟩

/-- A block with nothing written and no calls made. -/
def freshBlock : Block :=
  ⟨fun _ _ => 0, fun _ _ => .input, fun _ _ => false, fun _ => 0, []⟩

namespace Block

/-- Record a call. -/
def log (b : Block) (c : BelaCall) : Block := { b with calls := b.calls ++ [c] }

/-- `*++out = v` at loop index `n`, or `ZOUT0(0) = v` at `n = 0`. -/
def writeOut (b : Block) (n : Nat) (v : ℚ) : Block := { b with out := Function.update b.out n v }

/-- Modelled from the spec: `analogReadNI(context, frame, channel)`. -/
def analogReadNI (b : Block) (context : BelaContext) (frame : Nat) (channel : Int) : ℚ × Block :=
  (context.analogIn frame channel, b.log (.analogReadNI frame channel))

/-- Modelled from the spec: `analogWriteNI` sets every frame from `frame` to the end of
the block. -/
def analogWriteNI (b : Block) (context : BelaContext) (frame : Nat) (channel : Int) (value : ℚ) :
    Block :=
  { b.log (.analogWriteNI frame channel value) with
    analogOut := fun f c =>
      if frame ≤ f ∧ f < context.analogFrames ∧ c = channel then value else b.analogOut f c }

/-- Modelled from the spec: `analogWriteOnceNI` sets one frame. -/
def analogWriteOnceNI (b : Block) (frame : Nat) (channel : Int) (value : ℚ) : Block :=
  { b.log (.analogWriteOnceNI frame channel value) with
    analogOut := fun f c => if f = frame ∧ c = channel then value else b.analogOut f c }

/-- Modelled from the spec: `multiplexerAnalogRead` reads
`multiplexerAnalogIn[muxChannel * analogInChannels + input]`. -/
def multiplexerAnalogRead (b : Block) (context : BelaContext) (input muxChannel : Int) :
    ℚ × Block :=
  (context.multiplexerAnalogIn (muxChannel * context.analogInChannels + input),
    b.log (.multiplexerAnalogRead input muxChannel))

/-- Modelled from the spec: `pinMode` sets every frame from `frame` to the end of the
block. -/
def pinMode (b : Block) (context : BelaContext) (frame : Nat) (channel : Int) (mode : PinMode) :
    Block :=
  { b.log (.pinMode frame channel mode) with
    digitalMode := fun f c =>
      if frame ≤ f ∧ f < context.digitalFrames ∧ c = channel then mode else b.digitalMode f c }

/-- Modelled from the spec: `pinModeOnce` sets one frame. -/
def pinModeOnce (b : Block) (frame : Nat) (channel : Int) (mode : PinMode) : Block :=
  { b.log (.pinModeOnce frame channel mode) with
    digitalMode := fun f c => if f = frame ∧ c = channel then mode else b.digitalMode f c }

/-- Modelled from the spec: `digitalRead` returns the pin's level, `0` or `1`. -/
def digitalRead (b : Block) (frame : Nat) (channel : Int) : Int × Block :=
  (if b.digitalLevel frame channel then 1 else 0, b.log (.digitalRead frame channel))

/-- Modelled from the spec: `digitalWrite` drives the pin from `frame` to the end of the
block, high iff `value ≠ 0`. -/
def digitalWrite (b : Block) (context : BelaContext) (frame : Nat) (channel : Int) (value : Int) :
    Block :=
  { b.log (.digitalWrite frame channel value) with
    digitalLevel := fun f c =>
      if frame ≤ f ∧ f < context.digitalFrames ∧ c = channel then value ≠ 0
      else b.digitalLevel f c }

/-- Modelled from the spec: `digitalWriteOnce` drives the pin at one frame. -/
def digitalWriteOnce (b : Block) (frame : Nat) (channel : Int) (value : Int) : Block :=
  { b.log (.digitalWriteOnce frame channel value) with
    digitalLevel := fun f c => if f = frame ∧ c = channel then value ≠ 0 else b.digitalLevel f c }

/-- `ClearUnitOutputs(unit, inNumSamples)`: zero the first `inNumSamples` outputs. -/
def clearUnitOutputs (b : Block) (inNumSamples : Nat) : Block :=
  { b with out := fun n => if n < inNumSamples then 0 else b.out n }

/-! Each operation's calls: those of the block, then its own. -/

section Calls

variable (b : Block) (context : BelaContext) (frame : Nat) (channel : Int)

@[simp] theorem writeOut_calls (v : ℚ) : (b.writeOut frame v).calls = b.calls := rfl

theorem writeOut_out (v : ℚ) (n : Nat) :
    (b.writeOut frame v).out n = if n = frame then v else b.out n :=
  Function.update_apply _ _ _ _

@[simp] theorem clearUnitOutputs_calls : (b.clearUnitOutputs frame).calls = b.calls := rfl

@[simp] theorem analogReadNI_calls :
    (b.analogReadNI context frame channel).2.calls = b.calls ++ [.analogReadNI frame channel] :=
  rfl

@[simp] theorem analogWriteNI_calls (value : ℚ) :
    (b.analogWriteNI context frame channel value).calls =
      b.calls ++ [.analogWriteNI frame channel value] := rfl

@[simp] theorem analogWriteOnceNI_calls (value : ℚ) :
    (b.analogWriteOnceNI frame channel value).calls =
      b.calls ++ [.analogWriteOnceNI frame channel value] := rfl

@[simp] theorem multiplexerAnalogRead_calls (muxChannel : Int) :
    (b.multiplexerAnalogRead context channel muxChannel).2.calls =
      b.calls ++ [.multiplexerAnalogRead channel muxChannel] := rfl

@[simp] theorem pinMode_calls (mode : PinMode) :
    (b.pinMode context frame channel mode).calls = b.calls ++ [.pinMode frame channel mode] := rfl

@[simp] theorem pinModeOnce_calls (mode : PinMode) :
    (b.pinModeOnce frame channel mode).calls = b.calls ++ [.pinModeOnce frame channel mode] := rfl

@[simp] theorem digitalRead_calls :
    (b.digitalRead frame channel).2.calls = b.calls ++ [.digitalRead frame channel] := rfl

@[simp] theorem digitalWrite_calls (value : Int) :
    (b.digitalWrite context frame channel value).calls =
      b.calls ++ [.digitalWrite frame channel value] := rfl

@[simp] theorem digitalWriteOnce_calls (value : Int) :
    (b.digitalWriteOnce frame channel value).calls =
      b.calls ++ [.digitalWriteOnce frame channel value] := rfl

end Calls

end Block

/-- `for (unsigned int n = 0; n < count; n++) body`, threading the loop's state. -/
def forFrames {σ : Type} (count : Nat) (body : Nat → σ → σ) (init : σ) : σ :=
  (List.range count).foldl (fun state n => body n state) init

@[simp] theorem forFrames_zero {σ : Type} (body : Nat → σ → σ) (init : σ) :
    forFrames 0 body init = init := rfl

theorem forFrames_succ {σ : Type} (count : Nat) (body : Nat → σ → σ) (init : σ) :
    forFrames (count + 1) body init = body count (forFrames count body init) := by
  simp [forFrames, List.range_succ]

/-- Two loops agree when their bodies agree through a map of the state, at every frame. -/
theorem forFrames_map {σ τ : Type} (count : Nat) (body : Nat → σ → σ) (body' : Nat → τ → τ)
    (f : σ → τ) (commutes : ∀ n < count, ∀ s, f (body n s) = body' n (f s)) (init : σ) :
    f (forFrames count body init) = forFrames count body' (f init) := by
  induction count with
  | zero => rfl
  | succ k ih =>
    rw [forFrames_succ, forFrames_succ, commutes k (by omega),
      ih fun n below => commutes n (by omega)]

/-- The outputs after a loop that writes `v` at every frame. -/
theorem forFrames_writeOut_out (count : Nat) (v : ℚ) (b : Block) (n : Nat) :
    (forFrames count (fun n (b : Block) => b.writeOut n v) b).out n =
      if n < count then v else b.out n := by
  induction count with
  | zero => simp
  | succ k ih =>
    rw [forFrames_succ, Block.writeOut_out, ih]
    by_cases same : n = k
    · simp [same]
    · simp [same, show n < k + 1 ↔ n < k by omega]

/-! ## Calls in range -/

/-- The arguments of a call lie in the ranges the context gives, and its frame below
`frames`, the block's `inNumSamples`. -/
def BelaCall.InRange (context : BelaContext) (frames : Nat) : BelaCall → Prop
  | .analogReadNI f c => f < frames ∧ 0 ≤ c ∧ c < context.analogInChannels
  | .analogWriteNI f c _ => f < frames ∧ 0 ≤ c ∧ c < context.analogOutChannels
  | .analogWriteOnceNI f c _ => f < frames ∧ 0 ≤ c ∧ c < context.analogOutChannels
  | .multiplexerAnalogRead input mux => (0 ≤ input ∧ input < context.analogInChannels) ∧
      0 ≤ mux ∧ mux < context.multiplexerChannels
  | .pinMode f c _ => f < frames ∧ 0 ≤ c ∧ c < context.digitalChannels
  | .pinModeOnce f c _ => f < frames ∧ 0 ≤ c ∧ c < context.digitalChannels
  | .digitalRead f c => f < frames ∧ 0 ≤ c ∧ c < context.digitalChannels
  | .digitalWrite f c _ => f < frames ∧ 0 ≤ c ∧ c < context.digitalChannels
  | .digitalWriteOnce f c _ => f < frames ∧ 0 ≤ c ∧ c < context.digitalChannels

instance (context : BelaContext) (frames : Nat) (c : BelaCall) : Decidable (c.InRange context frames) := by
  cases c <;> unfold BelaCall.InRange <;> infer_instance

namespace Block

/-- `b'` is `b` after calls that all satisfy `P`. -/
def Adds (P : BelaCall → Prop) (b b' : Block) : Prop :=
  ∃ new, b'.calls = b.calls ++ new ∧ ∀ c ∈ new, P c

theorem Adds.refl {P : BelaCall → Prop} (b : Block) : Adds P b b := ⟨[], by simp, by simp⟩

theorem Adds.trans {P : BelaCall → Prop} {b₁ b₂ b₃ : Block} :
    Adds P b₁ b₂ → Adds P b₂ b₃ → Adds P b₁ b₃ := by
  rintro ⟨new₁, calls₁, ok₁⟩ ⟨new₂, calls₂, ok₂⟩
  exact ⟨new₁ ++ new₂, by simp [calls₂, calls₁], by simp only [List.mem_append]; tauto⟩

theorem Adds.mono {P Q : BelaCall → Prop} (weaker : ∀ c, P c → Q c) {b b' : Block} :
    Adds P b b' → Adds Q b b' := by
  rintro ⟨new, calls, ok⟩
  exact ⟨new, calls, fun c mem => weaker c (ok c mem)⟩

/-- A block that changed without calls. -/
theorem Adds.of_calls_eq {P : BelaCall → Prop} {b b' : Block} (same : b'.calls = b.calls) :
    Adds P b b' := ⟨[], by simp [same], by simp⟩

/-- One logged call, whatever else the call changed. -/
theorem Adds.log {P : BelaCall → Prop} {b b' : Block} {c : BelaCall}
    (logged : b'.calls = b.calls ++ [c]) (ok : P c) : Adds P b b' :=
  ⟨[c], logged, by simpa using ok⟩

/-- A call made before is still in the log after. -/
theorem Adds.mem {P : BelaCall → Prop} {b b' : Block} (adds : Adds P b b') {c : BelaCall}
    (made : c ∈ b.calls) : c ∈ b'.calls := by
  obtain ⟨new, calls, -⟩ := adds
  exact calls ▸ List.mem_append_left new made

end Block

/-- A loop whose every frame below `count` only makes calls satisfying `P` only makes such
calls. `block` reads the `Block` out of the loop's state. -/
theorem forFrames_adds {σ : Type} {P : BelaCall → Prop} (block : σ → Block) {count : Nat}
    {body : Nat → σ → σ} (frame : ∀ n < count, ∀ s, (block s).Adds P (block (body n s)))
    (init : σ) : (block init).Adds P (block (forFrames count body init)) := by
  induction count with
  | zero => exact .refl _
  | succ k ih =>
    rw [forFrames_succ]
    exact (ih fun n below => frame n (by omega)).trans (frame k (by omega) _)

end ScBela.Plugins
