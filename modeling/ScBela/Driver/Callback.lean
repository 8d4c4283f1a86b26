import ScBela.Plugins.Board

/-!
# The audio callback

`SC_BelaDriver::BelaAudioCallback` runs once per hardware period. It clears the board's
audio outputs, and then, for each SC buffer of the period, copies the board's inputs onto
the world's input buses and stamps them with the buffer counter, runs the engine (the
scheduled events and `World_Run`), and copies every output bus the engine stamped in this
buffer to a board output. The first `minInputs` input buses come from the audio inputs and
the next `anaInputs` from the analog inputs; the first `minOutputs` output buses go to the
audio outputs and the next `anaOutputs` to the analog outputs.

Board buffers are non-interleaved (channel `c`'s frame `f` is at `c * frames + f`), the
world's buses hold `mBufLength` samples each, output buses first. The callback's own reads
and writes are recorded as `Access`es. The engine's code is outside this repository: it is
any change of the buses that writes only output buses and their stamps (`Engine`). What
the callback does with the clock, the OSC time and the scope touches none of the buffers
modelled here and is left out. Counts are C's `int`s and `uint32`s read as naturals, and
the buffer counter as an integer: only its equality with the stamps is ever tested.

## Main definitions

* `BelaContext`, `World`, `State` — what the callback reads, and what it changes
* `minInputs`, `anaInputs`, `minOutputs`, `anaOutputs` — the routing counts
* `copyInputs`, `Engine`, `copyOutputs`, `buffer`, `belaAudioCallback` — the callback
* `Access.Allowed`, `routedInput` — the regions the design lets the callback touch, and the
  sample it routes to each input bus

## Main results

* `copyInputs_mAudioBus`, `copyOutputs_target` — the routing of one buffer
* `bela_audio_callback_routes` — one period of one buffer: every access in its region, and
  every bus and output channel holding what the routing says
-/

namespace ScBela.Driver

open ScBela.Plugins (forFrames forFrames_zero forFrames_succ)

/-! ## Loops -/

section Loops

variable {σ α : Type}

/-- A loop whose every step leaves some part of the state alone leaves it alone. -/
theorem forFrames_keep (get : σ → α) {count : Nat} {body : Nat → σ → σ}
    (keeps : ∀ j < count, ∀ x, get (body j x) = get x) (init : σ) :
    get (forFrames count body init) = get init := by
  induction count with
  | zero => rfl
  | succ k ih => rw [forFrames_succ, keeps k (by omega), ih fun j below => keeps j (by omega)]

/-- A loop whose step `j` sets element `base + j` of an array to `value j` sets
`[base, base + count)`. -/
theorem forFrames_set (get : σ → Nat → α) {count : Nat} {body : Nat → σ → σ} {init : σ}
    (base : Nat) (value : Nat → α)
    (sets : ∀ j < count, ∀ n, get (body j (forFrames j body init)) n =
      if n = base + j then value j else get (forFrames j body init) n) (n : Nat) :
    get (forFrames count body init) n =
      if base ≤ n ∧ n < base + count then value (n - base) else get init n := by
  induction count with
  | zero => rw [forFrames_zero, if_neg (by omega)]
  | succ k ih =>
    rw [forFrames_succ, sets k (by omega), ih fun j below => sets j (by omega)]
    by_cases now : n = base + k
    · simp [now]
    · simp only [now, if_false, show n < base + (k + 1) ↔ n < base + k by omega]

/-- A loop that moves a pointer on by one at every step: at step `j` it points at `p + j`. -/
theorem forFrames_walk (body : Nat → Nat → σ → σ) (count p : Nat) (init : σ) :
    forFrames count (fun j (state : Nat × σ) => (state.1 + 1, body j state.1 state.2)) (p, init) =
      (p + count, forFrames count (fun j => body j (p + j)) init) := by
  induction count with
  | zero => rfl
  | succ k ih => rw [forFrames_succ, forFrames_succ, ih]; rfl

end Loops

/-- A frame of one of the first `m` channels of `B` frames lies in the first `m * B`. -/
theorem mul_add_lt_mul {B i f m : Nat} (channel : i < m) (frame : f < B) : i * B + f < m * B :=
  calc i * B + f < i * B + B := by omega
    _ = (i + 1) * B := (Nat.succ_mul i B).symm
    _ ≤ m * B := Nat.mul_le_mul_right B channel

/-- Element `i * B + f` of a buffer of channels of `B` frames, with `f < B`, is in channel
`i` alone. -/
theorem mul_add_mem_channel {B i f k : Nat} (frame : f < B) :
    k * B ≤ i * B + f ∧ i * B + f < k * B + B ↔ k = i := by
  constructor
  · rintro ⟨above, below⟩
    rcases Nat.lt_trichotomy k i with before | same | after
    · have := mul_add_lt_mul before (show B - 1 < B by omega)
      omega
    · exact same
    · have := mul_add_lt_mul after frame
      omega
  · rintro rfl
    omega

/-! ## The callback's data -/

/-- The fields of Bela's `BelaContext` that the callback reads: the frame and channel
counts, and the input buffers, channel after channel. -/
structure BelaContext where
  audioFrames : Nat
  audioInChannels : Nat
  audioOutChannels : Nat
  analogFrames : Nat
  analogInChannels : Nat
  analogOutChannels : Nat
  audioIn : Nat → ℚ
  analogIn : Nat → ℚ

/-- The fields of scsynth's `World` that the callback reads and never writes: the numbers
of hardware input and output buses, and the length of an SC buffer. -/
structure World where
  mNumInputs : Nat
  mNumOutputs : Nat
  mBufLength : Nat

/-- The world's audio buses, `mBufLength` samples each with the output buses first, and the
buffer counter each bus was last written at (`mAudioBusTouched`). -/
structure Buses where
  mAudioBus : Nat → ℚ
  mAudioBusTouched : Nat → Int

/-- A buffer the callback copies samples from. -/
inductive Source
  | audioIn
  | analogIn
  | audioBus
  deriving DecidableEq, Repr

/-- A buffer the callback writes samples to. -/
inductive Target
  | audioOut
  | analogOut
  | audioBus
  deriving DecidableEq, Repr

/-- One element the callback reads or writes. -/
inductive Access
  | read (source : Source) (index : Nat)
  | write (target : Target) (index : Nat)
  | readTouched (index : Nat)
  | writeTouched (index : Nat)
  deriving DecidableEq, Repr

/-- What a callback changes: the buses, the world's buffer counter, the board's output
buffers, and the accesses it has made so far. -/
structure State where
  buses : Buses
  /-- The world's buffer counter. The callback copies it to an `int32 bufCounter` to stamp
  buses with; it is counted here without bound, which agrees with the source until the
  counter passes `2 ^ 31 - 1`, where the source's `++` overflows. -/
  mBufCounter : Int
  audioOut : Nat → ℚ
  analogOut : Nat → ℚ
  accesses : List Access

/-! ## Accesses in a region -/

/-- After `s`, the state `s'` made only accesses that satisfy `P`. -/
def State.Only (P : Access → Prop) (s s' : State) : Prop :=
  ∀ a ∈ s'.accesses, a ∈ s.accesses ∨ P a

namespace State.Only

variable {P Q : Access → Prop} {s s' s'' : State}

theorem refl (s : State) : s.Only P s := fun _ mem => .inl mem

theorem trans (first : s.Only P s') (second : s'.Only P s'') : s.Only P s'' := fun a mem =>
  (second a mem).elim (first a) .inr

theorem mono (only : s.Only P s') (weaker : ∀ a, P a → Q a) : s.Only Q s' := fun a mem =>
  (only a mem).imp id (weaker a)

theorem of_accesses (grown : ∃ new, s'.accesses = s.accesses ++ new ∧ ∀ a ∈ new, P a) :
    s.Only P s' := by
  obtain ⟨new, grown, ok⟩ := grown
  intro a mem
  rw [grown, List.mem_append] at mem
  exact mem.imp id (ok a)

end State.Only

/-- A loop whose every step makes only accesses of some kind makes only those. -/
theorem forFrames_only {σ : Type} {P : Access → Prop} (state : σ → State) {count : Nat}
    {body : Nat → σ → σ} (step : ∀ j < count, ∀ x, (state x).Only P (state (body j x)))
    (init : σ) : (state init).Only P (state (forFrames count body init)) := by
  induction count with
  | zero => exact .refl _
  | succ k ih =>
    rw [forFrames_succ]
    exact (ih fun j below => step j (by omega)).trans (step k (by omega) _)

/-! ## Routing counts -/

section Counts

variable (context : BelaContext) (world : World)

/-- `minInputs`: the input buses fed by audio inputs. -/
def minInputs : Nat := min context.audioInChannels world.mNumInputs

/-- `minOutputs`: the output buses sent to audio outputs. -/
def minOutputs : Nat := min context.audioOutChannels world.mNumOutputs

/-- `anaInputs`: the input buses after the audio ones that analog inputs feed. -/
def anaInputs : Nat :=
  if context.audioInChannels < world.mNumInputs then
    min context.analogInChannels (world.mNumInputs - context.audioInChannels)
  else 0

/-- `anaOutputs`: the output buses after the audio ones sent to analog outputs. -/
def anaOutputs : Nat :=
  if context.audioOutChannels < world.mNumOutputs then
    min context.analogOutChannels (world.mNumOutputs - context.audioOutChannels)
  else 0

theorem minInputs_add_anaInputs_le :
    minInputs context world + anaInputs context world ≤ world.mNumInputs := by
  unfold minInputs anaInputs; split <;> omega

theorem minOutputs_add_anaOutputs_le :
    minOutputs context world + anaOutputs context world ≤ world.mNumOutputs := by
  unfold minOutputs anaOutputs; split <;> omega

theorem anaInputs_le : anaInputs context world ≤ context.analogInChannels := by
  unfold anaInputs; split <;> omega

theorem anaOutputs_le : anaOutputs context world ≤ context.analogOutChannels := by
  unfold anaOutputs; split <;> omega

end Counts

/-! ## Elementary accesses -/

namespace State

/-- Record an access. -/
def log (s : State) (a : Access) : State := { s with accesses := s.accesses ++ [a] }

/-- The buffer a target names. -/
def target (s : State) : Target → Nat → ℚ
  | .audioOut => s.audioOut
  | .analogOut => s.analogOut
  | .audioBus => s.buses.mAudioBus

/-- The buffer a source names. -/
def load (context : BelaContext) (s : State) : Source → Nat → ℚ
  | .audioIn => context.audioIn
  | .analogIn => context.analogIn
  | .audioBus => s.buses.mAudioBus

/-- `target[i] = v`. -/
def store (s : State) (target : Target) (i : Nat) (v : ℚ) : State :=
  let s := s.log (.write target i)
  match target with
  | .audioOut => { s with audioOut := Function.update s.audioOut i v }
  | .analogOut => { s with analogOut := Function.update s.analogOut i v }
  | .audioBus => { s with buses := { s.buses with mAudioBus := Function.update s.buses.mAudioBus i v } }

/-- `*tch = bufCounter`. -/
def stamp (s : State) (tch : Nat) (bufCounter : Int) : State :=
  { s.log (.writeTouched tch) with
    buses := { s.buses with mAudioBusTouched := Function.update s.buses.mAudioBusTouched tch bufCounter } }

/-- `memcpy(target + dst, source + src, len)`, element by element. -/
def memcpy (context : BelaContext) (s : State) (target : Target) (dst : Nat) (source : Source)
    (src len : Nat) : State :=
  forFrames len (fun j s =>
    (s.log (.read source (src + j))).store target (dst + j) (s.load context source (src + j))) s

section Lemmas

variable (s : State) (context : BelaContext)

@[simp] theorem log_accesses (a : Access) : (s.log a).accesses = s.accesses ++ [a] := rfl
@[simp] theorem log_target (a : Access) : (s.log a).target = s.target := rfl
@[simp] theorem log_audioOut (a : Access) : (s.log a).audioOut = s.audioOut := rfl
@[simp] theorem log_analogOut (a : Access) : (s.log a).analogOut = s.analogOut := rfl
@[simp] theorem log_buses (a : Access) : (s.log a).buses = s.buses := rfl
@[simp] theorem log_mBufCounter (a : Access) : (s.log a).mBufCounter = s.mBufCounter := rfl
@[simp] theorem log_load (a : Access) : (s.log a).load context = s.load context := rfl

@[simp] theorem target_audioOut : s.target .audioOut = s.audioOut := rfl
@[simp] theorem target_analogOut : s.target .analogOut = s.analogOut := rfl
@[simp] theorem target_audioBus : s.target .audioBus = s.buses.mAudioBus := rfl

@[simp] theorem load_audioIn : s.load context .audioIn = context.audioIn := rfl
@[simp] theorem load_analogIn : s.load context .analogIn = context.analogIn := rfl
@[simp] theorem load_audioBus : s.load context .audioBus = s.buses.mAudioBus := rfl

@[simp] theorem store_accesses (target : Target) (i : Nat) (v : ℚ) :
    (s.store target i v).accesses = s.accesses ++ [.write target i] := by
  cases target <;> rfl

@[simp] theorem store_mBufCounter (target : Target) (i : Nat) (v : ℚ) :
    (s.store target i v).mBufCounter = s.mBufCounter := by
  cases target <;> rfl

@[simp] theorem store_mAudioBusTouched (target : Target) (i : Nat) (v : ℚ) :
    (s.store target i v).buses.mAudioBusTouched = s.buses.mAudioBusTouched := by
  cases target <;> rfl

theorem store_target (target : Target) (i : Nat) (v : ℚ) (t : Target) (n : Nat) :
    (s.store target i v).target t n = if t = target ∧ n = i then v else s.target t n := by
  cases target <;> cases t <;> simp [store, State.target, Function.update_apply]

/-- Writing a board output leaves the buses alone. -/
theorem store_buses {target : Target} (board : target ≠ .audioBus) (i : Nat) (v : ℚ) :
    (s.store target i v).buses = s.buses := by
  cases target <;> first | rfl | contradiction

@[simp] theorem stamp_accesses (tch : Nat) (c : Int) :
    (s.stamp tch c).accesses = s.accesses ++ [.writeTouched tch] := rfl
@[simp] theorem stamp_target (tch : Nat) (c : Int) : (s.stamp tch c).target = s.target := rfl
@[simp] theorem stamp_mAudioBus (tch : Nat) (c : Int) :
    (s.stamp tch c).buses.mAudioBus = s.buses.mAudioBus := rfl
@[simp] theorem stamp_mBufCounter (tch : Nat) (c : Int) :
    (s.stamp tch c).mBufCounter = s.mBufCounter := rfl

theorem stamp_mAudioBusTouched (tch : Nat) (c : Int) (n : Nat) :
    (s.stamp tch c).buses.mAudioBusTouched n = if n = tch then c else s.buses.mAudioBusTouched n :=
  Function.update_apply ..

end Lemmas

/-! ## `memcpy` -/

section Memcpy

variable (context : BelaContext) (s : State) (target : Target) (dst : Nat) (source : Source)
  (src len : Nat)

@[simp] theorem memcpy_mBufCounter :
    (s.memcpy context target dst source src len).mBufCounter = s.mBufCounter :=
  forFrames_keep mBufCounter (fun _ _ _ => by simp) s

@[simp] theorem memcpy_mAudioBusTouched :
    (s.memcpy context target dst source src len).buses.mAudioBusTouched =
      s.buses.mAudioBusTouched :=
  forFrames_keep (fun s => s.buses.mAudioBusTouched) (fun _ _ _ => by simp) s

/-- A `memcpy` to a board output leaves the buses alone. -/
theorem memcpy_buses {target : Target} (board : target ≠ .audioBus) :
    (s.memcpy context target dst source src len).buses = s.buses :=
  forFrames_keep buses (fun _ _ x => (x.log _).store_buses board _ _) s

/-- A `memcpy` leaves the other targets alone. -/
theorem memcpy_target_ne {t : Target} (other : t ≠ target) :
    (s.memcpy context target dst source src len).target t = s.target t :=
  forFrames_keep (fun x : State => x.target t)
    (fun _ _ x => funext fun n => by simp [store_target, other]) s

/-- A `memcpy` that does not copy the buses onto themselves sets `[dst, dst + len)` of its
target to `[src, src + len)` of its source. -/
theorem memcpy_target (apart : source = .audioBus → target ≠ .audioBus) (t : Target) (n : Nat) :
    (s.memcpy context target dst source src len).target t n =
      if t = target ∧ dst ≤ n ∧ n < dst + len then s.load context source (src + (n - dst))
      else s.target t n := by
  by_cases same : t = target
  · subst same
    have loads : ∀ j, (s.memcpy context t dst source src j).load context source =
        s.load context source := by
      intro j
      cases source with
      | audioBus => exact congrArg Buses.mAudioBus (memcpy_buses context s dst .audioBus src j (apart rfl))
      | _ => rfl
    simp only [true_and]
    refine forFrames_set (fun x : State => x.target t) dst (fun j => s.load context source (src + j))
      (fun j _ n => ?_) n
    have loaded := loads j
    unfold memcpy at loaded
    simp only [store_target, log_target, log_load, loaded, true_and]
  · simp only [same, false_and, if_false, memcpy_target_ne context s _ _ _ _ _ same]

/-- A `memcpy` from a board input sets `[dst, dst + len)` of the buses. -/
theorem memcpy_mAudioBus {source : Source} (board : source ≠ .audioBus) (n : Nat) :
    (s.memcpy context .audioBus dst source src len).buses.mAudioBus n =
      if dst ≤ n ∧ n < dst + len then s.load context source (src + (n - dst))
      else s.buses.mAudioBus n := by
  simpa using memcpy_target context s .audioBus dst source src len (absurd · board) .audioBus n

/-- A `memcpy` reads `[src, src + len)` of its source and writes `[dst, dst + len)` of its
target. -/
theorem memcpy_only :
    s.Only (fun a => (∃ j < len, a = .read source (src + j)) ∨
      ∃ j < len, a = .write target (dst + j)) (s.memcpy context target dst source src len) :=
  forFrames_only id (fun j below x => .of_accesses ⟨[.read source (src + j), .write target (dst + j)],
    by simp, by
    simp only [List.mem_cons, List.mem_singleton, List.not_mem_nil, or_false]
    rintro a (rfl | rfl)
    exacts [.inl ⟨j, below, rfl⟩, .inr ⟨j, below, rfl⟩]⟩) s

end Memcpy

/-! ## Stamps -/

section Stamps

variable (count p : Nat) (bufCounter : Int) (s : State)

@[simp] theorem forFrames_stamp_mAudioBus :
    (forFrames count (fun j s => s.stamp (p + j) bufCounter) s).buses.mAudioBus =
      s.buses.mAudioBus :=
  forFrames_keep (fun x : State => x.buses.mAudioBus) (fun _ _ _ => by rfl) s

@[simp] theorem forFrames_stamp_target :
    (forFrames count (fun j s => s.stamp (p + j) bufCounter) s).target = s.target :=
  forFrames_keep target (fun _ _ _ => by rfl) s

@[simp] theorem forFrames_stamp_mBufCounter :
    (forFrames count (fun j s => s.stamp (p + j) bufCounter) s).mBufCounter = s.mBufCounter :=
  forFrames_keep mBufCounter (fun _ _ _ => by rfl) s

/-- The stamps loop from `p` stamps `[p, p + count)`. -/
theorem forFrames_stamp_mAudioBusTouched (n : Nat) :
    (forFrames count (fun j s => s.stamp (p + j) bufCounter) s).buses.mAudioBusTouched n =
      if p ≤ n ∧ n < p + count then bufCounter else s.buses.mAudioBusTouched n :=
  forFrames_set (fun x : State => x.buses.mAudioBusTouched) p (fun _ => bufCounter)
    (fun _ _ n => stamp_mAudioBusTouched _ _ _ n) n

theorem forFrames_stamp_only :
    s.Only (fun a => ∃ j < count, a = .writeTouched (p + j))
      (forFrames count (fun j s => s.stamp (p + j) bufCounter) s) :=
  forFrames_only id (fun j below _ => .of_accesses ⟨[.writeTouched (p + j)], by rfl, by
    simp only [List.mem_singleton]
    rintro a rfl
    exact ⟨j, below, rfl⟩⟩) s

end Stamps

end State

/-! ## The regions the design allows -/

/-- The accesses the design lets a callback make: the first `minInputs` audio input
channels and the first `anaInputs` analog input channels, the output buses and their
stamps, the audio outputs, the first `anaOutputs` analog output channels, and the input
buses and their stamps. -/
def Access.Allowed (context : BelaContext) (world : World) : Access → Prop
  | .read .audioIn i => i < minInputs context world * world.mBufLength
  | .read .analogIn i => i < anaInputs context world * world.mBufLength
  | .read .audioBus i => i < world.mNumOutputs * world.mBufLength
  | .write .audioOut i => i < context.audioOutChannels * world.mBufLength
  | .write .analogOut i => i < anaOutputs context world * world.mBufLength
  | .write .audioBus i => world.mNumOutputs * world.mBufLength ≤ i ∧
      i < (world.mNumOutputs + world.mNumInputs) * world.mBufLength
  | .readTouched i => i < world.mNumOutputs
  | .writeTouched i => world.mNumOutputs ≤ i ∧ i < world.mNumOutputs + world.mNumInputs

/-! ## Inputs -/

/-- `*tch++ = bufCounter`. -/
def touch (bufCounter : Int) (state : Nat × State) : Nat × State :=
  (state.1 + 1, state.2.stamp state.1 bufCounter)

/-- Copy and stamp the inputs: audio input channels `[0, minInputs)` onto the first input
buses, then analog input channels `[0, anaInputs)` onto the next ones. -/
def copyInputs (context : BelaContext) (world : World) (bufCounter : Int) (s : State) : State :=
  let bufFrames := world.mBufLength
  let minInputs := minInputs context world
  let anaInputs := anaInputs context world
  let inBuses := world.mNumOutputs * bufFrames
  let s := s.memcpy context .audioBus inBuses .audioIn 0 (bufFrames * minInputs)
  let tch := forFrames minInputs (fun _ => touch bufCounter) (world.mNumOutputs, s)
  let s := tch.2.memcpy context .audioBus (inBuses + minInputs * bufFrames) .analogIn 0
    (bufFrames * anaInputs)
  (forFrames anaInputs (fun _ => touch bufCounter) (tch.1, s)).2

theorem forFrames_touch (bufCounter : Int) (count p : Nat) (s : State) :
    forFrames count (fun _ => touch bufCounter) (p, s) =
      (p + count, forFrames count (fun j s => s.stamp (p + j) bufCounter) s) :=
  forFrames_walk (fun _ tch (s : State) => s.stamp tch bufCounter) count p s

section CopyInputs

variable (context : BelaContext) (world : World) (bufCounter : Int) (s : State)

/-- `copyInputs` as its four loops, the stamp pointer walked through. -/
theorem copyInputs_eq :
    let bufFrames := world.mBufLength
    let inBuses := world.mNumOutputs * bufFrames
    copyInputs context world bufCounter s =
      forFrames (anaInputs context world)
        (fun j s => s.stamp (world.mNumOutputs + minInputs context world + j) bufCounter)
        ((forFrames (minInputs context world)
          (fun j s => s.stamp (world.mNumOutputs + j) bufCounter)
          (s.memcpy context .audioBus inBuses .audioIn 0 (bufFrames * minInputs context world))).memcpy
            context .audioBus (inBuses + minInputs context world * bufFrames) .analogIn 0
            (bufFrames * anaInputs context world)) := by
  simp only [copyInputs, forFrames_touch]

/-- Copying the inputs leaves the board's outputs alone. -/
theorem copyInputs_target {t : Target} (board : t ≠ .audioBus) :
    (copyInputs context world bufCounter s).target t = s.target t := by
  simp [copyInputs_eq, State.memcpy_target_ne, board]

@[simp] theorem copyInputs_mBufCounter :
    (copyInputs context world bufCounter s).mBufCounter = s.mBufCounter := by
  simp [copyInputs_eq]

/-- Copying the inputs sets the analog input buses, and under them the audio input buses. -/
theorem copyInputs_mAudioBus (n : Nat) :
    let inBuses := world.mNumOutputs * world.mBufLength
    let analogBuses := inBuses + minInputs context world * world.mBufLength
    (copyInputs context world bufCounter s).buses.mAudioBus n =
      if analogBuses ≤ n ∧ n < analogBuses + world.mBufLength * anaInputs context world then
        context.analogIn (n - analogBuses)
      else if inBuses ≤ n ∧ n < inBuses + world.mBufLength * minInputs context world then
        context.audioIn (n - inBuses)
      else s.buses.mAudioBus n := by
  simp [copyInputs_eq, State.memcpy_mAudioBus]

/-- Copying the inputs stamps every input bus it sets. -/
theorem copyInputs_mAudioBusTouched (n : Nat) :
    (copyInputs context world bufCounter s).buses.mAudioBusTouched n =
      if world.mNumOutputs ≤ n ∧ n < world.mNumOutputs + minInputs context world +
        anaInputs context world then bufCounter
      else s.buses.mAudioBusTouched n := by
  simp only [copyInputs_eq, State.forFrames_stamp_mAudioBusTouched, State.memcpy_mAudioBusTouched]
  split_ifs <;> first | rfl | omega

/-- Copying the inputs reads the first `minInputs` audio and `anaInputs` analog input
channels, and writes only input buses and their stamps. -/
theorem copyInputs_only :
    s.Only (Access.Allowed context world) (copyInputs context world bufCounter s) := by
  have inputs := minInputs_add_anaInputs_le context world
  have room : minInputs context world * world.mBufLength + anaInputs context world * world.mBufLength ≤
      world.mNumInputs * world.mBufLength := by
    rw [← Nat.add_mul]; exact Nat.mul_le_mul_right _ inputs
  have buses := Nat.add_mul world.mNumOutputs world.mNumInputs world.mBufLength
  have audio := Nat.mul_comm world.mBufLength (minInputs context world)
  have analog := Nat.mul_comm world.mBufLength (anaInputs context world)
  rw [copyInputs_eq]
  refine (((State.memcpy_only context _ _ _ _ _ _).mono ?audioCopy).trans
    ((State.forFrames_stamp_only _ _ _ _).mono ?audioStamps)).trans
    (((State.memcpy_only context _ _ _ _ _ _).mono ?analogCopy).trans
      ((State.forFrames_stamp_only _ _ _ _).mono ?analogStamps))
  case' audioCopy | analogCopy => rintro _ (⟨j, below, rfl⟩ | ⟨j, below, rfl⟩)
  case' audioStamps | analogStamps => rintro _ ⟨j, below, rfl⟩
  all_goals simp only [Access.Allowed]; omega

end CopyInputs

/-! ## Outputs -/

/-- `if (*tch++ == bufCounter) memcpy(target + channel * bufFrames, outBuses + k * bufFrames,
bufFrames)`, with `tch` at stamp `tch`. -/
def copyTouched (context : BelaContext) (world : World) (bufCounter : Int) (target : Target)
    (channel k tch : Nat) (s : State) : State :=
  let s := s.log (.readTouched tch)
  if s.buses.mAudioBusTouched tch = bufCounter then
    s.memcpy context target (channel * world.mBufLength) .audioBus (k * world.mBufLength)
      world.mBufLength
  else s

/-- Copy the output buses stamped in this buffer: buses `[0, minOutputs)` to the audio
outputs, then the next `anaOutputs` to the analog outputs, the stamp pointer `tch` walking
along from the first. -/
def copyOutputs (context : BelaContext) (world : World) (bufCounter : Int) (s : State) : State :=
  let minOutputs := minOutputs context world
  let tch := forFrames minOutputs (fun k state =>
    (state.1 + 1, copyTouched context world bufCounter .audioOut k k state.1 state.2)) (0, s)
  (forFrames (anaOutputs context world) (fun j state =>
    (state.1 + 1, copyTouched context world bufCounter .analogOut j (minOutputs + j) state.1
      state.2)) tch).2

section CopyOutputs

variable (context : BelaContext) (world : World) (bufCounter : Int)

/-- One output copy to a board output leaves the buses alone. -/
theorem copyTouched_buses {target : Target} (board : target ≠ .audioBus) (channel k tch : Nat)
    (s : State) : (copyTouched context world bufCounter target channel k tch s).buses = s.buses := by
  simp only [copyTouched, State.log_buses]
  split
  · exact State.memcpy_buses context _ _ _ _ _ board
  · rfl

@[simp] theorem copyTouched_mBufCounter (target : Target) (channel k tch : Nat) (s : State) :
    (copyTouched context world bufCounter target channel k tch s).mBufCounter = s.mBufCounter := by
  simp only [copyTouched, State.log_buses]; split <;> simp

theorem copyTouched_target_ne {target t : Target} (other : t ≠ target) (channel k tch : Nat)
    (s : State) :
    (copyTouched context world bufCounter target channel k tch s).target t = s.target t := by
  simp only [copyTouched, State.log_buses]
  split
  · simp [State.memcpy_target_ne _ _ _ _ _ _ _ other]
  · rfl

/-- One output copy sets channel `channel` of its target to bus `k` when stamp `tch` is this
buffer's. -/
theorem copyTouched_target {target : Target} (board : target ≠ .audioBus) (channel k tch : Nat)
    (s : State) {c f : Nat} (frame : f < world.mBufLength) :
    (copyTouched context world bufCounter target channel k tch s).target target
        (c * world.mBufLength + f) =
      if c = channel ∧ s.buses.mAudioBusTouched tch = bufCounter then
        s.buses.mAudioBus (k * world.mBufLength + f)
      else s.target target (c * world.mBufLength + f) := by
  simp only [copyTouched, State.log_buses]
  split_ifs with touched same same
  · rw [State.memcpy_target _ _ _ _ _ _ _ fun _ => board, if_pos ⟨rfl, (mul_add_mem_channel frame).mpr same.1.symm⟩]
    simp [same.1]
  · rw [State.memcpy_target _ _ _ _ _ _ _ fun _ => board, if_neg fun ⟨_, window⟩ =>
      same ⟨((mul_add_mem_channel frame).mp window).symm, touched⟩]
    rfl
  · exact absurd same.2 touched
  · rfl

/-- One output copy reads stamp `tch` and, when it is this buffer's, bus `k` and writes
channel `channel` of its target. -/
theorem copyTouched_only (target : Target) (channel k tch : Nat) (s : State) :
    s.Only (fun a => a = .readTouched tch ∨
      (∃ j < world.mBufLength, a = .read .audioBus (k * world.mBufLength + j)) ∨
      ∃ j < world.mBufLength, a = .write target (channel * world.mBufLength + j))
      (copyTouched context world bufCounter target channel k tch s) := by
  have read : s.Only (· = .readTouched tch) (s.log (.readTouched tch)) :=
    .of_accesses ⟨_, rfl, by simp⟩
  simp only [copyTouched, State.log_buses]
  split
  · exact (read.mono fun _ => .inl).trans ((State.memcpy_only context _ _ _ _ _ _).mono
      fun _ => .inr)
  · exact read.mono fun _ => .inl

section Loop

variable {target : Target} (board : target ≠ .audioBus) (busOf : Nat → Nat) (count : Nat)
  (s : State)
include board

/-- The output loop on one board target leaves the buses alone. -/
theorem forFrames_copyTouched_buses :
    (forFrames count (fun k => copyTouched context world bufCounter target k (busOf k) (busOf k))
      s).buses = s.buses :=
  forFrames_keep State.buses (fun _ _ x => copyTouched_buses context world bufCounter board _ _ _ x) s

/-- The output loop on one board target copies bus `busOf c` to channel `c` for each `c` it
runs over whose bus is stamped with this buffer. -/
theorem forFrames_copyTouched_target {c f : Nat} (frame : f < world.mBufLength) :
    (forFrames count (fun k => copyTouched context world bufCounter target k (busOf k) (busOf k))
        s).target target (c * world.mBufLength + f) =
      if c < count ∧ s.buses.mAudioBusTouched (busOf c) = bufCounter then
        s.buses.mAudioBus (busOf c * world.mBufLength + f)
      else s.target target (c * world.mBufLength + f) := by
  induction count with
  | zero => simp
  | succ k ih =>
    rw [forFrames_succ, copyTouched_target context world bufCounter board _ _ _ _ frame, ih,
      forFrames_copyTouched_buses context world bufCounter board]
    by_cases now : c = k
    · subst now; simp
    · simp [now, show c < k + 1 ↔ c < k by omega]

end Loop

/-- `copyOutputs` as its two loops, the stamp pointer walked through: at audio channel `k`
it is at stamp `k`, at analog channel `j` at stamp `minOutputs + j`. -/
theorem copyOutputs_eq (s : State) :
    copyOutputs context world bufCounter s =
      forFrames (anaOutputs context world) (fun j =>
          copyTouched context world bufCounter .analogOut j (minOutputs context world + j)
            (minOutputs context world + j))
        (forFrames (minOutputs context world) (fun k =>
          copyTouched context world bufCounter .audioOut k k k) s) := by
  simp only [copyOutputs]
  rw [forFrames_walk (fun k tch s => copyTouched context world bufCounter .audioOut k k tch s),
    forFrames_walk (fun j tch s => copyTouched context world bufCounter .analogOut j
      (minOutputs context world + j) tch s)]
  simp

/-- The output loop leaves the other targets alone. -/
theorem forFrames_copyTouched_target_ne {target t : Target} (other : t ≠ target)
    (busOf : Nat → Nat) (count : Nat) (s : State) :
    (forFrames count (fun k => copyTouched context world bufCounter target k (busOf k) (busOf k))
      s).target t = s.target t :=
  forFrames_keep (fun x : State => x.target t)
    (fun _ _ x => copyTouched_target_ne context world bufCounter other _ _ _ x) s

variable (s : State)

/-- Copying the outputs leaves the buses alone. -/
theorem copyOutputs_buses : (copyOutputs context world bufCounter s).buses = s.buses := by
  rw [copyOutputs_eq, forFrames_copyTouched_buses context world bufCounter (by decide)
      (fun j => minOutputs context world + j),
    forFrames_copyTouched_buses context world bufCounter (by decide) (fun k => k)]

@[simp] theorem copyOutputs_mBufCounter :
    (copyOutputs context world bufCounter s).mBufCounter = s.mBufCounter := by
  rw [copyOutputs_eq, forFrames_keep State.mBufCounter (fun _ _ _ => by simp),
    forFrames_keep State.mBufCounter (fun _ _ _ => by simp)]

/-- Copying the outputs sends each of the first `minOutputs` output buses stamped in this
buffer to its audio output channel. -/
theorem copyOutputs_audioOut {c f : Nat} (frame : f < world.mBufLength) :
    (copyOutputs context world bufCounter s).audioOut (c * world.mBufLength + f) =
      if c < minOutputs context world ∧ s.buses.mAudioBusTouched c = bufCounter then
        s.buses.mAudioBus (c * world.mBufLength + f)
      else s.audioOut (c * world.mBufLength + f) := by
  rw [copyOutputs_eq, ← State.target_audioOut,
    forFrames_copyTouched_target_ne context world bufCounter (by decide) _ _ _,
    forFrames_copyTouched_target context world bufCounter (by decide) (fun k => k) _ _ frame]
  rfl

/-- Copying the outputs sends each of the `anaOutputs` output buses after the audio ones
stamped in this buffer to its analog output channel. -/
theorem copyOutputs_analogOut {c f : Nat} (frame : f < world.mBufLength) :
    (copyOutputs context world bufCounter s).analogOut (c * world.mBufLength + f) =
      if c < anaOutputs context world ∧
          s.buses.mAudioBusTouched (minOutputs context world + c) = bufCounter then
        s.buses.mAudioBus ((minOutputs context world + c) * world.mBufLength + f)
      else s.analogOut (c * world.mBufLength + f) := by
  rw [copyOutputs_eq, ← State.target_analogOut,
    forFrames_copyTouched_target context world bufCounter (by decide) _ _ _ frame,
    forFrames_copyTouched_buses context world bufCounter (by decide) (fun k => k),
    forFrames_copyTouched_target_ne context world bufCounter (by decide) _ _ _]
  rfl

/-- Copying the outputs reads only output buses and their stamps, and writes only the
audio outputs and the first `anaOutputs` analog output channels. -/
theorem copyOutputs_only :
    s.Only (Access.Allowed context world) (copyOutputs context world bufCounter s) := by
  have outputs := minOutputs_add_anaOutputs_le context world
  have audio : minOutputs context world ≤ context.audioOutChannels := min_le_left _ _
  rw [copyOutputs_eq]
  refine (forFrames_only id (fun k below x => (copyTouched_only context world bufCounter
    .audioOut k k k x).mono ?audio) s).trans (forFrames_only id (fun j below x =>
      (copyTouched_only context world bufCounter .analogOut j _ _ x).mono ?analog) _)
  case audio =>
    rintro _ (rfl | ⟨i, frame, rfl⟩ | ⟨i, frame, rfl⟩) <;> simp only [Access.Allowed]
    exacts [by omega, mul_add_lt_mul (by omega) frame, mul_add_lt_mul (by omega) frame]
  case analog =>
    rintro _ (rfl | ⟨i, frame, rfl⟩ | ⟨i, frame, rfl⟩) <;> simp only [Access.Allowed]
    exacts [by omega, mul_add_lt_mul (by omega) frame, mul_add_lt_mul below frame]

end CopyOutputs

/-! ## One buffer, one period -/

/-- `for (i < audioFrames * audioOutChannels) audioOut[i] = 0`: clear what the last period
left in the audio outputs. -/
def clearAudioOut (context : BelaContext) (s : State) : State :=
  forFrames (context.audioFrames * context.audioOutChannels) (fun i s => s.store .audioOut i 0) s

section Clear

variable (context : BelaContext) (s : State)

theorem clearAudioOut_audioOut (n : Nat) :
    (clearAudioOut context s).audioOut n =
      if n < context.audioFrames * context.audioOutChannels then 0 else s.audioOut n := by
  have cleared : (clearAudioOut context s).target .audioOut n = _ :=
    forFrames_set (fun x : State => x.target .audioOut) 0 (fun _ => 0)
      (fun j _ n => by simp [State.store_target]) n
  simpa using cleared

@[simp] theorem clearAudioOut_buses : (clearAudioOut context s).buses = s.buses :=
  forFrames_keep State.buses (fun _ _ x => x.store_buses (by decide) _ _) s

@[simp] theorem clearAudioOut_mBufCounter : (clearAudioOut context s).mBufCounter = s.mBufCounter :=
  forFrames_keep State.mBufCounter (fun _ _ _ => by simp) s

@[simp] theorem clearAudioOut_analogOut : (clearAudioOut context s).analogOut = s.analogOut :=
  forFrames_keep (fun x : State => x.target .analogOut)
    (fun _ _ x => funext fun n => by simp [State.store_target]) s

theorem clearAudioOut_only :
    s.Only (fun a => ∃ i < context.audioFrames * context.audioOutChannels, a = .write .audioOut i)
      (clearAudioOut context s) :=
  forFrames_only id (fun i below _ => .of_accesses ⟨[.write .audioOut i], by simp, by
    simp only [List.mem_singleton]
    rintro a rfl
    exact ⟨i, below, rfl⟩⟩) s

end Clear

/-- The scheduled events and `World_Run` of one buffer, whose code is outside this
repository, as the callback sees them: any change of the buses, given the buffer counter,
that writes only output buses and their stamps. -/
structure Engine (world : World) where
  run : Int → Buses → Buses
  keepsInputs : ∀ bufCounter buses n, world.mNumOutputs * world.mBufLength ≤ n →
    (run bufCounter buses).mAudioBus n = buses.mAudioBus n
  keepsInputStamps : ∀ bufCounter buses n, world.mNumOutputs ≤ n →
    (run bufCounter buses).mAudioBusTouched n = buses.mAudioBusTouched n

/-- One pass of the main loop: copy and stamp the inputs, run the engine, copy the stamped
outputs, and count the buffer. -/
def buffer (context : BelaContext) (world : World) (engine : Engine world) (s : State) : State :=
  let bufCounter := s.mBufCounter
  let s := copyInputs context world bufCounter s
  let s := { s with buses := engine.run bufCounter s.buses }
  let s := copyOutputs context world bufCounter s
  { s with mBufCounter := s.mBufCounter + 1 }

/-- `BelaAudioCallback` on a period of `numSamples` frames (`NumSamplesPerCallback()`): clear
the audio outputs, then run `numSamples / mBufLength` buffers. -/
def belaAudioCallback (context : BelaContext) (world : World) (engine : Engine world)
    (numSamples : Nat) (s : State) : State :=
  let numBufs := numSamples / world.mBufLength
  forFrames numBufs (fun _ => buffer context world engine) (clearAudioOut context s)

/-- The sample the design routes to frame `f` of input bus `i`: frame `f` of audio input
channel `i` for the first `minInputs` buses, and of analog input channel `i - minInputs` for
the next `anaInputs`. -/
def routedInput (context : BelaContext) (world : World) (i f : Nat) : ℚ :=
  if i < minInputs context world then context.audioIn (i * context.audioFrames + f)
  else context.analogIn ((i - minInputs context world) * context.analogFrames + f)

/-- Frame `f` of input bus `i` after the inputs are copied, when the board's channels are
buffers of `mBufLength` frames. -/
theorem copyInputs_inputBus (context : BelaContext) (world : World) (bufCounter : Int)
    (s : State) {i f : Nat} (routed : i < minInputs context world + anaInputs context world)
    (frame : f < world.mBufLength) (audioFrames : context.audioFrames = world.mBufLength)
    (analogFrames : context.analogFrames = world.mBufLength) :
    (copyInputs context world bufCounter s).buses.mAudioBus
      ((world.mNumOutputs + i) * world.mBufLength + f) = routedInput context world i f := by
  have position := Nat.add_mul world.mNumOutputs i world.mBufLength
  have audio := Nat.mul_comm world.mBufLength (minInputs context world)
  have analog := Nat.mul_comm world.mBufLength (anaInputs context world)
  have below := mul_add_lt_mul routed frame
  rw [Nat.add_mul] at below
  rw [copyInputs_mAudioBus, routedInput, audioFrames, analogFrames]
  by_cases audioBus : i < minInputs context world
  · have inAudio := mul_add_lt_mul audioBus frame
    rw [if_neg (by omega), if_pos (by omega), if_pos audioBus]
    congr 1; omega
  · have above := Nat.mul_le_mul_right world.mBufLength (Nat.le_of_not_lt audioBus)
    have shifted := Nat.sub_mul i (minInputs context world) world.mBufLength
    rw [if_pos (by omega), if_neg audioBus]
    congr 1; omega

section Buffer

variable (context : BelaContext) (world : World) (engine : Engine world) (s : State)

/-- After a buffer, the buses are what the engine made of them once the inputs were copied. -/
theorem buffer_buses :
    (buffer context world engine s).buses =
      engine.run s.mBufCounter (copyInputs context world s.mBufCounter s).buses :=
  copyOutputs_buses ..

@[simp] theorem buffer_mBufCounter :
    (buffer context world engine s).mBufCounter = s.mBufCounter + 1 := by
  simp [buffer]

/-- A buffer makes only the accesses the design allows. -/
theorem buffer_only : s.Only (Access.Allowed context world) (buffer context world engine s) :=
  (copyInputs_only context world s.mBufCounter s).trans
    (copyOutputs_only context world s.mBufCounter _)

/-- After a buffer, each input bus the routing feeds holds its board input and this
buffer's stamp. -/
theorem buffer_inputBus {i f : Nat} (routed : i < minInputs context world + anaInputs context world)
    (frame : f < world.mBufLength) (audioFrames : context.audioFrames = world.mBufLength)
    (analogFrames : context.analogFrames = world.mBufLength) :
    (buffer context world engine s).buses.mAudioBus
        ((world.mNumOutputs + i) * world.mBufLength + f) = routedInput context world i f ∧
      (buffer context world engine s).buses.mAudioBusTouched (world.mNumOutputs + i) =
        s.mBufCounter := by
  rw [buffer_buses, engine.keepsInputs _ _ _ (by rw [Nat.add_mul]; omega),
    engine.keepsInputStamps _ _ _ (by omega), copyInputs_mAudioBusTouched, if_pos (by omega)]
  exact ⟨copyInputs_inputBus context world _ s routed frame audioFrames analogFrames, rfl⟩

/-- After a buffer, each of the first `minOutputs` audio output channels holds its output
bus if the bus is stamped with this buffer, and is left as it was otherwise. -/
theorem buffer_audioOut {c f : Nat} (frame : f < world.mBufLength) :
    (buffer context world engine s).audioOut (c * world.mBufLength + f) =
      if c < minOutputs context world ∧
          (buffer context world engine s).buses.mAudioBusTouched c = s.mBufCounter then
        (buffer context world engine s).buses.mAudioBus (c * world.mBufLength + f)
      else s.audioOut (c * world.mBufLength + f) := by
  rw [buffer_buses]
  simp only [buffer]
  rw [copyOutputs_audioOut context world _ _ frame]
  simp [← State.target_audioOut, copyInputs_target]

/-- After a buffer, each of the first `anaOutputs` analog output channels holds its output
bus if the bus is stamped with this buffer, and is left as it was otherwise. -/
theorem buffer_analogOut {c f : Nat} (frame : f < world.mBufLength) :
    (buffer context world engine s).analogOut (c * world.mBufLength + f) =
      if c < anaOutputs context world ∧
          (buffer context world engine s).buses.mAudioBusTouched
            (minOutputs context world + c) = s.mBufCounter then
        (buffer context world engine s).buses.mAudioBus
          ((minOutputs context world + c) * world.mBufLength + f)
      else s.analogOut (c * world.mBufLength + f) := by
  rw [buffer_buses]
  simp only [buffer]
  rw [copyOutputs_analogOut context world _ _ frame]
  simp [← State.target_analogOut, copyInputs_target]

end Buffer

/-- A period one SC buffer long is one buffer after the audio outputs are cleared. -/
theorem belaAudioCallback_eq (context : BelaContext) (world : World) (engine : Engine world)
    (s : State) (positive : 0 < world.mBufLength) :
    belaAudioCallback context world engine world.mBufLength s =
      buffer context world engine (clearAudioOut context s) := by
  simp [belaAudioCallback, Nat.div_self positive, forFrames_succ]

/-- A callback on a period of one SC buffer, with the board's audio buffers that long, makes
only the accesses the design allows. -/
theorem belaAudioCallback_only (context : BelaContext) (world : World) (engine : Engine world)
    (s : State) (positive : 0 < world.mBufLength)
    (audioFrames : context.audioFrames = world.mBufLength) :
    s.Only (Access.Allowed context world)
      (belaAudioCallback context world engine world.mBufLength s) := by
  have cleared : ∀ a : Access, (∃ i < context.audioFrames * context.audioOutChannels,
      a = .write .audioOut i) → a.Allowed context world := by
    rintro _ ⟨i, below, rfl⟩
    simp only [Access.Allowed]
    rwa [audioFrames, Nat.mul_comm] at below
  rw [belaAudioCallback_eq context world engine s positive]
  exact ((clearAudioOut_only context s).mono cleared).trans (buffer_only context world engine _)

/-- One callback on a period of one SC buffer of `B` frames, with the board's buffers `B`
frames long too, as `DriverSetup` sets the board up: every access it makes is in a region
the design allows; every input bus the routing feeds holds its board input and the buffer
counter's stamp; every audio output channel holds its output bus if the bus was stamped in
this buffer and is silent otherwise; every analog output channel the routing feeds holds its
bus if stamped and keeps its last value otherwise; and the buffer counter moves on by one. -/
theorem bela_audio_callback_routes (context : BelaContext) (world : World) (engine : Engine world)
    {B : Nat} (positive : 0 < B) (audioFrames : context.audioFrames = B)
    (analogFrames : context.analogFrames = B) (bufLength : world.mBufLength = B) (s : State) :
    let s' := belaAudioCallback context world engine B s
    (∀ a ∈ s'.accesses, a ∈ s.accesses ∨ a.Allowed context world) ∧
    (∀ i < minInputs context world + anaInputs context world, ∀ f < B,
      s'.buses.mAudioBus ((world.mNumOutputs + i) * B + f) = routedInput context world i f ∧
      s'.buses.mAudioBusTouched (world.mNumOutputs + i) = s.mBufCounter) ∧
    (∀ c < context.audioOutChannels, ∀ f < B, s'.audioOut (c * B + f) =
      if c < minOutputs context world ∧ s'.buses.mAudioBusTouched c = s.mBufCounter then
        s'.buses.mAudioBus (c * B + f)
      else 0) ∧
    (∀ c < anaOutputs context world, ∀ f < B, s'.analogOut (c * B + f) =
      if s'.buses.mAudioBusTouched (minOutputs context world + c) = s.mBufCounter then
        s'.buses.mAudioBus ((minOutputs context world + c) * B + f)
      else s.analogOut (c * B + f)) ∧
    s'.mBufCounter = s.mBufCounter + 1 := by
  subst bufLength
  intro s'
  have one : s' = buffer context world engine (clearAudioOut context s) :=
    belaAudioCallback_eq context world engine s positive
  have counter := clearAudioOut_mBufCounter context s
  refine ⟨belaAudioCallback_only context world engine s positive audioFrames, ?_⟩
  rw [one]
  refine ⟨fun i routed f frame => ?_, fun c channel f frame => ?_, fun c channel f frame => ?_, by simp⟩
  · rw [← counter]
    exact buffer_inputBus context world engine _ routed frame audioFrames analogFrames
  · have silent : c * world.mBufLength + f < context.audioFrames * context.audioOutChannels := by
      rw [audioFrames, Nat.mul_comm world.mBufLength]; exact mul_add_lt_mul channel frame
    rw [buffer_audioOut context world engine _ frame, counter, clearAudioOut_audioOut,
      if_pos silent]
  · rw [buffer_analogOut context world engine _ frame, counter, clearAudioOut_analogOut]
    simp only [channel, true_and]

/-- Each access inside its buffer: the board's buffers hold `frames * channels` samples,
the buses `mBufLength` samples for each output and input bus, and the stamps one for each. -/
def Access.InBuffer (context : BelaContext) (world : World) : Access → Prop
  | .read .audioIn i => i < context.audioFrames * context.audioInChannels
  | .read .analogIn i => i < context.analogFrames * context.analogInChannels
  | .read .audioBus i => i < (world.mNumOutputs + world.mNumInputs) * world.mBufLength
  | .write .audioOut i => i < context.audioFrames * context.audioOutChannels
  | .write .analogOut i => i < context.analogFrames * context.analogOutChannels
  | .write .audioBus i => i < (world.mNumOutputs + world.mNumInputs) * world.mBufLength
  | .readTouched i => i < world.mNumOutputs + world.mNumInputs
  | .writeTouched i => i < world.mNumOutputs + world.mNumInputs

/-- The regions the design allows lie inside their buffers, when the board's buffers are
`mBufLength` frames long. -/
theorem Access.Allowed.inBuffer {context : BelaContext} {world : World}
    (audioFrames : context.audioFrames = world.mBufLength)
    (analogFrames : context.analogFrames = world.mBufLength) {a : Access}
    (allowed : a.Allowed context world) : a.InBuffer context world := by
  have scale : ∀ {m n : Nat}, m ≤ n → m * world.mBufLength ≤ n * world.mBufLength :=
    (Nat.mul_le_mul_right _ ·)
  have audioIn := scale (min_le_left context.audioInChannels world.mNumInputs)
  have analogIn := scale (anaInputs_le context world)
  have analogOut := scale (anaOutputs_le context world)
  have buses := Nat.add_mul world.mNumOutputs world.mNumInputs world.mBufLength
  rcases a with ⟨_ | _ | _, i⟩ | ⟨_ | _ | _, i⟩ | i | i <;>
    simp only [Access.Allowed, Access.InBuffer, minInputs, audioFrames, analogFrames] at allowed ⊢ <;>
    first | omega | (rw [Nat.mul_comm]; omega)

/-- A callback on a period of one SC buffer, the board's buffers that long, accesses every
buffer within its bounds. -/
theorem bela_audio_callback_in_bounds (context : BelaContext) (world : World)
    (engine : Engine world) (positive : 0 < world.mBufLength)
    (audioFrames : context.audioFrames = world.mBufLength)
    (analogFrames : context.analogFrames = world.mBufLength) (s : State) :
    ∀ a ∈ (belaAudioCallback context world engine world.mBufLength s).accesses,
      a ∈ s.accesses ∨ a.InBuffer context world := fun a mem =>
  (belaAudioCallback_only context world engine s positive audioFrames a mem).imp id
    (Access.Allowed.inBuffer audioFrames analogFrames)

/-- The Bela board's two audio channels and eight analog channels, sixteen frames each, with
silent inputs. -/
def belaBoard : BelaContext :=
  ⟨16, 2, 2, 16, 8, 8, fun _ => 0, fun _ => 0⟩

/-- A world with four hardware input and output buses and SC buffers of sixteen frames. -/
def fourBusWorld : World :=
  ⟨4, 4, 16⟩

/-- An engine that writes nothing. -/
def idleEngine (world : World) : Engine world :=
  ⟨fun _ buses => buses, fun _ _ _ _ => rfl, fun _ _ _ _ => rfl⟩

/-- A state with silent buses and outputs and no accesses made. -/
def silentState : State :=
  ⟨⟨fun _ => 0, fun _ => 0⟩, 0, fun _ => 0, fun _ => 0, []⟩

theorem four_bus_callback_routes :
    0 < 16 ∧ belaBoard.audioFrames = 16 ∧ belaBoard.analogFrames = 16 ∧
    fourBusWorld.mBufLength = 16 ∧
    let s' := belaAudioCallback belaBoard fourBusWorld (idleEngine _) 16 silentState
    (∀ a ∈ s'.accesses, a ∈ silentState.accesses ∨ a.Allowed belaBoard fourBusWorld) ∧
    (∀ i < minInputs belaBoard fourBusWorld + anaInputs belaBoard fourBusWorld, ∀ f < 16,
      s'.buses.mAudioBus ((fourBusWorld.mNumOutputs + i) * 16 + f) =
        routedInput belaBoard fourBusWorld i f ∧
      s'.buses.mAudioBusTouched (fourBusWorld.mNumOutputs + i) = silentState.mBufCounter) ∧
    (∀ c < belaBoard.audioOutChannels, ∀ f < 16, s'.audioOut (c * 16 + f) =
      if c < minOutputs belaBoard fourBusWorld ∧
          s'.buses.mAudioBusTouched c = silentState.mBufCounter then
        s'.buses.mAudioBus (c * 16 + f)
      else 0) ∧
    (∀ c < anaOutputs belaBoard fourBusWorld, ∀ f < 16, s'.analogOut (c * 16 + f) =
      if s'.buses.mAudioBusTouched (minOutputs belaBoard fourBusWorld + c) =
          silentState.mBufCounter then
        s'.buses.mAudioBus ((minOutputs belaBoard fourBusWorld + c) * 16 + f)
      else silentState.analogOut (c * 16 + f)) ∧
    s'.mBufCounter = silentState.mBufCounter + 1 :=
  ⟨by decide, rfl, rfl, rfl,
    bela_audio_callback_routes belaBoard fourBusWorld (idleEngine _) (by decide) rfl rfl rfl silentState⟩

theorem four_bus_callback_in_bounds :
    0 < fourBusWorld.mBufLength ∧ belaBoard.audioFrames = fourBusWorld.mBufLength ∧
    belaBoard.analogFrames = fourBusWorld.mBufLength ∧
    ∀ a ∈ (belaAudioCallback belaBoard fourBusWorld (idleEngine _) fourBusWorld.mBufLength
        silentState).accesses, a ∈ silentState.accesses ∨ a.InBuffer belaBoard fourBusWorld :=
  ⟨by decide, rfl, rfl,
    bela_audio_callback_in_bounds belaBoard fourBusWorld (idleEngine _) (by decide) rfl rfl _⟩

end ScBela.Driver
