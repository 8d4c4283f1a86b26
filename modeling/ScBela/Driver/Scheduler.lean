import ScBela.Driver.Callback
import Mathlib.Data.List.Sort

/-!
# The scheduled events of the callback

In each buffer of `BelaAudioCallback`, between the input copies and `World_Run`, the
engine performs every scheduled event due by the buffer's end:

    while ((schedTime = mScheduler.NextTime()) <= nextTime) { ...; event.Perform(); }

with the world's `mSampleOffset` set to the event's place in the buffer, rounded to the
nearest sample and held inside the buffer, and `mSubsampleOffset` to the rest. The OSC time
of a buffer's start moves on by `oscInc` (`mOSCincrement`) at every buffer.

The queue `mScheduler` is SuperCollider's `PriorityQueueT`, outside this repository: its
`Remove` gives the earliest event. It is modelled by its events in that order, a list
sorted by time. What performing an event does to the buses is the engine's business, as in
`ScBela.Driver.Callback`; here a buffer's events are the ones it performs, at the offsets
it performs them at.

## Main definitions

* `Event`, `Performed` — a scheduled event, and one performed at its offsets
* `diffTime`, `sampleOffset`, `subsampleOffset` — an event's place in its buffer
* `performDue` — the `while` loop of one buffer
* `scheduleBuffers` — what the buffers of one callback perform
* `addEvent`, `runScheduler` — `PriorityQueueT::Add`, and the scheduler over a run of
  callbacks

## Main results

* `scheduled_events_partitioned` — the buffers of a callback perform the queue's events
  due by their ends, each in the buffer it falls due in, at an offset inside it, and leave
  the rest, in order, with nothing lost, repeated or reordered
* `scheduler_loses_no_event` — over every run of callbacks, whatever events they add and
  however the host clock moves, no event is lost, performed twice or made up
-/

namespace ScBela.Driver

open ScBela.Plugins (forFrames forFrames_succ)

variable {α : Type}

/-- A scheduled event (`SC_ScheduledEvent`): its OSC time (`mTime`) and what it carries. -/
structure Event (α : Type) where
  time : Int
  packet : α

/-- An event as `Perform` sees it: with the world's `mSampleOffset` and
`mSubsampleOffset` set for it. -/
structure Performed (α : Type) where
  event : Event α
  mSampleOffset : Int
  mSubsampleOffset : ℚ

/-- `(float)(schedTime - oscTime) * oscToSamples + 0.5`: the event's place in the buffer
that starts at `oscTime`, in samples, plus half a sample. -/
def diffTime (oscToSamples : ℚ) (oscTime schedTime : Int) : ℚ :=
  (schedTime - oscTime) * oscToSamples + 1 / 2

/-- `mSampleOffset`: `(int)floor(diffTime)`, raised to `0` and lowered to `mBufLength - 1`. -/
def sampleOffset (mBufLength : Nat) (diffTime : ℚ) : Int :=
  let offset := ⌊diffTime⌋
  if offset < 0 then 0 else if offset ≥ mBufLength then mBufLength - 1 else offset

/-- `mSubsampleOffset = diffTime - diffTimeFloor`. -/
def subsampleOffset (diffTime : ℚ) : ℚ := diffTime - ⌊diffTime⌋

/-- The `while` loop of one buffer on the queue's events, earliest first: while the next
event is due by `nextTime`, set the offsets, `Remove` it and `Perform` it. The events
performed, in order, and the queue left. -/
def performDue (oscToSamples : ℚ) (mBufLength : Nat) (oscTime nextTime : Int) :
    List (Event α) → List (Performed α) × List (Event α)
  | [] => ([], [])
  | event :: queue =>
    if event.time ≤ nextTime then
      let diff := diffTime oscToSamples oscTime event.time
      let rest := performDue oscToSamples mBufLength oscTime nextTime queue
      (⟨event, sampleOffset mBufLength diff, subsampleOffset diff⟩ :: rest.1, rest.2)
    else ([], event :: queue)

/-- The scheduling part of `numBufs` buffers of the main loop, from the OSC time `oscTime`:
each buffer performs what is due by `nextTime = oscTime + oscInc`, then
`mOSCbuftime = oscTime = nextTime`. What each buffer performed, the queue left, and the
OSC time reached. -/
def scheduleBuffers (oscToSamples : ℚ) (mBufLength : Nat) (oscInc : Int) (numBufs : Nat)
    (oscTime : Int) (queue : List (Event α)) : List (List (Performed α)) × List (Event α) × Int :=
  forFrames numBufs (fun _ state =>
      let nextTime := state.2.2 + oscInc
      let due := performDue oscToSamples mBufLength state.2.2 nextTime state.2.1
      (state.1 ++ [due.1], due.2, nextTime))
    ([], queue, oscTime)

/-! ## One buffer's loop -/

section PerformDue

variable (oscToSamples : ℚ) (mBufLength : Nat) (oscTime nextTime : Int)

/-- The loop takes a prefix of the queue and leaves the rest. -/
theorem performDue_append (queue : List (Event α)) :
    (performDue oscToSamples mBufLength oscTime nextTime queue).1.map (·.event) ++
      (performDue oscToSamples mBufLength oscTime nextTime queue).2 = queue := by
  induction queue with
  | nil => rfl
  | cons event queue ih =>
    simp only [performDue]
    split_ifs
    · simpa using ih
    · rfl

/-- Every event the loop performs is due by `nextTime`, at the offsets of its time. -/
theorem performDue_due {queue : List (Event α)} {p : Performed α}
    (performed : p ∈ (performDue oscToSamples mBufLength oscTime nextTime queue).1) :
    p.event.time ≤ nextTime ∧
      p.mSampleOffset = sampleOffset mBufLength (diffTime oscToSamples oscTime p.event.time) ∧
      p.mSubsampleOffset = subsampleOffset (diffTime oscToSamples oscTime p.event.time) := by
  induction queue with
  | nil => simp [performDue] at performed
  | cons event queue ih =>
    simp only [performDue] at performed
    split_ifs at performed with due
    · rcases List.mem_cons.mp performed with rfl | later
      · exact ⟨due, rfl, rfl⟩
      · exact ih later
    · simp at performed

/-- On a queue sorted by time, every event the loop leaves is after `nextTime`. -/
theorem performDue_later {queue : List (Event α)} (sorted : queue.Sorted (·.time ≤ ·.time))
    {event : Event α} (left : event ∈ (performDue oscToSamples mBufLength oscTime nextTime queue).2) :
    nextTime < event.time := by
  induction queue with
  | nil => simp [performDue] at left
  | cons first queue ih =>
    obtain ⟨atLeast, sorted⟩ := List.sorted_cons.mp sorted
    simp only [performDue] at left
    split_ifs at left with due
    · exact ih sorted left
    · rcases List.mem_cons.mp left with rfl | later
      · exact lt_of_not_le due
      · exact lt_of_lt_of_le (lt_of_not_le due) (atLeast event later)

end PerformDue

/-- `mSampleOffset` is a sample of the buffer. -/
theorem sampleOffset_mem {mBufLength : Nat} (positive : 0 < mBufLength) (diff : ℚ) :
    0 ≤ sampleOffset mBufLength diff ∧ sampleOffset mBufLength diff < mBufLength := by
  simp only [sampleOffset]
  split_ifs <;> omega

/-- An event already late when its buffer starts is performed at its first sample. -/
theorem sampleOffset_late {mBufLength : Nat} (positive : 0 < mBufLength) {oscToSamples : ℚ}
    (nonneg : 0 ≤ oscToSamples) {oscTime schedTime : Int} (late : schedTime ≤ oscTime) :
    sampleOffset mBufLength (diffTime oscToSamples oscTime schedTime) = 0 := by
  have before : ((schedTime : ℚ) - oscTime) * oscToSamples ≤ 0 :=
    mul_nonpos_of_nonpos_of_nonneg (sub_nonpos.mpr (by exact_mod_cast late)) nonneg
  have atMost : ⌊diffTime oscToSamples oscTime schedTime⌋ ≤ 0 := by
    rw [Int.floor_le_iff, diffTime]
    push_cast
    linarith
  simp only [sampleOffset]
  split_ifs <;> omega

/-- `mSubsampleOffset` is a fraction of a sample. -/
theorem subsampleOffset_mem (diff : ℚ) : 0 ≤ subsampleOffset diff ∧ subsampleOffset diff < 1 :=
  ⟨Int.fract_nonneg diff, Int.fract_lt_one diff⟩

/-! ## The buffers of one callback -/

section Buffers

variable (oscToSamples : ℚ) (mBufLength : Nat) (oscInc oscTime : Int) (queue : List (Event α))

theorem scheduleBuffers_succ (numBufs : Nat) :
    scheduleBuffers oscToSamples mBufLength oscInc (numBufs + 1) oscTime queue =
      let state := scheduleBuffers oscToSamples mBufLength oscInc numBufs oscTime queue
      let due := performDue oscToSamples mBufLength state.2.2 (state.2.2 + oscInc) state.2.1
      (state.1 ++ [due.1], due.2, state.2.2 + oscInc) :=
  forFrames_succ ..

theorem scheduleBuffers_length (numBufs : Nat) :
    (scheduleBuffers oscToSamples mBufLength oscInc numBufs oscTime queue).1.length = numBufs := by
  induction numBufs with
  | zero => rfl
  | succ k ih => simp [scheduleBuffers_succ, ih]

/-- What holds of the scheduling after `k` buffers: the OSC time has moved on `k` times;
what was performed, then the queue left, is the queue at the start; buffer `i` performed
events due by its end and not by the end before, at the offsets of its start; and the
queue left is after the end of the last buffer. -/
structure ScheduleInv (k : Nat) (state : List (List (Performed α)) × List (Event α) × Int) :
    Prop where
  time : state.2.2 = oscTime + k * oscInc
  conserves : state.1.flatten.map (·.event) ++ state.2.1 = queue
  due : ∀ i < k, ∀ p ∈ state.1.getD i [],
    p.event.time ≤ oscTime + (i + 1) * oscInc ∧ (0 < i → oscTime + i * oscInc < p.event.time) ∧
      p.mSampleOffset =
        sampleOffset mBufLength (diffTime oscToSamples (oscTime + i * oscInc) p.event.time) ∧
      p.mSubsampleOffset = subsampleOffset (diffTime oscToSamples (oscTime + i * oscInc) p.event.time)
  later : 0 < k → ∀ event ∈ state.2.1, oscTime + k * oscInc < event.time

variable {oscToSamples mBufLength oscInc oscTime queue}

/-- One more buffer keeps `ScheduleInv`. -/
theorem ScheduleInv.step (sorted : queue.Sorted (·.time ≤ ·.time)) {k : Nat}
    {state : List (List (Performed α)) × List (Event α) × Int}
    (inv : ScheduleInv oscToSamples mBufLength oscInc oscTime queue k state)
    (length : state.1.length = k) :
    let due := performDue oscToSamples mBufLength state.2.2 (state.2.2 + oscInc) state.2.1
    ScheduleInv oscToSamples mBufLength oscInc oscTime queue (k + 1)
      (state.1 ++ [due.1], due.2, state.2.2 + oscInc) := by
  intro due
  have split := performDue_append oscToSamples mBufLength state.2.2 (state.2.2 + oscInc) state.2.1
  have end_eq : state.2.2 + oscInc = oscTime + ((k + 1 : Nat) : Int) * oscInc := by
    rw [inv.time]; push_cast; ring
  have leftSorted : state.2.1.Sorted (·.time ≤ ·.time) := by
    rw [← inv.conserves] at sorted
    exact (List.pairwise_append.mp sorted).2.1
  refine ⟨end_eq, ?_, fun i below p performed => ?_, fun _ event left => ?_⟩
  · rw [← inv.conserves, ← split]
    simp [due]
  · rcases Nat.lt_succ_iff_lt_or_eq.mp below with before | rfl
    · rw [List.getD_append _ _ _ _ (by omega)] at performed
      exact inv.due i before p performed
    · rw [List.getD_append_right _ _ _ _ (by omega), length, Nat.sub_self] at performed
      obtain ⟨inTime, offset, subsample⟩ := performDue_due _ _ _ _ performed
      rw [inv.time] at offset subsample
      refine ⟨by push_cast at end_eq ⊢; omega, fun positive => inv.later positive _ ?_,
        offset, subsample⟩
      rw [← split]
      exact List.mem_append_left _ (List.mem_map_of_mem _ performed)
  · rw [← end_eq]
    exact performDue_later _ _ _ _ leftSorted left

theorem scheduleBuffers_inv (sorted : queue.Sorted (·.time ≤ ·.time)) (numBufs : Nat) :
    ScheduleInv oscToSamples mBufLength oscInc oscTime queue numBufs
      (scheduleBuffers oscToSamples mBufLength oscInc numBufs oscTime queue) := by
  induction numBufs with
  | zero => exact ⟨by simp [scheduleBuffers], rfl, nofun, nofun⟩
  | succ k ih =>
    rw [scheduleBuffers_succ]
    exact ih.step sorted (scheduleBuffers_length ..)

end Buffers

/-- The buffers of one callback, on a queue sorted by time, from any OSC time and with any
increment: buffer `i` performs, earliest first, the events due by its end
`oscTime + (i + 1) * oscInc` that were not due by the end before; an event already late at
the callback's start is performed in the first buffer at its first sample; every event is
performed at a sample of its buffer and a fraction of a sample; what the buffers perform,
then the queue left, is the queue at the start; the queue left is after the last buffer's
end, which is the OSC time reached. -/
theorem scheduled_events_partitioned (oscToSamples : ℚ) (mBufLength : Nat) (oscInc : Int)
    (numBufs : Nat) (oscTime : Int) (queue : List (Event α))
    (sorted : queue.Sorted (·.time ≤ ·.time)) :
    let result := scheduleBuffers oscToSamples mBufLength oscInc numBufs oscTime queue
    result.1.length = numBufs ∧
    (∀ i < numBufs, ∀ p ∈ result.1.getD i [], p.event.time ≤ oscTime + (i + 1) * oscInc ∧
      (0 < i → oscTime + i * oscInc < p.event.time)) ∧
    (0 < mBufLength → 0 ≤ oscToSamples →
      ∀ p ∈ result.1.getD 0 [], p.event.time ≤ oscTime → p.mSampleOffset = 0) ∧
    (0 < mBufLength → ∀ p ∈ result.1.flatten,
      (0 ≤ p.mSampleOffset ∧ p.mSampleOffset < mBufLength) ∧
        0 ≤ p.mSubsampleOffset ∧ p.mSubsampleOffset < 1) ∧
    result.1.flatten.map (·.event) ++ result.2.1 = queue ∧
    (0 < numBufs → ∀ event ∈ result.2.1, oscTime + numBufs * oscInc < event.time) ∧
    result.2.2 = oscTime + numBufs * oscInc := by
  intro result
  have inv := @scheduleBuffers_inv α oscToSamples mBufLength oscInc oscTime queue sorted numBufs
  have length := scheduleBuffers_length oscToSamples mBufLength oscInc oscTime queue numBufs
  refine ⟨length, fun i below p performed => (inv.due i below p performed).imp_right (·.1),
    fun positive nonneg p performed late => ?_, fun positive p performed => ?_, inv.conserves,
    inv.later, inv.time⟩
  · have first : 0 < numBufs := by
      rcases Nat.eq_zero_or_pos numBufs with rfl | first
      · simp [result, List.length_eq_zero.mp length] at performed
      · exact first
    rw [(inv.due 0 first p performed).2.2.1]
    simpa using @sampleOffset_late mBufLength positive oscToSamples nonneg oscTime _ late
  · obtain ⟨l, member, performed⟩ := List.mem_flatten.mp performed
    obtain ⟨i, below, rfl⟩ := List.getElem_of_mem member
    rw [← List.getD_eq_getElem _ []] at performed
    obtain ⟨-, -, offset, subsample⟩ := inv.due i (length ▸ below) p performed
    rw [offset, subsample]
    exact ⟨sampleOffset_mem positive _, subsampleOffset_mem _⟩

/-- Two buffers of eight OSC units from time `0`, on a queue with an event already late, one
due in the second buffer and one after both: the buffers perform the first two, and the
third is left. -/
theorem late_event_first_buffer :
    let queue : List (Event Unit) := [⟨-3, ()⟩, ⟨13, ()⟩, ⟨20, ()⟩]
    let result := scheduleBuffers (1 / 2) 4 8 2 0 queue
    queue.Sorted (·.time ≤ ·.time) ∧
      result.1.flatten.map (·.event) ++ result.2.1 = queue ∧
      ∀ event ∈ result.2.1, (0 : Int) + (2 : Nat) * 8 < event.time :=
  ⟨by decide, (scheduled_events_partitioned (1 / 2) 4 8 2 0 _ (by decide)).2.2.2.2.1,
    (scheduled_events_partitioned (1 / 2) 4 8 2 0 _ (by decide)).2.2.2.2.2.1 (by decide)⟩

/-! ## Runs of callbacks

Between callbacks the engine's messages add events to the queue: at the start of each
callback, `mToEngine.Perform()` and `mOscPacketsToEngine.Perform()` run the messages that
call `PriorityQueueT::Add`. That queue breaks ties between events due together by the order
they were added (its `mStabilityCount`), so on the sorted list `Add` is a stable insert. -/

/-- `PriorityQueueT::Add` on the time-sorted queue: the event goes after every event due no
later than it. -/
def addEvent (event : Event α) : List (Event α) → List (Event α)
  | [] => [event]
  | first :: queue =>
    if first.time ≤ event.time then first :: addEvent event queue else event :: first :: queue

/-- What one callback brings to the scheduler: the events its messages add, the OSC time of
its first buffer (from the host clock), the increment, and the number of buffers. -/
structure CallbackInput (α : Type) where
  added : List (Event α)
  oscTime : Int
  oscInc : Int
  numBufs : Nat

/-- The scheduler over a run of callbacks: each adds its events to the queue, then runs its
buffers. What each callback's buffers performed, and the queue left. -/
def runScheduler (oscToSamples : ℚ) (mBufLength : Nat) :
    List (CallbackInput α) → List (Event α) → List (List (List (Performed α))) × List (Event α)
  | [], queue => ([], queue)
  | input :: inputs, queue =>
    let queue := input.added.foldl (fun queue event => addEvent event queue) queue
    let result :=
      scheduleBuffers oscToSamples mBufLength input.oscInc input.numBufs input.oscTime queue
    let rest := runScheduler oscToSamples mBufLength inputs result.2.1
    (result.1 :: rest.1, rest.2)

section Add

variable (event : Event α)

theorem addEvent_perm (queue : List (Event α)) : (addEvent event queue).Perm (event :: queue) := by
  induction queue with
  | nil => rfl
  | cons first queue ih =>
    simp only [addEvent]
    split_ifs
    · exact (ih.cons first).trans (List.Perm.swap event first queue)
    · rfl

theorem addEvent_sorted {queue : List (Event α)} (sorted : queue.Sorted (·.time ≤ ·.time)) :
    (addEvent event queue).Sorted (·.time ≤ ·.time) := by
  induction queue with
  | nil => exact List.sorted_singleton event
  | cons first queue ih =>
    obtain ⟨atLeast, rest⟩ := List.sorted_cons.mp sorted
    simp only [addEvent]
    split_ifs with before
    · refine List.sorted_cons.mpr ⟨fun b mem => ?_, ih rest⟩
      rcases List.mem_cons.mp ((addEvent_perm event queue).mem_iff.mp mem) with rfl | later
      · exact before
      · exact atLeast b later
    · have earlier : event.time ≤ first.time := (lt_of_not_le before).le
      refine List.sorted_cons.mpr ⟨fun b mem => ?_, sorted⟩
      rcases List.mem_cons.mp mem with rfl | later
      · exact earlier
      · exact earlier.trans (atLeast b later)

/-- Adding a callback's events keeps every event. -/
theorem addEvents_perm (added queue : List (Event α)) :
    (added.foldl (fun queue event => addEvent event queue) queue).Perm (queue ++ added) := by
  induction added generalizing queue with
  | nil => simp
  | cons event added ih =>
    exact (ih _).trans (((addEvent_perm event queue).append_right added).trans List.perm_middle.symm)

theorem addEvents_sorted (added : List (Event α)) {queue : List (Event α)}
    (sorted : queue.Sorted (·.time ≤ ·.time)) :
    (added.foldl (fun queue event => addEvent event queue) queue).Sorted (·.time ≤ ·.time) := by
  induction added generalizing queue with
  | nil => exact sorted
  | cons event added ih => exact ih (addEvent_sorted event sorted)

end Add

/-- Over every run of callbacks, from a queue sorted by time, whatever events the callbacks
add and whatever OSC times, increments and buffer counts they have (the host clock may jump
either way between callbacks): what the callbacks performed, then the queue left, is the
queue at the start and the events added, rearranged; so no event is lost, performed twice,
or performed without having been added. Each callback performs its events in time order,
and the queue stays sorted. -/
theorem scheduler_loses_no_event (oscToSamples : ℚ) (mBufLength : Nat)
    (inputs : List (CallbackInput α)) {queue : List (Event α)}
    (sorted : queue.Sorted (·.time ≤ ·.time)) :
    let result := runScheduler oscToSamples mBufLength inputs queue
    ((result.1.map fun performed => performed.flatten.map (·.event)).flatten ++ result.2).Perm
        (queue ++ (inputs.map (·.added)).flatten) ∧
      (∀ performed ∈ result.1, (performed.flatten.map (·.event)).Sorted (·.time ≤ ·.time)) ∧
      result.2.Sorted (·.time ≤ ·.time) := by
  induction inputs generalizing queue with
  | nil => exact ⟨by simp [runScheduler], by simp [runScheduler], sorted⟩
  | cons input inputs ih =>
    have added := addEvents_sorted input.added sorted
    have inv := @scheduleBuffers_inv α oscToSamples mBufLength input.oscInc input.oscTime _ added
      input.numBufs
    have split := List.pairwise_append.mp (inv.conserves ▸ added)
    obtain ⟨perm, each, left⟩ := ih split.2.1
    simp only [runScheduler, List.map_cons, List.flatten_cons, List.forall_mem_cons]
    refine ⟨?_, ⟨split.1, each⟩, left⟩
    rw [List.append_assoc]
    refine (perm.append_left _).trans ?_
    rw [← List.append_assoc, inv.conserves, ← List.append_assoc]
    exact (addEvents_perm _ _).append_right _

/-- Two callbacks from an empty queue, the second with the host clock thrown back: the first
adds events due at `20` and `5`, the second one due at `3`; none is lost or repeated. -/
theorem clock_jump_loses_no_event :
    let inputs : List (CallbackInput Unit) :=
      [⟨[⟨20, ()⟩, ⟨5, ()⟩], 0, 8, 2⟩, ⟨[⟨3, ()⟩], -100, 8, 1⟩]
    let result := runScheduler (1 / 2) 4 inputs []
    ([] : List (Event Unit)).Sorted (·.time ≤ ·.time) ∧
      ((result.1.map fun performed => performed.flatten.map (·.event)).flatten ++ result.2).Perm
        ([] ++ (inputs.map (·.added)).flatten) :=
  ⟨List.sorted_nil, (scheduler_loses_no_event (1 / 2) 4 _ List.sorted_nil).1⟩

end ScBela.Driver
