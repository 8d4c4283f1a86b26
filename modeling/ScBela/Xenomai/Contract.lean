import ScBela.Xenomai.Refinement

/-!
# What a returning call guarantees

A thread blocked in the kernel is inside the call that blocked it: in `lock` while it
waits for the mutex, in `wait` while it waits for a signal or, signalled, for the mutex
again (`Posix.Coherent`). Every run of the standard primitives keeps this, in any
interleaving. From it follows what each call guarantees at the step where it returns
(`Posix.Returns`): `lock` returns `0` to a thread that has just taken the free mutex, and
so does `wait` (or it returns `EPERM`, changing nothing, to a caller that did not hold the
mutex); `try_lock` returns `0` exactly when it took the free mutex and `EBUSY` otherwise;
`unlock` returns `0` when it released the caller's mutex and `EPERM` otherwise; the
notifications return `0`.

The wrappers of `XenomaiLock.cpp` keep all of this, from any initial domains and in any
interleaving, except that a call whose thread could not be promoted returns `EPERM` with
nothing changed. `XenomaiMutex::lock` and `unlock` discard the result, so a caller of
`lock` cannot tell that case from taking the mutex.

## Main definitions

* `Blocked.op` — the call a blocked thread is in
* `Posix.Coherent` — blocked threads are inside their calls
* `Posix.Returns` — what a call guarantees when it returns

## Main results

* `Posix.Reachable.coherent` — every reachable state of the standard primitives
* `Posix.Step.returns` — every call of the standard primitives returns as `Returns` says
* `Wrapper.Reachable.blocked_inside` — in the wrappers, a blocked thread is a real-time
  thread inside the matching wrapper call, at an attempt of its native call
* `wrapper_calls_return_as_standard` — every wrapper call returns as `Returns` says, or
  `EPERM` with nothing changed
-/

namespace ScBela.Xenomai

/-- The call a thread blocked for `b` is in. -/
def Blocked.op : Blocked → Op
  | .lock => .lock
  | .signal | .reacquire => .wait

namespace Native

variable {t : Nat} {op : Op} {k k' : Kernel} {rep : Reply}

/-- A native call blocks its caller, if at all, in that call. -/
theorem blocks_self (native : Native t op k rep k') (unqueued : k.queue t = none) {b : Blocked}
    (queued : k'.queue t = some b) : rep = .blocks ∧ b.op = op := by
  cases native <;> simp_all [Kernel.block, Kernel.signal, Kernel.broadcast] <;> subst_vars
  case lock_held | wait_owner => rfl
  case signal_one u _ =>
    by_cases same : t = u
    · subst same; simp_all
    · simp_all [Function.update_noteq same]

/-- A native call moves another blocked thread, if at all, within the same call. -/
theorem queue_other (native : Native t op k rep k') {u : Nat} (other : u ≠ t) {b : Blocked}
    (queued : k'.queue u = some b) : ∃ b', k.queue u = some b' ∧ b'.op = b.op := by
  cases native
  all_goals try simp only [Kernel.block, Kernel.signal, Kernel.broadcast,
    Function.update_apply] at queued
  all_goals (try split_ifs at queued) <;> simp_all <;> subst_vars <;> rfl

end Native

namespace Posix

/-- Every thread blocked in the kernel is inside the call that blocked it. -/
def Coherent (s : Sys) : Prop :=
  ∀ u b, s.kernel.queue u = some b → s.pc u = .calling b.op

namespace Coherent

variable {s : Sys} {t : Nat}

/-- An unblocked thread can move anywhere. -/
theorem setPc (coherent : Coherent s) (unqueued : s.kernel.queue t = none) (pc : Pc) :
    Coherent (s.setPc t pc) := by
  intro u b queued
  by_cases same : u = t
  · subst same; simp [Sys.setPc, unqueued] at queued
  · simpa [Sys.setPc, Function.update_noteq same] using coherent u b queued

/-- A thread that is not calling is blocked nowhere. -/
theorem unqueued_of_ne (coherent : Coherent s) (notCalling : ∀ op, s.pc t ≠ .calling op) :
    s.kernel.queue t = none := by
  cases queued : s.kernel.queue t with
  | none => rfl
  | some b => exact absurd (coherent t b queued) (notCalling _)

end Coherent

variable {s s' : Sys} {t : Nat}

/-- Every step keeps the blocked threads inside their calls. -/
theorem Step.coherent (step : Step s t s') (coherent : Coherent s) : Coherent s' := by
  cases step with
  | invoke op idle =>
    exact coherent.setPc (coherent.unqueued_of_ne (by simp [idle])) _
  | @native op rep k calling unqueued native =>
    intro u b queued
    by_cases same : u = t
    · subst same
      obtain ⟨rfl, named⟩ := native.blocks_self unqueued queued
      simp [Sys.setPc, Pc.ofReply, named]
    · obtain ⟨b', before, named⟩ := native.queue_other same queued
      simpa [Sys.setPc, Function.update_noteq same, ← named] using coherent u b' before
  | acquire queued _ _ =>
    intro u b queued'
    by_cases same : u = t
    · subst same; simp [Sys.setPc, Kernel.acquire] at queued'
    · simp only [Sys.setPc, Kernel.acquire, Function.update_noteq same] at queued' ⊢
      exact coherent u b queued'
  | spurious queued =>
    intro u b queued'
    by_cases same : u = t
    · subst same
      simp only [Kernel.signal, Kernel.block, Function.update_same, Option.some.injEq] at queued'
      subst queued'
      exact coherent u .signal queued
    · simp only [Kernel.signal, Kernel.block, Function.update_noteq same] at queued'
      exact coherent u b queued'
  | finish returned =>
    exact coherent.setPc (coherent.unqueued_of_ne (by simp [returned])) _

/-- A refused call keeps the blocked threads inside their calls. -/
theorem StepOrRefuse.coherent (step : StepOrRefuse s t s') (coherent : Coherent s) :
    Coherent s' := by
  cases step with
  | step step => exact step.coherent coherent
  | refuse _ unqueued => exact coherent.setPc unqueued _

/-- In every reachable state, the blocked threads are inside their calls. -/
theorem Reachable.coherent (reachable : Reachable s) : Coherent s := by
  induction reachable with
  | initial => intro u b queued; simp [Kernel.free] at queued
  | step _ step ih => exact step.coherent ih

/-- What a call of `op` by thread `t` guarantees at the step where it returns `r`, the
kernel going from `k` to `k'`. -/
def Returns (t : Nat) (k k' : Kernel) : Op → Int → Prop
  | .lock, r => r = 0 ∧ k.owner = none ∧ k'.owner = some t
  | .tryLock, r =>
    (r = 0 ∧ k.owner = none ∧ k'.owner = some t) ∨ (r = EBUSY ∧ k.owner ≠ none ∧ k' = k)
  | .unlock, r =>
    (r = 0 ∧ k.owner = some t ∧ k'.owner = none) ∨ (r = EPERM ∧ k.owner ≠ some t ∧ k' = k)
  | .wait, r =>
    (r = 0 ∧ k.owner = none ∧ k'.owner = some t) ∨ (r = EPERM ∧ k.owner ≠ some t ∧ k' = k)
  | .notifyOne, r => r = 0
  | .notifyAll, r => r = 0

end Posix

/-- A native call that comes back at once returns as `Posix.Returns` says. -/
theorem Native.returns {t : Nat} {op : Op} {k k' : Kernel} {r : Int}
    (native : Native t op k (.ret r) k') : Posix.Returns t k k' op r := by
  cases native <;> simp_all [Posix.Returns]

namespace Posix

variable {s s' : Sys} {t : Nat}

/-- From a reachable state, a step that returns from thread `t`'s call of `op` returns as
`Returns` says: a native call that came back at once, or a blocked `lock` or `wait` that
took the free mutex. -/
theorem Step.returns (reachable : Reachable s) (step : Step s t s') {op : Op} {r : Int}
    (calling : s.pc t = .calling op) (returned : s'.pc t = .returned r) :
    Returns t s.kernel s'.kernel op r := by
  cases step with
  | invoke _ idle => simp [idle] at calling
  | @native op' rep k calling' _ native =>
    obtain rfl : op = op' := by simpa [calling] using calling'
    cases rep with
    | ret r' =>
      obtain rfl : r' = r := by simpa [Sys.setPc, Pc.ofReply] using returned
      exact native.returns
    | blocks => simp [Sys.setPc, Pc.ofReply] at returned
  | @acquire b queued notSignal free =>
    have inside := reachable.coherent t b queued
    obtain rfl : op = b.op := by simpa [calling] using inside
    obtain rfl : r = 0 := by simpa [Sys.setPc, Pc.resume, calling] using returned.symm
    have owner : (s.kernel.acquire t).owner = some t := rfl
    cases b <;> simp_all [Returns, Blocked.op, Sys.setPc]
  | spurious _ => simp [calling] at returned
  | finish returned' => simp [returned'] at calling

end Posix

namespace Wrapper

variable {s s' : Sys} {t : Nat}

/-- In every reachable state of the wrappers, a thread blocked in the kernel is a real-time
thread inside the wrapper call it blocked in (`lock` for the mutex, `wait` for a signal
or for the mutex again), at an attempt of the native call. -/
theorem Reachable.blocked_inside (reachable : Reachable s) {u : Nat} {b : Blocked}
    (queued : s.kernel.queue u = some b) :
    s.domain u = .realTime ∧ ∃ stage : Stage, stage.issues = true ∧ s.pc u = .call b.op stage := by
  have inside : (s.pc u).abs = .calling b.op := reachable.abs.coherent u b queued
  refine ⟨reachable.inv.queued_realTime u b queued, ?_⟩
  cases calling : s.pc u with
  | idle | returned _ => simp [calling, Pc.abs] at inside
  | call op stage =>
    obtain rfl : op = b.op := by simpa [calling, Pc.abs] using inside
    cases issues : stage.issues
    · simp [reachable.inv.promoting_unqueued u _ stage calling issues] at queued
    · exact ⟨stage, issues, rfl⟩

/-- Two real-time threads: `0` has taken the mutex, `1` is blocked in its `lock`. -/
theorem second_locker_blocked_inside :
    let s₀ := (Sys.initial fun _ => .realTime).setPc 0 (.call .lock .first)
    let s₁ := ({ s₀ with kernel := { s₀.kernel with owner := some 0 } } : Sys).setPc 0
      (Pc.ofReply .lock .first (.ret 0))
    let s₂ := s₁.setPc 1 (.call .lock .first)
    let s₃ := ({ s₂ with kernel := s₂.kernel.block 1 .lock } : Sys).setPc 1
      (Pc.ofReply .lock .first .blocks)
    Reachable s₃ ∧ s₃.kernel.queue 1 = some .lock ∧
      (s₃.domain 1 = .realTime ∧ ∃ stage : Stage, stage.issues = true ∧
        s₃.pc 1 = .call Blocked.lock.op stage) := by
  intro s₀ s₁ s₂ s₃
  have reachable₀ : Reachable s₀ :=
    (Reachable.initial fun _ => .realTime).step (.invoke .lock rfl rfl)
  have reachable₁ : Reachable s₁ := reachable₀.step
    (.nativeRealTime (show s₀.pc 0 = .call .lock .first from rfl) rfl rfl rfl (.lock_free rfl))
  have reachable₂ : Reachable s₂ := reachable₁.step (.invoke .lock rfl rfl)
  have reachable₃ : Reachable s₃ := reachable₂.step
    (.nativeRealTime (show s₂.pc 1 = .call .lock .first from rfl) rfl rfl rfl
      (.lock_held (by simp [s₂, s₁, Sys.setPc])))
  exact ⟨reachable₃, rfl, Reachable.blocked_inside reachable₃ rfl⟩

/-- Every wrapper call, from a reachable state and in any interleaving, returns what the
standard call would (`Posix.Returns`), or, only when the caller's promotion failed,
`EPERM`: at its second scheduler call, which returned a nonzero result, with nothing but
the caller's place changed. -/
theorem wrapper_calls_return_as_standard (reachable : Reachable s) (step : Step s t s')
    {op : Op} {stage : Stage} {r : Int} (calling : s.pc t = .call op stage)
    (returned : s'.pc t = .returned r) :
    Posix.Returns t s.kernel s'.kernel op r ∨
      (stage = .promoteAgain ∧ ∃ ret, ret ≠ 0 ∧
        s' = s.setPc t (afterSetScheduler op .promoteAgain ret) ∧ r = EPERM) := by
  rcases step.refines reachable.inv reachable.enabled with
    same | standard | ⟨⟨op', again⟩, -, unqueued, -⟩
  · have seen := congrArg (·.pc t) same
    simp [calling, returned, Pc.abs] at seen
  · exact .inl (Posix.Step.returns reachable.abs standard (by simp [calling, Pc.abs])
      (by simp [returned, Pc.abs]))
  · obtain ⟨rfl, rfl⟩ := Pc.call.inj (calling.symm.trans again)
    right
    cases step with
    | @setScheduler op'' stage'' ret calling' _ =>
      obtain ⟨rfl, rfl⟩ := Pc.call.inj (calling'.symm.trans again)
      by_cases zero : ret = 0
      · simp [zero, afterSetScheduler] at returned
      · refine ⟨rfl, ret, zero, by simp [zero], ?_⟩
        simpa [zero, afterSetScheduler] using returned.symm
    | nativeStandard calling' issues | nativeRealTime calling' issues =>
      obtain ⟨rfl, rfl⟩ := Pc.call.inj (calling'.symm.trans again)
      simp [Stage.issues] at issues
    | invoke _ idle | invokeDisabled _ idle => simp [again] at idle
    | finish done => simp [again] at done
    | acquire queued _ _ | spurious queued => simp [unqueued] at queued

/-- A real-time thread's `lock` on the free mutex returns `0` and takes it. -/
theorem realTime_lock_returns_owning :
    let s := (Sys.initial fun _ => .realTime).setPc 0 (.call .lock .first)
    let s' := ({ s with kernel := { s.kernel with owner := some 0 } } : Sys).setPc 0
      (Pc.ofReply .lock .first (.ret 0))
    Reachable s ∧ Step s 0 s' ∧ s.pc 0 = .call .lock .first ∧ s'.pc 0 = .returned 0 ∧
      (Posix.Returns 0 s.kernel s'.kernel .lock 0 ∨
        (Stage.first = .promoteAgain ∧ ∃ ret, ret ≠ 0 ∧
          s' = s.setPc 0 (afterSetScheduler .lock .promoteAgain ret) ∧ (0 : Int) = EPERM)) := by
  intro s s'
  have reachable : Reachable s :=
    (Reachable.initial fun _ => .realTime).step (.invoke .lock rfl rfl)
  have step : Step s 0 s' :=
    .nativeRealTime (show s.pc 0 = .call .lock .first from rfl) rfl rfl rfl (.lock_free rfl)
  exact ⟨reachable, step, rfl, rfl, wrapper_calls_return_as_standard reachable step rfl rfl⟩

end Wrapper

end ScBela.Xenomai
