import ScBela.Xenomai.Posix

/-!
# Threads calling the Xenomai wrappers

Every client thread runs the code of `XenomaiLock.cpp` around each call. `try_or_retry`
issues the native call; on `EPERM` it runs `turn_into_cobalt_thread`, whose
`__wrap_sched_setscheduler` puts the thread in the real-time domain when it returns `0`
and is tried a second time after a failure; then the native call is issued again.
Each native call and each scheduler call is one atomic step, so the calls of different
threads interleave in every order.

The native layer is the one of §6 of the design: a call from a thread in the standard
domain returns `EPERM` and changes nothing, and a call from a real-time thread is the
POSIX call `Native`. A scheduler call returns whatever the environment chooses.

## Main definitions

* `Domain`, `Wrapper.Stage`, `Wrapper.Pc` — a thread's domain and its place in a wrapper
* `Wrapper.afterFunc`, `Wrapper.afterSetScheduler` — the control flow of `try_or_retry`
  and `turn_into_cobalt_thread` after each call
* `Wrapper.Step`, `Wrapper.Reachable` — the interleaved system

## Main results

* `Wrapper.Step.domain_other`, `Wrapper.Step.domain_realTime` — a step changes no other
  thread's domain and demotes nobody
* `Wrapper.Reachable.inv` — in every reachable state the owner of the mutex, and every
  thread blocked in a native call, is a real-time thread
-/

namespace ScBela.Xenomai

/-- The scheduling domain of a thread. -/
inductive Domain
  | standard
  | realTime
  deriving DecidableEq, Repr

/-- The operations on the mutex; the others act on the condition variable. -/
def Op.onMutex : Op → Bool
  | .lock | .tryLock | .unlock => true
  | _ => false

namespace Wrapper

/-- How far a thread is through `try_or_retry`: about to issue the call, about to make
the first or the second scheduler call of `turn_into_cobalt_thread`, or about to issue
the call again. -/
inductive Stage
  | first
  | promote
  | promoteAgain
  | retry
  deriving DecidableEq, Repr

/-- The stages that issue the wrapped native call; the others call the scheduler. -/
def Stage.issues : Stage → Bool
  | .first | .retry => true
  | .promote | .promoteAgain => false

/-- Where a client thread is: between calls, inside a wrapper call, or returning. -/
inductive Pc
  | idle
  | call (op : Op) (stage : Stage)
  | returned (r : Int)
  deriving DecidableEq, Repr

/-- `try_or_retry` once `func()` returned `ret`: the first attempt returns any result
but `EPERM` and promotes the thread on `EPERM`; the second returns what it got. -/
def afterFunc (op : Op) : Stage → Int → Pc
  | .first, ret => if EPERM ≠ ret then .returned ret else .call op .promote
  | _, ret => .returned ret

/-- `turn_into_cobalt_thread` once `__wrap_sched_setscheduler` returned `ret`, then
`try_or_retry`: a first failure leads to the second scheduler call, a second failure to
`EPERM`, and a success to the second attempt. -/
def afterSetScheduler (op : Op) : Stage → Int → Pc
  | .promote, ret => if ret ≠ 0 then .call op .promoteAgain else .call op .retry
  | _, ret => if ret ≠ 0 then .returned EPERM else .call op .retry

/-- Where the caller is once its native call replied. -/
def Pc.ofReply (op : Op) (stage : Stage) : Reply → Pc
  | .ret r => afterFunc op stage r
  | .blocks => .call op stage

/-- The thread leaves a blocking native call, which returned `r`. -/
def Pc.resume : Pc → Int → Pc
  | .call op stage, r => afterFunc op stage r
  | pc, _ => pc

/-- The kernel, every thread, and the `enabled` flags of the two objects. -/
structure Sys where
  kernel : Kernel
  pc : Nat → Pc
  domain : Nat → Domain
  mutexEnabled : Bool
  condEnabled : Bool

/-- The `enabled` flag `try_or_retry` reads for `op`. -/
def Sys.enabled (s : Sys) (op : Op) : Bool :=
  if op.onMutex then s.mutexEnabled else s.condEnabled

/-- Move thread `t` to `pc`. -/
def Sys.setPc (s : Sys) (t : Nat) (pc : Pc) : Sys := { s with pc := Function.update s.pc t pc }

/-- Thread `t` is now a real-time thread. -/
def Sys.promote (s : Sys) (t : Nat) : Sys :=
  { s with domain := Function.update s.domain t .realTime }

/-- One step of thread `t`: start a wrapper call, issue its native call, make a scheduler
call of `turn_into_cobalt_thread`, be woken by the kernel with the mutex, wake up
spuriously from a condition wait, or return. -/
inductive Step : Sys → Nat → Sys → Prop
  | invoke {s : Sys} {t : Nat} (op : Op) : s.pc t = .idle → s.enabled op = true →
      Step s t (s.setPc t (.call op .first))
  | invokeDisabled {s : Sys} {t : Nat} (op : Op) : s.pc t = .idle → s.enabled op = false →
      Step s t (s.setPc t (.returned 0))
  | nativeStandard {s : Sys} {t : Nat} {op : Op} {stage : Stage} : s.pc t = .call op stage →
      stage.issues = true → s.kernel.queue t = none → s.domain t = .standard →
      Step s t (s.setPc t (afterFunc op stage EPERM))
  | nativeRealTime {s : Sys} {t : Nat} {op : Op} {stage : Stage} {rep : Reply} {k : Kernel} :
      s.pc t = .call op stage → stage.issues = true → s.kernel.queue t = none →
      s.domain t = .realTime → Native t op s.kernel rep k →
      Step s t ({ s with kernel := k }.setPc t (Pc.ofReply op stage rep))
  | setScheduler {s : Sys} {t : Nat} {op : Op} {stage : Stage} (ret : Int) :
      s.pc t = .call op stage → stage.issues = false →
      Step s t ((if ret = 0 then s.promote t else s).setPc t (afterSetScheduler op stage ret))
  | acquire {s : Sys} {t : Nat} {b : Blocked} :
      s.kernel.queue t = some b → b ≠ .signal → s.kernel.owner = none →
      Step s t ({ s with kernel := s.kernel.acquire t }.setPc t ((s.pc t).resume 0))
  | spurious {s : Sys} {t : Nat} : s.kernel.queue t = some .signal →
      Step s t { s with kernel := s.kernel.signal t }
  | finish {s : Sys} {t : Nat} {r : Int} : s.pc t = .returned r → Step s t (s.setPc t .idle)

/-- Enabled objects, a free kernel, idle threads in the given domains. -/
def Sys.initial (domain : Nat → Domain) : Sys := ⟨.free, fun _ => .idle, domain, true, true⟩

/-- The states reached from some initial domain assignment, in any interleaving. -/
inductive Reachable : Sys → Prop
  | initial (domain : Nat → Domain) : Reachable (Sys.initial domain)
  | step {s s' : Sys} {t : Nat} : Reachable s → Step s t s' → Reachable s'

@[simp] theorem Sys.setPc_kernel (s : Sys) (t : Nat) (pc : Pc) :
    (s.setPc t pc).kernel = s.kernel := rfl

@[simp] theorem Sys.setPc_domain (s : Sys) (t : Nat) (pc : Pc) :
    (s.setPc t pc).domain = s.domain := rfl

@[simp] theorem Sys.setPc_pc (s : Sys) (t : Nat) (pc : Pc) :
    (s.setPc t pc).pc = Function.update s.pc t pc := rfl

@[simp] theorem Sys.promote_kernel (s : Sys) (t : Nat) : (s.promote t).kernel = s.kernel := rfl

@[simp] theorem Sys.promote_pc (s : Sys) (t : Nat) : (s.promote t).pc = s.pc := rfl

@[simp] theorem Sys.promote_domain (s : Sys) (t : Nat) :
    (s.promote t).domain = Function.update s.domain t .realTime := rfl

/-! ## Domains -/

namespace Step

variable {s s' : Sys} {t : Nat}

/-- No step moves a thread out of the real-time domain. -/
theorem domain_realTime (step : Step s t s') {u : Nat} (realTime : s.domain u = .realTime) :
    s'.domain u = .realTime := by
  cases step with
  | setScheduler ret =>
    split <;> simp only [Sys.setPc_domain, Sys.promote_domain, Function.update_apply]
    · split <;> simp_all
    · exact realTime
  | _ => exact realTime

/-- A step of `t` moves no other thread. -/
theorem pc_other (step : Step s t s') {u : Nat} (other : u ≠ t) : s'.pc u = s.pc u := by
  cases step <;> (try split) <;> simp [Function.update_noteq other]

end Step

/-! ## The invariant -/

/-- What every reachable state satisfies: the owner of the mutex and every thread blocked
in a native call are real-time threads, a thread retrying its call has been promoted,
and a thread in `turn_into_cobalt_thread` is blocked nowhere. -/
structure Inv (s : Sys) : Prop where
  owner_realTime : ∀ h, s.kernel.owner = some h → s.domain h = .realTime
  queued_realTime : ∀ u b, s.kernel.queue u = some b → s.domain u = .realTime
  retry_realTime : ∀ u op, s.pc u = .call op .retry → s.domain u = .realTime
  promoting_unqueued : ∀ u op stage, s.pc u = .call op stage → stage.issues = false →
    s.kernel.queue u = none

theorem Sys.initial_inv (domain : Nat → Domain) : Inv (Sys.initial domain) where
  owner_realTime h owns := by simp [Sys.initial, Kernel.free] at owns
  queued_realTime u b queued := by simp [Sys.initial, Kernel.free] at queued
  retry_realTime u op calling := by simp [Sys.initial] at calling
  promoting_unqueued u op stage _ _ := rfl

namespace Step

variable {s s' : Sys} {t : Nat}

theorem owner_realTime (step : Step s t s') (inv : Inv s) {h : Nat}
    (owns : s'.kernel.owner = some h) : s'.domain h = .realTime := by
  apply step.domain_realTime
  cases step with
  | nativeRealTime _ _ _ realTime native =>
    rcases native.owner_new owns with before | rfl
    · exact inv.owner_realTime h before
    · exact realTime
  | acquire queued _ _ =>
    simp only [Sys.setPc_kernel, Kernel.acquire, Option.some.injEq] at owns
    exact owns ▸ inv.queued_realTime t _ queued
  | setScheduler ret => split at owns <;> exact inv.owner_realTime h owns
  | _ => exact inv.owner_realTime h owns

theorem queued_realTime (step : Step s t s') (inv : Inv s) {u : Nat} {b : Blocked}
    (queued : s'.kernel.queue u = some b) : s'.domain u = .realTime := by
  apply step.domain_realTime
  cases step with
  | nativeRealTime _ _ _ realTime native =>
    rcases native.queue_new queued with before | rfl
    · obtain ⟨b', hb'⟩ := Option.ne_none_iff_exists'.mp before
      exact inv.queued_realTime u b' hb'
    · exact realTime
  | acquire _ _ _ =>
    simp only [Sys.setPc_kernel, Kernel.acquire, Function.update_apply] at queued
    split at queued
    · cases queued
    · exact inv.queued_realTime u b queued
  | spurious signalled =>
    simp only [Kernel.signal, Kernel.block, Function.update_apply] at queued
    split at queued
    · subst u; exact inv.queued_realTime t _ signalled
    · exact inv.queued_realTime u b queued
  | setScheduler ret => split at queued <;> exact inv.queued_realTime u b queued
  | _ => exact inv.queued_realTime u b queued

@[simp] theorem afterFunc_zero (op : Op) (stage : Stage) : afterFunc op stage 0 = .returned 0 := by
  cases stage <;> simp [afterFunc, EPERM]

theorem retry_realTime (step : Step s t s') (inv : Inv s) {u : Nat} {op : Op}
    (retrying : s'.pc u = .call op .retry) : s'.domain u = .realTime := by
  by_cases other : u ≠ t
  · rw [step.pc_other other] at retrying
    exact step.domain_realTime (inv.retry_realTime u op retrying)
  · obtain rfl := not_not.mp other
    cases step with
    | @setScheduler op' stage ret _ _ =>
      by_cases zero : ret = 0
      · simp [zero]
      · cases stage <;> simp_all [afterSetScheduler]
    | @nativeRealTime op' stage rep k calling _ _ _ _ =>
      cases rep <;> cases stage <;> simp_all [Pc.ofReply, afterFunc]
    | acquire _ _ _ =>
      cases before : s.pc u <;> simp_all [Pc.resume]
    | @nativeStandard op' stage _ _ _ _ =>
      cases stage <;> simp_all [afterFunc, EPERM]
    | spurious _ => exact inv.retry_realTime u op retrying
    | _ => simp_all

theorem promoting_unqueued (step : Step s t s') (inv : Inv s) {u : Nat} {op : Op}
    {stage : Stage} (calling : s'.pc u = .call op stage) (promotes : stage.issues = false) :
    s'.kernel.queue u = none := by
  by_cases other : u ≠ t
  · rw [step.pc_other other] at calling
    have unqueued := inv.promoting_unqueued u op stage calling promotes
    cases step with
    | nativeRealTime _ _ _ _ native => exact native.queue_none other unqueued
    | acquire _ _ _ => simp [Kernel.acquire, Function.update_noteq other, unqueued]
    | spurious _ => simp [Kernel.signal, Kernel.block, Function.update_noteq other, unqueued]
    | setScheduler ret => split <;> exact unqueued
    | _ => exact unqueued
  · obtain rfl := not_not.mp other
    cases step with
    | nativeStandard _ _ unqueued _ => exact unqueued
    | @nativeRealTime op' stage' rep k _ _ unqueued _ native =>
      cases rep with
      | blocks => cases stage <;> simp_all [Pc.ofReply, Stage.issues]
      | ret r =>
        by_cases eperm : r = EPERM
        · subst eperm
          simpa [native.eq_of_eperm] using unqueued
        · cases stage' <;> simp_all [Pc.ofReply, afterFunc]
          split at calling <;> simp_all
    | setScheduler ret calling' promotes' =>
      split <;> exact inv.promoting_unqueued u _ _ calling' promotes'
    | acquire _ _ _ => cases before : s.pc u <;> simp_all [Pc.resume]
    | spurious signalled =>
      have := inv.promoting_unqueued u op stage calling promotes
      simp_all
    | invoke _ _ _ =>
      obtain ⟨-, rfl⟩ := by simpa using calling
      simp [Stage.issues] at promotes
    | _ => simp_all

/-- Every step keeps the invariant. -/
theorem inv (step : Step s t s') (inv : Inv s) : Inv s' where
  owner_realTime _ owns := step.owner_realTime inv owns
  queued_realTime _ _ queued := step.queued_realTime inv queued
  retry_realTime _ _ retrying := step.retry_realTime inv retrying
  promoting_unqueued _ _ _ calling promotes := step.promoting_unqueued inv calling promotes

end Step

theorem Reachable.inv {s : Sys} (reachable : Reachable s) : Inv s := by
  induction reachable with
  | initial domain => exact Sys.initial_inv domain
  | step _ step ih => exact step.inv ih

/-- No step changes the `enabled` flags. -/
theorem Step.enabled_eq {s s' : Sys} {t : Nat} (step : Step s t s') :
    s'.mutexEnabled = s.mutexEnabled ∧ s'.condEnabled = s.condEnabled := by
  cases step <;> (try split) <;> simp [Sys.setPc, Sys.promote]

/-- Both objects stay enabled in every reachable state. -/
theorem Reachable.enabled {s : Sys} (reachable : Reachable s) (op : Op) : s.enabled op = true := by
  induction reachable with
  | initial domain => cases op <;> rfl
  | step _ step ih =>
    unfold Sys.enabled at ih ⊢
    rw [step.enabled_eq.1, step.enabled_eq.2]
    exact ih

end Wrapper

end ScBela.Xenomai
