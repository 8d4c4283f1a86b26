import ScBela.Xenomai.Lock

/-!
# The retry policy of `try_or_retry`

One call of `try_or_retry` is a short, branching sequence of libcobalt calls. This file
computes that sequence in closed form, for every environment: every result of the
wrapped operation and every result of `__wrap_sched_setscheduler`.

With the object enabled the sequence is the one §4.2 of the design describes: the
operation, then, only on `EPERM`, one promotion of the calling thread and one more
attempt. With the object disabled nothing is issued and the result is `0`, the
success code: `return false` in a function returning `int`. `XenomaiMutex::try_lock`
then reports a lock it never took.

## Main results

* `turnIntoCobaltThread_eq` — the calls of one promotion and its result
* `tryOrRetry_enabled_eq` — the calls of one `try_or_retry` on an enabled object
* `tryOrRetry_disabled` — a disabled object issues nothing and returns `0`
* `disabled_mutex_tryLock_succeeds` — `try_lock` on a disabled mutex returns `true`
-/

namespace ScBela.Xenomai

/-- The calls `turn_into_cobalt_thread` issues when its two `__wrap_sched_setscheduler`
calls would return `s₁` and `s₂`: the second call, and each `xenomai_init`, come only
after a failure. -/
def promotionCalls (tid s₁ s₂ : Int) : Log :=
  if s₁ = 0 then [(.setScheduler tid, s₁)]
  else if s₂ = 0 then [(.setScheduler tid, s₁), (.xenomaiInit, 0), (.setScheduler tid, s₂)]
  else [(.setScheduler tid, s₁), (.xenomaiInit, 0), (.setScheduler tid, s₂), (.xenomaiInit, 0)]

@[simp] theorem countP_promotionCalls (op : Op) (tid s₁ s₂ : Int) :
    (promotionCalls tid s₁ s₂).countP (·.1 = op.call) = 0 := by
  unfold promotionCalls
  split_ifs <;> simp [(Op.call_ne_setScheduler op tid).symm, (Op.call_ne_xenomaiInit op).symm]

theorem turnIntoCobaltThread_recurred_eq (env : Env) (log : Log) :
    turnIntoCobaltThread true env log =
      if env.after (.setScheduler env.tid) log 0 ≠ 0 then
        (-1, log ++ [(.setScheduler env.tid, env.after (.setScheduler env.tid) log 0),
          (.xenomaiInit, 0)])
      else (0, log ++ [(.setScheduler env.tid, env.after (.setScheduler env.tid) log 0)]) := by
  rw [turnIntoCobaltThread]
  simp only [cobaltM_bind_eq, getTid_eq, issue_eq]
  split <;> simp_all

/-- One promotion: both scheduler calls are for the calling thread's own id, and the
promotion succeeds exactly when one of them does. -/
theorem turnIntoCobaltThread_eq (env : Env) (log : Log) :
    turnIntoCobaltThread false env log =
      (if env.after (.setScheduler env.tid) log 0 = 0 ∨
          env.after (.setScheduler env.tid) log 1 = 0 then 0 else -1,
        log ++ promotionCalls env.tid (env.after (.setScheduler env.tid) log 0)
          (env.after (.setScheduler env.tid) log 1)) := by
  rw [turnIntoCobaltThread]
  simp only [cobaltM_bind_eq, getTid_eq, issue_eq]
  by_cases first : env.after (.setScheduler env.tid) log 0 = 0
  · simp [first, promotionCalls]
  · simp [first, promotionCalls, turnIntoCobaltThread_recurred_eq]
    split <;> simp_all

/-- The retry policy of §4.2, written from the design: the result and the calls of one
wrapped operation `op` whose two attempts would return `r₁`, `r₂` and whose two
scheduler calls would return `s₁`, `s₂`. -/
def retryCalls (op : Op) (tid r₁ r₂ s₁ s₂ : Int) : Int × Log :=
  if EPERM ≠ r₁ then (r₁, [(op.call, r₁)])
  else if s₁ = 0 ∨ s₂ = 0 then (r₂, (op.call, r₁) :: promotionCalls tid s₁ s₂ ++ [(op.call, r₂)])
  else (EPERM, (op.call, r₁) :: promotionCalls tid s₁ s₂)

/-- On an enabled object, `try_or_retry` follows the retry policy, for every result of
the wrapped operation and of the scheduler calls. -/
theorem tryOrRetry_enabled_eq (op : Op) (env : Env) (log : Log) :
    tryOrRetry (issue op.call) true env log =
      ((retryCalls op env.tid (env.after op.call log 0) (env.after op.call log 1)
          (env.after (.setScheduler env.tid) log 0) (env.after (.setScheduler env.tid) log 1)).1,
        log ++ (retryCalls op env.tid (env.after op.call log 0) (env.after op.call log 1)
          (env.after (.setScheduler env.tid) log 0) (env.after (.setScheduler env.tid) log 1)).2) := by
  simp only [tryOrRetry, Bool.not_true, cobaltM_bind_eq, issue_eq]
  by_cases first : EPERM = env.after op.call log 0
  · simp [first, retryCalls, turnIntoCobaltThread_eq]
    split_ifs <;> simp_all
  · simp [first, retryCalls]

/-- A disabled object issues no call and returns `0`, the success code. -/
theorem tryOrRetry_disabled (func : CobaltM Int) (env : Env) (log : Log) :
    tryOrRetry func false env log = (0, log) := rfl

/-- `try_lock` on a disabled mutex reports success without issuing any call. -/
theorem disabled_mutex_tryLock_succeeds (env : Env) (log : Log) :
    ({} : XenomaiMutex).tryLock env log = (true, log) := rfl

end ScBela.Xenomai
