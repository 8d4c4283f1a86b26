import ScBela.Xenomai.Cobalt

/-!
# `XenomaiLock.cpp`

The mutex and condition variable that `scsynth` uses on Bela, translated call for call.
Every operation goes through `try_or_retry`: it issues the native call, and on `EPERM`,
read as "this thread is not a Cobalt thread", it asks `turn_into_cobalt_thread` to move
the calling thread into the real-time domain and issues the call once more.

The debugging output (`xprintf`, `fprintf`) and the unused `recurred` arguments of the
public operations are left out; `cobalt_thread_mode` and `pthread_getschedparam` issue no
call that changes anything and are left out too.

## Main definitions

* `turnIntoCobaltThread` — `turn_into_cobalt_thread`
* `tryOrRetry` — `try_or_retry`
* `XenomaiMutex`, `XenomaiConditionVariable` — the two classes, constructors, operations
  and destructors
-/

namespace ScBela.Xenomai

/-- `turn_into_cobalt_thread`: re-apply the thread's own policy through
`__wrap_sched_setscheduler`; on failure initialise Xenomai and try once more. -/
def turnIntoCobaltThread (recurred : Bool := false) : CobaltM Int := do
  let tid ← getTid
  let ret ← issue (.setScheduler tid)
  if ret ≠ 0 then
    initializeXenomai
    if !recurred then turnIntoCobaltThread true else return -1
  else
    return 0
termination_by if recurred then 0 else 1
decreasing_by simp_all

/-- `try_or_retry`. A disabled object returns `false`, which the `int` result turns
into `0`. -/
def tryOrRetry (func : CobaltM Int) (enabled : Bool) : CobaltM Int := do
  if !enabled then
    return 0
  let ret ← func
  if EPERM ≠ ret then
    return ret
  if (← turnIntoCobaltThread) ≠ 0 then
    return EPERM
  func

/-! ## `XenomaiMutex` -/

/-- A `XenomaiMutex`: the native handle lives in Cobalt; the object keeps `enabled`,
which is `false` until the constructor sets it. -/
structure XenomaiMutex where
  enabled : Bool := false
  deriving DecidableEq, Repr

/-- `XenomaiMutex::XenomaiMutex`. -/
def XenomaiMutex.construct : CobaltM XenomaiMutex := do
  if EPERM = (← issue .mutexInit) then
    initializeXenomai
    if (← issue .mutexInit) ≠ 0 then
      return {}
  return { enabled := true }

/-- `XenomaiMutex::~XenomaiMutex`. -/
def XenomaiMutex.destruct (m : XenomaiMutex) : CobaltM Unit := do
  if m.enabled then
    let _ ← issue .mutexDestroy

/-- `XenomaiMutex::try_lock`. -/
def XenomaiMutex.tryLock (m : XenomaiMutex) : CobaltM Bool := do
  return 0 == (← tryOrRetry (issue .mutexTrylock) m.enabled)

/-- `XenomaiMutex::lock`. -/
def XenomaiMutex.lock (m : XenomaiMutex) : CobaltM Unit := do
  let _ ← tryOrRetry (issue .mutexLock) m.enabled

/-- `XenomaiMutex::unlock`. -/
def XenomaiMutex.unlock (m : XenomaiMutex) : CobaltM Unit := do
  let _ ← tryOrRetry (issue .mutexUnlock) m.enabled

/-! ## `XenomaiConditionVariable` -/

/-- A `XenomaiConditionVariable`: as for the mutex, only `enabled` is kept. -/
structure XenomaiConditionVariable where
  enabled : Bool := false
  deriving DecidableEq, Repr

/-- `XenomaiConditionVariable::XenomaiConditionVariable`. -/
def XenomaiConditionVariable.construct : CobaltM XenomaiConditionVariable := do
  let ret ← issue .condInit
  if ret ≠ 0 then
    if EPERM = ret then
      initializeXenomai
      if (← issue .condInit) ≠ 0 then
        return {}
    return {}
  return { enabled := true }

/-- `XenomaiConditionVariable::wait`: `__wrap_pthread_cond_wait` on this handle and the
native handle of the mutex `lck` holds. -/
def XenomaiConditionVariable.wait (c : XenomaiConditionVariable) : CobaltM Unit := do
  let _ ← tryOrRetry (issue .condWait) c.enabled

/-- `XenomaiConditionVariable::notify_one`. -/
def XenomaiConditionVariable.notifyOne (c : XenomaiConditionVariable) : CobaltM Unit := do
  let _ ← tryOrRetry (issue .condSignal) c.enabled

/-- `XenomaiConditionVariable::notify_all`. -/
def XenomaiConditionVariable.notifyAll (c : XenomaiConditionVariable) : CobaltM Unit := do
  let _ ← tryOrRetry (issue .condBroadcast) c.enabled

/-- `XenomaiConditionVariable::~XenomaiConditionVariable`: wake the waiters, then
destroy the handle. -/
def XenomaiConditionVariable.destruct (c : XenomaiConditionVariable) : CobaltM Unit := do
  if c.enabled then
    c.notifyAll
    let _ ← issue .condDestroy

end ScBela.Xenomai
