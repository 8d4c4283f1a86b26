import Mathlib.Data.List.Basic

/-!
# Libcobalt as the lock layer sees it

`XenomaiLock.cpp` reaches the real-time kernel only through libcobalt entry points
(`__wrap_pthread_mutex_init`, `__wrap_sched_setscheduler`, ...) and `xenomai_init`.
A computation in `CobaltM` issues such calls and logs each one with the value it
returned. What a call returns is the environment's business: the `k`-th call of a
kind returns `Env.result kind k`, for an arbitrary `Env`. Nothing else about Cobalt is
assumed here; `ScBela.Xenomai.Threads` gives the calls a meaning over thread domains.

## Main definitions

* `Call` — the libcobalt entry points of `XenomaiLock.cpp`
* `Env` — the result of every call, and the id of the calling thread; `Env.after` reads
  the results still to come after a log
* `CobaltM` — computations that issue calls and log them
* `issue`, `initializeXenomai`, `getTid` — the primitive steps
-/

namespace ScBela.Xenomai

/-- `EPERM`: what a real-time-domain call returns to a thread Cobalt does not schedule. -/
def EPERM : Int := 1

/-- `EBUSY`: `pthread_mutex_trylock` on a held mutex. -/
def EBUSY : Int := 16

/-- `EINVAL`: an argument the call rejects. -/
def EINVAL : Int := 22

/-- The libcobalt entry points `XenomaiLock.cpp` calls, and `xenomai_init`. -/
inductive Call
  | mutexInit
  | mutexDestroy
  | mutexLock
  | mutexTrylock
  | mutexUnlock
  | condInit
  | condDestroy
  | condWait
  | condSignal
  | condBroadcast
  | setScheduler (tid : Int)
  | xenomaiInit
  deriving DecidableEq, Repr

/-- The operations `try_or_retry` wraps: `lock`, `try_lock` and `unlock` of the mutex,
`wait`, `notify_one` and `notify_all` of the condition variable. -/
inductive Op
  | lock
  | tryLock
  | unlock
  | wait
  | notifyOne
  | notifyAll
  deriving DecidableEq, Repr

/-- The native call each operation wraps. -/
def Op.call : Op → Call
  | .lock => .mutexLock
  | .tryLock => .mutexTrylock
  | .unlock => .mutexUnlock
  | .wait => .condWait
  | .notifyOne => .condSignal
  | .notifyAll => .condBroadcast

@[simp] theorem Op.call_ne_setScheduler (op : Op) (tid : Int) : op.call ≠ .setScheduler tid := by
  cases op <;> simp [Op.call]

@[simp] theorem Op.call_ne_xenomaiInit (op : Op) : op.call ≠ .xenomaiInit := by
  cases op <;> simp [Op.call]

/-- The calls that act on the native mutex handle a `XenomaiMutex` owns. -/
def Call.usesMutexHandle : Call → Bool
  | .mutexDestroy | .mutexLock | .mutexTrylock | .mutexUnlock => true
  | _ => false

/-- The calls that act on the native condition handle a `XenomaiConditionVariable` owns. -/
def Call.usesCondHandle : Call → Bool
  | .condDestroy | .condWait | .condSignal | .condBroadcast => true
  | _ => false

/-- The environment: the `k`-th call of kind `c` returns `result c k`; `tid` is what
`syscall(SYS_gettid)` returns to the calling thread. -/
structure Env where
  result : Call → Nat → Int
  tid : Int

/-- The calls issued so far, each with the value it returned. -/
abbrev Log := List (Call × Int)

/-- Computations of the lock layer: they read the environment and extend the log. -/
abbrev CobaltM := ReaderT Env (StateM Log)

/-- The result of the `n`-th call of kind `c` still to come after `log`. -/
def Env.after (env : Env) (c : Call) (log : Log) (n : Nat) : Int :=
  env.result c (log.countP (·.1 = c) + n)

@[simp] theorem Env.after_append (env : Env) (c : Call) (log earlier : Log) (n : Nat) :
    env.after c (log ++ earlier) n = env.after c log (earlier.countP (·.1 = c) + n) := by
  simp [Env.after, Nat.add_assoc]

/-- Issue one call; it returns the environment's answer to the next call of its kind. -/
def issue (c : Call) : CobaltM Int := fun env log =>
  (env.after c log 0, log ++ [(c, env.after c log 0)])

/-- `initialize_xenomai`: `xenomai_init` with a blank argument vector. It returns nothing. -/
def initializeXenomai : CobaltM Unit := fun _ log => ((), log ++ [(.xenomaiInit, 0)])

/-- `get_tid`: `syscall(SYS_gettid)`. It issues no libcobalt call. -/
def getTid : CobaltM Int := fun env log => (env.tid, log)

@[simp] theorem cobaltM_pure_eq {α : Type} (a : α) (env : Env) (log : Log) :
    (pure a : CobaltM α) env log = (a, log) := rfl

@[simp] theorem cobaltM_bind_eq {α β : Type} (x : CobaltM α) (f : α → CobaltM β)
    (env : Env) (log : Log) :
    (x >>= f) env log = f (x env log).1 env (x env log).2 := rfl

@[simp] theorem cobaltM_map_eq {α β : Type} (f : α → β) (x : CobaltM α) (env : Env) (log : Log) :
    (f <$> x) env log = (f (x env log).1, (x env log).2) := rfl

@[simp] theorem issue_eq (c : Call) (env : Env) (log : Log) :
    issue c env log = (env.after c log 0, log ++ [(c, env.after c log 0)]) := rfl

@[simp] theorem initializeXenomai_eq (env : Env) (log : Log) :
    initializeXenomai env log = ((), log ++ [(.xenomaiInit, 0)]) := rfl

@[simp] theorem getTid_eq (env : Env) (log : Log) : getTid env log = (env.tid, log) := rfl

end ScBela.Xenomai
