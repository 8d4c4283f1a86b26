import ScBela.Xenomai.Cobalt
import Mathlib.Logic.Function.Basic

/-!
# The standard mutex and condition variable

What the native calls mean once the calling thread is in the real-time domain: a POSIX
mutex and condition variable. The kernel keeps the owner of the mutex and, for every
thread blocked inside a native call, what that thread waits for. `Native` says what one
call does. `Posix.Step` lets any number of client threads call the standard primitives,
in any interleaving.

This is the specification side of `ScBela.Xenomai.Refinement`, where the calls of
`XenomaiLock.cpp` are shown to behave as these.

## Main definitions

* `Kernel` — the owner of the mutex and the threads blocked in native calls
* `Native` — one native call by a real-time thread
* `Posix.Sys`, `Posix.Step` — client threads calling the standard primitives
* `Posix.Sys.refuse` — a call that fails with `EPERM` and changes nothing
-/

namespace ScBela.Xenomai

/-- Where a thread inside a blocking native call waits. -/
inductive Blocked
  /-- In `pthread_mutex_lock`, for the mutex. -/
  | lock
  /-- In `pthread_cond_wait`, for a signal. -/
  | signal
  /-- In `pthread_cond_wait`, signalled, for the mutex. -/
  | reacquire
  deriving DecidableEq, Repr

/-- What the kernel keeps of the mutex and the condition variable. -/
structure Kernel where
  owner : Option Nat
  queue : Nat → Option Blocked

namespace Kernel

/-- No owner and nobody blocked. -/
def free : Kernel := ⟨none, fun _ => none⟩

/-- Thread `t` blocks, waiting for `b`. -/
def block (k : Kernel) (t : Nat) (b : Blocked) : Kernel :=
  { k with queue := Function.update k.queue t (some b) }

/-- The signalled thread `u` now waits for the mutex. -/
def signal (k : Kernel) (u : Nat) : Kernel := k.block u .reacquire

/-- Every thread waiting for a signal now waits for the mutex. -/
def broadcast (k : Kernel) : Kernel :=
  { k with queue := fun u => if k.queue u = some .signal then some .reacquire else k.queue u }

/-- The blocked thread `t` takes the mutex and leaves its native call. -/
def acquire (k : Kernel) (t : Nat) : Kernel :=
  ⟨some t, Function.update k.queue t none⟩

end Kernel

/-- How a native call comes back: with a result, or blocked inside the kernel. -/
inductive Reply
  | ret (r : Int)
  | blocks
  deriving DecidableEq, Repr

/-- One native call by thread `t` in the real-time domain: a POSIX mutex (`trylock`
returns `EBUSY` when the mutex is held, `unlock` by a non-owner returns `EPERM`) and a
POSIX condition variable (`wait` releases the mutex and blocks until signalled; waiting
without the mutex returns `EPERM`). A signal wakes any one waiter. -/
inductive Native (t : Nat) : Op → Kernel → Reply → Kernel → Prop
  | lock_free {k : Kernel} : k.owner = none → Native t .lock k (.ret 0) { k with owner := some t }
  | lock_held {k : Kernel} : k.owner ≠ none → Native t .lock k .blocks (k.block t .lock)
  | tryLock_free {k : Kernel} : k.owner = none →
      Native t .tryLock k (.ret 0) { k with owner := some t }
  | tryLock_held {k : Kernel} : k.owner ≠ none → Native t .tryLock k (.ret EBUSY) k
  | unlock_owner {k : Kernel} : k.owner = some t →
      Native t .unlock k (.ret 0) { k with owner := none }
  | unlock_other {k : Kernel} : k.owner ≠ some t → Native t .unlock k (.ret EPERM) k
  | wait_owner {k : Kernel} : k.owner = some t →
      Native t .wait k .blocks ({ k with owner := none }.block t .signal)
  | wait_other {k : Kernel} : k.owner ≠ some t → Native t .wait k (.ret EPERM) k
  | signal_one {k : Kernel} (u : Nat) : k.queue u = some .signal →
      Native t .notifyOne k (.ret 0) (k.signal u)
  | signal_none {k : Kernel} : (∀ u, k.queue u ≠ some .signal) →
      Native t .notifyOne k (.ret 0) k
  | broadcast {k : Kernel} : Native t .notifyAll k (.ret 0) k.broadcast

namespace Native

variable {t : Nat} {op : Op} {k k' : Kernel} {rep : Reply}

/-- A native call that fails with `EPERM` changes nothing. -/
theorem eq_of_eperm (native : Native t op k (.ret EPERM) k') : k' = k := by
  cases native <;> rfl

/-- Only the caller can become the owner. -/
theorem owner_new {h : Nat} (native : Native t op k rep k') (owns : k'.owner = some h) :
    k.owner = some h ∨ h = t := by
  cases native <;> simp_all [Kernel.block, Kernel.signal, Kernel.broadcast]

/-- Only the caller starts waiting; a thread already waiting may change what for. -/
theorem queue_new {u : Nat} {b : Blocked} (native : Native t op k rep k')
    (queued : k'.queue u = some b) : k.queue u ≠ none ∨ u = t := by
  by_cases same : u = t
  · exact .inr same
  · left
    cases native
    all_goals try simp only [Kernel.block, Kernel.signal, Kernel.broadcast,
      Function.update_apply] at queued
    all_goals (try split_ifs at queued) <;> simp_all

/-- A thread other than the caller that is not blocked stays unblocked. -/
theorem queue_none {u : Nat} (native : Native t op k rep k') (other : u ≠ t)
    (unqueued : k.queue u = none) : k'.queue u = none := by
  cases queued : k'.queue u with
  | none => rfl
  | some b => exact ((native.queue_new queued).resolve_right other unqueued).elim

end Native

/-! ## Client threads calling the standard primitives -/

namespace Posix

/-- Where a client thread is: between calls, inside a call of `op`, or returning `r`. -/
inductive Pc
  | idle
  | calling (op : Op)
  | returned (r : Int)
  deriving DecidableEq, Repr

/-- The thread leaves a native call that came back with `r`. -/
def Pc.resume : Pc → Int → Pc
  | .calling _, r => .returned r
  | pc, _ => pc

/-- Where the caller of `op` is after the native call replied. -/
def Pc.ofReply (op : Op) : Reply → Pc
  | .ret r => .returned r
  | .blocks => .calling op

/-- The kernel and every client thread. -/
structure Sys where
  kernel : Kernel
  pc : Nat → Pc

/-- Move thread `t` to `pc`. -/
def Sys.setPc (s : Sys) (t : Nat) (pc : Pc) : Sys := { s with pc := Function.update s.pc t pc }

/-- Thread `t`'s call fails with `EPERM` and changes nothing else. -/
def Sys.refuse (s : Sys) (t : Nat) : Sys := s.setPc t (.returned EPERM)

/-- One step of one thread: start a call, make the native call, be woken by the kernel
with the mutex, wake up spuriously from a condition wait, or return. -/
inductive Step : Sys → Nat → Sys → Prop
  | invoke {s : Sys} {t : Nat} (op : Op) : s.pc t = .idle → Step s t (s.setPc t (.calling op))
  | native {s : Sys} {t : Nat} {op : Op} {rep : Reply} {k : Kernel} :
      s.pc t = .calling op → s.kernel.queue t = none → Native t op s.kernel rep k →
      Step s t ({ s with kernel := k }.setPc t (Pc.ofReply op rep))
  | acquire {s : Sys} {t : Nat} {b : Blocked} :
      s.kernel.queue t = some b → b ≠ .signal → s.kernel.owner = none →
      Step s t ({ s with kernel := s.kernel.acquire t }.setPc t ((s.pc t).resume 0))
  | spurious {s : Sys} {t : Nat} : s.kernel.queue t = some .signal →
      Step s t { s with kernel := s.kernel.signal t }
  | finish {s : Sys} {t : Nat} {r : Int} : s.pc t = .returned r → Step s t (s.setPc t .idle)

/-- A step of the standard primitives, or a call refused with `EPERM`. -/
inductive StepOrRefuse : Sys → Nat → Sys → Prop
  | step {s s' : Sys} {t : Nat} : Step s t s' → StepOrRefuse s t s'
  | refuse {s : Sys} {t : Nat} {op : Op} : s.pc t = .calling op → s.kernel.queue t = none →
      StepOrRefuse s t (s.refuse t)

/-- The states the standard primitives reach from a free kernel and idle threads, when
calls may also be refused. -/
inductive Reachable : Sys → Prop
  | initial : Reachable ⟨.free, fun _ => .idle⟩
  | step {s s' : Sys} {t : Nat} : Reachable s → StepOrRefuse s t s' → Reachable s'

end Posix

end ScBela.Xenomai
