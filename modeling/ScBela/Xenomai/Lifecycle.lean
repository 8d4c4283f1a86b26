import ScBela.Xenomai.RetryPolicy

/-!
# The life of a lock object

A `XenomaiMutex` or `XenomaiConditionVariable` is constructed, receives any sequence of
operations, and is destroyed. Every operation goes through `try_or_retry`, so once the
object is built, `enabled` alone decides whether anything reaches the native handle:
an enabled object issues the wrapped call, a disabled one issues nothing, and the
destructor destroys the handle exactly when the object is enabled.

Whether that is right rests on the constructors, which must make `enabled` say that the
native init succeeded. The mutex constructor sets it after any first result other than
`EPERM`, so a failed init leaves an enabled mutex on an uninitialised handle. The
condition-variable constructor returns before setting it when the retried init
succeeds, so an initialised handle is never used and never destroyed.

## Main definitions

* `MutexCall`, `CondCall` — what a client can ask of each object
* `XenomaiMutex.life`, `XenomaiConditionVariable.life` — construction, calls, destruction

## Main results

* `tryOrRetry_adds` — one `try_or_retry` issues its wrapped call and the calls of a
  promotion, and nothing at all when disabled
* `lock_objects_live_by_enabled` — for every environment and every sequence of client
  calls, the life of either object is its constructor's init calls, then only the wrapped
  calls of its operations and promotions, then one destroy of the handle exactly when the
  constructor left it enabled; a disabled object issues nothing after its constructor
* `init_results_misread` — the two constructors at the inputs where they misread the
  native init
-/

namespace ScBela.Xenomai

/-- A call a client makes on a `XenomaiMutex`. -/
inductive MutexCall
  | lock
  | tryLock
  | unlock
  deriving DecidableEq, Repr

/-- A call a client makes on a `XenomaiConditionVariable`. -/
inductive CondCall
  | wait
  | notifyOne
  | notifyAll
  deriving DecidableEq, Repr

/-- The wrapped operation behind each client call. -/
def MutexCall.op : MutexCall → Op
  | .lock => .lock
  | .tryLock => .tryLock
  | .unlock => .unlock

/-- The wrapped operation behind each client call. -/
def CondCall.op : CondCall → Op
  | .wait => .wait
  | .notifyOne => .notifyOne
  | .notifyAll => .notifyAll

/-- A call issued while making a wrapped call `wrapped`: the call itself, or a step of
promoting the thread `tid`. -/
def Call.OfOperation (wrapped : Call → Prop) (tid : Int) (c : Call) : Prop :=
  wrapped c ∨ c = .setScheduler tid ∨ c = .xenomaiInit

theorem promotionCalls_ofOperation {wrapped : Call → Prop} {tid s₁ s₂ : Int} :
    ∀ c ∈ promotionCalls tid s₁ s₂, c.1.OfOperation wrapped tid := by
  unfold promotionCalls Call.OfOperation
  split_ifs <;> simp

/-- One `try_or_retry` of an operation `op` adds to the log the calls of that operation and
of promoting the calling thread, and nothing when the object is disabled. -/
theorem tryOrRetry_adds (op : Op) (enabled : Bool) (env : Env) (log : Log) :
    ∃ new, (tryOrRetry (issue op.call) enabled env log).2 = log ++ new ∧
      (∀ c ∈ new, c.1.OfOperation (· = op.call) env.tid) ∧ (enabled = false → new = []) := by
  cases enabled
  case false => exact ⟨[], by simp [tryOrRetry_disabled], by simp, fun _ => rfl⟩
  case true =>
    have wrapped : Call.OfOperation (· = op.call) env.tid op.call := .inl rfl
    have promoting := @promotionCalls_ofOperation (· = op.call) env.tid
    by_cases first : EPERM = env.after op.call log 0
    · simp [tryOrRetry, first, turnIntoCobaltThread_eq]
      split_ifs
      · refine ⟨_, List.append_assoc .., fun a b mem => ?_⟩
        rcases List.mem_append.mp mem with mem | mem
        · exact (List.mem_cons.mp mem).elim (fun same => by cases same; exact wrapped) (promoting _)
        · cases List.mem_singleton.mp mem; exact wrapped
      · exact ⟨_, rfl, fun a b mem =>
          (List.mem_cons.mp mem).elim (fun same => by cases same; exact wrapped) (promoting _)⟩
    · exact ⟨[(op.call, env.after op.call log 0)], by simp [tryOrRetry, first],
        by simpa using wrapped, nofun⟩

/-- A sequence of client calls, each one `try_or_retry` of its wrapped operation, adds the
calls of those operations and of promotions, and nothing when the object is disabled. -/
theorem performAll_adds_of {α : Type} (wrapped : α → Op) (enabled : Bool)
    (performAll : List α → CobaltM Unit) (nil : ∀ env log, (performAll [] env log).2 = log)
    (cons : ∀ a calls env log, (performAll (a :: calls) env log).2 =
      (performAll calls env (tryOrRetry (issue (wrapped a).call) enabled env log).2).2)
    (calls : List α) (env : Env) (log : Log) :
    ∃ new, (performAll calls env log).2 = log ++ new ∧
      (∀ c ∈ new, c.1.OfOperation (∃ a, · = (wrapped a).call) env.tid) ∧
      (enabled = false → new = []) := by
  induction calls generalizing log with
  | nil => exact ⟨[], by simp [nil], by simp, fun _ => rfl⟩
  | cons a calls ih =>
    obtain ⟨first, firstEq, firstOk, firstNone⟩ := tryOrRetry_adds (wrapped a) enabled env log
    obtain ⟨rest, restEq, restOk, restNone⟩ := ih (log ++ first)
    refine ⟨first ++ rest, by rw [cons, firstEq, restEq, List.append_assoc], ?_,
      fun disabled => by simp [firstNone disabled, restNone disabled]⟩
    simp only [List.mem_append]
    rintro c (mem | mem)
    · exact (firstOk c mem).imp_left fun same => ⟨a, same⟩
    · exact restOk c mem

namespace XenomaiMutex

/-- One client call; `try_lock`'s answer is dropped. -/
def perform (m : XenomaiMutex) : MutexCall → CobaltM Unit
  | .lock => m.lock
  | .tryLock => do let _ ← m.tryLock
  | .unlock => m.unlock

/-- Any sequence of client calls. -/
def performAll (m : XenomaiMutex) : List MutexCall → CobaltM Unit
  | [] => pure ()
  | c :: calls => do m.perform c; m.performAll calls

/-- A whole life: construction, the client calls, destruction. -/
def life (calls : List MutexCall) : CobaltM Unit := do
  let m ← construct
  m.performAll calls
  m.destruct

/-- Every call of a mutex goes through `try_or_retry` on the wrapped operation. -/
theorem perform_eq (m : XenomaiMutex) (c : MutexCall) (env : Env) (log : Log) :
    (m.perform c env log).2 = (tryOrRetry (issue c.op.call) m.enabled env log).2 := by
  cases c <;> rfl

/-- The constructor issues only native inits and `xenomai_init`. -/
theorem construct_calls (env : Env) :
    ∀ c ∈ (construct env []).2, c.1 = .mutexInit ∨ c.1 = .xenomaiInit := by
  simp only [construct, cobaltM_bind_eq, issue_eq, initializeXenomai_eq]
  split_ifs <;> simp [ite_apply]
  split_ifs <;> aesop

/-- Client calls on a mutex add the calls of its wrapped operations and of promotions,
and nothing when it is disabled. -/
theorem performAll_adds (m : XenomaiMutex) :
    ∀ calls env log, ∃ new, (m.performAll calls env log).2 = log ++ new ∧
      (∀ c ∈ new, c.1.OfOperation (∃ mc : MutexCall, · = mc.op.call) env.tid) ∧
      (m.enabled = false → new = []) :=
  performAll_adds_of MutexCall.op m.enabled m.performAll (fun _ _ => rfl)
    fun mc _ env log => by simp only [performAll, cobaltM_bind_eq]; rw [perform_eq]

end XenomaiMutex

namespace XenomaiConditionVariable

/-- One client call. -/
def perform (c : XenomaiConditionVariable) : CondCall → CobaltM Unit
  | .wait => c.wait
  | .notifyOne => c.notifyOne
  | .notifyAll => c.notifyAll

/-- Any sequence of client calls. -/
def performAll (c : XenomaiConditionVariable) : List CondCall → CobaltM Unit
  | [] => pure ()
  | call :: calls => do c.perform call; c.performAll calls

/-- A whole life: construction, the client calls, destruction. -/
def life (calls : List CondCall) : CobaltM Unit := do
  let c ← construct
  c.performAll calls
  c.destruct

theorem perform_eq (c : XenomaiConditionVariable) (call : CondCall) (env : Env) (log : Log) :
    (c.perform call env log).2 = (tryOrRetry (issue call.op.call) c.enabled env log).2 := by
  cases call <;> rfl

/-- The constructor issues only native inits and `xenomai_init`. -/
theorem construct_calls (env : Env) :
    ∀ c ∈ (construct env []).2, c.1 = .condInit ∨ c.1 = .xenomaiInit := by
  simp only [construct, cobaltM_bind_eq, issue_eq, initializeXenomai_eq]
  split_ifs <;> simp [ite_apply]

/-- Client calls on a condition variable add the calls of its wrapped operations and of
promotions, and nothing when it is disabled. -/
theorem performAll_adds (cv : XenomaiConditionVariable) :
    ∀ calls env log, ∃ new, (cv.performAll calls env log).2 = log ++ new ∧
      (∀ c ∈ new, c.1.OfOperation (∃ call : CondCall, · = call.op.call) env.tid) ∧
      (cv.enabled = false → new = []) :=
  performAll_adds_of CondCall.op cv.enabled cv.performAll (fun _ _ => rfl)
    fun call _ env log => by simp only [performAll, cobaltM_bind_eq]; rw [perform_eq]

end XenomaiConditionVariable

/-! ## The whole life -/

/-- The life of a `XenomaiMutex` and of a `XenomaiConditionVariable`, for every environment
and every sequence of client calls: the constructor issues only init calls; after it, the
operations issue only their own wrapped calls and the calls of promotions, the destructor's
`notify_all` included, and nothing at all when the object is disabled; the last call
destroys the handle, exactly when the constructor left the object enabled. -/
theorem lock_objects_live_by_enabled (env : Env) (mutexCalls : List MutexCall)
    (condCalls : List CondCall) :
    (let constructed := XenomaiMutex.construct env []
      ∃ ops r, (XenomaiMutex.life mutexCalls env []).2 = constructed.2 ++ ops ++
          (if constructed.1.enabled then [(.mutexDestroy, r)] else []) ∧
        (∀ c ∈ constructed.2, c.1 = .mutexInit ∨ c.1 = .xenomaiInit) ∧
        (∀ c ∈ ops, c.1.OfOperation (∃ mc : MutexCall, · = mc.op.call) env.tid) ∧
        (constructed.1.enabled = false → ops = [])) ∧
    (let constructed := XenomaiConditionVariable.construct env []
      ∃ ops r, (XenomaiConditionVariable.life condCalls env []).2 = constructed.2 ++ ops ++
          (if constructed.1.enabled then [(.condDestroy, r)] else []) ∧
        (∀ c ∈ constructed.2, c.1 = .condInit ∨ c.1 = .xenomaiInit) ∧
        (∀ c ∈ ops, c.1.OfOperation (∃ call : CondCall, · = call.op.call) env.tid) ∧
        (constructed.1.enabled = false → ops = [])) := by
  constructor
  · obtain ⟨ops, opsEq, opsOk, opsNone⟩ :=
      (XenomaiMutex.construct env []).1.performAll_adds mutexCalls env (XenomaiMutex.construct env []).2
    cases enabled : (XenomaiMutex.construct env []).1.enabled
    case false =>
      refine ⟨ops, 0, ?_, XenomaiMutex.construct_calls env, opsOk, fun _ => opsNone enabled⟩
      simp [XenomaiMutex.life, XenomaiMutex.destruct, opsEq, enabled]
    case true =>
      refine ⟨ops, env.after .mutexDestroy ((XenomaiMutex.construct env []).2 ++ ops) 0, ?_,
        XenomaiMutex.construct_calls env, opsOk, by simp [enabled]⟩
      simp [XenomaiMutex.life, XenomaiMutex.destruct, opsEq, enabled]
  · obtain ⟨ops, opsEq, opsOk, opsNone⟩ := (XenomaiConditionVariable.construct env []).1.performAll_adds
      condCalls env (XenomaiConditionVariable.construct env []).2
    obtain ⟨broadcast, broadcastEq, broadcastOk, -⟩ :=
      tryOrRetry_adds .notifyAll true env ((XenomaiConditionVariable.construct env []).2 ++ ops)
    cases enabled : (XenomaiConditionVariable.construct env []).1.enabled
    case false =>
      refine ⟨ops, 0, ?_, XenomaiConditionVariable.construct_calls env, opsOk, fun _ => opsNone enabled⟩
      simp [XenomaiConditionVariable.life, XenomaiConditionVariable.destruct, opsEq, enabled]
    case true =>
      refine ⟨ops ++ broadcast, env.after .condDestroy
        ((XenomaiConditionVariable.construct env []).2 ++ ops ++ broadcast) 0, ?_,
        XenomaiConditionVariable.construct_calls env, ?_, by simp [enabled]⟩
      · simp only [Op.call] at broadcastEq
        simp [XenomaiConditionVariable.life, XenomaiConditionVariable.destruct, opsEq, enabled,
          XenomaiConditionVariable.notifyAll, broadcastEq]
      · simp only [List.mem_append]
        rintro c (mem | mem)
        · exact opsOk c mem
        · exact (broadcastOk c mem).imp_left fun same => ⟨.notifyAll, same⟩

/-! ## Where the constructors misread the native init -/

/-- Every call succeeds except the first native init of a handle, which returns `first`. -/
def firstInitReturns (first : Int) : Env where
  result c k := if (c = .mutexInit ∨ c = .condInit) ∧ k = 0 then first else 0
  tid := 0

/-- A mutex whose init failed with `EINVAL` is enabled: it locks and destroys a handle
that no init call set up. A condition variable whose init succeeded on the retry after
`EPERM` is disabled: its handle is never used and never destroyed. On the same init
results the two constructors disagree. -/
theorem init_results_misread :
    (XenomaiMutex.life [.lock] (firstInitReturns EINVAL) []).2 =
        [(.mutexInit, EINVAL), (.mutexLock, 0), (.mutexDestroy, 0)] ∧
      (XenomaiConditionVariable.life [.wait] (firstInitReturns EPERM) []).2 =
        [(.condInit, EPERM), (.xenomaiInit, 0), (.condInit, 0)] ∧
      (XenomaiMutex.construct (firstInitReturns EPERM) []).1.enabled = true ∧
      (XenomaiConditionVariable.construct (firstInitReturns EPERM) []).1.enabled = false := by
  decide

end ScBela.Xenomai
