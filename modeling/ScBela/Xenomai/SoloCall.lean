import ScBela.Xenomai.Threads
import ScBela.Xenomai.RetryPolicy

/-!
# One wrapper call is one `try_or_retry`

`try_or_retry` and `turn_into_cobalt_thread` are modelled twice: as the `CobaltM` program
`tryOrRetry`, which issues its calls one after the other against an environment, and as
the places `Wrapper.Pc` of a thread in the interleaved system, where each native call and
each scheduler call is one step. This file shows that the two agree: the calls a thread
makes on its way through one wrapper call, labelled with the results they got, are the
calls `tryOrRetry` issues on an environment that gives those results, and the thread
returns what `tryOrRetry` returns.

At every place of a wrapper call, what is left of `try_or_retry` is a `CobaltM` program
(`Wrapper.Pc.rest`). One move of the thread, with the calls it issues, leaves the same
program run on the longer log (`Wrapper.Moves.rest`), and a run of moves does too.

## Main definitions

* `Wrapper.Moves` — how a thread's place changes at a native or a scheduler call, and
  the calls it issues there
* `Wrapper.Pc.rest` — what is left of `try_or_retry` at each place
* `Answers` — an environment gives a list of calls the results they carry
* `Wrapper.SoloCall` — a thread running alone through one wrapper call

## Main results

* `Wrapper.Step.moves_or_stays` — every step of a thread inside a wrapper call, from a
  reachable state, is a move or leaves it where it is
* `Wrapper.Moves.Run.rest` — a run of moves keeps what is left of `try_or_retry`
* `Wrapper.solo_call_runs_tryOrRetry` — a thread running alone from the start of a wrapper
  call to its return issues calls that some environment answers, and on every such
  environment `tryOrRetry` issues exactly those calls and returns the same result
-/

namespace ScBela.Xenomai

/-- `env` gives the calls `calls`, made after `log`, the results they carry: each call but
`xenomai_init` gets the environment's answer to the next call of its kind, and
`xenomai_init` returns `0`. -/
def Answers (env : Env) : Log → Log → Prop
  | _, [] => True
  | log, (c, v) :: calls =>
    (if c = .xenomaiInit then v = 0 else env.after c log 0 = v) ∧ Answers env (log ++ [(c, v)]) calls

theorem answers_append {env : Env} {log : Log} {calls more : Log} :
    Answers env log (calls ++ more) ↔ Answers env log calls ∧ Answers env (log ++ calls) more := by
  induction calls generalizing log with
  | nil => simp [Answers]
  | cons call calls ih =>
    obtain ⟨c, v⟩ := call
    simp [Answers, ih, and_assoc]

/-- An environment whose answers to the calls after `log` are, kind by kind, the results
`calls` carry, answers `calls`. -/
theorem answers_of_results {env : Env} {calls : Log}
    (inits : ∀ c ∈ calls, c.1 = .xenomaiInit → c.2 = 0) :
    ∀ {log : Log}, (∀ c k, env.result c (log.countP (·.1 = c) + k) =
      ((calls.filter (·.1 = c)).getD k (c, 0)).2) → Answers env log calls := by
  induction calls with
  | nil => exact fun _ => trivial
  | cons call calls ih =>
    obtain ⟨c, v⟩ := call
    intro log results
    refine ⟨?_, ih (fun c mem => inits c (.tail _ mem)) fun c' k => ?_⟩
    · split
      · exact inits _ (.head _) ‹_›
      · simpa [Env.after] using results c 0
    · by_cases same : c = c'
      · subst same
        simpa [Nat.add_assoc, Nat.add_comm 1 k] using results c (k + 1)
      · simpa [same] using results c' k

/-- The environment that gives the calls `calls`, made after `log`, the results they carry,
on the thread `tid`. -/
def Env.ofCalls (tid : Int) (log calls : Log) : Env where
  result c k := ((calls.filter (·.1 = c)).getD (k - log.countP (·.1 = c)) (c, 0)).2
  tid := tid

theorem Env.ofCalls_answers (tid : Int) (log : Log) {calls : Log}
    (inits : ∀ c ∈ calls, c.1 = .xenomaiInit → c.2 = 0) :
    Answers (Env.ofCalls tid log calls) log calls :=
  answers_of_results inits fun c k => by simp [Env.ofCalls]

namespace Wrapper

/-- How thread `t`'s place in a wrapper call changes when one of its calls returns, with
the calls it issues there: the native call, which returned `r`; or a call of
`__wrap_sched_setscheduler` for its own id, which returned `ret`, followed by
`xenomai_init` when it failed. -/
inductive Moves (t : Nat) : Pc → Log → Pc → Prop
  | native {op : Op} {stage : Stage} (r : Int) : stage.issues = true →
      Moves t (.call op stage) [(op.call, r)] (afterFunc op stage r)
  | setScheduler {op : Op} {stage : Stage} (ret : Int) : stage.issues = false →
      Moves t (.call op stage)
        ((.setScheduler t, ret) :: if ret ≠ 0 then [(.xenomaiInit, 0)] else [])
        (afterSetScheduler op stage ret)

/-- What is left of `try_or_retry` at each place of a wrapper call: all of it before the
first attempt; the promotion and the second attempt before each scheduler call; the
second attempt; the result once it returned. An idle thread has nothing left. -/
def Pc.rest : Pc → CobaltM Int
  | .call op .first => tryOrRetry (issue op.call) true
  | .call op .promote => do
    if (← turnIntoCobaltThread) ≠ 0 then return EPERM
    issue op.call
  | .call op .promoteAgain => do
    if (← turnIntoCobaltThread true) ≠ 0 then return EPERM
    issue op.call
  | .call op .retry => issue op.call
  | .returned r => pure r
  | .idle => pure 0

/-- The inits of a move return `0`. -/
theorem Moves.inits {t : Nat} {pc pc' : Pc} {calls : Log} (moves : Moves t pc calls pc') :
    ∀ c ∈ calls, c.1 = .xenomaiInit → c.2 = 0 := by
  cases moves with
  | native r _ => simp
  | setScheduler ret _ => split <;> simp

/-- One move leaves what is left of `try_or_retry`, run on the log with the move's calls. -/
theorem Moves.rest {t : Nat} {pc pc' : Pc} {calls : Log} (moves : Moves t pc calls pc')
    {env : Env} (tid : env.tid = t) {log : Log} (answers : Answers env log calls) :
    pc.rest env log = pc'.rest env (log ++ calls) := by
  cases moves with
  | @native op stage r issues =>
    have result : env.after op.call log 0 = r := by
      simpa [Answers, Op.call_ne_xenomaiInit] using answers
    cases stage
    case first =>
      by_cases eperm : EPERM = r <;> simp [Pc.rest, afterFunc, tryOrRetry, result, eperm]
    case retry => simp [Pc.rest, afterFunc, result]
    all_goals simp [Stage.issues] at issues
  | @setScheduler op stage ret issues =>
    have result : env.after (.setScheduler t) log 0 = ret := by simpa [Answers] using answers.1
    cases stage
    case promote =>
      simp only [Pc.rest]
      rw [turnIntoCobaltThread]
      by_cases failed : ret = 0 <;> simp [afterSetScheduler, Pc.rest, tid, result, failed]
    case promoteAgain =>
      by_cases failed : ret = 0 <;>
        simp [afterSetScheduler, Pc.rest, turnIntoCobaltThread_recurred_eq, tid, result, failed]
    all_goals simp [Stage.issues] at issues

/-- A run of moves, with the calls made along it. -/
inductive Moves.Run (t : Nat) : Pc → Log → Pc → Prop
  | refl (pc : Pc) : Run t pc [] pc
  | step {pc pc' pc'' : Pc} {moved calls : Log} :
      Moves t pc moved pc' → Run t pc' calls pc'' → Run t pc (moved ++ calls) pc''

theorem Moves.Run.inits {t : Nat} {pc pc' : Pc} {calls : Log} (run : Moves.Run t pc calls pc') :
    ∀ c ∈ calls, c.1 = .xenomaiInit → c.2 = 0 := by
  induction run with
  | refl => simp
  | step moves _ ih =>
    simp only [List.mem_append]
    rintro c (mem | mem)
    exacts [moves.inits c mem, ih c mem]

/-- A run of moves leaves what is left of `try_or_retry`, run on the log with the run's
calls. -/
theorem Moves.Run.rest {t : Nat} {pc pc' : Pc} {calls : Log} (run : Moves.Run t pc calls pc')
    {env : Env} (tid : env.tid = t) :
    ∀ {log : Log}, Answers env log calls → pc.rest env log = pc'.rest env (log ++ calls) := by
  induction run with
  | refl => simp
  | step moves _ ih =>
    intro log answers
    rw [answers_append] at answers
    rw [moves.rest tid answers.1, ih answers.2, List.append_assoc]

/-- Every step of thread `t` inside a wrapper call, from a state the invariant holds in,
either leaves it where it is (its native call blocks, or it wakes up spuriously) or moves
it, issuing calls. -/
theorem Step.moves_or_stays {s s' : Sys} {t : Nat} (inv : Inv s) (step : Step s t s')
    {op : Op} {stage : Stage} (calling : s.pc t = .call op stage) :
    s'.pc t = s.pc t ∨ ∃ calls, Moves t (s.pc t) calls (s'.pc t) := by
  cases step with
  | invoke _ idle | invokeDisabled _ idle => simp [calling] at idle
  | finish done => simp [calling] at done
  | nativeStandard calling' issues =>
    rw [calling'] at calling ⊢
    exact .inr ⟨_, by simpa using Moves.native EPERM issues⟩
  | @nativeRealTime _ _ rep _ calling' issues _ _ _ =>
    rw [calling'] at calling ⊢
    cases rep with
    | ret r => exact .inr ⟨_, by simpa [Pc.ofReply] using Moves.native r issues⟩
    | blocks => exact .inl (by simp [Pc.ofReply])
  | setScheduler ret calling' issues =>
    rw [calling'] at calling ⊢
    exact .inr ⟨_, by split <;> simpa using Moves.setScheduler ret issues⟩
  | acquire queued _ _ =>
    have issues : stage.issues = true := by
      by_contra promotes
      simp [inv.promoting_unqueued t op stage calling (by simpa using promotes)] at queued
    exact .inr ⟨_, by simpa [calling, Pc.resume] using Moves.native 0 issues⟩
  | spurious _ => exact .inl rfl

/-- Thread `t` running alone inside one wrapper call, from a place inside it up to its
return. -/
inductive SoloCall (t : Nat) : Sys → Sys → Prop
  | returned {s : Sys} {r : Int} : s.pc t = .returned r → SoloCall t s s
  | step {s s' s'' : Sys} {op : Op} {stage : Stage} : s.pc t = .call op stage → Step s t s' →
      SoloCall t s' s'' → SoloCall t s s''

/-- The places a solo call passes through are a run of moves. -/
theorem SoloCall.moves {t : Nat} {s s' : Sys} (solo : SoloCall t s s') (reachable : Reachable s) :
    ∃ calls, Moves.Run t (s.pc t) calls (s'.pc t) := by
  induction solo with
  | returned => exact ⟨[], .refl _⟩
  | step calling step _ ih =>
    obtain ⟨calls, run⟩ := ih (reachable.step step)
    rcases step.moves_or_stays reachable.inv calling with stays | ⟨moved, moves⟩
    · exact ⟨calls, stays ▸ run⟩
    · exact ⟨_, .step moves run⟩

/-- A thread that runs alone from the start of a wrapper call to its return, in any
reachable state, issues calls that some environment answers on its thread id; and on
every environment that answers them, `tryOrRetry` issues exactly those calls and returns
what the thread returned. -/
theorem solo_call_runs_tryOrRetry {s s' : Sys} {t : Nat} {op : Op} {r : Int}
    (reachable : Reachable s) (calling : s.pc t = .call op .first) (solo : SoloCall t s s')
    (returned : s'.pc t = .returned r) :
    ∃ calls, Moves.Run t (.call op .first) calls (.returned r) ∧
      (∀ log, Answers (Env.ofCalls t log calls) log calls) ∧
      ∀ env log, env.tid = (t : Int) → Answers env log calls →
        tryOrRetry (issue op.call) true env log = (r, log ++ calls) := by
  obtain ⟨calls, run⟩ := solo.moves reachable
  rw [calling, returned] at run
  exact ⟨calls, run, fun log => Env.ofCalls_answers t log run.inits,
    fun env log tid answers => run.rest tid answers⟩

/-- A standard thread's `lock`, run alone: the native call returns `EPERM`, the scheduler
call promotes the thread, and the second attempt takes the free mutex. -/
theorem standard_lock_runs_tryOrRetry :
    let s₁ := (Sys.initial fun _ => .standard).setPc 0 (.call .lock .first)
    let s₂ := s₁.setPc 0 (.call .lock .promote)
    let s₃ := (s₂.promote 0).setPc 0 (.call .lock .retry)
    let s₄ := ({ s₃ with kernel := { s₃.kernel with owner := some 0 } } : Sys).setPc 0 (.returned 0)
    Reachable s₁ ∧ s₁.pc 0 = .call .lock .first ∧ SoloCall 0 s₁ s₄ ∧ s₄.pc 0 = .returned 0 ∧
      ∃ calls, Moves.Run 0 (.call .lock .first) calls (.returned 0) ∧
        (∀ log, Answers (Env.ofCalls (0 : Nat) log calls) log calls) ∧
        ∀ env log, env.tid = ((0 : Nat) : Int) → Answers env log calls →
          tryOrRetry (issue Op.lock.call) true env log = (0, log ++ calls) := by
  intro s₁ s₂ s₃ s₄
  have reachable : Reachable s₁ := .step (.initial _) (.invoke .lock rfl rfl)
  have refused : Step s₁ 0 s₂ := by
    simpa [afterFunc] using @Step.nativeStandard s₁ 0 .lock .first rfl rfl rfl rfl
  have promoted : Step s₂ 0 s₃ := by
    simpa [afterSetScheduler] using @Step.setScheduler s₂ 0 .lock .promote 0 rfl rfl
  have locked : Step s₃ 0 s₄ := by
    simpa [Pc.ofReply, afterFunc] using
      @Step.nativeRealTime s₃ 0 .lock .retry _ _ rfl rfl rfl rfl (.lock_free rfl)
  have solo : SoloCall 0 s₁ s₄ :=
    .step rfl refused (.step rfl promoted (.step rfl locked (.returned rfl)))
  exact ⟨reachable, rfl, solo, rfl, solo_call_runs_tryOrRetry reachable rfl solo rfl⟩

end Wrapper

end ScBela.Xenomai
