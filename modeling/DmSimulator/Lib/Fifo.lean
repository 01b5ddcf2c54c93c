/-
  DmSimulator.Lib.Fifo

  The single FIFO server: jobs with arrival and service times, started one after
  the other as soon as they have arrived and the server is free.
-/
import Mathlib.Algebra.Order.Ring.Nat
import Mathlib.Data.List.Basic

namespace DmSimulator

namespace Fifo

structure Job where
  arrival : Nat
  service : Nat
deriving DecidableEq, Repr

/-- The start times of the jobs on a server that is free from `free` on. -/
def startsFrom : Nat → List Job → List Nat
  | _, [] => []
  | free, job :: jobs =>
      max job.arrival free :: startsFrom (max job.arrival free + job.service) jobs

/-- When the server has served all the jobs. -/
def freeFrom : Nat → List Job → Nat
  | free, [] => free
  | free, job :: jobs => freeFrom (max job.arrival free + job.service) jobs

/-- The start times on a server that has been free from the beginning. -/
def starts (jobs : List Job) : List Nat := startsFrom 0 jobs

def free (jobs : List Job) : Nat := freeFrom 0 jobs

theorem startsFrom_append (jobs more : List Job) (f : Nat) :
    startsFrom f (jobs ++ more) = startsFrom f jobs ++ startsFrom (freeFrom f jobs) more := by
  induction jobs generalizing f with
  | nil => rfl
  | cons first rest ih =>
      rw [List.cons_append, startsFrom, ih]
      rfl

theorem freeFrom_append (jobs more : List Job) (f : Nat) :
    freeFrom f (jobs ++ more) = freeFrom (freeFrom f jobs) more := by
  induction jobs generalizing f with
  | nil => rfl
  | cons first rest ih =>
      rw [List.cons_append, freeFrom, ih]
      rfl

/-- Later jobs do not change when the earlier ones start. -/
theorem starts_append (jobs more : List Job) :
    starts (jobs ++ more) = starts jobs ++ startsFrom (free jobs) more :=
  startsFrom_append jobs more 0

theorem starts_snoc (jobs : List Job) (job : Job) :
    starts (jobs ++ [job]) = starts jobs ++ [max job.arrival (free jobs)] :=
  starts_append jobs [job]

theorem free_snoc (jobs : List Job) (job : Job) :
    free (jobs ++ [job]) = max job.arrival (free jobs) + job.service :=
  freeFrom_append jobs [job] 0

@[simp] theorem length_startsFrom (f : Nat) (jobs : List Job) :
    (startsFrom f jobs).length = jobs.length := by
  induction jobs generalizing f with
  | nil => rfl
  | cons job jobs ih => rw [startsFrom, List.length_cons, ih, List.length_cons]

@[simp] theorem length_starts (jobs : List Job) : (starts jobs).length = jobs.length :=
  length_startsFrom 0 jobs

/-- The first job starts when it arrives. -/
theorem starts_head (job : Job) (jobs : List Job) :
    (starts (job :: jobs))[0]? = some job.arrival := by
  simp [starts, startsFrom]

/-- Every other job starts when it has arrived and its predecessor is done. -/
theorem startsFrom_succ {f : Nat} {jobs : List Job} {k start : Nat} {job next : Job}
    (hjob : jobs[k]? = some job) (hnext : jobs[k + 1]? = some next)
    (hstart : (startsFrom f jobs)[k]? = some start) :
    (startsFrom f jobs)[k + 1]? = some (max next.arrival (start + job.service)) := by
  induction k generalizing f jobs with
  | zero =>
      match jobs with
      | [] => simp at hjob
      | [_] => simp at hnext
      | first :: second :: rest =>
          simp only [List.getElem?_cons_zero, Option.some.injEq, List.getElem?_cons_succ]
            at hjob hnext
          simp only [startsFrom, List.getElem?_cons_zero, Option.some.injEq] at hstart
          simp only [startsFrom, List.getElem?_cons_succ, List.getElem?_cons_zero]
          rw [← hstart, hjob, hnext]
  | succ k ih =>
      cases jobs with
      | nil => simp at hjob
      | cons first rest =>
          rw [List.getElem?_cons_succ] at hjob hnext
          rw [startsFrom, List.getElem?_cons_succ] at hstart ⊢
          exact ih hjob hnext hstart

theorem starts_succ {jobs : List Job} {k start : Nat} {job next : Job}
    (hjob : jobs[k]? = some job) (hnext : jobs[k + 1]? = some next)
    (hstart : (starts jobs)[k]? = some start) :
    (starts jobs)[k + 1]? = some (max next.arrival (start + job.service)) :=
  startsFrom_succ hjob hnext hstart

/-- The recursion that determines the start times of a single FIFO server. -/
structure Recursion (jobs : List Job) (starts : List Nat) : Prop where
  length_eq : starts.length = jobs.length
  first : ∀ job, jobs[0]? = some job → starts[0]? = some job.arrival
  next : ∀ k job next start, jobs[k]? = some job → jobs[k + 1]? = some next →
    starts[k]? = some start → starts[k + 1]? = some (max next.arrival (start + job.service))

theorem starts_recursion (jobs : List Job) : Recursion jobs (starts jobs) := by
  refine ⟨length_starts jobs, ?_, fun k job next start => starts_succ⟩
  intro job hjob
  cases jobs with
  | nil => simp at hjob
  | cons first rest =>
      obtain rfl : first = job := by simpa using hjob
      exact starts_head first rest

-- ============================================================================
-- Comparing servers
-- ============================================================================

/-- When a job starts depends on the jobs before it only. -/
theorem starts_getElem? (before after : List Job) (job : Job) :
    (starts (before ++ job :: after))[before.length]? = some (max job.arrival (free before)) := by
  rw [starts_append, List.getElem?_append_right (by rw [length_starts]), length_starts,
    Nat.sub_self]
  rfl

/-- More jobs, or a server that is busy at first, are done no earlier. -/
theorem freeFrom_mono {f f' : Nat} {jobs jobs' : List Job} (h : jobs.Sublist jobs')
    (hf : f ≤ f') : freeFrom f jobs ≤ freeFrom f' jobs' := by
  induction h generalizing f f' with
  | slnil => exact hf
  | cons job _ ih =>
      have hle : f ≤ max job.arrival f' + job.service := by omega
      exact ih hle
  | cons_cons job _ ih =>
      have hle : max job.arrival f + job.service ≤ max job.arrival f' + job.service := by omega
      exact ih hle

theorem free_mono {jobs jobs' : List Job} (h : jobs.Sublist jobs') : free jobs ≤ free jobs' :=
  freeFrom_mono h (le_refl 0)

/-- The job as seen with the clock set back. -/
def Job.delay (base : Nat) (job : Job) : Job := { job with arrival := base + job.arrival }

/-- Jobs that arrive from `base` on find a server that is free by then as at the
    beginning. -/
theorem max_freeFrom_delay {base f g : Nat} (h : max base f = base + g) (jobs : List Job) :
    max base (freeFrom f (jobs.map (Job.delay base))) = base + freeFrom g jobs := by
  induction jobs generalizing f g with
  | nil => exact h
  | cons job rest ih =>
      have hnext : max base (max (base + job.arrival) f + job.service) =
          base + (max job.arrival g + job.service) := by omega
      exact ih hnext

/-- How long a job that arrives from `base` on waits behind such jobs. -/
theorem wait_delay {base f : Nat} (hf : f ≤ base) (jobs : List Job) (arrival : Nat) :
    max (base + arrival) (freeFrom f (jobs.map (Job.delay base))) - (base + arrival) =
      free jobs - arrival := by
  have h : max base (freeFrom f (jobs.map (Job.delay base))) = base + free jobs :=
    max_freeFrom_delay (by omega) jobs
  omega

end Fifo

end DmSimulator
