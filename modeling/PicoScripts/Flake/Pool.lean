import PicoScripts.Flake.Summary

/-!
# The thread pool of `main`

`src/script/flake_all.py:123-147`. `main` submits the twelve runs to a
`ThreadPoolExecutor(max_workers=MAX_PARALLEL)` and appends each record to `all_stats` as
`as_completed` yields its future. The pool is CPython's `concurrent/futures/thread.py`:
`submit` puts a work item on a first-in first-out queue and calls `_adjust_thread_count`,
which takes a count of the idle semaphore if it can and otherwise starts a thread while
there are fewer than `max_workers`. Each thread waits for the next item, runs it, which
sets its future's result, releases the idle semaphore and waits again. `as_completed`
yields each future once, after it is done, in no fixed order. `run_flake_test` catches
every `Exception`, so `future.result()` never raises and the handler of line 144 is not
reached.

`Pool` and `poolStep` give every interleaving of `main`'s submissions and collections with
the threads' steps. Over every run from the start:

* at most `MAX_PARALLEL` configurations run at once, the ones taken from the queue are the
  first ones submitted, and every configuration is in exactly one stage, from not yet
  submitted to collected, so none is lost or run twice (`run_pool_invariant`);
* every run stops after at most five events per configuration (`run_pool_length_le`);
* a run stops only when `all_stats` holds the twelve records, and `main` then prints the
  summary, and exits with the status, of the records in submission order
  (`main_of_run_pool`).
-/

namespace PicoScripts.Flake

/-- The record `future.result()` gives for a configuration: what `run_flake_test` returns,
given how `make flake` came back for it. -/
def taskStats (results : List Char × Nat → MakeResult) (t : List Char × Nat) : ConfigStats :=
  (runFlakeTest t.1 t.2 (results t)).2

/-- The executor with `main`'s loop: the configurations not yet submitted, the work queue,
the configurations the threads run, the records done and not yet yielded, `all_stats`,
the threads started, those waiting for an item, those between running an item and
releasing the idle semaphore, and the semaphore's count. -/
structure Pool where
  toSubmit : List (List Char × Nat)
  queue : List (List Char × Nat)
  running : List (List Char × Nat)
  finished : List ConfigStats
  collected : List ConfigStats
  threads : Nat
  waiting : Nat
  returning : Nat
  idle : Nat

/-- The executor `main` creates, before its first `submit`. -/
def Pool.init : Pool := ⟨tasks, [], [], [], [], 0, 0, 0, 0⟩

/-- What can happen next. -/
inductive PoolEvent
  /-- `main` submits the next configuration. -/
  | submit
  /-- A waiting thread takes the next work item. -/
  | take
  /-- `run_flake_test` returns for the configuration; its future is done. -/
  | complete (t : List Char × Nat)
  /-- A thread releases the idle semaphore and waits for the next item. -/
  | release
  /-- `as_completed` yields a done future and `main` appends its record. -/
  | collect (s : ConfigStats)

/-- `_adjust_thread_count`: take a count of the idle semaphore, else start a thread, which
waits for an item, while there are fewer than `max_workers`. -/
def adjustThreadCount (p : Pool) : Pool :=
  if 0 < p.idle then { p with idle := p.idle - 1 }
  else if p.threads < maxParallel then { p with threads := p.threads + 1, waiting := p.waiting + 1 }
  else p

/-- One event, or `none` where it cannot happen: `main` collects only once the dictionary of
futures is built, after the last `submit`. -/
def poolStep (results : List Char × Nat → MakeResult) (p : Pool) : PoolEvent → Option Pool
  | .submit =>
    match p.toSubmit with
    | t :: rest => some (adjustThreadCount { p with toSubmit := rest, queue := p.queue ++ [t] })
    | [] => none
  | .take =>
    match p.queue with
    | t :: rest =>
      if 0 < p.waiting then
        some { p with queue := rest, running := p.running ++ [t], waiting := p.waiting - 1 }
      else none
    | [] => none
  | .complete t =>
    if t ∈ p.running then
      some { p with
        running := p.running.erase t, returning := p.returning + 1,
        finished := p.finished ++ [taskStats results t] }
    else none
  | .release =>
    if 0 < p.returning then
      some { p with returning := p.returning - 1, waiting := p.waiting + 1, idle := p.idle + 1 }
    else none
  | .collect s =>
    if p.toSubmit = [] ∧ s ∈ p.finished then
      some { p with finished := p.finished.erase s, collected := p.collected ++ [s] }
    else none

/-- The pool after the events, or `none` where one of them cannot happen. -/
def runPool (results : List Char × Nat → MakeResult) : Pool → List PoolEvent → Option Pool
  | p, [] => some p
  | p, e :: es => (poolStep results p e).bind fun p' => runPool results p' es

section AdjustThreadCount

variable (p : Pool)

@[simp] theorem adjustThreadCount_toSubmit : (adjustThreadCount p).toSubmit = p.toSubmit := by
  unfold adjustThreadCount; split_ifs <;> rfl

@[simp] theorem adjustThreadCount_queue : (adjustThreadCount p).queue = p.queue := by
  unfold adjustThreadCount; split_ifs <;> rfl

@[simp] theorem adjustThreadCount_running : (adjustThreadCount p).running = p.running := by
  unfold adjustThreadCount; split_ifs <;> rfl

@[simp] theorem adjustThreadCount_finished : (adjustThreadCount p).finished = p.finished := by
  unfold adjustThreadCount; split_ifs <;> rfl

@[simp] theorem adjustThreadCount_collected : (adjustThreadCount p).collected = p.collected := by
  unfold adjustThreadCount; split_ifs <;> rfl

@[simp] theorem adjustThreadCount_returning : (adjustThreadCount p).returning = p.returning := by
  unfold adjustThreadCount; split_ifs <;> rfl

/-- It starts a thread, which waits for an item, exactly when the semaphore has no count
and fewer than `max_workers` threads are started. -/
theorem adjustThreadCount_threads :
    (adjustThreadCount p).threads =
        p.threads + (if p.idle = 0 ∧ p.threads < maxParallel then 1 else 0) ∧
      (adjustThreadCount p).waiting =
        p.waiting + (if p.idle = 0 ∧ p.threads < maxParallel then 1 else 0) := by
  unfold adjustThreadCount
  by_cases hi : 0 < p.idle
  · simp [hi, Nat.pos_iff_ne_zero.mp hi]
  · by_cases ht : p.threads < maxParallel <;> simp [hi, ht, Nat.eq_zero_of_not_pos hi]

end AdjustThreadCount

/-- What holds at every point of every run of the pool. -/
structure PoolInvariant (results : List Char × Nat → MakeResult) (p : Pool) : Prop where
  /-- Each thread runs a configuration, is between running an item and the release of the
  idle semaphore, or waits for an item. -/
  threads_eq : p.threads = p.running.length + p.returning + p.waiting
  /-- No more than `max_workers` threads are started. -/
  threads_le : p.threads ≤ maxParallel
  /-- The configurations taken from the queue are the first ones submitted; each of them is,
  once, running or done, and the records finished and collected are those of the ones
  done. -/
  stages : ∃ started done : List (List Char × Nat), started ++ p.queue ++ p.toSubmit = tasks ∧
    (done ++ p.running).Perm started ∧
    (p.collected ++ p.finished).Perm (done.map (taskStats results))
  /-- No item is queued, and the semaphore has no count, before a thread is started. -/
  thread_started : 0 < p.threads ∨ (p.idle = 0 ∧ p.queue = [])

theorem poolInvariant_init (results : List Char × Nat → MakeResult) :
    PoolInvariant results Pool.init :=
  ⟨rfl, by decide, ⟨[], [], rfl, .rfl, .rfl⟩, .inr ⟨rfl, rfl⟩⟩

private theorem perm_cons_erase_of_lawful {α : Type} [BEq α] [LawfulBEq α] {a : α} {l : List α}
    (h : a ∈ l) : l.Perm (a :: l.erase a) :=
  let ⟨_, _, _, e₁, e₂⟩ := List.exists_erase_eq h
  e₂ ▸ e₁ ▸ List.perm_middle

section Step

variable {results : List Char × Nat → MakeResult} {p p' : Pool}

/-- What each event does, where it can happen. -/
theorem poolStep_cases {e : PoolEvent} (h : poolStep results p e = some p') :
    (∃ t rest, e = .submit ∧ p.toSubmit = t :: rest ∧
      p' = adjustThreadCount { p with toSubmit := rest, queue := p.queue ++ [t] }) ∨
    (∃ t rest, e = .take ∧ p.queue = t :: rest ∧ 0 < p.waiting ∧
      p' = { p with queue := rest, running := p.running ++ [t], waiting := p.waiting - 1 }) ∨
    (∃ t, e = .complete t ∧ t ∈ p.running ∧
      p' = { p with
        running := p.running.erase t, returning := p.returning + 1,
        finished := p.finished ++ [taskStats results t] }) ∨
    (e = .release ∧ 0 < p.returning ∧
      p' = { p with returning := p.returning - 1, waiting := p.waiting + 1, idle := p.idle + 1 }) ∨
    (∃ s, e = .collect s ∧ p.toSubmit = [] ∧ s ∈ p.finished ∧
      p' = { p with finished := p.finished.erase s, collected := p.collected ++ [s] }) := by
  cases e with
  | submit =>
    simp only [poolStep] at h
    split at h
    · next t rest ht => exact .inl ⟨t, rest, rfl, ht, (Option.some.inj h).symm⟩
    · cases h
  | take =>
    simp only [poolStep] at h
    split at h
    · next t rest hq =>
      split_ifs at h with hw
      exact .inr (.inl ⟨t, rest, rfl, hq, hw, (Option.some.inj h).symm⟩)
    · cases h
  | complete t =>
    simp only [poolStep] at h
    split_ifs at h with hr
    exact .inr (.inr (.inl ⟨t, rfl, hr, (Option.some.inj h).symm⟩))
  | release =>
    simp only [poolStep] at h
    split_ifs at h with hr
    exact .inr (.inr (.inr (.inl ⟨rfl, hr, (Option.some.inj h).symm⟩)))
  | collect s =>
    simp only [poolStep] at h
    split_ifs at h with hf
    exact .inr (.inr (.inr (.inr ⟨s, rfl, hf.1, hf.2, (Option.some.inj h).symm⟩)))

/-- Every event keeps the invariant. -/
theorem poolInvariant_step (hi : PoolInvariant results p) {e : PoolEvent}
    (h : poolStep results p e = some p') : PoolInvariant results p' := by
  obtain ⟨heq, hle, ⟨started, done, hs, hd, hc⟩, hth⟩ := hi
  rcases poolStep_cases h with ⟨t, rest, -, ht, rfl⟩ | ⟨t, rest, -, hq, hw, rfl⟩ |
    ⟨t, -, hr, rfl⟩ | ⟨-, hr, rfl⟩ | ⟨s, -, -, hf, rfl⟩
  · -- submit: the item joins the queue, and a thread may start
    obtain ⟨h1, h2⟩ := adjustThreadCount_threads { p with toSubmit := rest, queue := p.queue ++ [t] }
    dsimp only at h1 h2
    refine ⟨?_, ?_, ⟨started, done, ?_, ?_, ?_⟩, .inl ?_⟩
    · simp only [adjustThreadCount_running, adjustThreadCount_returning, h1, h2]; omega
    · rw [h1]; split_ifs with hk <;> omega
    · simpa [← ht] using hs
    · simpa using hd
    · simpa using hc
    · rw [h1]
      rcases hth with hth | ⟨hidle, -⟩
      · omega
      · by_cases h0 : p.threads = 0
        · simp [hidle, h0, maxParallel]
        · omega
  · -- take: the head of the queue starts running
    refine ⟨?_, ?_, ⟨started ++ [t], done, ?_, ?_, hc⟩, .inl (by dsimp only; omega)⟩
    · simp only [List.length_append, List.length_singleton]; omega
    · simpa using hle
    · simpa [hq] using hs
    · simpa [← List.append_assoc] using hd.append_right [t]
  · -- complete: the configuration is done and its record finished
    have hlen := List.length_erase_of_mem hr
    have hpos := List.length_pos_of_mem hr
    refine ⟨?_, hle, ⟨started, t :: done, hs, ?_, ?_⟩, .inl (by dsimp only; omega)⟩
    · dsimp only; omega
    · simpa only [List.cons_append] using
        (List.perm_middle.symm.trans ((perm_cons_erase_of_lawful hr).symm.append_left done)).trans hd
    · simpa [← List.append_assoc] using
        (List.perm_append_singleton _ _).trans (hc.cons (taskStats results t))
  · -- release: the thread waits again
    exact ⟨by dsimp only; omega, hle, ⟨started, done, hs, hd, hc⟩, .inl (by dsimp only; omega)⟩
  · -- collect: the record moves to `all_stats`
    refine ⟨heq, hle, ⟨started, done, hs, hd, ?_⟩, hth⟩
    simpa [List.append_assoc] using
      ((List.perm_cons_erase hf).symm.append_left p.collected).trans hc

/-- A bound on the events left: five for a configuration not yet submitted, four once
queued, three once running, one once done and not yet collected, and one for a thread
still to release the idle semaphore. -/
def Pool.budget (p : Pool) : Nat :=
  5 * p.toSubmit.length + 4 * p.queue.length + 3 * p.running.length + p.returning +
    p.finished.length

/-- Every event spends some of the budget. -/
theorem budget_step {e : PoolEvent} (h : poolStep results p e = some p') : p'.budget < p.budget := by
  rcases poolStep_cases h with ⟨t, rest, -, ht, rfl⟩ | ⟨t, rest, -, hq, -, rfl⟩ |
    ⟨t, -, hr, rfl⟩ | ⟨-, hr, rfl⟩ | ⟨s, -, -, hf, rfl⟩
  · simp only [Pool.budget, adjustThreadCount_toSubmit, adjustThreadCount_queue,
      adjustThreadCount_running, adjustThreadCount_returning, adjustThreadCount_finished, ht,
      List.length_cons, List.length_append, List.length_singleton, List.length_nil]
    omega
  · simp only [Pool.budget, hq, List.length_cons, List.length_append, List.length_singleton,
      List.length_nil]
    omega
  · have := List.length_pos_of_mem hr
    simp only [Pool.budget, List.length_erase_of_mem hr, List.length_append, List.length_singleton]
    omega
  · simp only [Pool.budget]
    omega
  · have := List.length_pos_of_mem hf
    simp only [Pool.budget, List.length_erase_of_mem hf, List.length_append, List.length_singleton]
    omega

/-- A pool that keeps the invariant and has not collected every record can take a step. -/
theorem poolStep_progress (hi : PoolInvariant results p)
    (hlt : p.collected.length < tasks.length) : ∃ e, (poolStep results p e).isSome := by
  obtain ⟨heq, -, ⟨started, done, hs, hd, hc⟩, hth⟩ := hi
  cases ht : p.toSubmit with
  | cons t rest => exact ⟨.submit, by simp [poolStep, ht]⟩
  | nil =>
  cases hf : p.finished with
  | cons s rest => exact ⟨.collect s, by simp [poolStep, ht, hf]⟩
  | nil =>
  cases hr : p.running with
  | cons t rest => exact ⟨.complete t, by simp [poolStep, hr]⟩
  | nil =>
  by_cases hret : 0 < p.returning
  · exact ⟨.release, by simp [poolStep, hret]⟩
  cases hq : p.queue with
  | cons t rest =>
    have hw : 0 < p.waiting := by
      rcases hth with hth | ⟨-, hq'⟩
      · simp only [hr, List.length_nil] at heq; omega
      · simp [hq] at hq'
    exact ⟨.take, by simp [poolStep, hq, hw]⟩
  | nil =>
    rw [hq, ht, List.append_nil, List.append_nil] at hs
    rw [hr, List.append_nil, hs] at hd
    rw [hf, List.append_nil] at hc
    have := hc.length_eq
    rw [List.length_map, hd.length_eq] at this
    omega

end Step

section Run

variable {results : List Char × Nat → MakeResult} {p p' : Pool} {es : List PoolEvent}

theorem poolInvariant_run (hi : PoolInvariant results p) (h : runPool results p es = some p') :
    PoolInvariant results p' := by
  induction es generalizing p with
  | nil => simp only [runPool, Option.some.injEq] at h; exact h ▸ hi
  | cons e es ih =>
    simp only [runPool, Option.bind_eq_some] at h
    obtain ⟨q, hq, h⟩ := h
    exact ih (poolInvariant_step hi hq) h

theorem budget_run (h : runPool results p es = some p') : es.length + p'.budget ≤ p.budget := by
  induction es generalizing p with
  | nil => simp only [runPool, Option.some.injEq] at h; simp [h]
  | cons e es ih =>
    simp only [runPool, Option.bind_eq_some] at h
    obtain ⟨q, hq, h⟩ := h
    have := ih h
    have := budget_step hq
    simp only [List.length_cons]
    omega

/-- The five stages hold the configurations between them. -/
theorem stage_lengths (hi : PoolInvariant results p) :
    p.collected.length + p.finished.length + p.running.length + p.queue.length +
      p.toSubmit.length = tasks.length := by
  obtain ⟨-, -, ⟨started, done, hs, hd, hc⟩, -⟩ := hi
  have hlen := congrArg List.length hs
  have hcl := hc.length_eq
  have hdl := hd.length_eq
  simp only [List.length_append, List.length_map] at hlen hcl hdl
  omega

/-- When every record is collected, `all_stats` holds each configuration's record once. -/
theorem collected_perm (hi : PoolInvariant results p)
    (hall : p.collected.length = tasks.length) :
    p.collected.Perm (tasks.map (taskStats results)) := by
  have hl := stage_lengths hi
  obtain ⟨-, -, ⟨started, done, hs, hd, hc⟩, -⟩ := hi
  have hq : p.queue = [] := List.eq_nil_of_length_eq_zero (by omega)
  have ht : p.toSubmit = [] := List.eq_nil_of_length_eq_zero (by omega)
  have hr : p.running = [] := List.eq_nil_of_length_eq_zero (by omega)
  have hf : p.finished = [] := List.eq_nil_of_length_eq_zero (by omega)
  rw [hq, ht, List.append_nil, List.append_nil] at hs
  rw [hr, List.append_nil, hs] at hd
  rw [hf, List.append_nil] at hc
  exact hc.trans (hd.map _)

private theorem main_eq_of_perm_tasks {l : List ConfigStats}
    (h : l.Perm (tasks.map (taskStats results))) :
    main l = main (tasks.map (taskStats results)) := by
  refine main_eq_of_perm h fun a ha b hb hab => ?_
  obtain ⟨t, -, rfl⟩ := List.mem_map.mp (h.mem_iff.mp ha)
  obtain ⟨u, -, rfl⟩ := List.mem_map.mp (h.mem_iff.mp hb)
  simp only [sortKey, toLex_inj, taskStats, platform_runFlakeTest, usePci_runFlakeTest,
    Prod.mk.eta] at hab
  rw [hab]

end Run

/-- At every point of every run of the pool: at most `MAX_PARALLEL` configurations run at
once, the ones taken from the queue are the first ones submitted, and every configuration is
in exactly one stage, so that none is lost or run twice. -/
theorem run_pool_invariant {results : List Char × Nat → MakeResult} {es : List PoolEvent}
    {p : Pool} (h : runPool results Pool.init es = some p) :
    p.running.length ≤ maxParallel ∧ PoolInvariant results p := by
  have hi := poolInvariant_run (poolInvariant_init results) h
  exact ⟨by have := hi.threads_eq; have := hi.threads_le; omega, hi⟩

/-- The pool after the first configuration is submitted and taken by the thread started
for it. -/
def Pool.firstTaken : Pool := ⟨tasks.tail, [], [("arm64".toList, 0)], [], [], 1, 0, 0, 0⟩

/-- After `submit` and `take`, `arm64/MMIO` runs on the one thread started. -/
theorem run_pool_invariant_first :
    runPool (fun _ => .timeoutExpired) Pool.init [.submit, .take] = some Pool.firstTaken ∧
      (Pool.firstTaken.running.length ≤ maxParallel ∧
        PoolInvariant (fun _ => .timeoutExpired) Pool.firstTaken) :=
  have h : runPool (fun _ => .timeoutExpired) Pool.init [.submit, .take] =
      some Pool.firstTaken := rfl
  ⟨h, run_pool_invariant h⟩

/-- Every run of the pool stops after at most five events per configuration. -/
theorem run_pool_length_le {results : List Char × Nat → MakeResult} {es : List PoolEvent}
    {p : Pool} (h : runPool results Pool.init es = some p) : es.length ≤ 5 * tasks.length := by
  have := budget_run h
  simp only [Pool.budget, Pool.init, List.length_nil] at this
  omega

/-- Two events: `submit` and `take`. -/
theorem run_pool_length_le_first :
    runPool (fun _ => .timeoutExpired) Pool.init [.submit, .take] = some Pool.firstTaken ∧
      [PoolEvent.submit, .take].length ≤ 5 * tasks.length :=
  have h : runPool (fun _ => .timeoutExpired) Pool.init [.submit, .take] =
      some Pool.firstTaken := rfl
  ⟨h, run_pool_length_le h⟩

/-- A run of the pool stops only when `all_stats` holds the twelve records, and `main` then
prints the summary, and exits with the status, of the records in submission order. -/
theorem main_of_run_pool {results : List Char × Nat → MakeResult} {es : List PoolEvent}
    {p : Pool} (h : runPool results Pool.init es = some p)
    (hstop : ∀ e, poolStep results p e = none) :
    p.collected.length = tasks.length ∧ main p.collected = main (tasks.map (taskStats results)) := by
  have hi := poolInvariant_run (poolInvariant_init results) h
  have hall : p.collected.length = tasks.length := by
    by_contra hne
    have := stage_lengths hi
    obtain ⟨e, he⟩ := poolStep_progress hi (by omega)
    simp [hstop e] at he
  exact ⟨hall, main_eq_of_perm_tasks (collected_perm hi hall)⟩

/-- A whole run: `main` submits the twelve configurations, which start four threads; the
threads run them one after another in submission order; `main` collects them in that order. -/
def sequentialRun (results : List Char × Nat → MakeResult) : List PoolEvent :=
  List.replicate tasks.length .submit ++
    (tasks.flatMap fun t => [.take, .complete t, .release]) ++
    tasks.map fun t => .collect (taskStats results t)

/-- The pool at the end of `sequentialRun`. -/
def Pool.allCollected (results : List Char × Nat → MakeResult) : Pool :=
  ⟨[], [], [], [], tasks.map (taskStats results), 4, 4, 0, 12⟩

/-- Every `make flake` times out; the sequential schedule ends with all twelve records. -/
theorem main_of_run_pool_sequential :
    runPool (fun _ => .timeoutExpired) Pool.init (sequentialRun fun _ => .timeoutExpired) =
        some (Pool.allCollected fun _ => .timeoutExpired) ∧
      (∀ e, poolStep (fun _ => .timeoutExpired) (Pool.allCollected fun _ => .timeoutExpired) e =
        none) ∧
      ((Pool.allCollected fun _ => .timeoutExpired).collected.length = tasks.length ∧
        main (Pool.allCollected fun _ => .timeoutExpired).collected =
          main (tasks.map (taskStats fun _ => .timeoutExpired))) :=
  have h : runPool (fun _ => .timeoutExpired) Pool.init (sequentialRun fun _ => .timeoutExpired) =
      some (Pool.allCollected fun _ => .timeoutExpired) := rfl
  have hstop : ∀ e, poolStep (fun _ => .timeoutExpired)
      (Pool.allCollected fun _ => .timeoutExpired) e = none := fun e => by
    cases e <;> simp [poolStep, Pool.allCollected]
  ⟨h, hstop, main_of_run_pool h hstop⟩

end PicoScripts.Flake
