import Mathlib.Data.Char
import Mathlib.Data.List.Lex
import Mathlib.Data.Prod.Lex
import PicoScripts.Flake.Stats

/-!
# The summary of all configurations

`src/script/flake_all.py:25-27,112-191` (`main`). `main` submits `run_flake_test` for the
twelve configurations to a pool of `MAX_PARALLEL` threads and collects the records in the
order the runs complete, which nothing controls. It prints each category's
configurations sorted by platform and transport, and exits with `1` when a configuration
is flaky or broken. The sort key tells any two configurations apart, so the summary and
the exit status are the same for every completion order. The lines the workers print
while the runs go on interleave as the threads run and are not part of `main` here.
-/

namespace PicoScripts.Flake

/-- `MAX_PARALLEL`. -/
def maxParallel : Nat := 4

/-- The twelve `(platform, use_pci)` tasks, in the order `main` submits them. -/
def tasks : List (List Char × Nat) :=
  platforms.flatMap fun platform => usePciOptions.map fun usePci => (platform, usePci)

/-- The sort key `(x.platform, x.use_pci)`, ordered as Python orders tuples. -/
def sortKey (s : ConfigStats) : Lex (List Char × Nat) := toLex (s.platform, s.usePci)

/-- `sorted(stats, key=lambda x: (x.platform, x.use_pci))`: a stable sort by the key. -/
def sortedByConfig (stats : List ConfigStats) : List ConfigStats :=
  stats.mergeSort fun a b => sortKey a ≤ sortKey b

/-- `"=" * 70`. -/
def rule : List Char := List.replicate 70 '='

/-- A number as `print` shows it. -/
def decimal (n : Nat) : List Char := Nat.toDigits 10 n

/-- The banner `main` prints before it submits the runs (`flake_all.py:114-121`). -/
def banner : List (List Char) :=
  [rule, "FLAKE TEST - ALL CONFIGURATIONS".toList, rule,
    "Configurations: ".toList ++ decimal platforms.length ++ " platforms × ".toList ++
      decimal usePciOptions.length ++ " transports = 12 total".toList,
    "Runs per config: 10".toList,
    "Total tests: ".toList ++ decimal (platforms.length * usePciOptions.length * 10),
    "Parallelism: ".toList ++ decimal maxParallel ++ " simultaneous configs".toList, rule]

/-- One category of the summary (`flake_all.py:159-178`): its heading with the count, then
its configurations in key order, or `(none)`. -/
def categoryLines (heading : Nat → List Char) (item : ConfigStats → List Char)
    (stats : List ConfigStats) : List (List Char) :=
  heading stats.length ::
    if stats = [] then ["  (none)".toList] else (sortedByConfig stats).map item

/-- The configurations of one category. -/
def inCategory (status : Status) (allStats : List ConfigStats) : List ConfigStats :=
  allStats.filter (·.status = status)

/-- What `main` prints once every run has completed (`flake_all.py:150-185`). -/
def summary (allStats : List ConfigStats) : List (List Char) :=
  let works := inCategory .works allStats
  let flaky := inCategory .flaky allStats
  let broken := inCategory .broken allStats
  ['\n' :: rule, "SUMMARY".toList, rule] ++
    categoryLines (fun n => "\n✓ WORKS (".toList ++ decimal n ++
        " configurations - all 10 runs pass):".toList)
      (fun s => "  - ".toList ++ s.configName) works ++
    categoryLines (fun n => "\n⚠ FLAKY (".toList ++ decimal n ++
        " configurations - some runs pass):".toList)
      (fun s => "  - ".toList ++ s.configName ++ ": ".toList ++ (toString s.passedRuns).toList ++
        '/' :: (toString s.totalRuns).toList ++ " passed".toList) flaky ++
    categoryLines (fun n => "\n✗ BROKEN (".toList ++ decimal n ++
        " configurations - no runs pass):".toList)
      (fun s => "  - ".toList ++ s.configName) broken ++
    ['\n' :: rule, "Total: ".toList ++ decimal allStats.length ++ " configurations tested".toList,
      "  Works: ".toList ++ decimal works.length, "  Flaky: ".toList ++ decimal flaky.length,
      "  Broken: ".toList ++ decimal broken.length, rule]

/-- The status `main` exits with (`flake_all.py:188-191`). -/
def exitStatus (allStats : List ConfigStats) : Nat :=
  if inCategory .broken allStats ≠ [] ∨ inCategory .flaky allStats ≠ [] then 1 else 0

/-- `main()`, from the records in the order the runs completed: what its own thread prints,
and the exit status. -/
def main (allStats : List ConfigStats) : List (List Char) × Nat :=
  (banner ++ summary allStats, exitStatus allStats)

/-! ### Independence of the completion order -/

section Order

variable {l₁ l₂ : List ConfigStats}

/-- Sorting puts any two orders of records with distinct keys in the same order. -/
theorem sortedByConfig_eq_of_perm (h : l₁.Perm l₂)
    (hk : ∀ a ∈ l₁, ∀ b ∈ l₁, sortKey a = sortKey b → a = b) :
    sortedByConfig l₁ = sortedByConfig l₂ := by
  have hs : ∀ l : List ConfigStats, (sortedByConfig l).Pairwise
      fun a b => decide (sortKey a ≤ sortKey b) = true :=
    List.sorted_mergeSort (fun a b c hab hbc => by simp only [decide_eq_true_eq] at *; exact le_trans hab hbc)
      fun a b => by simpa using le_total (sortKey a) (sortKey b)
  refine List.Perm.eq_of_sorted (fun a b ha hb hab hba => ?_) (hs l₁) (hs l₂)
    ((List.mergeSort_perm _ _).trans (h.trans (List.mergeSort_perm _ _).symm))
  simp only [sortedByConfig, List.mem_mergeSort, decide_eq_true_eq] at ha hb hab hba
  exact hk a ha b (h.mem_iff.mpr hb) (le_antisymm hab hba)

/-- Every category lists the same lines in any two orders of records with distinct keys. -/
theorem categoryLines_inCategory_of_perm (h : l₁.Perm l₂)
    (hk : ∀ a ∈ l₁, ∀ b ∈ l₁, sortKey a = sortKey b → a = b) (status : Status)
    (heading : Nat → List Char) (item : ConfigStats → List Char) :
    categoryLines heading item (inCategory status l₁) =
      categoryLines heading item (inCategory status l₂) := by
  have hc : (inCategory status l₁).Perm (inCategory status l₂) := h.filter _
  have hk' : ∀ a ∈ inCategory status l₁, ∀ b ∈ inCategory status l₁,
      sortKey a = sortKey b → a = b := fun a ha b hb =>
    hk a (List.mem_of_mem_filter ha) b (List.mem_of_mem_filter hb)
  simp only [categoryLines, ← List.length_eq_zero, hc.length_eq, sortedByConfig_eq_of_perm hc hk']

/-- `main` prints the same lines and exits with the same status for any two orders of
records with distinct keys. -/
theorem main_eq_of_perm (h : l₁.Perm l₂)
    (hk : ∀ a ∈ l₁, ∀ b ∈ l₁, sortKey a = sortKey b → a = b) : main l₁ = main l₂ := by
  have hl : ∀ status, (inCategory status l₁).length = (inCategory status l₂).length :=
    fun status => (h.filter _).length_eq
  simp only [main, summary, exitStatus, categoryLines_inCategory_of_perm h hk, hl, h.length_eq, ne_eq,
    ← List.length_eq_zero]

end Order

/-- However the twelve runs complete, `main` prints the same summary and exits with the
same status as if they had completed in the order they were submitted. -/
theorem main_independent_of_completion_order (results : List Char × Nat → MakeResult)
    {order : List (List Char × Nat)} (h : order.Perm tasks) :
    main (order.map fun t => (runFlakeTest t.1 t.2 (results t)).2) =
      main (tasks.map fun t => (runFlakeTest t.1 t.2 (results t)).2) := by
  refine main_eq_of_perm (h.map _) fun a ha b hb hab => ?_
  obtain ⟨t, -, rfl⟩ := List.mem_map.mp ha
  obtain ⟨u, -, rfl⟩ := List.mem_map.mp hb
  simp only [sortKey, toLex_inj, platform_runFlakeTest, usePci_runFlakeTest, Prod.mk.eta] at hab
  rw [hab]

/-- Every configuration's `make flake` times out; the runs complete in reverse order. -/
theorem main_independent_of_completion_order_reversed :
    main (tasks.reverse.map fun t => (runFlakeTest t.1 t.2 MakeResult.timeoutExpired).2) =
      main (tasks.map fun t => (runFlakeTest t.1 t.2 MakeResult.timeoutExpired).2) :=
  main_independent_of_completion_order (fun _ => .timeoutExpired) (List.reverse_perm tasks)

/-- `main` exits with `0` exactly when every configuration works. -/
theorem exitStatus_eq_zero_iff (allStats : List ConfigStats) :
    exitStatus allStats = 0 ↔ ∀ s ∈ allStats, s.status = .works := by
  simp only [exitStatus, inCategory, ite_eq_right_iff, Nat.one_ne_zero, imp_false, not_or, not_not,
    List.filter_eq_nil_iff, decide_eq_true_eq]
  constructor
  · rintro ⟨hb, hf⟩ s hs
    cases h : s.status with
    | works => rfl
    | flaky => exact absurd h (hf s hs)
    | broken => exact absurd h (hb s hs)
  · intro hw
    exact ⟨fun s hs h => absurd ((hw s hs).symm.trans h) (by decide),
      fun s hs h => absurd ((hw s hs).symm.trans h) (by decide)⟩

/-- When every completed run's output adds up to ten runs, `main` exits with `0` only if
every configuration passed ten runs and failed none, whatever the completion order. -/
theorem main_exit_zero_no_failed_run (results : List Char × Nat → MakeResult)
    {order : List (List Char × Nat)} (h : order.Perm tasks)
    (hten : ∀ t ∈ tasks, ∀ stdout returncode, results t = .completed stdout returncode →
      TenRuns stdout)
    (h0 : (main (order.map fun t => (runFlakeTest t.1 t.2 (results t)).2)).2 = 0) :
    ∀ t ∈ tasks, (runFlakeTest t.1 t.2 (results t)).2.passedRuns = 10 ∧
      (runFlakeTest t.1 t.2 (results t)).2.failedRuns = 0 := by
  intro t ht
  have hw := (exitStatus_eq_zero_iff _).mp h0 _ (List.mem_map_of_mem _ (h.mem_iff.mpr ht))
  have hc := runs_runFlakeTest_of_tenRuns t.1 t.2 (hten t ht)
  simp only [ConfigStats.status, totalRuns_runFlakeTest] at hw
  split_ifs at hw with hp
  omega

/-- Every configuration's `make flake` prints `Results: 10/10 passed`; the runs complete in
reverse order; the record of `rv64/PCI`. -/
theorem main_exit_zero_no_failed_run_all_pass :
    (runFlakeTest "rv64".toList 1
        (.completed "=== Results: 10/10 passed ===".toList 0)).2.passedRuns = 10 ∧
      (runFlakeTest "rv64".toList 1
        (.completed "=== Results: 10/10 passed ===".toList 0)).2.failedRuns = 0 :=
  main_exit_zero_no_failed_run (fun _ => .completed "=== Results: 10/10 passed ===".toList 0)
    (List.reverse_perm tasks) (fun _ _ _ _ h => by cases h; decide) (by decide)
    ("rv64".toList, 1) (by decide)

end PicoScripts.Flake
