import Mathlib.Data.List.Infix
import PicoScripts.Base.Text

/-!
# Counting the runs of one configuration

`src/script/flake_all.py:30-109` (`ConfigStats`, `run_flake_test`). `run_flake_test` runs
`make flake` for one platform and transport, counts the lines of its output marked
`✓ PASSED` and `✗ FAILED`, and replaces both counts by the first `Results: p/t passed`
summary when there is one. The record it returns always says ten runs: the counts add up
to it only when the summary's total is ten, or, without a summary, when ten lines are
marked or none. The summary is found with `re.search`; its `\d` is taken as the ASCII
digits here. `int()` converts its groups and raises `ValueError` on one of more than 4300
digits, which the handler of `run_flake_test` records as an error of none passed of ten.
-/

namespace PicoScripts.Flake

/-- `PLATFORMS`. -/
def platforms : List (List Char) :=
  ["arm64".toList, "arm32".toList, "x64".toList, "x32".toList, "rv64".toList, "rv32".toList]

/-- `USE_PCI_OPTIONS`: MMIO, then PCI. -/
def usePciOptions : List Nat := [0, 1]

/-- `"PCI" if use_pci == 1 else "MMIO"`. -/
def transportName (usePci : Nat) : List Char := if usePci = 1 then "PCI".toList else "MMIO".toList

/-- `ConfigStats`. -/
structure ConfigStats where
  platform : List Char
  usePci : Nat
  totalRuns : Int
  passedRuns : Int
  failedRuns : Int
  success : Bool
  deriving DecidableEq, Repr

/-- The three categories of `ConfigStats.status`. -/
inductive Status
  | works
  | flaky
  | broken
  deriving DecidableEq, Repr

namespace ConfigStats

/-- `ConfigStats.config_name`: `platform/transport`. -/
def configName (s : ConfigStats) : List Char := s.platform ++ '/' :: transportName s.usePci

/-- `ConfigStats.status`. -/
def status (s : ConfigStats) : Status :=
  if s.passedRuns = s.totalRuns then .works
  else if 0 < s.passedRuns then .flaky
  else .broken

end ConfigStats

/-! ### Parsing the output of `make flake` -/

/-- The regex class `\d`, over ASCII. -/
def isDigit (c : Char) : Bool := '0' ≤ c && c ≤ '9'

/-- The pattern `Results: (\d+)/(\d+) passed` anchored at the start of `s`, with its two
groups. A shorter match of either `\d+` would leave a digit where `/` or a blank must
follow, so the greedy match is the only one. -/
def matchSummary (s : List Char) : Option (List Char × List Char) :=
  if "Results: ".toList.isPrefixOf s then
    let rest := s.drop 9
    let passed := rest.takeWhile isDigit
    match rest.dropWhile isDigit with
    | '/' :: rest =>
      let total := rest.takeWhile isDigit
      if passed ≠ [] ∧ total ≠ [] ∧ " passed".toList.isPrefixOf (rest.dropWhile isDigit) then
        some (passed, total)
      else none
    | _ => none
  else none

/-- `re.search`: the match at the leftmost position where there is one. -/
def searchSummary : List Char → Option (List Char × List Char)
  | [] => none
  | c :: cs =>
    match matchSummary (c :: cs) with
    | some r => some r
    | none => searchSummary cs

/-- The loop of `flake_all.py:77-81` over the lines of the output. -/
def countMarks (passed failed : Nat) : List (List Char) → Nat × Nat
  | [] => (passed, failed)
  | line :: lines =>
    if "✓ PASSED".toList <:+: line then countMarks (passed + 1) failed lines
    else if "✗ FAILED".toList <:+: line then countMarks passed (failed + 1) lines
    else countMarks passed failed lines

/-- The `ValueError` text of `int()` on a literal of `n` digits past `maxStrDigits`
(CPython 3.12). -/
def digitLimitError (n : Nat) : List Char :=
  "Exceeds the limit (4300 digits) for integer string conversion: value has ".toList ++
    Nat.toDigits 10 n ++ " digits; use sys.set_int_max_str_digits() to increase the limit".toList

/-- `int(group)`. A group holds ASCII digits only, so `int()` raises on it only past the
digit limit. -/
def groupValue (group : List Char) : Except (List Char) Int :=
  match pyInt 10 group with
  | some v => .ok v
  | none => .error (digitLimitError group.length)

/-- The passed and failed counts of `flake_all.py:74-96`, or the text of the `ValueError`
that `int()` raises. -/
def parseRuns (stdout : List Char) : Except (List Char) (Int × Int) :=
  let (passed, failed) := countMarks 0 0 (stdout.splitOn '\n')
  match searchSummary stdout with
  | some (p, t) => do
    let passed ← groupValue p
    let total ← groupValue t
    pure (passed, total - passed)
  | none => .ok (if passed + failed = 0 then (0, 10) else (passed, failed))

/-- How `subprocess.run` came back: with the output and exit code, by `TimeoutExpired`,
or by another exception with its text. -/
inductive MakeResult
  | completed (stdout : List Char) (returncode : Int)
  | timeoutExpired
  | failed (error : List Char)

/-- `run_flake_test(platform, use_pci)`, given how `make flake` came back: the lines it
prints and the record it returns. -/
def runFlakeTest (platform : List Char) (usePci : Nat) (result : MakeResult) :
    List (List Char) × ConfigStats :=
  let name := platform ++ '/' :: transportName usePci
  let started := "\n>>> Testing ".toList ++ name ++ "...".toList
  match result with
  | .completed stdout returncode =>
    match parseRuns stdout with
    | .ok (passed, failed) =>
      let success := returncode == 0
      ([started, "<<< ".toList ++ name ++ ": ".toList ++ (if success then ['✓'] else ['✗']) ++
          ' ' :: (toString passed).toList ++ "/10 passed".toList],
        ⟨platform, usePci, 10, passed, failed, success⟩)
    | .error e =>
      ([started, "<<< ".toList ++ name ++ ": ✗ ERROR: ".toList ++ e],
        ⟨platform, usePci, 10, 0, 10, false⟩)
  | .timeoutExpired =>
    ([started, "<<< ".toList ++ name ++ ": ✗ TIMEOUT".toList], ⟨platform, usePci, 10, 0, 10, false⟩)
  | .failed e =>
    ([started, "<<< ".toList ++ name ++ ": ✗ ERROR: ".toList ++ e],
      ⟨platform, usePci, 10, 0, 10, false⟩)

/-! ### What the record says -/

section Record

variable (platform : List Char) (usePci : Nat) (result : MakeResult)

@[simp] theorem platform_runFlakeTest : (runFlakeTest platform usePci result).2.platform = platform := by
  cases result <;> simp only [runFlakeTest]
  split <;> rfl

@[simp] theorem usePci_runFlakeTest : (runFlakeTest platform usePci result).2.usePci = usePci := by
  cases result <;> simp only [runFlakeTest]
  split <;> rfl

@[simp] theorem totalRuns_runFlakeTest : (runFlakeTest platform usePci result).2.totalRuns = 10 := by
  cases result <;> simp only [runFlakeTest]
  split <;> rfl

/-- The counts of the record: those parsed from the output, or none passed of ten. -/
theorem runs_runFlakeTest :
    ((runFlakeTest platform usePci result).2.passedRuns,
        (runFlakeTest platform usePci result).2.failedRuns) =
      match result with
      | .completed stdout _ =>
        match parseRuns stdout with
        | .ok counts => counts
        | .error _ => (0, 10)
      | _ => (0, 10) := by
  cases result with
  | completed stdout returncode =>
    simp only [runFlakeTest]
    split <;> next h => simp only [h]
  | _ => rfl

end Record

theorem digitValue_lt_of_isDigit {c : Char} (h : isDigit c = true) : digitValue c < 10 := by
  simp only [isDigit, Bool.and_eq_true, decide_eq_true_eq, Char.le_def] at h
  have h1 : 48 ≤ c.toNat := h.1
  have h2 : c.toNat ≤ 57 := h.2
  simp only [digitValue]
  split_ifs <;> omega

/-- The groups of a summary are runs of ASCII digits. -/
theorem digitsOf_searchSummary :
    ∀ {s p t : List Char}, searchSummary s = some (p, t) → DigitsOf 10 p ∧ DigitsOf 10 t
  | [], _, _, h => by cases h
  | c :: cs, p, t, h => by
    simp only [searchSummary] at h
    split at h
    · next r hm =>
      cases h
      simp only [matchSummary] at hm
      split_ifs at hm
      split at hm
      · split_ifs at hm
        cases hm
        exact ⟨fun x hx => digitValue_lt_of_isDigit (List.mem_takeWhile_imp hx),
          fun x hx => digitValue_lt_of_isDigit (List.mem_takeWhile_imp hx)⟩
      · cases hm
    · exact digitsOf_searchSummary h

/-- The output adds up to ten runs: its first summary reads `p/10` with `p ≤ 10` where
`int()` converts both groups, or it has no summary and ten lines or none are marked. -/
def TenRuns (stdout : List Char) : Prop :=
  match searchSummary stdout with
  | some (p, t) =>
    match pyInt 10 p, pyInt 10 t with
    | some passed, some total => total = 10 ∧ passed ≤ 10
    | _, _ => True
  | none =>
    let marks := countMarks 0 0 (stdout.splitOn '\n')
    marks.1 + marks.2 = 0 ∨ marks.1 + marks.2 = 10

instance : DecidablePred TenRuns := fun stdout => by
  unfold TenRuns
  split
  · split <;> exact inferInstance
  · exact inferInstance

/-- Over output that adds up to ten runs, parsed counts add up to ten and the passed count
lies in `[0, 10]`. -/
theorem parseRuns_of_tenRuns {stdout : List Char} (h : TenRuns stdout) {passed failed : Int}
    (hp : parseRuns stdout = .ok (passed, failed)) :
    passed + failed = 10 ∧ 0 ≤ passed ∧ passed ≤ 10 := by
  unfold TenRuns at h
  unfold parseRuns at hp
  split at h
  · next p t hs =>
    have hd := digitsOf_searchSummary hs
    simp only [hs, groupValue] at hp
    split at h
    · next v u hv hu =>
      simp only [hv, hu] at hp
      cases hp
      have := nonneg_of_pyInt (by decide) hd.1 hv
      omega
    · next hn =>
      split at hp <;> split at hp <;>
        first | exact (hn _ _ (by assumption) (by assumption)).elim | cases hp
  · next hs =>
    simp only [hs] at hp
    split_ifs at hp <;> cases hp <;> omega

/-- A record whose output adds up to ten runs has counts that add up to ten, with the
passed count in `[0, 10]`. -/
theorem runs_runFlakeTest_of_tenRuns (platform : List Char) (usePci : Nat) {result : MakeResult}
    (h : ∀ stdout returncode, result = .completed stdout returncode → TenRuns stdout) :
    (runFlakeTest platform usePci result).2.passedRuns +
        (runFlakeTest platform usePci result).2.failedRuns = 10 ∧
      0 ≤ (runFlakeTest platform usePci result).2.passedRuns ∧
      (runFlakeTest platform usePci result).2.passedRuns ≤ 10 := by
  have hr := runs_runFlakeTest platform usePci result
  simp only [Prod.ext_iff] at hr
  rw [hr.1, hr.2]
  cases result with
  | completed stdout returncode =>
    simp only
    split
    · next counts hp => exact parseRuns_of_tenRuns (h stdout returncode rfl) hp
    · omega
  | _ => simp only; omega

/-- When every completed run's output adds up to ten runs, the record's counts add up to
its total, the passed count lies between zero and the total, and a configuration that
`works` had no failed run. -/
theorem runFlakeTest_counts_add_up (platform : List Char) (usePci : Nat) (result : MakeResult)
    (h : ∀ stdout returncode, result = .completed stdout returncode → TenRuns stdout) :
    let s := (runFlakeTest platform usePci result).2
    s.passedRuns + s.failedRuns = s.totalRuns ∧ 0 ≤ s.passedRuns ∧
      s.passedRuns ≤ s.totalRuns ∧ (s.status = .works → s.failedRuns = 0) := by
  have hc := runs_runFlakeTest_of_tenRuns platform usePci h
  simp only [totalRuns_runFlakeTest, ConfigStats.status]
  refine ⟨hc.1, hc.2.1, hc.2.2, fun hw => ?_⟩
  split_ifs at hw with hp
  omega

/-- `make flake` printing `Results: 8/10 passed` and exiting with status 2. -/
theorem runFlakeTest_counts_add_up_eight :
    let s := (runFlakeTest "rv64".toList 1
      (.completed "=== Results: 8/10 passed ===".toList 2)).2
    s.passedRuns + s.failedRuns = s.totalRuns ∧ 0 ≤ s.passedRuns ∧
      s.passedRuns ≤ s.totalRuns ∧ (s.status = .works → s.failedRuns = 0) :=
  runFlakeTest_counts_add_up "rv64".toList 1 _ fun _ _ h => by cases h; decide

/-- A summary `Results: 10/11 passed` gives a record of ten passed and one failed out of
ten runs, which `works`. -/
theorem runFlakeTest_works_with_failed_run :
    (runFlakeTest "rv64".toList 0 (.completed "=== Results: 10/11 passed ===".toList 2)).2 =
      ⟨"rv64".toList, 0, 10, 10, 1, false⟩ ∧
    (⟨"rv64".toList, 0, 10, 10, 1, false⟩ : ConfigStats).status = .works := by
  decide

end PicoScripts.Flake
